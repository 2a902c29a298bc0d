/-
  Blanks at the ends of a text, and other characters that are taken off there.

  * `strip p t`: the text without the characters of a class at its ends, of which the trimmed form
    is one case;
  * `Bare t`: the text begins and ends with no blank;
  * `exists_trim`: a text is its trimmed form with blanks around it, and nothing else is its
    trimmed form (`trim_around`).
-/
import Mathlib.Data.List.Basic
import Mathlib.Data.List.TakeWhile
import Stencil.Text

namespace Stencil.Text

/-! ## Characters at the ends -/

/-- The text without the characters of a class at its ends. -/
def strip (p : Char → Bool) (t : Text) : Text := ((t.dropWhile p).reverse.dropWhile p).reverse

section
variable {p : Char → Bool}

theorem exists_strip (p : Char → Bool) (t : Text) : ∃ leading trailing,
    t = leading ++ (strip p t ++ trailing) ∧ (∀ c ∈ leading, p c = true) ∧
      ∀ c ∈ trailing, p c = true := by
  refine ⟨t.takeWhile p, ((t.dropWhile p).reverse.takeWhile p).reverse, ?_, ?_, ?_⟩
  · rw [strip, ← List.reverse_append, List.takeWhile_append_dropWhile, List.reverse_reverse,
      List.takeWhile_append_dropWhile]
  · intro c hc
    exact List.mem_takeWhile_imp hc
  · intro c hc
    exact List.mem_takeWhile_imp (List.mem_reverse.1 hc)

theorem dropWhile_of_head? {t : Text} (h : ∀ c, t.head? = some c → p c = false) :
    t.dropWhile p = t := by
  cases t with
  | nil => rfl
  | cons c t => simp [h c rfl]

/-- **Only the characters of the class are taken off.** -/
theorem strip_around {leading t trailing : Text} (hleading : ∀ c ∈ leading, p c = true)
    (hfirst : ∀ c, t.head? = some c → p c = false) (hlast : ∀ c, t.getLast? = some c → p c = false)
    (htrailing : ∀ c ∈ trailing, p c = true) : strip p (leading ++ (t ++ trailing)) = t := by
  rw [strip, List.dropWhile_append_of_pos hleading]
  by_cases hnil : t = []
  · subst hnil
    rw [List.nil_append, ← List.append_nil trailing, List.dropWhile_append_of_pos htrailing]
    rfl
  · have hstart : (t ++ trailing).dropWhile p = t ++ trailing := by
      refine dropWhile_of_head? fun c hc => hfirst c ?_
      rwa [List.head?_append_of_ne_nil _ hnil] at hc
    have hend : t.reverse.dropWhile p = t.reverse :=
      dropWhile_of_head? fun c hc => hlast c (by rwa [List.getLast?_eq_head?_reverse])
    rw [hstart, List.reverse_append,
      List.dropWhile_append_of_pos fun c hc => htrailing c (List.mem_reverse.1 hc), hend,
      List.reverse_reverse]

end

/-! ## Blanks -/

theorem isBlank_space : ∀ c ∈ [' '], isBlank c = true := List.forall_mem_singleton.2 rfl

theorem solid_of_all {t : Text} (h : t.all (fun c => !isBlank c) = true) :
    ∀ c ∈ t, isBlank c = false := by
  intro c hc
  simpa using List.all_eq_true.1 h c hc

/-- A text that begins and ends with no blank. -/
structure Bare (t : Text) : Prop where
  first : ∀ c, t.head? = some c → isBlank c = false
  last : ∀ c, t.getLast? = some c → isBlank c = false

theorem head?_dropWhile_isBlank {t : Text} {c : Char} (h : (t.dropWhile isBlank).head? = some c) :
    isBlank c = false := by
  have := List.head?_dropWhile_not isBlank t
  rw [h] at this
  simpa using this

theorem head?_trimStart {t : Text} {c : Char} (h : (trimStart t).head? = some c) :
    isBlank c = false := head?_dropWhile_isBlank h

theorem getLast?_trimEnd {t : Text} {c : Char} (h : (trimEnd t).getLast? = some c) :
    isBlank c = false := by
  rw [trimEnd, List.getLast?_reverse] at h
  exact head?_dropWhile_isBlank h

/-- The blanks at the start of a text. -/
theorem takeWhile_append_trimStart (t : Text) : t.takeWhile isBlank ++ trimStart t = t :=
  List.takeWhile_append_dropWhile

/-- The blanks at the end of a text. -/
theorem exists_trimEnd (t : Text) :
    ∃ trailing, t = trimEnd t ++ trailing ∧ ∀ c ∈ trailing, isBlank c = true := by
  refine ⟨(t.reverse.takeWhile isBlank).reverse, ?_, fun c hc => ?_⟩
  · rw [trimEnd, ← List.reverse_append, List.takeWhile_append_dropWhile, List.reverse_reverse]
  · exact List.mem_takeWhile_imp (List.mem_reverse.1 hc)

/-- Blanks behind a text that ends with no blank. -/
theorem trimEnd_append {t blanks : Text} (ht : ∀ c, t.getLast? = some c → isBlank c = false)
    (hblanks : ∀ c ∈ blanks, isBlank c = true) : trimEnd (t ++ blanks) = t := by
  have hstop : t.reverse.dropWhile isBlank = t.reverse :=
    dropWhile_of_head? fun c hc => ht c (by rwa [List.getLast?_eq_head?_reverse])
  rw [trimEnd, List.reverse_append, List.dropWhile_append_of_pos (by simpa using hblanks), hstop,
    List.reverse_reverse]

/-- **A text is its trimmed form with blanks around it.** -/
theorem exists_trim (t : Text) : ∃ leading trailing, t = leading ++ (trim t ++ trailing) ∧
    (∀ c ∈ leading, isBlank c = true) ∧ (∀ c ∈ trailing, isBlank c = true) ∧ Bare (trim t) ∧
    leading.length = t.length - (trimStart t).length := by
  obtain ⟨trailing, htrailing, hblanks⟩ := exists_trimEnd (trimStart t)
  have hstart := takeWhile_append_trimStart t
  refine ⟨t.takeWhile isBlank, trailing, ?_, fun c => List.mem_takeWhile_imp, hblanks,
    ⟨fun c hc => ?_, fun c hc => getLast?_trimEnd hc⟩, ?_⟩
  · rw [trim, ← htrailing, hstart]
  · -- the trimmed form begins as what is left behind the leading blanks
    apply head?_trimStart (t := t)
    rw [htrailing, List.head?_append, show trimEnd (trimStart t) = trim t from rfl, hc]
    rfl
  · have := congrArg List.length hstart
    rw [List.length_append] at this
    omega

theorem trimStart_append {blanks : Text} (t : Text) (h : ∀ c ∈ blanks, isBlank c = true) :
    trimStart (blanks ++ t) = trimStart t :=
  List.dropWhile_append_of_pos h

theorem trimStart_of_head? {t : Text} (h : ∀ c, t.head? = some c → isBlank c = false) :
    trimStart t = t :=
  dropWhile_of_head? h

theorem trim_append {blanks : Text} (t : Text) (h : ∀ c ∈ blanks, isBlank c = true) :
    trim (blanks ++ t) = trim t := by
  rw [trim, trimStart_append t h, trim]

/-- What ends with no blank is not trimmed from the end. -/
theorem trimEnd_append_of_getLast? {t : Text} (u : Text)
    (ht : ∀ c, t.getLast? = some c → isBlank c = false) : trimEnd (t ++ u) = t ++ trimEnd u := by
  obtain ⟨trailing, hu, hblanks⟩ := exists_trimEnd u
  rw [hu, ← List.append_assoc, trimEnd_append ?_ hblanks, ← hu]
  intro c hc
  rw [List.getLast?_append, Option.or_eq_some_iff] at hc
  rcases hc with hc | ⟨-, hc⟩
  · exact getLast?_trimEnd hc
  · exact ht c hc

/-- **What stands between blanks and is bare is the trimmed form.** -/
theorem trim_around {leading t trailing : Text} (hleading : ∀ c ∈ leading, isBlank c = true)
    (ht : Bare t) (htrailing : ∀ c ∈ trailing, isBlank c = true) :
    trim (leading ++ (t ++ trailing)) = t :=
  strip_around hleading ht.first ht.last htrailing

theorem trim_of_bare {t : Text} (h : Bare t) : trim t = t := by
  have hnone : ∀ c ∈ ([] : Text), isBlank c = true := fun c hc => absurd hc List.not_mem_nil
  have := trim_around hnone h hnone
  rwa [List.nil_append, List.append_nil] at this

/-- A bare text has no blanks at its end. -/
theorem Bare.eq_nil_of_blank {t u : Text} (h : Bare (t ++ u)) (hu : ∀ c ∈ u, isBlank c = true) :
    u = [] := by
  cases hlast : u.getLast? with
  | none => exact List.getLast?_eq_none_iff.1 hlast
  | some c =>
    have hc := h.last c (by rw [List.getLast?_append, hlast]; rfl)
    rw [hu c (List.mem_of_getLast? hlast)] at hc
    cases hc

theorem bare_trim (t : Text) : Bare (trim t) := by
  obtain ⟨-, -, -, -, -, h, -⟩ := exists_trim t
  exact h

theorem trim_eq_nil_iff {t : Text} : trim t = [] ↔ ∀ c ∈ t, isBlank c = true := by
  constructor
  · intro h
    obtain ⟨leading, trailing, ht, hleading, htrailing, -, -⟩ := exists_trim t
    rw [h, List.nil_append] at ht
    rw [ht]
    exact List.forall_mem_append.2 ⟨hleading, htrailing⟩
  · intro h
    rw [← List.append_nil t, trim_append [] h]
    rfl

end Stencil.Text
