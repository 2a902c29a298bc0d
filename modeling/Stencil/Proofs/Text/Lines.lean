/-
  Lines of texts.

  * `OneLine t`: the text holds neither a line feed nor a carriage return;
  * `lines_append_newline`: a line feed ends a line;
  * `lines_flatMap_lines`: texts that are each ended by a line feed have their own lines; one-line
    texts are the lines of what they make up (`lines_flatMap`);
  * `line_induction`: induction over a text, line by line;
  * `getElem?_lines_append_left`, `getElem?_lines_append_right`: the lines of a part of a text
    are parts of the lines of the text;
  * `exists_break_of_line`: what stands before a line are the lines before it, each with its line
    feed, and a line feed stands behind it, unless it is the last one.
-/
import Mathlib.Data.List.TakeWhile
import Stencil.Text

namespace Stencil.Text

/-- A text without line breaks. -/
def OneLine (t : Text) : Prop := '\n' ∉ t ∧ '\r' ∉ t

instance (t : Text) : Decidable (OneLine t) := inferInstanceAs (Decidable (_ ∧ _))

theorem oneLine_iff {t : Text} : OneLine t ↔ ∀ c ∈ t, c ≠ '\n' ∧ c ≠ '\r' := by
  constructor
  · rintro ⟨hn, hr⟩ c hc
    exact ⟨fun h => hn (h ▸ hc), fun h => hr (h ▸ hc)⟩
  · intro h
    exact ⟨fun hn => (h _ hn).1 rfl, fun hr => (h _ hr).2 rfl⟩

@[simp] theorem oneLine_nil : OneLine [] := ⟨List.not_mem_nil, List.not_mem_nil⟩

@[simp] theorem oneLine_cons {c : Char} {t : Text} :
    OneLine (c :: t) ↔ (c ≠ '\n' ∧ c ≠ '\r') ∧ OneLine t := by
  simp [oneLine_iff]

@[simp] theorem oneLine_append {t u : Text} : OneLine (t ++ u) ↔ OneLine t ∧ OneLine u := by
  simp only [oneLine_iff, List.mem_append]
  exact ⟨fun h => ⟨fun c hc => h c (.inl hc), fun c hc => h c (.inr hc)⟩,
    fun h c hc => hc.elim (h.1 c) (h.2 c)⟩

theorem oneLine_flatMap {α : Type} {f : α → Text} {as : List α} :
    OneLine (as.flatMap f) ↔ ∀ a ∈ as, OneLine (f a) := by
  simp only [oneLine_iff, List.mem_flatMap]
  exact ⟨fun h a ha c hc => h c ⟨a, ha, hc⟩, fun h c ⟨a, ha, hc⟩ => h a ha c hc⟩

theorem count_of_oneLine {t : Text} (h : OneLine t) {c : Char} (hc : c = '\n' ∨ c = '\r') :
    t.count c = 0 := by
  refine List.count_eq_zero.2 ?_
  rcases hc with rfl | rfl
  · exact h.1
  · exact h.2

/-- A number is written on one line. -/
theorem oneLine_number (n : Nat) : OneLine (number n) := by
  rw [oneLine_iff]
  intro c hc
  have hdigit : c.isDigit = true := Nat.isDigit_of_mem_toDigits (by decide) (by decide) hc
  constructor
  · rintro rfl; exact absurd hdigit (by decide)
  · rintro rfl; exact absurd hdigit (by decide)

/-! ## Cutting -/

@[simp] theorem lines_nil : lines [] = [[]] := rfl

@[simp] theorem lines_newline (t : Text) : lines ('\n' :: t) = [] :: lines t := by
  rw [lines, if_pos rfl]

theorem lines_cons {c : Char} (hc : c ≠ '\n') (t : Text) :
    ∃ piece pieces, lines t = piece :: pieces ∧ lines (c :: t) = (c :: piece) :: pieces := by
  obtain ⟨piece, pieces, h⟩ := List.exists_cons_of_ne_nil (lines_ne_nil t)
  exact ⟨piece, pieces, h, by rw [lines, if_neg hc, h]⟩

/-- A text up to a line feed is the first line. -/
theorem lines_append_newline {t : Text} (h : '\n' ∉ t) (rest : Text) :
    lines (t ++ '\n' :: rest) = t :: lines rest := by
  induction t with
  | nil => simp
  | cons c t ih =>
    simp only [List.mem_cons, not_or] at h
    obtain ⟨piece, pieces, ht, hct⟩ := lines_cons (Ne.symm h.1) (t ++ '\n' :: rest)
    rw [ih h.2, List.cons.injEq] at ht
    obtain ⟨rfl, rfl⟩ := ht
    exact hct

/-- A text has one line more than line feeds. -/
theorem length_lines (t : Text) : (lines t).length = t.count '\n' + 1 := by
  induction t with
  | nil => rfl
  | cons c t ih =>
    by_cases hc : c = '\n'
    · subst hc
      simp [ih]
    · obtain ⟨piece, pieces, ht, hct⟩ := lines_cons hc t
      rw [ht] at ih
      rw [hct, List.count_cons_of_ne hc]
      exact ih

/-- The lines of a text hold its characters but the line feeds. -/
theorem mem_of_mem_lines {t line : Text} {c : Char} (hline : line ∈ lines t) (hc : c ∈ line) :
    c ∈ t ∧ c ≠ '\n' := by
  induction t generalizing line with
  | nil => simp_all [lines]
  | cons d t ih =>
    by_cases hd : d = '\n'
    · subst hd
      rw [lines_newline, List.mem_cons] at hline
      rcases hline with rfl | hline
      · exact absurd hc List.not_mem_nil
      · exact ⟨List.mem_cons_of_mem _ (ih hline hc).1, (ih hline hc).2⟩
    · obtain ⟨piece, pieces, ht, hdt⟩ := lines_cons hd t
      rw [hdt, List.mem_cons] at hline
      rcases hline with rfl | hline
      · rcases List.mem_cons.1 hc with rfl | hc
        · exact ⟨List.mem_cons_self, hd⟩
        · have := ih (ht ▸ List.mem_cons_self) hc
          exact ⟨List.mem_cons_of_mem _ this.1, this.2⟩
      · have := ih (ht ▸ List.mem_cons_of_mem _ hline) hc
        exact ⟨List.mem_cons_of_mem _ this.1, this.2⟩

/-- The lines of a text without carriage returns are one-line texts. -/
theorem oneLine_of_mem_lines {t line : Text} (ht : '\r' ∉ t) (h : line ∈ lines t) :
    OneLine line := by
  rw [oneLine_iff]
  intro c hc
  have := mem_of_mem_lines h hc
  exact ⟨this.2, fun hr => ht (hr ▸ this.1)⟩

/-! ## Line by line -/

/-- Induction over the lines of a text. -/
theorem line_induction {motive : Text → Prop} (last : ∀ t, '\n' ∉ t → motive t)
    (line : ∀ t rest, '\n' ∉ t → motive rest → motive (t ++ '\n' :: rest)) :
    ∀ t, motive t := by
  -- the part of the line that was seen already stands before the text
  have h : ∀ t start, '\n' ∉ start → motive (start ++ t) := by
    intro t
    induction t with
    | nil =>
      intro start hstart
      rw [List.append_nil]
      exact last start hstart
    | cons c t ih =>
      intro start hstart
      by_cases hc : c = '\n'
      · subst hc
        exact line start t hstart (ih [] List.not_mem_nil)
      · rw [← List.singleton_append, ← List.append_assoc]
        refine ih _ ?_
        simp only [List.mem_append, List.mem_singleton, not_or]
        exact ⟨hstart, Ne.symm hc⟩
  intro t
  exact h t [] List.not_mem_nil

/-- A text without line feeds in front belongs to the first line. -/
theorem lines_append {start t first : Text} {rest : List Text} (hstart : '\n' ∉ start)
    (ht : lines t = first :: rest) : lines (start ++ t) = (start ++ first) :: rest := by
  induction start with
  | nil => exact ht
  | cons c start ih =>
    simp only [List.mem_cons, not_or] at hstart
    obtain ⟨piece, pieces, htail, hcons⟩ := lines_cons (Ne.symm hstart.1) (start ++ t)
    rw [ih hstart.2, List.cons.injEq] at htail
    obtain ⟨rfl, rfl⟩ := htail
    exact hcons

theorem lines_of_notMem {t : Text} (h : '\n' ∉ t) : lines t = [t] := by
  have := lines_append (t := []) h lines_nil
  simpa using this

/-- A line feed stands between the lines before it and those behind it. -/
theorem lines_append_lines (t rest : Text) : lines (t ++ '\n' :: rest) = lines t ++ lines rest := by
  induction t using line_induction with
  | last t ht => rw [lines_append_newline ht, lines_of_notMem ht, List.singleton_append]
  | line t t' ht ih =>
    rw [List.append_assoc, List.cons_append, lines_append_newline ht, ih, lines_append_newline ht,
      List.cons_append]

/-- Texts that are each ended by a line feed have their own lines. -/
theorem lines_flatMap_lines (pieces : List Text) :
    lines (pieces.flatMap (· ++ ['\n'])) = pieces.flatMap lines ++ [[]] := by
  induction pieces with
  | nil => rfl
  | cons piece pieces ih =>
    rw [List.flatMap_cons, List.append_assoc, List.singleton_append, lines_append_lines, ih,
      List.flatMap_cons, List.append_assoc]

theorem flatMap_lines {pieces : List Text} (h : ∀ piece ∈ pieces, '\n' ∉ piece) :
    pieces.flatMap lines = pieces := by
  induction pieces with
  | nil => rfl
  | cons piece pieces ih =>
    rw [List.flatMap_cons, lines_of_notMem (h piece List.mem_cons_self),
      ih fun p hp => h p (List.mem_cons_of_mem _ hp), List.singleton_append]

/-- **Texts ended by line feeds are the lines of what they make up**; an empty line follows
    the last line feed. -/
theorem lines_flatMap {pieces : List Text} (h : ∀ piece ∈ pieces, '\n' ∉ piece) :
    lines (pieces.flatMap (· ++ ['\n'])) = pieces ++ [[]] := by
  rw [lines_flatMap_lines, flatMap_lines h]

/-- The characters behind the last line feed. -/
def lastLine (t : Text) : Text := (t.reverse.takeWhile (· ≠ '\n')).reverse

theorem lastLine_of_notMem {t : Text} (h : '\n' ∉ t) : lastLine t = t := by
  have hall : ∀ c ∈ t.reverse, decide (c ≠ '\n') = true := by
    intro c hc
    simp only [decide_eq_true_eq]
    rintro rfl
    exact h (List.mem_reverse.1 hc)
  rw [lastLine, List.takeWhile_eq_self_iff.2 hall, List.reverse_reverse]

theorem lastLine_append_newline (t rest : Text) : lastLine (t ++ '\n' :: rest) = lastLine rest := by
  have hstop : ∀ u v : Text, (u ++ '\n' :: v).takeWhile (· ≠ '\n') = u.takeWhile (· ≠ '\n') := by
    intro u v
    induction u with
    | nil => simp
    | cons c u ih =>
      rw [List.cons_append, List.takeWhile_cons, List.takeWhile_cons, ih]
  rw [lastLine, lastLine, List.reverse_append, List.reverse_cons, List.append_assoc,
    List.singleton_append, hstop]

/-- **The lines of a text, seen in a text that ends with it.** -/
theorem getElem?_lines_append_left (start : Text) {t l : Text} {i : Nat}
    (h : (lines t)[i]? = some l) : (lines (start ++ t))[start.count '\n' + i]? =
      some ((if i = 0 then lastLine start else []) ++ l) := by
  induction start using line_induction with
  | last start hstart =>
    obtain ⟨first, rest, ht⟩ := List.exists_cons_of_ne_nil (lines_ne_nil t)
    rw [lines_append hstart ht, List.count_eq_zero.2 hstart, Nat.zero_add,
      lastLine_of_notMem hstart]
    rw [ht] at h
    cases i with
    | zero =>
      simp only [List.getElem?_cons_zero, Option.some.injEq] at h
      simp [h]
    | succ i => simpa using h
  | line start rest hstart ih =>
    have hcount : (start ++ '\n' :: rest).count '\n' + i = (rest.count '\n' + i) + 1 := by
      rw [List.count_append, List.count_eq_zero.2 hstart, List.count_cons_self]
      omega
    rw [hcount, List.append_assoc, List.cons_append, lines_append_newline hstart,
      List.getElem?_cons_succ, ih, lastLine_append_newline]

/-- **The lines of a text, seen in a text that begins with it.** -/
theorem getElem?_lines_append_right {t l : Text} {i : Nat} (h : (lines t)[i]? = some l)
    (final : Text) : ∃ more, (lines (t ++ final))[i]? = some (l ++ more) := by
  induction t using line_induction generalizing i with
  | last t ht =>
    obtain ⟨first, rest, hfinal⟩ := List.exists_cons_of_ne_nil (lines_ne_nil final)
    rw [lines_of_notMem ht] at h
    rw [lines_append ht hfinal]
    cases i with
    | zero =>
      simp only [List.getElem?_cons_zero, Option.some.injEq] at h
      exact ⟨first, by simp [h]⟩
    | succ i => simp at h
  | line t rest ht ih =>
    rw [lines_append_newline ht] at h
    rw [List.append_assoc, List.cons_append, lines_append_newline ht]
    cases i with
    | zero =>
      simp only [List.getElem?_cons_zero, Option.some.injEq] at h
      exact ⟨[], by simp [h]⟩
    | succ i => exact ih h

/-! ## The text before a line -/

theorem linesInclusive_append_newline {t : Text} (h : '\n' ∉ t) (rest : Text) :
    linesInclusive (t ++ '\n' :: rest) = (t ++ ['\n']) :: linesInclusive rest := by
  induction t with
  | nil => rw [List.nil_append, linesInclusive, if_pos rfl, List.nil_append]
  | cons c t ih =>
    simp only [List.mem_cons, not_or] at h
    rw [List.cons_append, linesInclusive, if_neg (Ne.symm h.1), ih h.2]
    rfl

theorem linesInclusive_of_notMem {t : Text} (hne : t ≠ []) (h : '\n' ∉ t) :
    linesInclusive t = [t] := by
  induction t with
  | nil => exact absurd rfl hne
  | cons c t ih =>
    simp only [List.mem_cons, not_or] at h
    rw [linesInclusive, if_neg (Ne.symm h.1)]
    cases t with
    | nil => rfl
    | cons d t => rw [ih (List.cons_ne_nil d t) h.2]

theorem linesInclusive_flatMap {pieces : List Text} (h : ∀ piece ∈ pieces, '\n' ∉ piece) :
    linesInclusive (pieces.flatMap (· ++ ['\n'])) = pieces.map (· ++ ['\n']) := by
  induction pieces with
  | nil => rfl
  | cons piece pieces ih =>
    obtain ⟨hpiece, hpieces⟩ := List.forall_mem_cons.1 h
    rw [List.flatMap_cons, List.append_assoc, List.singleton_append,
      linesInclusive_append_newline hpiece, ih hpieces, List.map_cons]

/-- What comes behind a text goes on with its last line. -/
theorem getElem?_linesInclusive_append {t l : Text} {i : Nat} (h : (linesInclusive t)[i]? = some l)
    (final : Text) : ∃ more, (linesInclusive (t ++ final))[i]? = some (l ++ more) := by
  induction t using line_induction generalizing i with
  | last t ht =>
    by_cases hne : t = []
    · subst hne
      cases h
    · rw [linesInclusive_of_notMem hne ht] at h
      obtain ⟨hi, rfl⟩ := List.getElem?_eq_some_iff.1 h
      obtain rfl : i = 0 := by simpa using hi
      by_cases hfinal : '\n' ∈ final
      · obtain ⟨start, rest, rfl, hstart⟩ := List.eq_append_cons_of_mem hfinal
        have hline : '\n' ∉ t ++ start := by simp [ht, hstart]
        rw [← List.append_assoc, linesInclusive_append_newline hline]
        exact ⟨start ++ ['\n'], by simp⟩
      · rw [linesInclusive_of_notMem (by simp [hne]) (by simp [ht, hfinal])]
        exact ⟨final, rfl⟩
  | line t rest ht ih =>
    rw [linesInclusive_append_newline ht] at h
    rw [List.append_assoc, List.cons_append, linesInclusive_append_newline ht]
    cases i with
    | zero =>
      simp only [List.getElem?_cons_zero, Option.some.injEq] at h
      exact ⟨[], by simp [h]⟩
    | succ i => exact ih h

/-- The lines before a line, each with its line feed. -/
theorem flatten_take_linesInclusive {t : Text} {k : Nat} (hk : k < (lines t).length) :
    ((linesInclusive t).take k).flatten = ((lines t).take k).flatMap (· ++ ['\n']) := by
  induction t using line_induction generalizing k with
  | last t ht =>
    rw [lines_of_notMem ht] at hk
    obtain rfl : k = 0 := by simpa using hk
    rfl
  | line t rest ht ih =>
    rw [lines_append_newline ht] at hk ⊢
    rw [linesInclusive_append_newline ht]
    cases k with
    | zero => rfl
    | succ k =>
      rw [List.take_succ_cons, List.take_succ_cons, List.flatten_cons, List.flatMap_cons,
        ih (by simpa using hk)]

/-- A line stands behind the lines before it and before its line feed, if it has one. -/
theorem exists_break_of_line {t line : Text} {k : Nat} (h : (lines t)[k]? = some line) :
    ∃ behind, t = ((lines t).take k).flatMap (· ++ ['\n']) ++ (line ++ behind) ∧
      ∀ c, behind.head? = some c → c = '\n' := by
  induction t using line_induction generalizing k with
  | last t ht =>
    rw [lines_of_notMem ht] at h
    obtain ⟨hk, rfl⟩ := List.getElem?_eq_some_iff.1 h
    obtain rfl : k = 0 := by simpa using hk
    exact ⟨[], by simp, by simp⟩
  | line t rest ht ih =>
    rw [lines_append_newline ht] at h ⊢
    cases k with
    | zero =>
      obtain rfl : t = line := by simpa using h
      exact ⟨'\n' :: rest, by simp, by simp⟩
    | succ k =>
      obtain ⟨behind, hbehind, hhead⟩ := ih (by simpa using h)
      refine ⟨behind, ?_, hhead⟩
      rw [List.take_succ_cons, List.flatMap_cons, List.append_assoc, ← hbehind]
      simp

theorem exists_eq_of_line {t line : Text} {k : Nat} (h : (lines t)[k]? = some line) :
    ∃ behind, t = ((lines t).take k).flatMap (· ++ ['\n']) ++ (line ++ behind) := by
  obtain ⟨behind, hbehind, -⟩ := exists_break_of_line h
  exact ⟨behind, hbehind⟩

/-- A last line without characters is no piece of its own. -/
theorem length_linesInclusive_le (t : Text) : (linesInclusive t).length ≤ (lines t).length := by
  induction t using line_induction with
  | last t ht =>
    by_cases hne : t = []
    · subst hne
      exact Nat.zero_le _
    · rw [linesInclusive_of_notMem hne ht, lines_of_notMem ht]
  | line t rest ht ih =>
    rw [linesInclusive_append_newline ht, lines_append_newline ht]
    exact Nat.succ_le_succ ih

end Stencil.Text
