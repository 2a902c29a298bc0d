/-
  Texts cut at characters, and strings of bytes cut at a byte.

  * `splitAt?_eq_some_iff`: what stands before and behind the first character of a class;
  * `stripEnd?_eq_some_iff`: what stands before a literal at the end;
  * `splitOn_append`, `join_splitOn`, `splitOn_join`: the pieces between separators, and what
    they make up again, for texts and for bytes alike.
-/
import Stencil.Text

namespace Stencil.Text

/-! ## The first character of a class -/

section
variable {t before behind : Text} {p : Char → Bool}

theorem splitAt?_append {c : Char} (hc : p c = true) (hbefore : ∀ d ∈ before, p d = false) :
    splitAt? p (before ++ c :: behind) = some (before, behind) := by
  induction before with
  | nil => simp [splitAt?, hc]
  | cons d before ih =>
    obtain ⟨hd, hbefore⟩ := List.forall_mem_cons.1 hbefore
    simp [splitAt?, hd, ih hbefore]

theorem splitAt?_of_forall (h : ∀ c ∈ t, p c = false) : splitAt? p t = none := by
  induction t with
  | nil => rfl
  | cons c t ih =>
    obtain ⟨hc, ht⟩ := List.forall_mem_cons.1 h
    simp [splitAt?, hc, ih ht]

theorem splitAt?_eq_some_iff : splitAt? p t = some (before, behind) ↔
    ∃ c, t = before ++ c :: behind ∧ p c = true ∧ ∀ d ∈ before, p d = false := by
  constructor
  · intro h
    induction t generalizing before with
    | nil => cases h
    | cons c t ih =>
      rw [splitAt?] at h
      split at h
      · next hc =>
        cases h
        exact ⟨c, rfl, hc, fun d hd => absurd hd List.not_mem_nil⟩
      · next hc =>
        obtain ⟨⟨l, r⟩, hrest, heq⟩ := Option.map_eq_some_iff.1 h
        cases heq
        obtain ⟨d, rfl, hd, hl⟩ := ih hrest
        exact ⟨d, rfl, hd, List.forall_mem_cons.2 ⟨by simpa using hc, hl⟩⟩
  · rintro ⟨c, rfl, hc, hbefore⟩
    exact splitAt?_append hc hbefore

/-- The first place of a character is the only one with nothing of it before. -/
theorem append_cons_inj {c : Char} {before' behind' : Text} (h : c ∉ before) (h' : c ∉ before')
    (heq : before ++ c :: behind = before' ++ c :: behind') :
    before = before' ∧ behind = behind' := by
  have hsplit : ∀ {b r : Text}, c ∉ b → splitAt? (· = c) (b ++ c :: r) = some (b, r) := by
    intro b r hb
    refine splitAt?_append (by simp) fun d hd => ?_
    simpa using fun hdc : d = c => hb (hdc ▸ hd)
  have := (hsplit h).symm.trans ((congrArg _ heq).trans (hsplit h'))
  simpa using this

end

/-! ## Literals at the end -/

theorem stripEnd?_eq_some_iff {t u ending : Text} : stripEnd? ending t = some u ↔ t = u ++ ending := by
  rw [stripEnd?, Option.map_eq_some_iff]
  simp only [stripStart?_eq_some_iff]
  constructor
  · rintro ⟨start, h, rfl⟩
    rw [← List.reverse_inj, h, List.reverse_append, List.reverse_reverse]
  · rintro rfl
    exact ⟨u.reverse, List.reverse_append, List.reverse_reverse u⟩

section
variable {α : Type}

/-! ## Pieces joined -/

theorem join_singleton (sep piece : List α) : join sep [piece] = piece := by
  simp [join]

theorem join_cons {sep piece : List α} {pieces : List (List α)} (h : pieces ≠ []) :
    join sep (piece :: pieces) = piece ++ sep ++ join sep pieces := by
  obtain ⟨next, pieces, rfl⟩ := List.exists_cons_of_ne_nil h
  simp [join, List.intersperse_cons_cons]

/-- The characters of joined pieces are those of the pieces and of the separator. -/
theorem exists_of_mem_join {sep : List α} {pieces : List (List α)} {c : α} (h : c ∈ join sep pieces) :
    (∃ piece ∈ pieces, c ∈ piece) ∨ c ∈ sep := by
  induction pieces with
  | nil => cases h
  | cons piece pieces ih =>
    by_cases hlast : pieces = []
    · subst hlast
      rw [join_singleton] at h
      exact .inl ⟨piece, List.mem_cons_self, h⟩
    · rw [join_cons hlast, List.mem_append, List.mem_append] at h
      rcases h with (h | h) | h
      · exact .inl ⟨piece, List.mem_cons_self, h⟩
      · exact .inr h
      · exact (ih h).imp_left fun ⟨p, hp, hc⟩ => ⟨p, List.mem_cons_of_mem _ hp, hc⟩

/-! ## Pieces between separators -/

variable [DecidableEq α] {sep : α} {t u piece : List α}

theorem splitOn_cons_of_ne {c : α} (h : c ≠ sep) : ∃ first pieces,
    splitOn sep t = first :: pieces ∧ splitOn sep (c :: t) = (c :: first) :: pieces := by
  cases ht : splitOn sep t with
  | nil =>
    exfalso
    cases t with
    | nil => cases ht
    | cons c t =>
      rw [splitOn] at ht
      split at ht
      · cases ht
      · split at ht <;> cases ht
  | cons first pieces =>
    refine ⟨first, pieces, rfl, ?_⟩
    rw [splitOn, if_neg h, ht]

theorem splitOn_sep (t : List α) : splitOn sep (sep :: t) = [] :: splitOn sep t := by
  rw [splitOn, if_pos rfl]

theorem splitOn_ne_nil (t : List α) : splitOn sep t ≠ [] := by
  fun_cases splitOn sep t <;> simp_all

theorem sep_notMem_of_mem_splitOn (h : piece ∈ splitOn sep t) : sep ∉ piece := by
  induction t generalizing piece with
  | nil =>
    obtain rfl := List.mem_singleton.1 h
    exact List.not_mem_nil
  | cons c t ih =>
    by_cases hc : c = sep
    · subst hc
      rw [splitOn_sep] at h
      rcases List.mem_cons.1 h with rfl | h
      · exact List.not_mem_nil
      · exact ih h
    · obtain ⟨first, pieces, hfirst, hcons⟩ := splitOn_cons_of_ne (t := t) hc
      rw [hcons] at h
      rcases List.mem_cons.1 h with rfl | h
      · rw [List.mem_cons, not_or]
        exact ⟨Ne.symm hc, ih (hfirst ▸ List.mem_cons_self)⟩
      · exact ih (hfirst ▸ List.mem_cons_of_mem _ h)

theorem subset_of_mem_splitOn (h : piece ∈ splitOn sep t) : piece ⊆ t := by
  induction t generalizing piece with
  | nil =>
    obtain rfl := List.mem_singleton.1 h
    exact List.nil_subset _
  | cons c t ih =>
    by_cases hc : c = sep
    · subst hc
      rw [splitOn_sep] at h
      rcases List.mem_cons.1 h with rfl | h
      · exact List.nil_subset _
      · exact List.Subset.trans (ih h) (List.subset_cons_self c t)
    · obtain ⟨first, pieces, hfirst, hcons⟩ := splitOn_cons_of_ne (t := t) hc
      rw [hcons] at h
      rcases List.mem_cons.1 h with rfl | h
      · exact List.cons_subset_cons c (ih (hfirst ▸ List.mem_cons_self))
      · exact List.Subset.trans (ih (hfirst ▸ List.mem_cons_of_mem _ h))
          (List.subset_cons_self c t)

theorem splitOn_of_notMem (h : sep ∉ t) : splitOn sep t = [t] := by
  induction t with
  | nil => rfl
  | cons c t ih =>
    rw [List.mem_cons, not_or] at h
    obtain ⟨first, pieces, hfirst, hcons⟩ := splitOn_cons_of_ne (t := t) (Ne.symm h.1)
    rw [ih h.2] at hfirst
    cases hfirst
    exact hcons

theorem splitOn_append (t u : List α) :
    splitOn sep (t ++ sep :: u) = splitOn sep t ++ splitOn sep u := by
  induction t with
  | nil => exact splitOn_sep u
  | cons c t ih =>
    by_cases hc : c = sep
    · subst hc
      rw [List.cons_append, splitOn_sep, splitOn_sep, ih, List.cons_append]
    · obtain ⟨first, pieces, hfirst, hcons⟩ := splitOn_cons_of_ne (t := t) hc
      obtain ⟨first', pieces', hfirst', hcons'⟩ := splitOn_cons_of_ne (t := t ++ sep :: u) hc
      rw [ih, hfirst, List.cons_append] at hfirst'
      obtain ⟨rfl, rfl⟩ := List.cons.inj hfirst'
      rw [List.cons_append, hcons', hcons, List.cons_append]

/-- **The pieces between separators, joined by separators, are the text.** -/
theorem join_splitOn (sep : α) (t : List α) : join [sep] (splitOn sep t) = t := by
  induction t with
  | nil => rfl
  | cons c t ih =>
    by_cases hc : c = sep
    · subst hc
      rw [splitOn_sep, join_cons (splitOn_ne_nil t), ih]
      rfl
    · obtain ⟨first, pieces, hfirst, hcons⟩ := splitOn_cons_of_ne (t := t) hc
      rw [hcons]
      rw [hfirst] at ih
      cases pieces with
      | nil =>
        rw [join_singleton] at ih ⊢
        rw [ih]
      | cons next pieces =>
        rw [join_cons (List.cons_ne_nil next pieces)] at ih ⊢
        rw [← ih]
        rfl

/-- Pieces without separators are found again in what they make up. -/
theorem splitOn_join {pieces : List (List α)} (hne : pieces ≠ []) (h : ∀ piece ∈ pieces, sep ∉ piece) :
    splitOn sep (join [sep] pieces) = pieces := by
  induction pieces with
  | nil => exact absurd rfl hne
  | cons piece pieces ih =>
    obtain ⟨hpiece, hpieces⟩ := List.forall_mem_cons.1 h
    by_cases hlast : pieces = []
    · subst hlast
      rw [join_singleton, splitOn_of_notMem hpiece]
    · rw [join_cons hlast, List.append_assoc, List.singleton_append, splitOn_append,
        splitOn_of_notMem hpiece, ih hlast hpieces, List.singleton_append]

end

end Stencil.Text
