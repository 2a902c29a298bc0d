/-
  Where a literal occurs in a text.

  * `Occurrences token t columns`: the columns are the places at which the token stands in the
    text, from left to right, each one behind the end of the one before it;
  * `occurrences_spec`: the columns that are found are these.
-/
import Mathlib.Data.List.Infix
import Mathlib.Data.List.TakeWhile
import Stencil.Text

namespace Stencil.Text

/-! ## Occurrences -/

/-- The token stands in the text from a column on. -/
def StandsAt (token t : Text) (column : Nat) : Prop := token <+: t.drop column

theorem exists_standsAt_iff {token t : Text} : (∃ column, StandsAt token t column) ↔ token <:+: t := by
  constructor
  · rintro ⟨column, h⟩
    exact h.isInfix.trans (List.drop_suffix column t).isInfix
  · rintro ⟨before, behind, rfl⟩
    refine ⟨before.length, ?_⟩
    rw [StandsAt, List.append_assoc, List.drop_left]
    exact List.prefix_append token behind

theorem StandsAt.take_eq {token t : Text} {column : Nat} (h : StandsAt token t column) :
    (t.drop column).take token.length = token := (List.prefix_iff_eq_take.1 h).symm

/-- A token ends within the text. -/
theorem StandsAt.le {token t : Text} {column : Nat} (h : StandsAt token t column)
    (htoken : token ≠ []) : column + token.length ≤ t.length := by
  have hpositive := List.length_pos_iff.2 htoken
  have hlength := List.IsPrefix.length_le h
  rw [List.length_drop] at hlength
  omega

/-- Two characters stand in a text that is put together, if they stand in one of its parts or
    where these meet. -/
theorem pair_infix_append {a b : Char} {t u : Text} (h : [a, b] <:+: t ++ u) :
    [a, b] <:+: t ∨ [a, b] <:+: u ∨ t.getLast? = some a ∧ u.head? = some b := by
  induction t with
  | nil => exact .inr (.inl h)
  | cons c t ih =>
    rw [List.cons_append, List.infix_cons_iff, List.cons_prefix_cons] at h
    rcases h with ⟨rfl, hnext⟩ | h
    · cases t with
      | nil =>
        obtain ⟨rest, rfl⟩ := hnext
        exact .inr (.inr ⟨rfl, rfl⟩)
      | cons d t =>
        obtain ⟨rfl, -⟩ := List.cons_prefix_cons.1 hnext
        exact .inl ⟨[], t, rfl⟩
    · rcases ih h with hleft | hright | ⟨hlast, hhead⟩
      · exact .inl (hleft.trans (List.suffix_cons c t).isInfix)
      · exact .inr (.inl hright)
      · refine .inr (.inr ⟨?_, hhead⟩)
        rw [List.getLast?_cons, hlast]
        rfl

/-- The places of a token in a text, from left to right, each one behind the end of the one before
    it. -/
structure Occurrences (token t : Text) (columns : List Nat) : Prop where
  ascending : columns.Pairwise (· < ·)
  mem_iff : ∀ column, column ∈ columns ↔ StandsAt token t column ∧
    ∀ earlier ∈ columns, earlier < column → earlier + token.length ≤ column

/-- A token that stands somewhere has a first place. -/
theorem Occurrences.ne_nil {token t : Text} {columns : List Nat} (h : Occurrences token t columns)
    (htoken : token <:+: t) : columns ≠ [] := by
  rintro rfl
  obtain ⟨column, hstands⟩ := exists_standsAt_iff.2 htoken
  have := (h.mem_iff column).2 ⟨hstands, fun earlier hearlier => absurd hearlier List.not_mem_nil⟩
  exact absurd this List.not_mem_nil

/-- The places of a token in the part of a text that begins at an offset. -/
structure OccurrencesFrom (token : Text) (start : Nat) (t : Text) (columns : List Nat) : Prop where
  ascending : columns.Pairwise (· < ·)
  start_le : ∀ column ∈ columns, start ≤ column
  mem_iff : ∀ k, start + k ∈ columns ↔ StandsAt token t k ∧
    ∀ earlier ∈ columns, earlier < start + k → earlier + token.length ≤ start + k

namespace OccurrencesFrom

variable {token t : Text} {start : Nat} {columns : List Nat}

theorem nil (htoken : token ≠ []) : OccurrencesFrom token start [] [] := by
  refine ⟨.nil, fun c hc => absurd hc List.not_mem_nil, fun k => ?_⟩
  simp [StandsAt, htoken]

/-- The token stands at the offset; the next places are behind its end. -/
theorem found (h : OccurrencesFrom token (start + token.length) t columns) (htoken : token ≠ []) :
    OccurrencesFrom token start (token ++ t) (start :: columns) := by
  have hlength : 0 < token.length := List.length_pos_iff.2 htoken
  refine ⟨List.pairwise_cons.2 ⟨fun c hc => ?_, h.ascending⟩, fun c hc => ?_, fun k => ?_⟩
  · have := h.start_le c hc
    omega
  · rcases List.mem_cons.1 hc with rfl | hc
    · exact Nat.le_refl _
    · have := h.start_le c hc
      omega
  · by_cases hk : k < token.length
    · -- no second place begins within the first one
      constructor
      · intro hmem
        obtain rfl : k = 0 := by
          rcases List.mem_cons.1 hmem with heq | hmem
          · omega
          · have := h.start_le _ hmem
            omega
        refine ⟨List.prefix_append token t, fun earlier hearlier hlt => ?_⟩
        rcases List.mem_cons.1 hearlier with rfl | hearlier
        · omega
        · have := h.start_le _ hearlier
          omega
      · rintro ⟨-, hapart⟩
        by_cases hzero : k = 0
        · simp [hzero]
        · have := hapart start List.mem_cons_self (by omega)
          omega
    · obtain ⟨k, rfl⟩ := Nat.exists_eq_add_of_le (Nat.not_lt.1 hk)
      have hne : start + (token.length + k) ≠ start := by omega
      rw [List.mem_cons, or_iff_right hne, ← Nat.add_assoc, h.mem_iff, StandsAt, StandsAt,
        List.drop_length_add_append]
      refine and_congr_right fun _ => ?_
      simp only [List.mem_cons, forall_eq_or_imp]
      constructor
      · exact fun hapart => ⟨fun _ => by omega, hapart⟩
      · exact fun hapart => hapart.2

/-- The token does not stand at the offset. -/
theorem next {c : Char} (h : OccurrencesFrom token (start + 1) t columns)
    (hfirst : ¬ token <+: c :: t) : OccurrencesFrom token start (c :: t) columns := by
  refine ⟨h.ascending, fun column hc => Nat.le_of_succ_le (h.start_le column hc), fun k => ?_⟩
  cases k with
  | zero =>
    constructor
    · intro hmem
      exact absurd (h.start_le _ hmem) (by omega)
    · rintro ⟨hstands, -⟩
      exact absurd hstands hfirst
  | succ k =>
    have := h.mem_iff k
    rwa [show start + 1 + k = start + (k + 1) by omega] at this

end OccurrencesFrom

theorem stripStart?_eq_none_iff {start t : Text} : stripStart? start t = none ↔ ¬ start <+: t := by
  rw [← Option.not_isSome_iff_eq_none, not_iff_not, Option.isSome_iff_exists]
  constructor
  · rintro ⟨rest, hrest⟩
    exact ⟨rest, (stripStart?_eq_some_iff.1 hrest).symm⟩
  · rintro ⟨rest, hrest⟩
    exact ⟨rest, stripStart?_eq_some_iff.2 hrest.symm⟩

theorem occurrencesFrom_occurrences (a : Char) (pattern : Text) (start : Nat) (t : Text) :
    OccurrencesFrom (a :: pattern) start t (occurrences a pattern start t) := by
  fun_induction occurrences a pattern start t with
  | case1 start t rest hstrip ih =>
    rw [stripStart?_eq_some_iff.1 hstrip]
    exact ih.found (List.cons_ne_nil _ _)
  | case2 start hstrip => exact .nil (List.cons_ne_nil _ _)
  | case3 start c t hstrip ih => exact ih.next (stripStart?_eq_none_iff.1 hstrip)

/-- **The occurrences that are found are those of the literal**, from left to right and without
    overlaps. -/
theorem occurrences_spec (a : Char) (pattern t : Text) :
    Occurrences (a :: pattern) t (occurrences a pattern 0 t) := by
  have h := occurrencesFrom_occurrences a pattern 0 t
  exact ⟨h.ascending, fun column => by simpa only [Nat.zero_add] using h.mem_iff column⟩

end Stencil.Text
