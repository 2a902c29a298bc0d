/-
  The lines of listings in comments, and the places that comments and messages name.

  * `spot line column`: a place behind the name of its file;
  * `rows t`: the lines of a text, without the empty one behind a last line feed;
  * `commentOut_eq`: a listing is made of the rows of the text, each behind the comment mark and
    with a line feed at its end;
  * `charAt? t line column`: the character in a place; `uncommented t`: a text without the first
    three characters of its lines;
  * `linesInclusive_commentOut`: the lines of a listing, from which the places of characters
    (`charAt?_commentOut`) and the text itself (`uncommented_commentOut`) are read.
-/
import Stencil.Comment
import Stencil.Proofs.Text.Lines

namespace Stencil

namespace Text

/-- A line and a column, counted from one, as they stand behind the name of a file. -/
def spot (line column : Nat) : Text :=
  '(' :: number line ++ ',' :: number (column + 1)

theorem oneLine_spot (line column : Nat) : OneLine (spot line column) := by
  simp only [spot, oneLine_append, oneLine_cons, oneLine_number, and_true]
  decide

/-- The lines of a text; what stands behind the last line feed is one unless it is empty. -/
def rows (t : Text) : List Text :=
  if (lines t).getLast? = some [] then (lines t).dropLast else lines t

@[simp] theorem rows_nil : rows [] = [] := rfl

theorem rows_of_notMem {t : Text} (hne : t ≠ []) (h : '\n' ∉ t) : rows t = [t] := by
  rw [rows, lines_of_notMem h, if_neg (by simpa using hne)]

theorem rows_append_newline {t : Text} (h : '\n' ∉ t) (rest : Text) :
    rows (t ++ '\n' :: rest) = t :: rows rest := by
  have hne := lines_ne_nil rest
  rw [rows, rows, lines_append_newline h, List.getLast?_cons_of_ne_nil hne,
    List.dropLast_cons_of_ne_nil hne]
  split <;> rfl

/-- The character in a line and a column, both counted from one; a line feed is the last character
    of its line. -/
def charAt? (t : Text) (line column : Nat) : Option Char :=
  if line = 0 ∨ column = 0 then none
  else ((linesInclusive t)[line - 1]?).bind fun l => l[column - 1]?

theorem charAt?_eq_some_iff {t : Text} {line column : Nat} {c : Char} :
    charAt? t line column = some c ↔ line ≠ 0 ∧ column ≠ 0 ∧
      ∃ l, (linesInclusive t)[line - 1]? = some l ∧ l[column - 1]? = some c := by
  rw [charAt?, ← Option.bind_eq_some_iff]
  split
  · next h =>
    rcases h with h | h
    · simp [h]
    · simp [h]
  · next h =>
    rw [not_or] at h
    simp [h.1, h.2]

/-- What comes behind a text leaves its characters in their places. -/
theorem charAt?_append {t : Text} {line column : Nat} {c : Char}
    (h : charAt? t line column = some c) (final : Text) :
    charAt? (t ++ final) line column = some c := by
  obtain ⟨hline, hcolumn, l, hl, hc⟩ := charAt?_eq_some_iff.1 h
  obtain ⟨more, hmore⟩ := getElem?_linesInclusive_append hl final
  refine charAt?_eq_some_iff.2 ⟨hline, hcolumn, _, hmore, ?_⟩
  rw [List.getElem?_append_left (List.getElem?_eq_some_iff.1 hc).1]
  exact hc

/-- A text without the first three characters of each line. -/
def uncommented (t : Text) : Text := (linesInclusive t).flatMap (·.drop 3)

theorem newline_notMem_of_mem_rows {t row : Text} (h : row ∈ rows t) : '\n' ∉ row := by
  have hline : row ∈ lines t := by
    rw [rows] at h
    split at h
    · exact List.dropLast_subset _ h
    · exact h
  exact fun hc => (mem_of_mem_lines hline hc).2 rfl

end Text

open Text

theorem newline_notMem_commentMark : '\n' ∉ commentMark := by decide

theorem endLine_append_newline (start rest : Text) :
    endLine (start ++ '\n' :: rest) = start ++ '\n' :: endLine rest := by
  cases rest with
  | nil => simp [endLine]
  | cons c rest =>
    have hlast : (start ++ '\n' :: c :: rest).getLast? = (c :: rest).getLast? := by
      rw [List.getLast?_append, List.getLast?_cons_cons, List.getLast?_cons, Option.some_or]
    simp only [endLine, hlast, List.isEmpty_iff, List.append_eq_nil_iff, List.cons_ne_nil,
      and_false, false_or]
    split <;> simp

theorem commentOut_of_notMem {t : Text} (hne : t ≠ []) (h : '\n' ∉ t) :
    commentOut t = commentMark ++ t ++ ['\n'] := by
  have hlast : (commentMark ++ t).getLast? ≠ some '\n' := fun h' =>
    (List.mem_append.1 (List.mem_of_getLast? h')).elim newline_notMem_commentMark h
  rw [commentOut, linesInclusive_of_notMem hne h, List.flatMap_singleton, endLine,
    if_neg (by simpa [commentMark] using hlast)]

theorem commentOut_append_newline {t : Text} (h : '\n' ∉ t) (rest : Text) :
    commentOut (t ++ '\n' :: rest) = commentMark ++ t ++ '\n' :: commentOut rest := by
  rw [commentOut, linesInclusive_append_newline h, List.flatMap_cons, ← List.append_assoc,
    List.append_assoc, List.singleton_append, endLine_append_newline, commentOut]

/-- **A listing has the rows of the text, each behind the comment mark.** -/
theorem commentOut_eq (t : Text) :
    commentOut t = ((rows t).map (commentMark ++ ·)).flatMap (· ++ ['\n']) := by
  induction t using line_induction with
  | last t ht =>
    by_cases hne : t = []
    · subst hne
      rfl
    · rw [commentOut_of_notMem hne ht, rows_of_notMem hne ht]
      simp
  | line t rest ht ih =>
    rw [commentOut_append_newline ht, rows_append_newline ht, ih]
    simp

/-! ## Places in a listing -/

theorem endLine_eq (t : Text) : endLine t = (rows t).flatMap (· ++ ['\n']) := by
  induction t using line_induction with
  | last t ht =>
    by_cases hne : t = []
    · subst hne
      rfl
    · have hlast : t.getLast? ≠ some '\n' := fun h => ht (List.mem_of_getLast? h)
      rw [rows_of_notMem hne ht, List.flatMap_singleton, endLine, if_neg (by simp [hne, hlast])]
  | line t rest ht ih =>
    rw [endLine_append_newline, rows_append_newline ht, ih, List.flatMap_cons, List.append_assoc,
      List.singleton_append]

theorem exists_endLine_eq (t : Text) : ∃ final, endLine t = t ++ final := by
  unfold endLine
  split
  · exact ⟨[], (List.append_nil t).symm⟩
  · exact ⟨['\n'], rfl⟩

theorem linesInclusive_endLine (t : Text) :
    linesInclusive (endLine t) = (rows t).map (· ++ ['\n']) := by
  rw [endLine_eq, linesInclusive_flatMap fun row hrow => newline_notMem_of_mem_rows hrow]

/-- **A listing has one line for each row of the text.** -/
theorem linesInclusive_commentOut (t : Text) :
    linesInclusive (commentOut t) = (rows t).map fun row => commentMark ++ (row ++ ['\n']) := by
  have hrows : ∀ line ∈ (rows t).map (commentMark ++ ·), '\n' ∉ line := by
    intro line hline
    obtain ⟨row, hrow, rfl⟩ := List.mem_map.1 hline
    exact fun hc => (List.mem_append.1 hc).elim newline_notMem_commentMark
      (newline_notMem_of_mem_rows hrow)
  rw [commentOut_eq, linesInclusive_flatMap hrows, List.map_map]
  exact List.map_congr_left fun row _ => List.append_assoc _ _ _

/-- **A character of a text stands three columns further to the right in its listing.** -/
theorem charAt?_commentOut {t : Text} {line column : Nat} {c : Char}
    (h : charAt? t line column = some c) : charAt? (commentOut t) line (column + 3) = some c := by
  obtain ⟨final, hfinal⟩ := exists_endLine_eq t
  have hended := charAt?_append h final
  rw [← hfinal] at hended
  obtain ⟨hline, hcolumn, l, hl, hc⟩ := charAt?_eq_some_iff.1 hended
  rw [linesInclusive_endLine, List.getElem?_map] at hl
  obtain ⟨row, hrow, rfl⟩ := Option.map_eq_some_iff.1 hl
  refine charAt?_eq_some_iff.2 ⟨hline, by omega, commentMark ++ (row ++ ['\n']), ?_, ?_⟩
  · rw [linesInclusive_commentOut, List.getElem?_map, hrow]
    rfl
  · have hshift : column + 3 - 1 = commentMark.length + (column - 1) := by
      show column + 3 - 1 = 3 + (column - 1)
      omega
    rw [hshift, List.getElem?_append_right (Nat.le_add_right _ _), Nat.add_sub_cancel_left]
    exact hc

/-- **A listing without the comment marks is the text**, with a line feed at its end. -/
theorem uncommented_commentOut (t : Text) : uncommented (commentOut t) = endLine t := by
  have hdrop : ∀ row : Text, (commentMark ++ (row ++ ['\n'])).drop 3 = row ++ ['\n'] :=
    fun _ => rfl
  rw [uncommented, linesInclusive_commentOut, List.flatMap_map]
  simp only [hdrop]
  exact (endLine_eq t).symm

end Stencil
