/-
  Line breaks of a section, and of the program lines that are written from it.

  * `spaced` is a character of a template as its program repeats it: a carriage return as a space;
  * `ContentLines t ls`: the content lines of a text, told by its own line breaks and not by the
    way in which a program comes to them;
  * `unifyBreaks_append_newline`: what unifying the breaks of a text does to one of its lines.

  Main statement: `contentLines_iff`, a text has the content lines that a program writes, and no
  other ones.
-/
import Mathlib.Data.List.Basic
import Stencil.Program
import Stencil.Proofs.Text.Lines

namespace Stencil

namespace Text

/-- A line without the carriage return at its end, if it has one. -/
def withoutReturn (line : Text) : Text :=
  if line.getLast? = some '\r' then line.dropLast else line

theorem withoutReturn_append (t : Text) {rest : Text} (h : rest ≠ []) :
    withoutReturn (t ++ rest) = t ++ withoutReturn rest := by
  rw [withoutReturn, withoutReturn, List.getLast?_append_of_ne_nil _ h,
    List.dropLast_append_of_ne_nil h]
  split <;> rfl

theorem withoutReturn_cons {c : Char} {t : Text} (h : c = '\r' → t ≠ []) :
    withoutReturn (c :: t) = c :: withoutReturn t := by
  cases t with
  | nil => rw [withoutReturn, if_neg fun hc => h (by simpa using hc) rfl]; rfl
  | cons d t => exact withoutReturn_append [c] (List.cons_ne_nil d t)

theorem withoutReturn_concat (t : Text) : withoutReturn (t ++ ['\r']) = t := by
  rw [withoutReturn_append t (List.cons_ne_nil _ _)]
  exact List.append_nil t

theorem exists_withoutReturn (t : Text) : ∃ ending, t = withoutReturn t ++ ending := by
  unfold withoutReturn
  split
  · next h =>
    obtain ⟨start, rfl⟩ := List.getLast?_eq_some_iff.1 h
    exact ⟨['\r'], by rw [List.dropLast_concat]⟩
  · exact ⟨[], (List.append_nil t).symm⟩

theorem notMem_withoutReturn {c : Char} {t : Text} (h : c ∉ t) : c ∉ withoutReturn t := by
  obtain ⟨ending, hending⟩ := exists_withoutReturn t
  exact fun hc => h (hending ▸ List.mem_append_left _ hc)

end Text

namespace Program

open Text (withoutReturn)

/-! ## Characters -/

/-- A character of a template as its program repeats it. -/
def spaced (c : Char) : Char := if c = '\r' then ' ' else c

theorem newline_notMem_map_spaced {t : Text} (h : '\n' ∉ t) : '\n' ∉ t.map spaced := by
  intro hmem
  obtain ⟨c, hc, hspaced⟩ := List.mem_map.1 hmem
  unfold spaced at hspaced
  split at hspaced
  · cases hspaced
  · exact h (hspaced ▸ hc)

/-! ## Unified breaks -/

theorem unifyBreaks_cons {c : Char} {t : Text} (h : c = '\r' → t.head? ≠ some '\n') :
    unifyBreaks (c :: t) = spaced c :: unifyBreaks t := by
  by_cases hc : c = '\r'
  · subst hc
    rw [unifyBreaks]
    · rfl
    · rintro rest rfl
      exact h rfl rfl
  · rw [unifyBreaks, spaced, if_neg hc]
    · exact fun _ h _ => hc h
    · exact hc

/-- Carriage returns of a line that is not ended are spaces. -/
theorem unifyBreaks_of_notMem {t : Text} (h : '\n' ∉ t) : unifyBreaks t = t.map spaced := by
  induction t with
  | nil => rfl
  | cons c t ih =>
    simp only [List.mem_cons, not_or] at h
    rw [unifyBreaks_cons fun _ hhead => h.2 (List.mem_of_mem_head? hhead), ih h.2, List.map_cons]

/-- **The carriage return of a line break goes, the other ones are spaces.** -/
theorem unifyBreaks_append_newline {t : Text} (h : '\n' ∉ t) (rest : Text) :
    unifyBreaks (t ++ '\n' :: rest) = (withoutReturn t).map spaced ++ '\n' :: unifyBreaks rest := by
  induction t with
  | nil => exact unifyBreaks_cons (fun h => absurd h (by decide))
  | cons c t ih =>
    simp only [List.mem_cons, not_or] at h
    by_cases hbreak : c = '\r' ∧ t = []
    · obtain ⟨rfl, rfl⟩ := hbreak
      rfl
    · have hlater : c = '\r' → t ≠ [] := fun hc ht => hbreak ⟨hc, ht⟩
      have hhead : c = '\r' → (t ++ '\n' :: rest).head? ≠ some '\n' := by
        intro hc hmem
        rw [List.head?_append_of_ne_nil _ (hlater hc)] at hmem
        exact h.2 (List.mem_of_mem_head? hmem)
      rw [List.cons_append, unifyBreaks_cons hhead, ih h.2, Text.withoutReturn_cons hlater,
        List.map_cons, List.cons_append]

theorem count_unifyBreaks (t : Text) : (unifyBreaks t).count '\n' = t.count '\n' := by
  fun_induction unifyBreaks t with
  | case1 rest ih => simp [ih]
  | case2 rest _ ih => simp [ih]
  | case3 c rest _ _ ih => simp [List.count_cons, ih]
  | case4 => rfl

theorem return_notMem_unifyBreaks (t : Text) : '\r' ∉ unifyBreaks t := by
  fun_induction unifyBreaks t <;> grind

/-! ## Content lines -/

/-- The content lines of a text: a line feed ends a line, together with the carriage return
    before it if there is one; any other carriage return is a space of its line. -/
inductive ContentLines : Text → List Text → Prop
  | last {t} : '\n' ∉ t → ContentLines t [t.map spaced]
  | feed {t rest ls} : '\n' ∉ t → t.getLast? ≠ some '\r' → ContentLines rest ls →
      ContentLines (t ++ '\n' :: rest) (t.map spaced :: ls)
  | returnFeed {t rest ls} : '\n' ∉ t → ContentLines rest ls →
      ContentLines (t ++ '\r' :: '\n' :: rest) (t.map spaced :: ls)

theorem ContentLines.eq_lines {t : Text} {ls : List Text} (h : ContentLines t ls) :
    ls = Text.lines (unifyBreaks t) := by
  induction h with
  | last ht => rw [unifyBreaks_of_notMem ht, Text.lines_of_notMem (newline_notMem_map_spaced ht)]
  | feed ht hreturn _ ih =>
    rw [unifyBreaks_append_newline ht, withoutReturn, if_neg hreturn,
      Text.lines_append_newline (newline_notMem_map_spaced ht), ← ih]
  | @returnFeed t rest ls ht _ ih =>
    have hline : '\n' ∉ t ++ ['\r'] := by simpa using ht
    rw [show t ++ '\r' :: '\n' :: rest = t ++ ['\r'] ++ '\n' :: rest by simp,
      unifyBreaks_append_newline hline, Text.withoutReturn_concat,
      Text.lines_append_newline (newline_notMem_map_spaced ht), ← ih]

theorem contentLines_unifyBreaks (t : Text) : ContentLines t (Text.lines (unifyBreaks t)) := by
  induction t using Text.line_induction with
  | last t ht =>
    rw [unifyBreaks_of_notMem ht, Text.lines_of_notMem (newline_notMem_map_spaced ht)]
    exact .last ht
  | line t rest ht ih =>
    have hkept := newline_notMem_map_spaced (Text.notMem_withoutReturn ht)
    rw [unifyBreaks_append_newline ht, Text.lines_append_newline hkept]
    by_cases hreturn : t.getLast? = some '\r'
    · obtain ⟨start, rfl⟩ := List.getLast?_eq_some_iff.1 hreturn
      rw [Text.withoutReturn_concat, List.append_assoc]
      exact .returnFeed (fun hc => ht (List.mem_append_left _ hc)) ih
    · rw [withoutReturn, if_neg hreturn]
      exact .feed ht hreturn ih

/-- **A text has the content lines that a program writes, and no other ones.** -/
theorem contentLines_iff {t : Text} {ls : List Text} :
    ContentLines t ls ↔ ls = Text.lines (unifyBreaks t) :=
  ⟨ContentLines.eq_lines, fun h => h ▸ contentLines_unifyBreaks t⟩

end Program

end Stencil
