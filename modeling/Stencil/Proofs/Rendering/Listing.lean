/-
  Places in the listings of a program.

  A program is listed in comments in two files: in the document that stands for the output of a
  template whose program does not compile, and behind the output of a template that asks for it.

  * `fallback_split`: the place that a diagnostic names in the first one, and what stands around it;
  * `annotate_split`: the listing in the second one;
  * `endLine_source`: a program that was written is not changed by ending its last line.

  Main statement: `listing_exact`.
-/
import Stencil.Proofs.Program.Fallback
import Stencil.Proofs.Program.Layout
import Stencil.Rendering

namespace Stencil

open Text (charAt? linesInclusive number rows spot uncommented)

/-! ## The document of a program that does not compile -/

namespace Remap

theorem entry_eq (d : Diagnostic) : entry d = d.location.file.text ++
    (spot d.location.line (d.location.column + 3) ++
      ("): ".toList ++ d.severity.name ++ ' ' :: (d.code ++ (": ".toList ++ d.message)))) := by
  rw [entry, Diagnostic.display_eq, Diagnostic.place]
  simp only [List.append_assoc, List.cons_append, List.nil_append]

/-- **A diagnostic has its line behind the lines of those before it.** -/
theorem fallback_split (p : Program) (first : List Diagnostic) (d : Diagnostic)
    (later : List Diagnostic) : ∃ behind, fallback p (first ++ d :: later) =
      (opening p ++ first.map entry).flatMap (· ++ ['\n']) ++ (d.location.file.text ++
        (spot d.location.line (d.location.column + 3) ++ ')' :: behind)) := by
  rw [fallback_eq, List.map_append, List.map_cons, entry_eq]
  simp only [List.flatMap_append, List.flatMap_cons, List.append_assoc, List.append_cancel_left_eq]
  exact ⟨_, rfl⟩

theorem charAt?_fallback {p : Program} {line column : Nat} {c : Char}
    (h : charAt? p.source line column = some c) (ds : List Diagnostic) :
    charAt? (fallback p ds) line (column + 3) = some c := by
  rw [fallback]
  simp only [List.append_assoc]
  exact Text.charAt?_append (charAt?_commentOut h) _

end Remap

/-! ## Output with a listing -/

namespace Rendering

theorem annotate_split (output : Text) {r : Resolution} (h : r.appendProgram = true) (a : Artifact)
    (p : Program) : ∃ before, annotate output r a p =
      before ++ (programBanner ++ ("\n//\n".toList ++ commentOut p.source)) := by
  rw [annotate, if_pos (by rw [h, Bool.or_true]), h, if_pos rfl, programNote]
  exact ⟨output ++ '\n' :: (if r.appendLibraries then librariesNote a else []) ++ ['\n'], by simp⟩

end Rendering

namespace Program

theorem endLine_source (r : Resolution) (template : Path) (locale : Option Text) :
    endLine (write r template locale).source = (write r template locale).source := by
  rw [endLine, if_pos]
  exact .inr (getLast?_source (by simp [epilogue]))

end Program

open Rendering (programBanner)

/-- **Listings keep places and lose nothing.**  The listing of a text has one line for each of its
    rows, ended by a line feed.  Without the first three characters of each line it is the text
    again, with a line feed behind a last line that has none; and a character stands in its line,
    three columns further to the right.  So the place that is printed for a diagnostic in the
    document of its program is the place in that document of the character that the diagnostic is
    about, and the listing of a program behind an output is the program, without the first three
    characters of each line. -/
theorem listing_exact :
    (∀ t, linesInclusive (commentOut t) =
        (rows t).map (fun row => commentMark ++ (row ++ ['\n'])) ∧
      uncommented (commentOut t) =
        (if t = [] ∨ t.getLast? = some '\n' then t else t ++ ['\n']) ∧
      ∀ line column c, charAt? t line column = some c →
        charAt? (commentOut t) line (column + 3) = some c) ∧
    (∀ p first d later c, charAt? p.source d.location.line (d.location.column + 1) = some c →
      (∃ behind, Remap.fallback p (first ++ d :: later) =
          (Remap.opening p ++ first.map Remap.entry).flatMap (· ++ ['\n']) ++
            (d.location.file.text ++ '(' :: number d.location.line ++
              ',' :: number (d.location.column + 4) ++ ')' :: behind)) ∧
        charAt? (Remap.fallback p (first ++ d :: later)) d.location.line (d.location.column + 4) =
          some c) ∧
    ∀ output r a path locale, r.appendProgram = true →
      ∃ before, Rendering.annotate output r a (Program.write r path locale) = before ++
          (programBanner ++
            ("\n//\n".toList ++ commentOut (Program.write r path locale).source)) ∧
        uncommented (commentOut (Program.write r path locale).source) =
          (Program.write r path locale).source := by
  refine ⟨fun t => ⟨linesInclusive_commentOut t, ?_, fun _ _ _ => charAt?_commentOut⟩, ?_, ?_⟩
  · rw [uncommented_commentOut, endLine]
    simp only [List.isEmpty_iff]
  · intro p first d later c h
    obtain ⟨behind, hsplit⟩ := Remap.fallback_split p first d later
    refine ⟨⟨behind, ?_⟩, Remap.charAt?_fallback h _⟩
    rw [hsplit, spot]
    simp only [List.append_assoc, List.cons_append]
  · intro output r a path locale h
    obtain ⟨before, hsplit⟩ := Rendering.annotate_split output h a (Program.write r path locale)
    exact ⟨before, hsplit, by rw [uncommented_commentOut, Program.endLine_source]⟩

/-- A program whose last line has no line feed. -/
def unendedProgram : Program := ⟨⟨"t/m.t".toList⟩, "x\n é = 1".toList, []⟩

/-- A diagnostic about the `=` in its last line. -/
def unendedDiagnostic : Diagnostic :=
  ⟨"E1".toList, .error, "unexpected".toList, ⟨⟨Program.label⟩, 2, 3, 1⟩⟩

/-- The place that is printed has the `=`, and so has the last line of the listing. -/
theorem listing_exact_unended :
    charAt? unendedProgram.source 2 4 = some '=' ∧
    charAt? (commentOut unendedProgram.source) 2 7 = some '=' ∧
    (∃ behind, Remap.fallback unendedProgram [unendedDiagnostic] =
        (Remap.opening unendedProgram).flatMap (· ++ ['\n']) ++
          ("sgtt_program(2,7)".toList ++ behind)) ∧
      charAt? (Remap.fallback unendedProgram [unendedDiagnostic]) 2 7 = some '=' := by
  have hchar : charAt? unendedProgram.source 2 4 = some '=' := by decide
  obtain ⟨hlistings, hplaces, -⟩ := listing_exact
  refine ⟨hchar, (hlistings unendedProgram.source).2.2 2 4 '=' hchar, ?_⟩
  obtain ⟨⟨behind, hprinted⟩, hfound⟩ :=
    hplaces unendedProgram [] unendedDiagnostic [] '=' hchar
  refine ⟨⟨behind, ?_⟩, hfound⟩
  rw [List.map_nil, List.append_nil] at hprinted
  exact hprinted

end Stencil
