/-
  Diagnostics of a program, told in terms of the template.

  * `report` moves a diagnostic to the line that its program line was written
    from; unless that line is the template's own, the diagnostic says so in its
    code and its message;
  * `fallback` is the document that stands for the output of a program that
    does not compile: the program in comments, an `#error` line, and the
    diagnostics in a part that is never compiled.

  Lines and columns are natural numbers without a bound.
-/
import Stencil.Program
import Stencil.Diagnostic
import Stencil.Comment

namespace Stencil.Remap

/-- A line without the carriage returns at its end. -/
def withoutReturns (line : Text) : Text := (line.reverse.dropWhile (· = '\r')).reverse

/-- The number of characters of a template line, counted from 1. -/
def width (templateText : Text) (line : Nat) : Nat :=
  (withoutReturns (((Text.lines templateText)[line - 1]?).getD [])).length

/-- A diagnostic about a line that is not the template's own. -/
def foreign (d : Diagnostic) (location : Location) : Diagnostic :=
  { code := "SGTT_".toList ++ d.code
    severity := d.severity
    message := "TemplateCompile".toList ++ d.severity.title ++ ' ' :: d.message
    location }

/-- The diagnostic to report for one of a program. -/
def report (p : Program) (templateText : Text) (d : Diagnostic) : Diagnostic :=
  match p.origin? d.location.line with
  | none => foreign d ⟨p.template, 1, 0, 0⟩
  | some origin =>
    if origin.file.same p.template then
      let width := width templateText origin.line
      let column := min d.location.column width
      { d with location := ⟨p.template, origin.line, column, min d.location.length (width - column)⟩ }
    else foreign d ⟨origin.file, origin.line, d.location.column, d.location.length⟩

/-- The width of the mark in front of each program line in the fallback. -/
def markWidth : Nat := 3

/-- The diagnostic as it stands in the fallback, where the program is commented out. -/
def shifted (d : Diagnostic) : Diagnostic :=
  { d with location := { d.location with column := d.location.column + markWidth } }

/-- The document that stands for the output of a program that does not compile. -/
def fallback (p : Program) (diagnostics : List Diagnostic) : Text :=
  commentOut p.source ++ "#error ".toList ++ Program.displayName p.template ++
    ": failed to compile the program generated from this template\n#if false\n".toList ++
    diagnostics.flatMap (fun d => (shifted d).display ++ ['\n']) ++ "#endif\n".toList

end Stencil.Remap
