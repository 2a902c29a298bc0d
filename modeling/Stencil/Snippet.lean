/-
  Diagnostics as they are shown to a reader, with the line that they are about.

  * `byteRange` is the part of a source that a location names, in bytes; it stays
    within one line;
  * `render` shows a diagnostic with its line and carets below the part; tabs are
    widened to tab stops, and every character has as many carets as it has columns;
  * `renderAll` shows some diagnostics; one whose file cannot be read is shown on one
    line.
-/
import Stencil.Diagnostic
import Stencil.FileTree
import Stencil.Text.Width

namespace Stencil.Snippet

/-! ## Parts of a source -/

/-- The number of bytes of a text. -/
def byteSize (t : Text) : Nat := (Text.Utf8.encode t).length

/-- The source without the lines before a line, which is counted from 1. -/
def fromLine (source : Text) (line : Nat) : Text :=
  ((Text.linesInclusive source).drop (line - 1)).flatten

/-- The byte at which a line begins; the end of the source for a line past the last. -/
def lineStart (source : Text) (line : Nat) : Nat :=
  byteSize ((Text.linesInclusive source).take (line - 1)).flatten

/-- A line without its line feed; empty for a line past the last. -/
def lineText (source : Text) (line : Nat) : Text :=
  (fromLine source line).takeWhile (· ≠ '\n')

/-- The byte at which a character of a line begins; the end of the line if it has fewer
    characters. -/
def charOffset (line : Text) (n : Nat) : Nat := byteSize (line.take n)

/-- The bytes of a location, from the first one up to the one after the last. -/
def byteRange (source : Text) (l : Location) : Nat × Nat :=
  let start := lineStart source l.line
  let line := lineText source l.line
  (start + charOffset line l.column, start + charOffset line (l.column + l.length))

/-! ## Lines with carets -/

/-- The distance of tab stops. -/
def tabStop : Nat := 4

/-- A character of a line with the byte at which it begins and the columns that it takes. -/
structure Cell where
  byte : Nat
  char : Char
  width : Nat

/-- The cells of a line from a byte and a column on. -/
def cells (byte column : Nat) : Text → List Cell
  | [] => []
  | c :: rest =>
    let width := if c = '\t' then tabStop - column % tabStop else Text.width c
    ⟨byte, c, width⟩ :: cells (byte + byteSize [c]) (column + width) rest

/-- A cell as it is shown: a tab as spaces. -/
def shown (cell : Cell) : Text :=
  if cell.char = '\t' then List.replicate cell.width ' ' else [cell.char]

/-- The mark below a cell: carets where the part overlaps it, blanks before its end. -/
def mark (start stop : Nat) (cell : Cell) : Text :=
  if max start cell.byte < min stop (cell.byte + byteSize [cell.char]) then
    List.replicate cell.width '^'
  else if cell.byte < stop then List.replicate cell.width ' '
  else []

/-- The column after a line. -/
def lastCell (line : Text) : Cell := ⟨byteSize line, Char.ofNat 0, 1⟩

/-- The marks below a line and the column after it; a part without characters is marked
    as if it had one. -/
def marks (line : Text) (start stop : Nat) : Text :=
  (cells 0 0 line ++ [lastCell line]).flatMap (mark start (max stop (start + 1)))

/-- The line of a byte: its number, counted from 1, the byte at which it begins, and its
    text. -/
def lineOf (byte : Nat) (number start : Nat) : List Text → Nat × Nat × Text
  | [] => (number, start, [])
  | [line] => (number, start, line)
  | line :: rest =>
    if byte ≤ start + byteSize line then (number, start, line)
    else lineOf byte (number + 1) (start + byteSize line + 1) rest

/-- The characters that do not count at the end of a line. -/
def isLineEnd (c : Char) : Bool := c = '\n' || c = '\r' || c.toNat = 0

/-- A line without the characters at its end that do not count. -/
def trimLineEnd (line : Text) : Text := (line.reverse.dropWhile isLineEnd).reverse

/-- The number of characters of a line before a byte. -/
def charsBefore (line : Text) (byte : Nat) : Nat :=
  (cells 0 0 line).countP fun cell => cell.byte + byteSize [cell.char] ≤ byte

/-! ## Diagnostics -/

/-- The word for a severity. -/
def severityWord : Severity → Text
  | .error => "error".toList
  | .warning => "warning".toList
  | .info => "note".toList

/-- The first line of a diagnostic. -/
def header (d : Diagnostic) : Text :=
  severityWord d.severity ++ (if d.code.isEmpty then [] else '[' :: d.code ++ [']']) ++
    ": ".toList ++ d.message ++ ['\n']

/-- A diagnostic about a part of a source. -/
def render (name source : Text) (d : Diagnostic) : Text :=
  let (start, stop) := byteRange source d.location
  let (number, lineStart, line) := lineOf start 1 0 (Text.lines source)
  let column := charsBefore line (start - lineStart) + 1
  let margin := List.replicate (Text.number number).length ' '
  let visible := trimLineEnd line
  header d ++
    margin ++ " ┌─ ".toList ++ name ++ ':' :: Text.number number ++ ':' :: Text.number column ++
    '\n' :: margin ++ " │\n".toList ++
    Text.number number ++ " │ ".toList ++ (cells 0 0 visible).flatMap shown ++
    '\n' :: margin ++ " │ ".toList ++ marks visible (start - lineStart) (stop - lineStart) ++
    "\n\n".toList

/-- A diagnostic with the source that its file has, if it can be read. A file is read
    and named by the first of the paths that lead to it. -/
def renderIn (tree : FileTree) (names : List Path) (d : Diagnostic) : Text :=
  let name := (names.find? d.location.file.same).getD d.location.file
  match tree.readText name with
  | .ok source => render name.text source d
  | .error _ => d.display ++ ['\n']

/-- Some diagnostics with the sources of their files. -/
def renderAll (tree : FileTree) (ds : List Diagnostic) : Text :=
  ds.flatMap (renderIn tree (ds.map fun d => d.location.file))

end Stencil.Snippet
