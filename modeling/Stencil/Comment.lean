/-
  Listings in comments: every line behind `// `.

  * `commentOut` keeps line `n` of a text as line `n`, three columns to the
    right, and ends the last line.
-/
import Stencil.Text

namespace Stencil

/-- What stands before a commented line. -/
def commentMark : Text := "// ".toList

/-- The text with a line feed at its end, unless it is empty. -/
def endLine (t : Text) : Text :=
  if t.isEmpty ∨ t.getLast? = some '\n' then t else t ++ ['\n']

/-- Every line of the text as a comment. -/
def commentOut (t : Text) : Text :=
  endLine ((Text.linesInclusive t).flatMap (commentMark ++ ·))

end Stencil
