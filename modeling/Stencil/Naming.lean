/-
  Names of output files.

  * `outputName` is `stem.ext`, or `stem.n.ext` for a number `n` above zero;
  * `outputNames` numbers the templates of one file name in order, ignoring
    case, and passes over a number whose name is already taken.
-/
import Stencil.Path
import Stencil.Text.LowerCase

namespace Stencil.Naming

/-- The output name of a template for a number. -/
def outputName (template : Path) (number : Nat) (extension : Text) : Text :=
  let stem := template.stem?.getD []
  if number = 0 then stem ++ '.' :: extension
  else stem ++ '.' :: Text.number number ++ '.' :: extension

/-- Templates of one key are numbered together. -/
def key (template : Path) : Text := Text.lower (template.shownName?.getD [])

/-- The least of `fuel` numbers from `n` on whose name is not taken, ignoring
    case; the number after them if all are. -/
def firstFree (template : Path) (extension : Text) (taken : List Text) (n : Nat) : Nat → Nat
  | 0 => n
  | fuel + 1 =>
    if Text.lower (outputName template n extension) ∈ taken then
      firstFree template extension taken (n + 1) fuel
    else n

/-- The names of the templates in order.  `given` lists the keys of the earlier
    templates with the numbers after theirs, `taken` the names in lower case. -/
def namesFrom (extension : Text) (given : List (Text × Nat)) (taken : List Text) :
    List Path → List Text
  | [] => []
  | template :: rest =>
    let start := ((given.find? fun entry => entry.1 == key template).map Prod.snd).getD 0
    let number := firstFree template extension taken start taken.length
    let name := outputName template number extension
    name :: namesFrom extension ((key template, number + 1) :: given)
      (Text.lower name :: taken) rest

/-- The output names of the templates, in the same order. -/
def outputNames (templates : List Path) (extension : Text) : List Text :=
  namesFrom extension [] [] templates

end Stencil.Naming
