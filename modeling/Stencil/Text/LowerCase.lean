/-
  Lower case.

  * `lower` maps every character to its lower-case form; a capital I with a dot
    becomes two characters;
  * a capital sigma becomes the final form when it ends a word: a character with
    case stands before it and none after it, ignorable characters not counted.
-/
import Stencil.Text
import Stencil.Text.CaseTable

namespace Stencil.Text

/-- The lower-case form of a character that has one of a single character. -/
def lowerChar (c : Char) : Char :=
  match lowerRanges.find? fun r =>
      r.first ≤ c.toNat && c.toNat ≤ r.last && (c.toNat - r.first) % r.step == 0 with
  | some r => Char.ofNat (c.toNat + r.shift).toNat
  | none => c

/-- Whether the first character that is not ignorable has case. -/
def leadsToCased (t : Text) : Bool :=
  ((t.dropWhile (inRanges ignorableRanges)).head?).any (inRanges casedRanges)

/-- The lower-case form of the text that follows `before`, which is held last
    character first. -/
def lowerFrom (before : Text) : Text → Text
  | [] => []
  | c :: rest =>
    let mapped : Text :=
      if c = 'Σ' then [if leadsToCased before && !leadsToCased rest then 'ς' else 'σ']
      else if c = 'İ' then ['i', Char.ofNat 0x307]
      else [lowerChar c]
    mapped ++ lowerFrom (c :: before) rest

/-- The text in lower case. -/
def lower (t : Text) : Text := lowerFrom [] t

end Stencil.Text
