/-
  Exact decimals of the numbers `m · 2^q`.

  * `fixed` writes a given number of digits after the point, `scientific` writes
    one digit, the point, the digits and an exponent;
  * `general` writes a given number of significant digits in the shorter of the
    two ways and drops the zeros at the end;
  * a value that lies halfway between two decimals is rounded away from zero.
-/
import Stencil.Text

namespace Stencil.Text.Decimal

/-- The magnitude `m · 2^q`. -/
structure Magnitude where
  m : Nat
  q : Int
  deriving DecidableEq

/-- `num / den` rounded to the nearest integer, a half upwards. -/
def roundDiv (num den : Nat) : Nat := (2 * num + den) / (2 * den)

/-- The nearest integer to the magnitude times `10^places`. -/
def scaled (v : Magnitude) (places : Int) : Nat :=
  roundDiv (v.m * twoTo v.q.toNat * tenTo places.toNat) (twoTo (-v.q).toNat * tenTo (-places).toNat)

/-- The largest integer below the magnitude times `10^places`. -/
def truncated (v : Magnitude) (places : Nat) : Nat :=
  v.m * twoTo v.q.toNat * tenTo places / twoTo (-v.q).toNat

/-- The exponent of ten of the first digit; 0 for zero. -/
def exponent (v : Magnitude) : Int :=
  if v.m = 0 then 0
  else
    let whole := truncated v 0
    if whole ≠ 0 then ((Nat.toDigits 10 whole).length : Int) - 1
    else ((Nat.toDigits 10 (truncated v 400)).length : Int) - 401

/-- A number in at least `n` digits. -/
def padded (n value : Nat) : Text :=
  let digits := Nat.toDigits 10 value
  List.replicate (n - digits.length) '0' ++ digits

/-- The digits before and after the point. -/
def withPoint (before after : Text) (always : Bool) : Text :=
  if after.isEmpty && !always then before else before ++ '.' :: after

/-- The digits without the zeros at their end. -/
def dropZeros (digits : Text) : Text := (digits.reverse.dropWhile (· = '0')).reverse

/-- The magnitude with `places` digits after the point. -/
def fixed (v : Magnitude) (places : Nat) (always : Bool) : Text :=
  let digits := padded (places + 1) (scaled v places)
  withPoint (digits.take (digits.length - places)) (digits.drop (digits.length - places)) always

/-- The `n + 1` significant digits of the magnitude and the exponent of the first. -/
def significant (v : Magnitude) (n : Nat) : Text × Int :=
  let e := exponent v
  let digits := padded (n + 1) (scaled v ((n : Int) - e))
  if digits.length = n + 1 then (digits, e) else (digits.take (n + 1), e + 1)

/-- An exponent in at least two digits, with its sign. -/
def exponentText (letter : Char) (e : Int) : Text :=
  letter :: (if e < 0 then '-' else '+') :: padded 2 e.natAbs

/-- The magnitude as a digit, `places` digits after the point and an exponent. -/
def scientific (v : Magnitude) (places : Nat) (letter : Char) (always : Bool) : Text :=
  let (digits, e) := significant v places
  withPoint (digits.take 1) (digits.drop 1) always ++ exponentText letter e

/-- The magnitude in `precision` significant digits: with an exponent when it
    is below -4 or not below the precision; with `always` the zeros stay. -/
def general (v : Magnitude) (precision : Nat) (letter : Char) (always : Bool) : Text :=
  let precision := max precision 1
  let (digits, e) := significant v (precision - 1)
  let tidy := fun (t : Text) => if always then t else dropZeros t
  if e < -4 ∨ (precision : Int) ≤ e then
    withPoint (digits.take 1) (tidy (digits.drop 1)) always ++ exponentText letter e
  else if e < 0 then
    withPoint ['0'] (tidy (List.replicate ((-e).toNat - 1) '0' ++ digits)) always
  else withPoint (digits.take (e.toNat + 1)) (tidy (digits.drop (e.toNat + 1))) always

end Stencil.Text.Decimal
