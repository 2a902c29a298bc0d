/-
  Lua numbers: the 64-bit floating-point numbers, with the whole numbers up to
  2^53 kept apart.

  * `ofInt` and `ofFloat` give each number its one form: `whole` for an integer
    up to 2^53 in magnitude, `real` for every other number and for minus zero;
  * `add`, `sub`, `mul`, … compute on whole numbers exactly and round once, which
    is what floating-point arithmetic does on them;
  * `read?` reads a numeral, decimal, hexadecimal or binary;
  * `write` prints 14 significant digits.
-/
import Stencil.Text.Decimal
import Stencil.Text.Utf8

namespace Stencil.Lua

open Text (Decimal.Magnitude)

/-- A Lua number. -/
inductive Number where
  /-- An integer up to 2^53 in magnitude. -/
  | whole (n : Int)
  /-- Any other number. -/
  | real (x : Float)

namespace Number

/-! ## Forms -/

/-- The largest magnitude of a whole number. -/
def wholeLimit : Nat := 9007199254740992

/-- The parts of a floating-point number. -/
inductive Parts where
  /-- A finite number `± m · 2^q`. -/
  | finite (negative : Bool) (v : Decimal.Magnitude)
  | infinite (negative : Bool)
  | nan

/-- The parts of a floating-point number, from its bits. -/
def parts (x : Float) : Parts :=
  let bits := x.toBits.toNat
  let negative : Bool := bits / Text.twoTo 63 == 1
  let e : Nat := bits / Text.twoTo 52 % Text.twoTo 11
  let fraction : Nat := bits % Text.twoTo 52
  if e = 2047 then if fraction = 0 then .infinite negative else .nan
  else if e = 0 then .finite negative ⟨fraction, -1074⟩
  else .finite negative ⟨fraction + Text.twoTo 52, (e : Int) - 1075⟩

/-- The integer that a magnitude is, if it is one up to the limit. -/
def wholeOf? (v : Decimal.Magnitude) : Option Nat :=
  let value? : Option Nat :=
    if 0 ≤ v.q then if v.q ≤ 64 then some (v.m * Text.twoTo v.q.toNat) else none
    else
      let den := Text.twoTo (-v.q).toNat
      if v.m % den = 0 then some (v.m / den) else none
  value?.filter (· ≤ wholeLimit)

/-- The number of a floating-point value. -/
def ofFloat (x : Float) : Number :=
  match parts x with
  | .finite negative v => match wholeOf? v with
    | some n => if n == 0 && negative then real x else whole (if negative then -(n : Int) else n)
    | none => real x
  | _ => real x

/-- The number nearest to an integer. -/
def ofInt (n : Int) : Number :=
  if n.natAbs ≤ wholeLimit then whole n
  else
    let x := Float.ofScientific n.natAbs false 0
    real (if n < 0 then -x else x)

/-- The number of a natural number. -/
def ofNat (n : Nat) : Number := ofInt n

/-- The floating-point value of a number. -/
def toFloat : Number → Float
  | whole n => Float.ofInt n
  | real x => x

/-- The integer next to a number towards zero; 0 for what is not finite. -/
def truncate : Number → Int
  | whole n => n
  | real x => match parts x with
    | .finite negative v =>
      let n : Nat := v.m * Text.twoTo v.q.toNat / Text.twoTo (-v.q).toNat
      if negative then -(n : Int) else n
    | _ => 0

/-- Whether the number is not a number. -/
def isNan : Number → Bool
  | whole _ => false
  | real x => x.isNaN

/-! ## Comparison -/

/-- Equality; not a number differs from itself. -/
def eq : Number → Number → Bool
  | whole a, whole b => a == b
  | a, b => a.toFloat == b.toFloat

/-- The order of numbers. -/
def lt : Number → Number → Bool
  | whole a, whole b => a < b
  | a, b => a.toFloat < b.toFloat

/-- The order of numbers, or equality. -/
def le : Number → Number → Bool
  | whole a, whole b => a ≤ b
  | a, b => a.toFloat ≤ b.toFloat

/-! ## Arithmetic -/

/-- The sum. -/
def add : Number → Number → Number
  | whole a, whole b => ofInt (a + b)
  | a, b => ofFloat (a.toFloat + b.toFloat)

/-- The difference. -/
def sub : Number → Number → Number
  | whole a, whole b => ofInt (a - b)
  | a, b => ofFloat (a.toFloat - b.toFloat)

/-- The product; zero times a negative number is minus zero. -/
def mul : Number → Number → Number
  | whole a, whole b =>
    if a * b = 0 ∧ (a < 0 ∨ b < 0) then real (-0.0) else ofInt (a * b)
  | a, b => ofFloat (a.toFloat * b.toFloat)

/-- The quotient. -/
def div (a b : Number) : Number := ofFloat (a.toFloat / b.toFloat)

/-- The remainder that has the sign of the divisor. -/
def mod (a b : Number) : Number :=
  let general := fun (_ : Unit) =>
    let x := a.toFloat
    let y := b.toFloat
    ofFloat (x - (x / y).floor * y)
  match a, b with
  | whole m, whole n =>
    if n ≠ 0 ∧ m.natAbs < Text.twoTo 31 ∧ n.natAbs < Text.twoTo 31 then whole (Int.fmod m n) else general ()
  | _, _ => general ()

/-- The power. -/
def pow (a b : Number) : Number := ofFloat (Float.pow a.toFloat b.toFloat)

/-- The number with the other sign. -/
def neg : Number → Number
  | whole 0 => real (-0.0)
  | whole n => whole (-n)
  | real x => ofFloat (-x)

/-- The largest integer not above the number. -/
def floor : Number → Number
  | whole n => whole n
  | real x => ofFloat x.floor

/-! ## Reading -/

/-- A decimal digit. -/
def digit? (b : UInt8) : Option Nat :=
  if 48 ≤ b && b ≤ 57 then some (b.toNat - 48) else none

/-- A hexadecimal digit. -/
def hexDigit? (b : UInt8) : Option Nat :=
  if 48 ≤ b && b ≤ 57 then some (b.toNat - 48)
  else if 65 ≤ b && b ≤ 70 then some (b.toNat - 55)
  else if 97 ≤ b && b ≤ 102 then some (b.toNat - 87)
  else none

/-- The digits read so far: their value, how many stand after the point, whether
    a point and whether a digit was read. -/
structure Digits where
  value : Nat
  places : Nat
  point : Bool
  any : Bool

/-- Reads digits of a base with at most one point; nothing for a second point. -/
def readDigits (digit? : UInt8 → Option Nat) (base : Nat) (d : Digits) :
    Bytes → Option (Digits × Bytes)
  | [] => some (d, [])
  | b :: rest =>
    if b = 46 then
      if d.point then none else readDigits digit? base { d with point := true } rest
    else match digit? b with
      | none => some (d, b :: rest)
      | some n => readDigits digit? base
          { d with
            value := d.value * base + n
            places := if d.point then d.places + 1 else d.places
            any := true } rest

/-- Reads decimal digits on top of a value. -/
def readNat (n : Nat) : Bytes → Nat × Bytes
  | [] => (n, [])
  | b :: rest => match digit? b with
    | some d => readNat (n * 10 + d) rest
    | none => (n, b :: rest)

/-- Reads an exponent that may follow the digits, marked by a letter. -/
def readExponent (lower : UInt8) : Bytes → Option (Int × Bytes)
  | [] => some (0, [])
  | b :: rest =>
    if b ||| 32 = lower then
      let (negative, digits) : Bool × Bytes := match rest with
        | 45 :: r => (true, r)
        | 43 :: r => (false, r)
        | r => (false, r)
      if (digits.head?.bind digit?).isNone then none
      else
        let (n, rest') := readNat 0 digits
        if n ≥ 1048576 then none else some (if negative then -(n : Int) else n, rest')
    else some (0, b :: rest)

/-- A byte of white space in the C locale. -/
def isSpace (b : UInt8) : Bool := b == 32 || (9 ≤ b && b ≤ 13)

/-- The number nearest to `n · 2^e`. -/
def binary (n : Nat) (e : Int) : Number :=
  if e = 0 then ofNat n
  else if n = 0 then whole 0
  else if 0 ≤ e then if e ≤ 2000 then ofNat (n * Text.twoTo e.toNat) else real (1.0 / 0.0)
  else ofFloat (Float.scaleB (Float.ofNat n) e)

/-- The number nearest to `n · 10^e`. -/
def decimal (n : Nat) (e : Int) : Number :=
  if e = 0 then ofNat n
  else if n = 0 then whole 0
  else if 0 ≤ e then
    if e ≤ 400 then ofNat (n * Text.tenTo e.toNat) else real (1.0 / 0.0)
  else if e < -2000 ∧ (Nat.toDigits 10 n).length + 400 < e.natAbs then whole 0
  else ofFloat (Float.ofScientific n true e.natAbs)

/-- Reads an unsigned numeral that ends the bytes, but for white space. -/
def readUnsigned? (bytes : Bytes) : Option Number :=
  let finish := fun (n : Number) (rest : Bytes) => if rest.all isSpace then some n else none
  let start : Digits := ⟨0, 0, false, false⟩
  match bytes with
  | 48 :: 120 :: rest | 48 :: 88 :: rest => do
    let (d, rest) ← readDigits hexDigit? 16 start rest
    if !d.any then none
    else
      let (e, rest) ← readExponent 112 rest
      finish (binary d.value (e - 4 * d.places)) rest
  | 48 :: 98 :: rest | 48 :: 66 :: rest => do
    let (d, rest) ← readDigits (fun b => if b = 48 then some 0 else if b = 49 then some 1 else none)
      2 start rest
    if !d.any || d.point then none else finish (ofNat d.value) rest
  | _ => do
    let (d, rest) ← readDigits digit? 10 start bytes
    if !d.any then none
    else
      let (e, rest) ← readExponent 101 rest
      finish (decimal d.value (e - d.places)) rest

/-- The rest after a word, in any mixture of cases. -/
def stripWord? : List UInt8 → Bytes → Option Bytes
  | [], rest => some rest
  | w :: word, b :: rest => if b ||| 32 = w then stripWord? word rest else none
  | _ :: _, [] => none

/-- Reads `inf`, `infinity` or `nan`, which end the bytes but for white space. -/
def readWord? (negative : Bool) (bytes : Bytes) : Option Number :=
  match stripWord? [105, 110, 102] bytes with
  | some rest =>
    let rest := (stripWord? [105, 110, 105, 116, 121] rest).getD rest
    if rest.all isSpace then some (real (if negative then -1.0 / 0.0 else 1.0 / 0.0)) else none
  | none => match stripWord? [110, 97, 110] bytes with
    | some rest => if rest.all isSpace then some (real (0.0 / 0.0)) else none
    | none => none

/-- Reads a numeral with white space and a sign before it. -/
def read? (bytes : Bytes) : Option Number :=
  let bytes := bytes.dropWhile isSpace
  let (negative, digits) : Bool × Bytes := match bytes with
    | 45 :: r => (true, r)
    | 43 :: r => (false, r)
    | r => (false, r)
  if digits.head?.any (· ≥ 65) then readWord? negative digits
  else (readUnsigned? digits).map fun n => if negative then n.neg else n

/-! ## Writing -/

/-- The sign and the magnitude of a number, or its name when it is not finite. -/
def magnitude : Number → Parts
  | whole n => .finite (n < 0) ⟨n.natAbs, 0⟩
  | real x => parts x

/-- The text of a number in 14 significant digits. -/
def write (n : Number) : Text :=
  match n with
  | whole k =>
    if k.natAbs < 100000000000000 then
      (if k < 0 then ['-'] else []) ++ Nat.toDigits 10 k.natAbs
    else (if k < 0 then ['-'] else []) ++ Text.Decimal.general ⟨k.natAbs, 0⟩ 14 'e' false
  | real x => match parts x with
    | .nan => "nan".toList
    | .infinite negative => (if negative then "-inf" else "inf").toList
    | .finite negative v =>
      (if negative then ['-'] else []) ++ Text.Decimal.general v 14 'e' false

end Number

end Stencil.Lua
