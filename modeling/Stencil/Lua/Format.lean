/-
  The formats of `string.format`.

  * `Format.Piece`: literal text, a conversion, or a conversion that is not known;
    `Format.pieces` cuts a format into them;
  * `Format.integer`, `Format.number`, `Format.text`, `Format.quoted`: what a
    conversion makes of a value.
-/
import Stencil.Lua.Number

namespace Stencil.Lua.Format

/-- The flags, width and precision of a conversion. -/
structure Layout where
  left : Bool
  plus : Bool
  zero : Bool
  space : Bool
  alternate : Bool
  width : Nat
  precision? : Option Nat

/-- A part of a format. -/
inductive Piece where
  | literal (text : Bytes)
  /-- A conversion with its letter. -/
  | conversion (layout : Layout) (letter : UInt8)
  /-- A conversion that is not known. -/
  | unknown (text : Bytes)

/-- The letters of the conversions. -/
def letters : Bytes :=
  [65, 69, 70, 71, 88, 97, 99, 100, 101, 102, 103, 105, 111, 112, 113, 115, 117, 120]

/-- An ASCII digit. -/
def isDigit (b : UInt8) : Bool := 48 ≤ b && b ≤ 57

/-- Reads at most two digits. -/
def smallNumber (bytes : Bytes) : Option Nat × Bytes :=
  let digits := (bytes.take 2).takeWhile isDigit
  (if digits.isEmpty then none
    else some (digits.foldl (fun n d => n * 10 + (d.toNat - 48)) 0), bytes.drop digits.length)

/-- The flags among some bytes. -/
def flags (bytes : Bytes) : Layout :=
  ⟨bytes.contains 45, bytes.contains 43, bytes.contains 48, bytes.contains 32,
    bytes.contains 35, 0, none⟩

/-- Reads a conversion after its `%`: the part and the rest. -/
def conversion (bytes : Bytes) : Piece × Bytes :=
  let isFlag := fun (b : UInt8) => b == 45 || b == 43 || b == 48 || b == 32 || b == 35
  let layout := flags (bytes.takeWhile isFlag)
  let (width?, rest) := smallNumber (bytes.dropWhile isFlag)
  let (precision?, rest) : Option Nat × Bytes := match rest with
    | 46 :: rest =>
      let (precision?, rest) := smallNumber rest
      (some (precision?.getD 0), rest)
    | _ => (none, rest)
  let read := bytes.length - rest.length
  match rest with
  | letter :: after =>
    if letters.contains letter then
      (.conversion { layout with width := width?.getD 0, precision? } letter, after)
    else (.unknown (37 :: bytes.take (if letter ≥ 32 then read + 1 else read)), [])
  | [] => (.unknown (37 :: bytes), [])

/-- The parts of a format; nothing follows a conversion that is not known. -/
def pieces (format : Bytes) : List Piece := go (format.length + 1) format
where
  /-- At most a number of parts. -/
  go : Nat → Bytes → List Piece
    | 0, _ => []
    | _, [] => []
    | n + 1, 37 :: 37 :: rest => .literal [37] :: go n rest
    | n + 1, 37 :: rest => let (piece, rest) := conversion rest; piece :: go n rest
    | n + 1, format =>
      .literal (format.takeWhile (· != 37)) :: go n (format.dropWhile (· != 37))

/-! ## Layout -/

/-- A number of spaces. -/
def spaces (n : Nat) : Bytes := List.replicate n 32

/-- Text in the width of a layout. -/
def pad (l : Layout) (text : Bytes) : Bytes :=
  let fill := spaces (l.width - text.length)
  if l.left then text ++ fill else fill ++ text

/-- Digits after a sign or a mark, in the width of a layout, filled with zeros if it
    asks for them. -/
def padDigits (l : Layout) (mark digits : Bytes) : Bytes :=
  if l.zero && !l.left then
    mark ++ List.replicate (l.width - (mark ++ digits).length) 48 ++ digits
  else pad l (mark ++ digits)

/-- Text of a layout, cut to its precision. -/
def text (l : Layout) (t : Bytes) : Bytes :=
  pad l (match l.precision? with
    | some n => t.take n
    | none => t)

/-- The sign of a number. -/
def sign (l : Layout) (negative : Bool) : Bytes :=
  if negative then [45] else if l.plus then [43] else if l.space then [32] else []

/-- The letter in lower case. -/
def lowerLetter (letter : UInt8) : UInt8 := letter ||| 32

/-- Whether a letter is in upper case. -/
def isUpper (letter : UInt8) : Bool := 65 ≤ letter && letter ≤ 90

/-- The digits in the base of a letter. -/
def digitsIn (letter : UInt8) (n : Nat) : Bytes :=
  let base := if lowerLetter letter == 120 then 16 else if letter == 111 then 8 else 10
  let digits := Text.Utf8.encode (Nat.toDigits base n)
  if isUpper letter then digits.map fun b => if 97 ≤ b && b ≤ 102 then b - 32 else b else digits

/-- An integer: signed for `d` and `i`, otherwise modulo 2^64. -/
def integer (l : Layout) (letter : UInt8) (n : Int) : Bytes :=
  let isSigned := letter == 100 || letter == 105
  let magnitude := if isSigned then n.natAbs else (n % Text.twoTo 64).toNat
  let l := if l.precision?.isSome then { l with zero := false } else l
  let isHex := lowerLetter letter == 120
  let digits : Bytes :=
    if magnitude = 0 then
      if l.precision? = some 0 && !(letter == 111 && l.alternate) then [] else [48]
    else (if letter == 111 && l.alternate then [48] else []) ++ digitsIn letter magnitude
  let digits := List.replicate ((l.precision?.getD 0) - digits.length) 48 ++ digits
  let mark : Bytes :=
    if isSigned then sign l (n < 0)
    else if isHex && l.alternate && magnitude ≠ 0 then [48, letter] else []
  padDigits l mark digits

/-- The letters of a text in the case of a letter. -/
def inCaseOf (letter : UInt8) (t : Bytes) : Bytes :=
  if isUpper letter then t.map fun b => if 97 ≤ b && b ≤ 122 then b - 32 else b else t

/-- The hexadecimal form of a magnitude: one digit, a point, digits, an exponent of two. -/
def hexadecimal (v : Text.Decimal.Magnitude) (precision? : Option Nat) (always : Bool) : Text :=
  let bits := Nat.log2 v.m
  let e : Int := if v.m = 0 then 0 else v.q + bits
  let places := precision?.getD 13
  let scaled :=
    if v.m = 0 then 0
    else Text.Decimal.roundDiv (v.m * Text.twoTo (4 * places)) (Text.twoTo bits)
  let digits := Nat.toDigits 16 scaled
  let digits := List.replicate (places + 1 - digits.length) '0' ++ digits
  let after := digits.drop (digits.length - places)
  let after := if precision?.isNone then Text.Decimal.dropZeros after else after
  Text.Decimal.withPoint (digits.take (digits.length - places)) after always ++
    'p' :: (if e < 0 then '-' else '+') :: Nat.toDigits 10 e.natAbs

/-- A number in the form of a letter. -/
def number (l : Layout) (letter : UInt8) (n : Number) : Bytes :=
  match n.magnitude with
  | .nan => pad l (inCaseOf letter ((if l.space then [32] else []) ++ [110, 97, 110]))
  | .infinite negative => pad l (sign l negative ++ inCaseOf letter [105, 110, 102])
  | .finite negative v =>
    let kind := lowerLetter letter
    let precision := l.precision?.getD 6
    let digits : Text :=
      if kind == 102 then Text.Decimal.fixed v precision l.alternate
      else if kind == 101 then Text.Decimal.scientific v precision 'e' l.alternate
      else if kind == 97 then hexadecimal v l.precision? l.alternate
      else Text.Decimal.general v precision 'e' l.alternate
    let mark := sign l negative ++ (if kind == 97 then [48, 120] else [])
    padDigits l (inCaseOf letter mark) (inCaseOf letter (Text.Utf8.encode digits))

/-- A text in double quotes. -/
def quoted (t : Bytes) : Bytes := 34 :: go t ++ [34]
where
  /-- The bytes with the escapes that they need. -/
  go : Bytes → Bytes
    | [] => []
    | b :: rest =>
      if b == 34 || b == 92 || b == 10 then 92 :: b :: go rest
      else if b < 32 || b == 127 then
        let digits := Text.Utf8.encode (Nat.toDigits 10 b.toNat)
        let wide := rest.head?.any isDigit || b ≥ 100
        92 :: (if wide then List.replicate (3 - digits.length) 48 ++ digits else digits) ++ go rest
      else b :: go rest

end Stencil.Lua.Format
