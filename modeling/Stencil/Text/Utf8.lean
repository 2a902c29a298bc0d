/-
  UTF-8: the bytes of a text, and reading bytes that may not be a text.

  * `encode` writes each scalar value in its shortest form;
  * `segments` cuts bytes into scalar values and invalid parts; an invalid part
    is the longest run that begins a well-formed sequence, or one byte;
  * `decodeLossy` puts U+FFFD for each invalid part, `decode?` refuses them.

  Where bytes are asked for, a text stands for its bytes, also if it may be missing
  or is one of several.
-/
import Stencil.Text

namespace Stencil

/-- A string of bytes. -/
abbrev Bytes := List UInt8

/-- Whether some bytes do not come after others, by the first bytes in which they differ. -/
def Bytes.notAfter : Bytes → Bytes → Bool
  | [], _ => true
  | _ :: _, [] => false
  | a :: s, b :: t => if a = b then notAfter s t else a < b

namespace Text.Utf8

/-! ## Writing -/

/-- The bytes of one scalar value. -/
def encodeChar (c : Char) : Bytes :=
  let n := c.toNat
  if n < 0x80 then [n.toUInt8]
  else if n < 0x800 then [(0xC0 + n / 64).toUInt8, (0x80 + n % 64).toUInt8]
  else if n < 0x10000 then
    [(0xE0 + n / 4096).toUInt8, (0x80 + n / 64 % 64).toUInt8, (0x80 + n % 64).toUInt8]
  else
    [(0xF0 + n / 262144).toUInt8, (0x80 + n / 4096 % 64).toUInt8,
      (0x80 + n / 64 % 64).toUInt8, (0x80 + n % 64).toUInt8]

/-- The bytes of a text. -/
def encode (t : Text) : Bytes := t.flatMap encodeChar

instance : Coe Text Bytes := ⟨encode⟩

instance : Coe (Option Text) (Option Bytes) := ⟨Option.map encode⟩

instance : Coe (List Text) (List Bytes) := ⟨List.map encode⟩

/-! ## Reading -/

/-- A byte that continues a sequence. -/
def isTail (b : UInt8) : Bool := 0x80 ≤ b && b ≤ 0xBF

/-- The second byte that may follow a first byte of a longer sequence. -/
def isSecond (first second : UInt8) : Bool :=
  if first == 0xE0 then 0xA0 ≤ second && second ≤ 0xBF
  else if first == 0xED then 0x80 ≤ second && second ≤ 0x9F
  else if first == 0xF0 then 0x90 ≤ second && second ≤ 0xBF
  else if first == 0xF4 then 0x80 ≤ second && second ≤ 0x8F
  else isTail second

/-- The number of bytes that a first byte announces, if it may begin a sequence. -/
def announced? (first : UInt8) : Option Nat :=
  if first < 0x80 then some 1
  else if 0xC2 ≤ first && first ≤ 0xDF then some 2
  else if 0xE0 ≤ first && first ≤ 0xEF then some 3
  else if 0xF0 ≤ first && first ≤ 0xF4 then some 4
  else none

/-- The scalar values of the bytes in order, `none` for each invalid part. -/
def segments : Bytes → List (Option Char)
  | [] => []
  | a :: rest =>
    match announced? a with
    | none => none :: segments rest
    | some 1 => some (Char.ofNat a.toNat) :: segments rest
    | some 2 =>
      match rest with
      | b :: rest₂ =>
        if isTail b then
          some (Char.ofNat ((a.toNat - 0xC0) * 64 + (b.toNat - 0x80))) :: segments rest₂
        else none :: segments (b :: rest₂)
      | [] => [none]
    | some 3 =>
      match rest with
      | b :: rest₂ =>
        if isSecond a b then
          match rest₂ with
          | c :: rest₃ =>
            if isTail c then
              some (Char.ofNat ((a.toNat - 0xE0) * 4096 + (b.toNat - 0x80) * 64 +
                (c.toNat - 0x80))) :: segments rest₃
            else none :: segments (c :: rest₃)
          | [] => [none]
        else none :: segments (b :: rest₂)
      | [] => [none]
    | some _ =>
      match rest with
      | b :: rest₂ =>
        if isSecond a b then
          match rest₂ with
          | c :: rest₃ =>
            if isTail c then
              match rest₃ with
              | d :: rest₄ =>
                if isTail d then
                  some (Char.ofNat ((a.toNat - 0xF0) * 262144 + (b.toNat - 0x80) * 4096 +
                    (c.toNat - 0x80) * 64 + (d.toNat - 0x80))) :: segments rest₄
                else none :: segments (d :: rest₄)
              | [] => [none]
            else none :: segments (c :: rest₃)
          | [] => [none]
        else none :: segments (b :: rest₂)
      | [] => [none]

/-- The character that stands for an invalid part. -/
def replacement : Char := Char.ofNat 0xFFFD

/-- The text of the bytes, U+FFFD standing for each invalid part. -/
def decodeLossy (bytes : Bytes) : Text := (segments bytes).map (·.getD replacement)

/-- The text of the bytes, if all of them are well formed. -/
def decode? (bytes : Bytes) : Option Text := (segments bytes).mapM id

end Text.Utf8

end Stencil
