/-
  The functions of the libraries `math` and `bit`.

  * `MathFunction.run`: functions of floating-point numbers;
  * `BitFunction.run`: functions of 32-bit words, which are shown as signed integers.
-/
import Stencil.Lua.Arguments

namespace Stencil.Lua

open Eval

namespace MathFunction

/-- The name of a function. -/
def name : MathFunction → String
  | abs => "abs"
  | acos => "acos"
  | asin => "asin"
  | atan => "atan"
  | atan2 => "atan2"
  | ceil => "ceil"
  | cos => "cos"
  | cosh => "cosh"
  | deg => "deg"
  | exp => "exp"
  | floor => "floor"
  | fmod => "fmod"
  | frexp => "frexp"
  | ldexp => "ldexp"
  | log => "log"
  | log10 => "log10"
  | max => "max"
  | min => "min"
  | modf => "modf"
  | pow => "pow"
  | rad => "rad"
  | sin => "sin"
  | sinh => "sinh"
  | sqrt => "sqrt"
  | tan => "tan"
  | tanh => "tanh"

/-- The functions of the library. -/
def all : List MathFunction :=
  [abs, acos, asin, atan, atan2, ceil, cos, cosh, deg, exp, floor, fmod, frexp, ldexp, log, log10,
    max, min, modf, pow, rad, sin, sinh, sqrt, tan, tanh]

/-- The ratio of the circumference of a circle to its diameter. -/
def pi : Float := 3.141592653589793

/-- The number without its fraction. -/
def wholePart (x : Float) : Float := if x < 0.0 then x.ceil else x.floor

/-- The remainder with the sign of the dividend. -/
def remainder (a b : Number) : Number :=
  match a, b with
  | .whole m, .whole n =>
    if n = 0 then .real (0.0 / 0.0)
    else if m < 0 ∧ Int.tmod m n = 0 then .real (-0.0) else .ofInt (Int.tmod m n)
  | _, _ =>
    let x := a.toFloat
    let y := b.toFloat
    if y.isInf && !x.isInf && !x.isNaN then a else .ofFloat (x - wholePart (x / y) * y)

variable (i : Invocation)

/-- A function of one floating-point number. -/
def unary (f : Float → Float) : Eval (List Value) := do
  return [.number (.ofFloat (f (← i.number 1).toFloat))]

/-- The number that wins against all others. -/
def choose (wins : Number → Number → Bool) : Eval (List Value) := do
  let first ← i.number 1
  let others ← (List.range (i.args.length - 1)).mapM fun n => i.number (n + 2)
  return [.number (others.foldl (fun best x => if wins x best then x else best) first)]

/-- What a function does. -/
def run (f : MathFunction) : Eval (List Value) := do
  match f with
  | abs => unary i Float.abs
  | acos => unary i Float.acos
  | asin => unary i Float.asin
  | atan => unary i Float.atan
  | atan2 =>
    let y ← i.number 1
    return [.number (.ofFloat (Float.atan2 y.toFloat (← i.number 2).toFloat))]
  | ceil => unary i Float.ceil
  | cos => unary i Float.cos
  | cosh => unary i Float.cosh
  | deg => unary i (· * (180.0 / pi))
  | exp => unary i Float.exp
  | floor => return [.number (← i.number 1).floor]
  | fmod =>
    let a ← i.number 1
    return [.number (remainder a (← i.number 2))]
  | frexp =>
    let (m, e) := (← i.number 1).toFloat.frExp
    return [.number (.ofFloat m), .ofInt e]
  | ldexp =>
    let m ← i.number 1
    return [.number (.ofFloat (m.toFloat.scaleB (← i.integer 2)))]
  | log =>
    let x ← i.number 1
    if (i.arg 2).isNil then return [.number (.ofFloat x.toFloat.log)]
    else
      let base ← i.number 2
      return [.number (.ofFloat (x.toFloat.log2 / base.toFloat.log2))]
  | log10 => unary i Float.log10
  | max => choose i fun x best => best.lt x
  | min => choose i fun x best => x.lt best
  | modf =>
    let x ← i.number 1
    let whole := wholePart x.toFloat
    let fraction := if x.toFloat.isInf then 0.0 else x.toFloat - whole
    return [.number (.ofFloat whole), .number (.ofFloat fraction)]
  | pow =>
    let a ← i.number 1
    return [.number (a.pow (← i.number 2))]
  | rad => unary i (· * (pi / 180.0))
  | sin => unary i Float.sin
  | sinh => unary i Float.sinh
  | sqrt => unary i Float.sqrt
  | tan => unary i Float.tan
  | tanh => unary i Float.tanh

end MathFunction

namespace BitFunction

/-- The name of a function. -/
def name : BitFunction → String
  | arshift => "arshift"
  | band => "band"
  | bnot => "bnot"
  | bor => "bor"
  | bswap => "bswap"
  | bxor => "bxor"
  | lshift => "lshift"
  | rol => "rol"
  | ror => "ror"
  | rshift => "rshift"
  | tobit => "tobit"
  | tohex => "tohex"

/-- The functions of the library. -/
def all : List BitFunction :=
  [arshift, band, bnot, bor, bswap, bxor, lshift, rol, ror, rshift, tobit, tohex]

/-- The word nearest to a number, modulo 2^32; a half goes to the even one. -/
def wordOf (x : Number) : UInt32 :=
  match x with
  | .whole n => UInt32.ofNat (n % Text.twoTo 32).toNat
  | .real y =>
    if y.isNaN || y.isInf then 0
    else
      let low := y.floor
      let n := (Number.ofFloat low).truncate
      let fraction := y - low
      let n := if fraction > 0.5 || (fraction == 0.5 && n % 2 ≠ 0) then n + 1 else n
      UInt32.ofNat (n % Text.twoTo 32).toNat

/-- A word as a signed integer. -/
def signed (w : UInt32) : Int :=
  if w.toNat ≥ Text.twoTo 31 then (w.toNat : Int) - Text.twoTo 32 else w.toNat

/-- A word with its bytes in the other order. -/
def swapped (w : UInt32) : UInt32 :=
  (w >>> 24) ||| ((w >>> 8) &&& (0xFF00 : UInt32)) ||| ((w <<< 8) &&& (0xFF0000 : UInt32)) ||| (w <<< 24)

/-- A word shifted to the right, filled with its sign. -/
def arithmeticRight (w n : UInt32) : UInt32 :=
  UInt32.ofNat ((signed w / Text.twoTo (n.toNat % 32)) % Text.twoTo 32).toNat

/-- A word in hexadecimal digits: the last ones, as many as asked for. -/
def hexDigits (w : UInt32) (count : Int) : Bytes :=
  let digits := Nat.toDigits 16 w.toNat
  let n := min count.natAbs 8
  let digits := (List.replicate (8 - digits.length) '0' ++ digits).drop (8 - n)
  let text := Text.Utf8.encode digits
  if count < 0 then text.map fun b => if 97 ≤ b && b ≤ 102 then b - 32 else b else text

variable (i : Invocation)

/-- A word argument. -/
def word (n : Nat) : Eval UInt32 := wordOf <$> i.number n

/-- A word made of all arguments. -/
def combine (op : UInt32 → UInt32 → UInt32) : Eval (List Value) := do
  let first ← word i 1
  let others ← (List.range (i.args.length - 1)).mapM fun n => word i (n + 2)
  return [.ofInt (signed (others.foldl op first))]

/-- A word shifted by the second argument modulo 32. -/
def shift (op : UInt32 → UInt32 → UInt32) : Eval (List Value) := do
  let w ← word i 1
  return [.ofInt (signed (op w ((← word i 2) % 32)))]

/-- What a function does. -/
def run (f : BitFunction) : Eval (List Value) := do
  match f with
  | arshift => shift i arithmeticRight
  | band => combine i (· &&& ·)
  | bnot => return [.ofInt (signed (~~~(← word i 1)))]
  | bor => combine i (· ||| ·)
  | bswap => return [.ofInt (signed (swapped (← word i 1)))]
  | bxor => combine i (· ^^^ ·)
  | lshift => shift i (· <<< ·)
  | rol => shift i fun w n => (w <<< n) ||| (w >>> ((32 - n) % 32))
  | ror => shift i fun w n => (w >>> n) ||| (w <<< ((32 - n) % 32))
  | rshift => shift i (· >>> ·)
  | tobit => return [.ofInt (signed (← word i 1))]
  | tohex =>
    let w ← word i 1
    return [.string (hexDigits w ((← i.integer? 2).getD 8))]

end BitFunction

end Stencil.Lua
