/-
  The functions of the library `string`.

  * `StringFunction.run`: what each of them does. Positions count from 1, and
    negative ones from the end.
-/
import Stencil.Lua.Arguments
import Stencil.Lua.Format
import Stencil.Lua.Pattern

namespace Stencil.Lua

namespace StringFunction

open Eval

/-- The name of a function. -/
def name : StringFunction → String
  | byte => "byte"
  | char => "char"
  | find => "find"
  | format => "format"
  | gmatch => "gmatch"
  | gsub => "gsub"
  | len => "len"
  | lower => "lower"
  | StringFunction.match => "match"
  | rep => "rep"
  | reverse => "reverse"
  | sub => "sub"
  | upper => "upper"

/-- The functions of the library. -/
def all : List StringFunction :=
  [byte, char, find, format, gmatch, gsub, len, lower, StringFunction.match, rep, reverse, sub,
    upper]

variable (i : Invocation)

/-! ## Parts and letters -/

/-- A byte, letters in upper case. -/
def toUpper (b : UInt8) : UInt8 := if 97 ≤ b && b ≤ 122 then b - 32 else b

/-- A byte, letters in lower case. -/
def toLower (b : UInt8) : UInt8 := if 65 ≤ b && b ≤ 90 then b + 32 else b

/-- The part of a text between two positions, both included. -/
def part (text : Bytes) (start stop : Int) : Bytes :=
  let size : Int := text.length
  let start := max 1 (if start < 0 then start + size + 1 else start)
  let stop := min size (if stop < 0 then stop + size + 1 else stop)
  (text.drop (start - 1).toNat).take (stop - start + 1).toNat

/-- The text of a part. -/
def runSub : Eval (List Value) := do
  let text ← i.text 1
  let start ← i.integer 2
  let stop := (← i.integer? 3).getD (-1)
  return [.string (part text start stop)]

/-- The bytes of a part. -/
def runByte : Eval (List Value) := do
  let text ← i.text 1
  let start := (← i.integer? 2).getD 1
  let stop := (← i.integer? 3).getD start
  return (part text start stop).map fun b => .ofNat b.toNat

/-- The text of some bytes. -/
def runChar : Eval (List Value) := do
  let text ← (List.range i.args.length).mapM fun n => do
    let b ← i.integer (n + 1)
    if 0 ≤ b && b ≤ 255 then return b.toNat.toUInt8
    else i.badArgument (n + 1) (bytes "invalid value")
  return [.string text]

/-- A text repeated, with a separator between. -/
def runRep : Eval (List Value) := do
  let text ← i.text 1
  let count ← i.integer 2
  let separator := (← i.text? 3).getD []
  let parts := List.replicate count.toNat text
  return [.string (separator.intercalate parts)]

/-! ## Patterns -/

/-- The result, or the message of a fault at the place of the call. -/
def orFail {α : Type} (r : Except Pattern.Fault α) : Eval α :=
  match r with
  | .ok a => return a
  | .error fault => i.fail (bytes fault.message)

/-- The value of a capture. -/
def captured : Pattern.Captured → Value
  | .text t => .string t
  | .position n => .ofNat n

/-- The values of the captures. -/
def captures (subject : Array UInt8) (m : Pattern.Match) (whole : Bool) : Eval (List Value) := do
  return (← orFail i (m.all subject whole)).map captured

/-- The pattern without the `^` at its start, and whether there was one. -/
def anchor : Bytes → Bytes × Bool
  | 94 :: rest => (rest, true)
  | pattern => (pattern, false)

/-- Looks for a pattern; gives its place with `places`, and its captures. -/
def runFind (places : Bool) : Eval (List Value) := do
  let text ← i.text 1
  let pattern ← i.text 2
  let start := (← i.integer? 3).getD 1
  let start := (if start < 0 then start + text.length else start - 1).toNat
  if start > text.length then return [.nil]
  else if places && ((i.arg 4).isTrue || !Pattern.isSpecial pattern) then
    match Pattern.findPlain text pattern start with
    | some n => return [.ofNat (n + 1), .ofNat (n + pattern.length)]
    | none => return [.nil]
  else
    let subject := text.toArray
    let (pattern, anchored) := anchor (untilNul pattern)
    let found ← orFail i (Pattern.findFrom subject pattern anchored (text.length + 1) start)
    match found with
    | none => return [.nil]
    | some m =>
      if places then
        return .ofNat (m.start + 1) :: .ofNat m.stop :: (← captures i subject m false)
      else captures i subject m true

/-- The iterator over the matches of a pattern. -/
def runGmatch : Eval (List Value) := do
  let text ← i.text 1
  let pattern ← i.text 2
  return [← newClosure (.matches text pattern 0)]

/-- The next match of an iterator, which moves on. -/
def runMatches (id : Nat) (text pattern : Bytes) (position : Nat) : Eval (List Value) := do
  let subject := text.toArray
  if position > text.length then return []
  else
    match ← orFail i (Pattern.findFrom subject (untilNul pattern) false (text.length + 1)
        position) with
    | none => return []
    | some m =>
      let next := if m.stop = m.start then m.stop + 1 else m.stop
      writeClosure id (.matches text pattern next)
      captures i subject m true

/-- A replacement text with the captures that it names. -/
def expand (subject : Array UInt8) (m : Pattern.Match) : Bytes → Eval Bytes
  | [] => return []
  | 37 :: rest => match rest with
    | [] => return [0]
    | 48 :: rest => return m.text subject ++ (← expand subject m rest)
    | d :: rest => do
      if Format.isDigit d then
        let c ← orFail i (m.capture subject (d.toNat - 49))
        return ((captured c).toText?.getD []) ++ (← expand subject m rest)
      else return d :: (← expand subject m rest)
  | b :: rest => return b :: (← expand subject m rest)

/-- The text that a value puts in the place of a match; a false one leaves it. -/
def replacing (subject : Array UInt8) (m : Pattern.Match) (v : Value) : Eval Bytes :=
  if !v.isTrue then return m.text subject
  else match v.toText? with
    | some t => return t
    | none => i.fail (bytes "invalid replacement value (a " ++ bytes v.typeName ++ bytes ")")

/-- What replaces a match: the entry of a table, the result of a function or a text. -/
def replacement (subject : Array UInt8) (m : Pattern.Match) : Eval Bytes := do
  let f := i.arg 3
  match f with
  | .table id =>
    let key ← orFail i (m.capture subject 0)
    let v ← Operation.index i.call i.context (.table id) (captured key) none
    replacing i subject m v
  | _ =>
    if Operation.isFunction f then
      let results ← i.invoke f (← captures i subject m true)
      replacing i subject m (results.headD .nil)
    else expand i subject m (f.toText?.getD [])

/-- Replaces at most a number of matches; the text and how many were replaced. -/
def substitute (subject : Array UInt8) (pattern : Bytes) (anchored : Bool) :
    Nat → Nat → Nat → Eval (Bytes × Nat)
  | 0, position, _ => return (subject.toList.drop position, 0)
  | n + 1, position, room => do
    if room = 0 then return (subject.toList.drop position, 0)
    else
      let found ← orFail i (Pattern.matchAt subject pattern position)
      let (written, count) ← match found with
        | some m => do pure (← replacement i subject m, 1)
        | none => pure ([], 0)
      let (kept, next) : Bytes × Nat := match found with
        | some m =>
          if m.stop > position then ([], m.stop) else (subject[position]?.toList, position + 1)
        | none => (subject[position]?.toList, position + 1)
      if next > subject.size then return (written, count)
      else if anchored then return (written ++ kept ++ subject.toList.drop next, count)
      else
        let (rest, more) ← substitute subject pattern anchored n next (room - count)
        return (written ++ kept ++ rest, count + more)

/-- Replaces the matches of a pattern. -/
def runGsub : Eval (List Value) := do
  let text ← i.text 1
  let pattern ← i.text 2
  let room := (← i.integer? 4).getD (text.length + 1)
  match i.arg 3 with
  | .nil | .bool _ => i.badArgument 3 (bytes "string/function/table expected")
  | _ => pure ()
  let (pattern, anchored) := anchor (untilNul pattern)
  let (result, count) ← substitute i text.toArray pattern anchored (text.length + 2) 0 room.toNat
  return [.string result, .ofNat count]

/-! ## Formats -/

/-- The 64-bit integer of a number, the least one for what is out of range. -/
def toLong (x : Number) (isSigned : Bool) : Int :=
  let n := x.truncate
  let top : Int := if isSigned then Text.twoTo 63 else Text.twoTo 64
  let isFinite : Bool := match x.magnitude with
    | .finite .. => true
    | _ => false
  if !isFinite || n ≥ top || n < -(Text.twoTo 63) then -(Text.twoTo 63) else n

/-- What a conversion makes of an argument. -/
def convert (n : Nat) (layout : Format.Layout) (letter : UInt8) : Eval Bytes := do
  if (i.arg? n).isNone then i.badArgument n (bytes "no value")
  else if letter == 115 || letter == 113 then
    let shown := (← Operation.display i.call i.inner (i.arg n)).headD .nil
    let text := Operation.rawDisplay shown
    return if letter == 113 then Format.quoted text else Format.text layout text
  else if letter == 99 then
    return Format.pad layout [((← i.integer n) % 256).toNat.toUInt8]
  else if letter == 112 then
    return Format.pad layout (Operation.rawDisplay (i.arg n))
  else if letter == 100 || letter == 105 then
    return Format.integer layout letter (toLong (← i.number n) true)
  else if letter == 117 || letter == 111 || letter ||| 32 == 120 then
    return Format.integer layout letter (toLong (← i.number n) false)
  else return Format.number layout letter (← i.number n)

/-- The text of the parts of a format, an argument for each conversion. -/
def fill (n : Nat) : List Format.Piece → Eval Bytes
  | [] => return []
  | .literal text :: rest => return text ++ (← fill n rest)
  | .unknown text :: _ =>
    i.fail (bytes "invalid option '" ++ untilNul text ++ bytes "' to 'format'")
  | .conversion layout letter :: rest => do
    let text ← convert i n layout letter
    return text ++ (← fill (n + 1) rest)

/-- What a function does. -/
def run (f : StringFunction) : Eval (List Value) := do
  match f with
  | byte => runByte i
  | char => runChar i
  | find => runFind i true
  | format => return [.string (← fill i 2 (Format.pieces (← i.text 1)))]
  | gmatch => runGmatch i
  | gsub => runGsub i
  | len => return [.ofNat (← i.text 1).length]
  | lower => return [.string ((← i.text 1).map toLower)]
  | StringFunction.match => runFind i false
  | rep => runRep i
  | reverse => return [.string (← i.text 1).reverse]
  | sub => runSub i
  | upper => return [.string ((← i.text 1).map toUpper)]

end StringFunction

end Stencil.Lua
