/-
  The functions that are always there.

  * `BaseFunction.run`: what each of them does. `pcall` and `xpcall` turn errors into
    results, and count as a level for `error`;
  * `require` gives a library that is already loaded.
-/
import Stencil.Lua.Arguments

namespace Stencil.Lua

namespace BaseFunction

open Eval

/-- The name of a function. -/
def name : BaseFunction → String
  | assert => "assert"
  | error => "error"
  | getmetatable => "getmetatable"
  | ipairs => "ipairs"
  | ipairsStep => "ipairs_aux"
  | next => "next"
  | pairs => "pairs"
  | pcall => "pcall"
  | rawequal => "rawequal"
  | rawget => "rawget"
  | rawlen => "rawlen"
  | rawset => "rawset"
  | require => "require"
  | select => "select"
  | setmetatable => "setmetatable"
  | tonumber => "tonumber"
  | tostring => "tostring"
  | type => "type"
  | unpack => "unpack"
  | xpcall => "xpcall"

/-- The functions that have a global name. -/
def all : List BaseFunction :=
  [assert, error, getmetatable, ipairs, next, pairs, pcall, rawequal, rawget, rawlen, rawset,
    select, setmetatable, tonumber, tostring, type, unpack, xpcall]

variable (i : Invocation)

/-- Gives its arguments back unless the first one is false; then the second one is
    the error, a text with the place of the call. -/
def runAssert : Eval (List Value) := do
  let v ← i.any 1
  if v.isTrue then return i.args
  else match i.args with
    | [_] => i.fail (bytes "assertion failed!")
    | _ :: .string message :: _ => i.fail message
    | args => raise (args.getLastD .nil)

/-- Stops with its argument; a text or a number gets the place of a level. -/
def runError : Eval (List Value) := do
  let level := (← i.integer? 2).getD 1
  let v := i.arg 1
  match v.toText? with
  | some message =>
    if level > 0 then raiseText (i.sites.position (level.toNat - 1) ++ message) else raise v
  | none => raise v

/-- The metatable of a value, or what it shows instead. -/
def runGetmetatable : Eval (List Value) := do
  let v ← i.any 1
  match ← metatableOf v with
  | none => return [.nil]
  | some id =>
    let shown := (← readTable id).getText "__metatable"
    return [if shown.isNil then .table id else shown]

/-- Gives a table its metatable. -/
def runSetmetatable : Eval (List Value) := do
  let id ← i.table 1
  let metatable? ← match i.arg? 2 with
    | some (.table m) => pure (some m)
    | some .nil => pure none
    | _ => i.badArgument 2 (bytes "nil or table expected")
  if !(← metamethod (.table id) "__metatable").isNil then
    i.fail (bytes "cannot change a protected metatable")
  modifyTable id fun t => { t with metatable? }
  return [.table id]

/-- The three values of a loop over a table, or what its metatable gives instead. -/
def runTraversal (event : String) (step : BaseFunction) (start : Value) :
    Eval (List Value) := do
  let v ← i.any 1
  let handler ← metamethod v event
  if handler.isNil then
    let id ← i.table 1
    return [.builtin (.base step), .table id, start]
  else
    let (f, args) ← Operation.callee i.context none handler [v]
    i.call i.sites f args

/-- The next index of a table and its value. -/
def runIpairsStep : Eval (List Value) := do
  let id ← i.table 1
  let n := (← i.integer 2) + 1
  let v := (← readTable id).getInt n
  return if v.isNil then [] else [.ofInt n, v]

/-- The entry of a table after a key. -/
def runNext : Eval (List Value) := do
  let id ← i.table 1
  match (← readTable id).next? (i.arg 2) with
  | some (some (k, v)) => return [k, v]
  | some none => return [.nil]
  | none => i.fail (bytes "invalid key to 'next'")

/-- The result of an attempt, with whether it came to an end. -/
def attempted (outcome : Except Value (List Value)) : List Value :=
  match outcome with
  | .ok results => .bool true :: results
  | .error v => [.bool false, v]

/-- Calls its first argument and turns an error into a result. -/
def runPcall : Eval (List Value) := do
  match i.args with
  | [] => raiseText (bytes "not enough arguments to pcall")
  | f :: args => return attempted (← attempt (i.invoke f args))

/-- Calls its first argument; the second one turns an error into a result. -/
def runXpcall : Eval (List Value) := do
  match i.args with
  | f :: handler :: args =>
    match ← attempt (i.invoke f args) with
    | .ok results => return .bool true :: results
    | .error v =>
      match ← attempt (i.invoke handler [v]) with
      | .ok results => return [.bool false, results.headD .nil]
      | .error v => return [.bool false, v]
  | _ => raiseText (bytes "not enough arguments to xpcall")

/-- The value of a digit in a base, if it is one. -/
def digitIn? (base : Nat) (b : UInt8) : Option Nat :=
  let value? :=
    if 48 ≤ b && b ≤ 57 then some (b.toNat - 48)
    else if 65 ≤ b && b ≤ 90 then some (b.toNat - 55)
    else if 97 ≤ b && b ≤ 122 then some (b.toNat - 87)
    else none
  value?.filter (· < base)

/-- The number of a numeral in a base, which may have a sign and blanks around it. -/
def numeralIn? (base : Nat) (text : Bytes) : Option Number :=
  let text := (untilNul text).dropWhile Number.isSpace
  let (negative, digits) : Bool × Bytes := match text with
    | 45 :: rest => (true, rest)
    | 43 :: rest => (false, rest)
    | _ => (false, text)
  let digits := match digits with
    | 48 :: x :: d :: rest =>
      if base = 16 && x ||| 32 == 120 && (digitIn? 16 d).isSome then d :: rest else digits
    | _ => digits
  let read := digits.takeWhile fun b => (digitIn? base b).isSome
  let value := read.foldl (fun n b => n * base + (digitIn? base b).getD 0) 0
  let value := min value (Text.twoTo 64 - 1)
  if read.isEmpty || !(digits.drop read.length).all Number.isSpace then none
  else some (if negative then (Number.ofNat value).neg else .ofNat value)

/-- The number of a value, in a base if one is given. -/
def runTonumber : Eval (List Value) := do
  let base := (← i.integer? 2).getD 10
  if base = 10 then
    let v ← i.any 1
    return [(v.toNumber?.map Value.number).getD .nil]
  else
    let text ← i.text 1
    if base < 2 || base > 36 then i.badArgument 2 (bytes "base out of range")
    else return [((numeralIn? base.toNat text).map Value.number).getD .nil]

/-- The arguments from a position on, or their number. -/
def runSelect : Eval (List Value) := do
  let hasMark : Bool := match i.args with
    | .string (35 :: _) :: _ => true
    | _ => false
  if hasMark then return [.ofNat (i.args.length - 1)]
  else
    let n ← i.integer 1
    let size : Int := i.args.length
    let n := if n < 0 then size + n else min n size
    if n < 1 then i.badArgument 1 (bytes "index out of range") else return i.args.drop n.toNat

/-- The values of a range of indices of a table. -/
def runUnpack : Eval (List Value) := do
  let t ← readTable (← i.table 1)
  let start := (← i.integer? 2).getD 1
  let stop := (← i.integer? 3).getD t.length
  if start > stop then return []
  else if stop - start ≥ 8000 then i.fail (bytes "too many results to unpack")
  else return (List.range (stop - start + 1).toNat).map fun (n : Nat) => t.getInt (start + n)

/-- The files in which a module is looked for. -/
def moduleFiles (name : Bytes) : List Bytes :=
  let path := name.map fun b => if b == 46 then 47 else b
  [bytes "./" ++ path ++ bytes ".lua",
    bytes "/usr/local/share/luajit-2.1/" ++ path ++ bytes ".lua",
    bytes "/usr/local/share/lua/5.1/" ++ path ++ bytes ".lua",
    bytes "/usr/local/share/lua/5.1/" ++ path ++ bytes "/init.lua"]

/-- A library that is loaded. -/
def runRequire : Eval (List Value) := do
  let name ← i.text 1
  let found := (← readTable Store.loaded).get (.string name)
  if found.isTrue then return [found]
  else
    i.fail (bytes "module '" ++ name ++ bytes "' not found:\n\tno field package.preload['" ++ name ++
      bytes "']" ++ (moduleFiles name).flatMap (fun f => bytes "\n\tno file '" ++ f ++ bytes "'") ++
      bytes "\n\tcan't load C modules in safe mode")

/-- What a function does. -/
def run (f : BaseFunction) : Eval (List Value) := do
  match f with
  | assert => runAssert i
  | error => runError i
  | getmetatable => runGetmetatable i
  | ipairs => runTraversal i "__ipairs" ipairsStep (.ofNat 0)
  | ipairsStep => runIpairsStep i
  | next => runNext i
  | pairs => runTraversal i "__pairs" next .nil
  | pcall => runPcall i
  | rawequal => return [.bool ((← i.any 1).rawEqual (← i.any 2))]
  | rawget =>
    let id ← i.table 1
    return [(← readTable id).get (← i.any 2)]
  | rawlen =>
    match i.arg 1 with
    | .string s => return [.ofNat s.length]
    | .table id => return [.ofNat (← readTable id).length]
    | _ => i.badArgument 1 (bytes "table or string expected")
  | rawset =>
    let id ← i.table 1
    let key ← i.any 2
    Operation.rawSet i.context id key (← i.any 3)
    return [.table id]
  | require => runRequire i
  | select => runSelect i
  | setmetatable => runSetmetatable i
  | tonumber => runTonumber i
  | tostring => Operation.display i.call i.sites (← i.any 1)
  | type => return [.ofString (← i.any 1).typeName]
  | unpack => runUnpack i
  | xpcall => runXpcall i

end BaseFunction

end Stencil.Lua
