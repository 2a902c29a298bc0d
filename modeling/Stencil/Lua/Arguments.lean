/-
  The arguments of builtins.

  * `Invocation`: the arguments of a call of a builtin and where it was called from;
  * `Invocation.text`, `number`, `integer`, `table`, …: an argument of a type, or the
    message that names the argument and the function.
-/
import Stencil.Lua.Operation

namespace Stencil.Lua

/-- A call of a builtin. -/
structure Invocation where
  /-- How functions are called. -/
  call : Call
  /-- The sites, the one of this call first. -/
  sites : Sites
  args : List Value

namespace Invocation

open Eval

variable (i : Invocation)

/-- The sites of the functions that the builtin calls. -/
def inner : Sites := .native :: i.sites

/-- Who performs the operations of the builtin. -/
def context : Context := ⟨none, i.sites⟩

/-- An argument, counted from 1. -/
def arg? (n : Nat) : Option Value := i.args[n - 1]?

/-- An argument, `nil` if it is missing. -/
def arg (n : Nat) : Value := (i.arg? n).getD .nil

/-- Stops with a message at the place of the call. -/
def fail {α : Type} (message : Bytes) : Eval α := raiseAt i.sites message

/-- Stops because of an argument. In a call of a method the object does not count. -/
def badArgument {α : Type} (n : Nat) (why : Bytes) : Eval α :=
  let (isMethod, name) : Bool × Bytes := match i.sites with
    | .lua _ (some (place, name)) :: _ => (place = .method, name)
    | _ => (false, bytes "?")
  if isMethod && n = 1 then
    i.fail (bytes "calling '" ++ name ++ bytes "' on bad self (" ++ why ++ bytes ")")
  else
    let n := if isMethod then n - 1 else n
    i.fail (bytes "bad argument #" ++ decimal n ++ bytes " to '" ++ name ++ bytes "' (" ++ why ++
      bytes ")")

/-- The name of the type of an argument. -/
def typeName (n : Nat) : String := ((i.arg? n).map Value.typeName).getD "no value"

/-- Stops because an argument has another type than expected. -/
def wrongType {α : Type} (n : Nat) (expected : String) : Eval α :=
  i.badArgument n (bytes expected ++ bytes " expected, got " ++ bytes (i.typeName n))

/-- An argument that must be there. -/
def any (n : Nat) : Eval Value :=
  match i.arg? n with
  | some v => return v
  | none => i.badArgument n (bytes "value expected")

/-- A string argument; a number counts as its text. -/
def text (n : Nat) : Eval Bytes :=
  match (i.arg n).toText? with
  | some t => return t
  | none => i.wrongType n "string"

/-- A string argument that may be missing. -/
def text? (n : Nat) : Eval (Option Bytes) :=
  if (i.arg n).isNil then return none else some <$> i.text n

/-- A number argument; a numeral counts as its number. -/
def number (n : Nat) : Eval Number :=
  match (i.arg n).toNumber? with
  | some x => return x
  | none => i.wrongType n "number"

/-- The 32-bit integer of a number, the least one for what is out of range. -/
def toInteger (x : Number) : Int :=
  let n := x.truncate
  if x.isNan || n < -2147483648 || n > 2147483647 then -2147483648 else n

/-- An integer argument. -/
def integer (n : Nat) : Eval Int := toInteger <$> i.number n

/-- An integer argument that may be missing. -/
def integer? (n : Nat) : Eval (Option Int) :=
  if (i.arg n).isNil then return none else some <$> i.integer n

/-- A table argument. -/
def table (n : Nat) : Eval Nat :=
  match i.arg n with
  | .table id => return id
  | _ => i.wrongType n "table"

/-- Calls a value from the builtin. -/
def invoke (f : Value) (args : List Value) : Eval (List Value) := do
  let (f, args) ← Operation.callee i.context none f args
  i.call i.inner f args

end Invocation

end Stencil.Lua
