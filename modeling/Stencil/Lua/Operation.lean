/-
  The operations of Lua with their metamethods.

  * `index`, `setIndex`: reading and writing fields;
  * `arithmetic`, `negate`, `concatenate`, `length`: operators that give a value;
  * `equals`, `less`, `lessEqual`: comparisons;
  * `display`: the text that `tostring` gives.

  Every operation takes who performs it and how functions are called.
-/
import Stencil.Lua.Store

namespace Stencil.Lua.Operation

open Eval

/-- The place of an operand, as messages name it. -/
abbrev Named := Option (Expr.Place × Bytes)

/-- How many steps a chain of index metamethods may have. -/
def chainLimit : Nat := 100

section

variable (call : Call) (c : Context)

/-- The first result of a call, `nil` if there is none. -/
def first (results : List Value) : Value := results.headD .nil

/-- Calls a metamethod for its first result. -/
def handle (event : String) (handler : Value) (args : List Value) : Eval Value :=
  first <$> call (c.handling event) handler args

/-- Whether a value is a function. -/
def isFunction : Value → Bool
  | .function _ => true
  | .builtin _ => true
  | _ => false

/-- The function that a call of a value calls, with its arguments: a value that is
    no function may have a metamethod for calls. -/
def callee (place : Named) (f : Value) (args : List Value) : Eval (Value × List Value) := do
  if isFunction f then return (f, args)
  else
    let handler ← metamethod f "__call"
    if isFunction handler then return (handler, f :: args) else c.refuse "call" place f

/-! ## Fields -/

/-- Reads a field with at most a number of steps. -/
def indexSteps (object key : Value) (place : Named) : Nat → Eval Value
  | 0 => c.fault (bytes "loop in gettable")
  | n + 1 => do
    let found ← match object with
      | .table id => (Table.get · key) <$> readTable id
      | _ => pure .nil
    if !found.isNil then return found
    else
      let handler ← metamethod object "__index"
      match object, handler with
      | .table _, .nil => return .nil
      | _, .nil => c.refuse "index" place object
      | _, handler =>
        if isFunction handler then handle call c "__index" handler [object, key]
        else indexSteps handler key none n

/-- The value of a field. -/
def index (object key : Value) (place : Named) : Eval Value := do
  match object with
  | .table id =>
    let t ← readTable id
    let found := t.get key
    if !found.isNil || t.metatable?.isNone then return found
    else indexSteps call c object key place chainLimit
  | _ => indexSteps call c object key place chainLimit

/-- Puts a value under a key of a table without metamethods. -/
def rawSet (id : Nat) (key value : Value) : Eval Unit :=
  match key with
  | .nil => c.fault (bytes "table index is nil")
  | .number n =>
    if n.isNan then c.fault (bytes "table index is NaN")
    else modifyTable id (·.set key value)
  | _ => modifyTable id (·.set key value)

/-- Writes a field with at most a number of steps. -/
def setIndexSteps (object key value : Value) (place : Named) : Nat → Eval Unit
  | 0 => c.fault (bytes "loop in settable")
  | n + 1 => do
    let present ← match object with
      | .table id => (fun t => !(t.get key).isNil) <$> readTable id
      | _ => pure false
    let handler ← if present then pure .nil else metamethod object "__newindex"
    match object, handler with
    | .table id, .nil => rawSet c id key value
    | _, .nil => c.refuse "index" place object
    | _, handler =>
      if isFunction handler then
        let _ ← call (c.handling "__newindex") handler [object, key, value]
      else setIndexSteps handler key value none n

/-- Writes a field. -/
def setIndex (object key value : Value) (place : Named) : Eval Unit :=
  setIndexSteps call c object key value place chainLimit

/-! ## Operators -/

/-- The metamethod of the first operand for an event, or that of the second one. -/
def eitherMetamethod (a b : Value) (event : String) : Eval Value := do
  let handler ← metamethod a event
  if handler.isNil then metamethod b event else return handler

/-- An arithmetic operation on numbers. -/
def compute (op : Arithmetic) (a b : Number) : Number :=
  match op with
  | .add => a.add b
  | .sub => a.sub b
  | .mul => a.mul b
  | .div => a.div b
  | .mod => a.mod b
  | .pow => a.pow b

/-- The event of an arithmetic operation. -/
def arithmeticEvent : Arithmetic → String
  | .add => "__add"
  | .sub => "__sub"
  | .mul => "__mul"
  | .div => "__div"
  | .mod => "__mod"
  | .pow => "__pow"

/-- An arithmetic operation; numerals count as numbers. -/
def arithmetic (op : Arithmetic) (a b : Value) (placeA placeB : Named) : Eval Value := do
  match a.toNumber?, b.toNumber? with
  | some x, some y => return .number (compute op x y)
  | x?, _ =>
    let handler ← eitherMetamethod a b (arithmeticEvent op)
    if handler.isNil then
      if x?.isNone then c.refuse "perform arithmetic on" placeA a
      else c.refuse "perform arithmetic on" placeB b
    else handle call c (arithmeticEvent op) handler [a, b]

/-- The number with the other sign. -/
def negate (a : Value) (place : Named) : Eval Value := do
  match a.toNumber? with
  | some x => return .number x.neg
  | none =>
    let handler ← metamethod a "__unm"
    if handler.isNil then c.refuse "perform arithmetic on" place a
    else handle call c "__unm" handler [a, a]

/-- The length of a string or a table. -/
def length (a : Value) (place : Named) : Eval Value := do
  match a with
  | .string s => return .ofNat s.length
  | _ =>
    let handler ← metamethod a "__len"
    match a, handler with
    | .table id, .nil => return .ofNat (← readTable id).length
    | _, .nil => c.refuse "get length of" place a
    | _, handler => handle call c "__len" handler [a, a]

/-- The concatenation of two values. -/
def concatenatePair (a b : Value) (placeA placeB : Named) : Eval Value := do
  match a.toText?, b.toText? with
  | some x, some y => return .string (x ++ y)
  | x?, _ =>
    let handler ← eitherMetamethod a b "__concat"
    if handler.isNil then
      if x?.isNone then c.refuse "concatenate" placeA a else c.refuse "concatenate" placeB b
    else handle call c "__concat" handler [a, b]

/-- The concatenation of values from the right. -/
def concatenate : List (Value × Named) → Eval (Value × Named)
  | [] => return (.string [], none)
  | [v] => return v
  | v :: rest => do
    let (right, placeRight) ← concatenate rest
    return (← concatenatePair call c v.1 right v.2 placeRight, none)

/-! ## Comparisons -/

/-- Equality: two tables may have a common metamethod. -/
def equals (a b : Value) : Eval Bool := do
  if a.rawEqual b then return true
  else match a, b with
    | .table i, .table j =>
      let handler ← metamethod a "__eq"
      let other ← metamethod b "__eq"
      let same := (← readTable i).metatable? == (← readTable j).metatable? ||
        handler.rawEqual other
      if handler.isNil || !same then return false
      else return (← handle call c "__eq" handler [a, b]).isTrue
    | _, _ => return false

/-- Stops because two values cannot be compared. -/
def refuseComparison {α : Type} (a b : Value) : Eval α :=
  if a.typeName = b.typeName then
    c.fault (bytes "attempt to compare two " ++ bytes a.typeName ++ bytes " values")
  else
    c.fault (bytes "attempt to compare " ++ bytes a.typeName ++ bytes " with " ++
      bytes b.typeName)

/-- The order of byte strings. -/
def bytesLess : Bytes → Bytes → Bool
  | [], [] => false
  | [], _ :: _ => true
  | _ :: _, [] => false
  | x :: a, y :: b => if x == y then bytesLess a b else x < y

/-- Whether the first value is below the second one. -/
def less (a b : Value) : Eval Bool := do
  match a, b with
  | .number x, .number y => return x.lt y
  | .string x, .string y => return bytesLess x y
  | _, _ =>
    let handler ← eitherMetamethod a b "__lt"
    if handler.isNil then refuseComparison c a b
    else return (← handle call c "__lt" handler [a, b]).isTrue

/-- Whether the first value is not above the second one; without a metamethod for
    that, whether the second one is not below the first one. -/
def lessEqual (a b : Value) : Eval Bool := do
  match a, b with
  | .number x, .number y => return x.le y
  | .string x, .string y => return !bytesLess y x
  | _, _ =>
    let handler ← eitherMetamethod a b "__le"
    if handler.isNil then return !(← less call c b a)
    else return (← handle call c "__le" handler [a, b]).isTrue

/-- A comparison. -/
def compare (op : Comparison) (a b : Value) : Eval Bool :=
  match op with
  | .eq => equals call c a b
  | .ne => Bool.not <$> equals call c a b
  | .lt => less call c a b
  | .le => lessEqual call c a b
  | .gt => less call c b a
  | .ge => lessEqual call c b a

/-! ## Texts -/

/-- A number in hexadecimal digits, as an address. -/
def address (n : Nat) : Bytes :=
  let digits := Nat.toDigits 16 n
  bytes "0x" ++ Text.Utf8.encode (List.replicate (8 - digits.length) '0' ++ digits)

/-- The text of a value without metamethods. -/
def rawDisplay : Value → Bytes
  | .nil => bytes "nil"
  | .bool true => bytes "true"
  | .bool false => bytes "false"
  | .number n => Text.Utf8.encode n.write
  | .string s => s
  | .table id => bytes "table: " ++ address id
  | .function id => bytes "function: " ++ address id
  | .builtin _ => bytes "function: builtin"

/-- What `tostring` gives for a value, called from a place. -/
def display (sites : Sites) (v : Value) : Eval (List Value) := do
  let handler ← metamethod v "__tostring"
  if handler.isNil then return [.string (rawDisplay v)] else call sites handler [v]

end

end Stencil.Lua.Operation
