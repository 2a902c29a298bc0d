/-
  The functions of the library `table`.

  * `TableFunction.run`: what each of them does. They read and write without
    metamethods;
  * `sort` is quicksort with the median of three as its pivot; an order that
    contradicts itself is an error.
-/
import Stencil.Lua.Arguments

namespace Stencil.Lua

namespace TableFunction

open Eval

/-- The name of a function. -/
def name : TableFunction → String
  | concat => "concat"
  | foreach => "foreach"
  | foreachi => "foreachi"
  | getn => "getn"
  | insert => "insert"
  | maxn => "maxn"
  | move => "move"
  | pack => "pack"
  | remove => "remove"
  | sort => "sort"

/-- The functions of the library. -/
def all : List TableFunction :=
  [concat, foreach, foreachi, getn, insert, maxn, move, pack, remove, sort]

variable (i : Invocation)

/-- The texts of a range of indices, with a separator between. -/
def joined (t : Table) (separator : Bytes) (start : Int) : Nat → Eval Bytes
  | 0 => return []
  | n + 1 => do
    let v := t.getInt start
    match v.toText? with
    | none =>
      i.fail (bytes "invalid value (" ++ bytes v.typeName ++ bytes ") at index " ++
        Text.Utf8.encode (toString start).toList ++ bytes " in table for 'concat'")
    | some text =>
      let rest ← joined t separator (start + 1) n
      return text ++ (if n = 0 then [] else separator) ++ rest

/-- The texts of a table as one. -/
def runConcat : Eval (List Value) := do
  let t ← readTable (← i.table 1)
  let separator := (← i.text? 2).getD []
  let start := (← i.integer? 3).getD 1
  let stop := (← i.integer? 4).getD t.length
  return [.string (← joined i t separator start (stop - start + 1).toNat)]

/-- Moves the values from a position on to the right. -/
def shiftRight (t : Table) (position : Int) : Nat → Table
  | 0 => t
  | n + 1 =>
    let last := position + n
    shiftRight (t.setInt (last + 1) (t.getInt last)) position n

/-- Puts a value at a position or at the end. -/
def runInsert : Eval (List Value) := do
  let id ← i.table 1
  let t ← readTable id
  match i.args with
  | [_, v] => modifyTable id (·.setInt (t.length + 1) v)
  | [_, _, v] =>
    let position ← i.integer 2
    let moved := shiftRight t position (t.length + 1 - position).toNat
    modifyTable id fun _ => moved.setInt position v
  | _ => i.fail (bytes "wrong number of arguments to 'insert'")
  return []

/-- Takes a value away, the last one unless a position is given. -/
def runRemove : Eval (List Value) := do
  let id ← i.table 1
  let t ← readTable id
  let size : Int := t.length
  if (i.arg 2).isNil then
    if size = 0 then return []
    else
      modifyTable id (·.setInt size .nil)
      return [t.getInt size]
  else
    let position ← i.integer 2
    if position < 1 || position > size then return []
    else
      let moved := (List.range (size - position).toNat).foldl
        (fun t (n : Nat) => t.setInt (position + n) (t.getInt (position + n + 1))) t
      modifyTable id fun _ => moved.setInt size .nil
      return [t.getInt position]

/-- Calls a function for entries until it gives a value. -/
def untilResult (f : Value) : List (Value × Value) → Eval (List Value)
  | [] => return []
  | (k, v) :: rest => do
    let result := (← i.invoke f [k, v]).headD .nil
    if result.isNil then untilResult f rest else return [result]

/-- The largest positive number among the keys. -/
def largestKey (t : Table) : Number :=
  t.toList.foldl (fun best (k, _) => match k with
    | .number n => if best.lt n then n else best
    | _ => best) (.whole 0)

/-- Copies a range of values to another position. -/
def runMove : Eval (List Value) := do
  let source ← i.table 1
  let start ← i.integer 2
  let stop ← i.integer 3
  let target ← i.integer 4
  let destination ← if (i.arg 5).isNil then pure source else i.table 5
  let offsets := List.range (stop - start + 1).toNat
  let offsets := if target > start then offsets.reverse else offsets
  for n in offsets do
    let v := (← readTable source).getInt (start + n)
    modifyTable destination (·.setInt (target + n) v)
  return [.table destination]

/-! ## Sorting -/

/-- Whether a value stands before another one: by a function, or by `<`. -/
def before (f a b : Value) : Eval Bool := do
  if f.isNil then Operation.less i.call i.context a b
  else return ((← i.invoke f [a, b]).headD .nil).isTrue

section

variable (id : Nat) (order : Value)

/-- The value at an index. -/
def valueAt (n : Int) : Eval Value := return (← readTable id).getInt n

/-- Exchanges the values at two indices. -/
def exchange (m n : Int) : Eval Unit := do
  let a ← valueAt id m
  let b ← valueAt id n
  modifyTable id fun t => (t.setInt m b).setInt n a

/-- Puts the values at two indices in order. -/
def arrange (m n : Int) : Eval Unit := do
  if ← before i order (← valueAt id n) (← valueAt id m) then exchange id m n

/-- The first index after `m` whose value does not stand before the pivot. -/
def scanUp (pivot : Value) (high : Int) : Nat → Int → Eval Int
  | 0, m => return m
  | k + 1, m => do
    if ← before i order (← valueAt id (m + 1)) pivot then
      if m + 1 ≥ high then i.fail (bytes "invalid order function for sorting")
      scanUp pivot high k (m + 1)
    else return m + 1

/-- The last index before `n` whose value does not stand after the pivot. -/
def scanDown (pivot : Value) (low : Int) : Nat → Int → Eval Int
  | 0, n => return n
  | k + 1, n => do
    if ← before i order pivot (← valueAt id (n - 1)) then
      if n - 1 ≤ low then i.fail (bytes "invalid order function for sorting")
      scanDown pivot low k (n - 1)
    else return n - 1

/-- Exchanges values on the wrong sides of the pivot; the index at which they meet. -/
def divide (pivot : Value) (low high : Int) : Nat → Int → Int → Eval Int
  | 0, m, _ => return m
  | k + 1, m, n => do
    let room := (high - low).toNat + 2
    let m ← scanUp i id order pivot high room m
    let n ← scanDown i id order pivot low room n
    if n < m then return m
    else
      exchange id m n
      divide pivot low high k m n

/-- Sorts a range, whose size bounds the number of rounds. -/
def sortRange : Nat → Int → Int → Eval Unit
  | 0, _, _ => return
  | k + 1, low, high => do
    if low < high then
      arrange i id order low high
      if high - low > 1 then
        let middle := (low + high) / 2
        if ← before i order (← valueAt id middle) (← valueAt id low) then exchange id middle low
        else arrange i id order middle high
        if high - low > 2 then
          let pivot ← valueAt id middle
          exchange id middle (high - 1)
          let m ← divide i id order pivot low high ((high - low).toNat + 2) low (high - 1)
          exchange id (high - 1) m
          if m - low < high - m then
            sortRange k low (m - 1)
            sortRange k (m + 1) high
          else
            sortRange k (m + 1) high
            sortRange k low (m - 1)

end

/-- Sorts a table in place. -/
def runSort : Eval (List Value) := do
  let id ← i.table 1
  let order := i.arg 2
  if !order.isNil && !Operation.isFunction order then i.wrongType 2 "function"
  let size := (← readTable id).length
  sortRange i id order (size + 1) 1 size
  return []

/-- What a function does. -/
def run (f : TableFunction) : Eval (List Value) := do
  match f with
  | concat => runConcat i
  | foreach => untilResult i (i.arg 2) (← readTable (← i.table 1)).toList
  | foreachi =>
    let t ← readTable (← i.table 1)
    untilResult i (i.arg 2)
      ((List.range t.length).map fun n => (.ofNat (n + 1), t.getInt ((n : Int) + 1)))
  | getn => return [.ofNat (← readTable (← i.table 1)).length]
  | insert => runInsert i
  | maxn => return [.number (largestKey (← readTable (← i.table 1)))]
  | move => runMove i
  | pack =>
    let t := (Table.empty.reserve i.args.length).setText "n" (.ofNat i.args.length)
    let entries := i.args.zipIdx
    return [← newTable (entries.foldl (fun t (v, n) => t.setInt ((n : Int) + 1) v) t)]
  | remove => runRemove i
  | sort => runSort i

end TableFunction

end Stencil.Lua
