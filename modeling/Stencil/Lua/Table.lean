/-
  Tables.

  * `Table`: an array of the first positive integers, other entries in the order of
    their insertion, and a metatable;
  * `get`, `set`, `next?`: the contents;
  * `length`: a border, that is, a positive integer whose value is not `nil` while
    the next one is. The array has room for more than it holds, and where it has
    holes its size decides which border is found.
-/
import Stencil.Lua.Value

namespace Stencil.Lua

/-- A table. -/
structure Table where
  /-- The values of the keys 1, 2, … up to the capacity of the array. -/
  array : Array Value
  /-- The other entries, the oldest first; a value `nil` marks a removed one. -/
  entries : List (Value × Value)
  /-- The metatable, by its place in the store. -/
  metatable? : Option Nat

namespace Table

/-- A table without entries. -/
def empty : Table := ⟨#[], [], none⟩

/-- The position in an array of a capacity that a key has, counted from 0. -/
def position? (capacity : Nat) : Value → Option Nat
  | .number (.whole n) => if 0 < n ∧ n ≤ capacity then some (n.toNat - 1) else none
  | _ => none

/-- The value of a key, `nil` if there is none. -/
def get (t : Table) (key : Value) : Value :=
  match position? t.array.size key with
  | some i => t.array.getD i .nil
  | none => ((t.entries.find? (·.1.rawEqual key)).map (·.2)).getD .nil

/-- The value of a text key. -/
def getText (t : Table) (key : String) : Value := t.get (.ofString key)

/-- The value of an integer key. -/
def getInt (t : Table) (key : Int) : Value := t.get (.ofInt key)

/-! ## Growth -/

/-- The positive integers among the keys that have a value. -/
def integerKeys (t : Table) : List Nat :=
  (((List.range t.array.size).filter fun i => !(t.array.getD i .nil).isNil).map (· + 1)) ++
    t.entries.filterMap fun (k, v) => match k with
      | .number (.whole n) => if 0 < n ∧ !v.isNil then some n.toNat else none
      | _ => none

/-- The capacity that fits some integer keys: the largest power of two of which
    more than a quarter is used. -/
def fittingCapacity (keys : List Nat) : Nat :=
  go (Nat.log2 (2 * keys.length) + 2) 0 0
where
  /-- Looks at the powers of two from an exponent on. -/
  go : Nat → Nat → Nat → Nat
    | 0, _, best => best
    | n + 1, b, best =>
      let inside := (keys.filter (· ≤ Text.twoTo (b + 1))).length
      let hasNew := keys.any fun k => k ≤ Text.twoTo (b + 1) && (b == 0 || k > Text.twoTo b)
      go n (b + 1) (if hasNew && 2 * inside > Text.twoTo b then Text.twoTo (b + 1) else best)

/-- Gives the array at least a capacity. -/
def reserve (t : Table) (capacity : Nat) : Table :=
  if capacity ≤ t.array.size then t
  else
    let moved := fun (i : Nat) =>
      if h : i < t.array.size then t.array[i] else t.get (.ofNat (i + 1))
    { t with
      array := ((List.range capacity).map moved).toArray
      entries := t.entries.filter fun e => (position? capacity e.1).isNone }

/-- Puts a value under a key that the entries hold, if they do. -/
def replace? (key value : Value) : List (Value × Value) → Option (List (Value × Value))
  | [] => none
  | e :: rest =>
    if e.1.rawEqual key then some ((e.1, value) :: rest)
    else (replace? key value rest).map (e :: ·)

/-- Adds a key, even with a value `nil`. -/
def insertNew (t : Table) (key value : Value) : Table :=
  let grown := match key with
    | .number (.whole n) =>
      if 0 < n then t.reserve (fittingCapacity (n.toNat :: t.integerKeys)) else t
    | _ => t
  match position? grown.array.size key with
  | some i => { grown with array := grown.array.setIfInBounds i value }
  | none => { grown with entries := grown.entries ++ [(key, value)] }

/-- The table with a value under a key, which is neither `nil` nor not a number. -/
def set (t : Table) (key value : Value) : Table :=
  match position? t.array.size key with
  | some i => { t with array := t.array.setIfInBounds i value }
  | none => match replace? key value t.entries with
    | some entries => { t with entries }
    | none => if value.isNil then t else t.insertNew key value

/-- The table with a value under an integer key. -/
def setInt (t : Table) (key : Int) (value : Value) : Table := t.set (.ofInt key) value

/-- The table with a value under a text key. -/
def setText (t : Table) (key : String) (value : Value) : Table := t.set (.ofString key) value

/-! ## Length -/

/-- A border between a key with a value and one without, by halving. -/
def borderBetween (t : Table) (low high : Nat) : Nat :=
  if high - low > 1 then
    let middle := (low + high) / 2
    if (t.getInt middle).isNil then borderBetween t low middle else borderBetween t middle high
  else low
termination_by high - low

/-- A border among the entries after the array, all keys up to `n` having values. -/
def borderAfter (t : Table) (n : Nat) : Nat :=
  go (t.entries.length + 1) n
where
  /-- Counts upwards at most a number of times. -/
  go : Nat → Nat → Nat
    | 0, n => n
    | k + 1, n => if (t.getInt ((n : Int) + 1)).isNil then n else go k (n + 1)

/-- A border. -/
def length (t : Table) : Nat :=
  let size := t.array.size
  if size > 0 && (t.array.getD (size - 1) .nil).isNil then t.borderBetween 0 size
  else if t.entries.isEmpty then size
  else t.borderAfter size

/-! ## Traversal -/

/-- The entries in order. -/
def toList (t : Table) : List (Value × Value) :=
  let indexed := (List.range t.array.size).map fun i => (Value.ofNat (i + 1), t.array.getD i .nil)
  (indexed ++ t.entries).filter (!·.2.isNil)

/-- The first entry after those up to a key. Nothing if the key was never there. -/
def next? (t : Table) (key : Value) : Option (Option (Value × Value)) :=
  let indexed := (List.range t.array.size).map fun i => (Value.ofNat (i + 1), t.array.getD i .nil)
  let all := indexed ++ t.entries
  if key.isNil then some (all.find? (!·.2.isNil))
  else match all.dropWhile (!·.1.rawEqual key) with
    | [] => none
    | _ :: rest => some (rest.find? (!·.2.isNil))

end Table

end Stencil.Lua
