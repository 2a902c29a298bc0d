/-
  The state of a running Lua program.

  * `Store`: the cells of variables, the tables and the functions of the program;
  * `Eval`: what runs on a store and gives a value or stops;
  * `Site`: where a function was called from, which is what levels of errors and
    the names in messages refer to;
  * `Context`: who performs an operation, and so which line a fault of it names.
-/
import Stencil.Lua.Syntax
import Stencil.Lua.Table

namespace Stencil.Lua

/-- A function that belongs to the program. -/
inductive Closure where
  /-- A function written in Lua with the cells of the variables around it. -/
  | lua (f : Function) (env : List Nat)
  /-- The iterator over the matches of a pattern, at a position. -/
  | matches (subject pattern : Bytes) (position : Nat)

/-- The state of a running program. -/
structure Store where
  cells : Array Value
  tables : Array Table
  closures : Array Closure
  /-- The requests for a locale that were granted, each a category and a name, the last one
      first. -/
  granted : List (Bytes × Bytes)

namespace Store

/-- The table of the globals. -/
def globals : Nat := 0

/-- The metatable of all strings. -/
def stringMetatable : Nat := 1

/-- The table of the libraries that can be required. -/
def loaded : Nat := 2

/-- The state in which only the fixed tables exist. -/
def initial : Store := ⟨#[], #[.empty, .empty, .empty], #[], []⟩

end Store

/-- Why a computation stops before its end. -/
inductive Stop where
  /-- An error with a value. -/
  | raised (v : Value)
  /-- A limit on the number of steps, or a function outside of the program. -/
  | unfinished

/-- What runs on a store; changes stay when it stops. -/
abbrev Eval := EStateM Stop Store

/-! ## Sites -/

/-- Where a function was called from. -/
inductive Site where
  /-- From a function that is not written in Lua. -/
  | native
  /-- From a line of the program, under a name if there is one. -/
  | lua (line : Nat) (name? : Option (Expr.Place × Bytes))

/-- The sites of the running functions, the innermost first. -/
abbrev Sites := List Site

/-- The name that messages give a chunk. -/
def chunkName : Bytes := bytes "sgtt_program"

/-- The position of a line at the start of a message. -/
def positionOf (line : Nat) : Bytes := chunkName ++ bytes ":" ++ decimal line ++ bytes ": "

/-- The position at the start of a message for a level of the sites. -/
def Sites.position (sites : Sites) (level : Nat) : Bytes :=
  match sites[level]? with
  | some (.lua line _) => positionOf line
  | _ => []

namespace Eval

/-- Stops with an error value. -/
def raise {α : Type} (v : Value) : Eval α := throw (.raised v)

/-- Stops with a message. -/
def raiseText {α : Type} (message : Bytes) : Eval α := raise (.string message)

/-- Stops with a message at the place from which a builtin was called. -/
def raiseAt {α : Type} (sites : Sites) (message : Bytes) : Eval α :=
  raiseText (sites.position 0 ++ message)

/-- Runs to an end or to an error, and gives which of both. -/
def attempt {α : Type} (x : Eval α) : Eval (Except Value α) := fun store =>
  match x store with
  | .ok a store => .ok (.ok a) store
  | .error (.raised v) store => .ok (.error v) store
  | .error .unfinished store => .error .unfinished store

/-! ## Cells, tables, functions -/

/-- A new cell. -/
def newCell (v : Value) : Eval Nat :=
  modifyGet fun s => (s.cells.size, { s with cells := s.cells.push v })

/-- New cells, the last one first. -/
def newCells (env : List Nat) : List Value → Eval (List Nat)
  | [] => return env
  | v :: rest => do newCells ((← newCell v) :: env) rest

/-- The value of a cell. -/
def readCell (id : Nat) : Eval Value := return (← get).cells.getD id .nil

/-- Changes a cell. -/
def writeCell (id : Nat) (v : Value) : Eval Unit :=
  modify fun s => { s with cells := s.cells.setIfInBounds id v }

/-- A new table. -/
def newTable (t : Table) : Eval Value :=
  modifyGet fun s => (.table s.tables.size, { s with tables := s.tables.push t })

/-- The contents of a table. -/
def readTable (id : Nat) : Eval Table := return (← get).tables.getD id .empty

/-- Changes a table. -/
def modifyTable (id : Nat) (change : Table → Table) : Eval Unit :=
  modify fun s => { s with tables := s.tables.modify id change }

/-- A new function. -/
def newClosure (c : Closure) : Eval Value :=
  modifyGet fun s => (.function s.closures.size, { s with closures := s.closures.push c })

/-- A function of the program. -/
def readClosure? (id : Nat) : Eval (Option Closure) := return (← get).closures[id]?

/-- Changes a function. -/
def writeClosure (id : Nat) (c : Closure) : Eval Unit :=
  modify fun s => { s with closures := s.closures.setIfInBounds id c }

/-- The metatable of a value. -/
def metatableOf : Value → Eval (Option Nat)
  | .table id => return (← readTable id).metatable?
  | .string _ => return some Store.stringMetatable
  | _ => return none

/-- The value that the metatable of a value has for an event, `nil` if there is none. -/
def metamethod (v : Value) (event : String) : Eval Value := do
  match ← metatableOf v with
  | some id => return (← readTable id).getText event
  | none => return .nil

end Eval

/-! ## Contexts -/

/-- Calls a value with arguments, from a place. -/
abbrev Call := Sites → Value → List Value → Eval (List Value)

/-- Who performs an operation. -/
structure Context where
  /-- The line of the program, `none` for a builtin. -/
  line? : Option Nat
  /-- The sites of the function that performs it. -/
  sites : Sites

namespace Context

/-- The sites of a function called by an operation. -/
def calling (c : Context) (name? : Option (Expr.Place × Bytes)) : Sites :=
  match c.line? with
  | some line => .lua line name? :: c.sites
  | none => .native :: c.sites

/-- The sites of a metamethod. -/
def handling (c : Context) (event : String) : Sites :=
  c.calling (some (.metamethod, bytes event))

/-- Stops with a message for the line of the operation. -/
def fault {α : Type} (c : Context) (message : Bytes) : Eval α :=
  Eval.raiseText ((c.line?.map positionOf).getD [] ++ message)

/-- Stops because a value does not admit an operation. -/
def refuse {α : Type} (c : Context) (verb : String) (place? : Option (Expr.Place × Bytes))
    (v : Value) : Eval α :=
  match place? with
  | some (place, name) =>
    c.fault (bytes "attempt to " ++ bytes verb ++ bytes " " ++ bytes place.word ++ bytes " '" ++
      name ++ bytes "' (a " ++ bytes v.typeName ++ bytes " value)")
  | none =>
    c.fault (bytes "attempt to " ++ bytes verb ++ bytes " a " ++ bytes v.typeName ++
      bytes " value")

end Context

end Stencil.Lua
