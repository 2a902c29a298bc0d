/-
  The scopes of a Lua chunk while it is read.

  * `Scope`: a block with its labels and the jumps that are still without a target;
  * `FunctionScope`: a function with its visible locals and its open blocks;
  * `resolve`: the variable that a name stands for;
  * `declareLabel`, `settleLabel`, `closeBlock`, `close`: the rules for
    jumps. A jump reaches a label of its own or of an enclosing block, but not into
    the scope of a local; `break` is a jump to the end of the innermost loop.
-/
import Stencil.Lua.Syntax

namespace Stencil.Lua

/-- A jump without a target so far: `none` for a jump out of the loop. -/
structure Jump where
  label? : Option Bytes
  /-- How many locals of the function are active at the jump. -/
  active : Nat
  line : Nat

/-- A label, and how many locals are active at it. -/
structure Label where
  name : Bytes
  active : Nat

/-- An open block. -/
structure Scope where
  /-- How many locals are active at its start. -/
  base : Nat
  isLoop : Bool
  labels : List Label
  /-- The jumps without a target, in the order of the chunk. -/
  jumps : List Jump

/-- An open function. -/
structure FunctionScope where
  /-- The active locals, the innermost first; `none` is a hidden loop variable. -/
  active : List (Option Bytes)
  /-- The open blocks, the innermost first. -/
  blocks : List Scope
  isVararg : Bool
  /-- The line on which the function begins, 0 for the chunk. -/
  line : Nat

namespace FunctionScope

/-- A function with its outermost block. -/
def start (isVararg : Bool) (line : Nat) : FunctionScope :=
  ⟨[], [⟨0, false, [], []⟩], isVararg, line⟩

/-- The names that can be seen, the innermost first. -/
def visible (f : FunctionScope) : List Bytes := f.active.filterMap id

/-- How many locals a function may have. -/
def localLimit : Nat := 200

/-- Activates locals, the last one innermost. -/
def declare (names : List (Option Bytes)) (f : FunctionScope) : FunctionScope :=
  { f with active := names.reverse ++ f.active }

/-- Opens a block. -/
def openBlock (isLoop : Bool) (f : FunctionScope) : FunctionScope :=
  { f with blocks := ⟨f.active.length, isLoop, [], []⟩ :: f.blocks }

/-- Changes the innermost block. -/
def mapBlock (change : Scope → Scope) (f : FunctionScope) : FunctionScope :=
  match f.blocks with
  | [] => f
  | b :: rest => { f with blocks := change b :: rest }

/-- Records a jump. -/
def jump (label? : Option Bytes) (line : Nat) (f : FunctionScope) : FunctionScope :=
  f.mapBlock fun b => { b with jumps := b.jumps ++ [⟨label?, f.active.length, line⟩] }

/-- The name of an active local, counted from the outermost one. -/
def localAt (n : Nat) (f : FunctionScope) : Bytes := ((f.active.reverse[n]?).join).getD []

/-- Declares a label of the innermost block, unless the block has it already. -/
def declareLabel (name : Bytes) (f : FunctionScope) : Except SyntaxFault.Cause FunctionScope :=
  match f.blocks with
  | b :: _ =>
    if b.labels.any (·.name = name) then .error (.duplicateLabel name)
    else .ok (f.mapBlock fun b => { b with labels := ⟨name, f.active.length⟩ :: b.labels })
  | [] => .ok f

/-- Gives the earlier jumps of the block to a label their target. A label that
    ends its block stands outside of the scope of the block's locals. -/
def settleLabel (name : Bytes) (atEnd : Bool) (f : FunctionScope) :
    Except SyntaxFault FunctionScope :=
  match f.blocks with
  | b :: _ =>
    let active := if atEnd then b.base else f.active.length
    match b.jumps.find? fun j => j.label? = some name && j.active < active with
    | some j => .error ⟨.jumpIntoScope name (f.localAt j.active), none, j.line⟩
    | none => .ok (f.mapBlock fun b => { b with jumps := b.jumps.filter (·.label? ≠ some name) })
  | [] => .ok f

/-- The jumps that leave a block: those to its labels have reached them, and those
    out of the loop end with the loop. -/
def leaving (b : Scope) : List Jump :=
  b.jumps.filter fun j => match j.label? with
    | none => !b.isLoop
    | some name => !b.labels.any (·.name = name)

/-- Closes the innermost block; its jumps go on to the enclosing block. -/
def closeBlock (f : FunctionScope) : FunctionScope :=
  match f.blocks with
  | b :: outer :: rest =>
    let jumps := (leaving b).map fun j => { j with active := b.base }
    { f with
      active := f.active.drop (f.active.length - b.base)
      blocks := { outer with jumps := outer.jumps ++ jumps } :: rest }
  | _ => f

/-- Closes a function: no jump may be left. -/
def close (f : FunctionScope) : Except SyntaxFault Unit :=
  match f.blocks with
  | b :: _ => match leaving b with
    | [] => .ok ()
    | j :: _ => match j.label? with
      | none => .error ⟨.noLoop, none, j.line⟩
      | some name => .error ⟨.undefinedLabel name, none, j.line⟩
  | [] => .ok ()

end FunctionScope

/-- The variable that a name stands for inside open functions, the innermost first:
    a local, an upvalue or a global. -/
def resolve (name : Bytes) (functions : List FunctionScope) : Expr :=
  go 0 false functions
where
  /-- Looks through the functions, `passed` locals having been passed. -/
  go (passed : Nat) (upvalue : Bool) : List FunctionScope → Expr
    | [] => .global name 0
    | f :: outer => match f.visible.findIdx? (· = name) with
      | some i => .localVar (passed + i) name upvalue
      | none => go (passed + f.visible.length) true outer

/-- The length of the environment inside open functions. -/
def depth (functions : List FunctionScope) : Nat :=
  (functions.flatMap fun f => f.visible).length

end Stencil.Lua
