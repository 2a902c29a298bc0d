/-
  Running Lua.

  * `Flow`: how a statement ends;
  * `evaluate`, `action`: what expressions and statements do. They follow the syntax;
    the calls of functions are a parameter, and a loop has a limit of rounds;
  * `apply`, `callWithin`: calls tied to the functions they call, one level of depth
    less at each call. A chain of tail calls stays on its level.
-/
import Stencil.Lua.Environment

namespace Stencil.Lua

open Eval

/-- How a statement ends. -/
inductive Flow where
  | next
  /-- Leaves the innermost loop. -/
  | leave
  | jump (label : Bytes)
  | done (results : List Value)
  /-- Goes on with a call in place of the function. -/
  | tail (f : Value) (args : List Value)

/-- The cells of the variables that can be seen, the innermost first. -/
abbrev Env := List Nat

/-- A statement of a block: a label, or what changes the environment and ends. -/
inductive Action where
  | label (name : Bytes) (depth : Nat)
  | step (run : Env → Eval (Env × Flow))

/-- What is known of a running function: its variable arguments and its sites. -/
structure Frame where
  varargs : List Value
  sites : Sites

/-- How many rounds a loop may have. -/
def roundLimit : Nat := 1000000000000000

/-! ## Blocks -/

/-- Runs statements in their order until one does not end with `next`. -/
def runStraight : List Action → Env → Eval (Env × Flow)
  | [], env => return (env, .next)
  | .label _ _ :: rest, env => runStraight rest env
  | .step run :: rest, env => do
    let (env, flow) ← run env
    match flow with
    | .next => runStraight rest env
    | flow => return (env, flow)

/-- The statements after a label, and the depth of the environment there. -/
def afterLabel? (name : Bytes) : List Action → Option (List Action × Nat)
  | [] => none
  | .label other depth :: rest =>
    if other = name then some (rest, depth) else afterLabel? name rest
  | .step _ :: rest => afterLabel? name rest

/-- Runs statements of a block, going on after its labels at jumps to them. -/
def runFrom (block : List Action) : Nat → List Action → Env → Eval (Env × Flow)
  | 0, _, _ => throw .unfinished
  | n + 1, rest, env => do
    let (env, flow) ← runStraight rest env
    match flow with
    | .jump name =>
      match afterLabel? name block with
      | some (rest, depth) => runFrom block n rest (env.drop (env.length - depth))
      | none => return (env, flow)
    | flow => return (env, flow)

/-- Runs a block. -/
def runBlock (block : List Action) (env : Env) : Eval (Env × Flow) :=
  runFrom block roundLimit block env

/-! ## Loops -/

/-- Repeats a round until it ends the loop. -/
def rounds (round : Eval (Option Flow)) : Nat → Eval Flow
  | 0 => throw .unfinished
  | n + 1 => do
    match ← round with
    | some flow => return flow
    | none => rounds round n

/-- How a loop goes on after its body: nothing for another round. -/
def afterBody : Flow → Option Flow
  | .next => none
  | .leave => some .next
  | flow => some flow

/-- Counts from a number up or down to a limit. -/
def counting (limit step : Number) (body : Number → Eval Flow) : Nat → Number → Eval Flow
  | 0, _ => throw .unfinished
  | n + 1, x => do
    let inside := if step.lt (.whole 0) then limit.le x else x.le limit
    if inside then
      match afterBody (← body x) with
      | some flow => return flow
      | none => counting limit step body n (x.add step)
    else return .next

/-- Calls an iterator until its first result is `nil`. -/
def iterating (next : Value → Eval (List Value)) (body : List Value → Eval Flow) :
    Nat → Value → Eval Flow
  | 0, _ => throw .unfinished
  | n + 1, control => do
    let results ← next control
    let control := results.headD .nil
    if control.isNil then return .next
    else
      match afterBody (← body results) with
      | some flow => return flow
      | none => iterating next body n control

/-! ## Values -/

/-- A number of values; missing ones are `nil`. -/
def adjust (count : Nat) (values : List Value) : List Value :=
  values.take count ++ List.replicate (count - values.length) .nil

/-- The value of a constant. -/
def constant? : Expr → Option Value
  | .nil => some .nil
  | .bool b => some (.bool b)
  | .number n => some (.number n)
  | .string s => some (.string s)
  | _ => none

/-- Whether a field of a table constructor is known before the program runs. -/
def isConstant : Field → Bool
  | .positional v => (constant? v).isSome
  | .keyed (.nil) _ _ => false
  | .keyed k v _ => (constant? k).isSome && (constant? v).isSome

/-- The table of a constructor with the fields that are known before the program
    runs, and room for the others. -/
def template (fields : List Field) : Table :=
  let count := fields.countP fun f => f matches .positional _
  if fields.any fun f => isConstant f || f matches .keyed (.string _) _ _ then
    (fill Table.empty 0 fields).reserve count
  else if count = 0 then .empty else Table.empty.reserve (max 2 count)
where
  /-- Adds the fields after a number of positional ones. -/
  fill (t : Table) (n : Nat) : List Field → Table
    | [] => t
    | .positional v :: rest => match constant? v with
      | some v =>
        let t := if n < t.array.size then t.setInt ((n : Int) + 1) v
          else t.insertNew (.ofNat (n + 1)) v
        fill t (n + 1) rest
      | none => fill t (n + 1) rest
    | .keyed k v line :: rest => match isConstant (.keyed k v line), constant? k, constant? v with
      | true, some k, some v => fill (t.set k v) n rest
      | _, _, _ => fill t n rest

/-- The number that a loop counts with, or the message that it is none. -/
def loopNumber (c : Context) (what : String) (v : Value) : Eval Number :=
  match v.toNumber? with
  | some n => return n
  | none => c.fault (bytes "'for' " ++ bytes what ++ bytes " must be a number")

/-- The cell of a local of the function itself, whose value is read only when an
    operation uses it. -/
def ownCell? (env : Env) : Expr → Option Nat
  | .localVar i _ false => env[i]?
  | _ => none

/-- A value, or the cell from which it is read later. -/
inductive Operand where
  | now (v : Value)
  | later (cell : Nat)

/-- The value of an operand. -/
def Operand.read : Operand → Eval Value
  | now v => return v
  | later cell => readCell cell

/-- An operand from the values of its expression; a local of the function itself is
    read later. -/
def operand (env : Env) (e : Expr) (values : Eval (List Value)) : Eval Operand :=
  match ownCell? env e with
  | some cell => return .later cell
  | none => do return .now ((← values).headD .nil)

/-- What is assigned to. -/
inductive Target where
  | cell (id : Nat)
  | global (name : Bytes)
  | field (object key : Operand) (place : Operation.Named)
  | nothing

/-- Assigns a value. -/
def Target.store (call : Call) (c : Context) (v : Value) : Target → Eval Unit
  | cell id => writeCell id v
  | global name => Operation.setIndex call c (.table Store.globals) (.string name) v none
  | field object key place => do
    let object ← object.read
    Operation.setIndex call c object (← key.read) v place
  | nothing => return

section

variable (call : Call) (frame : Frame)

/-- Who performs an operation on a line. -/
def Frame.on (line : Nat) : Context := ⟨some line, frame.sites⟩

/-- Calls a value on a line. -/
def callOn (line : Nat) (place : Operation.Named) (f : Value) (args : List Value) :
    Eval (List Value) := do
  let (f, args) ← Operation.callee (frame.on line) place f args
  call (.lua line place :: frame.sites) f args

/-- An operation on two values. -/
def operate (op : BinaryOperator) (c : Context) (a b : Value) (placeA placeB : Operation.Named) :
    Eval Value :=
  match op with
  | .arithmetic op => Operation.arithmetic call c op a b placeA placeB
  | .comparison op => Value.bool <$> Operation.compare call c op a b

/-! ## Expressions -/

mutual

/-- The values of an expression. -/
def evaluate (env : Env) : Expr → Eval (List Value)
  | .nil => return [.nil]
  | .bool b => return [.bool b]
  | .number n => return [.number n]
  | .string s => return [.string s]
  | .vararg => return frame.varargs
  | .localVar i _ _ => do return [← readCell (env.getD i 0)]
  | .global name line => do
    return [← Operation.index call (frame.on line) (.table Store.globals) (.string name) none]
  | .index object key line => do
    let o ← operand env object (evaluate env object)
    let k ← operand env key (evaluate env key)
    let o ← o.read
    return [← Operation.index call (frame.on line) o (← k.read) object.describe?]
  | .call callee args line => do
    let f ← evaluate env callee
    let args ← evaluateAll env args
    callOn call frame line callee.describe? (f.headD .nil) args
  | .methodCall object name args nameLine line => do
    let o := (← evaluate env object).headD .nil
    let f ← Operation.index call (frame.on nameLine) o (.string name) object.describe?
    let args ← evaluateAll env args
    callOn call frame line (some (.method, name)) f (o :: args)
  | .paren e => do return [(← evaluate env e).headD .nil]
  | .unary op e line => do
    let v := (← evaluate env e).headD .nil
    match op with
    | .not => return [.bool !v.isTrue]
    | .negate => return [← Operation.negate call (frame.on line) v e.describe?]
    | .length => return [← Operation.length call (frame.on line) v e.describe?]
  | .binary op a b line => do
    let x ← operand env a (evaluate env a)
    let y ← operand env b (evaluate env b)
    let x ← x.read
    return [← operate call op (frame.on line) x (← y.read) a.describe? b.describe?]
  | .concat operands line => do
    let values ← evaluateEach env operands
    return [(← Operation.concatenate call (frame.on line) values).1]
  | .both a b => do
    let v := (← evaluate env a).headD .nil
    if v.isTrue then return [(← evaluate env b).headD .nil] else return [v]
  | .either a b => do
    let v := (← evaluate env a).headD .nil
    if v.isTrue then return [v] else return [(← evaluate env b).headD .nil]
  | .function f => do return [← newClosure (.lua f env)]
  | .table fields => do
    let t ← newTable (template fields)
    match t with
    | .table id => fillTable env id 0 fields
    | _ => pure ()
    return [t]
termination_by structural e => e

/-- The values of expressions: one each, and all of the last one. -/
def evaluateAll (env : Env) : List Expr → Eval (List Value)
  | [] => return []
  | [e] => evaluate env e
  | e :: rest => do
    let v := (← evaluate env e).headD .nil
    return v :: (← evaluateAll env rest)

/-- One value for each expression, with the place it came from. -/
def evaluateEach (env : Env) : List Expr → Eval (List (Value × Operation.Named))
  | [] => return []
  | e :: rest => do
    let v := (← evaluate env e).headD .nil
    return (v, e.describe?) :: (← evaluateEach env rest)

/-- Fills a table with the fields that are not constant, after a number of
    positional ones. -/
def fillTable (env : Env) (id : Nat) (n : Nat) : List Field → Eval Unit
  | [] => return
  | f :: rest => do
    let more ← field env id n rest.isEmpty f
    fillTable env id (n + more) rest

/-- Adds a field; gives how many positions it takes. -/
def field (env : Env) (id : Nat) (n : Nat) (isLast : Bool) : Field → Eval Nat
  | .positional e => do
    if (constant? e).isSome then return 1
    else
      let values ← evaluate env e
      let values := if isLast && (e.isCall || e matches .vararg) then values
        else [values.headD .nil]
      modifyTable id fun t =>
        (values.zipIdx).foldl (fun t (v, k) => t.setInt ((n : Int) + k + 1) v)
          (t.reserve (n + values.length))
      return values.length
  | .keyed key value line => do
    if isConstant (.keyed key value line) then return 0
    else
      let k := (← evaluate env key).headD .nil
      let v := (← evaluate env value).headD .nil
      Operation.rawSet (frame.on line) id k v
      return 0

end

/-- What an expression assigns to; with `late`, locals of the function are read when
    the value is stored. -/
def target (env : Env) (late : Bool) : Expr → Eval Target
  | .localVar i _ _ => return .cell (env.getD i 0)
  | .global name _ => return .global name
  | .index object key _ => do
    let read := fun (e : Expr) =>
      if late then operand env e (evaluate call frame env e)
      else return .now ((← evaluate call frame env e).headD .nil)
    let o ← read object
    return .field o (← read key) object.describe?
  | _ => return .nothing

/-! ## Statements -/

/-- Assigns values to targets, the last one first. -/
def assign (env : Env) (targets values : List Expr) (line : Nat) : Eval Unit := do
  let targets ← targets.mapM (target call frame env (targets.length = 1))
  let values := adjust targets.length (← evaluateAll call frame env values)
  for (t, v) in (targets.zip values).reverse do
    t.store call (frame.on line) v

mutual

/-- What a statement does. -/
def action : Stmt → Action
  | .locals count values => .step fun env => do
    let values ← evaluateAll call frame env values
    return (← newCells env (adjust count values), .next)
  | .localFunction f => .step fun env => do
    let cell ← newCell .nil
    let env := cell :: env
    writeCell cell (← newClosure (.lua f env))
    return (env, .next)
  | .assign targets values line => .step fun env => do
    assign call frame env targets values line
    return (env, .next)
  | .call e => .step fun env => do
    let _ ← evaluate call frame env e
    return (env, .next)
  | .block body =>
    let body := actions body
    .step fun env => return (env, (← runBlock body env).2)
  | .whileLoop condition body =>
    let body := actions body
    .step fun env => do
      let round := do
        if ((← evaluate call frame env condition).headD .nil).isTrue then
          return afterBody (← runBlock body env).2
        else return some Flow.next
      return (env, ← rounds round roundLimit)
  | .repeatLoop body condition =>
    let body := actions body
    .step fun env => do
      let round := do
        let (inner, flow) ← runBlock body env
        match afterBody flow with
        | some flow => return some flow
        | none =>
          let v := (← evaluate call frame inner condition).headD .nil
          return if v.isTrue then some Flow.next else none
      return (env, ← rounds round roundLimit)
  | .ifThen condition yes no =>
    let yes := actions yes
    let no := actions no
    .step fun env => do
      let v := (← evaluate call frame env condition).headD .nil
      return (env, (← runBlock (if v.isTrue then yes else no) env).2)
  | .forNumber start limit step? body line =>
    let body := actions body
    .step fun env => do
      let start := (← evaluate call frame env start).headD .nil
      let limit := (← evaluate call frame env limit).headD .nil
      let step ← match step? with
        | some step => (·.headD .nil) <$> evaluate call frame env step
        | none => pure (.ofNat 1)
      let start ← loopNumber (frame.on line) "initial value" start
      let limit ← loopNumber (frame.on line) "limit" limit
      let step ← loopNumber (frame.on line) "step" step
      let round := fun (x : Number) => do
        return (← runBlock body (← newCells env [.number x])).2
      return (env, ← counting limit step round roundLimit start)
  | .forEach count values body line =>
    let body := actions body
    .step fun env => do
      let place : Operation.Named := some (.localVar, bytes "(for generator)")
      let three := adjust 3 (← evaluateAll call frame env values)
      let f := three.headD .nil
      let state := (three.drop 1).headD .nil
      let next := fun (control : Value) => do
        let (f, args) ← Operation.callee (frame.on line) none f [state, control]
        call (.lua line place :: frame.sites) f args
      let round := fun (results : List Value) => do
        return (← runBlock body (← newCells env (adjust count results))).2
      return (env, ← iterating next round roundLimit ((three.drop 2).headD .nil))
  | .label name depth => .label name depth
  | .goto name => .step fun env => return (env, .jump name)
  | .breakLoop => .step fun env => return (env, .leave)
  | .ret values => .step fun env => do
    return (env, .done (← evaluateAll call frame env values))
  | .tailCall e => .step fun env => do
    match e with
    | .call callee args line =>
      let f ← evaluate call frame env callee
      let args ← evaluateAll call frame env args
      let (f, args) ← Operation.callee (frame.on line) callee.describe? (f.headD .nil) args
      return (env, .tail f args)
    | .methodCall object name args nameLine line =>
      let o := (← evaluate call frame env object).headD .nil
      let f ← Operation.index call (frame.on nameLine) o (.string name) object.describe?
      let args ← evaluateAll call frame env args
      let (f, args) ← Operation.callee (frame.on line) (some (.method, name)) f (o :: args)
      return (env, .tail f args)
    | e => return (env, .done (← evaluate call frame env e))

/-- What the statements of a block do. -/
def actions : List Stmt → List Action
  | [] => []
  | s :: rest => action s :: actions rest

end

end

/-- A local is read from its cell. -/
theorem evaluate_localVar {call : Call} {frame : Frame} {env : Env} {s : Store} (i : Nat)
    (name : Bytes) (upvalue : Bool) :
    evaluate call frame env (.localVar i name upvalue) s =
      .ok [s.cells.getD (env.getD i 0) .nil] s := by
  rw [evaluate]
  rfl

/-! ## Calls -/

/-- Runs the body of a function on arguments. -/
def enter (call : Call) (sites : Sites) (f : Function) (env : Env) (args : List Value) :
    Eval Flow := do
  let frame : Frame := ⟨if f.isVararg then args.drop f.params else [], sites⟩
  let env ← newCells env (adjust f.params args)
  return (← runBlock (actions call frame f.body) env).2

variable [Locales]

/-- Calls a function, and the functions that it calls in its place. -/
def apply (call : Call) (sites : Sites) : Nat → Value → List Value → Eval (List Value)
  | 0, _, _ => throw .unfinished
  | n + 1, f, args => do
    match f with
    | .builtin b => b.run ⟨call, sites, args⟩
    | .function id =>
      match ← readClosure? id with
      | some (.lua f env) =>
        match ← enter call sites f env args with
        | .done results => return results
        | .tail f args => apply call sites n f args
        | _ => return []
      | some (.matches text pattern position) =>
        StringFunction.runMatches ⟨call, sites, args⟩ id text pattern position
      | none => return []
    | _ => return []

/-- Stops because calls are nested too deeply; the message names the line on which
    the called function begins. -/
def overflow {α : Type} (f : Value) : Eval α := do
  let position ← match f with
    | .function id =>
      match ← readClosure? id with
      | some (.lua f _) => pure (positionOf f.line)
      | _ => pure []
    | _ => pure []
  raiseText (position ++ bytes "stack overflow")

/-- Calls a function with at most a depth of calls inside it. -/
def callWithin : Nat → Call
  | 0, _, f, _ => overflow f
  | n + 1, sites, f, args => apply (callWithin n) sites roundLimit f args

/-- How deeply calls may be nested. -/
def callDepth : Nat := 8000

end Stencil.Lua
