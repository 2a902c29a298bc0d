/-
  Rules of execution, read forwards.

  A rule says what a construct does on a store when its parts are known to do what they
  do: `x s = .ok a s'` reads "on `s`, `x` gives `a` and leaves `s'`".

  * `index_of_get`, `setIndex_of_rawSet`, `length_of_plain`: tables without metatables
    are read and written as they are;
  * `evaluate_global`, `evaluate_member`, `evaluate_call`: expressions;
  * `Continues`: a statement that ends and lets the next one run; with `runStraight_next`,
    a block is executed statement by statement;
  * `callWithin_builtin`, `callWithin_of_next`, `callWithin_of_done`, `callWithin_of_tail`:
    calls.
-/
import Stencil.Lua.Interpreter
import Stencil.Proofs.Lua.Linking

namespace Stencil.Lua

open Eval

section

variable {call : Call} {c : Context} {s s₁ s₂ s₃ : Store}

/-! ## Operations -/

/-- A value that is there is read without metamethods. -/
theorem index_of_get {id : Nat} {key v : Value} {place : Operation.Named}
    (hget : (s.table id).get key = v) (hv : v.isNil = false) :
    Operation.index call c (.table id) key place s = .ok v s := by
  subst hget
  show (if !((s.table id).get key).isNil || (s.table id).metatable?.isNone then
    pure ((s.table id).get key) else _ : Eval Value) s = _
  rw [hv]
  rfl

/-- A table without a metatable has no metamethods. -/
theorem metamethod_of_plain {id : Nat} (hplain : (s.table id).metatable? = none) (event : String) :
    metamethod (.table id) event s = .ok .nil s := by
  have hof : metatableOf (.table id) s = .ok none s := congrArg (EStateM.Result.ok · s) hplain
  exact (bind_of_ok hof).trans rfl

/-- A table without a metatable is written without metamethods. -/
theorem setIndex_of_rawSet {id : Nat} {key v : Value} {place : Operation.Named}
    (hplain : (s.table id).metatable? = none) (hset : Operation.rawSet c id key v s = .ok () s₁) :
    Operation.setIndex call c (.table id) key v place s = .ok () s₁ := by
  rw [Operation.setIndex, Operation.chainLimit, Operation.setIndexSteps]
  have hpresent : ((fun t => !(Table.get t key).isNil) <$> readTable id) s =
      .ok (!((s.table id).get key).isNil) s := rfl
  rw [bind_of_ok hpresent]
  cases !((s.table id).get key).isNil with
  | true => exact hset
  | false => exact (bind_of_ok (metamethod_of_plain hplain _)).trans hset

/-- The length of a table without a metatable. -/
theorem length_of_plain {id : Nat} {place : Operation.Named}
    (hplain : (s.table id).metatable? = none) :
    Operation.length call c (.table id) place s = .ok (.ofNat (s.table id).length) s := by
  show (metamethod (.table id) "__len" >>= _) s = _
  rw [bind_of_ok (metamethod_of_plain hplain _)]
  rfl

/-! ## Expressions -/

variable {frame : Frame} {env env₁ env₂ : Env}

theorem evaluate_global {name : String} {line : Nat} {v : Value} (hv : v.isNil = false)
    (hglobal : s.global name = v) :
    evaluate call frame env (.global (bytes name) line) s = .ok [v] s := by
  have hget : (s.table Store.globals).get (.string (bytes name)) = v := hglobal
  rw [evaluate]
  exact (bind_of_ok (index_of_get hget hv)).trans rfl

/-- A field of a table that a global holds. -/
theorem evaluate_member {object name : String} {line line' id : Nat} {v : Value}
    (hv : v.isNil = false) (hglobal : s.global object = .table id)
    (hfield : (s.table id).getText name = v) :
    evaluate call frame env (.index (.global (bytes object) line) (.string (bytes name)) line') s =
      .ok [v] s := by
  have hobject : operand env (.global (bytes object) line)
      (evaluate call frame env (.global (bytes object) line)) s = .ok (.now (.table id)) s :=
    (bind_of_ok (evaluate_global rfl hglobal)).trans rfl
  have hget : (s.table id).get (.string (bytes name)) = v := hfield
  rw [evaluate, bind_of_ok hobject]
  exact (bind_of_ok (index_of_get hget hv)).trans rfl

/-- A function is called as it is. -/
theorem callee_of_isFunction {f : Value} (hf : Operation.isFunction f = true)
    (place : Operation.Named) (args : List Value) :
    Operation.callee c place f args s = .ok (f, args) s := by
  rw [Operation.callee, if_pos hf]
  rfl

/-- A call of a function. -/
theorem evaluate_call {callee : Expr} {args : List Expr} {line : Nat} {f : Value} {vs : List Value}
    (hf : Operation.isFunction f = true) (hcallee : evaluate call frame env callee s = .ok [f] s₁)
    (hargs : evaluateAll call frame env args s₁ = .ok vs s₂) :
    evaluate call frame env (.call callee args line) s =
      call (.lua line callee.describe? :: frame.sites) f vs s₂ := by
  have hfunction : Operation.callee (frame.on line) callee.describe? f vs s₂ = .ok (f, vs) s₂ :=
    callee_of_isFunction hf _ vs
  rw [evaluate, bind_of_ok hcallee, bind_of_ok hargs]
  exact bind_of_ok hfunction

/-- A local as an operand, read now or later, has the value of its cell. -/
theorem operand_localVar (i : Nat) (name : Bytes) (upvalue : Bool) (hi : i < env.length) :
    ∃ o, operand env (.localVar i name upvalue)
        (evaluate call frame env (.localVar i name upvalue)) s = .ok o s ∧
      ∀ s' : Store, s'.cells = s.cells →
        o.read s' = .ok (s.cells.getD (env.getD i 0) .nil) s' := by
  cases upvalue with
  | true => exact ⟨.now (s.cells.getD (env.getD i 0) .nil), rfl, fun _ _ => rfl⟩
  | false =>
    have hcell : ownCell? env (.localVar i name false) = some (env.getD i 0) := by
      rw [ownCell?, List.getD_eq_getElem _ _ hi, List.getElem?_eq_getElem hi]
    refine ⟨.later (env.getD i 0), ?_, fun s' hs' => ?_⟩
    · rw [operand, hcell]
      rfl
    · rw [← hs']
      rfl

theorem evaluate_length {e : Expr} {line id : Nat}
    (he : evaluate call frame env e s = .ok [.table id] s₁)
    (hplain : (s₁.table id).metatable? = none) :
    evaluate call frame env (.unary .length e line) s = .ok [.ofNat (s₁.table id).length] s₁ := by
  rw [evaluate, bind_of_ok he]
  exact (bind_of_ok (length_of_plain hplain)).trans rfl

theorem evaluate_arithmetic {op : Arithmetic} {a b : Expr} {line : Nat} {x y : Number}
    (ha : operand env a (evaluate call frame env a) s = .ok (.now (.number x)) s₁)
    (hb : operand env b (evaluate call frame env b) s₁ = .ok (.now (.number y)) s₂) :
    evaluate call frame env (.binary (.arithmetic op) a b line) s =
      .ok [.number (Operation.compute op x y)] s₂ := by
  rw [evaluate, bind_of_ok ha, bind_of_ok hb]
  rfl

/-- Whether a value is `nil`. -/
theorem evaluate_eq_nil {a : Expr} {line : Nat} {v : Value}
    (ha : operand env a (evaluate call frame env a) s = .ok (.now v) s₁) :
    evaluate call frame env (.binary (.comparison .eq) a .nil line) s = .ok [.bool v.isNil] s₁ := by
  have hequals : Operation.equals call (frame.on line) v .nil s₁ = .ok v.isNil s₁ := by
    cases v <;> rfl
  rw [evaluate, bind_of_ok ha]
  have hcompare : operate call (.comparison .eq) (frame.on line) v .nil a.describe? none s₁ =
      .ok (.bool v.isNil) s₁ := by
    show (Value.bool <$> Operation.equals call (frame.on line) v .nil) s₁ = _
    exact (bind_of_ok hequals).trans rfl
  exact (bind_of_ok hcompare).trans rfl

theorem evaluate_not {e : Expr} {line : Nat} {v : Value}
    (he : evaluate call frame env e s = .ok [v] s₁) :
    evaluate call frame env (.unary .not e line) s = .ok [.bool !v.isTrue] s₁ := by
  rw [evaluate, bind_of_ok he]
  rfl

/-! ## Statements -/

/-- A statement that ends and lets the next one run. -/
def Continues (call : Call) (frame : Frame) (statement : Stmt) (env : Env) (s : Store)
    (env' : Env) (s' : Store) : Prop :=
  ∃ run, action call frame statement = .step run ∧ run env s = .ok (env', .next) s'

theorem continues_locals {count : Nat} {values : List Expr} {vs : List Value}
    (hvalues : evaluateAll call frame env values s = .ok vs s₁)
    (hcells : newCells env (adjust count vs) s₁ = .ok env₁ s₂) :
    Continues call frame (.locals count values) env s env₁ s₂ := by
  refine ⟨_, rfl, ?_⟩
  show (evaluateAll call frame env values >>= _) s = _
  rw [bind_of_ok hvalues]
  exact (bind_of_ok hcells).trans rfl

theorem continues_call {e : Expr} {vs : List Value}
    (h : evaluate call frame env e s = .ok vs s₁) :
    Continues call frame (.call e) env s env s₁ :=
  ⟨_, rfl, bind_of_ok h⟩

/-- An assignment to a field of an object that is not changed by its key. -/
theorem continues_assign {object key e : Expr} {line line' : Nat} {o k : Operand}
    {ov kv v : Value}
    (hobject : operand env object (evaluate call frame env object) s = .ok o s)
    (hkey : operand env key (evaluate call frame env key) s = .ok k s)
    (hvalue : evaluate call frame env e s = .ok [v] s₁) (ho : o.read s₁ = .ok ov s₁)
    (hk : k.read s₁ = .ok kv s₁)
    (hset : Operation.setIndex call (frame.on line) ov kv v object.describe? s₁ = .ok () s₂) :
    Continues call frame (.assign [.index object key line'] [e] line) env s env s₂ := by
  let t : Target := .field o k object.describe?
  have htarget : [Expr.index object key line'].mapM (target call frame env true) s = .ok [t] s := by
    have hone : target call frame env true (.index object key line') s = .ok t s := by
      show (operand env object (evaluate call frame env object) >>= _) s = _
      rw [bind_of_ok hobject]
      exact (bind_of_ok hkey).trans rfl
    rw [List.mapM_cons, bind_of_ok hone]
    rfl
  have hstore : t.store call (frame.on line) v s₁ = .ok () s₂ := by
    show (o.read >>= _) s₁ = _
    rw [bind_of_ok ho]
    exact (bind_of_ok hk).trans hset
  refine ⟨_, rfl, ?_⟩
  show (assign call frame env [.index object key line'] [e] line >>= _) s = _
  have hassign : assign call frame env [.index object key line'] [e] line s = .ok () s₂ := by
    refine (bind_of_ok htarget).trans ?_
    have hvalues : evaluateAll call frame env [e] s = .ok [v] s₁ := hvalue
    refine (bind_of_ok hvalues).trans ?_
    let round (x : Target × Value) : Eval (ForInStep Unit) := do
      x.1.store call (frame.on line) x.2
      return .yield ()
    have hround : round (t, v) s₁ = .ok (.yield ()) s₂ := (bind_of_ok hstore).trans rfl
    have hloop : (forIn [(t, v)] () fun x _ => round x : Eval Unit) s₁ = .ok () s₂ := by
      rw [List.forIn_cons]
      exact (bind_of_ok hround).trans rfl
    exact (bind_of_ok hloop).trans rfl
  exact (bind_of_ok hassign).trans rfl

/-! ## Blocks -/

theorem runStraight_next {statement : Stmt} {rest : List Stmt}
    (h : Continues call frame statement env s env₁ s₁) :
    runStraight (actions call frame (statement :: rest)) env s =
      runStraight (actions call frame rest) env₁ s₁ := by
  obtain ⟨run, haction, hrun⟩ := h
  rw [actions, haction]
  exact bind_of_ok hrun

theorem runStraight_nil : runStraight (actions call frame []) env s = .ok (env, .next) s := rfl

/-- How many statements are run at most is no limit. -/
theorem exists_roundLimit : ∃ n, roundLimit = n + 1 := ⟨999999999999999, rfl⟩

/-- A block whose statements do not end with a jump. -/
theorem runBlock_of_straight {block : List Action} {flow : Flow}
    (h : runStraight block env s = .ok (env₁, flow) s₁) (hflow : ∀ label, flow ≠ .jump label) :
    runBlock block env s = .ok (env₁, flow) s₁ := by
  obtain ⟨n, hn⟩ := exists_roundLimit
  rw [runBlock, hn, runFrom, bind_of_ok h]
  cases flow with
  | jump label => exact absurd rfl (hflow label)
  | _ => rfl

/-! ### Conditions -/

/-- A condition that is false, without an alternative. -/
theorem continues_if_false {condition : Expr} {yes : List Stmt} {v : Value}
    (hcondition : evaluate call frame env condition s = .ok [v] s₁) (hv : v.isTrue = false) :
    Continues call frame (.ifThen condition yes []) env s env s₁ := by
  have hno : runBlock (actions call frame []) env s₁ = .ok (env, .next) s₁ :=
    runBlock_of_straight runStraight_nil (by simp)
  refine ⟨_, rfl, (bind_of_ok hcondition).trans ?_⟩
  show (runBlock (if v.isTrue then actions call frame yes else actions call frame []) env >>= _) s₁ = _
  rw [hv]
  exact (bind_of_ok hno).trans rfl

/-- A condition that is true. -/
theorem continues_if_true {condition : Expr} {yes no : List Stmt} {v : Value}
    (hcondition : evaluate call frame env condition s = .ok [v] s₁) (hv : v.isTrue = true)
    (hyes : runBlock (actions call frame yes) env s₁ = .ok (env₁, .next) s₂) :
    Continues call frame (.ifThen condition yes no) env s env s₂ := by
  refine ⟨_, rfl, (bind_of_ok hcondition).trans ?_⟩
  show (runBlock (if v.isTrue then actions call frame yes else actions call frame no) env >>= _) s₁ = _
  rw [hv]
  exact (bind_of_ok hyes).trans rfl

/-! ### Ends of functions -/

theorem runStraight_ret {values : List Expr} {rest : List Stmt} {vs : List Value}
    (hvalues : evaluateAll call frame env values s = .ok vs s₁) :
    runStraight (actions call frame (.ret values :: rest)) env s = .ok (env, .done vs) s₁ := by
  have hrun : (evaluateAll call frame env values >>= fun vs => pure (env, Flow.done vs)) s =
      .ok (env, .done vs) s₁ := (bind_of_ok hvalues).trans rfl
  exact (bind_of_ok hrun).trans rfl

/-- A call in place of the function. -/
theorem runStraight_tailCall {callee : Expr} {args : List Expr} {line : Nat} {rest : List Stmt}
    {f : Value} {vs : List Value} (hf : Operation.isFunction f = true)
    (hcallee : evaluate call frame env callee s = .ok [f] s₁)
    (hargs : evaluateAll call frame env args s₁ = .ok vs s₂) :
    runStraight (actions call frame (.tailCall (.call callee args line) :: rest)) env s =
      .ok (env, .tail f vs) s₂ := by
  have hfunction : Operation.callee (frame.on line) callee.describe? f vs s₂ = .ok (f, vs) s₂ :=
    callee_of_isFunction hf _ vs
  have hrun : (do
      let f ← evaluate call frame env callee
      let args ← evaluateAll call frame env args
      let called ← Operation.callee (frame.on line) callee.describe? (f.headD .nil) args
      return (env, Flow.tail called.1 called.2)) s = .ok (env, .tail f vs) s₂ := by
    rw [bind_of_ok hcallee, bind_of_ok hargs]
    exact (bind_of_ok hfunction).trans rfl
  exact (bind_of_ok hrun).trans rfl

/-! ## Calls -/

section

variable [Locales] {n : Nat} {sites : Sites} {args : List Value} {id : Nat}

theorem callWithin_builtin (b : Builtin) :
    callWithin (n + 1) sites (.builtin b) args = b.run ⟨callWithin n, sites, args⟩ := by
  obtain ⟨k, hk⟩ := exists_roundLimit
  rw [callWithin, hk, apply]

/-- What a call gives when the body of the function has ended. -/
def resultOf (call : Call) (sites : Sites) (k : Nat) : Flow → Eval (List Value)
  | .done results => return results
  | .tail f args => apply call sites k f args
  | _ => return []

/-- A call of a function without parameters runs its body. -/
theorem apply_of_straight {k : Nat} {isVararg : Bool} {body : List Stmt} {line : Nat} {flow : Flow}
    (hclosure : s.closures[id]? = some (.lua (.mk 0 isVararg body line) env))
    (hbody : runStraight (actions call ⟨[], sites⟩ body) env s = .ok (env₁, flow) s₁)
    (hflow : ∀ label, flow ≠ .jump label) :
    apply call sites (k + 1) (.function id) [] s = resultOf call sites k flow s₁ := by
  have hframe : (if isVararg then ([] : List Value).drop 0 else []) = [] := by
    cases isVararg <;> rfl
  have henter : enter call sites (.mk 0 isVararg body line) env [] s = .ok flow s₁ := by
    show ((runBlock (actions call ⟨if isVararg then ([] : List Value).drop 0 else [], sites⟩ body)
      env) >>= fun ended => pure ended.2) s = _
    rw [hframe, bind_of_ok (runBlock_of_straight hbody hflow)]
    rfl
  have hread : readClosure? id s = .ok (some (.lua (.mk 0 isVararg body line) env)) s := by
    show EStateM.Result.ok (s.closures[id]?) s = _
    rw [hclosure]
  rw [apply, bind_of_ok hread]
  show (enter call sites (.mk 0 isVararg body line) env [] >>= _) s = _
  rw [bind_of_ok henter]
  cases flow <;> rfl

section

variable {isVararg : Bool} {body : List Stmt} {line : Nat}
  (hclosure : s.closures[id]? = some (.lua (.mk 0 isVararg body line) env))

include hclosure

theorem callWithin_of_done {results : List Value}
    (hbody : runStraight (actions (callWithin n) ⟨[], sites⟩ body) env s =
      .ok (env₁, .done results) s₁) :
    callWithin (n + 1) sites (.function id) [] s = .ok results s₁ := by
  obtain ⟨k, hk⟩ := exists_roundLimit
  rw [callWithin, hk, apply_of_straight hclosure hbody (by simp)]
  rfl

theorem callWithin_of_next
    (hbody : runStraight (actions (callWithin n) ⟨[], sites⟩ body) env s = .ok (env₁, .next) s₁) :
    callWithin (n + 1) sites (.function id) [] s = .ok [] s₁ := by
  obtain ⟨k, hk⟩ := exists_roundLimit
  rw [callWithin, hk, apply_of_straight hclosure hbody (by simp)]
  rfl

theorem callWithin_of_tail {b : Builtin} {vs : List Value}
    (hbody : runStraight (actions (callWithin n) ⟨[], sites⟩ body) env s =
      .ok (env₁, .tail (.builtin b) vs) s₁) :
    callWithin (n + 1) sites (.function id) [] s = b.run ⟨callWithin n, sites, vs⟩ s₁ := by
  have hk : roundLimit = 999999999999998 + 1 + 1 := rfl
  rw [callWithin, hk, apply_of_straight hclosure hbody (by simp), resultOf, apply]

end

end

/-! ## Builtins -/

variable {sites : Sites} {id : Nat}

/-- The text, or `nil` for none. -/
def valueOf (text? : Option Bytes) : Value := text?.elim .nil .string

/-- A locale is asked for by its name, or the current one without a name. -/
theorem runSetlocale_eq [Locales] {args : List Value} {name? : Option Bytes}
    (hargs : args = [] ∧ name? = none ∨ args = [valueOf name?]) :
    runSetlocale ⟨call, sites, args⟩ s =
      .ok [valueOf (Locales.answer? s.granted (bytes "all") (name?.map untilNul))]
        { s with granted := Locales.grant s.granted (bytes "all") (name?.map untilNul) } := by
  rcases hargs with ⟨rfl, rfl⟩ | rfl
  · rfl
  · cases name? <;> rfl

/-- A function that ends well. -/
theorem runPcall_of_ok {f : Value} {results : List Value} (hf : Operation.isFunction f = true)
    (hcall : call (.native :: sites) f [] s = .ok results s₁) :
    BaseFunction.runPcall ⟨call, sites, [f]⟩ s = .ok (.bool true :: results) s₁ := by
  have hfunction : Operation.callee ⟨none, sites⟩ none f [] s = .ok (f, []) s :=
    callee_of_isFunction hf none []
  have hinvoke : Invocation.invoke ⟨call, sites, [f]⟩ f [] s = .ok results s₁ :=
    (bind_of_ok hfunction).trans hcall
  have hattempt : attempt (Invocation.invoke ⟨call, sites, [f]⟩ f []) s = .ok (.ok results) s₁ := by
    rw [attempt, hinvoke]
  exact (bind_of_ok hattempt).trans rfl

/-- The texts of a sequence from a position on. -/
theorem joined_of_isSequence {i : Invocation} {t : Table} {texts : List Bytes}
    (h : t.IsSequence (texts.map .string)) (hlimit : texts.length ≤ Number.wholeLimit) :
    ∀ k m, k + m = texts.length →
      TableFunction.joined i t [] (k + 1 : Nat) m s = .ok (texts.drop k).flatten s := by
  intro k m
  induction m generalizing k with
  | zero =>
    intro hk
    rw [List.drop_eq_nil_of_le (by omega)]
    rfl
  | succ m ih =>
    intro hk
    have hin : k < texts.length := by omega
    have hvalue : t.getInt (k + 1 : Nat) = .string texts[k] := by
      rw [h.getInt (by simpa using hlimit), List.getD_eq_getElem _ _ (by simpa using hin),
        List.getElem_map]
    have hrest := ih (k + 1) (by omega)
    rw [TableFunction.joined, hvalue, List.drop_eq_getElem_cons hin, List.flatten_cons]
    refine (bind_of_ok hrest).trans ?_
    simp only [ite_self, List.append_nil]
    rfl

/-- The texts of a sequence as one. -/
theorem runConcat_of_isSequence {texts : List Bytes}
    (h : (s.table id).IsSequence (texts.map .string)) (hlimit : texts.length ≤ Number.wholeLimit) :
    TableFunction.runConcat ⟨call, sites, [.table id]⟩ s = .ok [.string texts.flatten] s := by
  have hlength : (s.table id).length = texts.length := by
    rw [h.length_eq (by simpa using hlimit), List.length_map]
  have hjoined := joined_of_isSequence (i := ⟨call, sites, [.table id]⟩) (s := s) h hlimit 0
    texts.length (Nat.zero_add _)
  have hcount : (((s.table id).length : Int) - 1 + 1).toNat = texts.length := by
    rw [hlength]
    omega
  show (TableFunction.joined _ (s.table id) [] 1 (((s.table id).length : Int) - 1 + 1).toNat >>= _) s = _
  rw [hcount]
  exact (bind_of_ok hjoined).trans rfl

end

end Stencil.Lua
