/-
  Rules of the grammar, read forwards.

  * `lexed`: the lexemes of words on a line;
  * `ReadsBlock nested chunk r ss r'`: one statement after the other, what stands at `r`
    up to the end of its block is read as `ss`, and `r'` is left;
  * `statements_of_readsBlock`: then the rule for blocks reads it so; its limit of rounds
    is not reached, since every statement takes a lexeme;
  * `functionBody_of_chunk`, `expressionAt_function`: a function is read if its block is.
-/
import Stencil.Lua.Parser

namespace Stencil.Lua

/-! ## Lexemes -/

/-- The lexeme of a word that stands alone on a line. -/
def Lexeme.ofWord (line : Nat) (word : String) : Lexeme :=
  match bytes word with
  | [] => ⟨.finish, Token.endText, line⟩
  | b :: rest =>
    match Token.item b rest with
    | .token t near _ _ => ⟨t, near, line⟩
    | _ => ⟨.finish, Token.endText, line⟩

/-- The lexemes of words on a line. -/
def lexed (line : Nat) (words : List String) : List Lexeme := words.map (Lexeme.ofWord line)

/-- A quoted string on a line. -/
def Lexeme.quoted (line : Nat) (content : Bytes) : Lexeme :=
  ⟨.string content, 34 :: content ++ [34], line⟩

/-- The token that a reader stands at. -/
def Reader.token (r : Reader) : Token :=
  (r.rest.head?.getD ⟨.finish, Token.endText, r.lastLine⟩).token

namespace Grammar

open Parse

/-- A step of a rule that succeeds. -/
theorem bind_of_ok {α β : Type} {p : Parse α} {f : α → Parse β} {r r' : Reader} {a : α}
    (h : p r = .ok (a, r')) : (p >>= f) r = f a r' := by
  show (p r >>= fun x => f x.1 x.2) = f a r'
  rw [h]
  rfl

/-- A round of a loop that goes on. -/
theorem rounds_of_inl {α β : Type} {start a : α} {step : α → Parse (α ⊕ β)} {r r' : Reader}
    {result : Except SyntaxFault (β × Reader)} (hstep : step start r = .ok (.inl a, r'))
    (hrest : Parse.rounds.go step r.rest.length a r' = result) :
    Parse.rounds start step r = result := by
  show Parse.rounds.go step (r.rest.length + 1) start r = result
  rw [Parse.rounds.go, bind_of_ok hstep]
  exact hrest

/-- A round of a loop that gives the result. -/
theorem rounds_of_inr {α β : Type} {start : α} {b : β} {step : α → Parse (α ⊕ β)} {r r' : Reader}
    (hstep : step start r = .ok (.inr b, r')) : Parse.rounds start step r = .ok (b, r') := by
  show Parse.rounds.go step (r.rest.length + 1) start r = _
  rw [Parse.rounds.go, bind_of_ok hstep]
  rfl

/-! ## Blocks -/

/-- What a block is read as, statement by statement. -/
inductive ReadsBlock (nested : Nat → Parse Expr) (chunk : Parse (List Stmt)) :
    Reader → List Stmt → Reader → Prop
  | done {r : Reader} (hend : endsBlock r.token = true) : ReadsBlock nested chunk r [] r
  | next {r r₁ r₂ : Reader} {s ss : List Stmt}
      (hread : statement nested chunk r = .ok ((s, false), r₁)) (hstart : endsBlock r.token = false)
      (hsemicolon : isMark ";" r₁.token = false) (hless : r₁.rest.length < r.rest.length)
      (hrest : ReadsBlock nested chunk r₁ ss r₂) : ReadsBlock nested chunk r (s ++ ss) r₂
  | last {r r₁ : Reader} {s : List Stmt}
      (hread : statement nested chunk r = .ok ((s, true), r₁)) (hstart : endsBlock r.token = false)
      (hsemicolon : isMark ";" r₁.token = false) (hless : r₁.rest.length < r.rest.length) :
      ReadsBlock nested chunk r s r₁

variable {nested : Nat → Parse Expr} {chunk : Parse (List Stmt)} {r r' : Reader}

theorem accept_of_false {mark : String} (h : isMark mark r.token = false) :
    accept mark r = .ok (false, r) := by
  show (if isMark mark r.token then _ else _ : Parse Bool) r = _
  rw [h]
  rfl

theorem blockStep_statement {read s : List Stmt} {isLast : Bool}
    (hread : statement nested chunk r = .ok ((s, isLast), r')) (hstart : endsBlock r.token = false)
    (hsemicolon : isMark ";" r'.token = false) :
    blockStep nested chunk (read, false) r = .ok (.inl (read ++ s, isLast), r') := by
  show (if endsBlock r.token then _ else _ : Parse _) r = _
  rw [hstart]
  refine (bind_of_ok hread).trans ?_
  exact bind_of_ok (accept_of_false hsemicolon)

theorem go_of_readsBlock {ss : List Stmt} (h : ReadsBlock nested chunk r ss r') :
    ∀ {n : Nat}, r.rest.length < n → ∀ read,
      Parse.rounds.go (blockStep nested chunk) n (read, false) r = .ok (read ++ ss, r') := by
  induction h with
  | @done r hend =>
    intro n hn read
    obtain ⟨n, rfl⟩ := Nat.exists_eq_succ_of_ne_zero (Nat.ne_zero_of_lt hn)
    have hround : blockStep nested chunk (read, false) r = .ok (.inr read, r) := by
      show (if endsBlock r.token then _ else _ : Parse _) r = _
      rw [hend]
      rfl
    rw [List.append_nil, Parse.rounds.go]
    exact bind_of_ok hround
  | @next r r₁ r₂ s ss hread hstart hsemicolon hless _ ih =>
    intro n hn read
    obtain ⟨n, rfl⟩ := Nat.exists_eq_succ_of_ne_zero (Nat.ne_zero_of_lt hn)
    rw [Parse.rounds.go, bind_of_ok (blockStep_statement hread hstart hsemicolon)]
    show Parse.rounds.go (blockStep nested chunk) n (read ++ s, false) r₁ = _
    rw [ih (by omega), List.append_assoc]
  | @last r r₁ s hread hstart hsemicolon hless =>
    intro n hn read
    obtain ⟨n, rfl⟩ := Nat.exists_eq_succ_of_ne_zero (Nat.ne_zero_of_lt hn)
    rw [Parse.rounds.go, bind_of_ok (blockStep_statement hread hstart hsemicolon)]
    -- A statement that has to be the last one ends the block at whatever follows it.
    obtain ⟨n, rfl⟩ := Nat.exists_eq_succ_of_ne_zero (show n ≠ 0 by omega)
    rfl

/-- A block is read statement by statement. -/
theorem statements_of_readsBlock {ss : List Stmt} (h : ReadsBlock nested chunk r ss r') :
    statements nested chunk r = .ok (ss, r') :=
  go_of_readsBlock h (Nat.lt_succ_self _) []

theorem chunkAt_of_readsBlock {n : Nat} {ss : List Stmt}
    (h : ReadsBlock (expressionAt n) (chunkAt n) r ss r') : chunkAt (n + 1) r = .ok (ss, r') :=
  statements_of_readsBlock h

/-! ## Functions -/

/-- A name, a reserved word or a mark. -/
def isWord (l : Lexeme) : Prop :=
  match l.token with
  | .name _ => True
  | .fixed _ => True
  | _ => False

/-- A list of no parameters. -/
theorem parameters_none {line l l₁ : Nat} {first : Lexeme} {rest : List Lexeme}
    {functions : List FunctionScope} (hfirst : isWord first) :
    parameters false ⟨lexed l₁ ["(", ")"] ++ first :: rest, l, false,
        FunctionScope.start false line :: functions⟩ =
      .ok ((0, false), ⟨first :: rest, l₁, false, FunctionScope.start false line :: functions⟩) := by
  obtain ⟨token, near, at₁⟩ := first
  cases token <;> first | exact hfirst.elim | rfl

/-- A function is read if its parameters and its block are. -/
theorem functionBody_of_chunk {line l l₁ l₂ l₃ params : Nat} {isVararg : Bool} {next : Lexeme}
    {rest rest₁ rest₂ : List Lexeme} {functions : List FunctionScope} {f f' : FunctionScope}
    {ss : List Stmt} (hnext : isWord next)
    (hparameters : parameters false ⟨rest, l, false, FunctionScope.start false line :: functions⟩ =
      .ok ((params, isVararg), ⟨rest₁, l₁, false, f :: functions⟩))
    (hbody : chunk ⟨rest₁, l₁, false, f :: functions⟩ =
      .ok (ss, ⟨lexed l₂ ["end"] ++ next :: rest₂, l₃, false, f' :: functions⟩))
    (hclose : f'.close = .ok ()) :
    functionBody chunk false line ⟨rest, l, false, functions⟩ =
      .ok (.mk params isVararg ss line, ⟨next :: rest₂, l₂, false, functions⟩) := by
  obtain ⟨token, near, at₁⟩ := next
  calc
    functionBody chunk false line ⟨rest, l, false, functions⟩ =
      (parameters false >>= fun taken => do
        let body ← chunk
        if !(← atMark "end") then close "end" "function" line
        (← innermost).close
        modify fun r => { r with functions := r.functions.drop 1 }
        advance
        return .mk taken.1 taken.2 body line)
        ⟨rest, l, false, FunctionScope.start false line :: functions⟩ := rfl
    _ = ((liftM f'.close : Parse Unit) >>= fun _ => do
        modify fun r => { r with functions := r.functions.drop 1 }
        advance
        return .mk params isVararg ss line)
        ⟨lexed l₂ ["end"] ++ ⟨token, near, at₁⟩ :: rest₂, l₃, false, f' :: functions⟩ := by
      rw [bind_of_ok hparameters]
      exact (bind_of_ok hbody).trans rfl
    _ = .ok (.mk params isVararg ss line, ⟨⟨token, near, at₁⟩ :: rest₂, l₂, false, functions⟩) := by
      have hlift (r : Reader) : (liftM f'.close : Parse Unit) r = .ok ((), r) := by
        rw [hclose]
        rfl
      rw [bind_of_ok (hlift _)]
      cases token <;> first | exact hnext.elim | rfl

/-! ## Expressions -/

section

variable {n line l l₂ : Nat} {rest rest' : List Lexeme} {functions : List FunctionScope}
  {f : Function}

/-- A function is an expression. -/
theorem expressionAt_function {limit : Nat}
    (hbody : functionBody (chunkAt n) false line
      ⟨lexed line ["(", ")"] ++ rest, line, false, functions⟩ =
        .ok (f, ⟨lexed l₂ [")"] ++ rest', l₂, false, functions⟩)) :
    expressionAt (n + 1) limit
        ⟨lexed line ["function", "(", ")"] ++ rest, l, false, functions⟩ =
      .ok (.function f, ⟨lexed l₂ [")"] ++ rest', l₂, false, functions⟩) := by
  have hsimple : unary (expressionAt n) (chunkAt n)
      ⟨lexed line ["function", "(", ")"] ++ rest, l, false, functions⟩ =
        .ok (.function f, ⟨lexed l₂ [")"] ++ rest', l₂, false, functions⟩) := by
    exact (bind_of_ok (f := fun f => pure (Expr.function f)) hbody).trans rfl
  rw [expressionAt, operation, bind_of_ok hsimple]
  rfl

end

/-- One expression without a comma after it. -/
theorem expressions_of_one {e : Expr} (h : nested 0 r = .ok (e, r'))
    (hcomma : isMark "," r'.token = false) : expressions nested r = .ok ([e], r') := by
  rw [expressions, expression, bind_of_ok h]
  exact rounds_of_inr ((bind_of_ok (accept_of_false hcomma)).trans rfl)

/-- One argument in parentheses. -/
theorem arguments_of_one {l l' last : Nat} {first next : Lexeme} {rest rest' : List Lexeme}
    {functions : List FunctionScope} {e : Expr} (hfirst : isWord first) (hnext : isWord next)
    (hstart : isMark ")" first.token = false)
    (h : nested 0 ⟨first :: rest, l, false, functions⟩ =
      .ok (e, ⟨lexed l' [")"] ++ next :: rest', l', false, functions⟩)) :
    arguments nested ⟨lexed l ["("] ++ first :: rest, last, false, functions⟩ =
      .ok (([e.atLine l'], l), ⟨next :: rest', l', false, functions⟩) := by
  obtain ⟨token, near, at₁⟩ := first
  obtain ⟨token', near', at₂⟩ := next
  let finish (args : List Expr) : Parse (List Expr × Nat) := do
    close ")" "(" l
    return (← settleLast args, l)
  calc
    arguments nested ⟨lexed l ["("] ++ ⟨token, near, at₁⟩ :: rest, last, false, functions⟩ =
        (if isMark ")" token then pure [] >>= finish else expressions nested >>= finish)
          ⟨⟨token, near, at₁⟩ :: rest, l, false, functions⟩ := by
      cases token <;> first | exact hfirst.elim | rfl
    _ = (expressions nested >>= finish) ⟨⟨token, near, at₁⟩ :: rest, l, false, functions⟩ := by
      rw [show isMark ")" token = false from hstart]
      rfl
    _ = _ := by
      rw [bind_of_ok (expressions_of_one h rfl)]
      cases token' <;> first | exact hnext.elim | rfl

/-- A call of a name with one argument. -/
theorem expressionAt_call {n limit l l' at₂ last : Nat} {name near next near' : Bytes}
    {first : Lexeme} {rest rest' : List Lexeme} {functions : List FunctionScope} {e : Expr}
    (hfirst : isWord first) (hstart : isMark ")" first.token = false)
    (h : expressionAt (n + 1) 0 ⟨first :: rest, l, false, functions⟩ =
      .ok (e, ⟨lexed l' [")"] ++ ⟨.name next, near', at₂⟩ :: rest', l', false, functions⟩)) :
    expressionAt (n + 2) limit
        ⟨⟨.name name, near, l⟩ :: (lexed l ["("] ++ first :: rest), last, false, functions⟩ =
      .ok (.call ((resolve name functions).atLine l) [e.atLine l'] l,
        ⟨⟨.name next, near', at₂⟩ :: rest', l', false, functions⟩) := by
  have hsuffix : suffix (expressionAt (n + 1)) (resolve name functions)
      ⟨lexed l ["("] ++ first :: rest, l, false, functions⟩ =
        .ok (.inl (.call ((resolve name functions).atLine l) [e.atLine l'] l),
          ⟨⟨.name next, near', at₂⟩ :: rest', l', false, functions⟩) := by
    calc
      _ = (arguments (expressionAt (n + 1)) >>= fun given =>
          pure (Sum.inl (Expr.call ((resolve name functions).atLine l) given.1 given.2)))
          ⟨lexed l ["("] ++ first :: rest, l, false, functions⟩ := rfl
      _ = _ := by
        rw [bind_of_ok (arguments_of_one hfirst (by trivial) hstart h)]
        rfl
  have hsuffixed : unary (expressionAt (n + 1)) (chunkAt (n + 1))
      ⟨⟨.name name, near, l⟩ :: (lexed l ["("] ++ first :: rest), last, false, functions⟩ =
        .ok (.call ((resolve name functions).atLine l) [e.atLine l'] l,
          ⟨⟨.name next, near', at₂⟩ :: rest', l', false, functions⟩) :=
    rounds_of_inl hsuffix rfl
  rw [expressionAt, operation, bind_of_ok hsuffixed]
  rfl

/-! ## Statements with a block -/

/-- A block in a scope of its own is read if its statements are. -/
theorem block_of_chunk {f f' : FunctionScope} {functions : List FunctionScope}
    {rest rest' : List Lexeme} {l l' : Nat} {ss : List Stmt}
    (hchunk : chunk ⟨rest, l, false, f.openBlock false :: functions⟩ =
      .ok (ss, ⟨rest', l', false, f' :: functions⟩)) :
    block chunk ⟨rest, l, false, f :: functions⟩ =
      .ok (ss, ⟨rest', l', false, f'.closeBlock :: functions⟩) := by
  calc
    block chunk ⟨rest, l, false, f :: functions⟩ =
        (chunk >>= fun a => do mapFunction (·.closeBlock); return a)
          ⟨rest, l, false, f.openBlock false :: functions⟩ := rfl
    _ = _ := by
      rw [bind_of_ok hchunk]
      rfl

theorem arm_of_block {first first' : Lexeme} {rest rest' rest'' : List Lexeme} {l l₁ l₂ last : Nat}
    {functions functions' : List FunctionScope} {e : Expr} {ss : List Stmt}
    (hfirst : isWord first) (hfirst' : isWord first')
    (hcondition : nested 0 ⟨first :: rest, l, false, functions⟩ =
      .ok (e, ⟨lexed l₁ ["then"] ++ first' :: rest', l₁, false, functions⟩))
    (hblock : block chunk ⟨first' :: rest', l₁, false, functions⟩ =
      .ok (ss, ⟨rest'', l₂, false, functions'⟩)) :
    arm nested chunk ⟨lexed l ["if"] ++ first :: rest, last, false, functions⟩ =
      .ok ((e.atLine l₁, ss), ⟨rest'', l₂, false, functions'⟩) := by
  obtain ⟨token, near, at₁⟩ := first
  obtain ⟨token', near', at₂⟩ := first'
  calc
    arm nested chunk ⟨lexed l ["if"] ++ ⟨token, near, at₁⟩ :: rest, last, false, functions⟩ =
        (condition nested >>= fun test => do
          expect "then"
          return (test, ← block chunk)) ⟨⟨token, near, at₁⟩ :: rest, l, false, functions⟩ := by
      cases token <;> first | exact hfirst.elim | rfl
    _ = (block chunk >>= fun ss => pure (e.atLine l₁, ss))
          ⟨⟨token', near', at₂⟩ :: rest', l₁, false, functions⟩ := by
      have htest : condition nested ⟨⟨token, near, at₁⟩ :: rest, l, false, functions⟩ =
          .ok (e.atLine l₁, ⟨lexed l₁ ["then"] ++ ⟨token', near', at₂⟩ :: rest', l₁, false,
            functions⟩) := by
        rw [condition, expression, bind_of_ok hcondition]
        rfl
      rw [bind_of_ok htest]
      cases token' <;> first | exact hfirst'.elim | rfl
    _ = _ := by
      rw [bind_of_ok hblock]
      rfl

/-- A conditional statement without alternatives. -/
theorem statement_if {first first' next : Lexeme} {rest rest' rest'' : List Lexeme}
    {l l₁ l₂ l₃ last : Nat} {f f' : FunctionScope} {functions : List FunctionScope} {e : Expr}
    {ss : List Stmt} (hfirst : isWord first) (hfirst' : isWord first') (hnext : isWord next)
    (hcondition : nested 0 ⟨first :: rest, l, false, f :: functions⟩ =
      .ok (e, ⟨lexed l₁ ["then"] ++ first' :: rest', l₁, false, f :: functions⟩))
    (hchunk : chunk ⟨first' :: rest', l₁, false, f.openBlock false :: functions⟩ =
      .ok (ss, ⟨lexed l₂ ["end"] ++ next :: rest'', l₃, false, f' :: functions⟩)) :
    statement nested chunk ⟨lexed l ["if"] ++ first :: rest, last, false, f :: functions⟩ =
      .ok (([.ifThen (e.atLine l₁) ss []], false),
        ⟨next :: rest'', l₂, false, f'.closeBlock :: functions⟩) := by
  have harm : arm nested chunk ⟨lexed l ["if"] ++ first :: rest, last, false, f :: functions⟩ = _ :=
    arm_of_block hfirst hfirst' hcondition (block_of_chunk hchunk)
  obtain ⟨token, near, at₁⟩ := next
  have hif : ifStatement nested chunk l
      ⟨lexed l ["if"] ++ first :: rest, last, false, f :: functions⟩ =
        .ok (.ifThen (e.atLine l₁) ss [],
          ⟨⟨token, near, at₁⟩ :: rest'', l₂, false, f'.closeBlock :: functions⟩) := by
    show (arm nested chunk >>= _) _ = _
    rw [bind_of_ok harm]
    cases token <;> first | exact hnext.elim | rfl
  calc
    _ = (ifStatement nested chunk l >>= fun s => pure ([s], false))
          ⟨lexed l ["if"] ++ first :: rest, last, false, f :: functions⟩ := rfl
    _ = _ := by
      rw [bind_of_ok hif]
      rfl

/-- A declaration of a function in a field. -/
theorem statement_function {object field near near' : Bytes} {rest rest' : List Lexeme}
    {l l' last : Nat} {functions : List FunctionScope} {f : Function}
    (hbody : functionBody chunk false l ⟨lexed l ["("] ++ rest, l, false, functions⟩ =
      .ok (f, ⟨rest', l', false, functions⟩)) :
    statement nested chunk
        ⟨lexed l ["function"] ++ ⟨.name object, near, l⟩ :: (lexed l ["."] ++
          ⟨.name field, near', l⟩ :: (lexed l ["("] ++ rest)), last, false, functions⟩ =
      .ok (([.assign [.index ((resolve object functions).atLine l) (.string field) 0]
        [.function f] l], false), ⟨rest', l', false, functions⟩) := by
  calc
    _ = ((functionBody chunk false l >>= fun f => pure (Stmt.assign
          [.index ((resolve object functions).atLine l) (.string field) 0] [.function f] l)) >>=
        fun s => pure ([s], false)) ⟨lexed l ["("] ++ rest, l, false, functions⟩ := rfl
    _ = _ := by
      have hassign : (functionBody chunk false l >>= fun f => pure (Stmt.assign
          [.index ((resolve object functions).atLine l) (.string field) 0] [.function f] l))
          ⟨lexed l ["("] ++ rest, l, false, functions⟩ =
            .ok (_, ⟨rest', l', false, functions⟩) := (bind_of_ok hbody).trans rfl
      rw [bind_of_ok hassign]
      rfl

/-- A declaration of locals is a statement. -/
theorem statement_local {l last : Nat} {rest : List Lexeme} {functions : List FunctionScope}
    {s : Stmt}
    (h : localStatement nested chunk ⟨lexed l ["local"] ++ rest, last, false, functions⟩ =
      .ok (s, r')) :
    statement nested chunk ⟨lexed l ["local"] ++ rest, last, false, functions⟩ =
      .ok (([s], false), r') := by
  calc
    _ = (localStatement nested chunk >>= fun s => pure ([s], false))
          ⟨lexed l ["local"] ++ rest, last, false, functions⟩ := rfl
    _ = _ := by
      rw [bind_of_ok h]
      rfl

/-! ## The chunk -/

/-- A chunk is read if its statements are. -/
theorem chunk_of_readsBlock {first : Lexeme} {rest : List Lexeme} {near : Bytes} {l l' at₁ : Nat}
    {functions : List FunctionScope} {f : FunctionScope} {ss : List Stmt} (hfirst : isWord first)
    (h : chunkAt levelLimit ⟨first :: rest, l, false, functions⟩ =
      .ok (ss, ⟨[⟨.finish, near, at₁⟩], l', false, [f]⟩)) (hclose : f.close = .ok ()) :
    Grammar.chunk.run ⟨first :: rest, l, false, functions⟩ =
      .ok (.mk 0 true ss 0, ⟨[⟨.finish, near, at₁⟩], l', false, [f]⟩) := by
  obtain ⟨token, near', at₂⟩ := first
  have hend : ((liftM f.close : Parse Unit) >>= fun _ => pure (Function.mk 0 true ss 0))
      ⟨[⟨.finish, near, at₁⟩], l', false, [f]⟩ =
        .ok (.mk 0 true ss 0, ⟨[⟨.finish, near, at₁⟩], l', false, [f]⟩) := by
    rw [hclose]
    rfl
  have hcurrent : current ⟨⟨token, near', at₂⟩ :: rest, l, false, functions⟩ =
      .ok (⟨token, near', at₂⟩, ⟨⟨token, near', at₂⟩ :: rest, l, false, functions⟩) := rfl
  have hcheck : checkLexeme ⟨token, near', at₂⟩ ⟨⟨token, near', at₂⟩ :: rest, l, false, functions⟩ =
      .ok ((), ⟨⟨token, near', at₂⟩ :: rest, l, false, functions⟩) := by
    cases token <;> first | exact hfirst.elim | rfl
  rw [Grammar.chunk, StateT.run, bind_of_ok hcurrent, bind_of_ok hcheck, bind_of_ok h]
  exact hend

end Grammar

end Stencil.Lua
