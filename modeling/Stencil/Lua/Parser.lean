/-
  Reading a Lua chunk.

  * `Parse`: what reads from the lexemes, keeping the open scopes;
  * `Grammar`: the rules. Nested expressions and blocks are parameters, so a rule
    never calls itself; the loops of a rule read a lexeme in every round;
  * `expressionAt`, `chunkAt`: the rules tied together, one level of nesting less at
    each step;
  * `parse`: the function of a chunk, or why it does not load.
-/
import Stencil.Lua.Scope
import Stencil.Lua.Token

namespace Stencil.Lua

/-- What is left to read, and the scopes that are open. -/
structure Reader where
  /-- The lexemes, the current one first. -/
  rest : List Lexeme
  /-- The line on which the last lexeme that was read ends. -/
  lastLine : Nat
  /-- Whether the lexeme after the current one has been looked at. -/
  peeked : Bool
  /-- The open functions, the innermost first. -/
  functions : List FunctionScope

/-- What reads from a chunk. -/
abbrev Parse := StateT Reader (Except SyntaxFault)

namespace Parse

/-! ## Lexemes -/

/-- Whether a token is a fixed token. -/
def isMark (mark : String) : Token → Bool
  | .fixed text => text == bytes mark
  | _ => false

/-- Whether a token ends a block. -/
def endsBlock (t : Token) : Bool :=
  match t with
  | .finish => true
  | _ => isMark "end" t || isMark "else" t || isMark "elseif" t || isMark "until" t

/-- The current lexeme. -/
def current : Parse Lexeme := do
  return (← get).rest.head?.getD ⟨.finish, Token.endText, (← get).lastLine⟩

/-- The line of the last lexeme that was read. -/
def lastLine : Parse Nat := return (← get).lastLine

/-- Stops with a cause that names the current lexeme. -/
def failNear {α : Type} (cause : SyntaxFault.Cause) : Parse α := do
  let here ← current
  throw ⟨cause, some here.near, here.line⟩

/-- Stops with a cause on the current line. -/
def fail {α : Type} (cause : SyntaxFault.Cause) : Parse α := do
  throw ⟨cause, none, (← current).line⟩

/-- Stops if a lexeme is a fault. -/
def checkLexeme (l : Lexeme) : Parse Unit :=
  match l.token with
  | .fault cause => throw ⟨cause, some l.near, l.line⟩
  | _ => pure ()

/-- Reads the current lexeme. When the next one was looked at before, its line
    counts as the line of the lexeme that was read. -/
def advance : Parse Unit := do
  let r ← get
  match r.rest with
  | here :: next :: rest =>
    set { r with
      rest := next :: rest
      lastLine := if r.peeked then next.line else here.line
      peeked := false }
    checkLexeme next
  | _ => pure ()

/-- Looks at the lexeme after the current one. -/
def peek : Parse Token := do
  let r ← get
  match r.rest with
  | _ :: next :: _ =>
    checkLexeme next
    set { r with peeked := true }
    return next.token
  | _ => return .finish

/-- Whether the current token is a fixed one. -/
def atMark (mark : String) : Parse Bool := return isMark mark (← current).token

/-- Reads a fixed token if it is the current one. -/
def accept (mark : String) : Parse Bool := do
  if ← atMark mark then
    advance
    return true
  else return false

/-- Reads a fixed token. -/
def expect (mark : String) : Parse Unit := do
  if !(← accept mark) then failNear (.expected (bytes mark))

/-- Reads the token that closes what another one opened on a line. -/
def close (mark opening : String) (line : Nat) : Parse Unit := do
  if !(← accept mark) then
    if line = (← current).line then failNear (.expected (bytes mark))
    else failNear (.unclosed (bytes mark) (bytes opening) line)

/-- Reads a name. -/
def name : Parse Bytes := do
  match (← current).token with
  | .name s =>
    advance
    return s
  | _ => failNear (.expected (bytes "<name>"))

/-- Repeats a step until it gives a result. Each step reads a lexeme, so no more
    steps are needed than lexemes are left. -/
def rounds {α β : Type} (start : α) (step : α → Parse (α ⊕ β)) : Parse β := do
  go ((← get).rest.length + 1) start
where
  /-- At most a number of steps. -/
  go : Nat → α → Parse β
    | 0, _ => fail .tooDeep
    | n + 1, a => do
      match ← step a with
      | .inl a => go n a
      | .inr b => return b

/-! ## Scopes -/

/-- Changes the innermost function. -/
def mapFunction (change : FunctionScope → FunctionScope) : Parse Unit :=
  modify fun r => match r.functions with
    | [] => r
    | f :: outer => { r with functions := change f :: outer }

/-- The innermost function. -/
def innermost : Parse FunctionScope := do
  return (← get).functions.head?.getD (FunctionScope.start true 0)

/-- Refuses a local that the innermost function has no room for, when `pending`
    others are about to be declared. -/
def checkRoom (pending : Nat) : Parse Unit := do
  let f ← innermost
  if f.active.length + pending ≥ FunctionScope.localLimit then
    fail (.tooManyLocals f.line FunctionScope.localLimit)

/-- Reads inside a block of its own. -/
def inScope {α : Type} (isLoop : Bool) (inside : Parse α) : Parse α := do
  mapFunction (·.openBlock isLoop)
  let a ← inside
  mapFunction (·.closeBlock)
  return a

/-- The expression, read after the last lexeme. -/
def settle (e : Expr) : Parse Expr := return e.atLine (← lastLine)

/-- The expressions, the last one read after the last lexeme. -/
def settleLast (es : List Expr) : Parse (List Expr) := do
  let line ← lastLine
  return es.dropLast ++ (es.getLast?.map (Expr.atLine line)).toList

end Parse

namespace Grammar

open Parse

section

variable (nested : Nat → Parse Expr) (chunk : Parse (List Stmt))

/-! ## Expressions -/

/-- A whole expression. -/
def expression : Parse Expr := nested 0

/-- Expressions with commas between them. -/
def expressions : Parse (List Expr) := do
  let first ← expression nested
  rounds [first] fun read => do
    if ← accept "," then
      let line ← lastLine
      let read := (read.head?.map (Expr.atLine line)).toList ++ read.drop 1
      return .inl ((← expression nested) :: read)
    else return .inr read.reverse

/-- A key in brackets. -/
def bracketed : Parse Expr := do
  advance
  let key ← settle (← expression nested)
  expect "]"
  return key

/-- A name after `.` as the key of an object. -/
def field (object : Expr) : Parse Expr := do
  let object ← settle object
  advance
  return .index object (.string (← name)) 0

/-- A field of a table constructor. -/
def tableField : Parse Field := do
  let keyed := fun (key : Expr) => do
    expect "="
    let value ← settle (← expression nested)
    return Field.keyed key value (← lastLine)
  let here ← current
  if isMark "[" here.token then keyed (← bracketed nested)
  else
    let isKey ← match here.token with
      | .name _ => isMark "=" <$> peek
      | _ => pure false
    if isKey then keyed (.string (← name))
    else return .positional (← settle (← expression nested))

/-- A table constructor. -/
def table : Parse Expr := do
  let line := (← current).line
  expect "\x7b"
  let fields ← rounds [] fun read => do
    if ← atMark "\x7d" then return .inr read.reverse
    else
      let read := (← tableField nested) :: read
      if (← accept ",") || (← accept ";") then return .inl read
      else return .inr read.reverse
  close "\x7d" "\x7b" line
  return .table fields

/-- The arguments of a call, with the line of the call. -/
def arguments : Parse (List Expr × Nat) := do
  let here ← current
  if isMark "(" here.token then
    advance
    let args ← if ← atMark ")" then pure [] else expressions nested
    close ")" "(" here.line
    return (← settleLast args, here.line)
  else if isMark "\x7b" here.token then return ([← table nested], here.line)
  else match here.token with
    | .string s =>
      advance
      return ([.string s], here.line)
    | _ => failNear .argumentsExpected

/-- Whether arguments begin with a token. -/
def beginsArguments (t : Token) : Bool :=
  match t with
  | .string _ => true
  | _ => isMark "(" t || isMark "\x7b" t

/-- Reads one thing that is applied to an expression, if anything is. -/
def suffix (e : Expr) : Parse (Expr ⊕ Expr) := do
  let here ← current
  if isMark "." here.token then return .inl (← field e)
  else if isMark "[" here.token then
    let object ← settle e
    return .inl (.index object (← bracketed nested) 0)
  else if isMark ":" here.token then
    advance
    let method ← name
    let nameLine ← lastLine
    let (args, line) ← arguments nested
    return .inl (.methodCall (e.atLine nameLine) method args nameLine line)
  else if beginsArguments here.token then
    let callee ← settle e
    let (args, line) ← arguments nested
    return .inl (.call callee args line)
  else return .inr e

/-- A variable or an expression in parentheses with what is applied to it. -/
def suffixed : Parse Expr := do
  let here ← current
  let start ← match here.token with
    | .name s =>
      advance
      pure (resolve s (← get).functions)
    | _ =>
      if isMark "(" here.token then
        advance
        let e ← expression nested
        close ")" "(" here.line
        pure (.paren (← settle e))
      else failNear .unexpectedSymbol
  rounds start (suffix nested)

/-- The parameters of a function in parentheses: their number and whether variable
    arguments follow. -/
def parameters (hasSelf : Bool) : Parse (Nat × Bool) := do
  expect "("
  let first : List (Option Bytes) := if hasSelf then [some (bytes "self")] else []
  let (names, isVararg) ← if ← atMark ")" then pure (first, false)
    else rounds first fun names => do
      match (← current).token with
      | .name s =>
        advance
        checkRoom names.length
        let names := names ++ [some s]
        if ← accept "," then return .inl names else return .inr (names, false)
      | t =>
        if isMark "..." t then
          advance
          return .inr (names, true)
        else failNear .parameterExpected
  mapFunction fun f => { f with isVararg }.declare names
  expect ")"
  return (names.length, isVararg)

/-- A function from its parameters on; it begins on a line. -/
def functionBody (hasSelf : Bool) (line : Nat) : Parse Function := do
  modify fun r => { r with functions := FunctionScope.start false line :: r.functions }
  let (params, isVararg) ← parameters hasSelf
  let body ← chunk
  if !(← atMark "end") then close "end" "function" line
  (← innermost).close
  modify fun r => { r with functions := r.functions.drop 1 }
  advance
  return .mk params isVararg body line

/-- An expression without operators. -/
def simple : Parse Expr := do
  let here ← current
  match here.token with
  | .number n =>
    advance
    return .number n
  | .string s =>
    advance
    return .string s
  | t =>
    if isMark "nil" t then
      advance
      return .nil
    else if isMark "true" t then
      advance
      return .bool true
    else if isMark "false" t then
      advance
      return .bool false
    else if isMark "..." t then
      if !(← innermost).isVararg then failNear .varargOutside
      advance
      return .vararg
    else if isMark "\x7b" t then table nested
    else if isMark "function" t then
      advance
      return .function (← functionBody chunk false (← current).line)
    else suffixed nested

/-- How tightly an operator with one operand binds. -/
def unaryPriority : Nat := 8

/-- The operator with one operand that a token is. -/
def unaryOperator? (t : Token) : Option UnaryOperator :=
  if isMark "not" t then some .not
  else if isMark "-" t then some .negate
  else if isMark "#" t then some .length
  else none

/-- An expression that may begin with operators. -/
def unary : Parse Expr := do
  match unaryOperator? (← current).token with
  | some op =>
    advance
    let e ← settle (← nested unaryPriority)
    return .unary op e (← lastLine)
  | none => simple nested chunk

/-- The operators between two operands. -/
inductive Infix where
  | binary (op : BinaryOperator)
  | concat
  | both
  | either

/-- The operators with how tightly they bind to the left and to the right. -/
def infixes : List (String × Infix × Nat × Nat) :=
  let arithmetic := fun (op : Arithmetic) => Infix.binary (.arithmetic op)
  let comparison := fun (op : Comparison) => Infix.binary (.comparison op)
  [("+", arithmetic .add, 6, 6), ("-", arithmetic .sub, 6, 6),
    ("*", arithmetic .mul, 7, 7), ("/", arithmetic .div, 7, 7), ("%", arithmetic .mod, 7, 7),
    ("^", arithmetic .pow, 10, 9), ("..", .concat, 5, 4),
    ("==", comparison .eq, 3, 3), ("~=", comparison .ne, 3, 3),
    ("<", comparison .lt, 3, 3), ("<=", comparison .le, 3, 3),
    (">", comparison .gt, 3, 3), (">=", comparison .ge, 3, 3),
    ("and", .both, 2, 2), ("or", .either, 1, 1)]

/-- The operator between two operands that a token is. -/
def infix? (t : Token) : Option (Infix × Nat × Nat) :=
  (infixes.find? fun entry => isMark entry.1 t).map (·.2)

/-- An operation on two operands; the second one was read last. -/
def combine (op : Infix) (a b : Expr) : Parse Expr := do
  let line ← lastLine
  match op with
  | .binary op => return .binary op a (b.atLine line) line
  | .concat => return Expr.concatenate line a (b.atLine line)
  | .both => return .both a b
  | .either => return .either a b

/-- An expression of operators that bind tighter than a limit. -/
def operation (limit : Nat) : Parse Expr := do
  let first ← unary nested chunk
  rounds first fun e => do
    match infix? (← current).token with
    | some (op, left, right) =>
      if left > limit then
        advance
        let a ← settle e
        return .inl (← combine op a (← nested right))
      else return .inr e
    | none => return .inr e

/-! ## Statements -/

/-- A block with locals of its own. -/
def block : Parse (List Stmt) := inScope false chunk

/-- A condition. -/
def condition : Parse Expr := do settle (← expression nested)

/-- The condition and the block of an alternative, after the word that begins it. -/
def arm : Parse (Expr × List Stmt) := do
  advance
  let test ← condition nested
  expect "then"
  return (test, ← block chunk)

/-- A conditional statement. -/
def ifStatement (line : Nat) : Parse Stmt := do
  let first ← arm nested chunk
  let arms ← rounds [first] fun arms => do
    if ← atMark "elseif" then return .inl ((← arm nested chunk) :: arms) else return .inr arms
  let otherwise ← if ← accept "else" then block chunk else pure []
  close "end" "if" line
  let chain := arms.foldl (fun no a => [Stmt.ifThen a.1 a.2 no]) otherwise
  match chain with
  | s :: _ => return s
  | [] => return .block otherwise

/-- A loop with its condition first. -/
def whileStatement (line : Nat) : Parse Stmt := do
  advance
  let test ← condition nested
  let body ← inScope true do
    expect "do"
    let body ← block chunk
    close "end" "while" line
    return body
  return .whileLoop test body

/-- A loop with its condition last. -/
def repeatStatement (line : Nat) : Parse Stmt :=
  inScope true do
    inScope false do
      advance
      let body ← chunk
      close "until" "repeat" line
      return .repeatLoop body (← condition nested)

/-- A loop over numbers, its variable read. -/
def numberLoop (variableName : Bytes) : Parse Stmt := do
  checkRoom 3
  advance
  let start ← condition nested
  expect ","
  let limit ← condition nested
  let step? ← if ← accept "," then some <$> condition nested else pure none
  mapFunction (·.declare [none, none, none])
  expect "do"
  let line ← lastLine
  let body ← inScope false do
    mapFunction (·.declare [some variableName])
    block chunk
  return .forNumber start limit step? body line

/-- A loop over what an iterator gives, its first variable read. -/
def iteratorLoop (variableName : Bytes) : Parse Stmt := do
  checkRoom 3
  let names ← rounds [variableName] fun names => do
    if ← accept "," then
      let next ← name
      checkRoom (3 + names.length)
      return .inl (names ++ [next])
    else return .inr names
  expect "in"
  let line := (← current).line
  let values ← settleLast (← expressions nested)
  mapFunction (·.declare [none, none, none])
  expect "do"
  let body ← inScope false do
    mapFunction (·.declare (names.map some))
    block chunk
  return .forEach names.length values body line

/-- A loop with variables. -/
def forStatement (line : Nat) : Parse Stmt :=
  inScope true do
    advance
    let variableName ← name
    let here ← current
    let loop ← if isMark "=" here.token then numberLoop nested chunk variableName
      else if isMark "," here.token || isMark "in" here.token then
        iteratorLoop nested chunk variableName
      else failNear .loopExpected
    close "end" "for" line
    return loop

/-- A declaration of a function in a variable or a field. -/
def functionStatement (line : Nat) : Parse Stmt := do
  advance
  let variableName ← name
  let start := resolve variableName (← get).functions
  let target ← rounds start fun e => do
    if ← atMark "." then return .inl (← field e) else return .inr e
  let hasSelf ← atMark ":"
  let target ← if hasSelf then field target else pure target
  let f ← functionBody chunk hasSelf line
  return .assign [target] [.function f] line

/-- A declaration of locals. -/
def localStatement : Parse Stmt := do
  advance
  if ← accept "function" then
    let variableName ← name
    checkRoom 0
    mapFunction (·.declare [some variableName])
    return .localFunction (← functionBody chunk false (← current).line)
  else
    let names ← rounds [] fun names => do
      let next ← name
      checkRoom names.length
      let names := names ++ [next]
      if ← accept "," then return .inl names else return .inr names
    let values ← if ← accept "=" then settleLast (← expressions nested) else pure []
    mapFunction (·.declare (names.map some))
    return .locals names.length values

/-- The end of a function with its results. -/
def returnStatement : Parse Stmt := do
  advance
  let here ← current
  if endsBlock here.token || isMark ";" here.token then return .ret []
  else
    let values ← settleLast (← expressions nested)
    match values with
    | [e] => if e.isCall then return .tailCall (e.callAt (← lastLine)) else return .ret [e]
    | _ => return .ret values

/-- A label with the labels and semicolons that follow it. -/
def labelStatement : Parse (List Stmt) := do
  let labels ← rounds [] fun labels => do
    if ← atMark "::" then
      advance
      let label ← name
      match (← innermost).declareLabel label with
      | .ok f => mapFunction fun _ => f
      | .error cause => fail cause
      expect "::"
      return .inl (label :: labels)
    else if ← accept ";" then return .inl labels
    else return .inr labels
  let t := (← current).token
  let atEnd := endsBlock t && !isMark "until" t
  let depth := depth (← get).functions
  for label in labels do
    let f ← (← innermost).settleLabel label atEnd
    mapFunction fun _ => f
  return labels.reverse.map (Stmt.label · depth)

/-- A call or an assignment. -/
def expressionStatement : Parse Stmt := do
  let first ← suffixed nested
  if first.isCall then return .call first
  else
    let targets ← rounds [first] fun targets => do
      if !(targets.head?.any Expr.isAssignable) then failNear .notAssignable
      if ← accept "," then return .inl ((← suffixed nested) :: targets)
      else return .inr targets.reverse
    expect "="
    let values ← settleLast (← expressions nested)
    return .assign targets values (← lastLine)

/-- A statement, and whether it has to be the last one of its block. A semicolon is
    none, and labels are many. -/
def statement : Parse (List Stmt × Bool) := do
  let one := fun (s : Stmt) => ([s], false)
  let here ← current
  let t := here.token
  if isMark "if" t then one <$> ifStatement nested chunk here.line
  else if isMark "while" t then one <$> whileStatement nested chunk here.line
  else if isMark "do" t then
    advance
    let body ← block chunk
    close "end" "do" here.line
    return one (.block body)
  else if isMark "for" t then one <$> forStatement nested chunk here.line
  else if isMark "repeat" t then one <$> repeatStatement nested chunk here.line
  else if isMark "function" t then one <$> functionStatement chunk here.line
  else if isMark "local" t then one <$> localStatement nested chunk
  else if isMark "return" t then return ([← returnStatement nested], true)
  else if isMark "break" t then
    advance
    let line ← lastLine
    mapFunction (·.jump none line)
    return one .breakLoop
  else if isMark ";" t then
    advance
    return ([], false)
  else if isMark "::" t then return (← labelStatement, false)
  else if isMark "goto" t then
    advance
    let label ← name
    let line ← lastLine
    mapFunction (·.jump (some label) line)
    return one (.goto label)
  else one <$> expressionStatement nested

/-- Reads a statement of a block on top of others, the last of which may have to be the
    last one, or finds the end of the block. -/
def blockStep : List Stmt × Bool → Parse ((List Stmt × Bool) ⊕ List Stmt) :=
  fun (read, isLast) => do
    if isLast || endsBlock (← current).token then return .inr read
    else
      let (s, isLast) ← statement nested chunk
      let _ ← accept ";"
      return .inl (read ++ s, isLast)

/-- The statements of a block. -/
def statements : Parse (List Stmt) := rounds ([], false) (blockStep nested chunk)

end

/-! ## Nesting -/

mutual

/-- An expression of operators that bind tighter than a limit, with at most a number
    of levels of nesting. -/
def expressionAt : Nat → Nat → Parse Expr
  | 0, _ => fail .tooDeep
  | n + 1, limit => operation (expressionAt n) (chunkAt n) limit

/-- The statements of a block, with at most a number of levels of nesting. -/
def chunkAt : Nat → Parse (List Stmt)
  | 0 => fail .tooDeep
  | n + 1 => statements (expressionAt n) (chunkAt n)

end

/-- How many levels of nesting a chunk may have. -/
def levelLimit : Nat := 199

/-- A whole chunk. -/
def chunk : Parse Function := do
  checkLexeme (← current)
  let body ← chunkAt levelLimit
  match (← current).token with
  | .finish => pure ()
  | _ => failNear (.expected Token.endText)
  (← innermost).close
  return .mk 0 true body 0

end Grammar

/-- The function of a chunk, or why it does not load. -/
def parse (source : Bytes) : Except SyntaxFault Function :=
  match Token.ofChunk source with
  | .error cause => .error ⟨cause, none, 0⟩
  | .ok lexemes =>
    (Grammar.chunk.run ⟨lexemes, 1, false, [FunctionScope.start true 0]⟩).map (·.1)

end Stencil.Lua
