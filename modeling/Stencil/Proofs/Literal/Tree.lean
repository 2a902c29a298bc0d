/-
  The syntax tree of the program of a template without code.

  * `Literal.tree`: the tree, the texts being given as bytes;
  * the statements of the frame are read one by one; the texts by induction;
  * `parse_write`: the program of texts is read as `Literal.tree`.
-/
import Stencil.Proofs.Literal.Lexemes

namespace Stencil.Literal

open Lua Text.Utf8

/-! ## The tree -/

/-- A call of `os.setlocale`. -/
def setlocale (line : Nat) (args : List Expr) : Expr :=
  .call (.index (.global (bytes "os") line) (.string (bytes "setlocale")) line) args line

/-- A statement that appends a text to the output. -/
def append (builder : Expr) (line : Nat) (content : Bytes) : Stmt :=
  .assign [.index builder (.binary (.arithmetic .add) (.unary .length builder line)
    (.number (.whole 1)) line) 0] [.string content] line

/-- The output inside the function that appends the texts, and outside of it. -/
def outerBuilder : Expr := .localVar 1 (bytes "builder") true

/-- Statements that append texts, from a line on. -/
def appends (line : Nat) : List Bytes → List Stmt
  | [] => []
  | content :: rest => append outerBuilder line content :: appends (line + 1) rest

/-- The statements that choose a locale, from a line on. -/
def chooseLocale (line : Nat) : Option Text → List Stmt
  | none => [.call (setlocale line [.string (bytes "C")])]
  | some name =>
    [.ifThen (.binary (.comparison .eq) (setlocale line [.string (encode name)]) .nil line)
      [.call (setlocale (line + 1) [.string (bytes "C")]),
        append (.localVar 1 (bytes "builder") false) (line + 2)
          (encode (Program.localeWarning name))] []]

/-- The function that appends the texts. -/
def texts (locale : Option Text) (contents : List Bytes) : Function :=
  .mk 0 false (appends (firstLine locale + 1) contents) (firstLine locale)

/-- A call of a function that stops errors. -/
def pcall (line : Nat) (f : Function) : Expr :=
  .call (.global (bytes "pcall") line) [.function f] line

/-- What follows the texts, the function that appends them ending on a line. -/
def ending (line : Nat) : List Stmt :=
  [.call (setlocale (line + 1) [.localVar 2 (bytes "previous_locale") false]),
    .ifThen (.unary .not (.localVar 1 (bytes "ok") false) (line + 2))
      [.call (.call (.global (bytes "error") (line + 2))
        [.localVar 0 (bytes "failure") false, .number (.whole 0)] (line + 2))] [],
    .tailCall (.call (.index (.global (bytes "table") (line + 3)) (.string (bytes "concat"))
      (line + 3)) [.localVar 3 (bytes "builder") false] (line + 3))]

/-- The function that renders. -/
def execute (locale : Option Text) (contents : List Bytes) : Function :=
  .mk 0 false
    (.locals 1 [.table []] :: .locals 1 [setlocale 7 []] :: chooseLocale 8 locale ++
      .locals 2 [pcall (firstLine locale) (texts locale contents)] ::
      ending (lastLine locale contents)) 5

/-- The function that writes the output to a file, beginning on a line. -/
def main (line : Nat) : Function :=
  .mk 1 false
    [.locals 1 [.call (.global (bytes "assert") (line + 1))
      [.call (.index (.global (bytes "io") (line + 1)) (.string (bytes "open")) (line + 1))
        [.localVar 0 (bytes "path") false, .string (bytes "wb")] (line + 1)] (line + 1)],
      .call (.methodCall (.localVar 0 (bytes "file") false) (bytes "write")
        [.call (.index (.localVar 2 (bytes "GenClass") true) (.string (bytes "execute")) (line + 2))
          [] (line + 2)] (line + 2) (line + 2)),
      .call (.methodCall (.localVar 0 (bytes "file") false) (bytes "close") [] (line + 3)
        (line + 3))] line

/-- A field of the table that the program returns. -/
def method (name : String) (line : Nat) (f : Function) : Stmt :=
  .assign [.index (.localVar 0 (bytes "GenClass") false) (.string (bytes name)) 0] [.function f] line

/-- The program of texts. -/
def tree (locale : Option Text) (contents : List Bytes) : Function :=
  let line := lastLine locale contents
  .mk 0 true
    [.locals 1 [.table []],
      method "execute" 5 (execute locale contents),
      method "main" (line + 6) (main (line + 6)),
      .ret [.localVar 0 (bytes "GenClass") false]] 0

/-! ## Statements -/

/-- The function that renders with its locals, the innermost first, and its open blocks. -/
def scope (names : List String) (blocks : List Scope) : FunctionScope :=
  ⟨names.map (some ∘ bytes), blocks, false, 5⟩

/-- The block of a function. -/
def outermost : List Scope := [⟨0, false, [], []⟩]

/-- The chunk with its local. -/
def top : FunctionScope := ⟨[some (bytes "GenClass")], [⟨0, false, [], []⟩], true, 0⟩

@[simp] theorem length_lexed (line : Nat) (words : List String) :
    (lexed line words).length = words.length := List.length_map _

theorem length_lt_lexed {line : Nat} {word : String} {words : List String} {rest : List Lexeme} :
    rest.length < (lexed line (word :: words) ++ rest).length := by
  simp only [List.length_append, length_lexed, List.length_cons]
  omega

@[simp] theorem length_setlocaleLexemes (line : Nat) (name : Bytes) :
    (setlocaleLexemes line name).length = 6 := by simp [setlocaleLexemes]

@[simp] theorem length_appendLexemes (line : Nat) (content : Bytes) :
    (appendLexemes line content).length = 9 := by simp [appendLexemes]

section

set_option maxRecDepth 100000

open Grammar

variable (n line last : Nat) (rest : List Lexeme)

theorem statement_class :
    statement (expressionAt (n + 1)) (chunkAt (n + 1))
        ⟨lexed 3 ["local", "GenClass", "=", "\x7b", "\x7d"] ++ (lexed 5 ["function"] ++ rest), last,
          false, [FunctionScope.start true 0]⟩ =
      .ok (([.locals 1 [.table []]], false), ⟨lexed 5 ["function"] ++ rest, 3, false, [top]⟩) := by
  rfl

theorem statement_builder :
    statement (expressionAt (n + 1)) (chunkAt (n + 1))
        ⟨lexed 6 ["local", "builder", "=", "\x7b", "\x7d"] ++ (lexed 7 ["local"] ++ rest), last,
          false, [scope [] outermost, top]⟩ =
      .ok (([.locals 1 [.table []]], false),
        ⟨lexed 7 ["local"] ++ rest, 6, false, [scope ["builder"] outermost, top]⟩) := by
  rfl

theorem statement_previous_locale {word : String} (hword : word = "if" ∨ word = "os") :
    statement (expressionAt (n + 2)) (chunkAt (n + 2))
        ⟨lexed 7 ["local", "previous_locale", "=", "os", ".", "setlocale", "(", ")"] ++
          (lexed 8 [word] ++ rest), last, false, [scope ["builder"] outermost, top]⟩ =
      .ok (([.locals 1 [setlocale 7 []]], false),
        ⟨lexed 8 [word] ++ rest, 7, false,
          [scope ["previous_locale", "builder"] outermost, top]⟩) := by
  rcases hword with rfl | rfl <;> rfl

/-- A call of `os.setlocale` with a text. -/
theorem statement_setlocale (name : Bytes) (blocks : List Scope) (l : Nat) {word : String}
    (hword : word = "local" ∨ word = "builder") :
    statement (expressionAt (n + 2)) (chunkAt (n + 2))
        ⟨setlocaleLexemes line name ++ (lexed l [word] ++ rest), last, false,
          [scope ["previous_locale", "builder"] blocks, top]⟩ =
      .ok (([.call (setlocale line [.string name])], false),
        ⟨lexed l [word] ++ rest, line, false,
          [scope ["previous_locale", "builder"] blocks, top]⟩) := by
  rcases hword with rfl | rfl <;> rfl

/-- A statement that appends a text, `builder` being a local of the function. -/
theorem statement_append_local (content : Bytes) (blocks : List Scope) (l : Nat) :
    statement (expressionAt (n + 3)) (chunkAt (n + 3))
        ⟨appendLexemes line content ++ (lexed l ["end"] ++ rest), last, false,
          [scope ["previous_locale", "builder"] blocks, top]⟩ =
      .ok (([append (.localVar 1 (bytes "builder") false) line content], false),
        ⟨lexed l ["end"] ++ rest, line, false,
          [scope ["previous_locale", "builder"] blocks, top]⟩) := by
  rfl

/-- A statement that appends a text, `builder` being a local of the enclosing function. -/
theorem statement_append_outer (content : Bytes) (l start : Nat) {word : String}
    (hword : word = "builder" ∨ word = "end") :
    statement (expressionAt (n + 3)) (chunkAt (n + 3))
        ⟨appendLexemes line content ++ (lexed l [word] ++ rest), last, false,
          [FunctionScope.start false start, scope ["previous_locale", "builder"] outermost, top]⟩ =
      .ok (([append outerBuilder line content], false),
        ⟨lexed l [word] ++ rest, line, false,
          [FunctionScope.start false start,
            scope ["previous_locale", "builder"] outermost, top]⟩) := by
  rcases hword with rfl | rfl <;> rfl

/-- The locals after the texts. -/
def allLocals : List String := ["failure", "ok", "previous_locale", "builder"]

theorem statement_restore_locale (l : Nat) :
    statement (expressionAt (n + 2)) (chunkAt (n + 2))
        ⟨lexed line ["os", ".", "setlocale", "(", "previous_locale", ")"] ++ (lexed l ["if"] ++ rest),
          last, false, [scope allLocals outermost, top]⟩ =
      .ok (([.call (setlocale line [.localVar 2 (bytes "previous_locale") false])], false),
        ⟨lexed l ["if"] ++ rest, line, false, [scope allLocals outermost, top]⟩) := by
  rfl

theorem statement_return (l : Nat) :
    statement (expressionAt (n + 2)) (chunkAt (n + 2))
        ⟨lexed line ["return", "table", ".", "concat", "(", "builder", ")"] ++
          (lexed l ["end"] ++ rest), last, false, [scope allLocals outermost, top]⟩ =
      .ok (([.tailCall (.call (.index (.global (bytes "table") line) (.string (bytes "concat")) line)
          [.localVar 3 (bytes "builder") false] line)], true),
        ⟨lexed l ["end"] ++ rest, line, false, [scope allLocals outermost, top]⟩) := by
  rfl

theorem statement_return_class (l : Nat) :
    statement (expressionAt (n + 1)) (chunkAt (n + 1))
        ⟨lexed line ["return", "GenClass"] ++ [⟨.finish, Token.endText, l⟩], last, false, [top]⟩ =
      .ok (([.ret [.localVar 0 (bytes "GenClass") false]], true),
        ⟨[⟨.finish, Token.endText, l⟩], line, false, [top]⟩) := by
  rfl

/-! ### Conditions -/

theorem expression_unknown (name : Bytes) :
    expressionAt (n + 2) 0
        ⟨setlocaleLexemes line name ++ (lexed line ["==", "nil", "then"] ++ rest), last, false,
          [scope ["previous_locale", "builder"] outermost, top]⟩ =
      .ok (.binary (.comparison .eq) (setlocale line [.string name]) .nil line,
        ⟨lexed line ["then"] ++ rest, line, false,
          [scope ["previous_locale", "builder"] outermost, top]⟩) := by
  rfl

theorem expression_failed :
    expressionAt (n + 2) 0
        ⟨lexed line ["not", "ok", "then"] ++ rest, last, false, [scope allLocals outermost, top]⟩ =
      .ok (.unary .not (.localVar 1 (bytes "ok") false) line,
        ⟨lexed line ["then"] ++ rest, line, false, [scope allLocals outermost, top]⟩) := by
  rfl

theorem statement_error (blocks : List Scope) :
    statement (expressionAt (n + 2)) (chunkAt (n + 2))
        ⟨lexed line ["error", "(", "failure", ",", "0", ")", "end"] ++ rest,
          last, false, [scope allLocals blocks, top]⟩ =
      .ok (([.call (.call (.global (bytes "error") line)
          [.localVar 0 (bytes "failure") false, .number (.whole 0)] line)], false),
        ⟨lexed line ["end"] ++ rest, line, false, [scope allLocals blocks, top]⟩) := by
  rfl

/-! ### Functions -/

/-- The scopes before the texts. -/
def openScopes : List FunctionScope := [scope ["previous_locale", "builder"] outermost, top]

/-- The texts are read one after the other. -/
theorem readsBlock_texts (n start l : Nat) (contents : List Bytes) (rest : List Lexeme) :
    ∀ line last, ∃ last', ReadsBlock (expressionAt (n + 3)) (chunkAt (n + 3))
      ⟨contentLexemes line contents ++ (lexed l ["end", ")"] ++ rest), last, false,
        FunctionScope.start false start :: openScopes⟩
      (appends line contents)
      ⟨lexed l ["end", ")"] ++ rest, last', false,
        FunctionScope.start false start :: openScopes⟩ := by
  induction contents with
  | nil =>
    intro line last
    exact ⟨last, .done rfl⟩
  | cons content contents ih =>
    intro line last
    obtain ⟨last', htail⟩ := ih (line + 1) line
    refine ⟨last', ReadsBlock.next (s := [append outerBuilder line content]) ?_ rfl ?_ ?_ htail⟩
    · rw [contentLexemes, List.append_assoc]
      cases contents with
      | nil => exact statement_append_outer n line last _ content l start (.inr rfl)
      | cons content' contents =>
        exact statement_append_outer n line last _ content (line + 1) start (.inl rfl)
    · cases contents <;> rfl
    · simp only [contentLexemes, List.length_append, length_appendLexemes]
      omega

/-- The function that appends the texts. -/
theorem functionBody_texts (n line l : Nat) (contents : List Bytes) (rest : List Lexeme) :
    functionBody (chunkAt (n + 4)) false line
        ⟨lexed line ["(", ")"] ++
          (contentLexemes (line + 1) contents ++ (lexed l ["end", ")"] ++ rest)), line, false,
          openScopes⟩ =
      .ok (.mk 0 false (appends (line + 1) contents) line,
        ⟨lexed l [")"] ++ rest, l, false, openScopes⟩) := by
  obtain ⟨last', hblock⟩ := readsBlock_texts n line l contents rest (line + 1) line
  obtain ⟨first, rest', heq, hfirst⟩ : ∃ first rest', contentLexemes (line + 1) contents ++
      (lexed l ["end", ")"] ++ rest) = first :: rest' ∧ isWord first := by
    cases contents <;> exact ⟨_, _, rfl, trivial⟩
  rw [heq] at hblock ⊢
  exact functionBody_of_chunk trivial (parameters_none hfirst) (chunkAt_of_readsBlock hblock) rfl

/-- The locals that take the results of the function that appends the texts. -/
theorem localStatement_results {nested : Nat → Parse Expr} {chunk : Parse (List Stmt)}
    {line last l : Nat} {rest rest' : List Lexeme} {e : Expr}
    (hvalue : nested 0 ⟨lexed line ["pcall", "(", "function", "(", ")"] ++ rest, line, false,
      openScopes⟩ = .ok (e, ⟨lexed (l + 1) ["os"] ++ rest', l, false, openScopes⟩)) :
    localStatement nested chunk ⟨openLexemes line ++ rest, last, false, openScopes⟩ =
      .ok (.locals 2 [e.atLine l],
        ⟨lexed (l + 1) ["os"] ++ rest', l, false, [scope allLocals outermost, top]⟩) := by
  calc
    _ = (expressions nested >>= fun es => do
          let values ← Parse.settleLast es
          Parse.mapFunction (·.declare [some (bytes "ok"), some (bytes "failure")])
          return Stmt.locals 2 values)
        ⟨lexed line ["pcall", "(", "function", "(", ")"] ++ rest, line, false, openScopes⟩ := rfl
    _ = _ := by
      rw [bind_of_ok (expressions_of_one hvalue rfl)]
      rfl

/-- The call of the function that appends the texts, whose body is given. -/
theorem statement_pcall {n line last l : Nat} {rest rest' : List Lexeme} {f : Function}
    (hbody : functionBody (chunkAt n) false line
      ⟨lexed line ["(", ")"] ++ rest, line, false, openScopes⟩ =
        .ok (f, ⟨lexed l [")"] ++ (lexed (l + 1) ["os"] ++ rest'), l, false, openScopes⟩)) :
    statement (expressionAt (n + 2)) (chunkAt (n + 2))
        ⟨openLexemes line ++ rest, last, false, openScopes⟩ =
      .ok (([.locals 2 [pcall line f]], false),
        ⟨lexed (l + 1) ["os"] ++ rest', l, false, [scope allLocals outermost, top]⟩) :=
  statement_local (localStatement_results
    (expressionAt_call (by trivial) rfl (expressionAt_function hbody)))

/-- The choice of the locale. -/
theorem readsBlock_chooseLocale {n l : Nat} {locale : Option Text} {rest : List Lexeme}
    {ss : List Stmt} {r : Reader}
    (hrest : ∀ last, ReadsBlock (expressionAt (n + 4)) (chunkAt (n + 4))
      ⟨lexed l ["local"] ++ rest, last, false, openScopes⟩ ss r) :
    ∀ last, ReadsBlock (expressionAt (n + 4)) (chunkAt (n + 4))
      ⟨localeLexemes 8 locale ++ (lexed l ["local"] ++ rest), last, false, openScopes⟩
      (chooseLocale 8 locale ++ ss) r := by
  intro last
  cases locale with
  | none =>
    refine .next (statement_setlocale (n + 2) 8 last rest (bytes "C") outermost l (.inl rfl)) rfl rfl
      ?_ (hrest 8)
    simp [localeLexemes]
  | some name =>
    let blocks : List Scope := ⟨2, false, [], []⟩ :: outermost
    have hblock : ReadsBlock (expressionAt (n + 3)) (chunkAt (n + 3))
        ⟨setlocaleLexemes 9 (bytes "C") ++
          (appendLexemes 10 (encode (Program.localeWarning name)) ++
            (lexed 11 ["end"] ++ (lexed l ["local"] ++ rest))), 8, false,
          [scope ["previous_locale", "builder"] blocks, top]⟩
        [.call (setlocale 9 [.string (bytes "C")]),
          append (.localVar 1 (bytes "builder") false) 10 (encode (Program.localeWarning name))]
        ⟨lexed 11 ["end"] ++ (lexed l ["local"] ++ rest), 10, false,
          [scope ["previous_locale", "builder"] blocks, top]⟩ := by
      refine .next (statement_setlocale (n + 1) 9 8 _ (bytes "C") blocks 10 (.inr rfl)) rfl rfl ?_ <|
        .next (statement_append_local n 10 9 _ _ blocks 11) rfl rfl ?_ (.done rfl)
      · simp
      · simp
    have hif : statement (expressionAt (n + 4)) (chunkAt (n + 4))
        ⟨localeLexemes 8 (some name) ++ (lexed l ["local"] ++ rest), last, false, openScopes⟩ =
          .ok ((chooseLocale 8 (some name), false),
            ⟨lexed l ["local"] ++ rest, 11, false, openScopes⟩) := by
      simp only [localeLexemes, List.append_assoc]
      exact statement_if (by trivial) (by trivial) (by trivial)
        (expression_unknown (n + 2) 8 8 _ (encode name)) (chunkAt_of_readsBlock hblock)
    refine .next hif rfl rfl ?_ (hrest 11)
    simp only [localeLexemes, List.length_append, length_lexed, length_setlocaleLexemes]
    omega

/-- The lexemes that return the output, up to the end of the function. -/
def returnLexemes (line : Nat) (rest : List Lexeme) : List Lexeme :=
  lexed (line + 3) ["return", "table", ".", "concat", "(", "builder", ")"] ++
    (lexed (line + 4) ["end"] ++ rest)

/-- The lexemes that follow the function that appends the texts. -/
def endingLexemes (line : Nat) (rest : List Lexeme) : List Lexeme :=
  lexed (line + 1) ["os", ".", "setlocale", "(", "previous_locale", ")"] ++
    (lexed (line + 2) ["if", "not", "ok", "then", "error", "(", "failure", ",", "0", ")", "end"] ++
    returnLexemes line rest)

/-- What follows the texts. -/
theorem readsBlock_ending (n line last : Nat) (rest : List Lexeme) :
    ReadsBlock (expressionAt (n + 3)) (chunkAt (n + 3))
      ⟨endingLexemes line rest, last, false, [scope allLocals outermost, top]⟩ (ending line)
      ⟨lexed (line + 4) ["end"] ++ rest, line + 3, false, [scope allLocals outermost, top]⟩ := by
  let blocks : List Scope := ⟨4, false, [], []⟩ :: outermost
  have hblock : ReadsBlock (expressionAt (n + 2)) (chunkAt (n + 2))
      ⟨lexed (line + 2) ["error", "(", "failure", ",", "0", ")", "end"] ++ returnLexemes line rest,
        line + 2, false, [scope allLocals blocks, top]⟩
      [.call (.call (.global (bytes "error") (line + 2))
        [.localVar 0 (bytes "failure") false, .number (.whole 0)] (line + 2))]
      ⟨lexed (line + 2) ["end"] ++ returnLexemes line rest, line + 2, false,
        [scope allLocals blocks, top]⟩ := by
    refine .next (statement_error n (line + 2) (line + 2) _ blocks) rfl rfl ?_ (.done rfl)
    simp
  have hif : statement (expressionAt (n + 3)) (chunkAt (n + 3))
      ⟨lexed (line + 2)
          ["if", "not", "ok", "then", "error", "(", "failure", ",", "0", ")", "end"] ++
        returnLexemes line rest, line + 1, false, [scope allLocals outermost, top]⟩ =
      .ok (([.ifThen (.unary .not (.localVar 1 (bytes "ok") false) (line + 2))
        [.call (.call (.global (bytes "error") (line + 2))
          [.localVar 0 (bytes "failure") false, .number (.whole 0)] (line + 2))] []], false),
        ⟨returnLexemes line rest, line + 2, false, [scope allLocals outermost, top]⟩) :=
    statement_if (by trivial) (by trivial) (by trivial)
      (expression_failed (n + 1) (line + 2) (line + 2) _) (chunkAt_of_readsBlock hblock)
  refine .next (statement_restore_locale (n + 1) (line + 1) last _ (line + 2)) rfl rfl ?_ <|
    .next hif rfl rfl ?_ <|
    .last (statement_return (n + 1) (line + 3) (line + 2) _ (line + 4)) rfl rfl ?_
  · simp
  · simp
  · simp [returnLexemes]

/-- The lexemes of the function that renders, from the call that appends the texts on. -/
def bodyLexemes (locale : Option Text) (contents : List Bytes) (rest : List Lexeme) : List Lexeme :=
  openLexemes (firstLine locale) ++ (contentLexemes (firstLine locale + 1) contents ++
    (lexed (lastLine locale contents) ["end", ")"] ++
    endingLexemes (lastLine locale contents) rest))

/-- The lexemes of the function that renders, from its parameters on. -/
def executeLexemes (locale : Option Text) (contents : List Bytes) (rest : List Lexeme) :
    List Lexeme :=
  lexed 5 ["(", ")"] ++ (lexed 6 ["local", "builder", "=", "\x7b", "\x7d"] ++
    (lexed 7 ["local", "previous_locale", "=", "os", ".", "setlocale", "(", ")"] ++
    (localeLexemes 8 locale ++ bodyLexemes locale contents rest)))

/-- The function that renders. -/
theorem functionBody_execute (n : Nat) (locale : Option Text) (contents : List Bytes)
    {next : Lexeme} (hnext : isWord next) (rest : List Lexeme) :
    functionBody (chunkAt (n + 7)) false 5
        ⟨executeLexemes locale contents (next :: rest), 5, false, [top]⟩ =
      .ok (execute locale contents, ⟨next :: rest, lastLine locale contents + 4, false, [top]⟩) := by
  let line := lastLine locale contents
  have hpcall (last : Nat) : ReadsBlock (expressionAt (n + 6)) (chunkAt (n + 6))
      ⟨bodyLexemes locale contents (next :: rest), last, false, openScopes⟩
      (.locals 2 [pcall (firstLine locale) (texts locale contents)] :: ending line)
      ⟨lexed (line + 4) ["end"] ++ next :: rest, line + 3, false,
        [scope allLocals outermost, top]⟩ := by
    refine .next (statement_pcall (functionBody_texts n (firstLine locale) line contents _)) rfl rfl
      ?_ (readsBlock_ending (n + 3) line line (next :: rest))
    simp only [openLexemes, List.length_append, length_lexed, List.length_cons]
    omega
  have hlocale (last : Nat) : ReadsBlock (expressionAt (n + 6)) (chunkAt (n + 6))
      ⟨lexed 7 ["local", "previous_locale", "=", "os", ".", "setlocale", "(", ")"] ++
        (localeLexemes 8 locale ++ bodyLexemes locale contents (next :: rest)), last, false,
        [scope ["builder"] outermost, top]⟩
      (.locals 1 [setlocale 7 []] :: (chooseLocale 8 locale ++
        .locals 2 [pcall (firstLine locale) (texts locale contents)] :: ending line))
      ⟨lexed (line + 4) ["end"] ++ next :: rest, line + 3, false,
        [scope allLocals outermost, top]⟩ := by
    refine .next (s := [.locals 1 [setlocale 7 []]]) ?_ rfl ?_ ?_ (readsBlock_chooseLocale hpcall 7)
    · cases locale with
      | none => exact statement_previous_locale (n + 4) last _ (.inr rfl)
      | some name => exact statement_previous_locale (n + 4) last _ (.inl rfl)
    · cases locale <;> rfl
    · exact length_lt_lexed
  have hblock : ReadsBlock (expressionAt (n + 6)) (chunkAt (n + 6))
      ⟨lexed 6 ["local", "builder", "=", "\x7b", "\x7d"] ++
        (lexed 7 ["local", "previous_locale", "=", "os", ".", "setlocale", "(", ")"] ++
        (localeLexemes 8 locale ++ bodyLexemes locale contents (next :: rest))), 5, false,
        [scope [] outermost, top]⟩ (execute locale contents).body
      ⟨lexed (line + 4) ["end"] ++ next :: rest, line + 3, false,
        [scope allLocals outermost, top]⟩ := by
    exact .next (s := [.locals 1 [.table []]]) (statement_builder (n + 5) 5 _) rfl rfl length_lt_lexed
      (hlocale 6)
  exact functionBody_of_chunk hnext (parameters_none trivial) (chunkAt_of_readsBlock hblock) rfl

/-! ### The function that writes a file -/

/-- A function beginning on a line with locals, the innermost first. -/
def mainScope (names : List String) (line : Nat) : FunctionScope :=
  ⟨names.map (some ∘ bytes), outermost, false, line⟩

theorem parameters_path {line : Nat} {first : Lexeme} {rest : List Lexeme} (hfirst : isWord first) :
    parameters false ⟨lexed line ["(", "path", ")"] ++ first :: rest, line, false,
        [FunctionScope.start false line, top]⟩ =
      .ok ((1, false), ⟨first :: rest, line, false, [mainScope ["path"] line, top]⟩) := by
  obtain ⟨token, near, at₁⟩ := first
  cases token <;> first | exact hfirst.elim | rfl

/-- The lexemes of the arguments of `assert`, up to the next statement. -/
def openArguments (line : Nat) (rest : List Lexeme) : List Lexeme :=
  lexed line ["io", ".", "open", "(", "path", ","] ++
    .quoted line (bytes "wb") :: (lexed line [")", ")"] ++ (lexed (line + 1) ["file"] ++ rest))

/-- The expression that opens the file. -/
def opened (line : Nat) : Expr :=
  .call (.index (.global (bytes "io") line) (.string (bytes "open")) line)
    [.localVar 0 (bytes "path") false, .string (bytes "wb")] line

theorem expression_open (n line last start : Nat) (rest : List Lexeme) :
    expressionAt (n + 2) 0
        ⟨openArguments line rest, last, false, [mainScope ["path"] start, top]⟩ =
      .ok (opened line, ⟨lexed line [")"] ++ (lexed (line + 1) ["file"] ++ rest), line, false,
        [mainScope ["path"] start, top]⟩) := by
  rfl

/-- The local that takes the file. -/
theorem localStatement_file {nested : Nat → Parse Expr} {chunk : Parse (List Stmt)}
    {line last start : Nat} {rest rest' : List Lexeme} {e : Expr}
    (hvalue : nested 0 ⟨lexed line ["assert", "("] ++ rest, line, false,
      [mainScope ["path"] start, top]⟩ = .ok (e, ⟨lexed (line + 1) ["file"] ++ rest', line, false,
        [mainScope ["path"] start, top]⟩)) :
    localStatement nested chunk
        ⟨lexed line ["local", "file", "=", "assert", "("] ++ rest, last, false,
          [mainScope ["path"] start, top]⟩ =
      .ok (.locals 1 [e.atLine line],
        ⟨lexed (line + 1) ["file"] ++ rest', line, false, [mainScope ["file", "path"] start, top]⟩) := by
  calc
    _ = (expressions nested >>= fun es => do
          let values ← Parse.settleLast es
          Parse.mapFunction (·.declare [some (bytes "file")])
          return Stmt.locals 1 values)
        ⟨lexed line ["assert", "("] ++ rest, line, false, [mainScope ["path"] start, top]⟩ := rfl
    _ = _ := by
      rw [bind_of_ok (expressions_of_one hvalue rfl)]
      rfl

theorem statement_file (n line last start : Nat) (rest : List Lexeme) :
    statement (expressionAt (n + 3)) (chunkAt (n + 3))
        ⟨lexed line ["local", "file", "=", "assert", "("] ++ openArguments line rest, last, false,
          [mainScope ["path"] start, top]⟩ =
      .ok (([.locals 1 [.call (.global (bytes "assert") line) [opened line] line]], false),
        ⟨lexed (line + 1) ["file"] ++ rest, line, false, [mainScope ["file", "path"] start, top]⟩) := by
  have hvalue : expressionAt (n + 3) 0
      ⟨lexed line ["assert", "("] ++ openArguments line rest, line, false,
        [mainScope ["path"] start, top]⟩ =
      .ok (.call (.global (bytes "assert") line) [opened line] line,
        ⟨lexed (line + 1) ["file"] ++ rest, line, false, [mainScope ["path"] start, top]⟩) :=
    expressionAt_call (by trivial) rfl (expression_open n line line start rest)
  exact statement_local (localStatement_file hvalue)

theorem statement_write (n line last start : Nat) (rest : List Lexeme) :
    statement (expressionAt (n + 3)) (chunkAt (n + 3))
        ⟨lexed line ["file", ":", "write", "(", "GenClass", ".", "execute", "(", ")", ")"] ++
          (lexed (line + 1) ["file"] ++ rest), last, false, [mainScope ["file", "path"] start, top]⟩ =
      .ok (([.call (.methodCall (.localVar 0 (bytes "file") false) (bytes "write")
        [.call (.index (.localVar 2 (bytes "GenClass") true) (.string (bytes "execute")) line) []
          line] line line)], false),
        ⟨lexed (line + 1) ["file"] ++ rest, line, false,
          [mainScope ["file", "path"] start, top]⟩) := by
  rfl

theorem statement_close (n line last start : Nat) (rest : List Lexeme) :
    statement (expressionAt (n + 3)) (chunkAt (n + 3))
        ⟨lexed line ["file", ":", "close", "(", ")"] ++ (lexed (line + 1) ["end"] ++ rest), last,
          false, [mainScope ["file", "path"] start, top]⟩ =
      .ok (([.call (.methodCall (.localVar 0 (bytes "file") false) (bytes "close") [] line line)],
        false), ⟨lexed (line + 1) ["end"] ++ rest, line, false,
          [mainScope ["file", "path"] start, top]⟩) := by
  rfl

/-- The lexemes of the function that writes a file, from its parameters on. -/
def writeLexemes (line : Nat) (rest : List Lexeme) : List Lexeme :=
  lexed line ["(", "path", ")"] ++ (lexed (line + 1) ["local", "file", "=", "assert", "("] ++
    openArguments (line + 1)
      (lexed (line + 2) [":", "write", "(", "GenClass", ".", "execute", "(", ")", ")"] ++
      (lexed (line + 3) ["file", ":", "close", "(", ")"] ++ (lexed (line + 4) ["end"] ++ rest))))

/-- The function that writes a file. -/
theorem functionBody_main (n line : Nat) {next : Lexeme} (hnext : isWord next)
    (rest : List Lexeme) :
    functionBody (chunkAt (n + 4)) false line
        ⟨writeLexemes line (next :: rest), line, false, [top]⟩ =
      .ok (main line, ⟨next :: rest, line + 4, false, [top]⟩) := by
  have hclose : ReadsBlock (expressionAt (n + 3)) (chunkAt (n + 3))
      ⟨lexed (line + 3) ["file", ":", "close", "(", ")"] ++ (lexed (line + 4) ["end"] ++ next :: rest),
        line + 2, false, [mainScope ["file", "path"] line, top]⟩
      [.call (.methodCall (.localVar 0 (bytes "file") false) (bytes "close") [] (line + 3) (line + 3))]
      ⟨lexed (line + 4) ["end"] ++ next :: rest, line + 3, false,
        [mainScope ["file", "path"] line, top]⟩ := by
    refine .next (statement_close n (line + 3) (line + 2) line _) rfl rfl ?_ (.done rfl)
    simp
  have hblock : ReadsBlock (expressionAt (n + 3)) (chunkAt (n + 3))
      ⟨lexed (line + 1) ["local", "file", "=", "assert", "("] ++ openArguments (line + 1)
        (lexed (line + 2) [":", "write", "(", "GenClass", ".", "execute", "(", ")", ")"] ++
        (lexed (line + 3) ["file", ":", "close", "(", ")"] ++
          (lexed (line + 4) ["end"] ++ next :: rest))), line, false, [mainScope ["path"] line, top]⟩
      (main line).body
      ⟨lexed (line + 4) ["end"] ++ next :: rest, line + 3, false,
        [mainScope ["file", "path"] line, top]⟩ := by
    refine .next (statement_file n (line + 1) line line _) rfl rfl ?_ <|
      .next (statement_write n (line + 2) (line + 1) line _) rfl rfl ?_ hclose
    · simp only [openArguments, List.length_append, length_lexed, List.length_cons, List.length_nil]
      omega
    · simp
  exact functionBody_of_chunk hnext (parameters_path trivial) (chunkAt_of_readsBlock hblock) rfl

/-! ### The chunk -/

/-- The lexemes after the function that renders, which ends on a line. -/
def tailLexemes (line : Nat) : List Lexeme :=
  lexed (line + 6) ["function", "GenClass", ".", "main"] ++ writeLexemes (line + 6)
    (lexed (line + 12) ["return", "GenClass"] ++ [⟨.finish, Token.endText, line + 13⟩])

theorem lexemes_eq (locale : Option Text) (contents : List Bytes) :
    lexemes locale contents = lexed 3 ["local", "GenClass", "=", "\x7b", "\x7d"] ++
      (lexed 5 ["function", "GenClass", ".", "execute"] ++
        executeLexemes locale contents (tailLexemes (lastLine locale contents))) := by
  simp only [lexemes, frameLexemes, headLexemes, closeLexemes, mainLexemes, executeLexemes,
    bodyLexemes, endingLexemes, returnLexemes, tailLexemes, writeLexemes, openArguments,
    List.append_assoc]
  rfl

theorem readsBlock_chunk (n : Nat) (locale : Option Text) (contents : List Bytes) :
    ∃ line, ReadsBlock (expressionAt (n + 7)) (chunkAt (n + 7))
      ⟨lexemes locale contents, 1, false, [FunctionScope.start true 0]⟩ (tree locale contents).body
      ⟨[⟨.finish, Token.endText, lastLine locale contents + 13⟩], line, false, [top]⟩ := by
  let line := lastLine locale contents
  let last : List Lexeme :=
    lexed (line + 12) ["return", "GenClass"] ++ [⟨.finish, Token.endText, line + 13⟩]
  have hmain : statement (expressionAt (n + 7)) (chunkAt (n + 7))
      ⟨tailLexemes line, line + 4, false, [top]⟩ =
        .ok (([method "main" (line + 6) (main (line + 6))], false),
          ⟨last, line + 10, false, [top]⟩) :=
    statement_function (functionBody_main (n + 3) (line + 6) (by trivial) _)
  have hexecute : statement (expressionAt (n + 7)) (chunkAt (n + 7))
      ⟨lexed 5 ["function", "GenClass", ".", "execute"] ++
        executeLexemes locale contents (tailLexemes line), 3, false, [top]⟩ =
        .ok (([method "execute" 5 (execute locale contents)], false),
          ⟨tailLexemes line, line + 4, false, [top]⟩) :=
    statement_function (functionBody_execute n locale contents (by trivial) _)
  have htail : ReadsBlock (expressionAt (n + 7)) (chunkAt (n + 7))
      ⟨tailLexemes line, line + 4, false, [top]⟩
      [method "main" (line + 6) (main (line + 6)), .ret [.localVar 0 (bytes "GenClass") false]]
      ⟨[⟨.finish, Token.endText, line + 13⟩], line + 12, false, [top]⟩ := by
    refine .next hmain rfl rfl ?_ <|
      .last (statement_return_class (n + 6) (line + 12) (line + 10) (line + 13)) rfl rfl ?_
    · simp only [last, tailLexemes, writeLexemes, openArguments, List.length_append, length_lexed,
        List.length_cons]
      omega
    · simp [last]
  rw [lexemes_eq]
  refine ⟨line + 12, .next (s := [.locals 1 [.table []]]) (statement_class (n + 6) 1 _) rfl rfl ?_ <|
    .next hexecute rfl rfl ?_ htail⟩
  · exact length_lt_lexed
  · simp only [line, executeLexemes, bodyLexemes, endingLexemes, returnLexemes, List.length_append,
      length_lexed, List.length_cons]
    omega

end

/-- The program of texts is read as its tree. -/
theorem parse_write {r : Resolution} {template : Path} (locale : Option Text)
    (htexts : ∀ s ∈ r.sections, s.kind = .text) (himports : r.imports = [])
    (hname : Text.OneLine (Program.displayName template)) :
    Lua.parse (encode (Program.write r template locale).source) =
      .ok (tree locale (r.sections.map fun s => encode s.content)) := by
  obtain ⟨line, hblock⟩ :=
    readsBlock_chunk 191 locale (r.sections.map fun s => encode s.content)
  rw [lexemes_eq] at hblock
  have hchunk := Grammar.chunk_of_readsBlock (by trivial) (Grammar.chunkAt_of_readsBlock hblock) rfl
  rw [Lua.parse, ofChunk_write locale htexts himports hname, lexemes_eq]
  exact congrArg (·.map Prod.fst) hchunk

end Stencil.Literal
