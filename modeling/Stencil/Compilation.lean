/-
  Compiling a program: it is parsed once, and only a program that loads becomes an
  artifact.

  * `Compilation.load`: the function of a program text, or why it does not load;
  * `tokenSpan`: the place of an error on its line. The message names a token; of
    several occurrences the one is meant after which the program, cut off, fails in
    the same way. How a text is loaded is a parameter here;
  * `Compilation.compile`: the artifact or the diagnostic of the error.
-/
import Stencil.Diagnostic
import Stencil.Library
import Stencil.Lua.Parser
import Stencil.Program

namespace Stencil

/-- A program that can be run, with the libraries it is linked with. -/
structure Artifact where
  main : Lua.Function
  libraries : Libraries
  /-- The name of the runtime. -/
  runtime : Text

/-- The entries of the list of libraries that may follow the output. -/
def Artifact.entries (a : Artifact) : List Text := a.libraries.entries a.runtime

namespace Compilation

/-- Why a program text does not load: the line, if one is known, and the message. -/
structure LoadFailure where
  line? : Option Nat
  message : Text
  deriving DecidableEq

/-- How a program text is loaded: the failure, if there is one. -/
abbrev Loader := Text → Option LoadFailure

/-- The failure of a syntax fault. A compiled chunk has no lines. -/
def LoadFailure.ofFault (f : Lua.SyntaxFault) : LoadFailure :=
  let text := Text.trim (Text.Utf8.decodeLossy f.message)
  match f.cause with
  | .incompatibleBytecode => ⟨none, Program.label ++ ": ".toList ++ text⟩
  | .malformedBytecode => ⟨none, text⟩
  | _ => ⟨some f.line, text⟩

/-- The function of a program text. -/
def load (source : Text) : Except LoadFailure Lua.Function :=
  (Lua.parse (Text.Utf8.encode source)).mapError LoadFailure.ofFault

/-- Loads a program text to see whether it fails. -/
def loadFailure? : Loader := fun source =>
  match load source with
  | .ok _ => none
  | .error failure => some failure

/-! ## The place of an error -/

/-- The token that a message ends with, from the first place on at which it can
    begin: what stands between `near '` and a quote at the end. -/
def nearToken? (message : Text) : Option Text :=
  match (Text.trimEnd message).reverse with
  | '\'' :: body => first body.reverse
  | _ => none
where
  /-- Looks for the first beginning after which no line break follows. -/
  first : Text → Option Text
    | [] => none
    | c :: rest =>
      match Text.stripStart? "near '".toList (c :: rest) with
      | some token => if token.contains '\n' then first rest else some token
      | none => first rest

/-- The column and length of a line without the blanks around it. -/
def contentSpan (line : Text) : Nat × Nat :=
  let content := Text.trimStart line
  (line.length - content.length, (Text.trimEnd content).length)

/-- The program text up to a column of a line. -/
def cutAt (source : Text) (line column : Nat) : Text :=
  let before := ((Text.linesInclusive source).take (line - 1)).flatten.length
  source.take (before + column)

/-- The column of the token that a message on a line is about. -/
def tokenColumn? (loader : Loader) (p : Program) (line : Nat) (lineText : Text) (a : Char)
    (token message : Text) : Option Nat :=
  match Text.occurrences a token 0 lineText with
  | [] => none
  | [only] => some only
  | columns@(first :: _) =>
    let reproduces := fun (column : Nat) =>
      match loader (cutAt p.source line (column + token.length + 1)) with
      | some failure => failure.line? = some line && failure.message = message
      | none => false
    some ((columns.find? reproduces).getD first)

/-- The column and length of an error on a line: its token, or the whole line. -/
def tokenSpan (loader : Loader) (p : Program) (line : Nat) (message : Text) : Nat × Nat :=
  match p.line? line with
  | none => (0, 0)
  | some lineText =>
    match nearToken? message with
    | some (a :: token) =>
      match tokenColumn? loader p line lineText a token message with
      | some column => (column, token.length + 1)
      | none => contentSpan lineText
    | _ => contentSpan lineText

/-! ## Compiling -/

/-- The code of a syntax error. -/
def syntaxErrorCode : Text := "LUA001".toList

/-- The diagnostic of a program that does not load. -/
def diagnostic (loader : Loader) (p : Program) (failure : LoadFailure) : Diagnostic :=
  let file : Path := ⟨Program.label⟩
  match failure.line? with
  | none => ⟨syntaxErrorCode, .error, failure.message, ⟨file, 1, 0, 0⟩⟩
  | some line =>
    let (column, length) := tokenSpan loader p line failure.message
    ⟨syntaxErrorCode, .error, failure.message, ⟨file, line, column, length⟩⟩

/-- The name of the runtime of compiled programs. -/
def runtime : Text := "Lua 5.1".toList

/-- Compiles a program with libraries. -/
def compile (libraries : Libraries) (p : Program) : Except (List Diagnostic) Artifact :=
  match load p.source with
  | .ok main => .ok ⟨main, libraries, runtime⟩
  | .error failure => .error [diagnostic loadFailure? p failure]

end Compilation

end Stencil
