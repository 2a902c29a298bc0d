/-
  Running a compiled program.

  * `Execution`: the output, a fault, or nothing because of a request to stop;
  * `Fault.ofMessage`: a fault with the program line that its message names;
  * `Execution.run`: runs the program in an environment of its own. The program
    returns a table whose function `execute` gives the output.
-/
import Stencil.Cancellation
import Stencil.Compilation
import Stencil.Lua.Interpreter
import Stencil.Text.Digit

namespace Stencil

/-- An error of a running program. -/
structure Fault where
  message : Text
  /-- The program line that the message names. -/
  line? : Option Nat
  deriving DecidableEq

namespace Fault

/-- What begins a list of calls after a message. -/
def tracebackMark : Text := "\nstack traceback:".toList

/-- The text before the first mark, if there is one. -/
def before (mark : Text) : Text → Text
  | [] => []
  | c :: rest => if Text.startsWith mark (c :: rest) then [] else c :: before mark rest

/-- The digits of a line number after the name of the program. -/
def positionDigits? (afterLabel : Text) : Option Text :=
  let afterQuote := (Text.stripStart? ['"'] afterLabel).getD afterLabel
  let afterBracket := (Text.stripStart? [']'] afterQuote).getD afterQuote
  match afterBracket with
  | ':' :: rest =>
    let digits := rest.takeWhile Text.isDecimalDigit
    if !digits.isEmpty && (rest.drop digits.length).head? = some ':' then some digits else none
  | _ => none

/-- The program line that a message names first. -/
def lineNamed? (message : Text) : Option Nat :=
  match message with
  | [] => none
  | c :: rest =>
    match (Text.stripStart? Program.label (c :: rest)).bind positionDigits? with
    | some digits => Text.number? digits
    | none => lineNamed? rest

/-- The fault of a message. -/
def ofMessage (text : Text) : Fault :=
  let message := Text.trimEnd (before tracebackMark text)
  ⟨message, lineNamed? message⟩

end Fault

/-- How a run of a program ends. -/
inductive Execution where
  | rendered (output : Text)
  | faulted (fault : Fault)
  | cancelled

namespace Execution

open Lua Eval

/-- What a program must be or give. -/
inductive Expected where
  | table
  | function
  | string

/-- The words for what was expected. -/
def Expected.words : Expected → String
  | table => "table"
  | function => "function"
  | string => "string (expected string or number)"

/-- The name of a value's type; a number without a fraction is an integer. -/
def kindOf : Value → String
  | .number (.whole _) => "integer"
  | .number (.real x) =>
    let whole := if x < 0.0 then x.ceil else x.floor
    if (x - whole).abs < 2.220446049250313e-16 && x.abs < 9223372036854775808.0 then "integer"
    else "number"
  | v => v.typeName

/-- How a program may fail. -/
inductive Failure where
  | raised (v : Value)
  | wrongType (v : Value) (expected : Expected)

/-- Turns an error of the program into a failure. -/
def trying {α : Type} (x : Eval α) : Eval (Except Failure α) := do
  return (← attempt x).mapError Failure.raised

variable [Locales]

/-- The calls of a program. -/
def call : Call := callWithin callDepth

/-- The text of an error value. -/
def describe (v : Value) : Eval Bytes := do
  match ← attempt (Operation.display call [] v) with
  | .ok results => return (results.headD .nil).toText?.getD []
  | .error _ => return []

/-- The first of some results. -/
def first (results : List Value) : Value := results.headD .nil

/-- Runs a main function, takes `execute` from its result, and calls it. -/
def outputOf (main : Lua.Function) : Eval (Except Failure Bytes) := do
  match ← trying (do call [] (← newClosure (.lua main [])) []) with
  | .error e => return .error e
  | .ok results =>
    match first results with
    | .table id =>
      match ← trying (Operation.index call ⟨none, []⟩ (.table id) (.ofString "execute") none) with
      | .error e => return .error e
      | .ok f =>
        if Operation.isFunction f then
          match ← trying (call [] f []) with
          | .error e => return .error e
          | .ok results =>
            match (first results).toText? with
            | some text => return .ok text
            | none => return .error (.wrongType (first results) .string)
        else return .error (.wrongType f .function)
    | v => return .error (.wrongType v .table)

/-- The message of a failure. -/
def messageOf : Failure → Eval Text
  | .raised v => do
    return "runtime error: ".toList ++ Text.Utf8.decodeLossy (untilNul (← describe v))
  | .wrongType v expected =>
    return ("error converting Lua " ++ kindOf v ++ " to " ++ expected.words).toList

/-- Runs a program to its output or its fault. -/
def evaluate (main : Lua.Function) : Eval Execution := do
  match ← outputOf main with
  | .ok output => return .rendered (Text.Utf8.decodeLossy output)
  | .error e => return .faulted (.ofMessage (← messageOf e))

/-- Runs an artifact in an environment of its own. -/
def ofArtifact (a : Artifact) : Execution :=
  match evaluate a.main (environment a.libraries) with
  | .ok execution _ => execution
  | .error _ _ => .faulted ⟨"runtime error: the program does not end".toList, none⟩

/-- Runs an artifact unless a request to stop is found before or after it is loaded;
    the flag is given back as it is after the looks. -/
def run (a : Artifact) (flag : Cancellation.Flag) : Execution × Cancellation.Flag :=
  if flag.isSet then (.cancelled, flag.afterLook)
  else
    let flag := flag.afterLook
    if flag.isSet then (.cancelled, flag.afterLook) else (ofArtifact a, flag.afterLook)

end Execution

end Stencil
