/-
  Diagnostics: messages with a code, a severity and a location.

  * `display` is the one-line form `file(line,column): severity CODE: message`
    with the column counted from 1;
  * `toJson` is the form for other tools.
-/
import Stencil.Path
import Stencil.Json

namespace Stencil

/-- How bad a diagnostic is. -/
inductive Severity where
  | error
  | warning
  | info
  deriving DecidableEq, Repr

namespace Severity

/-- The name of a severity. -/
def name : Severity → Text
  | error => "error".toList
  | warning => "warning".toList
  | info => "info".toList

/-- The capitalised name of a severity. -/
def title : Severity → Text
  | error => "Error".toList
  | warning => "Warning".toList
  | info => "Info".toList

end Severity

/-- A stretch of a line. -/
structure Location where
  file : Path
  /-- The line, counted from 1. -/
  line : Nat
  /-- The column of the first character, counted from 0. -/
  column : Nat
  /-- The number of characters. -/
  length : Nat
  deriving DecidableEq

/-- A message about a place. -/
structure Diagnostic where
  code : Text
  severity : Severity
  message : Text
  location : Location
  deriving DecidableEq

namespace Diagnostic

/-- Whether the diagnostic is an error. -/
def isError (d : Diagnostic) : Bool := d.severity = .error

/-- The diagnostic on one line. -/
def display (d : Diagnostic) : Text :=
  d.location.file.text ++ '(' :: Text.number d.location.line ++ ',' ::
    Text.number (d.location.column + 1) ++ "): ".toList ++ d.severity.name ++ ' ' :: d.code ++
    ": ".toList ++ d.message

/-- The diagnostic as a JSON object. -/
def toJson (d : Diagnostic) : Json :=
  .object [
    ("code".toList, .string d.code),
    ("severity".toList, .string d.severity.name),
    ("message".toList, .string d.message),
    ("location".toList, .object [
      ("file".toList, .string d.location.file.text),
      ("line".toList, .number d.location.line),
      ("column".toList, .number d.location.column),
      ("length".toList, .number d.location.length)])]

end Diagnostic

end Stencil
