/-
  What is wrong with a Lua chunk that does not load.

  * `SyntaxFault.Cause` lists the causes, from unfinished strings to jumps into
    the scope of a local;
  * `SyntaxFault` adds the line and the lexeme at which the cause was found;
  * `SyntaxFault.message` is its text, without the line.
-/
import Stencil.Text.Utf8

namespace Stencil.Lua

/-- The bytes of a text given as a string. -/
def bytes (s : String) : Bytes := Text.Utf8.encode s.toList

/-- The bytes of a number in decimal digits. -/
def decimal (n : Nat) : Bytes := Text.Utf8.encode (Nat.toDigits 10 n)

/-- The bytes before the first NUL. -/
def untilNul (b : Bytes) : Bytes := b.takeWhile (· != 0)

namespace SyntaxFault

/-- Why a chunk does not load. -/
inductive Cause where
  /-- A quoted string without its end on the line. -/
  | unfinishedString
  /-- A string in long brackets without its end. -/
  | unfinishedLongString
  /-- A comment in long brackets without its end. -/
  | unfinishedLongComment
  /-- An escape sequence that is not known. -/
  | invalidEscape
  /-- An opening long bracket without its second `[`. -/
  | invalidLongDelimiter
  /-- A numeral that is no number. -/
  | malformedNumber
  /-- No expression begins here. -/
  | unexpectedSymbol
  /-- An expression that cannot be assigned to. -/
  | notAssignable
  /-- Another token has to stand here. -/
  | expected (token : Bytes)
  /-- The token that closes a construct has to stand here. -/
  | unclosed (token opening : Bytes) (line : Nat)
  /-- A parameter has to stand here. -/
  | parameterExpected
  /-- The arguments of a method call have to stand here. -/
  | argumentsExpected
  /-- A loop variable is followed by neither `=` nor `in`. -/
  | loopExpected
  /-- `...` in a function that takes no variable arguments. -/
  | varargOutside
  /-- Expressions or blocks nested too deeply. -/
  | tooDeep
  /-- More locals in a function than the limit allows; line 0 is the chunk itself. -/
  | tooManyLocals (line limit : Nat)
  /-- `break` outside of a loop. -/
  | noLoop
  /-- A jump to a label that is not visible. -/
  | undefinedLabel (name : Bytes)
  /-- A second label of one name in a block. -/
  | duplicateLabel (name : Bytes)
  /-- A jump past the declaration of a local. -/
  | jumpIntoScope (label variableName : Bytes)
  /-- A compiled chunk of another make. -/
  | incompatibleBytecode
  /-- A compiled chunk after a header. -/
  | malformedBytecode
  deriving DecidableEq

/-- The function that a limit is about. -/
def functionAt (line : Nat) : Bytes :=
  if line = 0 then bytes "main function" else bytes "function at line " ++ decimal line

/-- The text of a limit that a function exceeds. -/
def overLimit (line limit : Nat) (what : String) : Bytes :=
  functionAt line ++ bytes " has more than " ++ decimal limit ++ bytes " " ++ bytes what

/-- The words for a cause. -/
def Cause.text : Cause → Bytes
  | unfinishedString => bytes "unfinished string"
  | unfinishedLongString => bytes "unfinished long string"
  | unfinishedLongComment => bytes "unfinished long comment"
  | invalidEscape => bytes "invalid escape sequence"
  | invalidLongDelimiter => bytes "invalid long string delimiter"
  | malformedNumber => bytes "malformed number"
  | unexpectedSymbol => bytes "unexpected symbol"
  | notAssignable => bytes "syntax error"
  | expected token => bytes "'" ++ token ++ bytes "' expected"
  | unclosed token opening line =>
    bytes "'" ++ token ++ bytes "' expected (to close '" ++ opening ++ bytes "' at line " ++
      decimal line ++ bytes ")"
  | parameterExpected => bytes "<name> or '...' expected"
  | argumentsExpected => bytes "function arguments expected"
  | loopExpected => bytes "'=' or 'in' expected"
  | varargOutside => bytes "cannot use '...' outside a vararg function"
  | tooDeep => bytes "chunk has too many syntax levels"
  | tooManyLocals line limit => overLimit line limit "local variables"
  | noLoop => bytes "no loop to break"
  | undefinedLabel name => bytes "undefined label '" ++ name ++ bytes "'"
  | duplicateLabel name => bytes "duplicate label '" ++ name ++ bytes "'"
  | jumpIntoScope label variableName =>
    bytes "<goto " ++ label ++ bytes "> jumps into the scope of local '" ++ variableName ++ bytes "'"
  | incompatibleBytecode => bytes "cannot load incompatible bytecode"
  | malformedBytecode => bytes "cannot load malformed bytecode"

end SyntaxFault

/-- A cause with its line and the lexeme near it, if one is named. -/
structure SyntaxFault where
  cause : SyntaxFault.Cause
  near? : Option Bytes
  line : Nat
  deriving DecidableEq

/-- The text of a fault, without its line; a lexeme is shown up to its first NUL. -/
def SyntaxFault.message (f : SyntaxFault) : Bytes :=
  match f.near? with
  | none => f.cause.text
  | some near => f.cause.text ++ bytes " near '" ++ untilNul near ++ bytes "'"

end Stencil.Lua
