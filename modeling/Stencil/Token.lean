/-
  Cutting a template into tokens.

      text        literal text
      <# code #>  code of the program
      <#= e #>    an expression whose value is printed
      <#@ d #>    a directive

  A run of backslashes directly before `<#` (outside a tag) or `#>` (inside a
  tag) is halved, rounding up.  After an even run the marker is a boundary;
  after an odd run it is literal text.

  * `Token.scan` is the list of tokens of a text; a token has at least one
    character and carries the position of its first one;
  * `release` halves the run at the end of the held text, `isBoundary` is the
    parity test.
-/
import Stencil.Text

namespace Stencil

/-- A place in a text: a line counted from 1 and a column counted from 0, in
    characters. -/
structure Position where
  line : Nat
  column : Nat
  deriving DecidableEq, Repr, Inhabited

namespace Position

/-- The place of a text's first character. -/
def start : Position := ⟨1, 0⟩

/-- The place after a character. -/
def after (p : Position) (c : Char) : Position :=
  if c = '\n' then ⟨p.line + 1, 0⟩ else ⟨p.line, p.column + 1⟩

/-- The place after `n` characters that are no line feeds. -/
def right (p : Position) (n : Nat) : Position := ⟨p.line, p.column + n⟩

end Position

/-- What a token is. -/
inductive Token.Kind where
  /-- Literal text, outside a tag. -/
  | text
  /-- The inside of `<# #>`. -/
  | code
  /-- The inside of `<#= #>`. -/
  | expression
  /-- The inside of `<#@ #>`. -/
  | directive
  deriving DecidableEq, Repr

/-- A part of a template. -/
structure Token where
  kind : Token.Kind
  /-- The place of the first character of the content. -/
  position : Position
  content : Text
  deriving DecidableEq

namespace Token

/-! ## Escapes

While a token is scanned, the characters held for it are kept last first. -/

/-- The number of backslashes at the end of the held characters. -/
def escapes (held : Text) : Nat := (held.takeWhile (· = '\\')).length

/-- The held characters with half of the final backslashes removed. -/
def release (held : Text) : Text := held.drop (escapes held / 2)

/-- Whether a marker after the held characters begins or ends a tag. -/
def isBoundary (held : Text) : Bool := escapes held % 2 = 0

/-- The token of the held characters, if there are any. -/
def emit (kind : Kind) (start : Position) (held : Text) : List Token :=
  if held.isEmpty then [] else [⟨kind, start, held.reverse⟩]

/-! ## Scanning -/

/-- The tokens of the rest of a text.  The token being scanned has the given
    kind, starts at `start` and holds the characters `held`; `here` is the
    place of the next character. -/
def scanFrom : Kind → Position → Position → Text → Text → List Token
  | kind, start, _, held, [] => emit kind start held
  | .text, start, here, held, '<' :: '#' :: rest =>
    if isBoundary held then
      emit .text start (release held) ++
        match rest with
        | '=' :: inside => scanFrom .expression (here.right 3) (here.right 3) [] inside
        | '@' :: inside => scanFrom .directive (here.right 3) (here.right 3) [] inside
        | inside => scanFrom .code (here.right 2) (here.right 2) [] inside
    else scanFrom .text start (here.right 1) ('<' :: release held) ('#' :: rest)
  | .text, start, here, held, c :: rest =>
    scanFrom .text start (here.after c) (c :: held) rest
  | kind, start, here, held, '#' :: '>' :: rest =>
    if isBoundary held then
      emit kind start (release held) ++ scanFrom .text (here.right 2) (here.right 2) [] rest
    else scanFrom kind start (here.right 1) ('#' :: release held) ('>' :: rest)
  | kind, start, here, held, c :: rest =>
    scanFrom kind start (here.after c) (c :: held) rest

/-- The tokens of a text. -/
def scan (t : Text) : List Token := scanFrom .text .start .start [] t

end Token

end Stencil
