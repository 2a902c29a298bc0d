/-
  Directives: what stands between `<#@` and `#>`.

      <#@ import namespace="a.b" #>          binds the module a.b to the name b
      <#@ include file="x" once="true" #>    puts the file x here, at most once
      <#@ AppendReferenceAssemblies #>       asks for the list of libraries
      <#@ AppendGeneraterSource #>           asks for the program's listing

  The first word may carry the main attribute itself: `include="x"` stands for
  `include file="x"`, and `include="k=x"` for `include k="x"`.

  * `split?` finds the first word and the attributes and undoes the shorthand;
  * `moduleParts?` and `includeArguments?` read the attributes;
  * `read` is the directive of a content, or the cause why it is none.
-/
import Stencil.Text

namespace Stencil

/-- A directive that can be carried out. -/
inductive Directive where
  /-- Bind a module to a name, the last part of its path. -/
  | importModule (module binding : Text)
  /-- Put a file in this place; with `once`, only if no earlier directive chose it. -/
  | includeFile (file : Text) (once : Bool)
  /-- List the linked libraries after the output. -/
  | appendLibraries
  /-- List the program after the output. -/
  | appendProgram
  deriving DecidableEq

namespace Directive

/-- Why a content is no directive. -/
inductive Fault where
  /-- There is no first word, or no directive has that name. -/
  | unknown
  /-- The attributes of an `import` are malformed. -/
  | badImport
  /-- The attributes of an `include` are malformed. -/
  | badInclude
  deriving DecidableEq

/-! ## The first word and the attributes -/

/-- The attribute that a directive's shorthand stands for. -/
def mainAttribute (name : Text) : Text :=
  if name = "import".toList then "namespace".toList else "file".toList

/-- The text between two quotes. -/
def unquoted? (value : Text) : Option Text :=
  (Text.stripStart? ['"'] value).bind (Text.stripEnd? ['"'])

/-- An attribute in its long form. -/
def longForm (key value : Text) : Text := key ++ "=\"".toList ++ value ++ ['"']

/-- The attribute that the value after a shorthand's `=` stands for. -/
def expandShorthand (name value : Text) : Text :=
  match unquoted? value with
  | none => value
  | some inner => match Text.splitAt? (· = '=') inner with
    | some (key, v) => longForm key v
    | none => longForm (mainAttribute name) inner

/-- The name of a directive and the text of its attributes; nothing for a
    blank content. -/
def split? (content : Text) : Option (Text × Text) :=
  let body := Text.trimStart content
  if body.isEmpty then none
  else
    let (word, rest) := (Text.splitAt? Text.isBlank body).getD (body, [])
    let rest := Text.trim rest
    match Text.splitAt? (· = '=') word with
    | none => some (word, rest)
    | some (name, value) =>
      let first := expandShorthand name value
      some (name, if rest.isEmpty then first else first ++ ' ' :: rest)

/-! ## Module names -/

/-- The words that cannot name a variable of a program. -/
def reserved : List Text :=
  ["and", "break", "do", "else", "elseif", "end", "false", "for", "function", "goto", "if",
    "in", "local", "nil", "not", "or", "repeat", "return", "then", "true", "until",
    "while"].map String.toList

/-- An ASCII letter or an underscore. -/
def isNameStart (c : Char) : Bool := c.isAlpha || c == '_'

/-- An ASCII letter, a decimal digit or an underscore. -/
def isNameRest (c : Char) : Bool := c.isAlphanum || c == '_'

/-- Whether the text can name a variable of a program. -/
def isIdentifier : Text → Bool
  | [] => false
  | c :: rest => isNameStart c && rest.all isNameRest && !reserved.contains (c :: rest)

/-- The text without the spaces at its ends; other blank characters stay. -/
def trimSpaces (t : Text) : Text :=
  ((t.dropWhile (· = ' ')).reverse.dropWhile (· = ' ')).reverse

/-- The module path of an import's attributes, as its dot-separated parts. -/
def moduleParts? (arguments : Text) : Option (List Text) :=
  match (Text.stripStart? "namespace=\"".toList arguments).bind (Text.stripEnd? ['"']) with
  | none => none
  | some name =>
    let parts := Text.splitOn '.' (trimSpaces name)
    if parts.all isIdentifier then some parts else none

/-! ## Include arguments -/

/-- The file name and the once flag of an include's attributes. -/
def includeArguments? (arguments : Text) : Option (Text × Bool) :=
  match (Text.stripStart? "file=\"".toList arguments).bind (Text.splitAt? (· = '"')) with
  | none => none
  | some (file, rest) =>
    if file.isEmpty then none
    else if rest.all Text.isBlank then some (file, false)
    else match Text.stripStart? "once=\"true\"".toList (Text.trimStart rest) with
      | none => none
      | some final =>
        if rest.head?.any Text.isBlank && final.all Text.isBlank then some (file, true) else none

/-! ## Reading -/

/-- The directive of a content. -/
def read (content : Text) : Except Fault Directive :=
  match split? content with
  | none => .error .unknown
  | some (name, arguments) =>
    if name = "import".toList then
      match moduleParts? arguments with
      | some parts => .ok (.importModule (Text.join ['.'] parts) (parts.getLast?.getD []))
      | none => .error .badImport
    else if name = "include".toList then
      match includeArguments? arguments with
      | some (file, once) => .ok (.includeFile file once)
      | none => .error .badInclude
    else if name = "AppendReferenceAssemblies".toList then .ok .appendLibraries
    else if name = "AppendGeneraterSource".toList then .ok .appendProgram
    else .error .unknown

end Directive

end Stencil
