/-
  JSON values and their text.

  * `compact` writes a value without spaces, `pretty` one member to a line,
    indented by two spaces; an empty list or object stays on its line;
  * members keep their order;
  * in a string only the quote, the backslash and the control characters below
    the space are escaped.
-/
import Stencil.Text

namespace Stencil

/-- A JSON value; all numbers of the tool are natural. -/
inductive Json where
  | bool (b : Bool)
  | number (n : Nat)
  | string (t : Text)
  | array (items : List Json)
  | object (members : List (Text × Json))

namespace Json

/-- One character of a string. -/
def escapeChar (c : Char) : Text :=
  if c = '"' then ['\\', '"']
  else if c = '\\' then ['\\', '\\']
  else if c = '\n' then ['\\', 'n']
  else if c = '\r' then ['\\', 'r']
  else if c = '\t' then ['\\', 't']
  else if c.toNat = 8 then ['\\', 'b']
  else if c.toNat = 12 then ['\\', 'f']
  else if c.toNat < 32 then
    ['\\', 'u', '0', '0', Nat.digitChar (c.toNat / 16), Nat.digitChar (c.toNat % 16)]
  else [c]

/-- A text as a JSON string. -/
def quote (t : Text) : Text := '"' :: t.flatMap escapeChar ++ ['"']

mutual

/-- The value without spaces. -/
def compact : Json → Text
  | bool b => (if b then "true" else "false").toList
  | number n => Text.number n
  | string t => quote t
  | array items => '[' :: compactItems items ++ [']']
  | object members => '\x7b' :: compactMembers members ++ ['\x7d']

/-- The items of a list, separated by commas. -/
def compactItems : List Json → Text
  | [] => []
  | [v] => compact v
  | v :: rest => compact v ++ ',' :: compactItems rest

/-- The members of an object, separated by commas. -/
def compactMembers : List (Text × Json) → Text
  | [] => []
  | [(k, v)] => quote k ++ ':' :: compact v
  | (k, v) :: rest => quote k ++ ':' :: compact v ++ ',' :: compactMembers rest

end

/-- A line break and the indentation of a depth. -/
def newLine (depth : Nat) : Text := '\n' :: List.replicate (2 * depth) ' '

mutual

/-- The value at a depth of indentation. -/
def prettyAt (depth : Nat) : Json → Text
  | bool b => (if b then "true" else "false").toList
  | number n => Text.number n
  | string t => quote t
  | array [] => ['[', ']']
  | array items => '[' :: prettyItems (depth + 1) items ++ newLine depth ++ [']']
  | object [] => ['\x7b', '\x7d']
  | object members => '\x7b' :: prettyMembers (depth + 1) members ++ newLine depth ++ ['\x7d']

/-- The items of a list, each on its line. -/
def prettyItems (depth : Nat) : List Json → Text
  | [] => []
  | [v] => newLine depth ++ prettyAt depth v
  | v :: rest => newLine depth ++ prettyAt depth v ++ ',' :: prettyItems depth rest

/-- The members of an object, each on its line. -/
def prettyMembers (depth : Nat) : List (Text × Json) → Text
  | [] => []
  | [(k, v)] => newLine depth ++ quote k ++ ": ".toList ++ prettyAt depth v
  | (k, v) :: rest =>
    newLine depth ++ quote k ++ ": ".toList ++ prettyAt depth v ++ ',' :: prettyMembers depth rest

end

/-- The value with one member to a line. -/
def pretty (v : Json) : Text := prettyAt 0 v

end Json

end Stencil
