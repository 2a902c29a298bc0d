/-
  Text as a double-quoted Lua string.

  * `quote` writes a text so that it stands between two double quotes: the
    backslash and the quote are escaped, line breaks and tabs have their short
    escapes, every other ASCII control character has three decimal digits.
-/
import Stencil.Text

namespace Stencil.Lua

/-- An ASCII control character. -/
def isControl (c : Char) : Bool := c.toNat < 32 || c.toNat == 127

/-- A number below 1000 in three decimal digits. -/
def threeDigits (n : Nat) : Text :=
  [Nat.digitChar (n / 100 % 10), Nat.digitChar (n / 10 % 10), Nat.digitChar (n % 10)]

/-- One character of a quoted string. -/
def quoteChar (c : Char) : Text :=
  if c = '\\' then ['\\', '\\']
  else if c = '"' then ['\\', '"']
  else if c = '\n' then ['\\', 'n']
  else if c = '\r' then ['\\', 'r']
  else if c = '\t' then ['\\', 't']
  else if isControl c then '\\' :: threeDigits c.toNat
  else [c]

/-- The inside of the double-quoted string of a text. -/
def quote (t : Text) : Text := t.flatMap quoteChar

end Stencil.Lua
