/-
  The values of Lua and the functions that are not written in Lua.

  * `Builtin`: the functions of the libraries;
  * `Value`: tables and functions are references into a store;
  * `Value.rawEqual` and `Value.toText?`: equality without metamethods and the text
    of a string or number.
-/
import Stencil.Lua.Number
import Stencil.Lua.SyntaxFault

namespace Stencil.Lua

/-- The functions that are always there. -/
inductive BaseFunction where
  | assert
  | error
  | getmetatable
  | ipairs
  /-- The step of the loop that `ipairs` begins. -/
  | ipairsStep
  | next
  | pairs
  | pcall
  | rawequal
  | rawget
  | rawlen
  | rawset
  | require
  | select
  | setmetatable
  | tonumber
  | tostring
  | type
  | unpack
  | xpcall
  deriving DecidableEq

/-- The functions of the library `string`. -/
inductive StringFunction where
  | byte
  | char
  | find
  | format
  | gmatch
  | gsub
  | len
  | lower
  | match
  | rep
  | reverse
  | sub
  | upper
  deriving DecidableEq

/-- The functions of the library `table`. -/
inductive TableFunction where
  | concat
  | foreach
  | foreachi
  | getn
  | insert
  | maxn
  | move
  | pack
  | remove
  | sort
  deriving DecidableEq

/-- The functions of the library `math`. -/
inductive MathFunction where
  | abs
  | acos
  | asin
  | atan
  | atan2
  | ceil
  | cos
  | cosh
  | deg
  | exp
  | floor
  | fmod
  | frexp
  | ldexp
  | log
  | log10
  | max
  | min
  | modf
  | pow
  | rad
  | sin
  | sinh
  | sqrt
  | tan
  | tanh
  deriving DecidableEq

/-- The functions of the library `bit`. -/
inductive BitFunction where
  | arshift
  | band
  | bnot
  | bor
  | bswap
  | bxor
  | lshift
  | rol
  | ror
  | rshift
  | tobit
  | tohex
  deriving DecidableEq

/-- A function that is not written in Lua. -/
inductive Builtin where
  | base (f : BaseFunction)
  | string (f : StringFunction)
  | table (f : TableFunction)
  | math (f : MathFunction)
  | bit (f : BitFunction)
  | setlocale
  /-- A function that reaches outside of the program; a call of it does not end. -/
  | outside (name : String)
  deriving DecidableEq

/-- A value. -/
inductive Value where
  | nil
  | bool (b : Bool)
  | number (n : Number)
  | string (s : Bytes)
  /-- A table, by its place in the store. -/
  | table (id : Nat)
  /-- A function that belongs to the program, by its place in the store. -/
  | function (id : Nat)
  | builtin (f : Builtin)

namespace Value

instance : Inhabited Value := ⟨.nil⟩

/-- The value of a text given as a string. -/
def ofString (s : String) : Value := .string (bytes s)

/-- The value of an integer. -/
def ofInt (n : Int) : Value := .number (.ofInt n)

/-- The value of a natural number. -/
def ofNat (n : Nat) : Value := .number (.ofNat n)

/-- Every value but `nil` and `false` is true. -/
def isTrue : Value → Bool
  | nil => false
  | bool b => b
  | _ => true

/-- Whether the value is `nil`. -/
def isNil : Value → Bool
  | nil => true
  | _ => false

/-- The name of the type. -/
def typeName : Value → String
  | nil => "nil"
  | bool _ => "boolean"
  | number _ => "number"
  | string _ => "string"
  | table _ => "table"
  | function _ => "function"
  | builtin _ => "function"

/-- Equality without metamethods. -/
def rawEqual : Value → Value → Bool
  | nil, nil => true
  | bool a, bool b => a == b
  | number a, number b => a.eq b
  | string a, string b => a == b
  | table a, table b => a == b
  | function a, function b => a == b
  | builtin a, builtin b => a == b
  | _, _ => false

/-- The text of a string or a number. -/
def toText? : Value → Option Bytes
  | string s => some s
  | number n => some (Text.Utf8.encode n.write)
  | _ => none

/-- The number of a number or a numeral. -/
def toNumber? : Value → Option Number
  | number n => some n
  | string s => Number.read? s
  | _ => none

end Value

end Stencil.Lua
