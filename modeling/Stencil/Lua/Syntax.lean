/-
  The syntax of Lua.

  * `Expr`, `Field`, `Function`, `Stmt`: the trees. Variables are resolved: a
    local is an index into the environment, counted from the innermost one;
  * lines stand where a fault at run time names them. The line of a variable or of
    an index that is still to be read is that of the token after which it is read,
    which `Expr.atLine` settles;
  * `Expr.describe?`: how messages name the place a value came from.
-/
import Stencil.Lua.Number
import Stencil.Lua.SyntaxFault

namespace Stencil.Lua

/-- The operators with one operand. -/
inductive UnaryOperator where
  | negate
  | not
  | length
  deriving DecidableEq

/-- The arithmetic operators with two operands. -/
inductive Arithmetic where
  | add
  | sub
  | mul
  | div
  | mod
  | pow
  deriving DecidableEq

/-- The comparisons. -/
inductive Comparison where
  | eq
  | ne
  | lt
  | le
  | gt
  | ge
  deriving DecidableEq

/-- The operators with two operands, both of which are always evaluated. -/
inductive BinaryOperator where
  | arithmetic (op : Arithmetic)
  | comparison (op : Comparison)
  deriving DecidableEq

mutual

/-- An expression. -/
inductive Expr where
  | nil
  | bool (b : Bool)
  | number (n : Number)
  | string (s : Bytes)
  /-- The variable arguments of the function. -/
  | vararg
  /-- A local of the function, or an upvalue, which is a local of an enclosing one. -/
  | localVar (index : Nat) (name : Bytes) (upvalue : Bool)
  | global (name : Bytes) (line : Nat)
  | index (object key : Expr) (line : Nat)
  | call (callee : Expr) (args : List Expr) (line : Nat)
  | methodCall (object : Expr) (name : Bytes) (args : List Expr) (nameLine line : Nat)
  /-- An expression in parentheses, which has one value. -/
  | paren (e : Expr)
  | unary (op : UnaryOperator) (e : Expr) (line : Nat)
  | binary (op : BinaryOperator) (a b : Expr) (line : Nat)
  /-- The operands of a chain of concatenations. -/
  | concat (operands : List Expr) (line : Nat)
  /-- The second operand if the first one is true. -/
  | both (a b : Expr)
  /-- The second operand unless the first one is true. -/
  | either (a b : Expr)
  | function (f : Function)
  | table (fields : List Field)

/-- A field of a table constructor. -/
inductive Field where
  | positional (value : Expr)
  | keyed (key value : Expr) (line : Nat)

/-- A function: its number of parameters, whether it takes variable arguments, its
    body and the line on which it begins. -/
inductive Function where
  | mk (params : Nat) (isVararg : Bool) (body : List Stmt) (line : Nat)

/-- A statement. -/
inductive Stmt where
  /-- Declares a number of locals. -/
  | locals (count : Nat) (values : List Expr)
  /-- Declares a local that its own function sees. -/
  | localFunction (f : Function)
  | assign (targets values : List Expr) (line : Nat)
  | call (e : Expr)
  | block (body : List Stmt)
  | whileLoop (condition : Expr) (body : List Stmt)
  /-- The condition sees the locals of the body. -/
  | repeatLoop (body : List Stmt) (condition : Expr)
  | ifThen (condition : Expr) (yes no : List Stmt)
  | forNumber (start limit : Expr) (step? : Option Expr) (body : List Stmt) (line : Nat)
  | forEach (count : Nat) (values : List Expr) (body : List Stmt) (line : Nat)
  /-- A label at a depth of the environment. -/
  | label (name : Bytes) (depth : Nat)
  | goto (name : Bytes)
  | breakLoop
  | ret (values : List Expr)
  /-- Returns what a call gives, in place of the function. -/
  | tailCall (e : Expr)

end

instance : Inhabited Expr := ⟨.nil⟩

/-- The number of parameters. -/
def Function.params : Function → Nat
  | .mk params _ _ _ => params

/-- Whether the function takes variable arguments. -/
def Function.isVararg : Function → Bool
  | .mk _ isVararg _ _ => isVararg

/-- The statements of a function. -/
def Function.body : Function → List Stmt
  | .mk _ _ body _ => body

/-- The line on which a function begins. -/
def Function.line : Function → Nat
  | .mk _ _ _ line => line

namespace Expr

/-- The expression, its pending read settled on a line. -/
def atLine (line : Nat) : Expr → Expr
  | .global name _ => .global name line
  | .index object key _ => .index object key line
  | .both a b => .both a (b.atLine line)
  | .either a b => .either a (b.atLine line)
  | e => e

/-- The kind of place that a value came from. -/
inductive Place where
  | localVar
  | upvalue
  | global
  | field
  | method
  | metamethod
  deriving DecidableEq

/-- The word for a kind of place. -/
def Place.word : Place → String
  | localVar => "local"
  | upvalue => "upvalue"
  | global => "global"
  | field => "field"
  | method => "method"
  | metamethod => "metamethod"

/-- The place that an expression reads. -/
def describe? : Expr → Option (Place × Bytes)
  | .localVar _ name upvalue => some (if upvalue then .upvalue else .localVar, name)
  | .global name _ => some (.global, name)
  | .index _ (.string name) _ => some (.field, name)
  | .paren e => e.describe?
  | .both _ b => b.describe?
  | .either _ b => b.describe?
  | _ => none

/-- Whether the expression is a call. -/
def isCall : Expr → Bool
  | .call .. => true
  | .methodCall .. => true
  | _ => false

/-- Whether the expression can be assigned to. -/
def isAssignable : Expr → Bool
  | .localVar .. => true
  | .global .. => true
  | .index .. => true
  | _ => false

/-- The call, on another line. -/
def callAt (line : Nat) : Expr → Expr
  | .call callee args _ => .call callee args line
  | .methodCall object name args nameLine _ => .methodCall object name args nameLine line
  | e => e

/-- The concatenation of two operands; a chain on the right is continued. -/
def concatenate (line : Nat) (a : Expr) : Expr → Expr
  | .concat operands inner => .concat (a :: operands) inner
  | .paren (.concat operands inner) => .concat (a :: operands) inner
  | b => .concat [a, b] line

end Expr

end Stencil.Lua
