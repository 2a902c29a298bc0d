/-
  The standard libraries that a program is linked with.

  * `Library` are the known libraries, `Library.all` lists them in link order;
  * `Libraries.ofNames` checks requested names and adds the libraries that
    every program needs; the result is in link order, each library once;
  * `Libraries.flags` are the flags of a state with the libraries, given those
    of the runtime.
-/
import Stencil.Text

namespace Stencil

/-- A standard library of Lua. -/
inductive Library where
  | coroutine
  | table
  | io
  | os
  | string
  | math
  | package
  | bit
  | jit
  deriving DecidableEq, Repr

namespace Library

/-- The known libraries in link order. -/
def all : List Library := [coroutine, table, io, os, string, math, package, bit, jit]

theorem mem_all (l : Library) : l ∈ all := by cases l <;> decide

/-- The name of a library. -/
def name : Library → Text
  | coroutine => "coroutine".toList
  | table => "table".toList
  | io => "io".toList
  | os => "os".toList
  | string => "string".toList
  | math => "math".toList
  | package => "package".toList
  | bit => "bit".toList
  | jit => "jit".toList

/-- The library of a name. -/
def ofName? (n : Text) : Option Library := all.find? fun l => l.name = n

/-- The libraries that every program needs. -/
def needed : List Library := [table, io, os, string, package]

/-- The flag that asks a state for a library. Flags are up to the runtime; coroutines
    are a part of its base and have none. -/
def flag {w : Nat} (runtime : Library → BitVec w) : Library → BitVec w
  | coroutine => 0#w
  | l => runtime l

/-- The libraries that flags ask a state for. -/
def asked {w : Nat} (runtime : Library → BitVec w) (flags : BitVec w) : List Library :=
  all.filter fun l => l.flag runtime &&& flags ≠ 0#w

end Library

/-- A name that is no library's, without the blanks around it. -/
structure UnknownLibrary where
  name : Text
  deriving DecidableEq

/-- The words for an unknown library. -/
def UnknownLibrary.message (e : UnknownLibrary) : Text :=
  "unknown library '".toList ++ e.name ++ "' (known: ".toList ++
    Text.join ", ".toList (Library.all.map Library.name) ++ [')']

/-- The libraries of a program, in link order. -/
structure Libraries where
  members : List Library
  deriving DecidableEq

namespace Libraries

/-- The requested libraries and the needed ones, in link order. -/
def ofRequested (requested : List Library) : Libraries :=
  ⟨Library.all.filter fun l => l ∈ Library.needed ∨ l ∈ requested⟩

/-- The library of a requested name; blanks around the name do not count. -/
def request (n : Text) : Except UnknownLibrary Library :=
  match Library.ofName? (Text.trim n) with
  | some l => .ok l
  | none => .error ⟨Text.trim n⟩

/-- The libraries of requested names, or the first name that is unknown. -/
def ofNames (names : List Text) : Except UnknownLibrary Libraries :=
  (names.mapM request).map ofRequested

/-- The libraries of a program when nothing is requested. -/
def standard : Libraries := ofRequested [.math]

/-- The names of the libraries. -/
def names (l : Libraries) : List Text := l.members.map Library.name

/-- Whether a library is linked. -/
def contains (l : Libraries) (lib : Library) : Bool := l.members.contains lib

/-- The flags of a state with the libraries. -/
def flags {w : Nat} (runtime : Library → BitVec w) (l : Libraries) : BitVec w :=
  (Library.all.filter l.contains).foldl (fun flags lib => flags ||| lib.flag runtime) 0#w

/-- The entries of the list of libraries that may follow an output. -/
def entries (l : Libraries) (runtime : Text) : List Text :=
  l.names.map fun n => runtime ++ ' ' :: n

end Libraries

end Stencil
