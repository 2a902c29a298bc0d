/-
  The environment of a program: what its globals hold at the start.

  * `Locales`: what the machine answers to requests for a locale, a parameter of every run;
  * `Builtin.run`: what a builtin does;
  * `environment`: the store with the functions that are always there and the
    libraries that are linked. Each of these is a global, and can be required.
-/
import Stencil.Library
import Stencil.Lua.Builtin.Base
import Stencil.Lua.Builtin.Numbers
import Stencil.Lua.Builtin.Strings
import Stencil.Lua.Builtin.Tables

namespace Stencil.Lua

open Eval

/-! ## Locales -/

/-- The categories of a locale. -/
def localeCategories : List Bytes :=
  ["all", "collate", "ctype", "monetary", "numeric", "time"].map bytes

/-- The locales of the machine that a program runs on.  An answer may depend on the requests that
    were granted before. -/
class Locales where
  /-- The locale of a category after a request for a name, or the current one if no name is given;
      nothing if there is no locale of the name. -/
  answer? (granted : List (Bytes × Bytes)) (category : Bytes) (name? : Option Bytes) : Option Bytes
  /-- The locale `C` is always there. -/
  knows_c (granted : List (Bytes × Bytes)) : ∀ category ∈ localeCategories,
    (answer? granted category (some (bytes "C"))).isSome
  /-- There is always a current locale. -/
  knows_current (granted : List (Bytes × Bytes)) : ∀ category ∈ localeCategories,
    (answer? granted category none).isSome

namespace Locales

/-- A machine with one locale, which has the names `C` and `POSIX` and is the default one. -/
@[reducible] def single : Locales where
  answer? _ _ name? :=
    if name?.all fun name => name.isEmpty || name == bytes "C" || name == bytes "POSIX" then
      some (bytes "C")
    else none
  knows_c _ _ _ := rfl
  knows_current _ _ _ := rfl

variable [Locales]

/-- The granted requests after one more. -/
def grant (granted : List (Bytes × Bytes)) (category : Bytes) (name? : Option Bytes) :
    List (Bytes × Bytes) :=
  match name?, answer? granted category name? with
  | some name, some _ => (category, name) :: granted
  | _, _ => granted

end Locales

section

variable [Locales]

/-- Asks for a locale of a category, or for the current one. -/
def askLocale (category : Bytes) (name? : Option Bytes) : Eval (Option Bytes) :=
  modifyGet fun s => (Locales.answer? s.granted category name?,
    { s with granted := Locales.grant s.granted category name? })

/-- Asks for a locale or for the current one. -/
def runSetlocale (i : Invocation) : Eval (List Value) := do
  let name? ← i.text? 1
  let category := untilNul ((← i.text? 2).getD (bytes "all"))
  if !localeCategories.contains category then
    i.badArgument 2 (bytes "invalid option '" ++ category ++ bytes "'")
  else return [(← askLocale category (name?.map untilNul)).elim .nil .string]

/-- What a builtin does. -/
def Builtin.run (i : Invocation) : Builtin → Eval (List Value)
  | .base f => f.run i
  | .string f => f.run i
  | .table f => f.run i
  | .math f => f.run i
  | .bit f => f.run i
  | .setlocale => runSetlocale i
  | .outside _ => throw .unfinished

end

/-! ## Libraries -/

/-- Functions that reach outside of the program. -/
def outside (names : List String) : List (String × Value) :=
  names.map fun n => (n, .builtin (.outside n))

/-- The globals that are always there. -/
def baseEntries : List (String × Value) :=
  BaseFunction.all.map (fun f => (f.name, .builtin (.base f))) ++
    outside ["collectgarbage", "dofile", "gcinfo", "getfenv", "load", "loadfile", "loadstring",
      "newproxy", "print", "setfenv"] ++
    [("_G", .table Store.globals), ("_VERSION", .ofString "Lua 5.1")]

/-- What a library holds. -/
def libraryEntries : Library → List (String × Value)
  | .coroutine =>
    outside ["create", "isyieldable", "resume", "running", "status", "wrap", "yield"]
  | .table =>
    TableFunction.all.map (fun f => (f.name, .builtin (.table f))) ++
      [("unpack", .builtin (.base .unpack))]
  | .io =>
    outside ["close", "flush", "input", "lines", "open", "output", "popen", "read", "tmpfile",
      "type", "write"]
  | .os =>
    ("setlocale", .builtin .setlocale) ::
      outside ["clock", "date", "difftime", "execute", "exit", "getenv", "remove", "rename",
        "time", "tmpname"]
  | .string =>
    StringFunction.all.map (fun f => (f.name, .builtin (.string f))) ++ outside ["dump"]
  | .math =>
    MathFunction.all.map (fun f => (f.name, .builtin (.math f))) ++
      [("huge", .number (.real (1.0 / 0.0))), ("pi", .number (.real MathFunction.pi))] ++
      outside ["random", "randomseed"]
  | .package =>
    [("loaded", .table Store.loaded), ("config", .ofString "/\n;\n?\n!\n-\n")] ++
      outside ["loadlib", "searchpath", "seeall"]
  | .bit => BitFunction.all.map fun f => (f.name, .builtin (.bit f))
  | .jit =>
    [("version", .ofString "LuaJIT 2.1"), ("arch", .ofString "x64"), ("os", .ofString "Linux")] ++
      outside ["attach", "flush", "off", "on", "security", "status"]

/-- A table of entries. -/
def tableOf (entries : List (String × Value)) : Table :=
  entries.foldl (fun t (name, v) => t.setText name v) .empty

/-- Adds a global that can be required. -/
def provide (name : String) (v : Value) : Eval Unit := do
  modifyTable Store.globals (·.setText name v)
  modifyTable Store.loaded (·.setText name v)

/-- Links a library. -/
def link (library : Library) : Eval Unit := do
  let v ← newTable (tableOf (libraryEntries library))
  provide (String.ofList library.name) v
  match library with
  | .string => modifyTable Store.stringMetatable (·.setText "__index" v)
  | .package =>
    modifyTable Store.globals fun t =>
      (t.setText "require" (.builtin (.base .require))).setText "module"
        (.builtin (.outside "module"))
  | _ => pure ()

/-- The bits by which the flags of a state ask for libraries. -/
def libraryBit : Library → BitVec 32
  | .coroutine => 0#32
  | .table => 1#32 <<< 1
  | .io => 1#32 <<< 2
  | .os => 1#32 <<< 3
  | .string => 1#32 <<< 4
  | .bit => 1#32 <<< 6
  | .math => 1#32 <<< 7
  | .package => 1#32 <<< 8
  | .jit => 1#32 <<< 9

/-- Fills the globals: functions that are always there, coroutines, and the libraries
    that the flags ask for. -/
def populate (flags : BitVec 32) : Eval Unit := do
  modifyTable Store.globals fun _ => tableOf baseEntries
  modifyTable Store.loaded (·.setText "_G" (.table Store.globals))
  link .coroutine
  (Library.asked libraryBit flags).forM link

/-- The store at the start of a program. -/
def environment (libraries : Libraries) : Store :=
  match populate (libraries.flags libraryBit) Store.initial with
  | .ok _ store => store
  | .error _ store => store

end Stencil.Lua
