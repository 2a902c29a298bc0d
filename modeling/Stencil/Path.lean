/-
  Paths of files and directories.  A path is a string of bytes, as it was built,
  which need not be UTF-8; two paths are the same when their components are.

  * `text` is the path as it is printed, with U+FFFD for what is not UTF-8;
  * `components` cuts at slashes, drops empty parts and every `.` but one that
    begins a relative path; `..` is kept;
  * `name?` is a last component that is a name; `fileName?` and `extension?` are
    the name and what stands behind its last dot, where these are UTF-8, and
    `shownName?` and `stem?` are the name and what stands before the dot, as they
    are printed;
  * `parent?` is what stands before the last component;
  * `join` puts a relative path behind another path.
-/
import Stencil.Text.Utf8

namespace Stencil

/-- A path, as it was built. -/
structure Path where
  /-- The bytes of the path. -/
  bytes : Bytes
  deriving DecidableEq, Inhabited

namespace Path

/-- The byte that separates the parts of a path. -/
abbrev slash : UInt8 := 0x2F

/-- The byte that stands before an extension, and begins the name of a hidden directory. -/
abbrev dot : UInt8 := 0x2E

@[simp] theorem dot_ne_slash : dot ≠ slash := by decide

/-- The path, as it is printed. -/
def text (p : Path) : Text := Text.Utf8.decodeLossy p.bytes

/-- Whether the path is UTF-8. -/
def isText (p : Path) : Bool := (Text.Utf8.decode? p.bytes).isSome

/-- One step of a path. -/
inductive Component where
  /-- The start of an absolute path. -/
  | root
  /-- A `.` at the start of a relative path. -/
  | here
  /-- `..` -/
  | up
  /-- A name. -/
  | name (name : Bytes)
  deriving DecidableEq

/-- The component that a part between slashes stands for; an empty part and a
    `.` stand for none. -/
def component? (part : Bytes) : Option Component :=
  if part = [] ∨ part = [dot] then none
  else if part = [dot, dot] then some .up
  else some (.name part)

/-- Whether the path starts at the root of the file system. -/
def isAbsolute (p : Path) : Bool := p.bytes.head? == some slash

/-- The steps of the path. -/
def components (p : Path) : List Component :=
  let parts := Text.splitOn slash p.bytes
  let first : List Component :=
    if p.isAbsolute then [.root] else if parts.head? = some [dot] then [.here] else []
  first ++ parts.filterMap component?

/-- Two paths are the same when they have the same components. -/
def same (p q : Path) : Bool := p.components == q.components

theorem same_iff {p q : Path} : p.same q = true ↔ p.components = q.components := beq_iff_eq

/-! ## The last component -/

/-- The last component, if it is a name. -/
def name? (p : Path) : Option Bytes :=
  match p.components.getLast? with
  | some (.name n) => some n
  | _ => none

/-- A name cut at its last dot; a name that has no dot after its first byte has no
    extension. -/
def cutName (n : Bytes) : Bytes × Option Bytes :=
  let after := n.reverse.takeWhile (· ≠ dot)
  let before := (n.reverse.dropWhile (· ≠ dot)).drop 1
  if after.length = n.length ∨ before = [] then (n, none) else (before.reverse, some after.reverse)

/-- The file name, if it is UTF-8. -/
def fileName? (p : Path) : Option Text := p.name?.bind Text.Utf8.decode?

/-- The part of the file name after its last dot, if it is UTF-8. -/
def extension? (p : Path) : Option Text :=
  p.name?.bind fun n => (cutName n).2.bind Text.Utf8.decode?

/-- The file name, as it is printed. -/
def shownName? (p : Path) : Option Text := p.name?.map Text.Utf8.decodeLossy

/-- The file name without its extension, as it is printed. -/
def stem? (p : Path) : Option Text := p.name?.map fun n => Text.Utf8.decodeLossy (cutName n).1

/-! ## Parents -/

/-- The parts of a path without those at the end that stand for no component. -/
def trimParts (parts : List Bytes) : List Bytes :=
  (parts.reverse.dropWhile fun part => (component? part).isNone).reverse

/-- The path without its last component, which must not be the root. -/
def parent? (p : Path) : Option Path :=
  let lead := if p.isAbsolute || (Text.splitOn slash p.bytes).head? == some [dot] then 1 else 0
  let parts := trimParts (Text.splitOn slash (p.bytes.drop lead))
  if parts.isEmpty then if p.bytes.head? = some dot then some ⟨[]⟩ else none
  else some ⟨p.bytes.take lead ++ Text.join [slash] (trimParts parts.dropLast)⟩

/-! ## Building paths -/

/-- `q` seen from `p`: `q` itself when it is absolute, else `p`, a slash unless
    `p` is empty or ends with one, and `q`. -/
def join (p q : Path) : Path :=
  if q.isAbsolute then q
  else if p.bytes = [] ∨ p.bytes.getLast? = some slash then ⟨p.bytes ++ q.bytes⟩
  else ⟨p.bytes ++ slash :: q.bytes⟩

end Path

end Stencil
