/-
  Sources: files whose text may or may not be available, and the include files
  that a template may ask for by name.

  * a `Source` is a path with its text, or with the reason why there is none;
  * a `Lookup` holds sources in the order of their insertion; a source without
    a file name, or with one that is not UTF-8, is not kept (`insert`);
  * `candidates` are the sources of one file name.
-/
import Stencil.Path

namespace Stencil

/-- Why the text of a source cannot be read. -/
inductive ReadFailure where
  /-- There is no text for this source. -/
  | missing
  /-- There is no such file. -/
  | notFound
  /-- The file may not be read. -/
  | permissionDenied
  /-- Reading fails for another reason. -/
  | failed (reason : Text)
  deriving DecidableEq

/-- The words for a read failure. -/
def ReadFailure.message : ReadFailure → Text
  | missing => "source text is unavailable".toList
  | notFound => "file not found".toList
  | permissionDenied => "permission denied".toList
  | failed reason => "io error: ".toList ++ reason

/-- A file of a template: its path names it, so two sources of one path are the
    same file. -/
structure Source where
  path : Path
  text : Except ReadFailure Text

/-- The include files that directives can choose from. -/
structure Lookup where
  /-- The kept sources in the order of their insertion. -/
  sources : List Source

namespace Lookup

/-- No include files. -/
def empty : Lookup := ⟨[]⟩

/-- Adds a source, if it has a file name that is UTF-8. -/
def insert (l : Lookup) (s : Source) : Lookup :=
  if s.path.fileName?.isSome then ⟨l.sources ++ [s]⟩ else l

/-- The lookup of sources inserted in order. -/
def ofList (sources : List Source) : Lookup := sources.foldl insert empty

/-- The number of kept sources. -/
def size (l : Lookup) : Nat := l.sources.length

/-- The sources of a file name, in the order of their insertion. -/
def candidates (l : Lookup) (name : Text) : List Source :=
  l.sources.filter fun s => s.path.fileName? == some name

end Lookup

end Stencil
