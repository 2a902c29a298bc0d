/-
  Finding the templates and include files of a project.

  * `Node.walk` lists the files at and below a node, the entries of a directory in
    the order of their names; hidden directories and directories to skip are left
    out with all that they hold, and links are not followed;
  * `discover` walks from a root and sorts the files by their extensions;
  * a `Project` is what was found, `Project.lookup` its include files as they can be
    read from a tree.
-/
import Stencil.FileTree
import Stencil.Log
import Stencil.Source

namespace Stencil

/-! ## Walking -/

namespace Node

/-- Whether the name of a directory hides it: it is UTF-8 and begins with a dot. -/
def isHidden (name : Bytes) : Bool :=
  (Text.Utf8.decode? name).any fun written => written.head? == some '.'

/-- Whether a directory is left out: it is hidden or to be skipped. -/
def isPruned (skip : List Path) (path : Path) (name : Bytes) (node : Node) : Bool :=
  node.isDirectory && (isHidden name || skip.any path.same)

mutual

/-- The files at and below the node of a path. -/
def walk (skip : List Path) (path : Path) : Node → List Path
  | file _ => [path]
  | link _ => []
  | directory entries =>
    ((walkEach skip path entries).mergeSort fun a b => Bytes.notAfter a.1 b.1).flatMap Prod.snd

/-- The files at and below each entry, with the name of the entry. -/
def walkEach (skip : List Path) (path : Path) : List (Bytes × Node) → List (Bytes × List Path)
  | [] => []
  | (name, node) :: rest =>
    (name, if isPruned skip (path.join ⟨name⟩) name node then [] else walk skip (path.join ⟨name⟩) node) ::
      walkEach skip path rest

end

end Node

/-! ## Projects -/

namespace Discovery

/-- What to look for. -/
structure Criteria where
  templateExtension : Text
  includeExtension : Text
  /-- Directories to leave out. -/
  skip : List Path

/-- Whether two texts are equal but for the case of ASCII letters. -/
def sameLetters (a b : Text) : Bool := a.map Char.toLower == b.map Char.toLower

/-- Whether a path has an extension, the case of ASCII letters aside. -/
def hasExtension (extension : Text) (p : Path) : Bool := p.extension?.any (sameLetters extension)

end Discovery

/-- The files of a project, in the order in which they were found. -/
structure Project where
  templates : List Path
  includes : List Path
  /-- Roots that could not be walked. -/
  unreadable : List (Path × FileFault)

namespace Project

open Discovery

/-- No files. -/
def empty : Project := ⟨[], [], []⟩

/-- The files of two projects, those of the first one first. -/
def append (a b : Project) : Project :=
  ⟨a.templates ++ b.templates, a.includes ++ b.includes, a.unreadable ++ b.unreadable⟩

/-- Sorts files by their extensions. A file that is a template is no include file. -/
def ofFiles (c : Criteria) (files : List Path) : Project where
  templates := files.filter (hasExtension c.templateExtension)
  includes := files.filter fun p =>
    !hasExtension c.templateExtension p && hasExtension c.includeExtension p
  unreadable := []

/-- A source whose text is read from a tree. -/
def source (tree : FileTree) (p : Path) : Source :=
  ⟨p, match tree.readText p with
    | .ok text => .ok text
    | .error .notFound => .error .notFound
    | .error fault => .error (.failed fault.message)⟩

/-- The include files, with the texts that they have in a tree. -/
def lookup (tree : FileTree) (p : Project) : Lookup := Lookup.ofList (p.includes.map (source tree))

/-- The log events of the roots that could not be walked. -/
def events (p : Project) : List Log.Event :=
  p.unreadable.map fun (root, fault) =>
    ⟨.warn, "sgtt::discover".toList, "skipping unreadable entry: IO error for operation on ".toList ++
      root.text ++ ": ".toList ++ fault.message, []⟩

end Project

namespace Discovery

/-- The project with nothing but a root that cannot be walked. -/
def unreadable (root : Path) (fault : FileFault) : Project := ⟨[], [], [(root, fault)]⟩

/-- Finds the files at and below a root. A root that is a link to a directory is walked
    like the directory. -/
def discover (tree : FileTree) (c : Criteria) (root : Path) : Project :=
  match tree.resolve false root with
  | .error fault => unreadable root fault
  | .ok (.free _) => unreadable root .notFound
  | .ok (.found _ (.link _)) =>
    match tree.resolve true root with
    | .error fault => unreadable root fault
    | .ok (.free _) => unreadable root .notFound
    | .ok (.found _ (.directory entries)) => .ofFiles c ((Node.directory entries).walk c.skip root)
    | .ok (.found _ _) => .empty
  | .ok (.found _ node) => .ofFiles c (node.walk c.skip root)

/-- Finds the files at and below some roots, one after the other. -/
def discoverAll (tree : FileTree) (c : Criteria) (roots : List Path) : Project :=
  (roots.map (discover tree c)).foldl Project.append .empty

end Discovery

end Stencil
