/-
  Trees of files, directories and symbolic links, with a current directory.

  * a `Place` names a node by the way down from the top, a `Path` by steps from the
    current directory, along which links are followed;
  * `Node.at?` finds and `Node.put` changes the node of a place;
  * `FileTree.resolve` finds what a path leads to: a node, or a free name in a
    directory that exists;
  * `read`, `readText` and `write` are the operations on whole files, `changes` are
    the files in which a later tree differs.
-/
import Stencil.Path

namespace Stencil

/-- What a tree holds at a place. -/
inductive Node where
  | file (bytes : Bytes)
  /-- A symbolic link; its target is seen from the directory that holds it. -/
  | link (target : Path)
  | directory (entries : List (Bytes × Node))
  deriving Inhabited

/-- The names that lead from the top to a node. -/
abbrev Place := List Bytes

/-- Why an operation on files fails. -/
inductive FileFault where
  | notFound
  | alreadyExists
  | notDirectory
  | isDirectory
  | nameTooLong
  | tooManyLinks
  /-- A path holds a NUL. -/
  | nulInPath
  /-- The bytes of a file are not UTF-8. -/
  | notText
  deriving DecidableEq, Repr

/-- The words for a fault. -/
def FileFault.message : FileFault → Text
  | notFound => "No such file or directory (os error 2)".toList
  | alreadyExists => "File exists (os error 17)".toList
  | notDirectory => "Not a directory (os error 20)".toList
  | isDirectory => "Is a directory (os error 21)".toList
  | nameTooLong => "File name too long (os error 36)".toList
  | tooManyLinks => "Too many levels of symbolic links (os error 40)".toList
  | nulInPath => "file name contained an unexpected NUL byte".toList
  | notText => "stream did not contain valid UTF-8".toList

namespace Node

/-! ## Nodes and places -/

/-- Whether the node is a directory. -/
def isDirectory : Node → Bool
  | directory _ => true
  | _ => false

/-- The entry of a name in a directory. -/
def entry? (name : Bytes) : Node → Option Node
  | directory entries => (entries.find? fun e => e.1 == name).map Prod.snd
  | _ => none

/-- The node of a place. -/
def at? : Place → Node → Option Node
  | [], node => some node
  | name :: rest, node => (node.entry? name).bind (at? rest)

/-- The entries with a node for a name, in the place of an earlier one. -/
def setEntry (name : Bytes) (node : Node) : List (Bytes × Node) → List (Bytes × Node)
  | [] => [(name, node)]
  | (other, old) :: rest =>
    if other = name then (name, node) :: rest else (other, old) :: setEntry name node rest

/-- The entries of a directory; other nodes have none. -/
def entries : Node → List (Bytes × Node)
  | directory entries => entries
  | _ => []

/-- The tree with a new node at a place; directories that are missing on the way are
    made. -/
def put (old : Node) : Place → Node → Node
  | [], new => new
  | name :: rest, new =>
    directory (setEntry name (put ((old.entry? name).getD (directory [])) rest new) old.entries)

mutual

/-- The regular files at and below a node, by their places. -/
def files : Node → List (Place × Bytes)
  | file bytes => [([], bytes)]
  | link _ => []
  | directory entries => filesOf entries

/-- The regular files of some entries. -/
def filesOf : List (Bytes × Node) → List (Place × Bytes)
  | [] => []
  | (name, node) :: rest =>
    (files node).map (fun (place, bytes) => (name :: place, bytes)) ++ filesOf rest

end

end Node

/-! ## Steps of a path -/

/-- One step along a path. -/
inductive Path.Step where
  /-- To the top. -/
  | top
  /-- Nowhere, from a directory. -/
  | stay
  /-- To the directory above. -/
  | up
  /-- To an entry of a directory. -/
  | down (name : Bytes)
  deriving DecidableEq

/-- The step that a part between slashes stands for. -/
def Path.step? (part : Bytes) : Option Path.Step :=
  if part = [] then none
  else if part = [dot] then some .stay
  else if part = [dot, dot] then some .up
  else some (.down part)

/-- The steps along a path; a slash at the end asks for a directory. -/
def Path.steps (p : Path) : List Path.Step :=
  (if p.isAbsolute then [.top] else []) ++ (Text.splitOn slash p.bytes).filterMap Path.step? ++
    if p.bytes.getLast? = some slash then [.stay] else []

/-! ## Trees -/

/-- A tree with a current directory. -/
structure FileTree where
  /-- The top directory. -/
  top : Node
  /-- The current directory. -/
  here : Place

namespace FileTree

/-- What a path leads to. -/
inductive Target where
  /-- A node. -/
  | found (place : Place) (node : Node)
  /-- A free name in a directory. -/
  | free (place : Place)

/-- The number of links that may be followed on one way. -/
def linkLimit : Nat := 40

/-- The number of bytes that a name may have. -/
def nameLimit : Nat := 255

/-- The number of bytes below which the length of a path must stay. -/
def pathLimit : Nat := 4096

/-- Follows steps from a place. A link is followed, the last one only with
    `followLast`, and uses up one of `links`. -/
def follow (top : Node) (followLast : Bool) (links : Nat) (place : Place)
    (steps : List Path.Step) : Except FileFault Target :=
  match steps with
  | [] =>
    match top.at? place with
    | some node => .ok (.found place node)
    | none => .error .notFound
  | .top :: rest => follow top followLast links [] rest
  | .stay :: rest =>
    if (top.at? place).any Node.isDirectory then follow top followLast links place rest
    else .error .notDirectory
  | .up :: rest =>
    if (top.at? place).any Node.isDirectory then follow top followLast links place.dropLast rest
    else .error .notDirectory
  | .down name :: rest =>
    if !(top.at? place).any Node.isDirectory then .error .notDirectory
    else if nameLimit < name.length then .error .nameTooLong
    else
      match top.at? (place ++ [name]) with
      | none => if rest.isEmpty then .ok (.free (place ++ [name])) else .error .notFound
      | some (.link target) =>
        if rest.isEmpty && !followLast then .ok (.found (place ++ [name]) (.link target))
        else
          match links with
          | 0 => .error .tooManyLinks
          | links + 1 => follow top followLast links place (target.steps ++ rest)
      | some _ => follow top followLast links (place ++ [name]) rest
termination_by (links, steps.length)

/-- What a path leads to, the last link followed if `followLast`. -/
def resolve (tree : FileTree) (followLast : Bool) (p : Path) : Except FileFault Target :=
  if p.bytes.contains 0 then .error .nulInPath
  else if p.bytes.isEmpty then .error .notFound
  else if pathLimit ≤ p.bytes.length then .error .nameTooLong
  else follow tree.top followLast linkLimit tree.here p.steps

/-- The tree with a new node at a place. -/
def put (tree : FileTree) (place : Place) (node : Node) : FileTree :=
  ⟨tree.top.put place node, tree.here⟩

/-! ## Reading -/

/-- The bytes of a file. -/
def read (tree : FileTree) (p : Path) : Except FileFault Bytes :=
  match tree.resolve true p with
  | .ok (.found _ (.file bytes)) => .ok bytes
  | .ok (.found _ _) => .error .isDirectory
  | .ok (.free _) => .error .notFound
  | .error fault => .error fault

/-- The text of a file. -/
def readText (tree : FileTree) (p : Path) : Except FileFault Text :=
  match tree.read p with
  | .ok bytes =>
    match Text.Utf8.decode? bytes with
    | some text => .ok text
    | none => .error .notText
  | .error fault => .error fault

/-! ## Writing -/

/-- Makes the directory at the end of some steps, unless there is one. -/
def ensureDirectory (tree : FileTree) (steps : List Path.Step) : Except FileFault FileTree :=
  match follow tree.top true linkLimit tree.here steps with
  | .ok (.found _ (.directory _)) => .ok tree
  | _ =>
    match follow tree.top false linkLimit tree.here steps with
    | .ok (.free place) => .ok (tree.put place (.directory []))
    | .ok (.found _ _) => .error .alreadyExists
    | .error fault => .error fault

/-- Makes the directories of a path that are missing. -/
def makeDirectories (tree : FileTree) (p : Path) : Except FileFault FileTree :=
  let steps := p.steps
  ((List.range steps.length).map fun n => steps.take (n + 1)).foldlM ensureDirectory tree

/-- Puts a file with the bytes at the end of a path. -/
def writeBytes (tree : FileTree) (p : Path) (bytes : Bytes) : Except FileFault FileTree :=
  match tree.resolve true p with
  | .ok (.free place) => .ok (tree.put place (.file bytes))
  | .ok (.found place (.file _)) => .ok (tree.put place (.file bytes))
  | .ok (.found _ _) => .error .isDirectory
  | .error fault => .error fault

/-- Writes a text to a file whose directories are made if they are missing. -/
def write (tree : FileTree) (p : Path) (text : Text) : Except FileFault FileTree := do
  let tree ← match p.parent? with
    | some directory => tree.makeDirectories directory
    | none => .ok tree
  tree.writeBytes p (Text.Utf8.encode text)

/-! ## Building and comparing trees -/

/-- The tree with a node at a path, in place of an earlier one; a node that cannot be
    put there is left out. -/
def add (tree : FileTree) (p : Path) (node : Node) : FileTree :=
  let tree := ((p.parent?.map tree.makeDirectories).bind Except.toOption).getD tree
  match tree.resolve false p with
  | .ok (.free place) => tree.put place node
  | .ok (.found place old) =>
    if old.isDirectory && node.isDirectory then tree else tree.put place node
  | .error _ => tree

/-- The tree of some nodes below the current directory. -/
def ofNodes (here : Place) (nodes : List (Path × Node)) : FileTree :=
  let bare : FileTree := ⟨(Node.directory []).put here (.directory []), here⟩
  nodes.foldl (fun tree (p, node) => tree.add p node) bare

/-- The regular files below a place. -/
def filesBelow (tree : FileTree) (place : Place) : List (Place × Bytes) :=
  ((tree.top.at? place).map Node.files).getD []

/-- The path that leads down to a place. -/
def pathTo (place : Place) : Path := ⟨Text.join [Path.slash] place⟩

/-- The files below a place that the earlier tree does not have in the same form, with
    their paths from there, in the order of the paths. -/
def changes (place : Place) (earlier later : FileTree) : List (Path × Bytes) :=
  let old := earlier.filesBelow place
  let new := (later.filesBelow place).filter fun f => !old.contains f
  (new.map fun (below, bytes) => (pathTo below, bytes)).mergeSort
    fun a b => Bytes.notAfter a.1.bytes b.1.bytes

end FileTree

end Stencil
