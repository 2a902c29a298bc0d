/-
  The command line on the files of a disk: what a request may read is taken into a tree,
  the response is made from it, and the files that are new in it are written back.
-/
import Stencil.CommandLine.Response

namespace Stencil.CommandLine

/-- The nodes at and below an entry of a directory on the disk. Nothing below a hidden
    directory is taken. -/
partial def nodesBelow (path : Path) (entry : IO.FS.DirEntry) : IO (List (Path × Node)) := do
  match (← entry.path.symlinkMetadata).type with
  | .dir =>
    if entry.fileName.startsWith "." then return [(path, .directory [])]
    let below ← (← entry.path.readDir).toList.flatMapM fun e =>
      nodesBelow (path.join ⟨e.fileName.toList⟩) e
    return (path, .directory []) :: below
  | .file => return [(path, .file (← IO.FS.readBinFile entry.path).toList)]
  | .symlink => return [(path, .link ⟨(← IO.FS.realPath entry.path).toString.toList⟩)]
  | .other => return []

/-- The nodes at and below a path on the disk; none if it cannot be read. -/
def nodesAt (path : Path) : IO (List (Path × Node)) := do
  try
    let place ← IO.FS.realPath (String.ofList path.text)
    match (← place.metadata).type with
    | .dir =>
      let below ← (← place.readDir).toList.flatMapM fun e =>
        nodesBelow (path.join ⟨e.fileName.toList⟩) e
      return (path, .directory []) :: below
    | .file => return [(path, .file (← IO.FS.readBinFile place).toList)]
    | _ => return []
  catch _ => return []

/-- Writes a file of a tree to the disk. -/
def writeBack (path : Path) (bytes : Bytes) : IO Unit := do
  let path : Path := ⟨Path.slash :: path.bytes⟩
  if let some directory := path.parent? then
    IO.FS.createDirAll (String.ofList directory.text)
  IO.FS.writeBinFile (String.ofList path.text) ⟨bytes.toArray⟩

/-- What the environment variables say. -/
def surroundings : IO Surroundings := do
  let setting? (name : String) : IO (Option Text) := do
    return (← IO.getEnv name).map String.toList
  return ⟨(← setting? "HOME").map (⟨·⟩), (← setting? "XDG_CONFIG_HOME").map (⟨·⟩),
    ← setting? "SGTT_LOG"⟩

end Stencil.CommandLine

/-- Runs the command of the arguments. -/
def main (args : List String) : IO UInt32 := do
  let args := args.map String.toList
  let around ← Stencil.CommandLine.surroundings
  let nodes ← match Stencil.CommandLine.parse args with
    | .ok request => (request.reads around).flatMapM Stencil.CommandLine.nodesAt
    | .error _ => pure []
  let place := (Stencil.Path.components ⟨(← IO.currentDir).toString.toList⟩).filterMap fun
    | .name name => some name
    | _ => none
  let tree := Stencil.FileTree.ofNodes place nodes
  let response := Stencil.CommandLine.respond around tree args
  IO.print (String.ofList response.output)
  IO.eprint (String.ofList response.messages)
  for (path, bytes) in tree.changes [] response.tree do
    Stencil.CommandLine.writeBack path bytes
  return response.exitCode.toUInt32
