/-
  Generating the files of a project.

  * a `Job` holds the settings of one run, `Job.project` is what it finds;
  * `generateFrom` renders the templates in order and writes each file before the next
    template is read; a request to stop is looked for before each template, and a
    template without a file is passed over;
  * a `Run` is what came of it, and how it ended: at its end, at a request to stop,
    or at a file that could not be written.
-/
import Stencil.Discovery
import Stencil.Naming
import Stencil.Rendering
import Stencil.Settings

namespace Stencil

open Cancellation

/-! ## Jobs -/

/-- The settings of one run. -/
structure Job where
  root : Path
  outputDirectory : Path
  templateExtension : Text
  includeExtension : Text
  outputExtension : Text
  locale? : Option Text
  libraries : Libraries

namespace Job

/-- The job of a project with settings. -/
def ofSettings (root : Path) (s : Settings) : Except UnknownLibrary Job :=
  s.libraries.map fun libraries =>
    ⟨root, s.outputDirectory root, s.templateExtension, s.includeExtension, s.outputExtension,
      s.locale, libraries⟩

/-- What to look for: generated files are no templates, unless they go to the root. -/
def criteria (job : Job) : Discovery.Criteria where
  templateExtension := job.templateExtension
  includeExtension := job.includeExtension
  skip := if job.outputDirectory.same job.root then [] else [job.outputDirectory]

/-- The project of a job. -/
def project (job : Job) (tree : FileTree) : Project :=
  Discovery.discover tree job.criteria job.root

/-- The templates with the names of their files. -/
def names (job : Job) (p : Project) : List (Path × Text) :=
  p.templates.zip (Naming.outputNames p.templates job.outputExtension)

/-- The request for a template, as files are now. -/
def request (job : Job) (p : Project) (tree : FileTree) (template : Path) (fileName : Text) :
    RenderRequest :=
  ⟨Project.source tree template, p.lookup tree, fileName, job.locale?⟩

end Job

/-! ## Runs -/

/-- A generated file that was written. -/
structure GeneratedFile where
  template : Path
  path : Path
  outcome : Outcome
  diagnostics : List Diagnostic
  deriving DecidableEq

/-- How a run ends. -/
inductive Run.Ending where
  | completed
  /-- A request to stop was found. -/
  | cancelled
  /-- A file could not be written. -/
  | unwritable (file : Path) (cause : FileFault)
  deriving DecidableEq

/-- What comes of a run. -/
structure Run where
  /-- The files that were written, in order. -/
  files : List GeneratedFile
  ending : Run.Ending
  /-- The files after the run. -/
  tree : FileTree
  events : List Log.Event

namespace Run

/-- The diagnostics of all files. -/
def diagnostics (r : Run) : List Diagnostic := r.files.flatMap GeneratedFile.diagnostics

/-- Whether a diagnostic is an error. -/
def hasErrors (r : Run) : Bool := r.diagnostics.any Diagnostic.isError

/-- Whether some file is not what its template is meant to give. -/
def hasFailures (r : Run) : Bool := r.files.any fun f => f.outcome ≠ .rendered

/-- The words for a file that could not be written. -/
def writeMessage (file : Path) (cause : FileFault) : Text :=
  "failed to write ".toList ++ file.text ++ ": ".toList ++ cause.message

/-- The paths that stand in a summary. -/
def paths (r : Run) : List Path :=
  r.files.flatMap fun f => f.template :: f.path :: f.diagnostics.map fun d => d.location.file

/-- A file in a summary. -/
def fileJson (f : GeneratedFile) : Json :=
  .object [
    ("template".toList, .string f.template.text),
    ("path".toList, .string f.path.text),
    ("outcome".toList, .string f.outcome.name),
    ("diagnostics".toList, .array (f.diagnostics.map Diagnostic.toJson))]

/-- The summary of a run. -/
def toJson (r : Run) : Json :=
  .object [
    ("files".toList, .array (r.files.map fileJson)),
    ("cancelled".toList, .bool (r.ending = .cancelled))]

/-- The log event of a file that was written. -/
def writtenEvent (f : GeneratedFile) : Log.Event :=
  ⟨.info, "sgtt::generate".toList, "generated".toList,
    [("template".toList, f.template.text), ("output".toList, f.path.text),
      ("outcome".toList, f.outcome.title)]⟩

/-- The run with earlier events. -/
def after (events : List Log.Event) (r : Run) : Run := { r with events := events ++ r.events }

/-- The run with an earlier file. -/
def afterFile (f : GeneratedFile) (r : Run) : Run :=
  { r with files := f :: r.files, events := writtenEvent f :: r.events }

/-- The run with an earlier template without a file, given whether a request to stop
    was found then. -/
def afterNothing (stopped : Bool) (r : Run) : Run :=
  if stopped && r.ending == .completed then { r with ending := .cancelled } else r

end Run

/-! ## Generating -/

variable [Lua.Locales]

/-- Renders templates in order and writes their files. -/
def generateFrom (job : Job) (p : Project) (tree : FileTree) (flag : Flag) :
    List (Path × Text) → Run
  | [] => ⟨[], .completed, tree, []⟩
  | (template, fileName) :: rest =>
    if flag.isSet then ⟨[], .cancelled, tree, []⟩
    else
      let request := job.request p tree template fileName
      let (ending, flag) := render (.lua job.libraries) job.includeExtension request flag.afterLook
      Run.after (Rendering.events job.includeExtension request ending) <|
        match ending.generated? with
        | none => (generateFrom job p tree flag.afterLook rest).afterNothing flag.isSet
        | some g =>
          let path := job.outputDirectory.join ⟨g.fileName⟩
          match tree.write path g.text with
          | .error cause => ⟨[], .unwritable path cause, tree, []⟩
          | .ok tree =>
            (generateFrom job p tree flag rest).afterFile ⟨template, path, g.outcome, g.diagnostics⟩

/-- Generates the files of a project. -/
def generate (job : Job) (tree : FileTree) (flag : Flag) : Run :=
  let p := job.project tree
  (generateFrom job p tree flag (job.names p)).after p.events

end Stencil
