/-
  What the commands do.

  * `respond` answers arguments: the output, the messages with the log lines before
    them, the exit code, and the files afterwards;
  * it loads the settings of the project first, and its answer to a request is a
    failure when a template is not rendered;
  * programs run on a machine whose only locale is `C`, unless another one is given.
-/
import Stencil.CommandLine.Arguments
import Stencil.Generation
import Stencil.Snippet

namespace Stencil.CommandLine

/-- What the surroundings of a command say. -/
structure Surroundings where
  /-- The home directory. -/
  home? : Option Path
  /-- The directory of configuration files. -/
  configHome? : Option Path
  /-- The rules for log lines. -/
  logRules? : Option Text

/-- The answer of a command. -/
structure Response where
  exitCode : Nat
  output : Text
  messages : Text
  tree : FileTree

/-- The name and the version of the program. -/
def versionLine : Text := "sgtt 0.2.0\n".toList

/-- How the program is called. -/
def usage : Text :=
  ("Usage: sgtt [OPTIONS] <COMMAND>\n\nCommands:\n  generate  Render every template of the " ++
    "project and write the generated files\n  render    Render one template to stdout\n").toList

namespace Surroundings

/-- The configuration file for all projects. -/
def sharedFile? (s : Surroundings) : Option Path :=
  (s.configHome?.or (s.home?.map (Path.join · ⟨".config".toList⟩))).map fun directory =>
    (directory.join ⟨"sgtt".toList⟩).join ⟨"config.toml".toList⟩

/-- The filter of log lines; without valid rules, the verbosity decides. -/
def filter (s : Surroundings) (verbosity : Nat) : Log.Filter :=
  ((s.logRules?).bind Log.Filter.ofText?).getD (.upTo (.ofVerbosity verbosity))

end Surroundings

/-- The answer of a command apart from its log lines. -/
structure Answer where
  exitCode : Nat
  output : Text
  messages : Text
  events : List Log.Event
  tree : FileTree

namespace Answer

/-- The line of an error. -/
def errorLine (message : Text) : Text := "error: ".toList ++ message ++ ['\n']

/-- The answer of a command that cannot go on. -/
def failure (tree : FileTree) (events : List Log.Event) (message : Text) : Answer :=
  ⟨1, [], errorLine message, events, tree⟩

/-- A message with its cause once more after it. -/
def withCause (message : Text) (cause : FileFault) : Text :=
  message ++ ": ".toList ++ cause.message

/-- The message of settings that cannot be loaded. -/
def settingsMessage (f : Settings.Fault) : Text :=
  "loading configuration: ".toList ++
    match f with
    | .unreadable _ cause => withCause f.message cause
    | .invalid _ => f.message

end Answer

open Answer

variable [Lua.Locales]

/-! ## Generating -/

/-- The line of a generated file. -/
def fileLine (f : GeneratedFile) : Text :=
  f.template.text ++ " -> ".toList ++ f.path.text ++ ['\n']

/-- The answer to a run. -/
def answerRun (json : Bool) (r : Run) : Answer :=
  match r.ending with
  | .unwritable file cause => failure r.tree r.events (withCause (Run.writeMessage file cause) cause)
  | _ =>
    let exitCode := if r.hasFailures || r.hasErrors then 1 else 0
    if json then
      if r.paths.all Path.isText then
        ⟨exitCode, r.toJson.pretty ++ ['\n'], [], r.events, r.tree⟩
      else failure r.tree r.events "path contains invalid UTF-8 characters".toList
    else ⟨exitCode, r.files.flatMap fileLine, Snippet.renderAll r.tree r.diagnostics, r.events, r.tree⟩

/-- Generates the files of the project at a root. -/
def generateAll (tree : FileTree) (root : Path) (s : Settings) (out? : Option Path)
    (locale? : Option Text) (json : Bool) : Answer :=
  match Job.ofSettings root s with
  | .error e => failure tree [] e.message
  | .ok job =>
    let job := { job with
      outputDirectory := (out?.map root.join).getD job.outputDirectory
      locale? := locale?.or job.locale? }
    answerRun json (generate job tree .never)

/-! ## Rendering -/

/-- The directory that holds a file. -/
def directoryOf (file : Path) : Path :=
  match file.parent? with
  | some directory => if directory.bytes.isEmpty then ⟨[Path.dot]⟩ else directory
  | none => ⟨[Path.dot]⟩

/-- The answer to a rendering. -/
def answerRendering (tree : FileTree) (template : Path) (events : List Log.Event)
    (ending : Ending) : Answer :=
  match ending.generated? with
  | none => failure tree events ("could not render ".toList ++ template.text)
  | some g =>
    ⟨if g.outcome = .rendered then 0 else 1, g.text, Snippet.renderAll tree g.diagnostics, events,
      tree⟩

/-- Renders one template; its include files are those of some directories. -/
def renderOne (tree : FileTree) (s : Settings) (template : Path) (includes : List Path)
    (locale? : Option Text) : Answer :=
  let p := Discovery.discoverAll tree ⟨s.templateExtension, s.includeExtension, []⟩
    (if includes.isEmpty then [directoryOf template] else includes)
  match s.libraries with
  | .error e => failure tree p.events e.message
  | .ok libraries =>
    let request : RenderRequest := ⟨Project.source tree template, p.lookup tree,
      Naming.outputName template 0 s.outputExtension, locale?.or s.locale⟩
    let ending := (render (.lua libraries) s.includeExtension request .never).1
    answerRendering tree template
      (p.events ++ Rendering.events s.includeExtension request ending) ending

/-! ## Responses -/

/-- The paths at and below which the answer to a request reads files. -/
def Request.reads (r : Request) (s : Surroundings) : List Path :=
  s.sharedFile?.toList ++ Settings.projectFile r.root ::
    match r.command with
    | .generate out? _ _ => r.root :: (out?.map r.root.join).toList
    | .render template includes _ =>
      template :: if includes.isEmpty then [directoryOf template] else includes

/-- The answer to a request. -/
def answer (shared? : Option Path) (tree : FileTree) (r : Request) : Answer :=
  match Settings.load tree shared? r.root with
  | .error f => failure tree [] (settingsMessage f)
  | .ok s =>
    match r.command with
    | .generate out? locale? json => generateAll tree r.root s out? locale? json
    | .render template includes locale? => renderOne tree s template includes locale?

/-- The response to arguments. -/
def respond (surroundings : Surroundings) (tree : FileTree) (args : List Text) : Response :=
  match parse args with
  | .error .help => ⟨0, usage, [], tree⟩
  | .error .version => ⟨0, versionLine, [], tree⟩
  | .error (.misuse cause) => ⟨2, [], errorLine cause.message ++ '\n' :: usage, tree⟩
  | .ok request =>
    let a := answer surroundings.sharedFile? tree request
    let log := (surroundings.filter request.verbosity).lines a.events
    ⟨a.exitCode, a.output, log ++ a.messages, a.tree⟩

/-- The machine of the command. -/
instance (priority := low) : Lua.Locales := .single

end Stencil.CommandLine
