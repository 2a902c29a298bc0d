/-
  Rendering one template.

      read ─> resolve ──errors──> directive comments
                 │
                 └─> write the program ─> compile ──errors──> fallback and diagnostics
                                             │
                                             └─> execute ──fault──> fault comments
                                                    │
                                                    └─> output with annotations

  * a `Backend` compiles and executes programs;
  * `render` is the ending of a request: a `Generated` file, an unreadable template,
    or a request to stop, which is looked for after the program is written, after
    it is compiled, and by the backend;
  * `Ending.generated?` is what is left of an ending for the caller.
-/
import Stencil.Execution
import Stencil.Log
import Stencil.Remap

namespace Stencil

open Cancellation

/-- A template to render. -/
structure RenderRequest where
  template : Source
  includes : Lookup
  /-- The name of the generated file. -/
  fileName : Text
  locale? : Option Text

/-- What a generated file holds. -/
inductive Outcome where
  | rendered
  | directiveErrors
  | compileFailed
  | faulted
  deriving DecidableEq, Repr

/-- The name of an outcome in summaries. -/
def Outcome.name : Outcome → Text
  | rendered => "rendered".toList
  | directiveErrors => "directive_errors".toList
  | compileFailed => "compile_failed".toList
  | faulted => "faulted".toList

/-- The name of an outcome in log lines. -/
def Outcome.title : Outcome → Text
  | rendered => "Rendered".toList
  | directiveErrors => "DirectiveErrors".toList
  | compileFailed => "CompileFailed".toList
  | faulted => "Faulted".toList

/-- A generated file. -/
structure Generated where
  fileName : Text
  text : Text
  outcome : Outcome
  /-- The diagnostics of the template, if its program does not compile. -/
  diagnostics : List Diagnostic
  deriving DecidableEq

/-- What compiles and executes programs. Both may look at the flag, and the flag may
    be set meanwhile. -/
structure Backend where
  compile : Program → Flag → Except (List Diagnostic) Artifact × Flag
  execute : Artifact → Flag → Execution × Flag

/-- The backend that links Lua programs with libraries. -/
def Backend.lua [Lua.Locales] (libraries : Libraries) : Backend where
  compile p flag := (Compilation.compile libraries p, flag)
  execute := Execution.run

/-- How a rendering ends. -/
inductive Ending where
  /-- With a file, after a fault of the program if there was one. -/
  | generated (g : Generated) (fault? : Option Fault)
  /-- The template cannot be read. -/
  | unreadable (failure : ReadFailure)
  /-- A request to stop was found. -/
  | cancelled

namespace Ending

/-- The generated file. -/
def generated? : Ending → Option Generated
  | generated g _ => some g
  | unreadable _ => none
  | cancelled => none

end Ending

namespace Rendering

/-! ## What files hold -/

/-- What stands before the list of libraries. -/
def librariesBanner : Text :=
  "// *** Above source is compiled with following libraries. ***".toList

/-- What stands before the listing of the program. -/
def programBanner : Text :=
  "// *** Above source is generated from following code. ***".toList

/-- The list of the libraries of an artifact. -/
def librariesNote (a : Artifact) : Text :=
  '\n' :: librariesBanner ++ "\n//\n".toList ++
    a.entries.flatMap fun entry => commentMark ++ entry ++ ['\n']

/-- The listing of a program. -/
def programNote (p : Program) : Text :=
  '\n' :: programBanner ++ "\n//\n".toList ++ commentOut p.source

/-- The output with the annotations that the template asks for. -/
def annotate (output : Text) (r : Resolution) (a : Artifact) (p : Program) : Text :=
  if r.appendLibraries || r.appendProgram then
    output ++ '\n' :: (if r.appendLibraries then librariesNote a else []) ++
      (if r.appendProgram then programNote p else [])
  else output

/-- The place of a fault: the origin of its line, and the first column of the line
    that is not blank. -/
def faultPlace (p : Program) (fault : Fault) : Text :=
  match fault.line? with
  | none => []
  | some line =>
    match p.origin? line with
    | none => []
    | some origin =>
      let column := (((p.line? line).getD []).takeWhile Text.isBlank).length
      "at ".toList ++ origin.file.text ++ '(' :: Text.number origin.line ++ ',' ::
        Text.number (column + 1) ++ ")\n".toList

/-- A fault as comments. -/
def faultComments (p : Program) (fault : Fault) : Text :=
  commentOut (faultPlace p fault ++ fault.message)

/-! ## Rendering -/

/-- The ending of a rendering whose program was executed. -/
def ended (file : Text → Outcome → List Diagnostic → Generated) (r : Resolution) (p : Program)
    (a : Artifact) : Execution → Ending
  | .rendered output => .generated (file (annotate output r a p) .rendered []) none
  | .faulted fault => .generated (file (faultComments p fault) .faulted []) (some fault)
  | .cancelled => .cancelled

/-- The ending of a rendering whose program does not compile. -/
def rejected (file : Text → Outcome → List Diagnostic → Generated) (templateText : Text)
    (p : Program) (diagnostics : List Diagnostic) : Ending :=
  .generated (file (Remap.fallback p diagnostics) .compileFailed
    (diagnostics.map (Remap.report p templateText))) none

/-- Compiles and executes the program of a template that resolved. -/
def build (backend : Backend) (file : Text → Outcome → List Diagnostic → Generated)
    (templateText : Text) (r : Resolution) (p : Program) (flag : Flag) : Ending × Flag :=
  if flag.isSet then (.cancelled, flag.afterLook)
  else
    match backend.compile p flag.afterLook with
    | (.error diagnostics, flag) => (rejected file templateText p diagnostics, flag)
    | (.ok a, flag) =>
      if flag.isSet then (.cancelled, flag.afterLook)
      else
        let (execution, flag) := backend.execute a flag.afterLook
        (ended file r p a execution, flag)

/-- The file of a request. -/
def file (request : RenderRequest) (text : Text) (outcome : Outcome)
    (diagnostics : List Diagnostic) : Generated :=
  ⟨request.fileName, text, outcome, diagnostics⟩

/-- What the template of a request resolves to, given its text. -/
def resolution (includeExtension : Text) (request : RenderRequest) (text : Text) : Resolution :=
  resolve ⟨request.includes, includeExtension⟩ request.template.path text

end Rendering

/-- Renders a request; the flag is given back as it is after the looks. -/
def render (backend : Backend) (includeExtension : Text) (request : RenderRequest)
    (flag : Flag) : Ending × Flag :=
  match request.template.text with
  | .error failure => (.unreadable failure, flag)
  | .ok text =>
    let r := Rendering.resolution includeExtension request text
    let file := Rendering.file request
    if r.isOk then
      let p := Program.write r request.template.path request.locale?
      Rendering.build backend file text r p flag
    else (.generated (file r.errorComments .directiveErrors []) none, flag)

namespace Rendering

/-! ## Log events -/

/-- The events of the directives that fail. -/
def directiveEvents (includeExtension : Text) (request : RenderRequest) : List Log.Event :=
  match request.template.text with
  | .error _ => []
  | .ok text =>
    (resolution includeExtension request text).errors.map fun e =>
      ⟨.warn, "sgtt_template::directive".toList, e.comment, []⟩

/-- The events of a rendering with its ending. -/
def events (includeExtension : Text) (request : RenderRequest) (ending : Ending) :
    List Log.Event :=
  let warning := fun (message : Text) => Log.Event.mk .warn "sgtt::render".toList message
    [("template".toList, request.template.path.text)]
  directiveEvents includeExtension request ++
    match ending with
    | .unreadable failure => [warning ("cannot read template: ".toList ++ failure.message)]
    | .generated _ (some fault) =>
      [warning ("generator program failed: ".toList ++ fault.message)]
    | _ => []

end Rendering

end Stencil
