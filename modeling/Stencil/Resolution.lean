/-
  Resolving a template: its tokens in order, with every include directive
  replaced by the sections of the included file.

  * a `Resolution` holds the sections, imports, output flags and errors;
  * a `Resolver` is the state of the walk: what was found so far, the files
    that some include directive chose (`chosen`, the once guard) and the files
    being expanded around the current token (`active`);
  * `Resolver.step` says what one token does short of expanding a file, and
    `Resolver.walk` carries out the tokens of a file;
  * `Resolver.Outcome` lists by cases what a step can be (`outcome_step`); all that
    is proved about steps comes from it;
  * a directive that fails adds one error and nothing else; the walk goes on.

  An expansion only starts for a file of the lookup that is not active, so the
  files of the lookup that are not active bound the nesting
  (`free_lt_of_step`), and the walk ends for every lookup.
-/
import Stencil.Token
import Stencil.Directive
import Stencil.Source

namespace Stencil

/-! ## Results -/

/-- What a section of a program body is. -/
inductive Section.Kind where
  | text
  | code
  | expression
  deriving DecidableEq

/-- A part of the program body and where it was cut from. -/
structure Section where
  kind : Section.Kind
  file : Path
  position : Position
  content : Text
  deriving DecidableEq

/-- The kind of section that a token becomes; a directive becomes none. -/
def Section.Kind.ofToken? : Token.Kind → Option Section.Kind
  | .text => some .text
  | .code => some .code
  | .expression => some .expression
  | .directive => none

/-- A module bound by an import directive. -/
structure Import where
  module : Text
  binding : Text
  file : Path
  position : Position
  deriving DecidableEq

/-- Why a directive could not be carried out. -/
inductive DirectiveError.Kind where
  | unknownDirective
  | invalidImport
  | invalidInclude
  | unsupportedExtension
  | includeNotFound
  | includeDuplicated
  | cyclicInclude
  | missingText
  /-- The chosen file of this name does not exist. -/
  | includeVanished (name : Text)
  | includeDenied
  | includeFailed
  deriving DecidableEq

/-- The label of an error. -/
def DirectiveError.Kind.label : DirectiveError.Kind → Text
  | unknownDirective => "UnknownDirective".toList
  | invalidImport => "InvalidImportDirective".toList
  | invalidInclude => "InvalidIncludeDirective".toList
  | unsupportedExtension => "UnsupportedExtension".toList
  | includeNotFound => "IncludeFileNotFound".toList
  | includeDuplicated => "IncludeFileDuplicated".toList
  | cyclicInclude => "CyclicInclude".toList
  | missingText => "MissingSourceText".toList
  | includeVanished name => "InvalidIncludeDirective \"".toList ++ name ++ "\" is not found.".toList
  | includeDenied => "InvalidIncludeDirective permission error.".toList
  | includeFailed => "InvalidIncludeDirective io error.".toList

/-- The error of a malformed directive. -/
def DirectiveError.Kind.ofFault : Directive.Fault → DirectiveError.Kind
  | .unknown => .unknownDirective
  | .badImport => .invalidImport
  | .badInclude => .invalidInclude

/-- The error of a chosen file whose text cannot be read. -/
def DirectiveError.Kind.ofReadFailure (name : Text) : ReadFailure → DirectiveError.Kind
  | .missing => .missingText
  | .notFound => .includeVanished name
  | .permissionDenied => .includeDenied
  | .failed _ => .includeFailed

/-- A directive that failed. -/
structure DirectiveError where
  kind : DirectiveError.Kind
  file : Path
  position : Position
  /-- The directive as it was written. -/
  content : Text
  deriving DecidableEq

namespace DirectiveError

/-- Every line break, with or without a carriage return, as one space. -/
def flatten : Text → Text
  | '\r' :: '\n' :: rest => ' ' :: flatten rest
  | '\n' :: rest => ' ' :: flatten rest
  | c :: rest => c :: flatten rest
  | [] => []

/-- The comment that reports an error. -/
def comment (e : DirectiveError) : Text :=
  "// ".toList ++ e.file.text ++ '(' :: Text.number e.position.line ++ ',' ::
    Text.number (e.position.column + 1) ++ ") [".toList ++ e.kind.label ++ "]: ".toList ++
    Text.trim (flatten e.content)

end DirectiveError

/-- What a template resolves to. -/
structure Resolution where
  /-- The program body in document order. -/
  sections : List Section
  imports : List Import
  /-- Whether the linked libraries are listed after the output. -/
  appendLibraries : Bool
  /-- Whether the program is listed after the output. -/
  appendProgram : Bool
  errors : List DirectiveError
  deriving DecidableEq

namespace Resolution

/-- Nothing resolved yet. -/
def empty : Resolution := ⟨[], [], false, false, []⟩

/-- What two parts of a template resolve to, one after the other. -/
def append (r r' : Resolution) : Resolution :=
  ⟨r.sections ++ r'.sections, r.imports ++ r'.imports, r.appendLibraries || r'.appendLibraries,
    r.appendProgram || r'.appendProgram, r.errors ++ r'.errors⟩

instance : Append Resolution := ⟨append⟩

theorem append_def (r r' : Resolution) : r ++ r' =
    ⟨r.sections ++ r'.sections, r.imports ++ r'.imports, r.appendLibraries || r'.appendLibraries,
      r.appendProgram || r'.appendProgram, r.errors ++ r'.errors⟩ := rfl

@[simp] theorem sections_append (r r' : Resolution) :
    (r ++ r').sections = r.sections ++ r'.sections := rfl

@[simp] theorem imports_append (r r' : Resolution) :
    (r ++ r').imports = r.imports ++ r'.imports := rfl

@[simp] theorem errors_append (r r' : Resolution) : (r ++ r').errors = r.errors ++ r'.errors := rfl

@[simp] theorem append_empty (r : Resolution) : r ++ empty = r := by
  simp [append_def, empty]

@[simp] theorem empty_append (r : Resolution) : empty ++ r = r := by
  simp [append_def, empty]

theorem append_assoc (r r' r'' : Resolution) : r ++ r' ++ r'' = r ++ (r' ++ r'') := by
  simp [append_def, Bool.or_assoc]

/-- One section. -/
def ofSection (x : Section) : Resolution := { empty with sections := [x] }

/-- One import. -/
def ofImport (i : Import) : Resolution := { empty with imports := [i] }

/-- One error. -/
def ofError (e : DirectiveError) : Resolution := { empty with errors := [e] }

/-- The list of linked libraries is asked for. -/
def withLibraries : Resolution := { empty with appendLibraries := true }

/-- The listing of the program is asked for. -/
def withProgram : Resolution := { empty with appendProgram := true }

/-- Whether no directive failed. -/
def isOk (r : Resolution) : Bool := r.errors.isEmpty

/-- One comment line for each error. -/
def errorComments (r : Resolution) : Text := r.errors.flatMap fun e => e.comment ++ ['\n']

end Resolution

/-! ## The walk -/

/-- What a walk looks up. -/
structure Resolver.Setting where
  lookup : Lookup
  /-- The extension that the name of an include file must have. -/
  includeExtension : Text

/-- The state of a walk. -/
structure Resolver where
  /-- The files chosen so far by include directives. -/
  chosen : List (List Path.Component)
  /-- The files being expanded, the innermost first. -/
  active : List (List Path.Component)
  result : Resolution

namespace Resolver

/-- The state before the first token. -/
def start : Resolver := ⟨[], [], .empty⟩

/-- Adds the error of a failing directive. -/
def fail (s : Resolver) (file : Path) (t : Token) (kind : DirectiveError.Kind) : Resolver :=
  { s with result := { s.result with
      errors := s.result.errors ++ [⟨kind, file, t.position, t.content⟩] } }

/-- Records that an include directive chose a file. -/
def choose (s : Resolver) (key : List Path.Component) : Resolver :=
  if key ∈ s.chosen then s else { s with chosen := key :: s.chosen }

/-- What one token leads to. -/
inductive Step where
  /-- The token is done. -/
  | done (next : Resolver)
  /-- The text of a file is to be expanded in this place. -/
  | expand (source : Source) (text : Text) (next : Resolver)

/-- The state in which a step ends, or in which the expanded file begins. -/
def Step.state : Step → Resolver
  | .done next => next
  | .expand _ _ next => next

/-- The step of an include directive. -/
def stepInclude (env : Setting) (file : Path) (s : Resolver) (t : Token) (name : Text)
    (once : Bool) : Step :=
  if (Text.stripEnd? ('.' :: env.includeExtension) name).isNone then
    .done (s.fail file t .unsupportedExtension)
  else match env.lookup.candidates name with
    | [] => .done (s.fail file t .includeNotFound)
    | [source] =>
      let key := source.path.components
      let marked := s.choose key
      if once ∧ key ∈ s.chosen then .done marked
      else if key ∈ s.active then .done (marked.fail file t .cyclicInclude)
      else match source.text with
        | .error failure => .done (marked.fail file t (.ofReadFailure name failure))
        | .ok text => .expand source text { marked with active := key :: s.active }
    | _ => .done (s.fail file t .includeDuplicated)

/-- The step of a directive. -/
def stepDirective (env : Setting) (file : Path) (s : Resolver) (t : Token) : Step :=
  match Directive.read t.content with
  | .error fault => .done (s.fail file t (.ofFault fault))
  | .ok (.importModule module binding) =>
    .done { s with result := { s.result with
      imports := s.result.imports ++ [⟨module, binding, file, t.position⟩] } }
  | .ok (.includeFile name once) => stepInclude env file s t name once
  | .ok .appendLibraries => .done { s with result := { s.result with appendLibraries := true } }
  | .ok .appendProgram => .done { s with result := { s.result with appendProgram := true } }

/-- The step of a token of a file. -/
def step (env : Setting) (file : Path) (s : Resolver) (t : Token) : Step :=
  match Section.Kind.ofToken? t.kind with
  | some kind =>
    .done { s with result := { s.result with
      sections := s.result.sections ++ [⟨kind, file, t.position, t.content⟩] } }
  | none => stepDirective env file s t

/-! ## What a step does -/

/-- The state with more results. -/
def add (s : Resolver) (r : Resolution) : Resolver := { s with result := s.result ++ r }

/-- The error of a directive. -/
def failure (file : Path) (t : Token) (kind : DirectiveError.Kind) : Resolution :=
  .ofError ⟨kind, file, t.position, t.content⟩

/-- The directive is an include whose name has the right extension and a single
    candidate, `source`. -/
structure Selects (env : Setting) (t : Token) (name : Text) (once : Bool) (source : Source) :
    Prop where
  directive : t.kind = .directive
  read : Directive.read t.content = .ok (.includeFile name once)
  supported : (Text.stripEnd? ('.' :: env.includeExtension) name).isSome
  single : env.lookup.candidates name = [source]

/-- What a token leads to, by cases. -/
inductive Outcome (env : Setting) (file : Path) (s : Resolver) (t : Token) : Step → Prop where
  | plain {kind} (hk : Section.Kind.ofToken? t.kind = some kind) :
    Outcome env file s t (.done (s.add (.ofSection ⟨kind, file, t.position, t.content⟩)))
  | malformed {fault} (hk : t.kind = .directive) (hr : Directive.read t.content = .error fault) :
    Outcome env file s t (.done (s.add (failure file t (.ofFault fault))))
  | imported {module binding} (hk : t.kind = .directive)
    (hr : Directive.read t.content = .ok (.importModule module binding)) :
    Outcome env file s t (.done (s.add (.ofImport ⟨module, binding, file, t.position⟩)))
  | libraries (hk : t.kind = .directive) (hr : Directive.read t.content = .ok .appendLibraries) :
    Outcome env file s t (.done (s.add .withLibraries))
  | program (hk : t.kind = .directive) (hr : Directive.read t.content = .ok .appendProgram) :
    Outcome env file s t (.done (s.add .withProgram))
  | unsupported {name once} (hk : t.kind = .directive)
    (hr : Directive.read t.content = .ok (.includeFile name once))
    (he : (Text.stripEnd? ('.' :: env.includeExtension) name).isNone) :
    Outcome env file s t (.done (s.add (failure file t .unsupportedExtension)))
  | notFound {name once} (hk : t.kind = .directive)
    (hr : Directive.read t.content = .ok (.includeFile name once))
    (he : (Text.stripEnd? ('.' :: env.includeExtension) name).isSome)
    (hc : env.lookup.candidates name = []) :
    Outcome env file s t (.done (s.add (failure file t .includeNotFound)))
  | duplicated {name once} (hk : t.kind = .directive)
    (hr : Directive.read t.content = .ok (.includeFile name once))
    (he : (Text.stripEnd? ('.' :: env.includeExtension) name).isSome)
    (hc : 2 ≤ (env.lookup.candidates name).length) :
    Outcome env file s t (.done (s.add (failure file t .includeDuplicated)))
  | skipped {name source} (hs : Selects env t name true source)
    (hc : source.path.components ∈ s.chosen) : Outcome env file s t (.done s)
  | cyclic {name once source} (hs : Selects env t name once source)
    (hc : once = true → source.path.components ∉ s.chosen)
    (ha : source.path.components ∈ s.active) :
    Outcome env file s t
      (.done ((s.choose source.path.components).add (failure file t .cyclicInclude)))
  | unreadable {name once source cause} (hs : Selects env t name once source)
    (hc : once = true → source.path.components ∉ s.chosen)
    (ha : source.path.components ∉ s.active) (ht : source.text = .error cause) :
    Outcome env file s t
      (.done ((s.choose source.path.components).add (failure file t (.ofReadFailure name cause))))
  | expanded {name once source text} (hs : Selects env t name once source)
    (hc : once = true → source.path.components ∉ s.chosen)
    (ha : source.path.components ∉ s.active) (ht : source.text = .ok text) :
    Outcome env file s t (.expand source text
      { s.choose source.path.components with active := source.path.components :: s.active })

section
variable {env : Setting} {file : Path} {s next : Resolver} {t : Token}

theorem add_ofSection (x : Section) : s.add (.ofSection x) =
    { s with result := { s.result with sections := s.result.sections ++ [x] } } := by
  simp [add, Resolution.ofSection, Resolution.append_def, Resolution.empty]

theorem add_ofImport (i : Import) : s.add (.ofImport i) =
    { s with result := { s.result with imports := s.result.imports ++ [i] } } := by
  simp [add, Resolution.ofImport, Resolution.append_def, Resolution.empty]

theorem add_withLibraries : s.add .withLibraries =
    { s with result := { s.result with appendLibraries := true } } := by
  simp [add, Resolution.withLibraries, Resolution.append_def, Resolution.empty]

theorem add_withProgram : s.add .withProgram =
    { s with result := { s.result with appendProgram := true } } := by
  simp [add, Resolution.withProgram, Resolution.append_def, Resolution.empty]

theorem add_failure (kind : DirectiveError.Kind) :
    s.add (failure file t kind) = s.fail file t kind := by
  simp [fail, add, failure, Resolution.ofError, Resolution.append_def, Resolution.empty]

theorem outcome_stepInclude {name : Text} {once : Bool} (hk : t.kind = .directive)
    (hr : Directive.read t.content = .ok (.includeFile name once)) :
    Outcome env file s t (stepInclude env file s t name once) := by
  unfold stepInclude
  simp only [← add_failure]
  split
  · next he => exact .unsupported hk hr he
  · next he =>
    have he : (Text.stripEnd? ('.' :: env.includeExtension) name).isSome :=
      Option.isSome_iff_ne_none.2 (by simpa using he)
    split
    · next hc => exact .notFound hk hr he hc
    · next source hc =>
      have hs : Selects env t name once source := ⟨hk, hr, he, hc⟩
      split
      · next hguard =>
        obtain ⟨rfl, hchosen⟩ := hguard
        rw [choose, if_pos hchosen]
        exact .skipped hs hchosen
      · next hguard =>
        have hguard : once = true → source.path.components ∉ s.chosen :=
          fun h h' => hguard ⟨h, h'⟩
        split
        · next ha => exact .cyclic hs hguard ha
        · next ha =>
          split
          · next ht => exact .unreadable hs hguard ha ht
          · next ht => exact .expanded hs hguard ha ht
    · next hnil hone =>
      refine .duplicated hk hr he ?_
      rcases hc : env.lookup.candidates name with _ | ⟨source, _ | ⟨source', rest⟩⟩
      · exact absurd hc hnil
      · exact absurd hc (hone source)
      · simp

/-- **The step of a token is one of the outcomes.** -/
theorem outcome_step : Outcome env file s t (step env file s t) := by
  unfold step
  split
  · next kind hk =>
    rw [← add_ofSection]
    exact .plain hk
  · next hk =>
    have hk : t.kind = .directive := by
      revert hk; cases t.kind <;> simp [Section.Kind.ofToken?]
    unfold stepDirective
    split
    · next hr =>
      rw [← add_failure]
      exact .malformed hk hr
    · next hr =>
      rw [← add_ofImport]
      exact .imported hk hr
    · next hr => exact outcome_stepInclude hk hr
    · next hr =>
      rw [← add_withLibraries]
      exact .libraries hk hr
    · next hr =>
      rw [← add_withProgram]
      exact .program hk hr

theorem step_of_directive (hk : t.kind = .directive) :
    step env file s t = stepDirective env file s t := by
  simp [step, Section.Kind.ofToken?, hk]

theorem step_of_include {name : Text} {once : Bool} (hk : t.kind = .directive)
    (hr : Directive.read t.content = .ok (.includeFile name once)) :
    step env file s t = stepInclude env file s t name once := by
  rw [step_of_directive hk, stepDirective, hr]

theorem step_of_selects {name : Text} {once : Bool} {source : Source}
    (hs : Selects env t name once source) :
    step env file s t =
      if once ∧ source.path.components ∈ s.chosen then .done (s.choose source.path.components)
      else if source.path.components ∈ s.active then
        .done ((s.choose source.path.components).add (failure file t .cyclicInclude))
      else match source.text with
        | .error cause =>
          .done ((s.choose source.path.components).add (failure file t (.ofReadFailure name cause)))
        | .ok text => .expand source text
          { s.choose source.path.components with active := source.path.components :: s.active } := by
  have he : (Text.stripEnd? ('.' :: env.includeExtension) name).isNone = false := by
    simpa using hs.supported
  rw [step_of_include hs.directive hs.read, stepInclude, he, hs.single]
  simp only [add_failure, Bool.false_eq_true, if_false]

/-- The outcomes exclude each other. -/
theorem step_eq_of_outcome {result : Step} (h : Outcome env file s t result) :
    step env file s t = result := by
  cases h with
  | plain hk => rw [add_ofSection, step, hk]
  | malformed hk hr => rw [add_failure, step_of_directive hk, stepDirective, hr]
  | imported hk hr => rw [add_ofImport, step_of_directive hk, stepDirective, hr]
  | libraries hk hr => rw [add_withLibraries, step_of_directive hk, stepDirective, hr]
  | program hk hr => rw [add_withProgram, step_of_directive hk, stepDirective, hr]
  | unsupported hk hr he => rw [add_failure, step_of_include hk hr, stepInclude, if_pos he]
  | notFound hk hr he hc =>
    rw [add_failure, step_of_include hk hr, stepInclude, hc,
      if_neg (by simpa using Option.isSome_iff_ne_none.1 he)]
  | @duplicated name _ hk hr he hc =>
    rw [add_failure, step_of_include hk hr, stepInclude,
      if_neg (by simpa using Option.isSome_iff_ne_none.1 he)]
    rcases h : env.lookup.candidates name with _ | ⟨source, _ | ⟨source', rest⟩⟩
    · simp [h] at hc
    · simp [h] at hc
    · rfl
  | skipped hs hc => rw [step_of_selects hs, if_pos ⟨rfl, hc⟩, choose, if_pos hc]
  | cyclic hs hc ha =>
    rw [step_of_selects hs, if_neg fun h => hc h.1 h.2, if_pos ha]
  | unreadable hs hc ha ht =>
    rw [step_of_selects hs, if_neg fun h => hc h.1 h.2, if_neg ha, ht]
  | expanded hs hc ha ht =>
    rw [step_of_selects hs, if_neg fun h => hc h.1 h.2, if_neg ha, ht]

@[simp] theorem active_add (s : Resolver) (r : Resolution) : (s.add r).active = s.active := rfl

@[simp] theorem result_add (s : Resolver) (r : Resolution) : (s.add r).result = s.result ++ r := rfl

@[simp] theorem result_choose (s : Resolver) (key : List Path.Component) :
    (s.choose key).result = s.result := by
  unfold choose; split <;> rfl

@[simp] theorem active_choose (s : Resolver) (key : List Path.Component) :
    (s.choose key).active = s.active := by
  unfold choose; split <;> rfl

/-- A token that is done leaves the active files as they are. -/
theorem active_of_step (h : step env file s t = .done next) : next.active = s.active := by
  have ho : Outcome env file s t (.done next) := h ▸ outcome_step
  cases ho <;> simp

/-- An expansion is of a file of the lookup that was not active, and makes it active. -/
theorem of_step {source : Source} {text : Text}
    (h : step env file s t = .expand source text next) :
    source ∈ env.lookup.sources ∧ source.path.components ∉ s.active ∧
      next.active = source.path.components :: s.active := by
  have ho : Outcome env file s t (.expand source text next) := h ▸ outcome_step
  cases ho with
  | @expanded name _ _ _ hs _ ha _ =>
    have hmem : source ∈ env.lookup.candidates name := by simp [hs.single]
    exact ⟨(List.mem_filter.1 hmem).1, ha, rfl⟩

end

/-! ## Termination -/

/-- The files of the lookup that are not active. -/
def free (env : Setting) (active : List (List Path.Component)) : List Source :=
  env.lookup.sources.filter fun source => source.path.components ∉ active

/-- An expansion leaves fewer files to expand. -/
theorem free_lt_of_step {env : Setting} {file : Path} {s next : Resolver} {t : Token}
    {source : Source} {text : Text} (h : step env file s t = .expand source text next) :
    (free env next.active).length < (free env s.active).length := by
  obtain ⟨hmem, hfree, hnext⟩ := of_step h
  rw [hnext]
  have hsub : free env (source.path.components :: s.active) =
      (free env s.active).filter fun other => other.path.components ≠ source.path.components := by
    simp only [free, List.filter_filter]
    congr 1
    funext other
    simp [not_or]
  rw [hsub]
  apply List.length_filter_lt_length_iff_exists.2
  exact ⟨source, by simp [free, hmem, hfree], by simp⟩

/-- The state behind the file that is being expanded. -/
def leave (s : Resolver) : Resolver := { s with active := s.active.tail }

/-- Behind an expansion the active files are those before it. -/
theorem active_leave {env : Setting} {file : Path} {s next inner : Resolver} {t : Token}
    {source : Source} {text : Text} (h : step env file s t = .expand source text next)
    (hinner : inner.active = next.active) : inner.leave.active = s.active := by
  simp only [leave, hinner, (of_step h).2.2, List.tail_cons]

/-- Carries out the tokens of a file.  The files that are active afterwards are those
    that were active before. -/
def carryOut (env : Setting) (file : Path) (s : Resolver) :
    List Token → { r : Resolver // r.active = s.active }
  | [] => ⟨s, rfl⟩
  | t :: rest =>
    match h : step env file s t with
    | .done next =>
      let r := carryOut env file next rest
      ⟨r.1, r.2.trans (active_of_step h)⟩
    | .expand source text next =>
      let inner := carryOut env source.path next (Token.scan text)
      let r := carryOut env file inner.1.leave rest
      ⟨r.1, r.2.trans (active_leave h inner.2)⟩
termination_by tokens => ((free env s.active).length, tokens.length)
decreasing_by
  · rw [active_of_step h, Prod.lex_def]; simp
  · exact Prod.Lex.left _ _ (free_lt_of_step h)
  · rw [active_leave h inner.2, Prod.lex_def]; simp

/-- The state after the tokens of a file. -/
def walk (env : Setting) (file : Path) (s : Resolver) (tokens : List Token) : Resolver :=
  (carryOut env file s tokens).1

section
variable {env : Setting} {file : Path} {s next : Resolver} {t : Token}

@[simp] theorem walk_nil : walk env file s [] = s := by rw [walk, carryOut]

theorem walk_done (h : step env file s t = .done next) (rest : List Token) :
    walk env file s (t :: rest) = walk env file next rest := by
  rw [walk, carryOut]
  split
  · next h' => cases h.symm.trans h'; rfl
  · next h' => cases h.symm.trans h'

theorem walk_expand {source : Source} {text : Text}
    (h : step env file s t = .expand source text next) (rest : List Token) :
    walk env file s (t :: rest) =
      walk env file (walk env source.path next (Token.scan text)).leave rest := by
  rw [walk, carryOut]
  split
  · next h' => cases h.symm.trans h'
  · next h' => cases h.symm.trans h'; rfl

/-- Every file that becomes active during a walk is left again. -/
@[simp] theorem active_walk (tokens : List Token) : (walk env file s tokens).active = s.active :=
  (carryOut env file s tokens).2

@[simp] theorem result_leave : s.leave.result = s.result := rfl

end

/-- Induction along a walk, token by token and through the expanded files. -/
theorem walk_induction (env : Setting) {motive : Path → Resolver → List Token → Prop}
    (nil : ∀ file s, motive file s [])
    (done : ∀ file s t rest next, step env file s t = .done next → motive file next rest →
      motive file s (t :: rest))
    (expand : ∀ file s t rest source text next, step env file s t = .expand source text next →
      motive source.path next (Token.scan text) →
      motive file (walk env source.path next (Token.scan text)).leave rest →
      motive file s (t :: rest)) :
    ∀ file s tokens, motive file s tokens := by
  intro file s tokens
  induction file, s, tokens using carryOut.induct env with
  | case1 file s => exact nil file s
  | case2 file s t rest next h ih => exact done file s t rest next h ih
  | case3 file s t rest source text next h inner ih ih' =>
    exact expand file s t rest source text next h ih ih'

/-- A walk goes on where it has stopped. -/
theorem walk_append (env : Setting) (file : Path) (s : Resolver) (tokens rest : List Token) :
    walk env file s (tokens ++ rest) = walk env file (walk env file s tokens) rest := by
  induction tokens generalizing s with
  | nil => simp
  | cons t tokens ih =>
    rcases h : step env file s t with next | ⟨source, text, next⟩
    · rw [List.cons_append, walk_done h, walk_done h, ih]
    · rw [List.cons_append, walk_expand h, walk_expand h, ih]

end Resolver

/-- Resolves the template of a path and a text. -/
def resolve (env : Resolver.Setting) (path : Path) (text : Text) : Resolution :=
  (Resolver.walk env path .start (Token.scan text)).result

end Stencil
