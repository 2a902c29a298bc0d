/-
  Directives that fail.

  * `Fails env s t kind`: the directive fails in a state, for the cause that the error names;
    it is told by the directive, the lookup and the state, not by the walk;
  * `Adds env file s t r`: what a token adds to the results, short of expanding a file;
  * `Contained`: what carrying out a token leaves as it was.

  A failing directive adds its own error and no other result (`Fails.result_step`), and a step
  that adds an error is that of a failing directive (`fails_iff`), so the errors of a run are
  counted by the moments at which a directive fails (`Moment.Passes.length_errors`).

  Main statement: `failure_contained`.
-/
import Stencil.Proofs.Resolution.Once

namespace Stencil.Resolver

/-! ## Kinds of sections -/

/-- The kind of section that a token becomes: text, code and expressions are sections of their
    kinds, and a directive is none. -/
inductive Becomes : Token.Kind → Section.Kind → Prop
  | text : Becomes .text .text
  | code : Becomes .code .code
  | expression : Becomes .expression .expression

theorem ofToken?_eq_some_iff {k : Token.Kind} {kind : Section.Kind} :
    Section.Kind.ofToken? k = some kind ↔ Becomes k kind := by
  constructor
  · intro h
    cases k <;> cases h <;> constructor
  · rintro (_ | _ | _) <;> rfl

/-! ## Failing -/

/-- The directive of a token fails in a state, for a cause. -/
inductive Fails (env : Setting) (s : Resolver) (t : Token) : DirectiveError.Kind → Prop
  /-- The directive is unknown, or its attributes are malformed. -/
  | malformed {fault} : t.kind = .directive → Directive.read t.content = .error fault →
      Fails env s t (.ofFault fault)
  /-- The name of the file does not have the extension of include files. -/
  | unsupported {name once} : t.kind = .directive →
      Directive.read t.content = .ok (.includeFile name once) →
      (Text.stripEnd? ('.' :: env.includeExtension) name).isNone →
      Fails env s t .unsupportedExtension
  | notFound {name once} : t.kind = .directive →
      Directive.read t.content = .ok (.includeFile name once) →
      (Text.stripEnd? ('.' :: env.includeExtension) name).isSome →
      env.lookup.candidates name = [] → Fails env s t .includeNotFound
  | duplicated {name once} : t.kind = .directive →
      Directive.read t.content = .ok (.includeFile name once) →
      (Text.stripEnd? ('.' :: env.includeExtension) name).isSome →
      2 ≤ (env.lookup.candidates name).length → Fails env s t .includeDuplicated
  /-- The file is being expanded, and is not passed over. -/
  | cyclic {name once source} : Selects env t name once source →
      (once = true → source.path.components ∉ s.chosen) →
      source.path.components ∈ s.active → Fails env s t .cyclicInclude
  | unreadable {name once source cause} : Selects env t name once source →
      (once = true → source.path.components ∉ s.chosen) →
      source.path.components ∉ s.active → source.text = .error cause →
      Fails env s t (.ofReadFailure name cause)

/-- What a token of a file adds to the results before a file is expanded. -/
inductive Adds (env : Setting) (file : Path) (s : Resolver) (t : Token) : Resolution → Prop
  | plain {kind} : Section.Kind.ofToken? t.kind = some kind →
      Adds env file s t (.ofSection ⟨kind, file, t.position, t.content⟩)
  | failed {kind} : Fails env s t kind → Adds env file s t (failure file t kind)
  | imported {module binding} : t.kind = .directive →
      Directive.read t.content = .ok (.importModule module binding) →
      Adds env file s t (.ofImport ⟨module, binding, file, t.position⟩)
  | libraries : t.kind = .directive → Adds env file s t .withLibraries
  | program : t.kind = .directive → Adds env file s t .withProgram
  /-- An include that is passed over, or that expands its file. -/
  | nothing : t.kind = .directive → Adds env file s t .empty

section
variable {env : Setting} {file : Path} {s : Resolver} {t : Token} {kind : DirectiveError.Kind}

theorem Fails.directive (h : Fails env s t kind) : t.kind = .directive := by
  cases h with
  | malformed hk | unsupported hk | notFound hk | duplicated hk => exact hk
  | cyclic hs | unreadable hs => exact hs.directive

/-- A failing directive is done, and all that it adds is its error. -/
theorem Fails.exists_done (h : Fails env s t kind) (file : Path) : ∃ next,
    step env file s t = .done next ∧ next.result = s.result ++ failure file t kind := by
  cases h with
  | malformed hk hr => exact ⟨_, step_eq_of_outcome (.malformed hk hr), rfl⟩
  | unsupported hk hr he => exact ⟨_, step_eq_of_outcome (.unsupported hk hr he), rfl⟩
  | notFound hk hr he hc => exact ⟨_, step_eq_of_outcome (.notFound hk hr he hc), rfl⟩
  | duplicated hk hr he hc => exact ⟨_, step_eq_of_outcome (.duplicated hk hr he hc), rfl⟩
  | cyclic hs hc ha => exact ⟨_, step_eq_of_outcome (.cyclic hs hc ha), by simp⟩
  | unreadable hs hc ha ht => exact ⟨_, step_eq_of_outcome (.unreadable hs hc ha ht), by simp⟩

theorem Fails.result_step (h : Fails env s t kind) (file : Path) :
    (step env file s t).state.result = s.result ++ failure file t kind := by
  obtain ⟨next, hstep, hresult⟩ := h.exists_done file
  rw [hstep]
  exact hresult

/-- **Every step adds results in one of six ways.** -/
theorem exists_adds (env : Setting) (file : Path) (s : Resolver) (t : Token) :
    ∃ r, Adds env file s t r ∧ (step env file s t).state.result = s.result ++ r := by
  have ho : Outcome env file s t (step env file s t) := outcome_step
  have hfail : ∀ {kind}, Fails env s t kind → ∃ r, Adds env file s t r ∧
      (step env file s t).state.result = s.result ++ r := by
    intro kind h
    exact ⟨_, .failed h, h.result_step file⟩
  generalize h : step env file s t = result at ho hfail ⊢
  cases ho with
  | plain hk => exact ⟨_, .plain hk, rfl⟩
  | malformed hk hr => exact hfail (.malformed hk hr)
  | imported hk hr => exact ⟨_, .imported hk hr, rfl⟩
  | libraries hk _ => exact ⟨_, .libraries hk, rfl⟩
  | program hk _ => exact ⟨_, .program hk, rfl⟩
  | unsupported hk hr he => exact hfail (.unsupported hk hr he)
  | notFound hk hr he hc => exact hfail (.notFound hk hr he hc)
  | duplicated hk hr he hc => exact hfail (.duplicated hk hr he hc)
  | skipped hs _ => exact ⟨_, .nothing hs.directive, by simp [Step.state]⟩
  | cyclic hs hc ha => exact hfail (.cyclic hs hc ha)
  | unreadable hs hc ha ht => exact hfail (.unreadable hs hc ha ht)
  | expanded hs _ _ _ => exact ⟨_, .nothing hs.directive, by simp [Step.state]⟩

/-- Only a failing directive adds an error. -/
theorem Adds.errors {r : Resolution} (h : Adds env file s t r) (hr : r.errors ≠ []) :
    ∃ kind, Fails env s t kind := by
  cases h with
  | failed h => exact ⟨_, h⟩
  | plain | imported | libraries | program | nothing => exact absurd rfl hr

/-- **A directive fails exactly if its step adds an error.** -/
theorem fails_iff (file : Path) : (∃ kind, Fails env s t kind) ↔
    (step env file s t).state.result.errors ≠ s.result.errors := by
  constructor
  · rintro ⟨kind, h⟩
    rw [h.result_step file]
    simp [failure, Resolution.ofError]
  · intro h
    obtain ⟨r, hadds, hr⟩ := exists_adds env file s t
    refine hadds.errors fun hnil => h ?_
    rw [hr, Resolution.errors_append, hnil, List.append_nil]

/-- A step adds one error if the directive fails, and none otherwise. -/
theorem length_errors_step (file : Path) [Decidable (∃ kind, Fails env s t kind)] :
    (step env file s t).state.result.errors.length =
      s.result.errors.length + if ∃ kind, Fails env s t kind then 1 else 0 := by
  split
  · next h =>
    obtain ⟨kind, h⟩ := h
    rw [h.result_step file]
    simp [failure, Resolution.ofError]
  · next h =>
    rw [fails_iff file, not_not] at h
    rw [h, Nat.add_zero]

end

/-! ## What is left as it was -/

/-- Carrying out a token of a file, with all that it expands, leads from the first state to the
    second one and leaves what was there. -/
structure Contained (env : Setting) (file : Path) (t : Token) (s s' : Resolver) : Prop where
  active : s'.active = s.active
  chosen : s.chosen ⊆ s'.chosen
  sections : s.result.sections <+: s'.result.sections
  imports : s.result.imports <+: s'.result.imports
  errors : s.result.errors <+: s'.result.errors
  libraries : s.result.appendLibraries = true → s'.result.appendLibraries = true
  program : s.result.appendProgram = true → s'.result.appendProgram = true
  /-- A directive that fails adds the error that names it, and no other result. -/
  failed : ∀ kind, Fails env s t kind → s'.result =
    { s.result with errors := s.result.errors ++ [⟨kind, file, t.position, t.content⟩] }

section
variable {env : Setting} {file : Path} {s : Resolver} {t : Token}

/-- A walk adds to the results. -/
theorem exists_result_walk (env : Setting) (file : Path) (s : Resolver) (tokens : List Token) :
    ∃ r, (walk env file s tokens).result = s.result ++ r := by
  induction file, s, tokens using walk_induction env with
  | nil file s => exact ⟨.empty, by simp⟩
  | done file s t rest next h ih =>
    obtain ⟨r, -, hr⟩ := exists_adds env file s t
    obtain ⟨r', hr'⟩ := ih
    rw [h, Step.state] at hr
    exact ⟨r ++ r', by rw [walk_done h, hr', hr, Resolution.append_assoc]⟩
  | expand file s t rest source text next h ih ih' =>
    obtain ⟨r, -, hr⟩ := exists_adds env file s t
    obtain ⟨inside, hinside⟩ := ih
    obtain ⟨behind, hbehind⟩ := ih'
    rw [h, Step.state] at hr
    refine ⟨r ++ (inside ++ behind), ?_⟩
    rw [walk_expand h, hbehind, result_leave, hinside, hr, Resolution.append_assoc,
      Resolution.append_assoc]

/-- **An entry that a walk adds is added by a token**, of its own file or of one of the lookup. -/
theorem exists_adds_of_mem_walk {α : Type} {entries : Resolution → List α}
    (happend : ∀ r r', entries (r ++ r') = entries r ++ entries r') (env : Setting) (file : Path)
    (s : Resolver) (tokens : List Token) {x : α}
    (hx : x ∈ entries (walk env file s tokens).result) :
    x ∈ entries s.result ∨ ∃ file' s' t r,
      (file' = file ∨ ∃ source ∈ env.lookup.sources, file' = source.path) ∧
      Adds env file' s' t r ∧ x ∈ entries r := by
  -- what a step adds is added by its token
  have hstep : ∀ (file : Path) (s : Resolver) (t : Token),
      x ∈ entries (step env file s t).state.result →
      x ∈ entries s.result ∨ ∃ r, Adds env file s t r ∧ x ∈ entries r := by
    intro file s t hx
    obtain ⟨r, hadds, hr⟩ := exists_adds env file s t
    rw [hr, happend, List.mem_append] at hx
    exact hx.imp_right fun hx => ⟨r, hadds, hx⟩
  induction file, s, tokens using walk_induction env with
  | nil file s => exact .inl (by rwa [walk_nil] at hx)
  | done file s t rest next h ih =>
    rw [walk_done h] at hx
    rcases ih hx with hx | hx
    · have := hstep file s t (by rwa [h])
      exact this.imp_right fun ⟨r, hadds, hx⟩ => ⟨file, s, t, r, .inl rfl, hadds, hx⟩
    · exact .inr hx
  | expand file s t rest source text next h ih ih' =>
    rw [walk_expand h] at hx
    rcases ih' hx with hx | hx
    · rcases ih hx with hx | ⟨file', s', t', r, hfile, hadds, hx⟩
      · have := hstep file s t (by rwa [h])
        exact this.imp_right fun ⟨r, hadds, hx⟩ => ⟨file, s, t, r, .inl rfl, hadds, hx⟩
      · -- the expanded file is one of the lookup
        exact .inr ⟨file', s', t', r,
          hfile.elim (fun heq => .inr ⟨source, (of_step h).1, heq⟩) .inr, hadds, hx⟩
    · exact .inr hx

/-- **Every error of a resolution is that of a directive which fails**, in the template or in a file
    of the lookup. -/
theorem exists_fails_of_mem_errors {path : Path} {text : Text} {e : DirectiveError}
    (he : e ∈ (resolve env path text).errors) : ∃ s t, Fails env s t e.kind ∧
      e.content = t.content ∧ (e.file = path ∨ ∃ source ∈ env.lookup.sources, e.file = source.path) := by
  obtain ⟨file, s, t, r, hfile, hadds, hr⟩ :=
    (exists_adds_of_mem_walk Resolution.errors_append env path .start _ he).resolve_left
      List.not_mem_nil
  cases hadds with
  | failed hfails =>
    rw [List.mem_singleton.1 hr]
    exact ⟨s, t, hfails, rfl, hfile⟩
  | plain | imported | libraries | program | nothing => exact absurd hr List.not_mem_nil

theorem Fails.result_walk {kind : DirectiveError.Kind} (h : Fails env s t kind) :
    (walk env file s [t]).result = s.result ++ failure file t kind := by
  obtain ⟨next, hstep, hresult⟩ := h.exists_done file
  rw [walk_done hstep, walk_nil, hresult]

/-- A template whose only token is a failing directive resolves to the error. -/
theorem Fails.resolve_eq {text : Text} {kind : DirectiveError.Kind} (h : Fails env .start t kind)
    (hscan : Token.scan text = [t]) (path : Path) : resolve env path text = failure path t kind := by
  rw [resolve, hscan, h.result_walk]
  exact Resolution.empty_append _

/-- **What was there before a token is there after it**, and if its directive fails, one error is
    new. -/
theorem contained_walk (env : Setting) (file : Path) (s : Resolver) (t : Token) :
    Contained env file t s (walk env file s [t]) := by
  obtain ⟨r, hr⟩ := exists_result_walk env file s [t]
  refine ⟨active_walk [t], fun key hkey => mem_chosen_walk (.inl hkey), ?_, ?_, ?_, ?_, ?_, ?_⟩
  · exact ⟨r.sections, by rw [hr, Resolution.sections_append]⟩
  · exact ⟨r.imports, by rw [hr, Resolution.imports_append]⟩
  · exact ⟨r.errors, by rw [hr, Resolution.errors_append]⟩
  · intro h
    rw [hr, Resolution.append_def, h, Bool.true_or]
  · intro h
    rw [hr, Resolution.append_def, h, Bool.true_or]
  · intro kind h
    rw [h.result_walk]
    simp [failure, Resolution.ofError, Resolution.append_def, Resolution.empty]

end

/-! ## Counting failures -/

namespace Moment

/-- The token that comes next is a directive that fails. -/
def Fails (env : Setting) (m : Moment) : Prop :=
  ∃ t ∈ m.token?, ∃ kind, Resolver.Fails env m.state t kind

/-- Whether a directive fails is seen by the errors that its step adds. -/
instance (env : Setting) (m : Moment) : Decidable (m.Fails env) :=
  decidable_of_iff (∃ t ∈ m.token?,
      (step env m.current.file m.state t).state.result.errors ≠ m.state.result.errors) <| by
    simp only [Fails, fails_iff m.current.file]

variable {env : Setting} {m m' : Moment}

/-- From one moment to the next one, there is one error more if a directive fails. -/
theorem length_errors_next? (h : next? env m = some m') : m'.state.result.errors.length =
    m.state.result.errors.length + if m.Fails env then 1 else 0 := by
  obtain ⟨s, file, frame, outer, rfl, rfl⟩ | ⟨s, file, t, rest, outer, rfl, hstate⟩ :=
    leave_or_step h
  · rw [if_neg (by rintro ⟨t, ht, -⟩; simp [token?] at ht)]
    rfl
  · have hfails : (Moment.mk s ⟨file, t :: rest⟩ outer).Fails env ↔
        ∃ kind, Resolver.Fails env s t kind := by
      simp [Fails, token?]
    have : Decidable (∃ kind, Resolver.Fails env s t kind) := decidable_of_iff _ hfails
    rw [hstate, length_errors_step file]
    simp only [hfails]

/-- **The new errors between two moments are as many as the directives that fail there.** -/
theorem Passes.length_errors {passed : List Moment} (h : Passes env m passed m') :
    m'.state.result.errors.length =
      m.state.result.errors.length + passed.countP fun m => decide (m.Fails env) := by
  induction h with
  | refl => simp
  | head hnext _ ih =>
    rw [ih, length_errors_next? hnext, List.countP_cons]
    simp only [decide_eq_true_eq]
    omega

end Moment

/-- **A directive that fails is contained.**  In every state, carrying out a token leaves the
    active files as they were, keeps all that was chosen and found, and switches no flag off; if
    its directive fails, the one error that names it is all that is added.  So a resolution has
    as many errors as directives have failed in the template and in all files that were
    expanded. -/
theorem failure_contained (env : Setting) (path : Path) (text : Text) :
    (∀ file s t, Contained env file t s (walk env file s [t])) ∧
    ∃ passed last, Moment.Passes env (.start path text) passed last ∧ last.next? env = none ∧
      last.state.result = resolve env path text ∧
      (resolve env path text).errors.length = passed.countP fun m => decide (m.Fails env) := by
  obtain ⟨passed, hpasses, -, -⟩ := exists_passes env path .start (Token.scan text) []
  refine ⟨contained_walk env, passed, _, hpasses, rfl, rfl, ?_⟩
  have hlength := hpasses.length_errors
  simpa [resolve, start, Resolution.empty] using hlength

end Stencil.Resolver
