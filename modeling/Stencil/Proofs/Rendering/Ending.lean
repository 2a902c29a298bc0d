/-
  The ends of a rendering, and what a request to stop leaves of them.

  * `Ends backend ext request f ending f'`: with the flag `f`, the rendering of the request ends
    so and leaves the flag `f'`; one constructor for each way out, those with a look at the flag
    in front (`stoppedFirst`, `stoppedCompiled`, `executed`) apart from those without one
    (`unreadable`, `refused`, `rejected`);
  * `ends_iff`: the ends are those of `render`;
  * `Backend.SteadyCompiler`, `Backend.SteadyExecutor`: what a backend answers does not depend on
    the flag, the answer to a request to stop apart.

  Main statements: a request to stop suppresses a rendering or leaves it as it is
  (`render_steady`), and it suppresses all renderings but those that end without a look
  (`cancelled_render`).
-/
import Stencil.Rendering

namespace Stencil

open Cancellation

/-! ## Flags -/

namespace Cancellation.Flag

@[simp] theorem isSet_set : set.isSet = true := rfl

@[simp] theorem isSet_never : never.isSet = false := rfl

@[simp] theorem afterLook_never : never.afterLook = never := rfl

/-- A flag that is set stays set. -/
theorem afterLook_of_isSet {f : Flag} (h : f.isSet = true) : f.afterLook = f := by
  obtain ⟨quiet⟩ := f
  simp only [isSet, decide_eq_true_eq] at h
  subst h
  rfl

theorem isSet_afterLook {f : Flag} (h : f.isSet = true) : f.afterLook.isSet = true := by
  rwa [afterLook_of_isSet h]

end Cancellation.Flag

/-! ## The ends of a rendering -/

namespace Rendering

/-- The program of the template of a request, given its text. -/
def program (includeExtension : Text) (request : RenderRequest) (text : Text) : Program :=
  .write (resolution includeExtension request text) request.template.path request.locale?

variable {backend : Backend} {ext : Text} {request : RenderRequest} {f f' : Flag}

/-- The rendering of a request ends so, and leaves the flag so. -/
inductive Ends (backend : Backend) (ext : Text) (request : RenderRequest) (f : Flag) :
    Ending → Flag → Prop
  /-- The template has no text. -/
  | unreadable {failure} : request.template.text = .error failure →
      Ends backend ext request f (.unreadable failure) f
  /-- Directives of the template fail. -/
  | refused {text} : request.template.text = .ok text →
      (resolution ext request text).isOk = false →
      Ends backend ext request f (.generated (file request
        (resolution ext request text).errorComments .directiveErrors []) none) f
  /-- The look before the compilation finds the flag set. -/
  | stoppedFirst {text} : request.template.text = .ok text →
      (resolution ext request text).isOk = true → f.isSet = true →
      Ends backend ext request f .cancelled f.afterLook
  /-- The program does not compile. -/
  | rejected {text diagnostics f'} : request.template.text = .ok text →
      (resolution ext request text).isOk = true → f.isSet = false →
      backend.compile (program ext request text) f.afterLook = (.error diagnostics, f') →
      Ends backend ext request f
        (rejected (file request) text (program ext request text) diagnostics) f'
  /-- The look after the compilation finds the flag set. -/
  | stoppedCompiled {text a f'} : request.template.text = .ok text →
      (resolution ext request text).isOk = true → f.isSet = false →
      backend.compile (program ext request text) f.afterLook = (.ok a, f') → f'.isSet = true →
      Ends backend ext request f .cancelled f'.afterLook
  /-- The program is executed, unless the backend finds the flag set. -/
  | executed {text a f' execution f''} : request.template.text = .ok text →
      (resolution ext request text).isOk = true → f.isSet = false →
      backend.compile (program ext request text) f.afterLook = (.ok a, f') → f'.isSet = false →
      backend.execute a f'.afterLook = (execution, f'') →
      Ends backend ext request f (ended (file request) (resolution ext request text)
        (program ext request text) a execution) f''

/-- Every rendering ends in one of these ways. -/
theorem ends_render (backend : Backend) (ext : Text) (request : RenderRequest) (f : Flag) :
    Ends backend ext request f (render backend ext request f).1
      (render backend ext request f).2 := by
  unfold render
  split
  · next failure htext => exact .unreadable htext
  · next text htext =>
    cases hr : (resolution ext request text).isOk with
    | false =>
      simp only [hr, Bool.false_eq_true, if_false]
      exact .refused htext hr
    | true =>
      simp only [hr, if_true]
      rw [build]
      cases hf : f.isSet with
      | true =>
        simp only [if_true]
        exact .stoppedFirst htext hr hf
      | false =>
        simp only [Bool.false_eq_true, if_false]
        split
        · next diagnostics f' hcompile => exact .rejected htext hr hf hcompile
        · next a f' hcompile =>
          cases hf' : f'.isSet with
          | true =>
            simp only [if_true]
            exact .stoppedCompiled htext hr hf hcompile hf'
          | false =>
            simp only [Bool.false_eq_true, if_false]
            exact .executed htext hr hf hcompile hf' rfl

/-- A rendering ends in one way. -/
theorem Ends.eq_render {ending : Ending} (h : Ends backend ext request f ending f') :
    render backend ext request f = (ending, f') := by
  cases h with
  | unreadable htext => simp only [render, htext]
  | refused htext hr => simp only [render, htext, hr, Bool.false_eq_true, if_false]
  | stoppedFirst htext hr hf => simp only [render, htext, hr, build, hf, if_true]
  | rejected htext hr hf hcompile =>
    simp only [program] at hcompile
    simp only [render, htext, hr, build, hf, hcompile, if_true, Bool.false_eq_true, if_false,
      program]
  | stoppedCompiled htext hr hf hcompile hf' =>
    simp only [program] at hcompile
    simp only [render, htext, hr, build, hf, hcompile, hf', if_true, Bool.false_eq_true, if_false]
  | executed htext hr hf hcompile hf' hexecute =>
    simp only [program] at hcompile
    simp only [render, htext, hr, build, hf, hcompile, hf', hexecute, if_true,
      Bool.false_eq_true, if_false, program]

/-- **The ends of a rendering are those of `render`.** -/
theorem ends_iff {ending : Ending} :
    Ends backend ext request f ending f' ↔ render backend ext request f = (ending, f') := by
  constructor
  · exact Ends.eq_render
  · intro h
    have hends := ends_render backend ext request f
    rw [h] at hends
    exact hends

end Rendering

/-- If a computation and the one after it end, so does the first one. -/
theorem Lua.Eval.exists_of_bind_eq_ok {α β : Type} {x : Eval α} {g : α → Eval β} {s s' : Store}
    {b : β} (h : (x >>= g) s = .ok b s') : ∃ a s₁, x s = .ok a s₁ ∧ g a s₁ = .ok b s' := by
  change EStateM.bind x g s = .ok b s' at h
  rw [EStateM.bind] at h
  split at h
  · next a s₁ hx => exact ⟨a, s₁, hx, h⟩
  · cases h

/-! ## Steady backends -/

/-- The compiler does not depend on the flag: its answers are the same for all flags, and a flag
    that is never set is not set by it.  Another party may set a flag while the compiler runs. -/
structure Backend.SteadyCompiler (backend : Backend) : Prop where
  answers : ∀ p f, (backend.compile p f).1 = (backend.compile p .never).1
  unset : ∀ p, (backend.compile p .never).2 = .never

/-- The executor answers a request to stop, or what it answers without one. -/
def Backend.SteadyExecutor (backend : Backend) : Prop :=
  ∀ a f, (backend.execute a f).1 = .cancelled ∨
    (backend.execute a f).1 = (backend.execute a .never).1

theorem Execution.run_never [Lua.Locales] (a : Artifact) : run a .never = (ofArtifact a, .never) := rfl

/-- The Lua executor looks twice at the flag before it runs the program. -/
theorem Execution.run_cancelled_or [Lua.Locales] (a : Artifact) (f : Flag) :
    (run a f).1 = .cancelled ∨ (run a f).1 = (run a .never).1 := by
  rw [run_never, run]
  dsimp only
  split
  · exact Or.inl rfl
  · split
    · exact Or.inl rfl
    · exact Or.inr rfl

/-- A program that is run ends with its output or with a fault. -/
theorem Execution.ofArtifact_ne_cancelled [Lua.Locales] (a : Artifact) :
    ofArtifact a ≠ .cancelled := by
  rw [ofArtifact]
  split
  · next execution s hevaluate =>
    rintro rfl
    obtain ⟨answer, s₁, -, hanswer⟩ := Lua.Eval.exists_of_bind_eq_ok hevaluate
    cases answer with
    | ok output => cases hanswer
    | error failure =>
      obtain ⟨message, s₂, -, hmessage⟩ := Lua.Eval.exists_of_bind_eq_ok hanswer
      cases hmessage
  · intro h
    cases h

/-- The Lua executor answers a request to stop only if a look has found the flag set. -/
theorem Execution.isSet_of_run [Lua.Locales] {a : Artifact} {f f' : Flag}
    (h : run a f = (.cancelled, f')) : f'.isSet = true := by
  rw [run] at h
  dsimp only at h
  split at h
  · next hset =>
    cases h
    exact Flag.isSet_afterLook hset
  · split at h
    · next hset =>
      cases h
      exact Flag.isSet_afterLook hset
    · exact absurd (congrArg Prod.fst h) (ofArtifact_ne_cancelled a)

theorem Backend.steadyExecutor_of_run [Lua.Locales] {backend : Backend}
    (h : backend.execute = Execution.run) : backend.SteadyExecutor := by
  intro a f
  rw [h]
  exact Execution.run_cancelled_or a f

theorem Backend.lua_steadyCompiler [Lua.Locales] (libraries : Libraries) :
    (Backend.lua libraries).SteadyCompiler :=
  ⟨fun _ _ => rfl, fun _ => rfl⟩

theorem Backend.lua_steadyExecutor [Lua.Locales] (libraries : Libraries) :
    (Backend.lua libraries).SteadyExecutor :=
  steadyExecutor_of_run rfl

/-- What a steady compiler answers, it answers to a flag that is never set. -/
theorem Backend.SteadyCompiler.compile_never {backend : Backend} (h : backend.SteadyCompiler)
    {p : Program} {f f' : Flag} {answer : Except (List Diagnostic) Artifact}
    (hcompile : backend.compile p f = (answer, f')) : backend.compile p .never = (answer, .never) := by
  have hanswer := h.answers p f
  rw [hcompile] at hanswer
  exact Prod.ext hanswer.symm (h.unset p)

namespace Rendering

variable {backend : Backend} {ext : Text} {request : RenderRequest} {f f' : Flag} {ending : Ending}

/-- **A steady backend ends a rendering with a request to stop, or as if there were none.** -/
theorem Ends.never (hcompiler : backend.SteadyCompiler) (hexecutor : backend.SteadyExecutor)
    (h : Ends backend ext request f ending f') :
    ending = .cancelled ∨ ∃ f₀, Ends backend ext request .never ending f₀ := by
  cases h with
  | unreadable htext => exact Or.inr ⟨_, .unreadable htext⟩
  | refused htext hr => exact Or.inr ⟨_, .refused htext hr⟩
  | stoppedFirst => exact Or.inl rfl
  | rejected htext hr _ hcompile =>
    exact Or.inr ⟨_, .rejected htext hr rfl (hcompiler.compile_never hcompile)⟩
  | stoppedCompiled => exact Or.inl rfl
  | @executed text a f₁ execution f₂ htext hr _ hcompile _ hexecute =>
    have hanswer := hexecutor a f₁.afterLook
    rw [hexecute] at hanswer
    rcases hanswer with hcancelled | hsame
    · obtain rfl : execution = .cancelled := hcancelled
      exact Or.inl rfl
    · exact Or.inr ⟨(backend.execute a .never).2, .executed htext hr rfl
        (hcompiler.compile_never hcompile) rfl (Prod.ext hsame.symm rfl)⟩

theorem ending_render (hcompiler : backend.SteadyCompiler) (hexecutor : backend.SteadyExecutor)
    (ext : Text) (request : RenderRequest) (f : Flag) :
    (render backend ext request f).1 = .cancelled ∨
      (render backend ext request f).1 = (render backend ext request .never).1 := by
  rcases (ends_render backend ext request f).never hcompiler hexecutor with h | ⟨f₀, h⟩
  · exact Or.inl h
  · rw [h.eq_render]
    exact Or.inr rfl

theorem ended_eq_cancelled_iff {file : Text → Outcome → List Diagnostic → Generated}
    {r : Resolution} {p : Program} {a : Artifact} {execution : Execution} :
    ended file r p a execution = .cancelled ↔ execution = .cancelled := by
  cases execution <;> simp [ended]

/-- A rendering by Lua that was stopped leaves the flag set. -/
theorem Ends.isSet_of_cancelled [Lua.Locales] {libraries : Libraries}
    (h : Ends (.lua libraries) ext request f ending f') (hending : ending = .cancelled) :
    f'.isSet = true := by
  cases h with
  | unreadable | refused | rejected => cases hending
  | stoppedFirst _ _ hf | stoppedCompiled _ _ _ _ hf => exact Flag.isSet_afterLook hf
  | executed _ _ _ _ _ hexecute =>
    rw [ended_eq_cancelled_iff.1 hending] at hexecute
    exact Execution.isSet_of_run hexecute

/-- A rendering by Lua sets no flag. -/
theorem Ends.eq_never [Lua.Locales] {libraries : Libraries}
    (h : Ends (.lua libraries) ext request .never ending f') : f' = .never := by
  cases h with
  | unreadable | refused => rfl
  | stoppedFirst _ _ hf => cases hf
  | rejected _ _ _ hcompile => exact (congrArg Prod.snd hcompile).symm
  | stoppedCompiled _ _ _ hcompile hf =>
    obtain rfl := congrArg Prod.snd hcompile
    cases hf
  | executed _ _ _ hcompile _ hexecute =>
    obtain rfl := congrArg Prod.snd hcompile
    exact (congrArg Prod.snd hexecute).symm

theorem Ends.of_unreadable {failure : ReadFailure} (h : Ends backend ext request f ending f')
    (hending : ending = .unreadable failure) : request.template.text = .error failure := by
  cases h with
  | unreadable htext =>
    cases hending
    exact htext
  | refused | stoppedFirst | rejected | stoppedCompiled => cases hending
  | @executed _ _ _ execution => cases execution <;> cases hending

/-- The file has the name that the request asks for, and without a fault no diagnostics. -/
theorem Ends.of_generated {g : Generated} (h : Ends backend ext request f ending f')
    (hg : ending.generated? = some g) :
    g.fileName = request.fileName ∧ (g.outcome = .rendered → g.diagnostics = []) := by
  cases h with
  | unreadable | stoppedFirst | stoppedCompiled => cases hg
  | refused =>
    cases hg
    exact ⟨rfl, fun _ => rfl⟩
  | rejected =>
    cases hg
    exact ⟨rfl, nofun⟩
  | @executed _ _ _ execution =>
    cases execution with
    | rendered | faulted =>
      cases hg
      exact ⟨rfl, fun _ => rfl⟩
    | cancelled => cases hg

end Rendering

/-- **A request to stop suppresses a rendering, and never changes it.** -/
theorem render_steady [Lua.Locales] (backend : Backend) (hcompiler : backend.SteadyCompiler)
    (hexecutor : backend.execute = Execution.run ∨ backend.SteadyExecutor) (ext : Text)
    (request : RenderRequest) (f : Flag) :
    (render backend ext request f).1.generated? = none ∨
      (render backend ext request f).1.generated? =
        (render backend ext request .never).1.generated? := by
  have hsteady : backend.SteadyExecutor := hexecutor.elim Backend.steadyExecutor_of_run id
  rcases Rendering.ending_render hcompiler hsteady ext request f with h | h
  · left
    rw [h]
    rfl
  · right
    rw [h]

/-- The flag is set after the look that follows the compilation. -/
theorem render_steady_lua :
    let _ : Lua.Locales := .single
    let request : RenderRequest :=
      ⟨⟨⟨"m.sgtt".toList⟩, .ok "x".toList⟩, .empty, "m.cs".toList, none⟩
    let backend := Backend.lua .standard
    backend.SteadyCompiler ∧ backend.execute = Execution.run ∧
      ((render backend "ttinc".toList request ⟨some 2⟩).1.generated? = none ∨
        (render backend "ttinc".toList request ⟨some 2⟩).1.generated? =
          (render backend "ttinc".toList request .never).1.generated?) := by
  intro locales request backend
  exact ⟨Backend.lua_steadyCompiler _, rfl,
    render_steady _ (Backend.lua_steadyCompiler _) (Or.inl rfl) _ _ ⟨some 2⟩⟩

/-! ## Requests that are found -/

namespace Rendering

variable {backend : Backend} {ext : Text} {request : RenderRequest} {f f' : Flag} {ending : Ending}

/-- If the flag is set at the beginning, only the errors of directives are left. -/
theorem Ends.generated?_of_isSet (h : Ends backend ext request f ending f') (hf : f.isSet = true) :
    (ending.generated? = none ↔ ∀ text, request.template.text = .ok text →
      (resolution ext request text).isOk = true) ∧
    ∀ g ∈ ending.generated?, g.outcome = .directiveErrors := by
  cases h with
  | unreadable htext => simp [Ending.generated?, htext]
  | refused htext hr => simp [Ending.generated?, htext, hr, file]
  | stoppedFirst htext hr => simp [Ending.generated?, htext, hr]
  | rejected _ _ hf' | stoppedCompiled _ _ hf' | executed _ _ hf' =>
    rw [hf] at hf'
    cases hf'

/-- If the flag is set during the compilation, only the diagnostics of the program are left. -/
theorem Ends.generated?_of_compile (h : Ends backend ext request f ending f') {text : Text}
    (htext : request.template.text = .ok text) (hr : (resolution ext request text).isOk = true)
    (hf : f.isSet = false)
    (hset : (backend.compile (program ext request text) f.afterLook).2.isSet = true) :
    (ending.generated? = none ↔
      ∃ a, (backend.compile (program ext request text) f.afterLook).1 = .ok a) ∧
    ∀ g ∈ ending.generated?, g.outcome = .compileFailed := by
  cases h with
  | unreadable htext' => simp [htext] at htext'
  | refused htext' hr' =>
    obtain rfl := Except.ok.inj (htext.symm.trans htext')
    simp [hr] at hr'
  | stoppedFirst _ _ hf' => simp [hf] at hf'
  | rejected htext' _ _ hcompile =>
    obtain rfl := Except.ok.inj (htext.symm.trans htext')
    simp [hcompile, Rendering.rejected, Ending.generated?, file]
  | stoppedCompiled htext' _ _ hcompile =>
    obtain rfl := Except.ok.inj (htext.symm.trans htext')
    simp [hcompile, Ending.generated?]
  | executed htext' _ _ hcompile hunset =>
    obtain rfl := Except.ok.inj (htext.symm.trans htext')
    simp [hcompile, hunset] at hset

end Rendering

/-- **A request to stop is answered by every rendering that looks at the flag.**  If the flag is
    set when a rendering begins, there is no file unless directives of the template fail; if it
    is set while the program is compiled, there is no file unless the program does not compile. -/
theorem cancelled_render (backend : Backend) (ext : Text) (request : RenderRequest) (f : Flag) :
    let generated? := (render backend ext request f).1.generated?
    (f.isSet = true →
      (generated? = none ↔ ∀ text, request.template.text = .ok text →
        (Rendering.resolution ext request text).isOk = true) ∧
      ∀ g ∈ generated?, g.outcome = .directiveErrors) ∧
    ∀ text, request.template.text = .ok text →
      (Rendering.resolution ext request text).isOk = true → f.isSet = false →
      let compiled := backend.compile (Rendering.program ext request text) f.afterLook
      compiled.2.isSet = true →
        (generated? = none ↔ ∃ a, compiled.1 = .ok a) ∧
        ∀ g ∈ generated?, g.outcome = .compileFailed := by
  intro generated?
  have hends := Rendering.ends_render backend ext request f
  refine ⟨hends.generated?_of_isSet, ?_⟩
  intro text htext hr hf compiled hset
  exact hends.generated?_of_compile htext hr hf hset

/-- A request to render a template of a text. -/
def RenderRequest.ofText (text : Text) : RenderRequest :=
  ⟨⟨⟨"/project/main.sgtt".toList⟩, .ok text⟩, .empty, "out.cs".toList, none⟩

/-- A backend whose compiler is interrupted by a request to stop, and answers an error. -/
def Backend.interrupted : Backend where
  compile _ _ := (.error [⟨"LUA001".toList, .error, "boom".toList,
    ⟨⟨"sgtt_program".toList⟩, 11, 0, 0⟩⟩], .set)
  execute _ f := (.cancelled, f)

/-- The template of one text resolves. -/
theorem isOk_plain :
    (Rendering.resolution "ttinc".toList (.ofText ['x']) ['x']).isOk = true := by
  have hscan : Token.scan ['x'] = [⟨.text, .start, ['x']⟩] := by decide +kernel
  rw [Rendering.resolution, resolve, hscan,
    Resolver.walk_done (Resolver.step_eq_of_outcome (.plain rfl)), Resolver.walk_nil]
  rfl

/-- The template of an unknown directive resolves to one error. -/
theorem resolution_unknown (ext : Text) (request : RenderRequest) :
    Rendering.resolution ext request "<#@ bad #>".toList =
      .ofError ⟨.unknownDirective, request.template.path, ⟨1, 3⟩, " bad ".toList⟩ := by
  have hscan : Token.scan "<#@ bad #>".toList = [⟨.directive, ⟨1, 3⟩, " bad ".toList⟩] := by
    decide +kernel
  have hread : Directive.read " bad ".toList = .error .unknown := rfl
  rw [Rendering.resolution, resolve, hscan,
    Resolver.walk_done (Resolver.step_eq_of_outcome (.malformed rfl hread)), Resolver.walk_nil]
  rfl

theorem cancelled_render_plain :
    let _ : Lua.Locales := .single
    Flag.set.isSet = true ∧
    (render (.lua .standard) "ttinc".toList (.ofText ['x']) .set).1.generated? = none ∧
    Flag.never.isSet = false ∧
    (Backend.interrupted.compile (Rendering.program "ttinc".toList (.ofText ['x']) ['x'])
      Flag.never.afterLook).2.isSet = true ∧
    (render .interrupted "ttinc".toList (.ofText ['x']) .never).1.generated? ≠ none := by
  intro locales
  have hlua := cancelled_render (.lua .standard) "ttinc".toList (.ofText ['x']) .set
  have hinterrupted := cancelled_render .interrupted "ttinc".toList (.ofText ['x']) .never
  refine ⟨rfl, ?_, rfl, rfl, ?_⟩
  · refine (hlua.1 rfl).1.2 fun text htext => ?_
    obtain rfl := Except.ok.inj htext
    exact isOk_plain
  · intro hnone
    obtain ⟨a, ha⟩ := (hinterrupted.2 ['x'] rfl isOk_plain rfl rfl).1.1 hnone
    cases ha

/-- **Two renderings give a file although they were asked to stop**: that of a template whose
    directive fails, and one whose compiler is interrupted and answers an error. -/
theorem render_not_suppressed :
    let _ : Lua.Locales := .single
    (render (.lua .standard) "ttinc".toList (.ofText "<#@ bad #>".toList) .set).1.generated? =
      some ⟨"out.cs".toList, "// /project/main.sgtt(1,4) [UnknownDirective]: bad\n".toList,
        .directiveErrors, []⟩ ∧
    (∀ p f, (Backend.interrupted.compile p f).2 = .set) ∧
    (render .interrupted "ttinc".toList (.ofText ['x']) .never).1.generated? ≠ none := by
  intro locales
  refine ⟨?_, fun _ _ => rfl, ?_⟩
  · have hcomments : (Rendering.resolution "ttinc".toList (.ofText "<#@ bad #>".toList)
        "<#@ bad #>".toList).errorComments =
          "// /project/main.sgtt(1,4) [UnknownDirective]: bad\n".toList := by
      rw [resolution_unknown]
      decide +kernel
    have hrefused : (Rendering.resolution "ttinc".toList (.ofText "<#@ bad #>".toList)
        "<#@ bad #>".toList).isOk = false := by
      rw [resolution_unknown]
      rfl
    rw [(Rendering.Ends.refused rfl hrefused).eq_render, hcomments]
    rfl
  · rw [(Rendering.Ends.rejected rfl isOk_plain rfl rfl).eq_render]
    simp [Rendering.rejected, Ending.generated?]

end Stencil
