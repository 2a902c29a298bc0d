/-
  The chain of files that are being expanded.

  `Moment.chain` lists the files that are open at a moment, the innermost first and the template
  last.  The active files are the open includes, so the chain is made of them and the template
  (`Moment.chain_of_reaches`); the template itself is not active, and a lookup that offers a file
  of its path lets it be put into its own expansion (`chain_holds_template_twice`).

  Main statement: no include is put into its own expansion, and the template is only where the
  lookup offers its path (`chain_of_includes`).
-/
import Stencil.Proofs.Resolution.Failure

namespace Stencil.Resolver

namespace Moment

/-- The files that are open, the innermost first. -/
def chain (m : Moment) : List (List Path.Component) :=
  (m.current :: m.outer).map fun frame => frame.file.components

variable {env : Setting} {path : Path} {text : Text}

/-- If the chain is made of the active files and another one, so is the next chain. -/
theorem chain_next? {m m' : Moment} {key : List Path.Component}
    (hm : m.chain = m.state.active ++ [key]) (h : next? env m = some m') :
    m'.chain = m'.state.active ++ [key] := by
  cases next?_eq_some_iff.1 h with
  | @leave s file frame outer =>
    -- the file that is left is the innermost active one
    cases hactive : s.active with
    | nil => simp [chain, hactive] at hm
    | cons first active =>
      simp only [chain, hactive, List.map_cons, List.cons_append, List.cons.injEq] at hm
      simp only [chain, Resolver.leave, hactive, List.map_cons, List.tail_cons]
      exact hm.2
  | done hstep => simpa [chain, active_of_step hstep] using hm
  | expand hstep => simpa [chain, (of_step hstep).2.2] using hm

/-- **The open files are the active ones and the template.** -/
theorem chain_of_reaches {m : Moment} (h : Reaches env (start path text) m) :
    m.chain = m.state.active ++ [path.components] := by
  induction h with
  | refl => rfl
  | tail _ hnext ih => exact chain_next? ih hnext

end Moment

section
variable {env : Setting} {file : Path} {s : Resolver} {t : Token} {name : Text} {source : Source}

/-- An include that may be repeated, of a file that is active, adds an error and nothing else. -/
theorem result_walk_of_active (hs : Selects env t name false source)
    (ha : source.path.components ∈ s.active) :
    (walk env file s [t]).result = s.result ++ failure file t .cyclicInclude :=
  (Fails.cyclic hs (by simp) ha).result_walk

end

/-- **No include is put into its own expansion.**  At every moment the open files are includes,
    all of them different, and the template.  An include directive that selects one of the open
    includes adds the error of a cycle and no section, or leaves the state as it is if it is
    once-only.  So no open file occurs twice, unless the template's own path is offered by the
    lookup and has been included. -/
theorem chain_of_includes (env : Setting) (path : Path) (text : Text) (m : Moment)
    (hm : Moment.Reaches env (.start path text) m) :
    ∃ includes, m.chain = includes ++ [path.components] ∧ includes.Nodup ∧
      (m.chain.Nodup ↔ path.components ∉ includes) ∧
      (path.components ∉ paths env.lookup → path.components ∉ includes) ∧
      ∀ t ∈ m.token?, ∀ name once source, Selects env t name once source →
        source.path.components ∈ includes →
        (once = false → (walk env m.current.file m.state [t]).result =
          m.state.result ++ failure m.current.file t .cyclicInclude) ∧
        (once = true → walk env m.current.file m.state [t] = m.state) := by
  have hbounded := (Moment.bounded_start path text).reaches hm
  refine ⟨m.state.active, Moment.chain_of_reaches hm, hbounded.nodup, ?_, ?_, ?_⟩
  · rw [Moment.chain_of_reaches hm, List.nodup_append]
    constructor
    · rintro ⟨-, -, hapart⟩ hmem
      exact hapart _ hmem _ (List.mem_singleton.2 rfl) rfl
    · intro hnot
      refine ⟨hbounded.nodup, List.nodup_singleton _, fun key hkey other hother heq => ?_⟩
      rw [List.mem_singleton.1 hother] at heq
      exact hnot (heq ▸ hkey)
  · intro hunknown hmem
    exact hunknown (hbounded.known _ hmem)
  · intro t _ name once source hs hmem
    constructor
    · rintro rfl
      exact result_walk_of_active hs hmem
    · rintro rfl
      exact walk_of_chosen hs (Moment.active_subset_chosen hm hmem)

/-- The path of a file that includes itself. -/
def selfPath : Path := ⟨"a.t".toList⟩

/-- The text of the file that includes itself. -/
def selfText : Text := "A<#@ include file=\"a.t\" #>".toList

/-- The include directive of the file. -/
def selfDirective : Token := ⟨.directive, ⟨1, 4⟩, " include file=\"a.t\" ".toList⟩

/-- A lookup that offers the file which includes itself. -/
def Setting.selfIncluding : Setting := ⟨⟨[⟨selfPath, .ok selfText⟩]⟩, "t".toList⟩

theorem scan_selfText : Token.scan selfText = [⟨.text, .start, ['A']⟩, selfDirective] := by
  decide +kernel

theorem selects_selfDirective :
    Selects .selfIncluding selfDirective "a.t".toList false ⟨selfPath, .ok selfText⟩ :=
  ⟨rfl, by decide +kernel, by decide +kernel, rfl⟩

/-- The file is entered from a template of the same text, whatever the path of the template. -/
theorem reaches_selfDirective (path : Path) : ∃ m,
    Moment.Reaches .selfIncluding (.start path selfText) m ∧
    m.chain = [selfPath.components, path.components] ∧ m.token? = some selfDirective := by
  have hplain : ∀ file s, step .selfIncluding file s ⟨.text, .start, ['A']⟩ = .done _ :=
    fun file s => step_eq_of_outcome (.plain rfl)
  have hexpand : ∀ file s, s.active = [] → ∃ next, step .selfIncluding file s selfDirective =
      .expand ⟨selfPath, .ok selfText⟩ selfText next := by
    intro file s hactive
    exact ⟨_, step_eq_of_outcome (.expanded selects_selfDirective (by simp) (by simp [hactive]) rfl)⟩
  obtain ⟨next, hnext⟩ := hexpand path (start.add (.ofSection ⟨.text, path, .start, ['A']⟩)) rfl
  have hentered : Moment.Reaches .selfIncluding
      ⟨.start, ⟨path, [⟨.text, .start, ['A']⟩, selfDirective]⟩, []⟩ _ :=
    (Moment.Next.done (hplain path .start)).reaches.trans (Moment.Next.expand hnext).reaches
  rw [scan_selfText] at hentered
  rw [Moment.start, scan_selfText]
  exact ⟨_, hentered.trans (Moment.Next.done (hplain _ _)).reaches, rfl, rfl⟩

/-- In the expansion of the file that includes itself the directive adds the error of a cycle. -/
theorem chain_of_includes_self : ∃ m,
    Moment.Reaches .selfIncluding (.start ⟨"m".toList⟩ selfText) m ∧ m.chain.Nodup ∧
    m.token? = some selfDirective ∧
    (walk .selfIncluding m.current.file m.state [selfDirective]).result =
      m.state.result ++ failure m.current.file selfDirective .cyclicInclude := by
  obtain ⟨m, hm, hchain, htoken⟩ := reaches_selfDirective ⟨"m".toList⟩
  obtain ⟨includes, hopen, -, hnodup, -, hincludes⟩ := chain_of_includes _ _ _ m hm
  -- the one open include is the file itself
  have hself : includes = [selfPath.components] := by
    have hends : includes ++ [(⟨"m".toList⟩ : Path).components] =
        [selfPath.components] ++ [(⟨"m".toList⟩ : Path).components] := hopen.symm.trans hchain
    exact List.append_cancel_right hends
  refine ⟨m, hm, hnodup.2 ?_, htoken, ?_⟩
  · rw [hself]
    decide +kernel
  · refine (hincludes _ htoken _ _ _ selects_selfDirective ?_).1 rfl
    rw [hself]
    exact List.mem_singleton_self _

/-- **A template can be put into its own expansion**, if the lookup offers its path. -/
theorem chain_holds_template_twice : ∃ m,
    Moment.Reaches .selfIncluding (.start selfPath selfText) m ∧ ¬ m.chain.Nodup := by
  obtain ⟨m, hm, hchain, -⟩ := reaches_selfDirective selfPath
  refine ⟨m, hm, ?_⟩
  rw [hchain]
  simp

end Stencil.Resolver
