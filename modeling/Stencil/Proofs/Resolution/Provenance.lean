/-
  Where the entries of a resolution come from.

  * `Moment.Reads`: the next token selects a file that is not passed over, and its text is read;
  * `Visited`: the template, and the files that are read while it is resolved;
  * `TokenOf`: a token of the text of a visited file;
  * `Traced`: every section, import and error carries the file, the place and the text of such a
    token, of the kind that becomes it;
  * `Moment.section?`: the section that the next token becomes.

  The invariant of a course is `Moment.Sourced`: what was found is traced, and the tokens that
  wait in the open files are tokens of visited files under the path of their file.

  Main statement: `resolve_provenance`.
-/
import Stencil.Proofs.Resolution.Failure

namespace Stencil.Resolver

/-! ## Visited files -/

/-- The next token of a moment is a directive that selects a file, and the text of the file is
    read: the file is neither passed over nor being expanded already. -/
def Moment.Reads (env : Setting) (m : Moment) (source : Source) (body : Text) : Prop :=
  ∃ t ∈ m.token?, ∃ name once, Selects env t name once source ∧
    (once = true → source.path.components ∉ m.state.chosen) ∧
    source.path.components ∉ m.state.active ∧ source.text = .ok body

/-- The files, with their texts, that are visited while a template is resolved. -/
inductive Visited (env : Setting) (path : Path) (text : Text) : Path → Text → Prop
  | template : Visited env path text path text
  | included {m source body} : Moment.Reaches env (.start path text) m →
      m.Reads env source body → Visited env path text source.path body

/-- A visited file is the template or a file of the lookup. -/
theorem Visited.known {env : Setting} {path file : Path} {text body : Text}
    (h : Visited env path text file body) : (file = path ∧ body = text) ∨
      ∃ source ∈ env.lookup.sources, file = source.path ∧ source.text = .ok body := by
  cases h with
  | template => exact .inl ⟨rfl, rfl⟩
  | @included _ source _ _ hreads =>
    obtain ⟨t, -, name, once, hs, -, -, htext⟩ := hreads
    have hmem : source ∈ env.lookup.candidates name := by simp [hs.single]
    exact .inr ⟨source, (List.mem_filter.1 hmem).1, rfl, htext⟩

/-- The token is one of the text of a visited file with the given path. -/
def TokenOf (env : Setting) (path : Path) (text : Text) (file : Path) (t : Token) : Prop :=
  ∃ body, Visited env path text file body ∧ t ∈ Token.scan body

/-- Every entry carries the file, the place and the text of a token of a visited file. -/
structure Traced (env : Setting) (path : Path) (text : Text) (r : Resolution) : Prop where
  sections : ∀ x ∈ r.sections, ∃ t, TokenOf env path text x.file t ∧
    Becomes t.kind x.kind ∧ t.position = x.position ∧ t.content = x.content
  imports : ∀ i ∈ r.imports, ∃ t, TokenOf env path text i.file t ∧ t.kind = .directive ∧
    t.position = i.position ∧ Directive.read t.content = .ok (.importModule i.module i.binding)
  errors : ∀ e ∈ r.errors, ∃ t, TokenOf env path text e.file t ∧ t.kind = .directive ∧
    t.position = e.position ∧ t.content = e.content

section
variable {env : Setting} {path : Path} {text : Text}

theorem traced_empty : Traced env path text .empty := by
  constructor
  all_goals
    intro x hx
    exact absurd hx List.not_mem_nil

theorem Traced.append {r r' : Resolution} (h : Traced env path text r)
    (h' : Traced env path text r') : Traced env path text (r ++ r') := by
  constructor
  · intro x hx
    exact (List.mem_append.1 hx).elim (h.sections x) (h'.sections x)
  · intro i hi
    exact (List.mem_append.1 hi).elim (h.imports i) (h'.imports i)
  · intro e he
    exact (List.mem_append.1 he).elim (h.errors e) (h'.errors e)

/-- **What a token of a visited file adds is traced to it.** -/
theorem Adds.traced {file : Path} {s : Resolver} {t : Token} {r : Resolution}
    (ht : TokenOf env path text file t) (h : Adds env file s t r) : Traced env path text r := by
  cases h with
  | plain hk =>
    refine ⟨fun x hx => ?_, fun _ h => absurd h List.not_mem_nil, fun _ h => absurd h List.not_mem_nil⟩
    rw [List.mem_singleton.1 hx]
    exact ⟨t, ht, ofToken?_eq_some_iff.1 hk, rfl, rfl⟩
  | failed h =>
    refine ⟨fun _ h => absurd h List.not_mem_nil, fun _ h => absurd h List.not_mem_nil, fun e he => ?_⟩
    rw [List.mem_singleton.1 he]
    exact ⟨t, ht, h.directive, rfl, rfl⟩
  | imported hk hr =>
    refine ⟨fun _ h => absurd h List.not_mem_nil, fun i hi => ?_, fun _ h => absurd h List.not_mem_nil⟩
    rw [List.mem_singleton.1 hi]
    exact ⟨t, ht, hk, rfl, hr⟩
  | libraries | program | nothing =>
    exact ⟨fun _ h => absurd h List.not_mem_nil, fun _ h => absurd h List.not_mem_nil,
      fun _ h => absurd h List.not_mem_nil⟩

/-! ## The invariant of a course -/

namespace Moment

/-- What was found is traced, and what waits are tokens of visited files. -/
structure Sourced (env : Setting) (path : Path) (text : Text) (m : Moment) : Prop where
  result : Traced env path text m.state.result
  frames : ∀ frame ∈ m.current :: m.outer, ∀ t ∈ frame.rest, TokenOf env path text frame.file t

theorem sourced_start (env : Setting) (path : Path) (text : Text) :
    (start path text).Sourced env path text := by
  refine ⟨traced_empty, fun frame hframe t ht => ?_⟩
  rw [List.mem_singleton.1 hframe] at ht ⊢
  exact ⟨text, .template, ht⟩

/-- A file that is expanded is read. -/
theorem reads_of_step {m : Moment} {t : Token} {rest : List Token} {source : Source} {body : Text}
    {next : Resolver} (hrest : m.current.rest = t :: rest)
    (h : step env m.current.file m.state t = .expand source body next) :
    m.Reads env source body := by
  have ho : Outcome env m.current.file m.state t (.expand source body next) := h ▸ outcome_step
  cases ho with
  | expanded hs hc ha htext => exact ⟨t, by simp [token?, hrest], _, _, hs, hc, ha, htext⟩

theorem Sourced.next {m m' : Moment} (hreach : Reaches env (start path text) m)
    (hm : m.Sourced env path text) (h : next? env m = some m') : m'.Sourced env path text := by
  -- what the next token adds is traced to it
  have hresult : Traced env path text m'.state.result := by
    obtain ⟨s, file, frame, outer, rfl, rfl⟩ | ⟨s, file, t, rest, outer, rfl, hstate⟩ :=
      leave_or_step h
    · exact hm.result
    · obtain ⟨r, hadds, hr⟩ := exists_adds env file s t
      rw [hstate, hr]
      exact hm.result.append (hadds.traced (hm.frames _ List.mem_cons_self t List.mem_cons_self))
  refine ⟨hresult, ?_⟩
  cases next?_eq_some_iff.1 h with
  | leave => exact fun f hf => hm.frames f (List.mem_cons_of_mem _ hf)
  | done _ =>
    obtain ⟨hcurrent, houter⟩ := List.forall_mem_cons.1 hm.frames
    exact List.forall_mem_cons.2 ⟨fun u hu => hcurrent u (List.mem_cons_of_mem _ hu), houter⟩
  | @expand _ _ _ _ _ source body _ hstep =>
    obtain ⟨hcurrent, houter⟩ := List.forall_mem_cons.1 hm.frames
    refine List.forall_mem_cons.2 ⟨fun u hu => ?_, List.forall_mem_cons.2
      ⟨fun u hu => hcurrent u (List.mem_cons_of_mem _ hu), houter⟩⟩
    -- the tokens of the file that is entered are those of its text
    exact ⟨body, .included hreach (reads_of_step rfl hstep), hu⟩

theorem Sourced.reaches {m : Moment} (h : Reaches env (start path text) m) :
    m.Sourced env path text := by
  induction h with
  | refl => exact sourced_start env path text
  | tail hreach hnext ih => exact ih.next hreach hnext

/-! ## The sections of a course -/

/-- The section that the next token of a moment becomes; a directive becomes none. -/
def section? (m : Moment) : Option Section :=
  m.token?.bind fun t => match t.kind with
    | .text => some ⟨.text, m.current.file, t.position, t.content⟩
    | .code => some ⟨.code, m.current.file, t.position, t.content⟩
    | .expression => some ⟨.expression, m.current.file, t.position, t.content⟩
    | .directive => none

theorem sections_next? {m m' : Moment} (h : next? env m = some m') :
    m'.state.result.sections = m.state.result.sections ++ m.section?.toList := by
  obtain ⟨s, file, frame, outer, rfl, rfl⟩ | ⟨s, file, t, rest, outer, rfl, hstate⟩ :=
    leave_or_step h
  · simp [section?, token?]
  · obtain ⟨r, hadds, hr⟩ := exists_adds env file s t
    rw [hstate, hr, Resolution.sections_append]
    congr 1
    have hnone : t.kind = .directive → section? ⟨s, ⟨file, t :: rest⟩, outer⟩ = none := by
      intro hk
      simp [section?, token?, hk]
    cases hadds with
    | plain hk =>
      obtain ⟨k, position, content⟩ := t
      cases ofToken?_eq_some_iff.1 hk <;> rfl
    | failed h => rw [hnone h.directive]; rfl
    | imported hk | libraries hk | program hk | nothing hk => rw [hnone hk]; rfl

/-- **The new sections between two moments are those of the tokens that come next there.** -/
theorem Passes.sections {m m' : Moment} {passed : List Moment} (h : Passes env m passed m') :
    m'.state.result.sections = m.state.result.sections ++ passed.filterMap section? := by
  induction h with
  | refl => simp
  | @head m next passed last hnext _ ih =>
    rw [ih, sections_next? hnext, List.append_assoc]
    cases hsection : m.section? with
    | none => rw [List.filterMap_cons_none hsection]; rfl
    | some x => rw [List.filterMap_cons_some hsection]; rfl

end Moment

end

/-- **Every entry of a resolution comes from where it says.**  Sections, imports and errors carry
    the file, the place and the text of a token of that kind in the text of a file that was
    visited under that path.  The course of the template passes each token of the template's own
    text once and in order while no include is open, and the sections are, in order, those of the
    tokens that it passes: one for each token that is no directive, and none for a directive. -/
theorem resolve_provenance (env : Setting) (path : Path) (text : Text) :
    Traced env path text (resolve env path text) ∧
    ∃ passed last, Moment.Passes env (.start path text) passed last ∧ last.next? env = none ∧
      last.state.result = resolve env path text ∧
      Moment.tokensAt 0 passed = (Token.scan text).map (path, ·) ∧
      (resolve env path text).sections = passed.filterMap Moment.section? := by
  obtain ⟨passed, hpasses, -, htokens⟩ := exists_passes env path .start (Token.scan text) []
  have hreach := reaches_walk env path .start (Token.scan text) []
  refine ⟨(Moment.Sourced.reaches hreach).result, passed, _, hpasses, rfl, rfl, htokens, ?_⟩
  have hsections := hpasses.sections
  simpa [resolve, start, Resolution.empty] using hsections

/-- A template of text, code and an expression. -/
def taggedTemplate : Text := "a<# b #>\n<#= c #>".toList

/-- The course of a template with tags of all kinds passes its sections in their order. -/
theorem resolve_provenance_tagged :
    let env : Setting := ⟨.empty, "t".toList⟩
    let path : Path := ⟨"m".toList⟩
    let sections : List Section := [⟨.text, path, ⟨1, 0⟩, ['a']⟩, ⟨.code, path, ⟨1, 3⟩, " b ".toList⟩,
      ⟨.text, path, ⟨1, 8⟩, ['\n']⟩, ⟨.expression, path, ⟨2, 3⟩, " c ".toList⟩]
    (resolve env path taggedTemplate).sections = sections ∧
    (∀ x ∈ sections, ∃ t ∈ Token.scan taggedTemplate,
      Becomes t.kind x.kind ∧ t.position = x.position ∧ t.content = x.content) ∧
    ∃ passed last, Moment.Passes env (.start path taggedTemplate) passed last ∧
      passed.filterMap Moment.section? = sections := by
  intro env path sections
  have hscan : Token.scan taggedTemplate = [⟨.text, ⟨1, 0⟩, ['a']⟩, ⟨.code, ⟨1, 3⟩, " b ".toList⟩,
      ⟨.text, ⟨1, 8⟩, ['\n']⟩, ⟨.expression, ⟨2, 3⟩, " c ".toList⟩] := by
    cbv
  have hsections : (resolve env path taggedTemplate).sections = sections := by
    rw [resolve, hscan, walk_done (step_eq_of_outcome (.plain rfl)),
      walk_done (step_eq_of_outcome (.plain rfl)), walk_done (step_eq_of_outcome (.plain rfl)),
      walk_done (step_eq_of_outcome (.plain rfl)), walk_nil]
    rfl
  obtain ⟨htraced, passed, last, hpasses, -, -, -, hpassed⟩ :=
    resolve_provenance env path taggedTemplate
  refine ⟨hsections, fun x hx => ?_, passed, last, hpasses, by rw [← hpassed, hsections]⟩
  obtain ⟨t, ⟨body, hvisited, ht⟩, hkind⟩ := htraced.sections x (hsections ▸ hx)
  -- the setting has no sources, so the only file visited is the template
  obtain ⟨-, rfl⟩ | ⟨source, hsource, -⟩ := hvisited.known
  · exact ⟨t, ht, hkind⟩
  · cases hsource

end Stencil.Resolver
