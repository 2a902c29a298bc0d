/-
  What a resolution takes from its lookup.

  * `LooksUp env t name`: a token asks for the files of a name;
  * `Agrees env lookup t`: another lookup has the same candidates, up to their order, for the
    names that a token asks for;
  * `Moment.Reaches.congr_until`: the courses in two settings are the same up to a moment from
    which they go on differently; so the course of a template is the same with a lookup that
    agrees on all tokens of it (`resolve_congr`).

  Of the candidates of a name a step reads their number, and the file if there is only one
  (`step_congr`), so neither the order of the files in a lookup matters, nor the files whose
  names are never asked for.

  Main statement: `resolve_inserted`.
-/
import Stencil.Proofs.Resolution.Provenance

namespace Stencil

namespace Lookup

/-! ## Candidates -/

theorem sources_insert (l : Lookup) (source : Source) : (l.insert source).sources =
    l.sources ++ [source].filter fun s => s.path.fileName?.isSome := by
  unfold insert
  split
  · next h => simp [h]
  · next h => simp [h]

/-- A lookup keeps the sources that have a file name, in order. -/
theorem sources_ofList (sources : List Source) :
    (ofList sources).sources = sources.filter fun s => s.path.fileName?.isSome := by
  have h : ∀ l : Lookup, (sources.foldl insert l).sources =
      l.sources ++ sources.filter fun s => s.path.fileName?.isSome := by
    induction sources with
    | nil => simp
    | cons source sources ih =>
      intro l
      rw [List.foldl_cons, ih, sources_insert, List.append_assoc, ← List.filter_append,
        List.singleton_append]
  exact h empty

theorem perm_candidates {l l' : Lookup} (h : l.sources.Perm l'.sources) (name : Text) :
    (l.candidates name).Perm (l'.candidates name) :=
  h.filter _

theorem candidates_insert {source : Source} {name : Text} (l : Lookup)
    (h : source.path.fileName? ≠ some name) :
    (l.insert source).candidates name = l.candidates name := by
  have hnone : [source].filter (fun s => s.path.fileName? == some name) = [] := by simp [h]
  rw [candidates, candidates, sources_insert, List.filter_append, List.filter_comm, hnone,
    List.filter_nil, List.append_nil]

end Lookup

namespace Resolver

/-! ## Looking up -/

/-- A token asks for the files of a name: it is an include directive, and the name has the
    extension of include files. -/
structure LooksUp (env : Setting) (t : Token) (name : Text) : Prop where
  directive : t.kind = .directive
  read : ∃ once, Directive.read t.content = .ok (.includeFile name once)
  supported : (Text.stripEnd? ('.' :: env.includeExtension) name).isSome

/-- For the names that a token asks for, another lookup has the same candidates, in some
    order. -/
def Agrees (env : Setting) (lookup : Lookup) (t : Token) : Prop :=
  ∀ name, LooksUp env t name → (env.lookup.candidates name).Perm (lookup.candidates name)

section
variable {env : Setting} {lookup : Lookup} {t : Token}

theorem Selects.looksUp {name : Text} {once : Bool} {source : Source}
    (hs : Selects env t name once source) : LooksUp env t name :=
  ⟨hs.directive, ⟨once, hs.read⟩, hs.supported⟩

theorem Selects.congr {name : Text} {once : Bool} {source : Source} (h : Agrees env lookup t)
    (hs : Selects env t name once source) :
    Selects { env with lookup } t name once source := by
  have hperm := h name hs.looksUp
  rw [hs.single] at hperm
  exact ⟨hs.directive, hs.read, hs.supported, (List.singleton_perm.1 hperm).symm⟩

/-- **A step is the same with another lookup that agrees on its token.** -/
theorem step_congr (file : Path) (s : Resolver) (h : Agrees env lookup t) :
    step { env with lookup } file s t = step env file s t := by
  generalize hstep : step env file s t = result
  have ho : Outcome env file s t result := hstep ▸ outcome_step
  apply step_eq_of_outcome
  cases ho with
  | plain hk => exact .plain hk
  | malformed hk hr => exact .malformed hk hr
  | imported hk hr => exact .imported hk hr
  | libraries hk hr => exact .libraries hk hr
  | program hk hr => exact .program hk hr
  | unsupported hk hr he => exact .unsupported hk hr he
  | notFound hk hr he hc =>
    have hperm := h _ ⟨hk, ⟨_, hr⟩, he⟩
    rw [hc] at hperm
    exact .notFound hk hr he (List.nil_perm.1 hperm)
  | duplicated hk hr he hc =>
    have hperm := h _ ⟨hk, ⟨_, hr⟩, he⟩
    exact .duplicated hk hr he (hperm.length_eq ▸ hc)
  | skipped hs hc => exact .skipped (hs.congr h) hc
  | cyclic hs hc ha => exact .cyclic (hs.congr h) hc ha
  | unreadable hs hc ha ht => exact .unreadable (hs.congr h) hc ha ht
  | expanded hs hc ha ht => exact .expanded (hs.congr h) hc ha ht

end

/-! ## Two courses -/

namespace Moment

variable {env : Setting} {m m' : Moment}

theorem Reaches.eq_of_end (h : Reaches env m m') (hm : m.next? env = none) : m = m' := by
  rcases h.cases_head with heq | ⟨next, hnext, -⟩
  · exact heq
  · rw [hm] at hnext
    cases hnext

/-- Every moment of a course is before its end. -/
theorem Reaches.reaches_end {last : Moment} (h : Reaches env m m') (h' : Reaches env m last)
    (hlast : last.next? env = none) : Reaches env m' last := by
  have hunique : Relator.RightUnique fun m m' : Moment => next? env m = some m' := by
    intro a b c hb hc
    exact Option.some.inj (hb.symm.trans hc)
  rcases h.total_of_right_unique hunique h' with hbefore | hbehind
  · exact hbefore
  · obtain rfl := Reaches.eq_of_end hbehind hlast
    exact .refl

theorem Reaches.end_unique {last last' : Moment} (h : Reaches env m last)
    (hlast : last.next? env = none) (h' : Reaches env m last') (hlast' : last'.next? env = none) :
    last = last' :=
  Reaches.eq_of_end (h.reaches_end h' hlast') hlast

theorem next?_congr {env' : Setting} (h : ∀ t ∈ m.token?,
    step env' m.current.file m.state t = step env m.current.file m.state t) :
    next? env' m = next? env m := by
  obtain ⟨s, ⟨file, _ | ⟨t, rest⟩⟩, outer⟩ := m
  · cases outer <;> rfl
  · have hstep : step env' file s t = step env file s t := h t rfl
    simp only [next?, hstep]

/-- **Two courses are the same up to a moment from which they go on differently.** -/
theorem Reaches.congr_until (env' : Setting) (hreach : Reaches env m m') :
    Reaches env' m m' ∨
      ∃ mid, Reaches env m mid ∧ Reaches env' m mid ∧ next? env' mid ≠ next? env mid := by
  induction hreach with
  | refl => exact .inl .refl
  | @tail mid m' hmid hnext ih =>
    rcases ih with ih | ih
    · by_cases hsame : next? env' mid = next? env mid
      · exact .inl (ih.tail (hsame.trans hnext))
      · exact .inr ⟨mid, hmid, ih, hsame⟩
    · exact .inr ih

/-- **A course is the same in another setting, if the same comes next at all moments of it.** -/
theorem Reaches.congr {env' : Setting} (hreach : Reaches env m m')
    (h : ∀ mid, Reaches env m mid → next? env' mid = next? env mid) : Reaches env' m m' := by
  rcases hreach.congr_until env' with hreach' | ⟨mid, hmid, -, hdiffers⟩
  · exact hreach'
  · exact absurd (h mid hmid) hdiffers

end Moment

section
variable {env : Setting} {path : Path} {text : Text}

theorem resolve_eq_of_next? {env' : Setting}
    (h : ∀ m, Moment.Reaches env (.start path text) m → m.next? env' = m.next? env) :
    resolve env' path text = resolve env path text := by
  have hend := (reaches_walk env path .start (Token.scan text) []).congr h
  have hend' := reaches_walk env' path .start (Token.scan text) []
  have hsame := hend'.end_unique rfl hend rfl
  exact congrArg (fun m => m.state.result) hsame

/-- **A template has the same resolution with another lookup that agrees on all tokens of its
    course.** -/
theorem resolve_congr (env : Setting) (lookup : Lookup)
    (h : ∀ m, Moment.Reaches env (.start path text) m → ∀ t ∈ m.token?, Agrees env lookup t) :
    resolve { env with lookup } path text = resolve env path text :=
  resolve_eq_of_next? fun m hm =>
    Moment.next?_congr fun t ht => step_congr m.current.file m.state (h m hm t ht)

/-! ## Where names are asked for -/

/-- The tokens of a course stand in the template's text or in that of a file of the lookup. -/
theorem Moment.exists_text_of_reaches {m : Moment} {t : Token}
    (hm : Reaches env (start path text) m) (ht : t ∈ m.token?) :
    ∃ body, t ∈ Token.scan body ∧
      (body = text ∨ ∃ source ∈ env.lookup.sources, source.text = .ok body) := by
  have htoken := (Sourced.reaches hm).frames m.current List.mem_cons_self t
    (List.mem_of_mem_head? ht)
  obtain ⟨body, hvisited, hscan⟩ := htoken
  refine ⟨body, hscan, ?_⟩
  generalize m.current.file = file at hvisited
  cases hvisited with
  | template => exact .inl rfl
  | @included _ source _ _ hreads =>
    obtain ⟨_, _, name, _, hs, -, -, hbody⟩ := hreads
    have hmem : source ∈ env.lookup.candidates name := by simp [hs.single]
    exact .inr ⟨source, (List.mem_filter.1 hmem).1, hbody⟩

end

end Resolver

open Resolver

/-- **The order in which include files are registered does not matter**, nor do files that no
    directive of the run asks for: lookups that are made of the same sources in another order
    resolve every template to the same sections, imports, flags and errors, and so does a lookup
    with one more source, if no include directive that is carried out asks for its name. -/
theorem resolve_inserted (includeExtension : Text) (path : Path) (text : Text) :
    (∀ sources sources' : List Source, sources.Perm sources' →
      resolve ⟨.ofList sources', includeExtension⟩ path text =
        resolve ⟨.ofList sources, includeExtension⟩ path text) ∧
    ∀ (lookup : Lookup) (source : Source),
      (∀ m, Moment.Reaches ⟨lookup, includeExtension⟩ (.start path text) m → ∀ t ∈ m.token?,
        ∀ name, LooksUp ⟨lookup, includeExtension⟩ t name →
          source.path.fileName? ≠ some name) →
      resolve ⟨lookup.insert source, includeExtension⟩ path text =
        resolve ⟨lookup, includeExtension⟩ path text := by
  constructor
  · intro sources sources' hperm
    refine resolve_congr ⟨.ofList sources, _⟩ _ fun m _ t _ name _ =>
      Lookup.perm_candidates ?_ name
    rw [Lookup.sources_ofList, Lookup.sources_ofList]
    exact hperm.filter _
  · intro lookup source hunasked
    refine resolve_congr ⟨lookup, _⟩ _ fun m hm t ht name hname => ?_
    rw [Lookup.candidates_insert lookup (hunasked m hm t ht name hname)]

/-- A template that asks for the file `a.t`. -/
def askingText : Text := "<#@ include=\"a.t\" #>".toList

/-- The file that it asks for, and another one. -/
def offeredSources : List Source :=
  [⟨⟨"p/a.t".toList⟩, .ok "A".toList⟩, ⟨⟨"q/b.t".toList⟩, .ok "<# x #>".toList⟩]

/-- The name of a second file `b.t` is not asked for. -/
theorem resolve_inserted_unasked :
    offeredSources.Perm offeredSources.reverse ∧
    (∀ m, Moment.Reaches ⟨.ofList offeredSources, "t".toList⟩ (.start ⟨"m".toList⟩ askingText) m →
      ∀ t ∈ m.token?, ∀ name, LooksUp ⟨.ofList offeredSources, "t".toList⟩ t name →
        (⟨"r/b.t".toList⟩ : Path).fileName? ≠ some name) ∧
    resolve ⟨.ofList offeredSources.reverse, "t".toList⟩ ⟨"m".toList⟩ askingText =
      resolve ⟨.ofList offeredSources, "t".toList⟩ ⟨"m".toList⟩ askingText ∧
    resolve ⟨(Lookup.ofList offeredSources).insert ⟨⟨"r/b.t".toList⟩, .ok []⟩, "t".toList⟩
        ⟨"m".toList⟩ askingText =
      resolve ⟨.ofList offeredSources, "t".toList⟩ ⟨"m".toList⟩ askingText := by
  have hperm : offeredSources.Perm offeredSources.reverse := .swap _ _ []
  have hunasked : ∀ m, Moment.Reaches ⟨.ofList offeredSources, "t".toList⟩
      (.start ⟨"m".toList⟩ askingText) m → ∀ t ∈ m.token?, ∀ name,
      LooksUp ⟨.ofList offeredSources, "t".toList⟩ t name →
        (⟨"r/b.t".toList⟩ : Path).fileName? ≠ some name := by
    intro m hm t ht name ⟨hk, ⟨once, hread⟩, _⟩
    obtain ⟨body, hscan, hbody⟩ := Moment.exists_text_of_reaches hm ht
    -- the texts of the run ask for `a.t` only
    have hasks : ∀ body ∈ [askingText, "A".toList, "<# x #>".toList], ∀ t ∈ Token.scan body,
        t.kind = .directive → Directive.read t.content = .ok (.includeFile "a.t".toList false) := by
      decide +kernel
    have hmem : body ∈ [askingText, "A".toList, "<# x #>".toList] := by
      rcases hbody with rfl | ⟨source, hsource, hbody⟩
      · exact List.mem_cons_self
      · rw [Lookup.sources_ofList] at hsource
        have := List.mem_of_mem_filter hsource
        simp only [offeredSources, List.mem_cons, List.not_mem_nil, or_false] at this
        rcases this with rfl | rfl
        · cases hbody
          simp
        · cases hbody
          simp
    have hname := (hasks body hmem t hscan hk).symm.trans hread
    simp only [Except.ok.injEq, Directive.includeFile.injEq] at hname
    obtain ⟨rfl, -⟩ := hname
    decide +kernel
  have h := resolve_inserted "t".toList ⟨"m".toList⟩ askingText
  exact ⟨hperm, hunasked, h.1 _ _ hperm, h.2 _ ⟨⟨"r/b.t".toList⟩, .ok []⟩ hunasked⟩

end Stencil
