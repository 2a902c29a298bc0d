/-
  Includes that are put in only once.

  * `Chooses env t key`: the token is an include directive that selects the file of the
    key as its single candidate, once-only or not, successful or not;
  * `Moment.Before` orders the moments of a course;
  * `Moment.ExpandsOnce`: the next token is a once-only include, and it expands its file.

  The chosen files of a state are attributed to directives: a file is chosen at a moment
  exactly if a directive before it has chosen the file (`mem_chosen_iff`).  A once-only
  include of a chosen file changes nothing (`walk_of_chosen`), so everything that once-only
  includes promise is read off from the attribution.

  Main statement: `include_once`.
-/
import Stencil.Proofs.Resolution.Course

namespace Stencil.Resolver

section
variable {env : Setting} {file : Path} {s : Resolver} {t : Token} {key : List Path.Component}

/-! ## Directives that choose a file -/

/-- A token is an include directive that selects the file of a key. -/
def Chooses (env : Setting) (t : Token) (key : List Path.Component) : Prop :=
  ∃ name once source, Selects env t name once source ∧ source.path.components = key

/-- A directive selects one file at most. -/
theorem Selects.unique {name name' : Text} {once once' : Bool} {source source' : Source}
    (hs : Selects env t name once source) (hs' : Selects env t name' once' source') :
    source = source' := by
  have hread := hs.read.symm.trans hs'.read
  simp only [Except.ok.injEq, Directive.includeFile.injEq] at hread
  obtain ⟨rfl, -⟩ := hread
  simpa using hs.single.symm.trans hs'.single

theorem Selects.chooses_iff {name : Text} {once : Bool} {source : Source}
    (hs : Selects env t name once source) : Chooses env t key ↔ key = source.path.components := by
  constructor
  · rintro ⟨name', once', source', hs', rfl⟩
    rw [hs.unique hs']
  · rintro rfl
    exact ⟨name, once, source, hs, rfl⟩

theorem not_chooses_of_kind (hk : t.kind ≠ .directive) : ¬ Chooses env t key :=
  fun ⟨_, _, _, hs, _⟩ => hk hs.directive

theorem not_chooses_of_read {result : Except Directive.Fault Directive}
    (hr : Directive.read t.content = result)
    (h : ∀ name once, result ≠ .ok (.includeFile name once)) : ¬ Chooses env t key := by
  rintro ⟨name, once, source, hs, -⟩
  exact h name once (hr.symm.trans hs.read)

/-- An include directive chooses nothing unless there is a single candidate for its name,
    which has the right extension. -/
theorem not_chooses_of_include {name : Text} {once : Bool}
    (hr : Directive.read t.content = .ok (.includeFile name once))
    (h : (Text.stripEnd? ('.' :: env.includeExtension) name).isNone ∨
      (env.lookup.candidates name).length ≠ 1) : ¬ Chooses env t key := by
  rintro ⟨name', once', source, hs, -⟩
  have hread := hr.symm.trans hs.read
  simp only [Except.ok.injEq, Directive.includeFile.injEq] at hread
  obtain ⟨rfl, -⟩ := hread
  rcases h with h | h
  · have := hs.supported
    simp_all
  · exact h (by simp [hs.single])

/-! ## The chosen files of a state -/

theorem mem_choose {other : List Path.Component} :
    key ∈ (s.choose other).chosen ↔ key ∈ s.chosen ∨ key = other := by
  unfold choose
  split
  · next h => exact ⟨.inl, fun hkey => hkey.elim id fun e => e ▸ h⟩
  · simp [or_comm]

@[simp] theorem chosen_add (s : Resolver) (r : Resolution) : (s.add r).chosen = s.chosen := rfl

@[simp] theorem chosen_leave (s : Resolver) : s.leave.chosen = s.chosen := rfl

/-- **A step adds the file that its token chooses, and no other one, to the chosen files.** -/
theorem mem_chosen_step :
    key ∈ (step env file s t).state.chosen ↔ key ∈ s.chosen ∨ Chooses env t key := by
  have hsame : ¬ Chooses env t key → (key ∈ s.chosen ↔ key ∈ s.chosen ∨ Chooses env t key) :=
    fun h => ⟨.inl, fun h' => h'.resolve_right h⟩
  generalize h : step env file s t = result
  have ho : Outcome env file s t result := h ▸ outcome_step
  cases ho with
  | plain hk =>
    refine hsame (not_chooses_of_kind fun hd => ?_)
    simp [hd, Section.Kind.ofToken?] at hk
  | malformed _ hr => exact hsame (not_chooses_of_read hr (by simp))
  | imported _ hr => exact hsame (not_chooses_of_read hr (by simp))
  | libraries _ hr => exact hsame (not_chooses_of_read hr (by simp))
  | program _ hr => exact hsame (not_chooses_of_read hr (by simp))
  | unsupported _ hr he => exact hsame (not_chooses_of_include hr (.inl he))
  | notFound _ hr _ hc => exact hsame (not_chooses_of_include hr (.inr (by simp [hc])))
  | duplicated _ hr _ hc => exact hsame (not_chooses_of_include hr (.inr (by omega)))
  | skipped hs hc =>
    rw [hs.chooses_iff]
    exact ⟨.inl, fun hkey => hkey.elim id fun e => e ▸ hc⟩
  | cyclic hs _ _ => rw [hs.chooses_iff]; exact mem_choose
  | unreadable hs _ _ _ => rw [hs.chooses_iff]; exact mem_choose
  | expanded hs _ _ _ => rw [hs.chooses_iff]; exact mem_choose

/-- The active files of a state are among its chosen files. -/
theorem active_subset_chosen_step (h : s.active ⊆ s.chosen) :
    (step env file s t).state.active ⊆ (step env file s t).state.chosen := by
  intro key hkey
  rw [mem_chosen_step]
  rcases hstep : step env file s t with next | ⟨source, text, next⟩
  · rw [hstep, Step.state, active_of_step hstep] at hkey
    exact .inl (h hkey)
  · rw [hstep, Step.state, (of_step hstep).2.2] at hkey
    rcases List.mem_cons.1 hkey with rfl | hkey
    · have ho : Outcome env file s t _ := outcome_step
      rw [hstep] at ho
      cases ho with
      | expanded hs _ _ _ => exact .inr (hs.chooses_iff.2 rfl)
    · exact .inl (h hkey)

/-! ## Chosen files along a course -/

namespace Moment

variable {m m' : Moment}

/-- The next token of a moment chooses the file of a key. -/
def Chooses (env : Setting) (m : Moment) (key : List Path.Component) : Prop :=
  ∃ t rest, m.current.rest = t :: rest ∧ Resolver.Chooses env t key

/-- The first moment comes before the second one. -/
def Before (env : Setting) : Moment → Moment → Prop :=
  Relation.TransGen fun m m' => next? env m = some m'

/-- The next token of a moment is a once-only include of the file of a key, and it expands
    the file. -/
def ExpandsOnce (env : Setting) (m : Moment) (key : List Path.Component) : Prop :=
  ∃ t rest name source body next, m.current.rest = t :: rest ∧
    Selects env t name true source ∧ source.path.components = key ∧
    step env m.current.file m.state t = .expand source body next

theorem mem_chosen_next? (h : next? env m = some m') :
    key ∈ m'.state.chosen ↔ key ∈ m.state.chosen ∨ m.Chooses env key := by
  obtain ⟨s, file, frame, outer, rfl, rfl⟩ | ⟨s, file, t, rest, outer, rfl, hstate⟩ :=
    leave_or_step h
  · simp [Chooses]
  · rw [hstate, mem_chosen_step]
    refine or_congr Iff.rfl ⟨fun hc => ⟨t, rest, rfl, hc⟩, ?_⟩
    rintro ⟨u, rest', hrest, hc⟩
    cases hrest
    exact hc

/-- **A file is chosen at a moment exactly if it was so before, or a directive between has
    chosen it.** -/
theorem mem_chosen_iff (h : Reaches env m m') : key ∈ m'.state.chosen ↔ key ∈ m.state.chosen ∨
    ∃ earlier, Reaches env m earlier ∧ earlier.Chooses env key ∧ earlier.Before env m' := by
  constructor
  · intro hkey
    induction h with
    | refl => exact .inl hkey
    | @tail mid m' hmid hnext ih =>
      rcases (mem_chosen_next? hnext).1 hkey with hkey | hchooses
      · rcases ih hkey with hkey | ⟨earlier, hreach, hchooses, hbefore⟩
        · exact .inl hkey
        · exact .inr ⟨earlier, hreach, hchooses, hbefore.tail hnext⟩
      · exact .inr ⟨mid, hmid, hchooses, .single hnext⟩
  · -- what is chosen once stays chosen
    have hgrow : ∀ {a b : Moment}, Reaches env a b → key ∈ a.state.chosen →
        key ∈ b.state.chosen := by
      intro a b hab hkey
      induction hab with
      | refl => exact hkey
      | tail _ hnext ih => exact (mem_chosen_next? hnext).2 (.inl ih)
    rintro (hkey | ⟨earlier, -, hchooses, hbefore⟩)
    · exact hgrow h hkey
    · obtain ⟨next, hnext, hreach⟩ := Relation.TransGen.head'_iff.1 hbefore
      exact hgrow hreach ((mem_chosen_next? hnext).2 (.inr hchooses))

theorem chosen_subset (h : Reaches env m m') : m.state.chosen ⊆ m'.state.chosen :=
  fun _ hkey => (mem_chosen_iff h).2 (.inl hkey)

theorem active_subset_chosen {path : Path} {text : Text} (h : Reaches env (start path text) m) :
    m.state.active ⊆ m.state.chosen := by
  induction h with
  | refl => exact List.nil_subset _
  | @tail mid m' _ hnext ih =>
    obtain ⟨s, file, frame, outer, rfl, rfl⟩ | ⟨s, file, t, rest, outer, rfl, hstate⟩ :=
      leave_or_step hnext
    · exact fun key hkey => ih (List.mem_of_mem_tail hkey)
    · rw [hstate]
      exact active_subset_chosen_step ih

end Moment

/-! ## Once-only includes -/

/-- A walk keeps what is chosen and adds what its first token chooses. -/
theorem mem_chosen_walk {tokens : List Token}
    (h : key ∈ s.chosen ∨ ∃ t rest, tokens = t :: rest ∧ Chooses env t key) :
    key ∈ (walk env file s tokens).chosen := by
  have hreach := reaches_walk env file s tokens []
  rcases h with h | ⟨t, rest, rfl, h⟩
  · exact Moment.chosen_subset hreach h
  · rcases Relation.ReflTransGen.cases_head hreach with heq | ⟨next, hnext, hrest⟩
    · have := congrArg (fun m => m.current.rest) heq
      simp at this
    · exact Moment.chosen_subset hrest ((Moment.mem_chosen_next? hnext).2 (.inr ⟨t, rest, rfl, h⟩))

/-- **A once-only include of a chosen file changes nothing.** -/
theorem walk_of_chosen {name : Text} {source : Source} (hs : Selects env t name true source)
    (h : source.path.components ∈ s.chosen) : walk env file s [t] = s := by
  rw [walk_done (step_eq_of_outcome (.skipped hs h)), walk_nil]

theorem walk_twice {name : Text} {source : Source} (hs : Selects env t name true source) :
    walk env file s [t, t] = walk env file s [t] := by
  have hchosen : source.path.components ∈ (walk env file s [t]).chosen :=
    mem_chosen_walk (.inr ⟨t, [], rfl, hs.chooses_iff.2 rfl⟩)
  calc walk env file s ([t] ++ [t]) = walk env file (walk env file s [t]) [t] :=
        walk_append env file s [t] [t]
    _ = walk env file s [t] := walk_of_chosen hs hchosen

end

/-- **A file that some include directive has selected is not put in by a once-only include
    later in the run**, in whatever branch or nesting the two directives stand.  Chosen files
    stay chosen, and they are those that the include directives before have selected; a
    once-only include of a chosen file leaves the state as it is; a once-only include whose
    file can be read expands it exactly if no directive before has selected the file; and a
    once-only include that is carried out twice in a row has the same effect as once. -/
theorem include_once (env : Setting) (path : Path) (text : Text) :
    (∀ m m', Moment.Reaches env (.start path text) m → Moment.Reaches env m m' →
      m.state.chosen ⊆ m'.state.chosen) ∧
    (∀ m key, Moment.Reaches env (.start path text) m → (key ∈ m.state.chosen ↔
      ∃ earlier, Moment.Reaches env (.start path text) earlier ∧ earlier.Chooses env key ∧
        earlier.Before env m)) ∧
    (∀ file s t name source, Selects env t name true source →
      source.path.components ∈ s.chosen → walk env file s [t] = s) ∧
    (∀ m key, Moment.Reaches env (.start path text) m → m.ExpandsOnce env key →
      ∀ earlier, Moment.Reaches env (.start path text) earlier → earlier.Before env m →
        ¬ earlier.Chooses env key) ∧
    (∀ m t rest name source body, Moment.Reaches env (.start path text) m →
      m.current.rest = t :: rest → Selects env t name true source → source.text = .ok body →
      (∀ earlier, Moment.Reaches env (.start path text) earlier → earlier.Before env m →
        ¬ earlier.Chooses env source.path.components) →
      m.ExpandsOnce env source.path.components) ∧
    ∀ file s t name source, Selects env t name true source →
      walk env file s [t, t] = walk env file s [t] := by
  have hchosen : ∀ m key, Moment.Reaches env (.start path text) m → (key ∈ m.state.chosen ↔
      ∃ earlier, Moment.Reaches env (.start path text) earlier ∧ earlier.Chooses env key ∧
        earlier.Before env m) := by
    intro m key hm
    rw [Moment.mem_chosen_iff hm]
    exact or_iff_right List.not_mem_nil
  refine ⟨fun m m' _ h => Moment.chosen_subset h, hchosen,
    fun file s t name source hs h => walk_of_chosen hs h, ?_, ?_,
    fun file s t name source hs => walk_twice hs⟩
  · rintro m key hm ⟨t, rest, name, source, body, next, -, hs, rfl, hstep⟩ earlier hearlier
      hbefore hchooses
    -- a chosen file is skipped, not expanded
    have hskip : step env m.current.file m.state t = _ :=
      step_eq_of_outcome (.skipped hs ((hchosen m _ hm).2 ⟨earlier, hearlier, hchooses, hbefore⟩))
    rw [hskip] at hstep
    cases hstep
  · intro m t rest name source body hm hrest hs hbody hnone
    have hfresh : source.path.components ∉ m.state.chosen := by
      rw [hchosen m _ hm]
      rintro ⟨earlier, hearlier, hchooses, hbefore⟩
      exact hnone earlier hearlier hbefore hchooses
    exact ⟨t, rest, name, source, body, _, hrest, hs, rfl, step_eq_of_outcome
      (.expanded hs (fun _ => hfresh) (fun h => hfresh (Moment.active_subset_chosen hm h)) hbody)⟩

/-- A lookup with one file, whose text cannot be read. -/
def Setting.vanished : Setting where
  lookup := ⟨[⟨⟨"a.t".toList⟩, .error .notFound⟩]⟩
  includeExtension := "t".toList

/-- The second one of two once-only includes changes nothing, although the first one fails. -/
theorem include_once_vanished :
    ∃ source, Selects .vanished
        ⟨.directive, .start, "include file=\"a.t\" once=\"true\"".toList⟩ "a.t".toList true source ∧
      walk .vanished ⟨"m".toList⟩ .start
        [⟨.directive, .start, "include file=\"a.t\" once=\"true\"".toList⟩,
          ⟨.directive, .start, "include file=\"a.t\" once=\"true\"".toList⟩] =
      walk .vanished ⟨"m".toList⟩ .start
        [⟨.directive, .start, "include file=\"a.t\" once=\"true\"".toList⟩] := by
  have hs : Selects .vanished
      ⟨.directive, .start, "include file=\"a.t\" once=\"true\"".toList⟩ "a.t".toList true
      ⟨⟨"a.t".toList⟩, .error .notFound⟩ :=
    ⟨rfl, by decide +kernel, by decide +kernel, rfl⟩
  exact ⟨_, hs, (include_once .vanished ⟨"m".toList⟩ []).2.2.2.2.2 _ _ _ _ _ hs⟩

end Stencil.Resolver
