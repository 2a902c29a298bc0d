/-
  What each token contributes to a resolution.

  Without includes that are put in only once, a token adds the same results in every
  state whose active files are the same set: neither what was found before it nor what
  was chosen before it matters, so no branch of the includes is seen by another one.

  * `SameActive` relates states whose active files are the same set, `Alike` the steps
    from two such states;
  * `contribution` is what a token adds, with the file that it expands; it is a function
    of the token, its file and the set of active files;
  * `OnceFree` says that no directive among some tokens is a once-only include.

  Main statement: a resolution is the concatenation of the contributions of the
  template's tokens, and the contribution of an expanded include is the concatenation of
  those of the tokens of its file (`resolve_eq_concat`).
-/
import Mathlib.Data.Finset.Card
import Stencil.Resolution

namespace Stencil

/-- Parts of a resolution in order. -/
def Resolution.concat (rs : List Resolution) : Resolution := rs.foldr (· ++ ·) .empty

/-- Whether a token is an include directive that puts its file in only once. -/
def Token.isOnce (t : Token) : Bool :=
  t.kind = .directive && match Directive.read t.content with
    | .ok (.includeFile _ once) => once
    | _ => false

namespace Resolver

/-- No token is a once-only include. -/
def OnceFree (tokens : List Token) : Prop := ∀ t ∈ tokens, t.isOnce = false

instance (tokens : List Token) : Decidable (OnceFree tokens) :=
  inferInstanceAs (Decidable (∀ t ∈ tokens, t.isOnce = false))

theorem OnceFree.tail {t : Token} {rest : List Token} (h : OnceFree (t :: rest)) : OnceFree rest :=
  fun u hu => h u (List.mem_cons_of_mem _ hu)

theorem onceFree_singleton {t : Token} (h : t.isOnce = false) : OnceFree [t] := by
  simpa [OnceFree] using h

/-- No token of a file of the lookup is a once-only include. -/
def OnceFreeFiles (lookup : Lookup) : Prop :=
  ∀ source ∈ lookup.sources, ∀ text, source.text = .ok text → OnceFree (Token.scan text)

/-- The active files of the states are the same set. -/
def SameActive (s s' : Resolver) : Prop := ∀ key, key ∈ s.active ↔ key ∈ s'.active

/-! ## Steps from two states -/

section
variable {env : Setting} {file : Path} {s s' : Resolver} {t : Token}

theorem Selects.once_eq {name : Text} {once : Bool} {source : Source}
    (hs : Selects env t name once source) : t.isOnce = once := by
  simp [Token.isOnce, hs.directive, hs.read]

/-- Steps from two states that add the same results, or expand the same file and add
    nothing. -/
inductive Alike (s s' : Resolver) : Step → Step → Prop where
  | done {next next'} (r : Resolution) (h : next.result = s.result ++ r)
    (h' : next'.result = s'.result ++ r) : Alike s s' (.done next) (.done next')
  | expand {source text next next'} (ht : source.text = .ok text)
    (h : next.result = s.result) (h' : next'.result = s'.result) :
    Alike s s' (.expand source text next) (.expand source text next')

/-- **What was found and chosen before a token does not matter for its step.** -/
theorem alike_step (hactive : SameActive s s') (ht : t.isOnce = false) :
    Alike s s' (step env file s t) (step env file s' t) := by
  -- the step from the other state is the same outcome
  generalize h : step env file s t = result
  have ho : Outcome env file s t result := h ▸ outcome_step
  cases ho with
  | plain hk => rw [step_eq_of_outcome (.plain hk)]; exact .done _ rfl rfl
  | malformed hk hr => rw [step_eq_of_outcome (.malformed hk hr)]; exact .done _ rfl rfl
  | imported hk hr => rw [step_eq_of_outcome (.imported hk hr)]; exact .done _ rfl rfl
  | libraries hk hr => rw [step_eq_of_outcome (.libraries hk hr)]; exact .done _ rfl rfl
  | program hk hr => rw [step_eq_of_outcome (.program hk hr)]; exact .done _ rfl rfl
  | unsupported hk hr he =>
    rw [step_eq_of_outcome (.unsupported hk hr he)]; exact .done _ rfl rfl
  | notFound hk hr he hc =>
    rw [step_eq_of_outcome (.notFound hk hr he hc)]; exact .done _ rfl rfl
  | duplicated hk hr he hc =>
    rw [step_eq_of_outcome (.duplicated hk hr he hc)]; exact .done _ rfl rfl
  | skipped hs _ => exact absurd (hs.once_eq.symm.trans ht) (by simp)
  | cyclic hs _ ha =>
    obtain rfl := hs.once_eq.symm.trans ht
    rw [step_eq_of_outcome (.cyclic hs (by simp) ((hactive _).1 ha))]
    exact .done (failure file t .cyclicInclude) (by simp) (by simp)
  | @unreadable name _ _ cause hs _ ha htext =>
    obtain rfl := hs.once_eq.symm.trans ht
    rw [step_eq_of_outcome (.unreadable hs (by simp) (fun h => ha ((hactive _).2 h)) htext)]
    exact .done (failure file t (.ofReadFailure name cause)) (by simp) (by simp)
  | expanded hs _ ha htext =>
    obtain rfl := hs.once_eq.symm.trans ht
    rw [step_eq_of_outcome (.expanded hs (by simp) (fun h => ha ((hactive _).2 h)) htext)]
    exact .expand htext (by simp) (by simp)

end

/-! ## Walks from two states -/

section
variable {env : Setting} (hfiles : OnceFreeFiles env.lookup)
include hfiles

/-- **Two walks over the same tokens add the same results**, if the same set of files is
    active. -/
theorem walk_alike (file : Path) (s s' : Resolver) (tokens : List Token)
    (hactive : SameActive s s') (ht : OnceFree tokens) :
    ∃ r, (walk env file s tokens).result = s.result ++ r ∧
      (walk env file s' tokens).result = s'.result ++ r := by
  induction file, s, tokens using walk_induction env generalizing s' with
  | nil file s => exact ⟨.empty, by simp, by simp⟩
  | done file s t rest next h ih =>
    have hstep : Alike s s' (step env file s t) (step env file s' t) :=
      alike_step hactive (ht t List.mem_cons_self)
    rw [h] at hstep
    generalize h' : step env file s' t = result' at hstep
    cases hstep with
    | @done _ next' r hr hr' =>
      have hnext : SameActive next next' := by
        intro key; rw [active_of_step h, active_of_step h']; exact hactive key
      obtain ⟨r', hs, hs'⟩ := ih next' hnext ht.tail
      refine ⟨r ++ r', ?_, ?_⟩
      · rw [walk_done h, hs, hr, Resolution.append_assoc]
      · rw [walk_done h', hs', hr', Resolution.append_assoc]
  | expand file s t rest source text next h ih ih' =>
    have hstep : Alike s s' (step env file s t) (step env file s' t) :=
      alike_step hactive (ht t List.mem_cons_self)
    rw [h] at hstep
    generalize h' : step env file s' t = result' at hstep
    cases hstep with
    | @expand _ _ _ next' htext hr hr' =>
      have hnext : SameActive next next' := by
        intro key
        rw [(of_step h).2.2, (of_step h').2.2, List.mem_cons, List.mem_cons, hactive key]
      obtain ⟨r, hs, hs'⟩ := ih next' hnext (hfiles source (of_step h).1 text htext)
      have hleave : SameActive (walk env source.path next (Token.scan text)).leave
          (walk env source.path next' (Token.scan text)).leave := by
        intro key
        rw [active_leave h (active_walk _), active_leave h' (active_walk _)]
        exact hactive key
      obtain ⟨r', hrest, hrest'⟩ := ih' _ hleave ht.tail
      refine ⟨r ++ r', ?_, ?_⟩
      · rw [walk_expand h, hrest, result_leave, hs, hr, Resolution.append_assoc]
      · rw [walk_expand h', hrest', result_leave, hs', hr', Resolution.append_assoc]

end

/-! ## Contributions -/

/-- What a token of a file adds, together with the file that it expands, while a set of
    files is active. -/
noncomputable def contribution (env : Setting) (file : Path)
    (active : Finset (List Path.Component)) (t : Token) : Resolution :=
  (walk env file ⟨[], active.toList, .empty⟩ [t]).result

section
variable {env : Setting} (hfiles : OnceFreeFiles env.lookup)
include hfiles

/-- In every state a token adds its contribution. -/
theorem result_walk_singleton (file : Path) (s : Resolver) {t : Token} (ht : t.isOnce = false) :
    (walk env file s [t]).result = s.result ++ contribution env file s.active.toFinset t := by
  have hactive : SameActive s ⟨[], s.active.toFinset.toList, .empty⟩ := by
    intro key; simp
  obtain ⟨r, hs, hr⟩ := walk_alike hfiles file s _ [t] hactive (onceFree_singleton ht)
  rw [Resolution.empty_append] at hr
  rw [hs, contribution, hr]

/-- **A walk adds the contributions of its tokens in order.** -/
theorem result_walk (file : Path) (s : Resolver) {tokens : List Token} (ht : OnceFree tokens) :
    (walk env file s tokens).result =
      s.result ++ .concat (tokens.map (contribution env file s.active.toFinset)) := by
  induction tokens generalizing s with
  | nil => simp [Resolution.concat]
  | cons t rest ih =>
    rw [← List.singleton_append, walk_append, ih _ ht.tail,
      result_walk_singleton hfiles file s (ht t List.mem_cons_self), active_walk,
      Resolution.append_assoc]
    rfl

/-- The contribution of an include is that of the file which it expands. -/
theorem contribution_of_selects (file : Path) {active : Finset (List Path.Component)} {t : Token}
    {name text : Text} {source : Source} (hs : Selects env t name false source)
    (ha : source.path.components ∉ active) (ht : source.text = .ok text) :
    contribution env file active t = .concat ((Token.scan text).map
      (contribution env source.path (insert source.path.components active))) := by
  have hstep : step env file ⟨[], active.toList, .empty⟩ t = _ :=
    step_eq_of_outcome (.expanded hs (by simp) (by simpa using ha) ht)
  have hmem := (of_step hstep).1
  rw [contribution, walk_expand hstep, walk_nil, result_leave,
    result_walk hfiles _ _ (hfiles source hmem text ht)]
  simp

end

/-- **Branches of the includes do not see each other.**  Where no include is once-only:
    a token adds the same results in all states whose active files are the same set, its
    contribution; the resolution of a template is the concatenation of the contributions
    of its tokens; and the contribution of an include is, in its place, that of the
    tokens of the file which it expands. -/
theorem resolve_eq_concat (env : Setting) (path : Path) (text : Text)
    (hfiles : OnceFreeFiles env.lookup) (htext : OnceFree (Token.scan text)) :
    (∀ file t, t.isOnce = false → ∀ s s', SameActive s s' →
      ∃ r, (walk env file s [t]).result = s.result ++ r ∧
        (walk env file s' [t]).result = s'.result ++ r) ∧
    (∀ file t, t.isOnce = false → ∀ s : Resolver,
      (walk env file s [t]).result = s.result ++ contribution env file s.active.toFinset t) ∧
    resolve env path text = .concat ((Token.scan text).map (contribution env path ∅)) ∧
    ∀ file active t name source body, Selects env t name false source →
      source.path.components ∉ active → source.text = .ok body →
      contribution env file active t = .concat ((Token.scan body).map
        (contribution env source.path (insert source.path.components active))) := by
  refine ⟨fun file t ht s s' hactive => ?_, fun file t ht s => ?_, ?_,
    fun file active t name source body hs ha hb => ?_⟩
  · exact walk_alike hfiles file s s' [t] hactive (onceFree_singleton ht)
  · exact result_walk_singleton hfiles file s ht
  · rw [resolve, result_walk hfiles path .start htext]
    exact Resolution.empty_append _
  · exact contribution_of_selects hfiles file hs ha hb

/-- A lookup with one file, which includes itself. -/
def Setting.cycle : Setting where
  lookup := ⟨[⟨⟨"a.t".toList⟩, .ok "<#@ include file=\"a.t\" #>".toList⟩]⟩
  includeExtension := "t".toList

/-- The template has the text of the file that includes itself. -/
theorem resolve_eq_concat_cycle :
    OnceFreeFiles Setting.cycle.lookup ∧
    OnceFree (Token.scan "<#@ include file=\"a.t\" #>".toList) ∧
    resolve .cycle ⟨"m".toList⟩ "<#@ include file=\"a.t\" #>".toList =
      .concat ((Token.scan "<#@ include file=\"a.t\" #>".toList).map
        (contribution .cycle ⟨"m".toList⟩ ∅)) := by
  have htext : OnceFree (Token.scan "<#@ include file=\"a.t\" #>".toList) := by decide +kernel
  have hfiles : OnceFreeFiles Setting.cycle.lookup := by
    intro source hsource text ht
    obtain rfl := List.mem_singleton.1 hsource
    cases ht
    exact htext
  exact ⟨hfiles, htext, (resolve_eq_concat .cycle _ _ hfiles htext).2.2.1⟩

end Resolver

end Stencil
