/-
  Include files that include each other in a ring.

  * a `Relay` is a file whose text has one directive, with the tokens before and behind it;
  * `Relay.Includes env r q`: the directive of a file puts in another one, as often as it is
    carried out;
  * a `Ring` is a list of such files of which each one includes the next one, and the last one
    the first one.

  A run goes into the files of a chain one after the other, with one more active file at each
  of them, and comes back through what stands behind their directives
  (`result_walk_relay`, by induction on the files that are still ahead).  In a ring the last file
  asks for one that is active.

  Main statement: `resolve_ring`.
-/
import Mathlib.Data.List.Rotate
import Stencil.Proofs.Resolution.Failure

namespace Stencil

namespace Resolution

/-- Sections and nothing else. -/
def ofSections (sections : List Section) : Resolution := { empty with sections }

@[simp] theorem ofSections_nil : ofSections [] = empty := rfl

theorem ofSections_append (xs ys : List Section) :
    ofSections (xs ++ ys) = ofSections xs ++ ofSections ys := rfl

end Resolution

namespace Resolver

/-- The sections that tokens of a file become. -/
def sectionsOf (file : Path) (tokens : List Token) : List Section :=
  tokens.filterMap fun t => (Section.Kind.ofToken? t.kind).map fun kind =>
    ⟨kind, file, t.position, t.content⟩

/-- **Tokens that are no directives become their sections**, and change nothing else. -/
theorem walk_of_plain {env : Setting} {file : Path} (s : Resolver) {tokens : List Token}
    (h : ∀ t ∈ tokens, t.kind ≠ .directive) :
    walk env file s tokens = s.add (.ofSections (sectionsOf file tokens)) := by
  induction tokens generalizing s with
  | nil => simp [sectionsOf, add]
  | cons t rest ih =>
    obtain ⟨ht, hrest⟩ := List.forall_mem_cons.1 h
    obtain ⟨kind, hk⟩ : ∃ kind, Section.Kind.ofToken? t.kind = some kind := by
      cases hkind : t.kind with
      | directive => exact absurd hkind ht
      | text | code | expression => exact ⟨_, rfl⟩
    have hsections : sectionsOf file (t :: rest) =
        [⟨kind, file, t.position, t.content⟩] ++ sectionsOf file rest := by
      simp [sectionsOf, hk]
    rw [walk_done (step_eq_of_outcome (.plain hk)), ih _ hrest, hsections,
      Resolution.ofSections_append, add, add, add, ← Resolution.append_assoc]
    rfl

/-! ## Files with one directive -/

/-- A file whose text has one directive. -/
structure Relay where
  path : Path
  text : Text
  before : List Token
  directive : Token
  behind : List Token
  scan : Token.scan text = before ++ directive :: behind
  plain_before : ∀ t ∈ before, t.kind ≠ .directive
  plain_behind : ∀ t ∈ behind, t.kind ≠ .directive

namespace Relay

def source (r : Relay) : Source := ⟨r.path, .ok r.text⟩

def key (r : Relay) : List Path.Component := r.path.components

/-- The directive of the file puts in the other file, as often as it is carried out. -/
def Includes (env : Setting) (r q : Relay) : Prop :=
  ∃ name, Selects env r.directive name false q.source

/-- The sections before the directive. -/
def ahead (r : Relay) : List Section := sectionsOf r.path r.before

/-- The sections behind the directive. -/
def after (r : Relay) : List Section := sectionsOf r.path r.behind

/-- The error of the directive if it closes a cycle. -/
def cycle (r : Relay) : DirectiveError :=
  ⟨.cyclicInclude, r.path, r.directive.position, r.directive.content⟩

end Relay

section
variable {env : Setting} {r q : Relay} {s : Resolver}

/-- The sections around the directive enclose what it adds. -/
theorem result_walk_scan {r' : Resolution}
    (h : ∀ s' : Resolver, s'.active = s.active →
      (walk env r.path s' [r.directive]).result = s'.result ++ r') :
    (walk env r.path s (Token.scan r.text)).result =
      s.result ++ (.ofSections r.ahead ++ (r' ++ .ofSections r.after)) := by
  rw [r.scan, ← List.singleton_append, ← List.append_assoc, walk_append, walk_append,
    walk_of_plain _ r.plain_before, walk_of_plain _ r.plain_behind, result_add,
    h _ (active_add _ _), result_add, Resolution.append_assoc, Resolution.append_assoc]
  rfl

/-- A file that includes an active one reports the cycle. -/
theorem result_walk_of_cycle (h : r.Includes env q) (ha : q.key ∈ s.active) :
    (walk env r.path s (Token.scan r.text)).result =
      s.result ++ (.ofSections r.ahead ++ (.ofError r.cycle ++ .ofSections r.after)) := by
  obtain ⟨name, hs⟩ := h
  refine result_walk_scan fun s' hactive => ?_
  exact (Fails.cyclic hs (by simp) (hactive ▸ ha)).result_walk

/-- A file that includes one that is not active puts in what that one adds while it is active. -/
theorem result_walk_of_includes (h : r.Includes env q) (ha : q.key ∉ s.active)
    {inside : Resolution}
    (hinside : ∀ s' : Resolver, s'.active = q.key :: s.active →
      (walk env q.path s' (Token.scan q.text)).result = s'.result ++ inside) :
    (walk env r.path s (Token.scan r.text)).result =
      s.result ++ (.ofSections r.ahead ++ (inside ++ .ofSections r.after)) := by
  obtain ⟨name, hs⟩ := h
  refine result_walk_scan fun s' hactive => ?_
  have hfree : q.source.path.components ∉ s'.active := hactive ▸ ha
  rw [walk_expand (step_eq_of_outcome (.expanded hs (by simp) hfree rfl)), walk_nil, result_leave]
  refine (hinside _ ?_).trans ?_
  · rw [← hactive]
    rfl
  · rw [result_choose]

/-! ## Chains -/

/-- **A chain of files whose last one includes one of them, or an active file, reports that cycle
    and no other**, between the sections before the directives, in the order of the chain, and
    those behind them, in the opposite order. -/
theorem result_walk_relay {final : Relay} (rest : List Relay) (r : Relay) (s : Resolver)
    (hincludes : List.Forall₂ (Relay.Includes env) (r :: rest) (rest ++ [final]))
    (hnodup : (rest.map Relay.key).Nodup) (hfree : ∀ q ∈ rest, q.key ∉ s.active)
    (hfinal : final.key ∈ s.active ∨ final ∈ rest) :
    (walk env r.path s (Token.scan r.text)).result = s.result ++
      (.ofSections ((r :: rest).flatMap Relay.ahead) ++
        (.ofError ((r :: rest).getLast (List.cons_ne_nil r rest)).cycle ++
          .ofSections ((r :: rest).reverse.flatMap Relay.after))) := by
  induction rest generalizing r s with
  | nil =>
    cases hincludes with
    | cons h _ =>
      rw [result_walk_of_cycle h (hfinal.resolve_right List.not_mem_nil)]
      simp
  | cons q rest ih =>
    cases hincludes with
    | cons h hincludes =>
      rw [List.map_cons, List.nodup_cons] at hnodup
      obtain ⟨hq, hrest⟩ := List.forall_mem_cons.1 hfree
      -- in the next file one more file is active, which is none of those that follow
      refine (result_walk_of_includes h hq fun s' hactive =>
        ih q s' hincludes hnodup.2 (fun p hp => ?_) ?_).trans ?_
      · rw [hactive, List.mem_cons, not_or]
        exact ⟨fun heq => hnodup.1 (heq ▸ List.mem_map_of_mem hp), hrest p hp⟩
      · rw [hactive]
        rcases hfinal with hfinal | hfinal
        · exact .inl (List.mem_cons_of_mem _ hfinal)
        · rcases List.mem_cons.1 hfinal with rfl | hfinal
          · exact .inl List.mem_cons_self
          · exact .inr hfinal
      · rw [List.getLast_cons (List.cons_ne_nil q rest)]
        simp only [List.flatMap_cons, List.reverse_cons, List.flatMap_append, List.flatMap_nil,
          List.append_nil, Resolution.ofSections_append, Resolution.append_assoc]

end

/-! ## Rings -/

/-- Files of which each one includes the next one, and the last one the first one. -/
structure Ring (env : Setting) where
  files : List Relay
  ne_nil : files ≠ []
  includes : List.Forall₂ (Relay.Includes env) files (files.rotate 1)
  distinct : (files.map Relay.key).Nodup

/-- **A ring of includes reports one cycle.**  A template whose one directive includes the first
    file of a ring resolves to the sections before the directives, in the template and in the
    files of the ring, and those behind them, in the files of the ring from the last one to the
    first one and in the template; the only error is that of the cycle, at the directive of the
    last file, and nothing else is found. -/
theorem resolve_ring {env : Setting} (ring : Ring env) (template : Relay)
    (h : template.Includes env (ring.files.head ring.ne_nil)) :
    resolve env template.path template.text =
      ⟨template.ahead ++ ring.files.flatMap Relay.ahead ++
          ring.files.reverse.flatMap Relay.after ++ template.after,
        [], false, false, [(ring.files.getLast ring.ne_nil).cycle]⟩ := by
  obtain ⟨files, hne, hincludes, hdistinct⟩ := ring
  obtain ⟨first, rest, rfl⟩ := List.exists_cons_of_ne_nil hne
  rw [List.rotate_cons_succ, List.rotate_zero] at hincludes
  have hwalk := result_walk_relay (first :: rest) template .start (.cons h hincludes) hdistinct
    (fun _ _ => List.not_mem_nil) (.inr List.mem_cons_self)
  rw [resolve, hwalk, List.getLast_cons hne]
  simp [start, Resolution.ofSections, Resolution.ofError, Resolution.append_def, Resolution.empty]

/-- A file that includes `b.t`. -/
def relayA : Relay where
  path := ⟨"a.t".toList⟩
  text := "1<#@ include=\"b.t\" #>2".toList
  before := [⟨.text, ⟨1, 0⟩, ['1']⟩]
  directive := ⟨.directive, ⟨1, 4⟩, " include=\"b.t\" ".toList⟩
  behind := [⟨.text, ⟨1, 21⟩, ['2']⟩]
  scan := by decide +kernel
  plain_before := by decide
  plain_behind := by decide

/-- A file that includes `a.t`. -/
def relayB : Relay where
  path := ⟨"b.t".toList⟩
  text := "<# x #><#@ include file=\"a.t\" #><#= y #>".toList
  before := [⟨.code, ⟨1, 2⟩, " x ".toList⟩]
  directive := ⟨.directive, ⟨1, 10⟩, " include file=\"a.t\" ".toList⟩
  behind := [⟨.expression, ⟨1, 35⟩, " y ".toList⟩]
  scan := by decide +kernel
  plain_before := by decide
  plain_behind := by decide

/-- A template that includes `a.t` between two texts. -/
def ringTemplate : Relay where
  path := ⟨"m".toList⟩
  text := "0<#@ include=\"a.t\" #>3".toList
  before := [⟨.text, ⟨1, 0⟩, ['0']⟩]
  directive := ⟨.directive, ⟨1, 4⟩, " include=\"a.t\" ".toList⟩
  behind := [⟨.text, ⟨1, 21⟩, ['3']⟩]
  scan := by decide +kernel
  plain_before := by decide
  plain_behind := by decide

/-- A lookup with two files that include each other. -/
def Setting.ring : Setting := ⟨⟨[relayA.source, relayB.source]⟩, "t".toList⟩

/-- The ring of two files. -/
def ringOfTwo : Ring .ring where
  files := [relayA, relayB]
  ne_nil := List.cons_ne_nil _ _
  includes :=
    .cons ⟨"b.t".toList, rfl, by decide +kernel, by decide +kernel, rfl⟩
      (.cons ⟨"a.t".toList, rfl, by decide +kernel, by decide +kernel, rfl⟩ .nil)
  distinct := by decide +kernel

theorem resolve_ring_two :
    ringTemplate.Includes .ring relayA ∧
    resolve .ring ⟨"m".toList⟩ "0<#@ include=\"a.t\" #>3".toList =
      ⟨[⟨.text, ⟨"m".toList⟩, ⟨1, 0⟩, ['0']⟩, ⟨.text, ⟨"a.t".toList⟩, ⟨1, 0⟩, ['1']⟩,
          ⟨.code, ⟨"b.t".toList⟩, ⟨1, 2⟩, " x ".toList⟩,
          ⟨.expression, ⟨"b.t".toList⟩, ⟨1, 35⟩, " y ".toList⟩,
          ⟨.text, ⟨"a.t".toList⟩, ⟨1, 21⟩, ['2']⟩, ⟨.text, ⟨"m".toList⟩, ⟨1, 21⟩, ['3']⟩],
        [], false, false,
        [⟨.cyclicInclude, ⟨"b.t".toList⟩, ⟨1, 10⟩, " include file=\"a.t\" ".toList⟩]⟩ := by
  have h : ringTemplate.Includes .ring relayA :=
    ⟨"a.t".toList, rfl, by decide +kernel, by decide +kernel, rfl⟩
  exact ⟨h, resolve_ring ringOfTwo ringTemplate h⟩

end Resolver

end Stencil
