/-
  Include files that are registered more than once.

  A directive reads how many sources its name has, and the path only of a single one.  So a file
  that is registered twice is a duplicate of itself, and it is registered as often as discovery
  finds it under the roots of a run.

  * `fails_includeDuplicated_iff`: a directive fails for this cause if and only if it asks for a
    name with two sources;
  * `Moment.Reaches.errors_resolve`, `mem_errors_of_fails`: what fails at a moment of a course is
    in the errors of the resolution;
  * `resolve_insert_iff`: a further source of a name changes the resolution if the name is asked
    for and had one source.

  Main statement: `resolve_repeated`.
-/
import Stencil.Discovery
import Stencil.Proofs.Resolution.Lookup

namespace Stencil

/-! ## Counting sources -/

/-- The number of sources of a file name. -/
def Source.countNamed (name : Text) (sources : List Source) : Nat :=
  sources.countP fun source => source.path.fileName? == some name

/-- The number of paths that end in a file name. -/
def Path.countNamed (name : Text) (paths : List Path) : Nat :=
  paths.countP fun p => p.fileName? == some name

theorem Lookup.candidates_ofList (sources : List Source) (name : Text) :
    (ofList sources).candidates name =
      sources.filter fun source => source.path.fileName? == some name := by
  rw [candidates, sources_ofList, List.filter_filter]
  refine List.filter_congr fun source _ => ?_
  cases source.path.fileName? <;> simp

theorem Lookup.length_candidates_ofList (sources : List Source) (name : Text) :
    ((ofList sources).candidates name).length = Source.countNamed name sources := by
  rw [candidates_ofList, Source.countNamed, List.countP_eq_length_filter]

theorem Lookup.candidates_insert_of_eq {source : Source} {name : Text} (l : Lookup)
    (h : source.path.fileName? = some name) :
    (l.insert source).candidates name = l.candidates name ++ [source] := by
  rw [candidates, candidates, sources_insert, List.filter_append]
  simp [h]

theorem Project.candidates_lookup (tree : FileTree) (p : Project) (name : Text) :
    (p.lookup tree).candidates name =
      (p.includes.filter fun q => q.fileName? == some name).map (source tree) := by
  rw [lookup, Lookup.candidates_ofList, List.filter_map]
  rfl

/-! ## Counting what is found -/

namespace Discovery

variable {tree : FileTree} {c : Criteria}

theorem includes_discoverAll (roots : List Path) :
    (discoverAll tree c roots).includes =
      roots.flatMap fun root => (discover tree c root).includes := by
  have h : ∀ p : Project, ((roots.map (discover tree c)).foldl Project.append p).includes =
      p.includes ++ roots.flatMap fun root => (discover tree c root).includes := by
    induction roots with
    | nil => simp
    | cons root roots ih =>
      intro p
      rw [List.map_cons, List.foldl_cons, ih, List.flatMap_cons, ← List.append_assoc]
      rfl
  exact h .empty

/-- A file is registered once for each root under which it is found. -/
theorem length_candidates_discoverAll (roots : List Path) (name : Text) :
    (((discoverAll tree c roots).lookup tree).candidates name).length =
      Path.countNamed name (roots.flatMap fun root => (discover tree c root).includes) := by
  rw [Project.candidates_lookup, List.length_map, ← includes_discoverAll, Path.countNamed,
    List.countP_eq_length_filter]

end Discovery

namespace Resolver

section
variable {env : Setting} {s : Resolver} {t : Token}

/-! ## Duplicates -/

theorem LooksUp.unique {env' : Setting} {t' : Token} {name name' : Text} (h : LooksUp env t name)
    (h' : LooksUp env' t' name') (hcontent : t.content = t'.content) : name = name' := by
  obtain ⟨once, hread⟩ := h.read
  obtain ⟨once', hread'⟩ := h'.read
  have hsame := hread.symm.trans ((congrArg Directive.read hcontent).trans hread')
  simp only [Except.ok.injEq, Directive.includeFile.injEq] at hsame
  exact hsame.1

/-- **A name with two sources is a duplicate**, wherever they are. -/
theorem fails_includeDuplicated_iff : Fails env s t .includeDuplicated ↔
    ∃ name, LooksUp env t name ∧ 2 ≤ (env.lookup.candidates name).length := by
  constructor
  · intro h
    generalize hkind : DirectiveError.Kind.includeDuplicated = kind at h
    cases h with
    | @duplicated name once hk hr he hc => exact ⟨name, ⟨hk, ⟨once, hr⟩, he⟩, hc⟩
    | @malformed fault => cases fault <;> cases hkind
    | @unreadable _ _ _ cause => cases cause <;> cases hkind
    | unsupported | notFound | cyclic => cases hkind
  · rintro ⟨name, ⟨hk, ⟨once, hr⟩, he⟩, hc⟩
    exact .duplicated hk hr he hc

/-- Sources of different paths have different paths if they are of one name. -/
theorem exists_ne_of_two_le {sources : List Source} {name : Text}
    (hpaths : sources.Pairwise fun a b => a.path.components ≠ b.path.components)
    (h : 2 ≤ ((Lookup.ofList sources).candidates name).length) :
    ∃ a ∈ (Lookup.ofList sources).candidates name,
      ∃ b ∈ (Lookup.ofList sources).candidates name, a.path.components ≠ b.path.components := by
  rw [Lookup.candidates_ofList] at h ⊢
  have hpaths := hpaths.filter fun source => source.path.fileName? == some name
  generalize sources.filter (fun source => source.path.fileName? == some name) = found at h hpaths ⊢
  rcases found with _ | ⟨a, _ | ⟨b, rest⟩⟩
  · simp at h
  · simp at h
  · exact ⟨a, by simp, b, by simp, List.rel_of_pairwise_cons hpaths List.mem_cons_self⟩

/-! ## Errors of a course -/

theorem Moment.Reaches.errors {m m' : Moment} (h : Reaches env m m') :
    m.state.result.errors <+: m'.state.result.errors := by
  induction h with
  | refl => exact List.prefix_rfl
  | tail _ hnext ih =>
    refine ih.trans ?_
    obtain ⟨s, file, frame, outer, rfl, rfl⟩ | ⟨s, file, t, rest, outer, rfl, hstate⟩ :=
      leave_or_step hnext
    · exact List.prefix_rfl
    · obtain ⟨r, -, hr⟩ := exists_adds env file s t
      rw [hstate, hr, Resolution.errors_append]
      exact List.prefix_append _ _

/-- The errors at a moment are errors of the resolution. -/
theorem Moment.Reaches.errors_resolve {m : Moment} {path : Path} {text : Text}
    (h : Reaches env (start path text) m) :
    m.state.result.errors <+: (resolve env path text).errors :=
  have hend := reaches_walk env path .start (Token.scan text) []
  Reaches.errors (h.reaches_end hend rfl)

theorem mem_errors_of_fails {m : Moment} {path : Path} {text : Text} {kind : DirectiveError.Kind}
    (hm : Moment.Reaches env (.start path text) m) (ht : t ∈ m.token?)
    (h : Fails env m.state t kind) :
    ⟨kind, m.current.file, t.position, t.content⟩ ∈ (resolve env path text).errors := by
  obtain ⟨s, ⟨file, _ | ⟨t', rest⟩⟩, outer⟩ := m
  · cases ht
  · obtain rfl : t' = t := Option.some.inj ht
    obtain ⟨next, hstep, hresult⟩ := h.exists_done file
    have hnext := hm.trans (Moment.Next.done hstep).reaches
    refine (Moment.Reaches.errors_resolve hnext).subset ?_
    simp [hresult, failure, Resolution.ofError]

/-! ## A further source of a name -/

variable {lookup : Lookup} {includeExtension : Text} {source : Source} {name : Text}

/-- With a further source of a name a step is the same, unless its directive asks for the name and
    the name had no other source, or a single one. -/
theorem step_insert (file : Path) (s : Resolver) (hname : source.path.fileName? = some name)
    (h : LooksUp ⟨lookup, includeExtension⟩ t name → 2 ≤ (lookup.candidates name).length) :
    step ⟨lookup.insert source, includeExtension⟩ file s t =
      step ⟨lookup, includeExtension⟩ file s t := by
  by_cases hlooks : LooksUp ⟨lookup, includeExtension⟩ t name
  · -- the directive fails with both lookups
    obtain ⟨hk, ⟨once, hr⟩, he⟩ := hlooks
    have htwo : 2 ≤ (lookup.candidates name).length := h ⟨hk, ⟨once, hr⟩, he⟩
    have hmore : 2 ≤ ((lookup.insert source).candidates name).length := by
      rw [Lookup.candidates_insert_of_eq lookup hname, List.length_append]
      omega
    have hfails : step ⟨lookup, includeExtension⟩ file s t =
        .done (s.add (failure file t .includeDuplicated)) :=
      step_eq_of_outcome (.duplicated hk hr he htwo)
    rw [hfails]
    exact step_eq_of_outcome (.duplicated hk hr he hmore)
  · have hagrees : Agrees ⟨lookup, includeExtension⟩ (lookup.insert source) t := by
      intro name' hlooks'
      have hother : source.path.fileName? ≠ some name' := by
        intro hname'
        cases hname.symm.trans hname'
        exact hlooks hlooks'
      rw [Lookup.candidates_insert lookup hother]
    exact step_congr file s hagrees

/-- If the name is asked for in a course and has less than two sources, it is asked for in a course
    with a further source of it. -/
theorem exists_asks_insert {m : Moment} {path : Path} {text : Text}
    (hname : source.path.fileName? = some name)
    (hm : Moment.Reaches ⟨lookup, includeExtension⟩ (.start path text) m) (ht : t ∈ m.token?)
    (hlooks : LooksUp ⟨lookup, includeExtension⟩ t name) : ∃ mid,
      Moment.Reaches ⟨lookup.insert source, includeExtension⟩ (.start path text) mid ∧
      ∃ t ∈ mid.token?, LooksUp ⟨lookup, includeExtension⟩ t name := by
  rcases hm.congr_until ⟨lookup.insert source, includeExtension⟩ with
    hreach | ⟨mid, -, hmid, hdiffers⟩
  · exact ⟨m, hreach, t, ht, hlooks⟩
  · -- the courses can only part where the name is asked for
    by_contra hnone
    refine hdiffers (Moment.next?_congr fun t ht => step_insert _ _ hname fun hlooks => ?_)
    exact absurd ⟨mid, hmid, t, ht, hlooks⟩ hnone

/-- **A further source of a name changes the resolution if and only if the name had one source and
    is asked for.** -/
theorem resolve_insert_iff (hname : source.path.fileName? = some name)
    (hpresent : lookup.candidates name ≠ []) (path : Path) (text : Text) :
    resolve ⟨lookup.insert source, includeExtension⟩ path text =
        resolve ⟨lookup, includeExtension⟩ path text ↔
      ∀ m, Moment.Reaches ⟨lookup, includeExtension⟩ (.start path text) m → ∀ t ∈ m.token?,
        LooksUp ⟨lookup, includeExtension⟩ t name → 2 ≤ (lookup.candidates name).length := by
  constructor
  · intro hsame m hm t ht hlooks
    obtain ⟨mid, hmid, t, ht, hlooks⟩ := exists_asks_insert hname hm ht hlooks
    have hfails : Fails ⟨lookup.insert source, includeExtension⟩ mid.state t .includeDuplicated := by
      refine fails_includeDuplicated_iff.2 ⟨name, ⟨hlooks.1, hlooks.2, hlooks.3⟩, ?_⟩
      have hlength := List.length_pos_iff.2 hpresent
      rw [Lookup.candidates_insert_of_eq lookup hname, List.length_append, List.length_singleton]
      omega
    -- the error is one of the smaller lookup too, which has two sources for its name then
    have herror := mem_errors_of_fails hmid ht hfails
    rw [hsame] at herror
    obtain ⟨s, t', hfails', hcontent, -⟩ := exists_fails_of_mem_errors herror
    obtain ⟨name', hlooks', htwo⟩ := fails_includeDuplicated_iff.1 hfails'
    rwa [← hlooks.unique hlooks' hcontent] at htwo
  · intro h
    refine resolve_eq_of_next? fun m hm => Moment.next?_congr fun t ht => ?_
    exact step_insert m.current.file m.state hname (h m hm t ht)

end

end Resolver

open Resolver Discovery

/-- **A file is a duplicate as often as it is registered.**  A directive fails with
    `IncludeFileDuplicated` if and only if it asks for a name with two sources, of whatever paths;
    in a run over some roots these are counted once for each root under which they are found.  If
    all sources have different paths, the error is about two files of different paths.  But a file
    that is registered again leaves the resolution of a template as it was if and only if its name
    is not asked for there, or had two sources before. -/
theorem resolve_repeated (includeExtension : Text) (sources : List Source) :
    (∀ s t, Fails ⟨.ofList sources, includeExtension⟩ s t .includeDuplicated ↔
      ∃ name, LooksUp ⟨.ofList sources, includeExtension⟩ t name ∧ 2 ≤ Source.countNamed name sources) ∧
    (∀ tree c roots s t,
      Fails ⟨(discoverAll tree c roots).lookup tree, includeExtension⟩ s t .includeDuplicated ↔
        ∃ name, LooksUp ⟨(discoverAll tree c roots).lookup tree, includeExtension⟩ t name ∧
          2 ≤ Path.countNamed name (roots.flatMap fun root => (discover tree c root).includes)) ∧
    ((sources.Pairwise fun a b => a.path.components ≠ b.path.components) → ∀ s t,
      Fails ⟨.ofList sources, includeExtension⟩ s t .includeDuplicated →
      ∃ name, LooksUp ⟨.ofList sources, includeExtension⟩ t name ∧
        ∃ a ∈ (Lookup.ofList sources).candidates name,
          ∃ b ∈ (Lookup.ofList sources).candidates name,
            a.path.components ≠ b.path.components) ∧
    ∀ present ∈ sources, ∀ source : Source, source.path.components = present.path.components →
      ∀ path text, resolve ⟨(Lookup.ofList sources).insert source, includeExtension⟩ path text =
          resolve ⟨.ofList sources, includeExtension⟩ path text ↔
        ∀ m, Moment.Reaches ⟨.ofList sources, includeExtension⟩ (.start path text) m →
          ∀ t ∈ m.token?, ∀ name, source.path.fileName? = some name →
            LooksUp ⟨.ofList sources, includeExtension⟩ t name →
              2 ≤ Source.countNamed name sources := by
  refine ⟨fun s t => ?_, fun tree c roots s t => ?_, fun hpaths s t hfails => ?_, ?_⟩
  · simp only [fails_includeDuplicated_iff, Lookup.length_candidates_ofList]
  · simp only [fails_includeDuplicated_iff, length_candidates_discoverAll]
  · obtain ⟨name, hlooks, htwo⟩ := fails_includeDuplicated_iff.1 hfails
    exact ⟨name, hlooks, exists_ne_of_two_le hpaths htwo⟩
  · intro present hpresent source hsame path text
    have hfile : source.path.fileName? = present.path.fileName? := by
      rw [Path.fileName?, Path.name?, hsame, Path.fileName?, Path.name?]
    cases hname : source.path.fileName? with
    | none =>
      -- a source without a file name is not kept
      have hskip : (Lookup.ofList sources).insert source = .ofList sources := by
        simp [Lookup.insert, hname]
      simp [hskip]
    | some name =>
      have hmem : present ∈ (Lookup.ofList sources).candidates name := by
        rw [Lookup.candidates_ofList]
        exact List.mem_filter.2 ⟨hpresent, by simp [← hfile, hname]⟩
      rw [resolve_insert_iff hname (List.ne_nil_of_mem hmem), Lookup.length_candidates_ofList]
      simp only [Option.some.injEq, forall_eq']

/-- A file `a.t` below a directory. -/
def fileBelow (directory : String) : Source := ⟨⟨(directory ++ "/a.t").toList⟩, .ok ['A']⟩

/-- The directive of `askingText`. -/
def askingDirective : Token := ⟨.directive, ⟨1, 3⟩, " include=\"a.t\" ".toList⟩

theorem scan_askingText : Token.scan askingText = [askingDirective] := by decide +kernel

theorem looksUp_askingDirective (lookup : Lookup) :
    LooksUp ⟨lookup, ['t']⟩ askingDirective "a.t".toList :=
  ⟨rfl, ⟨false, by decide +kernel⟩, rfl⟩

/-- The first of two files of one name is registered again, under another spelling of its path. -/
theorem resolve_repeated_respelled :
    ([fileBelow "p", fileBelow "q"].Pairwise fun a b => a.path.components ≠ b.path.components) ∧
    Fails ⟨.ofList [fileBelow "p", fileBelow "q"], ['t']⟩ .start askingDirective
      .includeDuplicated ∧
    (∃ a ∈ (Lookup.ofList [fileBelow "p", fileBelow "q"]).candidates "a.t".toList,
      ∃ b ∈ (Lookup.ofList [fileBelow "p", fileBelow "q"]).candidates "a.t".toList,
        a.path.components ≠ b.path.components) ∧
    (fileBelow "p/").path.components = (fileBelow "p").path.components ∧
    resolve ⟨(Lookup.ofList [fileBelow "p", fileBelow "q"]).insert (fileBelow "p/"), ['t']⟩
        ⟨"m".toList⟩ askingText =
      resolve ⟨.ofList [fileBelow "p", fileBelow "q"], ['t']⟩ ⟨"m".toList⟩ askingText := by
  obtain ⟨hfails, -, hpaths, hagain⟩ := resolve_repeated ['t'] [fileBelow "p", fileBelow "q"]
  have hdifferent : [fileBelow "p", fileBelow "q"].Pairwise
      fun a b => a.path.components ≠ b.path.components := by decide +kernel
  have hsame : (fileBelow "p/").path.components = (fileBelow "p").path.components := by
    decide +kernel
  have htwo : 2 ≤ Source.countNamed "a.t".toList [fileBelow "p", fileBelow "q"] := by decide +kernel
  have hlooks := looksUp_askingDirective (.ofList [fileBelow "p", fileBelow "q"])
  have herror := (hfails .start askingDirective).2 ⟨_, hlooks, htwo⟩
  obtain ⟨name, hlooks', hfound⟩ := hpaths hdifferent .start askingDirective herror
  rw [hlooks'.unique hlooks rfl] at hfound
  refine ⟨hdifferent, herror, hfound, hsame, ?_⟩
  refine (hagain (fileBelow "p") List.mem_cons_self (fileBelow "p/") hsame _ _).2 ?_
  intro m _ t _ name hname _
  have heq : (fileBelow "p/").path.fileName? = some "a.t".toList := by decide +kernel
  cases heq.symm.trans hname
  exact htwo

/-- **A single file is a duplicate of itself**: it is registered twice, as with a directory that is
    given twice, and a template that includes it fails, which does not if it is registered once. -/
theorem duplicate_of_itself :
    (∀ name, ∀ a ∈ (Lookup.ofList [fileBelow "p", fileBelow "p"]).candidates name,
      a = fileBelow "p") ∧
    resolve ⟨.ofList [fileBelow "p"], ['t']⟩ ⟨"m".toList⟩ askingText =
      .ofSection ⟨.text, (fileBelow "p").path, .start, ['A']⟩ ∧
    resolve ⟨(Lookup.ofList [fileBelow "p"]).insert (fileBelow "p"), ['t']⟩ ⟨"m".toList⟩ askingText =
      failure ⟨"m".toList⟩ askingDirective .includeDuplicated := by
  have hread : Directive.read askingDirective.content =
      .ok (.includeFile "a.t".toList false) := by decide +kernel
  refine ⟨fun name a ha => ?_, ?_, ?_⟩
  · rw [Lookup.candidates_ofList] at ha
    simpa using List.mem_of_mem_filter ha
  · have hselects : Selects ⟨.ofList [fileBelow "p"], ['t']⟩ askingDirective "a.t".toList false
        (fileBelow "p") := ⟨rfl, hread, by decide, rfl⟩
    have hstep : step ⟨.ofList [fileBelow "p"], ['t']⟩ ⟨"m".toList⟩ .start askingDirective = _ :=
      step_eq_of_outcome (.expanded hselects nofun List.not_mem_nil rfl)
    have hscan : Token.scan ['A'] = [⟨.text, .start, ['A']⟩] := by decide +kernel
    rw [resolve, scan_askingText, walk_expand hstep, hscan, walk_nil]
    rw [walk_done (step_eq_of_outcome (.plain rfl)), walk_nil]
    rfl
  · have hfails : Fails ⟨(Lookup.ofList [fileBelow "p"]).insert (fileBelow "p"), ['t']⟩ .start
        askingDirective .includeDuplicated :=
      fails_includeDuplicated_iff.2 ⟨_, looksUp_askingDirective _, by decide +kernel⟩
    exact hfails.resolve_eq scan_askingText _

end Stencil
