/-
  The course of a walk, moment by moment.

  A `Moment` is the state of the walk with the files that are being carried out: the
  current one and, around it, those whose include directives wait for it.  `next?`
  carries out one token, enters a file or leaves one; it is the walk of a run-time
  stack instead of a recursion.

  * `Moment.Next` tells the three ways in which a walk goes on;
  * `Moment.depth` is the number of include expansions that are open;
  * `Moment.Bounded` is the invariant: the open expansions are those of the active
    files, which are different files of the lookup;
  * `Moment.Passes` lists the moments between two moments of a course;
  * `paths` are the paths of the candidates of a lookup.

  Main statement: the course of every template ends, with the resolution of the template
  as its result, and at no moment of it are there more open expansions than paths in
  the lookup (`resolve_ends`).
-/
import Mathlib.Data.Finset.Card
import Mathlib.Logic.Relation
import Stencil.Resolution

namespace Stencil.Resolver

/-- The paths of the files of a lookup; files of one path are counted once. -/
def paths (lookup : Lookup) : Finset (List Path.Component) :=
  (lookup.sources.map fun source => source.path.components).toFinset

theorem mem_paths {lookup : Lookup} {source : Source} (h : source ∈ lookup.sources) :
    source.path.components ∈ paths lookup := by
  simp only [paths, List.mem_toFinset, List.mem_map]
  exact ⟨source, h, rfl⟩

/-! ## Moments -/

/-- A file and the tokens of it that are not carried out yet. -/
structure Frame where
  file : Path
  rest : List Token

/-- A moment of a walk. -/
structure Moment where
  state : Resolver
  /-- The file that is being carried out. -/
  current : Frame
  /-- The files whose include directives are being expanded, the innermost first. -/
  outer : List Frame

namespace Moment

/-- Before the first token of a template. -/
def start (path : Path) (text : Text) : Moment := ⟨.start, ⟨path, Token.scan text⟩, []⟩

/-- The number of open include expansions. -/
def depth (m : Moment) : Nat := m.outer.length

/-- The moment after the next token, or behind the current file when it has no more
    tokens; there is none behind the template. -/
def next? (env : Setting) : Moment → Option Moment
  | ⟨_, ⟨_, []⟩, []⟩ => none
  | ⟨s, ⟨_, []⟩, frame :: outer⟩ => some ⟨s.leave, frame, outer⟩
  | ⟨s, ⟨file, t :: rest⟩, outer⟩ =>
    match step env file s t with
    | .done next => some ⟨next, ⟨file, rest⟩, outer⟩
    | .expand source text next =>
      some ⟨next, ⟨source.path, Token.scan text⟩, ⟨file, rest⟩ :: outer⟩

/-- The second moment comes after the first one, or is the same. -/
def Reaches (env : Setting) : Moment → Moment → Prop :=
  Relation.ReflTransGen fun m m' => next? env m = some m'

/-- What comes next: the current file is left, a token is done, or a file is entered. -/
inductive Next (env : Setting) : Moment → Moment → Prop
  | leave {s file frame outer} : Next env ⟨s, ⟨file, []⟩, frame :: outer⟩ ⟨s.leave, frame, outer⟩
  | done {s file t rest outer next} : step env file s t = .done next →
      Next env ⟨s, ⟨file, t :: rest⟩, outer⟩ ⟨next, ⟨file, rest⟩, outer⟩
  | expand {s file t rest outer source text next} : step env file s t = .expand source text next →
      Next env ⟨s, ⟨file, t :: rest⟩, outer⟩
        ⟨next, ⟨source.path, Token.scan text⟩, ⟨file, rest⟩ :: outer⟩

variable {env : Setting}

theorem next?_eq_some_iff {m m' : Moment} : next? env m = some m' ↔ Next env m m' := by
  constructor
  · intro h
    obtain ⟨s, ⟨file, _ | ⟨t, rest⟩⟩, outer⟩ := m
    · cases outer with
      | nil => simp [next?] at h
      | cons frame outer =>
        simp only [next?, Option.some.injEq] at h
        subst h
        exact .leave
    · rcases hstep : step env file s t with next | ⟨source, text, next⟩
      · simp only [next?, hstep, Option.some.injEq] at h
        subst h
        exact .done hstep
      · simp only [next?, hstep, Option.some.injEq] at h
        subst h
        exact .expand hstep
  · rintro (_ | h | h)
    · rfl
    · simp only [next?, h]
    · simp only [next?, h]

theorem Next.reaches {m m' : Moment} (h : Next env m m') : Reaches env m m' :=
  .single (next?_eq_some_iff.2 h)

/-- From one moment to the next one a file is left, or the state becomes that of the step of the
    next token. -/
theorem leave_or_step {m m' : Moment} (h : next? env m = some m') :
    (∃ s file frame outer, m = ⟨s, ⟨file, []⟩, frame :: outer⟩ ∧ m' = ⟨s.leave, frame, outer⟩) ∨
    ∃ s file t rest outer, m = ⟨s, ⟨file, t :: rest⟩, outer⟩ ∧
      m'.state = (step env file s t).state := by
  cases next?_eq_some_iff.1 h with
  | leave => exact .inl ⟨_, _, _, _, rfl, rfl⟩
  | done hstep => exact .inr ⟨_, _, _, _, _, rfl, by rw [hstep]; rfl⟩
  | expand hstep => exact .inr ⟨_, _, _, _, _, rfl, by rw [hstep]; rfl⟩

end Moment

section
variable {env : Setting}

/-! ## The end of a course -/

/-- **The course of a file ends in the state of the walk**, whatever files wait for it. -/
theorem reaches_walk (env : Setting) (file : Path) (s : Resolver) (tokens : List Token)
    (outer : List Frame) :
    Moment.Reaches env ⟨s, ⟨file, tokens⟩, outer⟩ ⟨walk env file s tokens, ⟨file, []⟩, outer⟩ := by
  induction file, s, tokens using walk_induction env generalizing outer with
  | nil file s =>
    rw [walk_nil]
    exact .refl
  | done file s t rest next h ih =>
    rw [walk_done h]
    exact (Moment.Next.done h).reaches.trans (ih outer)
  | expand file s t rest source text next h ih ih' =>
    -- into the expansion, through it, out of it and on
    rw [walk_expand h]
    exact (Moment.Next.expand h).reaches.trans
      ((ih (⟨file, rest⟩ :: outer)).trans (Moment.Next.leave.reaches.trans (ih' outer)))

/-! ## The moments that are passed -/

namespace Moment

/-- Between two moments the course passes the moments of a list, which begins with the
    first one and ends before the second one. -/
inductive Passes (env : Setting) : Moment → List Moment → Moment → Prop
  | refl (m) : Passes env m [] m
  | head {m next passed last} : next? env m = some next → Passes env next passed last →
      Passes env m (m :: passed) last

theorem Passes.append {m m' m'' : Moment} {passed passed' : List Moment}
    (h : Passes env m passed m') (h' : Passes env m' passed' m'') :
    Passes env m (passed ++ passed') m'' := by
  induction h with
  | refl => exact h'
  | head hnext _ ih => exact .head hnext (ih h')

/-- The token that comes next. -/
def token? (m : Moment) : Option Token := m.current.rest.head?

/-- The tokens that come next while `n` expansions are open, each with its file. -/
def tokensAt (n : Nat) (passed : List Moment) : List (Path × Token) :=
  (passed.filter fun m => m.depth = n).filterMap fun m => m.token?.map (m.current.file, ·)

theorem tokensAt_append (n : Nat) (passed passed' : List Moment) :
    tokensAt n (passed ++ passed') = tokensAt n passed ++ tokensAt n passed' := by
  simp [tokensAt]

theorem tokensAt_of_lt {n : Nat} {passed : List Moment} (h : ∀ m ∈ passed, n < m.depth) :
    tokensAt n passed = [] := by
  have hfilter : passed.filter (fun m => m.depth = n) = [] := by
    refine List.filter_eq_nil_iff.2 fun m hm => ?_
    have := h m hm
    simp only [decide_eq_true_eq]
    omega
  rw [tokensAt, hfilter, List.filterMap_nil]

end Moment

/-- **The course of a file passes each of its tokens once and in order** while no expansion is
    open but those around the file. -/
theorem exists_passes (env : Setting) (file : Path) (s : Resolver) (tokens : List Token)
    (outer : List Frame) : ∃ passed,
      Moment.Passes env ⟨s, ⟨file, tokens⟩, outer⟩ passed
        ⟨walk env file s tokens, ⟨file, []⟩, outer⟩ ∧
      (∀ m ∈ passed, outer.length ≤ m.depth) ∧
      Moment.tokensAt outer.length passed = tokens.map (file, ·) := by
  induction file, s, tokens using walk_induction env generalizing outer with
  | nil file s =>
    rw [walk_nil]
    exact ⟨[], .refl _, by simp, rfl⟩
  | done file s t rest next h ih =>
    obtain ⟨passed, hpasses, hdepth, htokens⟩ := ih outer
    rw [walk_done h]
    refine ⟨⟨s, ⟨file, t :: rest⟩, outer⟩ :: passed,
      .head (Moment.next?_eq_some_iff.2 (.done h)) hpasses,
      List.forall_mem_cons.2 ⟨Nat.le_refl _, hdepth⟩, ?_⟩
    rw [List.map_cons, ← htokens]
    simp [Moment.tokensAt, Moment.depth, Moment.token?]
  | expand file s t rest source text next h ih ih' =>
    obtain ⟨inside, hinside, hdeep, -⟩ := ih (⟨file, rest⟩ :: outer)
    obtain ⟨behind, hbehind, hdepth, htokens⟩ := ih' outer
    rw [walk_expand h]
    -- the moments of the expanded file lie one expansion deeper, its end included
    have hpast : ∀ m ∈ inside ++ [⟨walk env source.path next (Token.scan text), ⟨source.path, []⟩,
        ⟨file, rest⟩ :: outer⟩], outer.length < m.depth := by
      intro m hm
      rcases List.mem_append.1 hm with hm | hm
      · exact hdeep m hm
      · rw [List.mem_singleton.1 hm]
        exact Nat.lt_succ_self _
    refine ⟨⟨s, ⟨file, t :: rest⟩, outer⟩ :: (inside ++ [_] ++ behind),
      .head (Moment.next?_eq_some_iff.2 (.expand h))
        ((hinside.append (.head rfl (.refl _))).append hbehind),
      ?_, ?_⟩
    · intro m hm
      rcases List.mem_cons.1 hm with rfl | hm
      · exact Nat.le_refl _
      · rcases List.mem_append.1 hm with hm | hm
        · exact Nat.le_of_lt (hpast m hm)
        · exact hdepth m hm
    · have hskip := Moment.tokensAt_of_lt hpast
      rw [← List.singleton_append, Moment.tokensAt_append, Moment.tokensAt_append, hskip, htokens]
      simp [Moment.tokensAt, Moment.depth, Moment.token?]

/-! ## The open expansions -/

/-- There is one active file for each open expansion, and the active files are different
    files of the lookup. -/
structure Moment.Bounded (env : Setting) (m : Moment) : Prop where
  length : m.state.active.length = m.outer.length
  nodup : m.state.active.Nodup
  known : ∀ key ∈ m.state.active, key ∈ paths env.lookup

theorem Moment.bounded_start (path : Path) (text : Text) : (start path text).Bounded env :=
  ⟨rfl, List.nodup_nil, fun _ h => absurd h List.not_mem_nil⟩

theorem Moment.Bounded.next {m m' : Moment} (hm : m.Bounded env) (h : next? env m = some m') :
    m'.Bounded env := by
  cases next?_eq_some_iff.1 h with
  | @leave s file frame outer =>
    -- the current file is left, and the innermost active file with it
    refine ⟨?_, hm.nodup.sublist (List.tail_sublist _), fun key hkey => ?_⟩
    · have := hm.length
      simp only [leave, List.length_tail] at this ⊢
      simp [this]
    · exact hm.known key (List.mem_of_mem_tail hkey)
  | done hstep =>
    have hactive := active_of_step hstep
    exact ⟨by rw [hactive]; exact hm.length, by rw [hactive]; exact hm.nodup,
      by rw [hactive]; exact hm.known⟩
  | expand hstep =>
    obtain ⟨hmem, hfree, hactive⟩ := of_step hstep
    refine ⟨?_, ?_, ?_⟩
    · have := hm.length
      simp only at this
      simp [hactive, this]
    · rw [hactive]
      exact List.nodup_cons.2 ⟨hfree, hm.nodup⟩
    · rw [hactive]
      intro key hkey
      rcases List.mem_cons.1 hkey with rfl | hkey
      · exact mem_paths hmem
      · exact hm.known key hkey

theorem Moment.Bounded.reaches {m m' : Moment} (hm : m.Bounded env) (h : Reaches env m m') :
    m'.Bounded env := by
  induction h with
  | refl => exact hm
  | tail _ hnext ih => exact ih.next hnext

theorem Moment.Bounded.depth_le {m : Moment} (hm : m.Bounded env) :
    m.depth ≤ (paths env.lookup).card := by
  calc m.depth = m.state.active.length := hm.length.symm
    _ = m.state.active.toFinset.card := (List.toFinset_card_of_nodup hm.nodup).symm
    _ ≤ (paths env.lookup).card :=
      Finset.card_le_card fun key hkey => hm.known key (List.mem_toFinset.1 hkey)

/-- **The resolution of every template ends**, and at every moment of it the open include
    expansions are at most as many as the paths of the lookup. -/
theorem resolve_ends (env : Setting) (path : Path) (text : Text) :
    (∃ last, Moment.Reaches env (.start path text) last ∧ last.next? env = none ∧
      last.state.result = resolve env path text) ∧
    ∀ m, Moment.Reaches env (.start path text) m → m.depth ≤ (paths env.lookup).card :=
  ⟨⟨_, reaches_walk env path .start (Token.scan text) [], rfl, rfl⟩,
    fun _ h => ((Moment.bounded_start path text).reaches h).depth_le⟩

end

end Stencil.Resolver
