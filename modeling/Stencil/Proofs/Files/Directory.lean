/-
  Files in a directory, by their names.

  A path that is a directory and a name takes the steps of the directory and one step more
  (`Path.steps_join`), and so leads to a place of that name, unless the last step follows a link.

  Main statement: a path to a file in a directory leads to a place that ends with the name of the
  file (`FileTree.LeadsTo.getLast?_join`); so two names lead to two places.
-/
import Stencil.Proofs.Files.Name
import Stencil.Proofs.Files.Writing

namespace Stencil

/-! ## Steps into a directory -/

namespace Path

/-- The steps into a directory. -/
def way (directory : Path) : List Step :=
  (if directory.isAbsolute then [.top] else []) ++
    (Text.splitOn slash directory.bytes).filterMap step?

theorem step?_ne_top (part : Bytes) : step? part ≠ some .top := by
  unfold step?
  split
  · simp
  · split
    · simp
    · split <;> simp

theorem step?_ne_none {part : Bytes} (h : part ≠ []) : step? part ≠ none := by
  unfold step?
  rw [if_neg h]
  split
  · simp
  · split <;> simp

theorem step?_of_down {part name : Bytes} (h : step? part = some (.down name)) : name = part := by
  unfold step? at h
  split at h
  · cases h
  · split at h
    · cases h
    · split at h
      · cases h
      · cases h
        rfl

/-! ### A name behind a path -/

section
variable {name : Bytes} (p : Path) (hname : slash ∉ name)
include hname

theorem isAbsolute_of_slash_notMem : (⟨name⟩ : Path).isAbsolute = false := by
  rw [isAbsolute]
  cases name with
  | nil => rfl
  | cons c name =>
    have : c ≠ slash := fun hc => hname (hc ▸ List.mem_cons_self)
    simpa using this

/-- There is one slash between a path and a name, unless the path is empty. -/
theorem bytes_join : p.bytes = [] ∧ (p.join ⟨name⟩).bytes = name ∨
    ∃ start, (p.bytes = start ∧ start ≠ [] ∨ p.bytes = start ++ [slash]) ∧
      (p.join ⟨name⟩).bytes = start ++ slash :: name := by
  rw [join, if_neg (by simp [isAbsolute_of_slash_notMem hname])]
  by_cases hempty : p.bytes = []
  · exact .inl ⟨hempty, by rw [if_pos (.inl hempty), hempty, List.nil_append]⟩
  · refine .inr ?_
    by_cases hslash : p.bytes.getLast? = some slash
    · obtain ⟨start, hstart⟩ := List.getLast?_eq_some_iff.1 hslash
      refine ⟨start, .inr hstart, ?_⟩
      rw [if_pos (.inr hslash), hstart, List.append_assoc, List.singleton_append]
    · exact ⟨p.bytes, .inl ⟨rfl, hempty⟩, by rw [if_neg (not_or.2 ⟨hempty, hslash⟩)]⟩

theorem isAbsolute_join : (p.join ⟨name⟩).isAbsolute = p.isAbsolute := by
  rcases bytes_join p hname with ⟨hp, hjoin⟩ | ⟨start, ⟨hp, hstart⟩ | hp, hjoin⟩
  · have hnone := isAbsolute_of_slash_notMem hname
    rw [isAbsolute] at hnone ⊢
    rw [hjoin, hnone, isAbsolute, hp]
    rfl
  · rw [isAbsolute, isAbsolute, hp, hjoin, List.head?_append_of_ne_nil _ hstart]
  · rw [isAbsolute, isAbsolute, hp, hjoin]
    cases start <;> rfl

/-- A name is one part more. -/
theorem filterMap_splitOn_join {β : Type} {f : Bytes → Option β} (hf : f [] = none) :
    (Text.splitOn slash (p.join ⟨name⟩).bytes).filterMap f =
      (Text.splitOn slash p.bytes).filterMap f ++ (f name).toList := by
  have hparts : [name].filterMap f = (f name).toList := by
    cases h : f name <;> simp [h]
  rcases bytes_join p hname with ⟨hp, hjoin⟩ | ⟨start, ⟨hp, -⟩ | hp, hjoin⟩
  · simp [hp, hjoin, Text.splitOn_of_notMem hname, hparts, Text.splitOn, hf]
  · rw [hjoin, Text.splitOn_append, Text.splitOn_of_notMem hname, List.filterMap_append, hparts, hp]
  · rw [hjoin, hp, Text.splitOn_append, Text.splitOn_append, Text.splitOn_of_notMem hname,
      List.filterMap_append, List.filterMap_append, hparts]
    simp [Text.splitOn, hf]

theorem head?_splitOn_join : (Text.splitOn slash (p.join ⟨name⟩).bytes).head? =
    if p.bytes = [] then some name else (Text.splitOn slash p.bytes).head? := by
  rcases bytes_join p hname with ⟨hp, hjoin⟩ | ⟨start, ⟨hp, hstart⟩ | hp, hjoin⟩
  · rw [if_pos hp, hjoin, Text.splitOn_of_notMem hname]
    rfl
  · rw [if_neg (hp ▸ hstart), hjoin, Text.splitOn_append, hp,
      List.head?_append_of_ne_nil _ (Text.splitOn_ne_nil _)]
  · rw [if_neg (by simp [hp]), hjoin, hp, Text.splitOn_append, Text.splitOn_append,
      List.head?_append_of_ne_nil _ (Text.splitOn_ne_nil _),
      List.head?_append_of_ne_nil _ (Text.splitOn_ne_nil _)]

/-- The last step goes from the directory to the name. -/
theorem steps_join (hne : name ≠ []) : (p.join ⟨name⟩).steps = p.way ++ (step? name).toList := by
  have hlast : (p.join ⟨name⟩).bytes.getLast? ≠ some slash := by
    obtain ⟨start, hjoin⟩ : ∃ start, (p.join ⟨name⟩).bytes = start ++ name := by
      rcases bytes_join p hname with ⟨-, hjoin⟩ | ⟨start, -, hjoin⟩
      · exact ⟨[], hjoin⟩
      · exact ⟨start ++ [slash], by rw [hjoin, List.append_assoc, List.singleton_append]⟩
    rw [hjoin, List.getLast?_append_of_ne_nil _ hne]
    exact fun hslash => hname (List.mem_of_getLast? hslash)
  rw [steps, if_neg hlast, List.append_nil, isAbsolute_join p hname,
    filterMap_splitOn_join p hname rfl, way, List.append_assoc]

end

end Path

/-! ## Places of names -/

namespace FileTree

open Node

variable {top : Node} {followLast : Bool} {links : Nat} {place : Place} {target : Target}

/-- The last step of a way is taken from a directory, whatever becomes of a link at its end. -/
def TakesLast (top : Node) (followLast : Bool) (links : Nat) (place : Place)
    (way : List Path.Step) (last : Path.Step) (target : Target) : Prop :=
  ∃ directory links', top.HasDirectory directory ∧
    Leads top followLast links' directory [last] target ∧
    ∀ followLast' target', Leads top followLast' links' directory [last] target' →
      Leads top followLast' links place (way ++ [last]) target'

theorem TakesLast.here {last : Path.Step} (hhere : top.HasDirectory place)
    (h : Leads top followLast links place [last] target) :
    TakesLast top followLast links place [] last target :=
  ⟨place, links, hhere, h, fun _ _ h => h⟩

theorem TakesLast.behind {way way' : List Path.Step} {last : Path.Step} {links' : Nat}
    {place' : Place} (h : TakesLast top followLast links place way last target)
    (hback : ∀ followLast' target', Leads top followLast' links place (way ++ [last]) target' →
      Leads top followLast' links' place' (way' ++ [last]) target') :
    TakesLast top followLast links' place' way' last target := by
  obtain ⟨directory, links'', hdir, hleads, hrest⟩ := h
  exact ⟨directory, links'', hdir, hleads, fun _ _ h => hback _ _ (hrest _ _ h)⟩

theorem Leads.takesLast {way : List Path.Step} {last : Path.Step} (hlast : last ≠ .top)
    (h : Leads top followLast links place (way ++ [last]) target) :
    TakesLast top followLast links place way last target := by
  generalize hsteps : way ++ [last] = steps at h
  induction h generalizing way with
  | found => simp at hsteps
  | top _ ih =>
    cases way with
    | nil => exact absurd (List.cons.inj hsteps).1 hlast
    | cons step way =>
      obtain ⟨rfl, hrest'⟩ := List.cons.inj hsteps
      exact (ih hrest').behind fun _ _ h => .top h
  | stay hhere hrest ih =>
    cases way with
    | nil =>
      obtain ⟨rfl, rfl⟩ := List.cons.inj hsteps
      exact .here hhere (.stay hhere hrest)
    | cons step way =>
      obtain ⟨rfl, hrest'⟩ := List.cons.inj hsteps
      exact (ih hrest').behind fun _ _ h => .stay hhere h
  | up hhere hrest ih =>
    cases way with
    | nil =>
      obtain ⟨rfl, rfl⟩ := List.cons.inj hsteps
      exact .here hhere (.up hhere hrest)
    | cons step way =>
      obtain ⟨rfl, hrest'⟩ := List.cons.inj hsteps
      exact (ih hrest').behind fun _ _ h => .up hhere h
  | free hhere hshort hnone =>
    cases way with
    | nil =>
      obtain ⟨rfl, -⟩ := List.cons.inj hsteps
      exact .here hhere (.free hhere hshort hnone)
    | cons step way => simp at hsteps
  | link hhere hshort hlink hfollow =>
    cases way with
    | nil =>
      obtain ⟨rfl, -⟩ := List.cons.inj hsteps
      exact .here hhere (.link hhere hshort hlink hfollow)
    | cons step way => simp at hsteps
  | @through _ _ _ path _ _ hhere hshort hlink hfollow hrest ih =>
    cases way with
    | nil =>
      obtain ⟨rfl, rfl⟩ := List.cons.inj hsteps
      exact .here hhere (.through hhere hshort hlink hfollow hrest)
    | cons step way =>
      obtain ⟨rfl, rfl⟩ := List.cons.inj hsteps
      refine (ih (List.append_assoc path.steps way [last])).behind fun _ _ h => ?_
      rw [List.append_assoc] at h
      exact .through hhere hshort hlink (.inl (by simp)) h
  | down hhere hshort hnode hkind hrest ih =>
    cases way with
    | nil =>
      obtain ⟨rfl, rfl⟩ := List.cons.inj hsteps
      exact .here hhere (.down hhere hshort hnode hkind hrest)
    | cons step way =>
      obtain ⟨rfl, hrest'⟩ := List.cons.inj hsteps
      exact (ih hrest').behind fun _ _ h => .down hhere hshort hnode hkind h

/-- A path is a symbolic link itself. -/
def IsLink (tree : FileTree) (p : Path) : Prop :=
  ∃ place target, tree.resolve false p = .ok (.found place (.link target))

/-- **A path to a file in a directory leads to a place of the name of the file**, unless the path
    is a link. -/
theorem LeadsTo.getLast?_join {tree : FileTree} {directory : Path} {name : Bytes} {bytes : Bytes}
    (hname : Path.slash ∉ name) (hne : name ≠ []) (h : tree.LeadsTo (directory.join ⟨name⟩) place)
    (hfile : tree.top.fileAt? place = some bytes) (hlink : ¬ tree.IsLink (directory.join ⟨name⟩)) :
    place.getLast? = some name := by
  obtain ⟨node, hresolve⟩ := h
  have hleads := leads_of_resolve hresolve
  have hnode : tree.top.at? place = some node := hleads.stands
  obtain rfl := Option.some.inj (hnode.symm.trans (fileAt?_eq_some_iff.1 hfile))
  rw [Path.steps_join directory hname hne] at hleads
  -- a directory is no file
  have hapart : ∀ {other}, tree.top.HasDirectory other → other = place → False := by
    rintro other ⟨held, hheld⟩ rfl
    rw [hnode] at hheld
    cases hheld
  cases hstep : Path.step? name with
  | none => exact absurd hstep (Path.step?_ne_none hne)
  | some last =>
    rw [hstep, Option.toList_some] at hleads
    have htop : last ≠ .top := fun h => Path.step?_ne_top name (h ▸ hstep)
    obtain ⟨parent, links', hparent, hlast, hback⟩ := hleads.takesLast htop
    cases hlast with
    | top => exact absurd rfl htop
    | stay _ hrest =>
      cases hrest with
      | found => exact (hapart hparent rfl).elim
    | up hdir hrest =>
      cases hrest with
      | found => exact (hapart hdir.dropLast rfl).elim
    | @through _ _ last target _ _ hdir hshort hatlink =>
      refine absurd ⟨parent ++ [last], target, resolve_of_leads hresolve ?_⟩ hlink
      rw [Path.steps_join directory hname hne, hstep, Option.toList_some]
      exact hback false _ (.link hdir hshort hatlink rfl)
    | down _ _ _ _ hrest =>
      cases hrest with
      | found =>
        rw [List.getLast?_concat, Path.step?_of_down hstep]

end FileTree

end Stencil
