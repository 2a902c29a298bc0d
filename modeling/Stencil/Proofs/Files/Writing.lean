/-
  What writing a file does to a tree.

  * `Leads top followLast links place steps target`: steps lead to a target, one constructor for
    each way to go on; they lead to the same place in a tree that has grown (`Leads.within`);
  * `Grows tree touched tree'`: a tree holds what it held, and only files at the places `touched`
    have changed.

  Main statement: after a text is written to a path, the path leads to a file of the text, and no
  other file has changed (`exists_grows_of_write`).
-/
import Stencil.Proofs.Files.Node
import Stencil.Proofs.Text.Utf8

namespace Stencil

/-! ## Following a path -/

namespace FileTree

open Node

/-- The place of a target. -/
def Target.place : Target → Place
  | found place _ => place
  | free place => place

variable {top top' : Node} {followLast : Bool} {links : Nat} {place : Place}
  {steps : List Path.Step} {target : Target}

/-- Steps from a place lead to a target. -/
inductive Leads (top : Node) (followLast : Bool) :
    Nat → Place → List Path.Step → Target → Prop
  | found {links place node} : top.at? place = some node →
      Leads top followLast links place [] (.found place node)
  | top {links place rest target} : Leads top followLast links [] rest target →
      Leads top followLast links place (.top :: rest) target
  | stay {links place rest target} : top.HasDirectory place →
      Leads top followLast links place rest target →
      Leads top followLast links place (.stay :: rest) target
  | up {links place rest target} : top.HasDirectory place →
      Leads top followLast links place.dropLast rest target →
      Leads top followLast links place (.up :: rest) target
  /-- Nothing stands there. -/
  | free {links place name} : top.HasDirectory place →
      name.length ≤ nameLimit → top.at? (place ++ [name]) = none →
      Leads top followLast links place [.down name] (.free (place ++ [name]))
  /-- The last link is not followed. -/
  | link {links place name path} : top.HasDirectory place →
      name.length ≤ nameLimit →
      top.at? (place ++ [name]) = some (.link path) → followLast = false →
      Leads top followLast links place [.down name] (.found (place ++ [name]) (.link path))
  /-- A link is followed. -/
  | through {links place name path rest target} : top.HasDirectory place →
      name.length ≤ nameLimit →
      top.at? (place ++ [name]) = some (.link path) → (rest ≠ [] ∨ followLast = true) →
      Leads top followLast links place (path.steps ++ rest) target →
      Leads top followLast (links + 1) place (.down name :: rest) target
  | down {links place name node rest target} : top.HasDirectory place →
      name.length ≤ nameLimit →
      top.at? (place ++ [name]) = some node → (∀ path, node ≠ .link path) →
      Leads top followLast links (place ++ [name]) rest target →
      Leads top followLast links place (.down name :: rest) target

theorem leads_of_follow (h : follow top followLast links place steps = .ok target) :
    Leads top followLast links place steps target := by
  fun_induction follow top followLast links place steps generalizing target with
  | case1 links place node hnode => cases h; exact .found hnode
  | case3 links place rest ih => exact .top (ih h)
  | case4 links place rest hdir ih => exact .stay (hasDirectory_iff.2 hdir) (ih h)
  | case6 links place rest hdir ih => exact .up (hasDirectory_iff.2 hdir) (ih h)
  | case10 links place name rest hdir hshort hnone hlast =>
    obtain rfl := List.isEmpty_iff.1 hlast
    cases h
    exact .free (hasDirectory_iff.2 (by simpa using hdir)) (Nat.le_of_not_lt hshort) hnone
  | case12 links place name rest hdir hshort path hlink hlast =>
    obtain ⟨hrest, hfollow⟩ := Bool.and_eq_true_iff.1 hlast
    obtain rfl := List.isEmpty_iff.1 hrest
    cases h
    exact .link (hasDirectory_iff.2 (by simpa using hdir)) (Nat.le_of_not_lt hshort) hlink
      (by simpa using hfollow)
  | case14 place name rest hdir hshort path hlink hlast links ih =>
    refine .through (hasDirectory_iff.2 (by simpa using hdir)) (Nat.le_of_not_lt hshort) hlink ?_
      (ih h)
    by_cases hrest : rest = []
    · exact Or.inr (by simpa [hrest] using hlast)
    · exact Or.inl hrest
  | case15 links place name rest hdir hshort node hkind hnode ih =>
    exact .down (hasDirectory_iff.2 (by simpa using hdir)) (Nat.le_of_not_lt hshort) hnode hkind
      (ih h)
  | case2 | case5 | case7 | case8 | case9 | case11 | case13 => cases h

theorem Leads.follow (h : Leads top followLast links place steps target) :
    follow top followLast links place steps = .ok target := by
  induction h with
  | found hnode => rw [FileTree.follow, hnode]
  | top _ ih => rw [FileTree.follow, ih]
  | stay hdir _ ih => rw [FileTree.follow, if_pos (hasDirectory_iff.1 hdir), ih]
  | up hdir _ ih => rw [FileTree.follow, if_pos (hasDirectory_iff.1 hdir), ih]
  | free hdir hshort hnone =>
    rw [FileTree.follow, hasDirectory_iff.1 hdir]
    simp [Nat.not_lt.2 hshort, hnone]
  | link hdir hshort hlink hlast =>
    rw [FileTree.follow, hasDirectory_iff.1 hdir]
    simp [Nat.not_lt.2 hshort, hlink, hlast]
  | @through links place name path rest target hdir hshort hlink hlast _ ih =>
    rw [FileTree.follow, hasDirectory_iff.1 hdir]
    have hon : ¬ (rest.isEmpty && !followLast) = true := by
      rw [Bool.and_eq_true, List.isEmpty_iff, Bool.not_eq_true']
      rintro ⟨hrest, hfollow⟩
      rcases hlast with h | h
      · exact h hrest
      · rw [hfollow] at h
        cases h
    simp [Nat.not_lt.2 hshort, hlink, hon, ih]
  | @down links place name node rest target hdir hshort hnode hkind _ ih =>
    rw [FileTree.follow, hasDirectory_iff.1 hdir]
    cases node with
    | link path => exact absurd rfl (hkind path)
    | file | directory => simp [Nat.not_lt.2 hshort, hnode, ih]

/-- What a target says of the tree. -/
def Target.Stands (top : Node) : Target → Prop
  | found place node => top.at? place = some node
  | free place => ∃ parent name, place = parent ++ [name] ∧ top.HasDirectory parent ∧
      top.at? place = none

theorem Leads.stands (h : Leads top followLast links place steps target) : target.Stands top := by
  induction h with
  | found hnode => exact hnode
  | top _ ih => exact ih
  | stay _ _ ih => exact ih
  | up _ _ ih => exact ih
  | free hdir _ hnone => exact ⟨_, _, rfl, hdir, hnone⟩
  | link _ _ hlink => exact hlink
  | through _ _ _ _ _ ih => exact ih
  | down _ _ _ _ _ ih => exact ih

/-- **In a tree that has grown, steps lead to the same place**, whatever stands there by now; a
    link does not come to stand in a free place. -/
theorem Leads.within (h : Leads top followLast links place steps target) (hgrow : Within top top')
    {node' : Node} (hnode : top'.at? target.place = some node')
    (hkind : top.at? target.place = none → ∀ path, node' ≠ .link path) :
    Leads top' followLast links place steps (.found target.place node') := by
  induction h with
  | found => exact .found hnode
  | top _ ih => exact .top (ih hnode hkind)
  | stay hdir _ ih => exact .stay (hgrow.hasDirectory hdir) (ih hnode hkind)
  | up hdir _ ih => exact .up (hgrow.hasDirectory hdir) (ih hnode hkind)
  | free hdir hshort hnone =>
    exact .down (hgrow.hasDirectory hdir) hshort hnode (hkind hnone) (.found hnode)
  | link hdir hshort hlink hlast =>
    have hlink' := hgrow.link hlink
    obtain rfl := Option.some.inj (hnode.symm.trans hlink')
    exact .link (hgrow.hasDirectory hdir) hshort hlink' hlast
  | through hdir hshort hlink hlast _ ih =>
    exact .through (hgrow.hasDirectory hdir) hshort (hgrow.link hlink) hlast (ih hnode hkind)
  | down hdir hshort hold hnolink _ ih =>
    obtain ⟨new, hnew, halike⟩ := hgrow _ _ hold
    refine .down (hgrow.hasDirectory hdir) hshort hnew ?_ (ih hnode hkind)
    rintro path rfl
    cases halike with
    | link => exact hnolink _ rfl

/-! ## Growing trees -/

/-- A tree has grown: it holds what it held, in the same current directory, and only files at
    certain places have changed. -/
structure Grows (tree : FileTree) (touched : Place → Prop) (tree' : FileTree) : Prop where
  here : tree'.here = tree.here
  within : Within tree.top tree'.top
  files : ∀ place, ¬ touched place → tree'.top.fileAt? place = tree.top.fileAt? place

section
variable {tree tree' tree'' : FileTree} {touched touched' : Place → Prop} {p : Path} {place : Place}

theorem Grows.refl (tree : FileTree) (touched : Place → Prop) : Grows tree touched tree :=
  ⟨rfl, .refl _, fun _ _ => rfl⟩

theorem Grows.trans (h : Grows tree touched tree') (h' : Grows tree' touched' tree'') :
    Grows tree (fun place => touched place ∨ touched' place) tree'' := by
  refine ⟨h'.here.trans h.here, h.within.trans h'.within, fun place hplace => ?_⟩
  rw [not_or] at hplace
  rw [h'.files place hplace.2, h.files place hplace.1]

theorem Grows.mono (h : Grows tree touched tree') (hmono : ∀ place, touched place → touched' place) :
    Grows tree touched' tree' :=
  ⟨h.here, h.within, fun place hplace => h.files place fun ht => hplace (hmono place ht)⟩

theorem grows_put {new : Node} (h : Fits tree.top place new) :
    Grows tree (· = place) (tree.put place new) :=
  ⟨rfl, h.within, fun _ hother => h.fileAt? hother⟩

/-- A path leads to a place where something stands, links followed to the end. -/
def LeadsTo (tree : FileTree) (p : Path) (place : Place) : Prop :=
  ∃ node, tree.resolve true p = .ok (.found place node)

theorem leads_of_resolve (h : tree.resolve followLast p = .ok target) :
    Leads tree.top followLast linkLimit tree.here p.steps target := by
  rw [resolve] at h
  split at h
  · cases h
  · split at h
    · cases h
    · split at h
      · cases h
      · exact leads_of_follow h

/-- Whether a path is followed at all does not depend on the tree. -/
theorem resolve_of_leads (h : tree.resolve followLast p = .ok target) {followLast' : Bool}
    {target' : Target}
    (hleads : Leads tree'.top followLast' linkLimit tree'.here p.steps target') :
    tree'.resolve followLast' p = .ok target' := by
  rw [resolve] at h ⊢
  split at h
  · cases h
  · split at h
    · cases h
    · split at h
      · cases h
      · next hnul hempty hlong => rw [if_neg hnul, if_neg hempty, if_neg hlong, hleads.follow]

/-- A path leads in a grown tree where it has led. -/
theorem Grows.resolve (hgrow : Grows tree touched tree')
    (h : tree.resolve followLast p = .ok target) {node' : Node}
    (hnode : tree'.top.at? target.place = some node')
    (hkind : tree.top.at? target.place = none → ∀ path, node' ≠ .link path) :
    tree'.resolve followLast p = .ok (.found target.place node') := by
  refine resolve_of_leads h ?_
  rw [hgrow.here]
  exact (leads_of_resolve h).within hgrow.within hnode hkind

theorem LeadsTo.grows (h : tree.LeadsTo p place) (hgrow : Grows tree touched tree') :
    tree'.LeadsTo p place := by
  obtain ⟨node, hnode⟩ := h
  have hstands : tree.top.at? place = some node := (leads_of_resolve hnode).stands
  obtain ⟨node', hnode', -⟩ := hgrow.within place node hstands
  refine ⟨node', hgrow.resolve hnode hnode' fun hnone => ?_⟩
  rw [show tree.top.at? place = none from hnone] at hstands
  cases hstands

/-- The text of a file that a path leads to. -/
theorem LeadsTo.readText {text : Text} (h : tree.LeadsTo p place)
    (hfile : tree.top.fileAt? place = some (Text.Utf8.encode text)) :
    tree.readText p = .ok text := by
  obtain ⟨node, hnode⟩ := h
  have hstands : tree.top.at? place = some node := (leads_of_resolve hnode).stands
  obtain rfl := Option.some.inj (hstands.symm.trans (fileAt?_eq_some_iff.1 hfile))
  have hread : tree.read p = .ok (Text.Utf8.encode text) := by rw [read, hnode]
  simp only [FileTree.readText, hread, Text.Utf8.decode?_encode]

/-! ## Writing -/

theorem grows_ensureDirectory {steps : List Path.Step} (h : tree.ensureDirectory steps = .ok tree') :
    Grows tree (fun _ => False) tree' := by
  rw [ensureDirectory] at h
  split at h
  · cases h
    exact .refl _ _
  · split at h
    · next place hfollow =>
      cases h
      obtain ⟨parent, name, rfl, ⟨held, hparent⟩, hfree⟩ := (leads_of_follow hfollow).stands
      have hfits : Fits tree.top (parent ++ [name]) (.directory []) := fits_directory hparent hfree
      refine ⟨rfl, hfits.within, fun other _ => ?_⟩
      by_cases hother : other = parent ++ [name]
      · -- neither nothing nor a directory is a file
        subst hother
        rw [fileAt?_eq_none hfree, put, Node.fileAt?, at?_put_self]
      · exact hfits.fileAt? hother
    · cases h
    · cases h

theorem grows_makeDirectories (h : tree.makeDirectories p = .ok tree') :
    Grows tree (fun _ => False) tree' := by
  rw [makeDirectories] at h
  generalize (List.range p.steps.length).map _ = ways at h
  induction ways generalizing tree with
  | nil =>
    cases h
    exact .refl _ _
  | cons way ways ih =>
    rw [List.foldlM_cons] at h
    cases hway : tree.ensureDirectory way with
    | error fault =>
      rw [hway] at h
      cases h
    | ok next =>
      rw [hway] at h
      exact ((grows_ensureDirectory hway).trans (ih h)).mono fun _ => or_self_iff.1

/-- A file is put where a path leads to, if it fits there. -/
theorem leadsTo_put {bytes : Bytes} (hresolve : tree.resolve true p = .ok target)
    (hfits : Fits tree.top target.place (.file bytes)) :
    (tree.put target.place (.file bytes)).LeadsTo p target.place ∧
      (tree.put target.place (.file bytes)).top.fileAt? target.place = some bytes ∧
      Grows tree (· = target.place) (tree.put target.place (.file bytes)) := by
  have hself : (tree.top.put target.place (.file bytes)).at? target.place = some (.file bytes) :=
    at?_put_self _ _ _
  have hgrow := grows_put hfits
  refine ⟨⟨_, hgrow.resolve hresolve hself fun _ path => ?_⟩, fileAt?_eq_some_iff.2 hself, hgrow⟩
  simp

/-- A file is written to the place that its path leads to. -/
theorem exists_grows_of_writeBytes {bytes : Bytes} (h : tree.writeBytes p bytes = .ok tree') :
    ∃ place, tree'.LeadsTo p place ∧ tree'.top.fileAt? place = some bytes ∧
      Grows tree (· = place) tree' := by
  rw [writeBytes] at h
  split at h
  · next place hresolve =>
    cases h
    obtain ⟨parent, name, rfl, ⟨held, hparent⟩, hfree⟩ := (leads_of_resolve hresolve).stands
    exact ⟨_, leadsTo_put hresolve (fits_file hparent hfree)⟩
  · next place old hresolve =>
    cases h
    have hold : tree.top.at? place = some (.file old) := (leads_of_resolve hresolve).stands
    exact ⟨_, leadsTo_put hresolve (.file hold)⟩
  · cases h
  · cases h

/-- **A text is written to the place that its path leads to**, and no other file is changed. -/
theorem exists_grows_of_write {text : Text} (h : tree.write p text = .ok tree') :
    ∃ place, tree'.LeadsTo p place ∧
      tree'.top.fileAt? place = some (Text.Utf8.encode text) ∧ Grows tree (· = place) tree' := by
  obtain ⟨middle, hmiddle, hwrite⟩ : ∃ middle, Grows tree (fun _ => False) middle ∧
      middle.writeBytes p (Text.Utf8.encode text) = .ok tree' := by
    rw [write] at h
    split at h
    · next directory hparent =>
      cases hmake : tree.makeDirectories directory with
      | error fault =>
        rw [hmake] at h
        cases h
      | ok middle =>
        rw [hmake] at h
        exact ⟨middle, grows_makeDirectories hmake, h⟩
    · exact ⟨tree, .refl _ _, h⟩
  obtain ⟨place, hleads, hfile, hgrow⟩ := exists_grows_of_writeBytes hwrite
  exact ⟨place, hleads, hfile, (hmiddle.trans hgrow).mono fun _ => (or_iff_right id).1⟩

end

end FileTree

end Stencil
