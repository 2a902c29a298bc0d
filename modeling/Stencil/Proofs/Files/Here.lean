/-
  Files on the way down from the current directory.

  * `Path.Descends p names`: a path leads down along names, and is short enough to be followed;
  * `FileTree.resolve_of_descends`, `FileTree.resolve_of_free`: where such a path leads to, if a file
    stands there or nothing does;
  * `FileTree.write_here`: a text is written to a name in a current directory at the top.
-/
import Stencil.Proofs.Files.Directory

namespace Stencil

/-- A path that leads down from the current directory along some names. -/
structure Path.Descends (p : Path) (names : List Bytes) : Prop where
  nul_notMem : p.bytes.contains 0 = false
  ne_nil : p.bytes.isEmpty = false
  short : p.bytes.length < FileTree.pathLimit
  steps : p.steps = names.map .down ∨ p.steps = .stay :: names.map .down
  names_short : ∀ name ∈ names, name.length ≤ FileTree.nameLimit

instance (p : Path) (names : List Bytes) : Decidable (p.Descends names) :=
  decidable_of_iff (p.bytes.contains 0 = false ∧ p.bytes.isEmpty = false ∧
      p.bytes.length < FileTree.pathLimit ∧
      (p.steps = names.map .down ∨ p.steps = .stay :: names.map .down) ∧
      ∀ name ∈ names, name.length ≤ FileTree.nameLimit)
    ⟨fun ⟨h₁, h₂, h₃, h₄, h₅⟩ => ⟨h₁, h₂, h₃, h₄, h₅⟩, fun ⟨h₁, h₂, h₃, h₄, h₅⟩ => ⟨h₁, h₂, h₃, h₄, h₅⟩⟩

namespace FileTree

open Node

variable {tree : FileTree} {p : Path} {followLast : Bool} {names : List Bytes} {bytes : Bytes}

/-- Whether a path is followed does not depend on what it leads to. -/
theorem resolve_of_follow {target : Target} (h : p.Descends names)
    (hhere : tree.top.HasDirectory tree.here)
    (hleads : Leads tree.top followLast linkLimit tree.here (names.map .down) target) :
    tree.resolve followLast p = .ok target := by
  rw [resolve, h.nul_notMem, h.ne_nil]
  simp only [Bool.false_eq_true, if_false, Nat.not_le.2 h.short]
  rcases h.steps with hsteps | hsteps
  · rw [hsteps]
    exact hleads.follow
  · rw [hsteps]
    exact (Leads.stay hhere hleads).follow

/-- What stands above a file is a directory. -/
theorem leads_down {top : Node} {links : Nat} {place : Place}
    (hshort : ∀ name ∈ names, name.length ≤ nameLimit)
    (h : top.at? (place ++ names) = some (.file bytes)) :
    Leads top followLast links place (names.map .down) (.found (place ++ names) (.file bytes)) := by
  induction names generalizing place with
  | nil =>
    rw [List.append_nil] at h ⊢
    exact .found h
  | cons name names ih =>
    obtain ⟨hname, hnames⟩ := List.forall_mem_cons.1 hshort
    rw [List.append_cons] at h ⊢
    obtain ⟨node, hnode, hfile⟩ := Option.bind_eq_some_iff.1 ((at?_append _ _ _).symm.trans h)
    refine .down (exists_directory_of_at? hnode) hname hnode ?_ (ih hnames h)
    rintro target rfl
    cases names <;> cases hfile

theorem resolve_of_descends (h : p.Descends names) (hhere : tree.top.HasDirectory tree.here)
    (hfile : tree.top.at? (tree.here ++ names) = some (.file bytes)) :
    tree.resolve followLast p = .ok (.found (tree.here ++ names) (.file bytes)) :=
  resolve_of_follow h hhere (leads_down h.names_short hfile)

theorem readText_of_descends {text : Text} (h : p.Descends names)
    (hhere : tree.top.HasDirectory tree.here)
    (hfile : tree.top.at? (tree.here ++ names) = some (.file (Text.Utf8.encode text))) :
    tree.readText p = .ok text := by
  simp only [readText, read, resolve_of_descends h hhere hfile, Text.Utf8.decode?_encode]

theorem resolve_of_free {name : Bytes} (h : p.Descends [name])
    (hhere : tree.top.HasDirectory tree.here) (hfree : tree.top.at? (tree.here ++ [name]) = none) :
    tree.resolve followLast p = .ok (.free (tree.here ++ [name])) :=
  resolve_of_follow h hhere (.free hhere (h.names_short name List.mem_cons_self) hfree)

theorem not_isLink_of_descends (h : p.Descends names) (hhere : tree.top.HasDirectory tree.here)
    (hfile : tree.top.at? (tree.here ++ names) = some (.file bytes)) : ¬ tree.IsLink p := by
  rintro ⟨place, target, hresolve⟩
  rw [resolve_of_descends h hhere hfile] at hresolve
  cases hresolve

/-! ## A current directory at the top -/

section
variable {entries : List (Bytes × Node)} {name : Bytes} {text : Text}

theorem hasDirectory_here (entries : List (Bytes × Node)) :
    (Node.directory entries).HasDirectory [] :=
  ⟨entries, rfl⟩

/-- A text is written to a free name in the current directory. -/
theorem write_here (h : p.Descends [name]) (hparent : p.parent? = some ⟨[Path.dot]⟩)
    (hfree : Node.entry? name (.directory entries) = none) :
    (⟨.directory entries, []⟩ : FileTree).write p text =
      .ok ⟨.directory (setEntry name (.file (Text.Utf8.encode text)) entries), []⟩ := by
  have hmake : (⟨.directory entries, []⟩ : FileTree).makeDirectories ⟨[Path.dot]⟩ =
      .ok ⟨.directory entries, []⟩ := by
    have hsteps : Path.steps ⟨[Path.dot]⟩ = [.stay] := rfl
    have hleads : follow (.directory entries) true linkLimit [] [.stay] =
        .ok (.found [] (.directory entries)) :=
      (Leads.stay (hasDirectory_here entries) (.found rfl)).follow
    simp [makeDirectories, hsteps, ensureDirectory, hleads, List.range_succ]
  have hresolve : (⟨.directory entries, []⟩ : FileTree).resolve true p = .ok (.free [name]) :=
    resolve_of_free h (hasDirectory_here entries) (by simp [at?, hfree])
  have hput : (⟨.directory entries, []⟩ : FileTree).put [name] (.file (Text.Utf8.encode text)) =
      ⟨.directory (setEntry name (.file (Text.Utf8.encode text)) entries), []⟩ := rfl
  rw [write, hparent]
  simp only [hmake, bind, Except.bind, writeBytes, hresolve, hput]

end

end FileTree

end Stencil
