/-
  Nodes at the places of a tree, and what putting a node changes.

  * `at?_put`: after a node is put in a directory, what stands at another place is a part of it,
    or as before, or a directory before and after;
  * `Fits top place new`: a node may be put at a place, on nothing or a file on a file; then no
    other file changes (`Fits.fileAt?`), and nothing changes its kind (`Fits.within`);
  * `Within top top'`: what stands in the one tree stands in the other one, with its kind.
-/
import Mathlib.Data.List.Basic
import Stencil.FileTree

namespace Stencil

/-! ## Nodes at places -/

namespace Node

variable {top top' new node : Node} {place other : Place} {name : Bytes}

theorem find?_setEntry (name other : Bytes) (node : Node) (entries : List (Bytes × Node)) :
    (setEntry name node entries).find? (fun e => e.1 == other) =
      if other = name then some (name, node) else entries.find? fun e => e.1 == other := by
  induction entries with
  | nil =>
    by_cases h : other = name
    · simp [setEntry, h]
    · simp [setEntry, h, Ne.symm h]
  | cons entry entries ih =>
    obtain ⟨key, old⟩ := entry
    by_cases hkey : key = name
    · subst hkey
      by_cases h : other = key
      · simp [setEntry, h]
      · simp [setEntry, h, Ne.symm h]
    · by_cases hother : key = other
      · subst hother
        simp [setEntry, hkey]
      · simp [setEntry, hkey, hother, ih]

theorem entry?_setEntry (name other : Bytes) (node : Node) (entries : List (Bytes × Node)) :
    Node.entry? other (directory (setEntry name node entries)) =
      if other = name then some node else Node.entry? other (directory entries) := by
  unfold entry?
  simp only [find?_setEntry]
  split <;> rfl

theorem at?_append (place other : Place) (top : Node) :
    top.at? (place ++ other) = (top.at? place).bind (at? other) := by
  induction place generalizing top with
  | nil => rfl
  | cons name place ih =>
    simp only [List.cons_append, at?, Option.bind_assoc]
    cases top.entry? name with
    | none => rfl
    | some child => exact ih child

/-- Only a directory holds something. -/
theorem exists_directory_of_entry? (h : top.entry? name = some node) :
    ∃ entries, top = directory entries := by
  cases top with
  | directory entries => exact ⟨entries, rfl⟩
  | file | link => cases h

/-- What stands at a place below the top stands in a directory. -/
theorem exists_directory_of_at? (h : top.at? (place ++ [name]) = some node) :
    ∃ entries, top.at? place = some (directory entries) := by
  rw [at?_append] at h
  obtain ⟨parent, hparent, hchild⟩ := Option.bind_eq_some_iff.1 h
  obtain ⟨child, hentry, -⟩ := Option.bind_eq_some_iff.1 hchild
  obtain ⟨entries, rfl⟩ := exists_directory_of_entry? hentry
  exact ⟨entries, hparent⟩

theorem at?_file {bytes : Bytes} (h : (file bytes).at? place = some node) : place = [] := by
  cases place with
  | nil => rfl
  | cons name place => cases h

theorem at?_empty (h : (directory []).at? place = some node) : place = [] := by
  cases place with
  | nil => rfl
  | cons name place => cases h

/-- After a node is put in a directory, what stands at another place is a part of the new node, or
    as before, or a directory before and after. -/
theorem at?_put {held : List (Bytes × Node)} (h : top.at? place = some (directory held))
    (name : Bytes) (new : Node) (other : Place) :
    (∃ below, other = (place ++ [name]) ++ below ∧
      (top.put (place ++ [name]) new).at? other = new.at? below) ∨
    (top.put (place ++ [name]) new).at? other = top.at? other ∨
    ∃ before after, top.at? other = some (directory before) ∧
      (top.put (place ++ [name]) new).at? other = some (directory after) := by
  induction place generalizing top other with
  | nil =>
    obtain rfl : top = directory held := Option.some.inj h
    cases other with
    | nil => exact Or.inr (Or.inr ⟨_, _, rfl, rfl⟩)
    | cons first rest =>
      simp only [List.nil_append, put, at?, Node.entries, entry?_setEntry]
      by_cases hfirst : first = name
      · subst hfirst
        exact Or.inl ⟨rest, rfl, by simp⟩
      · exact Or.inr (Or.inl (by simp [hfirst]))
  | cons m place ih =>
    obtain ⟨child, hentry, hchild⟩ := Option.bind_eq_some_iff.1 h
    obtain ⟨old, rfl⟩ := exists_directory_of_entry? hentry
    cases other with
    | nil => exact Or.inr (Or.inr ⟨_, _, rfl, rfl⟩)
    | cons first rest =>
      simp only [List.cons_append, put, at?, Node.entries, entry?_setEntry]
      by_cases hfirst : first = m
      · subst hfirst
        simp only [if_true, hentry, Option.getD_some, Option.bind_some, List.cons.injEq, true_and]
        exact ih hchild rest
      · exact Or.inr (Or.inl (by simp [hfirst]))

theorem at?_put_self (top : Node) (place : Place) (new : Node) :
    (top.put place new).at? place = some new := by
  induction place generalizing top with
  | nil => rfl
  | cons name place ih =>
    simp only [put, at?, entry?_setEntry, if_true, Option.bind_some]
    exact ih _

/-! ## Growing -/

/-- Two nodes of one kind: two files, two directories, or two links to one target. -/
inductive Alike : Node → Node → Prop
  | file (a b : Bytes) : Alike (.file a) (.file b)
  | link (target : Path) : Alike (.link target) (.link target)
  | directory (a b : List (Bytes × Node)) : Alike (.directory a) (.directory b)

theorem Alike.refl (node : Node) : Alike node node := by
  cases node with
  | file bytes => exact .file _ _
  | link target => exact .link _
  | directory entries => exact .directory _ _

theorem Alike.trans {a b c : Node} (h : Alike a b) (h' : Alike b c) : Alike a c := by
  cases h with
  | file => cases h' with | file => exact .file _ _
  | link => exact h'
  | directory => cases h' with | directory => exact .directory _ _

/-- What stands at a place of the first tree stands there in the second one, with its kind. -/
def Within (top top' : Node) : Prop :=
  ∀ place node, top.at? place = some node → ∃ node', top'.at? place = some node' ∧ Alike node node'

theorem Within.refl (top : Node) : Within top top := fun _ node h => ⟨node, h, .refl node⟩

theorem Within.trans {a b c : Node} (h : Within a b) (h' : Within b c) : Within a c := by
  intro place node hnode
  obtain ⟨node₁, hnode₁, halike⟩ := h place node hnode
  obtain ⟨node₂, hnode₂, halike'⟩ := h' place node₁ hnode₁
  exact ⟨node₂, hnode₂, halike.trans halike'⟩

/-- The bytes of the file at a place. -/
def fileAt? (top : Node) (place : Place) : Option Bytes :=
  match top.at? place with
  | some (.file bytes) => some bytes
  | _ => none

theorem fileAt?_eq_some_iff {bytes : Bytes} :
    top.fileAt? place = some bytes ↔ top.at? place = some (.file bytes) := by
  unfold fileAt?
  split
  · next h => simp [h]
  · next h => simpa using h bytes

theorem fileAt?_eq_none (h : top.at? place = none) : top.fileAt? place = none := by
  rw [fileAt?, h]

/-- A node may be put at a place: in a directory, where nothing stands, or a file in the place of
    a file. -/
inductive Fits (top : Node) : Place → Node → Prop
  | free {place name entries new} : top.at? place = some (directory entries) →
      top.at? (place ++ [name]) = none → (∀ below node, new.at? below = some node → below = []) →
      Fits top (place ++ [name]) new
  | file {place old new} : top.at? place = some (.file old) → Fits top place (.file new)

theorem fits_file {bytes : Bytes} {entries : List (Bytes × Node)}
    (h : top.at? place = some (directory entries)) (hfree : top.at? (place ++ [name]) = none) :
    Fits top (place ++ [name]) (.file bytes) :=
  .free h hfree fun _ _ => at?_file

theorem fits_directory {entries : List (Bytes × Node)}
    (h : top.at? place = some (directory entries)) (hfree : top.at? (place ++ [name]) = none) :
    Fits top (place ++ [name]) (directory []) :=
  .free h hfree fun _ _ => at?_empty

/-- Putting a node where it fits leaves every other place as it is, directories apart. -/
theorem Fits.at? (h : Fits top place new) (hother : other ≠ place) :
    (top.put place new).at? other = top.at? other ∨
    ∃ before after, top.at? other = some (directory before) ∧
      (top.put place new).at? other = some (directory after) := by
  cases h with
  | @free place name entries new hparent hfree hleaf =>
    rcases Node.at?_put hparent name new other with ⟨below, rfl, hbelow⟩ | h
    · -- nothing is below the new node, and nothing was there before
      left
      rw [hbelow, Node.at?_append _ below, hfree]
      cases hnode : new.at? below with
      | none => rfl
      | some node =>
        obtain rfl := hleaf _ _ hnode
        simp at hother
    · exact h
  | @file place old new hfile =>
    rcases List.eq_nil_or_concat place with rfl | ⟨parent, name, rfl⟩
    · obtain rfl : top = .file old := Option.some.inj hfile
      cases other with
      | nil => exact absurd rfl hother
      | cons first rest => exact Or.inl rfl
    · rw [List.concat_eq_append] at hfile hother ⊢
      obtain ⟨entries, hparent⟩ := exists_directory_of_at? hfile
      rcases Node.at?_put hparent name (.file new) other with ⟨below, rfl, hbelow⟩ | h
      · left
        rw [hbelow, Node.at?_append _ below, hfile, Option.bind_some]
        cases below with
        | nil => simp at hother
        | cons first rest => rfl
      · exact h

theorem Fits.within (h : Fits top place new) : Within top (top.put place new) := by
  intro other node hnode
  by_cases hother : other = place
  · subst hother
    refine ⟨new, at?_put_self top other new, ?_⟩
    cases h with
    | free _ hfree =>
      rw [hfree] at hnode
      cases hnode
    | file hfile =>
      rw [hfile] at hnode
      cases hnode
      exact .file _ _
  · rcases h.at? hother with hsame | ⟨before, after, hbefore, hafter⟩
    · exact ⟨node, hsame.trans hnode, .refl node⟩
    · rw [hbefore] at hnode
      cases hnode
      exact ⟨_, hafter, .directory _ _⟩

/-- Putting a node where it fits changes no file at another place. -/
theorem Fits.fileAt? (h : Fits top place new) (hother : other ≠ place) :
    (top.put place new).fileAt? other = top.fileAt? other := by
  rcases h.at? hother with hsame | ⟨before, after, hbefore, hafter⟩
  · simp only [Node.fileAt?, hsame]
  · simp only [Node.fileAt?, hbefore, hafter]

/-! ## Directories -/

/-- A directory stands at a place. -/
def HasDirectory (top : Node) (place : Place) : Prop := ∃ held, top.at? place = some (directory held)

theorem hasDirectory_iff : top.HasDirectory place ↔ (top.at? place).any isDirectory = true := by
  rw [Option.any_eq_true]
  constructor
  · rintro ⟨held, h⟩
    exact ⟨_, h, rfl⟩
  · rintro ⟨node, h, hdirectory⟩
    cases node with
    | directory held => exact ⟨held, h⟩
    | file | link => cases hdirectory

theorem Within.hasDirectory (h : Within top top') (hdir : top.HasDirectory place) :
    top'.HasDirectory place := by
  obtain ⟨held, hheld⟩ := hdir
  obtain ⟨node', hnode', halike⟩ := h place _ hheld
  cases halike with
  | directory => exact ⟨_, hnode'⟩

theorem Within.link (h : Within top top') {target : Path} (hlink : top.at? place = some (.link target)) :
    top'.at? place = some (.link target) := by
  obtain ⟨node', hnode', halike⟩ := h place _ hlink
  cases halike with
  | link => exact hnode'

theorem HasDirectory.dropLast (h : top.HasDirectory place) : top.HasDirectory place.dropLast := by
  rcases List.eq_nil_or_concat place with rfl | ⟨parent, name, rfl⟩
  · exact h
  · rw [List.concat_eq_append] at h
    obtain ⟨held, hheld⟩ := h
    rw [List.concat_eq_append, List.dropLast_concat]
    exact exists_directory_of_at? hheld

end Node

/-! ## The current directory -/

namespace FileTree

/-- A tree whose current directory is the top leads there along `.`. -/
theorem resolve_here (entries : List (Bytes × Node)) :
    (⟨.directory entries, []⟩ : FileTree).resolve false ⟨[Path.dot]⟩ =
      .ok (.found [] (.directory entries)) := by
  have hsteps : Path.steps ⟨[Path.dot]⟩ = [.stay] := by
    simp [Path.steps, Path.isAbsolute, Text.splitOn, Path.step?]
  simp [resolve, Path.dot, pathLimit, hsteps, follow, Node.at?, Node.isDirectory]

/-- A current directory with one file, at the top. -/
def single (name : Bytes) (bytes : Bytes) : FileTree :=
  ⟨.directory [(name, .file bytes)], []⟩

theorem resolve_single (name : Bytes) (bytes : Bytes) :
    (single name bytes).resolve false ⟨[Path.dot]⟩ =
      .ok (.found [] (.directory [(name, .file bytes)])) :=
  resolve_here _

end FileTree

end Stencil
