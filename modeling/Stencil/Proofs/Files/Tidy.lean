/-
  Names in a tree.

  * `IsName name`: what may be the name of an entry in a directory;
  * `Node.Tidy top`: the entries of every directory have names, no two of them the same one;
  * `FileTree.Tidy tree`: a tidy tree whose current directory is given by names.

  A path leads to a place of names (`FileTree.Leads.isName`), so a tree stays tidy when a node is
  added to it (`FileTree.Tidy.add`).

  Main statement: every tree that is built of tidy nodes is tidy (`FileTree.tidy_ofNodes`).
-/
import Stencil.Proofs.Files.Writing
import Stencil.Proofs.Text.Pieces

namespace Stencil

/-- The name of an entry: it has a byte, no slash, and is none of the two names that stand for
    directories on the way. -/
structure IsName (name : Bytes) : Prop where
  ne_nil : name ≠ []
  slash_notMem : Path.slash ∉ name
  ne_here : name ≠ [Path.dot]
  ne_up : name ≠ [Path.dot, Path.dot]

instance (name : Bytes) : Decidable (IsName name) :=
  decidable_of_iff (name ≠ [] ∧ Path.slash ∉ name ∧ name ≠ [Path.dot] ∧ name ≠ [Path.dot, Path.dot])
    ⟨fun ⟨h₁, h₂, h₃, h₄⟩ => ⟨h₁, h₂, h₃, h₄⟩, fun ⟨h₁, h₂, h₃, h₄⟩ => ⟨h₁, h₂, h₃, h₄⟩⟩

/-! ## Entries -/

namespace Node

/-- The entries of every directory have names, no two of them the same one. -/
inductive Tidy : Node → Prop
  | file (bytes) : Tidy (.file bytes)
  | link (target) : Tidy (.link target)
  | directory {entries} : (entries.map Prod.fst).Nodup → (∀ e ∈ entries, IsName e.1) →
      (∀ e ∈ entries, Tidy e.2) → Tidy (.directory entries)

variable {top node : Node} {name : Bytes}

theorem tidy_empty : Tidy (.directory []) :=
  .directory List.nodup_nil (by simp) (by simp)

theorem mem_of_entry?_eq {entries : List (Bytes × Node)}
    (h : Node.entry? name (.directory entries) = some node) : (name, node) ∈ entries := by
  obtain ⟨⟨other, found⟩, hfind, rfl⟩ := Option.map_eq_some_iff.1 h
  obtain rfl : other = name := by simpa using List.find?_some hfind
  exact List.mem_of_find?_eq_some hfind

/-- In a tidy directory each entry is found by its name. -/
theorem entry?_of_mem {entries : List (Bytes × Node)} (hnames : (entries.map Prod.fst).Nodup)
    (h : (name, node) ∈ entries) : Node.entry? name (.directory entries) = some node := by
  induction entries with
  | nil => cases h
  | cons e entries ih =>
    obtain ⟨hfresh, hrest⟩ := List.nodup_cons.1 hnames
    rcases List.mem_cons.1 h with rfl | h
    · unfold entry?
      simp
    · have hother : e.1 ≠ name := fun heq => hfresh (heq ▸ List.mem_map_of_mem h)
      have hfound := ih hrest h
      unfold entry? at hfound ⊢
      simpa [hother] using hfound

theorem Tidy.of_mem {entries : List (Bytes × Node)} (h : Tidy (.directory entries))
    (hmem : (name, node) ∈ entries) : IsName name ∧ node.Tidy := by
  cases h with
  | directory _ hnames hnodes => exact ⟨hnames _ hmem, hnodes _ hmem⟩

/-- What is found in a tidy tree is tidy, and names lead there. -/
theorem Tidy.at? {place : Place} (h : top.Tidy) (hnode : top.at? place = some node) :
    node.Tidy ∧ ∀ name ∈ place, IsName name := by
  induction place generalizing top with
  | nil =>
    obtain rfl := Option.some.inj hnode
    exact ⟨h, by simp⟩
  | cons name place ih =>
    obtain ⟨child, hentry, hchild⟩ := Option.bind_eq_some_iff.1 hnode
    obtain ⟨entries, rfl⟩ := exists_directory_of_entry? hentry
    obtain ⟨hname, htidy⟩ := h.of_mem (mem_of_entry?_eq hentry)
    obtain ⟨hnode', hplace⟩ := ih htidy hchild
    exact ⟨hnode', List.forall_mem_cons.2 ⟨hname, hplace⟩⟩

/-! ## Putting a node -/

theorem mem_setEntry {entries : List (Bytes × Node)} {e : Bytes × Node}
    (h : e ∈ setEntry name node entries) : e = (name, node) ∨ e ∈ entries := by
  induction entries with
  | nil => exact .inl (List.mem_singleton.1 h)
  | cons first entries ih =>
    rw [setEntry] at h
    split at h
    · exact (List.mem_cons.1 h).imp_right (List.mem_cons_of_mem _)
    · rcases List.mem_cons.1 h with rfl | h
      · exact .inr List.mem_cons_self
      · exact (ih h).imp_right (List.mem_cons_of_mem _)

theorem nodup_setEntry (name : Bytes) (node : Node) {entries : List (Bytes × Node)}
    (h : (entries.map Prod.fst).Nodup) : ((setEntry name node entries).map Prod.fst).Nodup := by
  induction entries with
  | nil => simp [setEntry]
  | cons first entries ih =>
    obtain ⟨other, old⟩ := first
    obtain ⟨hfresh, hrest⟩ := List.nodup_cons.1 h
    rw [setEntry]
    split
    · next heq =>
      subst heq
      exact List.nodup_cons.2 ⟨hfresh, hrest⟩
    · next hne =>
      refine List.nodup_cons.2 ⟨fun hmem => ?_, ih hrest⟩
      obtain ⟨e, he, hkey⟩ := List.mem_map.1 hmem
      rcases mem_setEntry he with rfl | he
      · exact hne hkey.symm
      · exact hfresh (hkey ▸ List.mem_map_of_mem he)

/-- **A tidy tree stays tidy when a tidy node is put at a place of names.** -/
theorem Tidy.put {new : Node} {place : Place} (h : top.Tidy) (hnew : new.Tidy)
    (hplace : ∀ name ∈ place, IsName name) : (top.put place new).Tidy := by
  induction place generalizing top with
  | nil => exact hnew
  | cons name place ih =>
    obtain ⟨hname, hplace⟩ := List.forall_mem_cons.1 hplace
    have hentries : (top.entries.map Prod.fst).Nodup ∧
        ∀ e ∈ top.entries, IsName e.1 ∧ e.2.Tidy := by
      cases h with
      | file | link => exact ⟨List.nodup_nil, by simp [Node.entries]⟩
      | directory hnodup hnames hnodes => exact ⟨hnodup, fun e he => ⟨hnames e he, hnodes e he⟩⟩
    have hchild : ((top.entry? name).getD (.directory [])).Tidy := by
      cases hentry : top.entry? name with
      | none => exact tidy_empty
      | some child =>
        obtain ⟨entries, rfl⟩ := exists_directory_of_entry? hentry
        exact (h.of_mem (mem_of_entry?_eq hentry)).2
    have hall : ∀ e ∈ setEntry name (((top.entry? name).getD (.directory [])).put place new)
        top.entries, IsName e.1 ∧ e.2.Tidy := by
      intro e he
      rcases mem_setEntry he with rfl | he
      · exact ⟨hname, ih hchild hplace⟩
      · exact hentries.2 e he
    exact .directory (nodup_setEntry _ _ hentries.1) (fun e he => (hall e he).1)
      fun e he => (hall e he).2

end Node

/-! ## Names on the way of a path -/

theorem Path.isName_of_step {p : Path} {name : Bytes} (h : .down name ∈ p.steps) : IsName name := by
  simp only [steps, List.mem_append, List.mem_filterMap] at h
  rcases h with (h | ⟨part, hpart, hstep⟩) | h
  · split at h <;> simp at h
  · have hslash := Text.sep_notMem_of_mem_splitOn hpart
    unfold step? at hstep
    split_ifs at hstep with hnil hhere hup
    · cases hstep
    · cases hstep
    · cases hstep
      exact ⟨hnil, hslash, hhere, hup⟩
  · split at h <;> simp at h

namespace FileTree

/-- A tidy tree whose current directory is given by names. -/
structure Tidy (tree : FileTree) : Prop where
  top : tree.top.Tidy
  here : ∀ name ∈ tree.here, IsName name

/-- **From a place of names, steps to names lead to a place of names.** -/
theorem Leads.isName {top : Node} {followLast : Bool} {links : Nat} {place : Place}
    {steps : List Path.Step} {target : Target} (h : Leads top followLast links place steps target)
    (hplace : ∀ name ∈ place, IsName name) (hsteps : ∀ name, .down name ∈ steps → IsName name) :
    ∀ name ∈ target.place, IsName name := by
  have hnext : ∀ {place : Place} {name : Bytes} {rest : List Path.Step},
      (∀ name ∈ place, IsName name) → (∀ n, .down n ∈ Path.Step.down name :: rest → IsName n) →
      ∀ n ∈ place ++ [name], IsName n := by
    intro place name rest hplace hsteps
    exact List.forall_mem_append.2
      ⟨hplace, List.forall_mem_singleton.2 (hsteps name List.mem_cons_self)⟩
  induction h with
  | found => exact hplace
  | top _ ih => exact ih (by simp) fun name h => hsteps name (List.mem_cons_of_mem _ h)
  | stay _ _ ih => exact ih hplace fun name h => hsteps name (List.mem_cons_of_mem _ h)
  | up _ _ ih =>
    exact ih (fun name h => hplace name (List.dropLast_subset _ h))
      fun name h => hsteps name (List.mem_cons_of_mem _ h)
  | free => exact hnext hplace hsteps
  | link => exact hnext hplace hsteps
  | @through links place name path rest target _ _ _ _ _ ih =>
    refine ih hplace fun n hn => ?_
    rcases List.mem_append.1 hn with hn | hn
    · exact Path.isName_of_step hn
    · exact hsteps n (List.mem_cons_of_mem _ hn)
  | down _ _ _ _ _ ih =>
    exact ih (hnext hplace hsteps) fun name h => hsteps name (List.mem_cons_of_mem _ h)

section
variable {tree tree' : FileTree} {p : Path} {followLast : Bool} {target : Target}

theorem Tidy.isName (h : tree.Tidy) (hresolve : tree.resolve followLast p = .ok target) :
    ∀ name ∈ target.place, IsName name :=
  (leads_of_resolve hresolve).isName h.here fun _ => Path.isName_of_step

theorem Tidy.put {place : Place} {node : Node} (h : tree.Tidy) (hnode : node.Tidy)
    (hplace : ∀ name ∈ place, IsName name) : (tree.put place node).Tidy :=
  ⟨h.top.put hnode hplace, h.here⟩

theorem Tidy.ensureDirectory {steps : List Path.Step} (h : tree.Tidy)
    (hsteps : ∀ name, .down name ∈ steps → IsName name)
    (hmade : tree.ensureDirectory steps = .ok tree') : tree'.Tidy := by
  rw [FileTree.ensureDirectory] at hmade
  split at hmade
  · cases hmade
    exact h
  · split at hmade
    · next place hfollow =>
      cases hmade
      exact h.put Node.tidy_empty ((leads_of_follow hfollow).isName h.here hsteps)
    · cases hmade
    · cases hmade

theorem Tidy.makeDirectories (h : tree.Tidy) (hmade : tree.makeDirectories p = .ok tree') :
    tree'.Tidy := by
  rw [FileTree.makeDirectories] at hmade
  have hways : ∀ way ∈ (List.range p.steps.length).map fun n => p.steps.take (n + 1),
      ∀ name, .down name ∈ way → IsName name := by
    intro way hway name hname
    obtain ⟨n, -, rfl⟩ := List.mem_map.1 hway
    exact Path.isName_of_step (List.mem_of_mem_take hname)
  generalize (List.range p.steps.length).map _ = ways at hmade hways
  induction ways generalizing tree with
  | nil =>
    cases hmade
    exact h
  | cons way ways ih =>
    obtain ⟨hfirst, hlater⟩ := List.forall_mem_cons.1 hways
    rw [List.foldlM_cons] at hmade
    cases hway : tree.ensureDirectory way with
    | error fault =>
      rw [hway] at hmade
      cases hmade
    | ok next =>
      rw [hway] at hmade
      exact ih (h.ensureDirectory hfirst hway) hmade hlater

theorem Tidy.add {node : Node} (h : tree.Tidy) (hnode : node.Tidy) (p : Path) :
    (tree.add p node).Tidy := by
  have hmade : (((p.parent?.map tree.makeDirectories).bind Except.toOption).getD tree).Tidy := by
    cases hparent : p.parent? with
    | none => exact h
    | some directory =>
      cases hmade : tree.makeDirectories directory with
      | error fault => simpa [hmade, Except.toOption] using h
      | ok next => simpa [hmade, Except.toOption] using h.makeDirectories hmade
  rw [FileTree.add]
  generalize (((p.parent?.map tree.makeDirectories).bind Except.toOption).getD tree) = made at hmade
  split
  · next place hresolve => exact hmade.put hnode (hmade.isName hresolve)
  · next place old hresolve =>
    split
    · exact hmade
    · exact hmade.put hnode (hmade.isName hresolve)
  · exact hmade

end

/-- **Trees that are built of tidy nodes are tidy.** -/
theorem tidy_ofNodes {here : Place} {nodes : List (Path × Node)}
    (hhere : ∀ name ∈ here, IsName name) (hnodes : ∀ entry ∈ nodes, entry.2.Tidy) :
    (ofNodes here nodes).Tidy := by
  have hbare : Tidy ⟨(Node.directory []).put here (.directory []), here⟩ :=
    ⟨Node.tidy_empty.put Node.tidy_empty hhere, hhere⟩
  unfold ofNodes
  dsimp only
  generalize (⟨(Node.directory []).put here (.directory []), here⟩ : FileTree) = tree at hbare ⊢
  induction nodes generalizing tree with
  | nil => exact hbare
  | cons entry nodes ih =>
    obtain ⟨hentry, hlater⟩ := List.forall_mem_cons.1 hnodes
    exact ih hlater _ (hbare.add hentry entry.1)

end FileTree

end Stencil
