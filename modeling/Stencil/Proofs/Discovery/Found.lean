/-
  The files that discovery finds.

  * `Hidden name`: the name of a directory hides it, which it does only where it is UTF-8;
    `Dotted name`: its first byte is a dot;
  * `Passable hides skip p names`: no directory between a path and a file below it is left out;
  * `Walks tree root node`: the walk from a root begins at this node;
  * `Found hides tree skip root p`: the path is that of a regular file at or below the root, and
    no directory between them is left out;
  * `Carries extension p`: a path has an extension, in letters of either case.

  The walk over a tidy node finds the files that it can pass to (`mem_walk_iff`), in the order of
  their paths (`pairwise_walk`), and hence each of them once; both are by induction over the tree.

  Main statement: `discover_exact`.
-/
import Stencil.Proofs.Discovery.Offered
import Stencil.Proofs.Discovery.Order

namespace Stencil

open Stencil.Path (Before)

/-! ## Directories on the way -/

namespace Discovery

/-- The name of a directory hides it: it is UTF-8 and begins with a dot. -/
def Hidden (name : Bytes) : Prop := ∃ rest : Text, name = Text.Utf8.encode ('.' :: rest)

/-- The first byte of a name is a dot. -/
def Dotted (name : Bytes) : Prop := name.head? = some Path.dot

theorem isHidden_iff {name : Bytes} : Node.isHidden name = true ↔ Hidden name := by
  simp only [Node.isHidden, Option.any_eq_true, Text.Utf8.decode?_eq_some_iff, beq_iff_eq]
  constructor
  · rintro ⟨written, rfl, hdot⟩
    obtain ⟨rest, rfl⟩ := List.head?_eq_some_iff.1 hdot
    exact ⟨rest, rfl⟩
  · rintro ⟨rest, rfl⟩
    exact ⟨_, rfl, rfl⟩

instance (name : Bytes) : Decidable (Hidden name) := decidable_of_iff _ isHidden_iff

instance (name : Bytes) : Decidable (Dotted name) := inferInstanceAs (Decidable (_ = _))

theorem Hidden.dotted {name : Bytes} (h : Hidden name) : Dotted name := by
  obtain ⟨rest, rfl⟩ := h
  rfl

/-- A dot at the start of a text is its first byte. -/
theorem Dotted.hidden {name : Bytes} (h : Dotted name) (htext : (Text.Utf8.decode? name).isSome) :
    Hidden name := by
  obtain ⟨written, hwritten⟩ := Option.isSome_iff_exists.1 htext
  obtain rfl := Text.Utf8.decode?_eq_some_iff.1 hwritten
  obtain ⟨rest, hrest⟩ := List.head?_eq_some_iff.1 h
  have hbytes : Text.Utf8.encode written = [] ++ Path.dot :: rest := hrest
  obtain ⟨start, rest, rfl, hstart, -⟩ :=
    Text.Utf8.encode_eq_append_cons (c := '.') (by decide) hbytes
  obtain rfl : [] = start := Text.Utf8.encode_injective hstart
  exact ⟨rest, rfl⟩

/-- No directory between a path and a file below it is hidden or to be skipped. -/
def Passable (hides : Bytes → Prop) (skip : List Path) (p : Path) (names : List Bytes) : Prop :=
  ∀ above name rest, names = above ++ name :: rest → rest ≠ [] →
    ¬ hides name ∧ ∀ s ∈ skip, (p.below (above ++ [name])).components ≠ s.components

variable {hides hides' : Bytes → Prop} {skip : List Path} {p : Path} {name : Bytes}
  {names : List Bytes}

theorem passable_nil (hides : Bytes → Prop) (skip : List Path) (p : Path) :
    Passable hides skip p [] := by
  intro above name rest h
  simp at h

theorem passable_cons : Passable hides skip p (name :: names) ↔
    (names ≠ [] → ¬ hides name ∧ ∀ s ∈ skip, (p.join ⟨name⟩).components ≠ s.components) ∧
      Passable hides skip (p.join ⟨name⟩) names := by
  constructor
  · intro h
    refine ⟨h [] name names rfl, fun above other rest heq hrest => ?_⟩
    exact h (name :: above) other rest (by rw [heq, List.cons_append]) hrest
  · rintro ⟨hfirst, hlater⟩ above other rest heq hrest
    cases above with
    | nil =>
      obtain ⟨rfl, rfl⟩ := List.cons.inj heq
      exact hfirst hrest
    | cons first above =>
      obtain ⟨rfl, hnames⟩ := List.cons.inj heq
      exact hlater above other rest hnames hrest

theorem Passable.mono (h : Passable hides skip p names)
    (hmono : ∀ name ∈ names, hides' name → hides name) : Passable hides' skip p names := by
  intro above name rest heq hrest
  obtain ⟨hfree, hskip⟩ := h above name rest heq hrest
  exact ⟨fun hhides => hfree (hmono name (by simp [heq]) hhides), hskip⟩

end Discovery

/-! ## Walking -/

namespace Node

open Discovery (Hidden Passable passable_nil passable_cons)

variable {node : Node} {skip : List Path}

theorem isPruned_eq_false_iff {path : Path} {name : Bytes} : isPruned skip path name node = false ↔
    (node.isDirectory = true → ¬ Hidden name ∧ ∀ s ∈ skip, path.components ≠ s.components) := by
  simp [isPruned, ← Discovery.isHidden_iff, ← Path.same_iff]

/-- Above a file there are directories. -/
theorem isDirectory_iff_of_at? {names : List Bytes} {bytes : Bytes}
    (h : node.at? names = some (.file bytes)) : node.isDirectory = true ↔ names ≠ [] := by
  cases names with
  | nil =>
    obtain rfl := Option.some.inj h
    simp [isDirectory]
  | cons name names =>
    obtain ⟨child, hentry, -⟩ := Option.bind_eq_some_iff.1 h
    obtain ⟨entries, rfl⟩ := exists_directory_of_entry? hentry
    simp [isDirectory]

theorem walkEach_eq_map (skip : List Path) (p : Path) (entries : List (Bytes × Node)) :
    walkEach skip p entries = entries.map fun e =>
      (e.1, if isPruned skip (p.join ⟨e.1⟩) e.1 e.2 then [] else e.2.walk skip (p.join ⟨e.1⟩)) := by
  induction entries with
  | nil => rw [walkEach, List.map_nil]
  | cons e entries ih => rw [walkEach, ih, List.map_cons]

/-- The files of an entry are those of a node of that name, if they are looked for. -/
theorem exists_entry_of_mem_walkEach {p : Path} {entries : List (Bytes × Node)}
    {f : Bytes × List Path} (h : f ∈ walkEach skip p entries) : ∃ e ∈ entries, f.1 = e.1 ∧
      (f.2 = [] ∨ f.2 = e.2.walk skip (p.join ⟨e.1⟩)) := by
  rw [walkEach_eq_map] at h
  obtain ⟨e, he, rfl⟩ := List.mem_map.1 h
  refine ⟨e, he, rfl, ?_⟩
  dsimp only
  split
  · exact .inl rfl
  · exact .inr rfl

/-- The files below a directory are those below its entries. -/
theorem mem_walk_directory {p q : Path} {entries : List (Bytes × Node)} :
    q ∈ (directory entries).walk skip p ↔ ∃ e ∈ entries,
      isPruned skip (p.join ⟨e.1⟩) e.1 e.2 = false ∧ q ∈ e.2.walk skip (p.join ⟨e.1⟩) := by
  rw [walk, List.mem_flatMap, walkEach_eq_map]
  simp only [List.mem_mergeSort, List.mem_map, exists_exists_and_eq_and, List.mem_ite_nil_left,
    Bool.not_eq_true]

/-- **The walk finds the files that it can pass to.** -/
theorem mem_walk_iff (h : node.Tidy) {p q : Path} : q ∈ node.walk skip p ↔
    ∃ names bytes, node.at? names = some (.file bytes) ∧ q = p.below names ∧
      Passable Hidden skip p names := by
  induction h generalizing p with
  | file bytes =>
    rw [walk, List.mem_singleton]
    constructor
    · rintro rfl
      exact ⟨[], bytes, rfl, rfl, passable_nil _ _ _⟩
    · rintro ⟨names, other, hfile, rfl, -⟩
      obtain rfl := at?_file hfile
      rfl
  | link target =>
    rw [walk]
    refine iff_of_false List.not_mem_nil ?_
    rintro ⟨names, bytes, hfile, -⟩
    cases names <;> cases hfile
  | @directory entries hnodup hnames hnodes ih =>
    rw [mem_walk_directory]
    constructor
    · rintro ⟨⟨name, child⟩, he, hpruned, hq⟩
      obtain ⟨names, bytes, hfile, rfl, hpass⟩ := (ih _ he).1 hq
      refine ⟨name :: names, bytes, ?_, rfl, passable_cons.2 ⟨fun hne => ?_, hpass⟩⟩
      · rw [at?, entry?_of_mem hnodup he]
        exact hfile
      · exact isPruned_eq_false_iff.1 hpruned ((isDirectory_iff_of_at? hfile).2 hne)
    · rintro ⟨names, bytes, hfile, rfl, hpass⟩
      cases names with
      | nil => cases hfile
      | cons name names =>
        obtain ⟨child, hentry, hfile⟩ := Option.bind_eq_some_iff.1 hfile
        obtain ⟨hfirst, hlater⟩ := passable_cons.1 hpass
        have he := mem_of_entry?_eq hentry
        refine ⟨(name, child), he, isPruned_eq_false_iff.2 fun hdir => ?_, ?_⟩
        · exact hfirst ((isDirectory_iff_of_at? hfile).1 hdir)
        · exact (ih _ he).2 ⟨names, bytes, hfile, rfl, hlater⟩

/-- The entries of a directory are visited in the order of their names. -/
theorem pairwise_mergeSort_names (p : Path) {entries : List (Bytes × Node)}
    (hnames : (entries.map Prod.fst).Nodup) :
    ((walkEach skip p entries).mergeSort fun a b => Bytes.notAfter a.1 b.1).Pairwise
      fun a b => a.1 < b.1 := by
  have hsorted : ((walkEach skip p entries).mergeSort fun a b => Bytes.notAfter a.1 b.1).Pairwise
      fun a b => Bytes.notAfter a.1 b.1 = true :=
    List.pairwise_mergeSort (fun a b c => Bytes.notAfter_trans a.1 b.1 c.1)
      (fun a b => Bytes.notAfter_total a.1 b.1) _
  have hsame : (walkEach skip p entries).map Prod.fst = entries.map Prod.fst := by
    rw [walkEach_eq_map, List.map_map]
    rfl
  have hperm := (List.mergeSort_perm (walkEach skip p entries)
    fun a b => Bytes.notAfter a.1 b.1).map Prod.fst
  have hdistinct := hperm.nodup_iff.2 (hsame ▸ hnames)
  exact (hsorted.and (List.pairwise_map.1 hdistinct)).imp fun ⟨hle, hne⟩ =>
    (List.le_iff_lt_or_eq.1 (Bytes.notAfter_iff.1 hle)).resolve_right hne

/-- The walk from a path finds paths that begin with its components. -/
theorem exists_components_of_mem_walk (h : node.Tidy) {p q : Path} (hq : q ∈ node.walk skip p) :
    ∃ rest, q.components = p.components ++ rest := by
  obtain ⟨names, bytes, hfile, rfl, -⟩ := (mem_walk_iff h).1 hq
  exact ⟨_, Path.components_below p (h.at? hfile).2⟩

/-- **The walk finds files in the order of their paths.** -/
theorem pairwise_walk (h : node.Tidy) (skip : List Path) (p : Path) :
    (node.walk skip p).Pairwise Before := by
  induction h generalizing p with
  | file bytes =>
    rw [walk]
    exact List.pairwise_singleton _ _
  | link target =>
    rw [walk]
    exact .nil
  | @directory entries hnodup hnames hnodes ih =>
    rw [walk, List.pairwise_flatMap]
    have hentry : ∀ f ∈ (walkEach skip p entries).mergeSort fun a b => Bytes.notAfter a.1 b.1,
        ∃ e ∈ entries, f.1 = e.1 ∧ (f.2 = [] ∨ f.2 = e.2.walk skip (p.join ⟨e.1⟩)) :=
      fun f hf => exists_entry_of_mem_walkEach (List.mem_mergeSort.1 hf)
    refine ⟨fun f hf => ?_, ((pairwise_mergeSort_names p hnodup).imp_of_mem ?_)⟩
    · obtain ⟨e, he, -, hfiles | hfiles⟩ := hentry f hf
      · rw [hfiles]
        exact .nil
      · rw [hfiles]
        exact ih e he _
    · -- the files of an entry have its name behind the components of the directory
      have hbehind : ∀ f ∈ (walkEach skip p entries).mergeSort fun a b => Bytes.notAfter a.1 b.1,
          ∀ q ∈ f.2, ∃ rest, q.components = p.components ++ .name f.1 :: rest := by
        intro f hf q hq
        obtain ⟨e, he, hname, hfiles | hfiles⟩ := hentry f hf
        · rw [hfiles] at hq
          cases hq
        · rw [hfiles] at hq
          obtain ⟨rest, hrest⟩ := exists_components_of_mem_walk (hnodes e he) hq
          rw [Path.components_join p (hnames e he), ← hname] at hrest
          exact ⟨rest, by rw [hrest, List.append_assoc, List.singleton_append]⟩
      intro f g hf hg hlt q hq q' hq'
      obtain ⟨rest, hrest⟩ := hbehind f hf q hq
      obtain ⟨rest', hrest'⟩ := hbehind g hg q' hq'
      exact Path.before_of_lt hlt hrest hrest'

end Node

/-! ## Roots -/

namespace Discovery

/-- The walk from a root begins at this node: at what the root leads to, or at the directory behind
    a link. -/
inductive Walks (tree : FileTree) (root : Path) : Node → Prop
  | plain {place node} : tree.resolve false root = .ok (.found place node) →
      (∀ target, node ≠ .link target) → Walks tree root node
  | link {place target place' entries} :
      tree.resolve false root = .ok (.found place (.link target)) →
      tree.resolve true root = .ok (.found place' (.directory entries)) →
      Walks tree root (.directory entries)

/-- A path is that of a regular file at or below a root, and no directory between them is left
    out. -/
def Found (hides : Bytes → Prop) (tree : FileTree) (skip : List Path) (root p : Path) : Prop :=
  ∃ node names bytes, Walks tree root node ∧ node.at? names = some (.file bytes) ∧
    p = root.below names ∧ Passable hides skip root names

/-- A path has a name with an extension that is UTF-8, in letters of either case. -/
def Carries (extension : Text) (p : Path) : Prop :=
  ∃ (stem : Bytes) (written : Text), p.name? = some (stem ++ Path.dot :: Text.Utf8.encode written) ∧
    stem ≠ [] ∧ '.' ∉ written ∧ written.map Char.toLower = extension.map Char.toLower

theorem hasExtension_iff {extension : Text} {p : Path} :
    hasExtension extension p = true ↔ Carries extension p := by
  rw [hasExtension, Option.any_eq_true]
  simp only [Path.extension?_eq_some_iff, sameLetters, beq_iff_eq]
  constructor
  · rintro ⟨written, ⟨stem, hstem, hdot, hname⟩, hletters⟩
    exact ⟨stem, written, hname, hstem, hdot, hletters.symm⟩
  · rintro ⟨stem, written, hname, hstem, hdot, hletters⟩
    exact ⟨written, ⟨stem, hstem, hdot, hname⟩, hletters.symm⟩

variable {tree : FileTree} {c : Criteria} {root : Path}

theorem Walks.unique {node node' : Node} (h : Walks tree root node) (h' : Walks tree root node') :
    node = node' := by
  cases h with
  | plain hresolve hkind =>
    cases h' with
    | plain hresolve' =>
      cases hresolve.symm.trans hresolve'
      rfl
    | link hlink =>
      cases hresolve.symm.trans hlink
      exact absurd rfl (hkind _)
  | link hlink hresolve =>
    cases h' with
    | plain hresolve' hkind =>
      cases hlink.symm.trans hresolve'
      exact absurd rfl (hkind _)
    | link _ hresolve' =>
      cases hresolve.symm.trans hresolve'
      rfl

theorem Walks.tidy {node : Node} (h : Walks tree root node) (htree : tree.top.Tidy) :
    node.Tidy := by
  cases h with
  | plain hresolve => exact (htree.at? (FileTree.leads_of_resolve hresolve).stands).1
  | link _ hresolve => exact (htree.at? (FileTree.leads_of_resolve hresolve).stands).1

/-- A file is found where fewer names hide a directory on its path. -/
theorem Found.mono {hides hides' : Bytes → Prop} {skip : List Path} {p : Path}
    (h : Found hides tree skip root p) (htree : tree.top.Tidy)
    (hmono : ∀ name, .name name ∈ p.components → hides' name → hides name) :
    Found hides' tree skip root p := by
  obtain ⟨node, names, bytes, hwalks, hfile, rfl, hpass⟩ := h
  refine ⟨node, names, bytes, hwalks, hfile, rfl, hpass.mono fun name hname => hmono name ?_⟩
  rw [Path.components_below root ((hwalks.tidy htree).at? hfile).2]
  exact List.mem_append_right _ (List.mem_map_of_mem hname)

/-- The names on the way from the root to a file are those at the end of its path. -/
theorem Found.passable {hides : Bytes → Prop} {skip : List Path} {p : Path}
    (h : Found hides tree skip root p) (htree : tree.top.Tidy) {names : List Bytes}
    (hnames : p.components = root.components ++ names.map .name) :
    Passable hides skip root names := by
  obtain ⟨node, names', bytes, hwalks, hfile, rfl, hpass⟩ := h
  rw [Path.components_below root ((hwalks.tidy htree).at? hfile).2, List.append_cancel_left_eq]
    at hnames
  obtain rfl := List.map_injective_iff.2 (fun _ _ => Path.Component.name.inj) hnames
  exact hpass

/-- Discovery sorts the files of the walk, if there is one. -/
theorem discover_cases (tree : FileTree) (c : Criteria) (root : Path) :
    (∃ node, Walks tree root node ∧ discover tree c root = .ofFiles c (node.walk c.skip root)) ∨
    ((∀ node, ¬ Walks tree root node) ∧ (discover tree c root).templates = [] ∧
      (discover tree c root).includes = []) := by
  have hnone : (∀ place node, tree.resolve false root ≠ .ok (.found place node)) →
      ∀ node, ¬ Walks tree root node := by
    intro hfree node h
    cases h with
    | plain hresolve => exact hfree _ _ hresolve
    | link hlink => exact hfree _ _ hlink
  have hlost : ∀ {place target}, tree.resolve false root = .ok (.found place (.link target)) →
      (∀ place' entries, tree.resolve true root ≠ .ok (.found place' (.directory entries))) →
      ∀ node, ¬ Walks tree root node := by
    intro place target hlink hother node h
    cases h with
    | plain hresolve hkind =>
      cases hlink.symm.trans hresolve
      exact hkind _ rfl
    | link _ hresolve => exact hother _ _ hresolve
  unfold discover
  split
  · next hresolve => exact .inr ⟨hnone (by simp [hresolve]), rfl, rfl⟩
  · next hresolve => exact .inr ⟨hnone (by simp [hresolve]), rfl, rfl⟩
  · next hlink =>
    split
    · next hresolve => exact .inr ⟨hlost hlink (by simp [hresolve]), rfl, rfl⟩
    · next hresolve => exact .inr ⟨hlost hlink (by simp [hresolve]), rfl, rfl⟩
    · next hresolve => exact .inl ⟨_, .link hlink hresolve, rfl⟩
    · next hkind hresolve =>
      refine .inr ⟨hlost hlink fun place' entries hdirectory => ?_, rfl, rfl⟩
      cases hresolve.symm.trans hdirectory
      exact hkind _ rfl
  · next hkind hresolve => exact .inl ⟨_, .plain hresolve hkind, rfl⟩

/-- What discovery finds is sorted out of the files that are found, in the order of their paths. -/
theorem exists_files (htree : tree.top.Tidy) (c : Criteria) (root : Path) :
    ∃ files : List Path, files.Pairwise Before ∧ (∀ p, p ∈ files ↔ Found Hidden tree c.skip root p) ∧
      (discover tree c root).templates = (Project.ofFiles c files).templates ∧
      (discover tree c root).includes = (Project.ofFiles c files).includes := by
  rcases discover_cases tree c root with ⟨node, hwalks, heq⟩ | ⟨hnone, htemplates, hincludes⟩
  · have hnode := hwalks.tidy htree
    refine ⟨node.walk c.skip root, Node.pairwise_walk hnode c.skip root, fun p => ?_, by rw [heq],
      by rw [heq]⟩
    rw [Node.mem_walk_iff hnode]
    constructor
    · rintro ⟨names, bytes, hfound⟩
      exact ⟨node, names, bytes, hwalks, hfound⟩
    · rintro ⟨node', names, bytes, hwalks', hfound⟩
      obtain rfl := hwalks.unique hwalks'
      exact ⟨names, bytes, hfound⟩
  · refine ⟨[], .nil, fun p => iff_of_false List.not_mem_nil ?_, htemplates, hincludes⟩
    rintro ⟨node, -, -, hwalks, -⟩
    exact hnone node hwalks

/-! ## Sorting files -/

section
variable {files : List Path} {p : Path}

theorem mem_templates_ofFiles : p ∈ (Project.ofFiles c files).templates ↔
    p ∈ files ∧ Carries c.templateExtension p := by
  rw [Project.ofFiles, List.mem_filter, hasExtension_iff]

/-- A file that is a template is no include file. -/
theorem mem_includes_ofFiles : p ∈ (Project.ofFiles c files).includes ↔
    p ∈ files ∧ Carries c.includeExtension p ∧ p ∉ (Project.ofFiles c files).templates := by
  rw [mem_templates_ofFiles, Project.ofFiles, List.mem_filter, Bool.and_eq_true, Bool.not_eq_true',
    ← Bool.not_eq_true, hasExtension_iff, hasExtension_iff]
  constructor
  · rintro ⟨hp, hno, hcarries⟩
    exact ⟨hp, hcarries, fun h => hno h.2⟩
  · rintro ⟨hp, hcarries, hno⟩
    exact ⟨hp, fun h => hno ⟨hp, h⟩, hcarries⟩

/-- Files with different paths are sorted into lists without a path twice. -/
theorem nodup_ofFiles (h : (files.map Path.components).Nodup) :
    (((Project.ofFiles c files).templates ++ (Project.ofFiles c files).includes).map
      Path.components).Nodup := by
  rw [List.map_append, List.nodup_append]
  refine ⟨h.sublist (List.filter_sublist.map _), h.sublist (List.filter_sublist.map _), ?_⟩
  intro a ha b hb heq
  obtain ⟨p, hp, rfl⟩ := List.mem_map.1 ha
  obtain ⟨q, hq, rfl⟩ := List.mem_map.1 hb
  obtain rfl := List.inj_on_of_nodup_map h (List.mem_of_mem_filter hp) (List.mem_of_mem_filter hq) heq
  exact (mem_includes_ofFiles.1 hq).2.2 hp

end

/-- **Discovery finds the right files, once, and in order.**  In a tidy tree, as every tree that is
    built of nodes is one (`FileTree.tidy_ofNodes`), the templates are the regular files at or below
    the root that have the extension of a template, in letters of either case, with no directory
    strictly between the root and the file that is hidden or to be skipped; the include files are
    those with the extension of an include file that are no templates.  No path is twice in a list,
    or in both lists, and both are in the order of the components of their paths.

    A name hides a directory only where it is UTF-8.  So every file is found that would be found if
    a dot as the first byte of a name hid the directory, and no other one of those whose paths are
    made of names in UTF-8. -/
theorem discover_exact (tree : FileTree) (c : Criteria) (root : Path) (htree : tree.top.Tidy) :
    (∀ p, p ∈ (discover tree c root).templates ↔
      Found Hidden tree c.skip root p ∧ Carries c.templateExtension p) ∧
    (∀ p, p ∈ (discover tree c root).includes ↔
      Found Hidden tree c.skip root p ∧ Carries c.includeExtension p ∧
        p ∉ (discover tree c root).templates) ∧
    (((discover tree c root).templates ++ (discover tree c root).includes).map
      Path.components).Nodup ∧
    (discover tree c root).templates.Pairwise Before ∧
    (discover tree c root).includes.Pairwise Before ∧
    (∀ p, Found Dotted tree c.skip root p → Found Hidden tree c.skip root p) ∧
    ∀ p, (∀ name, .name name ∈ p.components → (Text.Utf8.decode? name).isSome) →
      Found Hidden tree c.skip root p → Found Dotted tree c.skip root p := by
  obtain ⟨files, hordered, hmem, htemplates, hincludes⟩ := exists_files htree c root
  have hdistinct : (files.map Path.components).Nodup :=
    List.pairwise_map.2 (hordered.imp Path.Before.components_ne)
  rw [htemplates, hincludes]
  refine ⟨fun p => ?_, fun p => ?_, nodup_ofFiles hdistinct, hordered.filter _, hordered.filter _,
    fun p hp => ?_, fun p htext hp => ?_⟩
  · rw [mem_templates_ofFiles, hmem]
  · rw [mem_includes_ofFiles, hmem]
  · exact hp.mono htree fun _ _ => Hidden.dotted
  · exact hp.mono htree fun name hname hdotted => hdotted.hidden (htext name hname)

/-- A tree with files below a directory, below a hidden one, and below one to be skipped. -/
def mixedTree : FileTree :=
  ⟨.directory [("b".toList, .directory [("m.SGTT".toList, .file [])]),
    (".git".toList, .directory [("x.sgtt".toList, .file [])]),
    ("out".toList, .directory [("y.sgtt".toList, .file [])])], []⟩

theorem tidy_single {name : Bytes} (h : IsName name) (bytes : Bytes) :
    (Node.directory [(name, .file bytes)]).Tidy :=
  .directory (List.nodup_singleton _) (List.forall_mem_singleton.2 h)
    (List.forall_mem_singleton.2 (.file _))

theorem tidy_mixedTree : mixedTree.top.Tidy := by
  refine .directory (by decide) (by decide) ?_
  simp only [List.forall_mem_cons]
  exact ⟨tidy_single (by decide) _, tidy_single (by decide) _, tidy_single (by decide) _, by simp⟩

/-- The criteria for this tree. -/
def Criteria.skipping : Criteria := ⟨"sgtt".toList, "ttinc".toList, [⟨"./out".toList⟩]⟩

theorem walks_mixedTree : Walks mixedTree ⟨[Path.dot]⟩ mixedTree.top :=
  .plain (FileTree.resolve_here _) (by simp [mixedTree])

/-- The file in the first directory is found, with its extension in capital letters, and would be
    found if a dot at the start of any name hid a directory; those in the hidden directory and in
    the one to be skipped are not. -/
theorem discover_exact_mixed :
    mixedTree.top.Tidy ∧
    ⟨"./b/m.SGTT".toList⟩ ∈ (discover mixedTree .skipping ⟨[Path.dot]⟩).templates ∧
    Found Dotted mixedTree Criteria.skipping.skip ⟨[Path.dot]⟩ ⟨"./b/m.SGTT".toList⟩ ∧
    ⟨"./.git/x.sgtt".toList⟩ ∉ (discover mixedTree .skipping ⟨[Path.dot]⟩).templates ∧
    ⟨"./out/y.sgtt".toList⟩ ∉ (discover mixedTree .skipping ⟨[Path.dot]⟩).templates := by
  obtain ⟨htemplates, -, -, -, -, -, hdotted⟩ :=
    discover_exact mixedTree .skipping ⟨[Path.dot]⟩ tidy_mixedTree
  have hfound : Found Hidden mixedTree Criteria.skipping.skip ⟨[Path.dot]⟩ ⟨"./b/m.SGTT".toList⟩ := by
    refine ⟨_, ["b".toList, "m.SGTT".toList], [], walks_mixedTree, rfl, rfl, ?_⟩
    exact passable_cons.2 ⟨fun _ => ⟨by decide +kernel, by decide +kernel⟩,
      passable_cons.2 ⟨fun h => absurd rfl h, passable_nil _ _ _⟩⟩
  have htext : ∀ component ∈ (⟨"./b/m.SGTT".toList⟩ : Path).components, ∀ name,
      component = .name name → (Text.Utf8.decode? name).isSome := by
    rw [show (⟨"./b/m.SGTT".toList⟩ : Path).components =
      [.here, .name "b".toList, .name "m.SGTT".toList] by decide +kernel]
    simp only [List.forall_mem_cons]
    refine ⟨?_, ?_, ?_, by simp⟩ <;> rintro name ⟨⟩ <;> decide +kernel
  refine ⟨tidy_mixedTree, (htemplates _).2 ⟨hfound, "m".toList, "SGTT".toList, by decide +kernel⟩,
    hdotted _ (fun name h => htext _ h name rfl) hfound, fun h => ?_, fun h => ?_⟩
  · have hpass : Passable Hidden _ _ [".git".toList, "x.sgtt".toList] :=
      ((htemplates _).1 h).1.passable tidy_mixedTree (by decide +kernel)
    exact (hpass [] ".git".toList ["x.sgtt".toList] rfl (List.cons_ne_nil _ _)).1 ⟨"git".toList, rfl⟩
  · have hpass : Passable Hidden _ _ ["out".toList, "y.sgtt".toList] :=
      ((htemplates _).1 h).1.passable tidy_mixedTree (by decide +kernel)
    have hskipped : (Path.below ⟨[Path.dot]⟩ ["out".toList]).components =
        (⟨"./out".toList⟩ : Path).components := by decide +kernel
    exact (hpass [] "out".toList ["y.sgtt".toList] rfl (List.cons_ne_nil _ _)).2 _
      List.mem_cons_self hskipped

/-- A tree with a file below a directory whose name begins with a dot and is not UTF-8. -/
def foreignTree : FileTree :=
  ⟨.directory [([0x2E, 0x78, 0xFF], .directory [("a.sgtt".toList, .file [])])], []⟩

/-- The path of this file. -/
def foreignPath : Path := ⟨[0x2E, 0x2F, 0x2E, 0x78, 0xFF, 0x2F] ++ Text.Utf8.encode "a.sgtt".toList⟩

/-- A tree with a link to a file. -/
def linkedTree : FileTree :=
  ⟨.directory [("a.sgtt".toList, .file [65]), ("l.sgtt".toList, .link ⟨"a.sgtt".toList⟩)], []⟩

theorem resolve_linkedTree :
    linkedTree.resolve false ⟨"l.sgtt".toList⟩ =
      .ok (.found ["l.sgtt".toList] (.link ⟨"a.sgtt".toList⟩)) ∧
    linkedTree.resolve true ⟨"l.sgtt".toList⟩ = .ok (.found ["a.sgtt".toList] (.file [65])) := by
  constructor <;> rw [FileTree.resolve, if_neg (by decide), if_neg (by decide), if_neg (by decide)]
  · exact FileTree.Leads.follow (.link ⟨_, rfl⟩ (by decide) rfl rfl)
  · exact FileTree.Leads.follow (.through ⟨_, rfl⟩ (by decide) rfl (.inr rfl)
      (.down ⟨_, rfl⟩ (by decide) rfl (by simp) (.found rfl)))

/-- **A directory whose name begins with a dot is walked into if its name is not UTF-8**, so the
    template below it is found.  A root that is a link to a file is not taken for the file. -/
theorem dotted_found_link_lost :
    (foreignTree.top.at? [[0x2E, 0x78, 0xFF], "a.sgtt".toList] = some (.file []) ∧
      Dotted [0x2E, 0x78, 0xFF] ∧
      (discover foreignTree .plain ⟨[Path.dot]⟩).templates = [foreignPath] ∧
      ¬ Found Dotted foreignTree Criteria.plain.skip ⟨[Path.dot]⟩ foreignPath) ∧
    linkedTree.readText ⟨"l.sgtt".toList⟩ = .ok ['A'] ∧
    (discover linkedTree .plain ⟨"l.sgtt".toList⟩).templates = [] := by
  refine ⟨⟨rfl, by decide, ?_, fun h => ?_⟩, ?_, ?_⟩
  · have hdiscover : discover foreignTree .plain ⟨[Path.dot]⟩ =
        .ofFiles .plain (foreignTree.top.walk [] ⟨[Path.dot]⟩) := by
      simp [discover, foreignTree, FileTree.resolve_here, Criteria.plain]
    have hshown : Node.isHidden [0x2E, 0x78, 0xFF] = false := by decide +kernel
    have hwalk : foreignTree.top.walk [] ⟨[Path.dot]⟩ = [foreignPath] := by
      simp [foreignTree, Node.walk, Node.walkEach, Node.isPruned, Node.isDirectory, hshown]
      decide +kernel
    rw [hdiscover, hwalk]
    decide +kernel
  · have htidy : foreignTree.top.Tidy :=
      .directory (by decide) (by decide) (List.forall_mem_singleton.2 (tidy_single (by decide) _))
    have hpass : Passable Dotted _ _ [[0x2E, 0x78, 0xFF], "a.sgtt".toList] :=
      h.passable htidy (by decide +kernel)
    exact (hpass [] [0x2E, 0x78, 0xFF] ["a.sgtt".toList] rfl (List.cons_ne_nil _ _)).1 rfl
  · rw [FileTree.readText, FileTree.read, resolve_linkedTree.2]
    rfl
  · simp only [discover, resolve_linkedTree.1, resolve_linkedTree.2]
    rfl

end Discovery

end Stencil
