/-
  What a program finds in its environment.

  * `Store.global s name`: what a global holds;
  * `Linked libraries s`: before the program runs, every function that is always there is
    a global, and so is a table for each of the libraries, which holds the entries of the
    library;
  * `Linked.link`: linking one more library keeps this, since no library has the name of
    another one or of a function that is always there;
  * `environment_linked`: so it holds of the environment, whichever libraries are linked.
-/
import Mathlib.Data.List.Induction
import Mathlib.Data.List.Nodup
import Stencil.Lua.Environment
import Stencil.Proofs.Library.Requested
import Stencil.Proofs.Lua.Sequence
import Stencil.Proofs.Text.Utf8

namespace Stencil.Lua

theorem bytes_inj {a b : String} : bytes a = bytes b ↔ a = b := by
  refine ⟨fun h => ?_, congrArg bytes⟩
  have h' := congrArg Text.Utf8.decodeLossy h
  simp only [bytes, Text.Utf8.decodeLossy_encode] at h'
  exact String.toList_inj.1 h'

namespace Table

@[simp] theorem getText_setText (t : Table) (key other : String) (value : Value) :
    (t.setText key value).getText other = if key = other then value else t.getText other := by
  have h := get_set_string t (bytes key) (bytes other) value
  simp only [bytes_inj] at h
  exact h

end Table

/-- A table of entries with different names holds all of them. -/
theorem getText_tableOf {entries : List (String × Value)} (hnames : (entries.map Prod.fst).Nodup) :
    ∀ e ∈ entries, (tableOf entries).getText e.1 = e.2 := by
  induction entries using List.reverseRecOn with
  | nil => exact fun e he => absurd he List.not_mem_nil
  | append_singleton entries last ih =>
    intro e he
    rw [List.map_append, List.nodup_append] at hnames
    rw [tableOf, List.foldl_append]
    show ((tableOf entries).setText last.1 last.2).getText e.1 = e.2
    rw [Table.getText_setText]
    rcases List.mem_append.1 he with he | he
    · have hne : last.1 ≠ e.1 := fun heq =>
        hnames.2.2 e.1 (List.mem_map_of_mem he) last.1 (by simp) heq.symm
      rw [if_neg hne]
      exact ih hnames.1 e he
    · rw [List.mem_singleton.1 he, if_pos rfl]

/-! ## Steps -/

/-- A step that succeeds. -/
theorem Eval.bind_of_ok {α β : Type} {x : Eval α} {f : α → Eval β} {s s' : Store} {a : α}
    (h : x s = .ok a s') : (x >>= f) s = f a s' := by
  show EStateM.bind x f s = f a s'
  rw [EStateM.bind, h]

namespace Store

/-- The contents of a table. -/
def table (s : Store) (id : Nat) : Table := s.tables.getD id .empty

/-- What a global holds. -/
def global (s : Store) (name : String) : Value := (s.table globals).getText name

/-- The store with a change of a table. -/
def changeTable (s : Store) (id : Nat) (change : Table → Table) : Store :=
  { s with tables := s.tables.modify id change }

/-- The store with one more table. -/
def addTable (s : Store) (t : Table) : Store := { s with tables := s.tables.push t }

theorem table_changeTable {s : Store} {id : Nat} (hid : id < s.tables.size) (id' : Nat)
    (change : Table → Table) :
    (s.changeTable id change).table id' =
      if id = id' then change (s.table id') else s.table id' := by
  simp only [table, changeTable, Array.getD_eq_getD_getElem?, Array.getElem?_modify]
  by_cases heq : id = id'
  · subst heq
    simp [Array.getElem?_eq_getElem hid]
  · simp [heq]

theorem table_changeTable_of_ne {s : Store} {id id' : Nat} (hne : id ≠ id')
    (change : Table → Table) : (s.changeTable id change).table id' = s.table id' := by
  simp only [table, changeTable, Array.getD_eq_getD_getElem?, Array.getElem?_modify, if_neg hne]

@[simp] theorem size_changeTable (s : Store) (id : Nat) (change : Table → Table) :
    (s.changeTable id change).tables.size = s.tables.size := Array.size_modify

theorem table_addTable_of_lt {s : Store} {id : Nat} (hid : id < s.tables.size) (t : Table) :
    (s.addTable t).table id = s.table id := by
  simp only [table, addTable, Array.getD_eq_getD_getElem?, Array.getElem?_push_lt hid,
    Array.getElem?_eq_getElem hid]

@[simp] theorem table_addTable_self (s : Store) (t : Table) :
    (s.addTable t).table s.tables.size = t := by
  simp [table, addTable, Array.getD_eq_getD_getElem?]

@[simp] theorem size_addTable (s : Store) (t : Table) :
    (s.addTable t).tables.size = s.tables.size + 1 := Array.size_push _

end Store
/-! ## Linking -/

/-- The functions that are always there and the tables of libraries are globals. -/
structure Linked (libraries : List Library) (s : Store) : Prop where
  cells : s.cells = #[]
  closures : s.closures = #[]
  granted : s.granted = []
  /-- The fixed tables exist. -/
  fixed : Store.loaded < s.tables.size
  base : ∀ e ∈ baseEntries, s.global e.1 = e.2
  library : ∀ l ∈ libraries, ∃ id, Store.loaded < id ∧ id < s.tables.size ∧
    s.global (String.ofList l.name) = .table id ∧ s.table id = tableOf (libraryEntries l)

/-- The store after a table is provided under a name. -/
def provided (name : String) (t : Table) (s : Store) : Store :=
  ((s.addTable t).changeTable Store.globals (·.setText name (.table s.tables.size))).changeTable
    Store.loaded (·.setText name (.table s.tables.size))

/-- The store after a library is linked. -/
def withLibrary (l : Library) (s : Store) : Store :=
  let s' := provided (String.ofList l.name) (tableOf (libraryEntries l)) s
  match l with
  | .string => s'.changeTable Store.stringMetatable (·.setText "__index" (.table s.tables.size))
  | .package => s'.changeTable Store.globals fun t =>
    (t.setText "require" (.builtin (.base .require))).setText "module" (.builtin (.outside "module"))
  | _ => s'

theorem link_eq (l : Library) (s : Store) : link l s = .ok () (withLibrary l s) := by
  cases l <;> rfl

/-! ### Names -/

theorem names_baseEntries : (baseEntries.map Prod.fst).Nodup := by decide

theorem mem_baseEntries {f : BaseFunction} (hf : f ∈ BaseFunction.all) :
    (f.name, Value.builtin (.base f)) ∈ baseEntries :=
  List.mem_append_left _ (List.mem_append_left _ (List.mem_map_of_mem hf))

theorem names_libraryEntries (l : Library) : ((libraryEntries l).map Prod.fst).Nodup := by
  cases l <;> decide

theorem name_ne {l l' : Library} (h : l ≠ l') : String.ofList l.name ≠ String.ofList l'.name :=
  fun heq => h (Library.name_inj.1 (String.ofList_inj.1 heq))

/-- The names of `package` that are globals of their own. -/
def packageNames : List String := ["require", "module"]

theorem base_disjoint : ∀ name ∈ baseEntries.map Prod.fst,
    name ∉ (Library.all.map fun l => String.ofList l.name) ++ packageNames := by decide

theorem library_disjoint :
    ∀ name ∈ Library.all.map fun l => String.ofList l.name, name ∉ packageNames := by decide

/-! ### The tables after linking -/

section

variable {l : Library} {s : Store}

@[simp] theorem size_withLibrary : (withLibrary l s).tables.size = s.tables.size + 1 := by
  cases l <;> simp [withLibrary, provided]

theorem global_provided (hfixed : Store.loaded < s.tables.size) (name other : String) (t : Table) :
    (provided name t s).global other =
      if name = other then .table s.tables.size else s.global other := by
  have hglobals : Store.globals < s.tables.size := Nat.lt_trans (by decide) hfixed
  rw [Store.global, provided, Store.table_changeTable (by simpa using Nat.lt_succ_of_lt hfixed),
    if_neg (by decide), Store.table_changeTable (by simpa using Nat.lt_succ_of_lt hglobals),
    if_pos rfl, Table.getText_setText, Store.table_addTable_of_lt hglobals]
  rfl

theorem size_provided (name : String) (t : Table) :
    (provided name t s).tables.size = s.tables.size + 1 := by
  simp [provided]

/-- A global is provided for the library; the other ones do not change. -/
theorem global_withLibrary (hfixed : Store.loaded < s.tables.size) {name : String}
    (hname : name ∉ packageNames) :
    (withLibrary l s).global name =
      if String.ofList l.name = name then .table s.tables.size else s.global name := by
  let s' := provided (String.ofList l.name) (tableOf (libraryEntries l)) s
  have hsize : s'.tables.size = s.tables.size + 1 := size_provided _ _
  have hprovided := global_provided hfixed (String.ofList l.name) name (tableOf (libraryEntries l))
  have hfixed' : Store.loaded < s'.tables.size := by omega
  rw [← hprovided]
  cases l with
  | string =>
    rw [Store.global, withLibrary, Store.table_changeTable (Nat.lt_trans (by decide) hfixed'),
      if_neg (by decide)]
    rfl
  | package =>
    simp only [packageNames, List.mem_cons, List.not_mem_nil, or_false, not_or] at hname
    rw [Store.global, withLibrary, Store.table_changeTable (Nat.lt_trans (by decide) hfixed'),
      if_pos rfl, Table.getText_setText, Table.getText_setText, if_neg (Ne.symm hname.2),
      if_neg (Ne.symm hname.1)]
    rfl
  | _ => rfl

/-- The tables behind the fixed ones are those from before and that of the library. -/
theorem table_withLibrary {id : Nat} (hid : Store.loaded < id) :
    (withLibrary l s).table id = (s.addTable (tableOf (libraryEntries l))).table id := by
  have hloaded : Store.loaded ≠ id := Nat.ne_of_lt hid
  have hglobals : Store.globals ≠ id := Nat.ne_of_lt (Nat.lt_trans (by decide) hid)
  have hstring : Store.stringMetatable ≠ id := Nat.ne_of_lt (Nat.lt_trans (by decide) hid)
  cases l <;> simp only [withLibrary, provided, Store.table_changeTable_of_ne hloaded,
    Store.table_changeTable_of_ne hglobals, Store.table_changeTable_of_ne hstring]

end

namespace Linked

variable {libraries : List Library} {s : Store}

/-- One more library. -/
theorem link (h : Linked libraries s) (l : Library) :
    Linked (libraries ++ [l]) (withLibrary l s) := by
  refine ⟨?_, ?_, ?_, ?_, fun e he => ?_, fun l' hl' => ?_⟩
  · cases l <;> exact h.cells
  · cases l <;> exact h.closures
  · cases l <;> exact h.granted
  · rw [size_withLibrary]
    exact Nat.lt_succ_of_lt h.fixed
  · have hname := base_disjoint e.1 (List.mem_map_of_mem he)
    rw [List.mem_append, not_or] at hname
    rw [global_withLibrary h.fixed hname.2, if_neg, h.base e he]
    exact fun heq => hname.1 (List.mem_map.2 ⟨l, Library.mem_all l, heq⟩)
  · have hname := library_disjoint _
      (List.mem_map_of_mem (f := fun l => String.ofList l.name) (Library.mem_all l'))
    by_cases heq : l = l'
    · subst heq
      refine ⟨s.tables.size, h.fixed, ?_, ?_, ?_⟩
      · rw [size_withLibrary]
        exact Nat.lt_succ_self _
      · rw [global_withLibrary h.fixed hname, if_pos rfl]
      · rw [table_withLibrary h.fixed, Store.table_addTable_self]
    · have hmem : l' ∈ libraries := by
        simpa [Ne.symm heq] using hl'
      obtain ⟨id, hfixed, hsize, hglobal, htable⟩ := h.library l' hmem
      refine ⟨id, hfixed, ?_, ?_, ?_⟩
      · rw [size_withLibrary]
        exact Nat.lt_succ_of_lt hsize
      · rw [global_withLibrary h.fixed hname, if_neg (name_ne heq), hglobal]
      · rw [table_withLibrary hfixed, Store.table_addTable_of_lt hsize, htable]

/-- Libraries are linked one after the other. -/
theorem forM_link (h : Linked libraries s) (rest : List Library) :
    ∃ s', (rest.forM Lua.link) s = .ok () s' ∧ Linked (libraries ++ rest) s' := by
  induction rest generalizing libraries s with
  | nil => exact ⟨s, rfl, by rwa [List.append_nil]⟩
  | cons l rest ih =>
    obtain ⟨s', hrun, hlinked⟩ := ih (h.link l)
    refine ⟨s', ?_, by rwa [List.append_assoc] at hlinked⟩
    show (Lua.link l >>= fun _ => rest.forM Lua.link) s = _
    rw [Eval.bind_of_ok (link_eq l s)]
    exact hrun

/-- What a library holds is found in the table that its global is. -/
theorem entry (h : Linked libraries s) {l : Library} (hl : l ∈ libraries) {e : String × Value}
    (he : e ∈ libraryEntries l) : ∃ id, id < s.tables.size ∧
      s.global (String.ofList l.name) = .table id ∧ (s.table id).getText e.1 = e.2 := by
  obtain ⟨id, -, hsize, hglobal, htable⟩ := h.library l hl
  exact ⟨id, hsize, hglobal, by rw [htable]; exact getText_tableOf (names_libraryEntries l) e he⟩

/-- Fewer libraries. -/
theorem mono (h : Linked libraries s) {fewer : List Library} (hsub : fewer ⊆ libraries) :
    Linked fewer s :=
  ⟨h.cells, h.closures, h.granted, h.fixed, h.base, fun l hl => h.library l (hsub hl)⟩

end Linked

/-- The store before libraries are linked. -/
def unlinked : Store :=
  (Store.initial.changeTable Store.globals fun _ => tableOf baseEntries).changeTable Store.loaded
    (·.setText "_G" (.table Store.globals))

theorem linked_unlinked : Linked [] unlinked := by
  refine ⟨rfl, rfl, rfl, by decide, fun e he => ?_, fun l hl => absurd hl List.not_mem_nil⟩
  rw [Store.global, unlinked, Store.table_changeTable_of_ne (by decide),
    Store.table_changeTable (by decide), if_pos rfl]
  exact getText_tableOf names_baseEntries e he

/-- The environment of a program holds what is always there and its libraries. -/
theorem environment_linked (libraries : Libraries) :
    Linked libraries.members (environment libraries) := by
  let others := Library.asked libraryBit (libraries.flags libraryBit)
  obtain ⟨s, hrun, hlinked⟩ := (linked_unlinked.link .coroutine).forM_link others
  have hpopulate : populate (libraries.flags libraryBit) Store.initial = .ok () s := by
    show (link .coroutine >>= fun _ => others.forM link) unlinked = _
    rw [Eval.bind_of_ok (link_eq .coroutine unlinked)]
    exact hrun
  rw [environment, hpopulate]
  refine hlinked.mono fun l hl => ?_
  by_cases heq : l = .coroutine
  · simp [heq]
  · have hasked : l ∈ others :=
      (Libraries.mem_asked_iff Libraries.separate_libraryBit).2 ⟨heq, Libraries.mem_names_iff.2 hl⟩
    exact List.mem_append_right _ hasked

end Stencil.Lua
