/-
  The libraries of requested names.

  A name counts without the blanks around it.  Names are checked one after the other, and the
  libraries are then put into link order, so that the order of the names and their repetitions are
  lost: what is linked depends on the set of the names only.

  * `firstUnknown? names`: the first name that is no library's;
  * `Lists names l`: what is linked for names, said without the way it is found;
  * `ofNames_eq_error_iff`, `ofNames_eq_ok_iff`: names are refused for the first unknown one of
    them, and give the libraries that they list otherwise;
  * `union l l'`: the libraries of either, in link order;
  * `getLsbD_flags`, `mem_asked_iff`: the flags of libraries are those of each of them, and ask a
    state for these libraries only.

  Main statement: `ofNames_requested`.
-/
import Mathlib.Data.List.Nodup
import Mathlib.Data.List.Perm.Basic
import Stencil.Lua.Environment

namespace Stencil

/-! ## Names of libraries -/

namespace Library

/-- The names of the known libraries, in link order. -/
def names : List Text := all.map name

theorem nodup_names : names.Nodup := by decide

theorem name_mem_names (l : Library) : l.name ∈ names := List.mem_map_of_mem (mem_all l)

theorem name_inj {l l' : Library} : l.name = l'.name ↔ l = l' :=
  ⟨fun h => List.inj_on_of_nodup_map nodup_names (mem_all l) (mem_all l') h, congrArg name⟩

theorem trim_name (l : Library) : Text.trim l.name = l.name := by cases l <;> decide

theorem ofName?_eq_some_iff {n : Text} {l : Library} : ofName? n = some l ↔ l.name = n := by
  constructor
  · intro h
    simpa using List.find?_some h
  · rintro rfl
    cases hfound : ofName? l.name with
    | none => simpa using List.find?_eq_none.1 hfound l (mem_all l)
    | some l' =>
      have hname : l'.name = l.name := by simpa using List.find?_some hfound
      rw [name_inj.1 hname]

theorem ofName?_eq_none_iff {n : Text} : ofName? n = none ↔ n ∉ names := by
  simp [ofName?, names]

end Library

namespace Libraries

/-! ## Checking names -/

/-- The first name that is no library's, without the blanks around it. -/
def firstUnknown? (names : List Text) : Option Text :=
  (names.map Text.trim).find? fun n => !Library.names.contains n

/-- The libraries of the names that are known, one for each. -/
def known (names : List Text) : List Library :=
  names.filterMap fun n => Library.ofName? (Text.trim n)

theorem mem_known_iff {names : List Text} {l : Library} :
    l ∈ known names ↔ l.name ∈ names.map Text.trim := by
  simp only [known, List.mem_filterMap, Library.ofName?_eq_some_iff, List.mem_map,
    @eq_comm _ _ l.name]

/-- The check of names answers all their libraries or the first unknown one. -/
theorem mapM_request (names : List Text) : names.mapM request =
    match firstUnknown? names with
    | some n => .error ⟨n⟩
    | none => .ok (known names) := by
  induction names with
  | nil => rfl
  | cons n names ih =>
    rw [List.mapM_cons, ih, request]
    cases hn : Library.ofName? (Text.trim n) with
    | none =>
      have hfirst : firstUnknown? (n :: names) = some (Text.trim n) :=
        List.find?_cons_of_pos (by simpa using Library.ofName?_eq_none_iff.1 hn)
      rw [hfirst]
      rfl
    | some l =>
      have hmem : Text.trim n ∈ Library.names :=
        Library.ofName?_eq_some_iff.1 hn ▸ Library.name_mem_names l
      have hfirst : firstUnknown? (n :: names) = firstUnknown? names :=
        List.find?_cons_of_neg (by simpa using hmem)
      have hknown : known (n :: names) = l :: known names := List.filterMap_cons_some hn
      rw [hfirst, hknown]
      cases firstUnknown? names <;> rfl

theorem ofNames_eq (names : List Text) : ofNames names =
    match firstUnknown? names with
    | some n => .error ⟨n⟩
    | none => .ok (ofRequested (known names)) := by
  rw [ofNames, mapM_request]
  split <;> rfl

theorem ofNames_eq_error_iff {names : List Text} {e : UnknownLibrary} :
    ofNames names = .error e ↔ firstUnknown? names = some e.name := by
  rw [ofNames_eq]
  cases firstUnknown? names with
  | none => simp
  | some n =>
    rw [Except.error.injEq, Option.some.injEq]
    exact ⟨fun h => congrArg UnknownLibrary.name h, fun h => congrArg UnknownLibrary.mk h⟩

/-! ## What is linked -/

/-- The libraries of names: each one that is needed or named is listed once, in link order. -/
structure Lists (names : List Text) (l : Libraries) : Prop where
  ordered : l.names.Sublist Library.names
  mem_iff : ∀ n, n ∈ l.names ↔ n ∈ Library.needed.map Library.name ∨ n ∈ names.map Text.trim

theorem mem_names_iff {l : Libraries} {lib : Library} : lib.name ∈ l.names ↔ lib ∈ l.members := by
  simp [names, Library.name_inj]

theorem names_injective : Function.Injective names := by
  rintro ⟨_⟩ ⟨_⟩ h
  exact congrArg mk (List.map_injective_iff.2 (fun _ _ => Library.name_inj.1) h)

theorem mem_ofRequested_iff {requested : List Library} {lib : Library} :
    lib ∈ (ofRequested requested).members ↔ lib ∈ Library.needed ∨ lib ∈ requested := by
  simp [ofRequested, Library.mem_all]

namespace Lists

variable {names names' : List Text} {l l' : Libraries}

theorem nodup (h : Lists names l) : l.names.Nodup := h.ordered.nodup Library.nodup_names

theorem congr (h : Lists names l) (hsame : ∀ n, n ∈ names'.map Text.trim ↔ n ∈ names.map Text.trim) :
    Lists names' l :=
  ⟨h.ordered, fun n => by rw [h.mem_iff, hsame]⟩

/-- What is linked is determined by the names. -/
theorem unique (h : Lists names l) (h' : Lists names l') : l = l' := by
  have hperm : l.names.Perm l'.names :=
    (List.perm_ext_iff_of_nodup h.nodup h'.nodup).2 fun n => by rw [h.mem_iff, h'.mem_iff]
  have heq : l.names = l'.names :=
    (List.Nodup.perm_iff_eq_of_sublist Library.nodup_names h.ordered h'.ordered).1 hperm
  exact names_injective heq

theorem subset (h : Lists names l) {n : Text} (hn : n ∈ names) : Text.trim n ∈ Library.names :=
  h.ordered.subset ((h.mem_iff _).2 (.inr (List.mem_map_of_mem hn)))

end Lists

theorem firstUnknown?_eq_none_iff {names : List Text} :
    firstUnknown? names = none ↔ ∀ n ∈ names, Text.trim n ∈ Library.names := by
  simp [firstUnknown?]

theorem lists_ofRequested {names : List Text} (h : firstUnknown? names = none) :
    Lists names (ofRequested (known names)) := by
  refine ⟨List.filter_sublist.map _, fun n => ?_⟩
  constructor
  · intro hn
    obtain ⟨lib, hlib, rfl⟩ := List.mem_map.1 hn
    exact (mem_ofRequested_iff.1 hlib).imp List.mem_map_of_mem mem_known_iff.1
  · rintro (hn | hn)
    · obtain ⟨lib, hlib, rfl⟩ := List.mem_map.1 hn
      exact mem_names_iff.2 (mem_ofRequested_iff.2 (.inl hlib))
    · obtain ⟨m, hm, rfl⟩ := List.mem_map.1 hn
      obtain ⟨lib, -, hlib⟩ := List.mem_map.1 (firstUnknown?_eq_none_iff.1 h m hm)
      rw [← hlib] at hn ⊢
      exact mem_names_iff.2 (mem_ofRequested_iff.2 (.inr (mem_known_iff.2 hn)))

/-- **The libraries of names are those that the names list.** -/
theorem ofNames_eq_ok_iff {names : List Text} {l : Libraries} :
    ofNames names = .ok l ↔ Lists names l := by
  rw [ofNames_eq]
  cases hunknown : firstUnknown? names with
  | none =>
    have hlists := lists_ofRequested hunknown
    exact ⟨fun h => Except.ok.inj h ▸ hlists, fun h => congrArg Except.ok (hlists.unique h)⟩
  | some n =>
    refine ⟨nofun, fun h => ?_⟩
    rw [firstUnknown?_eq_none_iff.2 fun n hn => h.subset hn] at hunknown
    cases hunknown

/-! ## Libraries of either of two -/

/-- The libraries of either, in link order. -/
def union (l l' : Libraries) : Libraries :=
  ⟨Library.all.filter fun lib => lib ∈ l.members ∨ lib ∈ l'.members⟩

theorem mem_names_union_iff {l l' : Libraries} {n : Text} :
    n ∈ (l.union l').names ↔ n ∈ l.names ∨ n ∈ l'.names := by
  simp only [names, union, List.mem_map, List.mem_filter, Library.mem_all, true_and,
    decide_eq_true_eq, or_and_right, exists_or]

namespace Lists

variable {names names' : List Text} {l l' : Libraries}

theorem append (h : Lists names l) (h' : Lists names' l') : Lists (names ++ names') (l.union l') := by
  refine ⟨List.filter_sublist.map _, fun n => ?_⟩
  rw [mem_names_union_iff, h.mem_iff, h'.mem_iff, List.map_append, List.mem_append, or_or_or_comm,
    or_self]

/-- The names of what is linked name it. -/
theorem again (h : Lists names l) : Lists l.names l := by
  have htrim : l.names.map Text.trim = l.names := by
    simp [Libraries.names, Library.trim_name]
  refine ⟨h.ordered, fun n => ?_⟩
  rw [htrim, iff_or_self, h.mem_iff]
  exact .inl

end Lists

/-! ## Flags -/

section
variable {w : Nat} (runtime : Library → BitVec w)

theorem getLsbD_foldl (libs : List Library) (start : BitVec w) (i : Nat) :
    (libs.foldl (fun flags lib => flags ||| lib.flag runtime) start).getLsbD i = true ↔
      start.getLsbD i = true ∨ ∃ lib ∈ libs, (lib.flag runtime).getLsbD i = true := by
  induction libs generalizing start with
  | nil => simp
  | cons lib libs ih => simp [ih, or_assoc]

/-- **A flag of a state is a flag of one of its libraries.** -/
theorem getLsbD_flags (l : Libraries) (i : Nat) : (l.flags runtime).getLsbD i = true ↔
    ∃ lib : Library, lib.name ∈ l.names ∧ (lib.flag runtime).getLsbD i = true := by
  rw [flags, getLsbD_foldl]
  simp [mem_names_iff, contains, Library.mem_all]

/-- In the flags of the runtime every library has bits of its own, but for coroutines. -/
structure Separate : Prop where
  ne_zero : ∀ lib : Library, lib ≠ .coroutine → lib.flag runtime ≠ 0#w
  apart : ∀ lib lib' : Library, lib ≠ lib' → lib.flag runtime &&& lib'.flag runtime = 0#w

variable {runtime}

theorem ne_zero_iff {x : BitVec w} : x ≠ 0#w ↔ ∃ i, x.getLsbD i = true := by
  constructor
  · intro h
    refine Classical.byContradiction fun hnone => h (BitVec.eq_of_getLsbD_eq fun i _ => ?_)
    rw [BitVec.getLsbD_zero]
    exact Bool.eq_false_iff.2 fun hi => hnone ⟨i, hi⟩
  · rintro ⟨i, hi⟩ rfl
    rw [BitVec.getLsbD_zero] at hi
    cases hi

/-- **A state is asked for what is linked**, but for coroutines, which it has anyway. -/
theorem mem_asked_iff (hruntime : Separate runtime) {l : Libraries} {lib : Library} :
    lib ∈ Library.asked runtime (l.flags runtime) ↔ lib ≠ .coroutine ∧ lib.name ∈ l.names := by
  rw [Library.asked, List.mem_filter, decide_eq_true_eq, and_iff_right (Library.mem_all lib)]
  constructor
  · intro h
    obtain ⟨i, hi⟩ := ne_zero_iff.1 h
    rw [BitVec.getLsbD_and, Bool.and_eq_true, getLsbD_flags] at hi
    obtain ⟨hbit, lib', hmem, hbit'⟩ := hi
    have hboth : lib.flag runtime &&& lib'.flag runtime ≠ 0#w :=
      ne_zero_iff.2 ⟨i, by rw [BitVec.getLsbD_and, hbit, hbit', Bool.and_self]⟩
    obtain rfl : lib = lib' := Classical.byContradiction fun hne => hboth (hruntime.apart _ _ hne)
    refine ⟨?_, hmem⟩
    rintro rfl
    exact ne_zero_iff.2 ⟨i, hbit⟩ rfl
  · rintro ⟨hlib, hmem⟩
    obtain ⟨i, hi⟩ := ne_zero_iff.1 (hruntime.ne_zero lib hlib)
    refine ne_zero_iff.2 ⟨i, ?_⟩
    rw [BitVec.getLsbD_and, hi, (getLsbD_flags runtime l i).2 ⟨lib, hmem, hi⟩, Bool.and_self]

theorem separate_libraryBit : Separate Lua.libraryBit where
  ne_zero lib := by cases lib <;> decide
  apart lib lib' := by cases lib <;> cases lib' <;> decide

end

/-- **What is linked depends on the set of the requested names only.**  Names are accepted if and
    only if each of them, without the blanks around it, is a library's, and else refused for the
    first one that is not.  Each library that is needed or named is then listed once, in link
    order.  So a list of the same set of names gives the same libraries, the names of libraries give
    these libraries, and one list after the other gives the libraries of either.  The flags of a
    state with the libraries are those of the names together; in a runtime with bits for every
    library they ask for what is listed and for nothing else. -/
theorem ofNames_requested (names : List Text) :
    ((∃ l, ofNames names = .ok l) ↔ ∀ n ∈ names, Text.trim n ∈ Library.names) ∧
    (∀ e, ofNames names = .error e ↔ firstUnknown? names = some e.name) ∧
    ∀ l, ofNames names = .ok l →
      (Lists names l ∧ l.names.Nodup) ∧
      (∀ names', (∀ n, n ∈ names'.map Text.trim ↔ n ∈ names.map Text.trim) →
        ofNames names' = .ok l) ∧
      ofNames l.names = .ok l ∧
      (∀ names' l', ofNames names' = .ok l' → ofNames (names ++ names') = .ok (l.union l')) ∧
      ∀ (w : Nat) (runtime : Library → BitVec w),
        (∀ i, (l.flags runtime).getLsbD i = true ↔
          ∃ lib : Library, lib.name ∈ l.names ∧ (lib.flag runtime).getLsbD i = true) ∧
        (Separate runtime → ∀ lib, lib ∈ Library.asked runtime (l.flags runtime) ↔
          lib ≠ .coroutine ∧ lib.name ∈ l.names) := by
  refine ⟨?_, fun e => ofNames_eq_error_iff, fun l h => ?_⟩
  · constructor
    · rintro ⟨l, h⟩ n hn
      exact (ofNames_eq_ok_iff.1 h).subset hn
    · intro h
      exact ⟨_, ofNames_eq_ok_iff.2 (lists_ofRequested (firstUnknown?_eq_none_iff.2 h))⟩
  · have hlists := ofNames_eq_ok_iff.1 h
    refine ⟨⟨hlists, hlists.nodup⟩, fun names' hsame => ?_, ?_, fun names' l' h' => ?_, ?_⟩
    · exact ofNames_eq_ok_iff.2 (hlists.congr hsame)
    · exact ofNames_eq_ok_iff.2 hlists.again
    · exact ofNames_eq_ok_iff.2 (hlists.append (ofNames_eq_ok_iff.1 h'))
    · intro w runtime
      exact ⟨getLsbD_flags runtime l, fun hruntime _ => mem_asked_iff hruntime⟩

/-- Blanks, repetitions and another order make no difference, and no flag asks for what is not
    listed. -/
theorem ofNames_requested_repeated :
    let names := [" jit".toList, "io".toList, "io ".toList]
    let l : Libraries := ⟨[.table, .io, .os, .string, .package, .jit]⟩
    ofNames names = .ok l ∧
    (∀ n, n ∈ ["io".toList, "jit".toList].map Text.trim ↔ n ∈ names.map Text.trim) ∧
    ofNames ["io".toList, "jit".toList] = .ok l ∧
    ofNames ["math".toList] = .ok .standard ∧
    ofNames (names ++ ["math".toList]) = .ok (l.union .standard) ∧
    Separate Lua.libraryBit ∧
    .jit ∈ Library.asked Lua.libraryBit (l.flags Lua.libraryBit) ∧
    .math ∉ Library.asked Lua.libraryBit (l.flags Lua.libraryBit) := by
  intro names l
  have hok : ofNames names = .ok l := by decide
  have hmath : ofNames ["math".toList] = .ok .standard := by decide
  have hsame : ∀ n, n ∈ ["io".toList, "jit".toList].map Text.trim ↔ n ∈ names.map Text.trim := by
    have htrim : names.map Text.trim = ["jit".toList, "io".toList, "io".toList] := by decide
    have hplain : ["io".toList, "jit".toList].map Text.trim = ["io".toList, "jit".toList] := by decide
    intro n
    rw [htrim, hplain]
    simp [or_comm]
  obtain ⟨-, hsets, -, hjoined, hflags⟩ := (ofNames_requested names).2.2 l hok
  have hasked := (hflags 32 Lua.libraryBit).2 separate_libraryBit
  exact ⟨hok, hsame, hsets _ hsame, hmath, hjoined _ _ hmath, separate_libraryBit,
    (hasked .jit).2 (by decide), fun hmem => absurd ((hasked .math).1 hmem) (by decide)⟩

end Libraries

end Stencil
