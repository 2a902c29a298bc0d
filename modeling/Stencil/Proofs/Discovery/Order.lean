/-
  Paths below a directory, and the order of paths.

  * `p.below names`: the path that leads down from a path along names;
  * `Path.Before p q`: the lexicographic order of paths by their components, in which names come
    behind the other components and are compared by their bytes.

  A name is one component more (`components_join`), so entries in the order of their names
  (`before_of_lt`) and the files below them are in the order of paths.
-/
import Mathlib.Data.List.Lex
import Stencil.Proofs.Files.Directory
import Stencil.Proofs.Files.Tidy

namespace Stencil

/-! ## The order of names -/

namespace Bytes

/-- **`notAfter` is the lexicographic order.** -/
theorem notAfter_iff {a b : Bytes} : notAfter a b = true ↔ a ≤ b := by
  induction a generalizing b with
  | nil => cases b <;> simp [notAfter]
  | cons c a ih =>
    cases b with
    | nil => simp [notAfter]
    | cons d b =>
      rw [notAfter, List.cons_le_cons_iff]
      split
      · next heq =>
        subst heq
        simp [ih]
      · next hne => simp [hne]

theorem notAfter_trans (a b c : Bytes) (h : notAfter a b = true) (h' : notAfter b c = true) :
    notAfter a c = true :=
  notAfter_iff.2 (List.le_trans (notAfter_iff.1 h) (notAfter_iff.1 h'))

theorem notAfter_total (a b : Bytes) : (notAfter a b || notAfter b a) = true := by
  rw [Bool.or_eq_true, notAfter_iff, notAfter_iff]
  exact List.le_total a b

end Bytes

namespace Path

/-! ## Paths below a path -/

/-- The path that leads from a path down along some names. -/
def below (p : Path) (names : List Bytes) : Path := names.foldl (fun p name => p.join ⟨name⟩) p

@[simp] theorem below_nil (p : Path) : p.below [] = p := rfl

@[simp] theorem below_cons (p : Path) (name : Bytes) (names : List Bytes) :
    p.below (name :: names) = (p.join ⟨name⟩).below names := rfl

theorem component?_of_isName {name : Bytes} (h : IsName name) :
    component? name = some (.name name) := by
  rw [component?, if_neg (not_or.2 ⟨h.ne_nil, h.ne_here⟩), if_neg h.ne_up]

/-- **A name is one component more.** -/
theorem components_join (p : Path) {name : Bytes} (h : IsName name) :
    (p.join ⟨name⟩).components = p.components ++ [.name name] := by
  have hhere : (Text.splitOn slash (p.join ⟨name⟩).bytes).head? = some [dot] ↔
      (Text.splitOn slash p.bytes).head? = some [dot] := by
    rw [head?_splitOn_join p h.slash_notMem]
    split
    · next hempty => simp [hempty, h.ne_here, Text.splitOn]
    · rfl
  simp only [components, isAbsolute_join p h.slash_notMem, hhere,
    filterMap_splitOn_join p h.slash_notMem (f := component?) rfl, component?_of_isName h,
    Option.toList_some, List.append_assoc]

theorem components_below (p : Path) {names : List Bytes} (h : ∀ name ∈ names, IsName name) :
    (p.below names).components = p.components ++ names.map .name := by
  induction names generalizing p with
  | nil => simp
  | cons name names ih =>
    obtain ⟨hname, hnames⟩ := List.forall_mem_cons.1 h
    rw [below_cons, ih _ hnames, components_join p hname, List.append_assoc, List.singleton_append,
      List.map_cons]

/-! ## The order of paths -/

/-- The place of a component among those of other kinds. -/
def Component.rank : Component → Nat
  | root => 0
  | here => 1
  | up => 2
  | name _ => 3

/-- The order of components: by their kinds, and names by their bytes. -/
inductive Component.Before : Component → Component → Prop
  | kind {a b} : a.rank < b.rank → Before a b
  | name {m n : Bytes} : m < n → Before (.name m) (.name n)

/-- The lexicographic order of paths by their components. -/
def Before (p q : Path) : Prop := List.Lex Component.Before p.components q.components

theorem Component.not_before_self (a : Component) : ¬ Before a a := by
  intro h
  cases h with
  | kind h => exact Nat.lt_irrefl _ h
  | name h => exact List.lt_irrefl _ h

/-- A path does not stand before itself, in whatever spelling. -/
theorem Before.components_ne {p q : Path} (h : Before p q) : p.components ≠ q.components := by
  intro heq
  rw [Before, heq] at h
  exact List.lex_irrefl Component.not_before_self _ h

/-- **Paths with names in order behind the same start are in order.** -/
theorem before_of_lt {p q : Path} {start rest rest' : List Component} {m n : Bytes} (h : m < n)
    (hp : p.components = start ++ .name m :: rest) (hq : q.components = start ++ .name n :: rest') :
    Before p q := by
  rw [Before, hp, hq]
  exact List.Lex.append_left _ (.rel (.name h)) start

end Path

end Stencil
