/-
  Tables as records and as sequences.

  * `get_set_string`: a field that is written is read back, and no other text key
    changes;
  * `Table.IsSequence t xs`: the table holds the values `xs` under 1, 2, … and nothing
    else. Its array may have room for more of them;
  * `IsSequence.set`: a value put behind the last one continues the sequence: when the
    array is full, the capacity it grows to has room for the new value;
  * `IsSequence.length_eq`: the length is that of the sequence, wherever the array ends.
-/
import Mathlib.Data.List.GetD
import Stencil.Lua.Table

namespace Stencil.Lua

theorem Number.ofInt_natCast {n : Nat} (h : n ≤ wholeLimit) : ofInt n = .whole n := by
  rw [ofInt, Int.natAbs_natCast, if_pos h]

namespace Table

/-! ## Records -/

theorem rawEqual_string {k : Value} {a b : Bytes} (h : k.rawEqual (.string a) = true) :
    k.rawEqual (.string b) = (a == b) := by
  cases k with
  | string s =>
    obtain rfl : s = a := eq_of_beq h
    rfl
  | _ => exact absurd h (by simp [Value.rawEqual])

theorem get_string (t : Table) (key : Bytes) :
    t.get (.string key) =
      ((t.entries.find? (·.1.rawEqual (.string key))).map (·.2)).getD .nil := rfl

/-- The entries after a replacement. -/
theorem find?_replace? {key other : Bytes} {value : Value} {entries entries' : List (Value × Value)}
    (h : replace? (.string key) value entries = some entries') :
    (entries'.find? (·.1.rawEqual (.string other))).map (·.2) =
      if key = other then some value
      else (entries.find? (·.1.rawEqual (.string other))).map (·.2) := by
  induction entries generalizing entries' with
  | nil => exact absurd h (by simp [replace?])
  | cons e rest ih =>
    rw [replace?] at h
    split at h
    · next hkey =>
      obtain rfl := Option.some.inj h
      have hother := rawEqual_string (b := other) hkey
      by_cases heq : key = other
      · simp [hother, heq]
      · simp [hother, heq]
    · next hkey =>
      obtain ⟨rest', hrest, rfl⟩ := Option.map_eq_some_iff.1 h
      by_cases hother : e.1.rawEqual (.string other) = true
      · have hne : key ≠ other := by
          rintro rfl
          exact hkey hother
        simp [hother, hne]
      · simp only [List.find?_cons, hother]
        exact ih hrest

theorem replace?_eq_none {key : Bytes} {value : Value} {entries : List (Value × Value)} :
    replace? (.string key) value entries = none ↔
      entries.find? (·.1.rawEqual (.string key)) = none := by
  induction entries with
  | nil => simp [replace?]
  | cons e rest ih =>
    rw [replace?]
    split
    · next hkey => simp [hkey]
    · next hkey => simp [hkey, ih]

/-- A field that is written is read back, and the other ones do not change. -/
theorem get_set_string (t : Table) (key other : Bytes) (value : Value) :
    (t.set (.string key) value).get (.string other) =
      if key = other then value else t.get (.string other) := by
  have hposition : position? t.array.size (.string key) = none := rfl
  have hinsert : t.insertNew (.string key) value =
      { t with entries := t.entries ++ [(.string key, value)] } := rfl
  rw [set, hposition, hinsert, get_string t]
  dsimp only
  split
  · next entries h =>
    show (((entries.find? (·.1.rawEqual (.string other))).map (·.2)).getD .nil) = _
    rw [find?_replace? h]
    by_cases heq : key = other <;> simp [heq]
  · next h =>
    have habsent := replace?_eq_none.1 h
    by_cases heq : key = other
    · subst heq
      by_cases hnil : value.isNil = true
      · rw [if_pos hnil, get_string, habsent, if_pos rfl]
        cases value <;> first | rfl | exact absurd hnil (by simp [Value.isNil])
      · rw [if_neg hnil, get_string, if_pos rfl, List.find?_append, habsent]
        simp [Value.rawEqual]
    · rw [if_neg heq]
      split
      · rfl
      · rw [get_string, List.find?_append]
        simp [Value.rawEqual, heq]

/-! ## Sequences -/

/-- The position of a positive integer. -/
theorem position?_succ (capacity i : Nat) :
    position? capacity (.number (.whole (i + 1 : Nat))) = if i < capacity then some i else none := by
  rw [position?]
  by_cases hi : i < capacity
  · rw [if_pos hi, if_pos (by omega)]
    exact congrArg some (by omega)
  · rw [if_neg hi, if_neg (by omega)]

/-- The values under 1, 2, …, and nothing else. -/
structure IsSequence (t : Table) (xs : List Value) : Prop where
  array : ∀ i, t.array.getD i .nil = xs.getD i .nil
  room : xs.length ≤ t.array.size
  entries : t.entries = []
  metatable : t.metatable? = none
  /-- No value is missing. -/
  full : ∀ x ∈ xs, x.isNil = false

theorem isSequence_empty : empty.IsSequence [] :=
  ⟨fun _ => rfl, Nat.le_refl _, rfl, rfl, fun _ hx => absurd hx List.not_mem_nil⟩

namespace IsSequence

variable {t : Table} {xs : List Value}

theorem get_of_position?_none (h : t.IsSequence xs) {key : Value}
    (hkey : position? t.array.size key = none) : t.get key = .nil := by
  rw [Table.get, hkey, h.entries]
  rfl

theorem get_whole (h : t.IsSequence xs) (i : Nat) :
    t.get (.number (.whole (i + 1 : Nat))) = xs.getD i .nil := by
  have hposition := position?_succ t.array.size i
  by_cases hi : i < t.array.size
  · rw [if_pos hi] at hposition
    rw [Table.get, hposition]
    exact h.array i
  · rw [if_neg hi] at hposition
    rw [h.get_of_position?_none hposition, List.getD_eq_default _ _ (by have := h.room; omega)]

/-- The value under a positive integer. -/
theorem getInt (h : t.IsSequence xs) (hlimit : xs.length ≤ Number.wholeLimit) (i : Nat) :
    t.getInt (i + 1 : Nat) = xs.getD i .nil := by
  rw [Table.getInt, Value.ofInt]
  by_cases hi : i + 1 ≤ Number.wholeLimit
  · rw [Number.ofInt_natCast hi, h.get_whole]
  · -- An integer without a form of its own is none of the indices.
    have hreal : position? t.array.size (.number (.ofInt (i + 1 : Nat))) = none := by
      rw [Number.ofInt, Int.natAbs_natCast, if_neg hi]
      rfl
    rw [h.get_of_position?_none hreal, List.getD_eq_default _ _ (by omega)]

/-- The values of the sequence are there, and no other ones. -/
theorem isNil_getD (h : t.IsSequence xs) (i : Nat) :
    (xs.getD i .nil).isNil = decide (xs.length ≤ i) := by
  by_cases hi : i < xs.length
  · rw [List.getD_eq_getElem _ _ hi, h.full _ (List.getElem_mem hi)]
    exact (decide_eq_false (Nat.not_le_of_lt hi)).symm
  · rw [List.getD_eq_default _ _ (Nat.le_of_not_lt hi)]
    exact (decide_eq_true (Nat.le_of_not_lt hi)).symm

/-! ### Length -/

/-- Halving ends at the end of the sequence. -/
theorem borderBetween_eq (h : t.IsSequence xs) (hlimit : xs.length ≤ Number.wholeLimit)
    (low high : Nat) (hlow : low ≤ xs.length) (hhigh : xs.length < high) :
    t.borderBetween low high = xs.length := by
  induction low, high using borderBetween.induct t with
  | case1 low high hgap middle hnil ih =>
    rw [borderBetween, if_pos hgap, if_pos hnil]
    obtain ⟨i, hi⟩ := Nat.exists_eq_add_of_le' (show 1 ≤ middle by omega)
    rw [hi, h.getInt hlimit, h.isNil_getD, decide_eq_true_eq] at hnil
    exact ih hlow (by omega)
  | case2 low high hgap middle hsome ih =>
    rw [borderBetween, if_pos hgap, if_neg hsome]
    obtain ⟨i, hi⟩ := Nat.exists_eq_add_of_le' (show 1 ≤ middle by omega)
    rw [hi, h.getInt hlimit, h.isNil_getD, decide_eq_true_eq] at hsome
    exact ih (by omega) hhigh
  | case3 low high hgap =>
    rw [borderBetween, if_neg hgap]
    omega

/-- The length is that of the sequence. -/
theorem length_eq (h : t.IsSequence xs) (hlimit : xs.length ≤ Number.wholeLimit) :
    t.length = xs.length := by
  have hroom := h.room
  rw [Table.length]
  by_cases hfull : xs.length = t.array.size
  · have hlast : ¬(t.array.size > 0 && (t.array.getD (t.array.size - 1) .nil).isNil) = true := by
      rw [h.array, h.isNil_getD]
      simp only [gt_iff_lt, Bool.and_eq_true, decide_eq_true_eq, not_and]
      omega
    simp only [hlast, h.entries]
    exact hfull.symm
  · have hlast : (t.array.size > 0 && (t.array.getD (t.array.size - 1) .nil).isNil) = true := by
      rw [h.array, h.isNil_getD]
      simp only [gt_iff_lt, Bool.and_eq_true, decide_eq_true_eq]
      omega
    simp only [hlast]
    exact h.borderBetween_eq hlimit 0 _ (Nat.zero_le _) (by omega)

end IsSequence

/-! ### Growth -/

theorem twoTo_succ (b : Nat) : Text.twoTo (b + 1) = 2 * Text.twoTo b := by
  show 2 ^ (b + 1) = 2 * 2 ^ b
  rw [Nat.pow_succ, Nat.mul_comm]

/-- Looking at larger powers never gives a smaller capacity. -/
theorem le_go (keys : List Nat) (n b best : Nat) (hbest : best ≤ Text.twoTo b) :
    best ≤ fittingCapacity.go keys n b best := by
  induction n generalizing b best with
  | zero => exact Nat.le_refl _
  | succ n ih =>
    have hnext := twoTo_succ b
    rw [fittingCapacity.go]
    split
    · exact Nat.le_trans (by omega) (ih (b + 1) _ (Nat.le_refl _))
    · exact ih (b + 1) best (by omega)

/-- A power that is more than a quarter used, with a key of its own, is reached. -/
theorem twoTo_le_go {keys : List Nat} {c : Nat}
    (hnew : keys.any (fun k => k ≤ Text.twoTo (c + 1) && (c == 0 || k > Text.twoTo c)) = true)
    (hused : Text.twoTo c < 2 * (keys.filter (· ≤ Text.twoTo (c + 1))).length)
    (n b best : Nat) (hbest : best ≤ Text.twoTo b) (hb : b ≤ c) (hc : c < b + n) :
    Text.twoTo (c + 1) ≤ fittingCapacity.go keys n b best := by
  induction n generalizing b best with
  | zero => omega
  | succ n ih =>
    have hnext := twoTo_succ b
    rw [fittingCapacity.go]
    rcases Nat.eq_or_lt_of_le hb with rfl | hb
    · rw [hnew, if_pos (by simpa using hused)]
      exact le_go keys n _ _ (Nat.le_refl _)
    · refine ih (b + 1) _ ?_ hb (by omega)
      split <;> omega

/-- The capacity that fits the keys 1, …, `m` has room for all of them. -/
theorem le_fittingCapacity {keys : List Nat} {m : Nat} (hm : 0 < m) (hlength : keys.length = m)
    (hmem : m ∈ keys) (hle : ∀ k ∈ keys, k ≤ m) : m ≤ fittingCapacity keys := by
  obtain ⟨c, hlow, hhigh⟩ : ∃ c, (c = 0 ∨ Text.twoTo c < m) ∧ m ≤ Text.twoTo (c + 1) := by
    by_cases hone : m = 1
    · exact ⟨0, .inl rfl, by subst hone; decide⟩
    · refine ⟨Nat.log2 (m - 1), .inr ?_, ?_⟩
      · have := Nat.log2_self_le (show m - 1 ≠ 0 by omega)
        show 2 ^ _ < m
        omega
      · have := Nat.lt_log2_self (n := m - 1)
        show m ≤ 2 ^ _
        omega
  have hall : keys.filter (· ≤ Text.twoTo (c + 1)) = keys :=
    List.filter_eq_self.2 fun k hk => decide_eq_true (Nat.le_trans (hle k hk) hhigh)
  have hnew : keys.any (fun k => k ≤ Text.twoTo (c + 1) && (c == 0 || k > Text.twoTo c)) = true := by
    refine List.any_eq_true.2 ⟨m, hmem, ?_⟩
    simpa [hhigh] using hlow
  have hused : Text.twoTo c < 2 * (keys.filter (· ≤ Text.twoTo (c + 1))).length := by
    rw [hall, hlength]
    rcases hlow with rfl | hlow
    · show 1 < 2 * m
      omega
    · omega
  refine Nat.le_trans hhigh (twoTo_le_go hnew hused _ 0 0 (Nat.zero_le _) (Nat.zero_le _) ?_)
  -- No power beyond twice the number of keys is needed.
  have hc : c ≤ Nat.log2 (2 * keys.length) := by
    refine (Nat.le_log2 (by omega)).2 ?_
    rcases hlow with rfl | hlow
    · omega
    · have hlow' : 2 ^ c < m := hlow
      omega
  omega

namespace IsSequence

variable {t : Table} {xs : List Value}

/-- A position behind the array holds nothing. -/
theorem get_ofNat_of_le (h : t.IsSequence xs) {i : Nat} (hi : t.array.size ≤ i) :
    t.get (.ofNat (i + 1)) = .nil := by
  refine h.get_of_position?_none ?_
  rw [Value.ofNat, Number.ofNat, Number.ofInt, Int.natAbs_natCast]
  split
  · exact (position?_succ _ i).trans (if_neg (Nat.not_lt_of_le hi))
  · rfl

/-- Room for more values does not change the sequence. -/
theorem reserve (h : t.IsSequence xs) (capacity : Nat) : (t.reserve capacity).IsSequence xs := by
  rw [Table.reserve]
  split
  · exact h
  · next hsize =>
    have hroom := h.room
    refine ⟨fun i => ?_, ?_, ?_, h.metatable, h.full⟩
    · simp only [Array.getD_eq_getD_getElem?, List.getElem?_toArray, List.getElem?_map]
      by_cases hi : i < capacity
      · rw [List.getElem?_range hi]
        by_cases hin : i < t.array.size
        · rw [← h.array, Array.getD_eq_getD_getElem?, Array.getElem?_eq_getElem hin]
          exact dif_pos hin
        · rw [List.getD_eq_default _ _ (by omega), ← h.get_ofNat_of_le (Nat.le_of_not_lt hin)]
          exact dif_neg hin
      · rw [List.getElem?_eq_none (by simpa using hi), List.getD_eq_default _ _ (by omega)]
        rfl
    · simp only [List.size_toArray, List.length_map, List.length_range]
      omega
    · rw [h.entries]
      rfl

theorem le_size_reserve (t : Table) (capacity : Nat) :
    capacity ≤ (t.reserve capacity).array.size := by
  rw [Table.reserve]
  split
  · assumption
  · simp

/-- A value behind the last one, where there is room for it. -/
theorem put (h : t.IsSequence xs) (hroom : xs.length < t.array.size) {v : Value}
    (hv : v.isNil = false) :
    IsSequence { t with array := t.array.setIfInBounds xs.length v } (xs ++ [v]) := by
  refine ⟨fun i => ?_, ?_, h.entries, h.metatable, fun x hx => ?_⟩
  · have harray := h.array i
    rw [Array.getD_eq_getD_getElem?] at harray ⊢
    rcases Nat.lt_trichotomy i xs.length with hi | rfl | hi
    · rw [Array.getElem?_setIfInBounds_ne (Nat.ne_of_gt hi), List.getD_append _ _ _ _ hi]
      exact harray
    · rw [Array.getElem?_setIfInBounds_self_of_lt hroom]
      simp
    · rw [Array.getElem?_setIfInBounds_ne (Nat.ne_of_lt hi), harray,
        List.getD_eq_default _ _ (Nat.le_of_lt hi),
        List.getD_eq_default _ _ (by simpa using Nat.succ_le_of_lt hi)]
  · simpa using Nat.succ_le_of_lt hroom
  · rcases List.mem_append.1 hx with hx | hx
    · exact h.full x hx
    · rw [List.mem_singleton.1 hx, hv]

/-- The integer keys of a full array. -/
theorem integerKeys_eq (h : t.IsSequence xs) (hfull : xs.length = t.array.size) :
    t.integerKeys = (List.range xs.length).map (· + 1) := by
  have hfilter : (List.range t.array.size).filter (fun i => !(t.array.getD i .nil).isNil) =
      List.range t.array.size := by
    refine List.filter_eq_self.2 fun i hi => ?_
    rw [h.array, h.isNil_getD]
    simpa [hfull] using hi
  rw [integerKeys, hfilter, h.entries, hfull, List.filterMap_nil, List.append_nil]

/-- A value behind the last one. -/
theorem set (h : t.IsSequence xs) {v : Value} (hv : v.isNil = false) :
    (t.set (.number (.whole (xs.length + 1 : Nat))) v).IsSequence (xs ++ [v]) := by
  have hroom := h.room
  have hposition := position?_succ t.array.size xs.length
  by_cases hspace : xs.length < t.array.size
  · rw [if_pos hspace] at hposition
    rw [Table.set, hposition]
    exact h.put hspace hv
  · -- The array grows to the capacity that fits the keys with the new one.
    let keys := ((xs.length + 1 : Nat) : Int).toNat :: t.integerKeys
    have hkeys := h.integerKeys_eq (by omega)
    have hfits : xs.length + 1 ≤ fittingCapacity keys := by
      refine le_fittingCapacity (Nat.succ_pos _) ?_ List.mem_cons_self fun k hk => ?_
      · simp [keys, hkeys]
      · simp only [keys, hkeys, List.mem_cons, List.mem_map, List.mem_range] at hk
        omega
    have hgrown := le_size_reserve t (fittingCapacity keys)
    rw [if_neg hspace] at hposition
    have hset : t.set (.number (.whole (xs.length + 1 : Nat))) v =
        t.insertNew (.number (.whole (xs.length + 1 : Nat))) v := by
      rw [Table.set, hposition, h.entries, replace?, hv]
      rfl
    have hposition' := position?_succ (t.reserve (fittingCapacity keys)).array.size xs.length
    rw [if_pos (by omega)] at hposition'
    rw [hset, insertNew]
    simp only [show (0 : Int) < (xs.length + 1 : Nat) by omega, if_true]
    rw [hposition']
    exact (h.reserve _).put (Nat.lt_of_succ_le (Nat.le_trans hfits hgrown)) hv

end IsSequence

end Table

end Stencil.Lua
