/-
  The names of output files are distinct.

  Two names of one template with different numbers differ in lower case: behind the stem, which
  takes up as much space for all numbers (`lowerWidth`), one has the number and the other has
  another one, or none.  So of one more names than there are taken ones, one is free
  (`lower_firstFree_notMem`).

  Main statement: the output names of templates are distinct, the case of letters aside
  (`nodup_lower_outputNames`), and plain if the extension is (`slash_notMem_outputNames`).
-/
import Mathlib.Data.List.Nodup
import Mathlib.Data.List.Perm.Subperm
import Stencil.Naming
import Stencil.Proofs.Files.Directory

namespace Stencil

/-! ## Lower case -/

namespace Text

/-- The number of characters of a text in lower case. -/
def lowerWidth : Text → Nat
  | [] => 0
  | c :: t => (if c = 'İ' then 2 else 1) + lowerWidth t

theorem lowerWidth_append (t u : Text) : lowerWidth (t ++ u) = lowerWidth t + lowerWidth u := by
  induction t with
  | nil => simp [lowerWidth]
  | cons c t ih => simp [lowerWidth, ih, Nat.add_assoc]

theorem length_lowerFrom (before t : Text) : (lowerFrom before t).length = lowerWidth t := by
  induction t generalizing before with
  | nil => rfl
  | cons c t ih =>
    rw [lowerFrom, List.length_append, ih, lowerWidth]
    by_cases hsigma : c = 'Σ'
    · subst hsigma
      simp
    · by_cases hdotted : c = 'İ'
      · simp [hdotted]
      · simp [hsigma, hdotted]

/-- Behind a part of a text its lower case goes on with that of the rest. -/
theorem drop_lowerFrom (before t u : Text) :
    (lowerFrom before (t ++ u)).drop (lowerWidth t) = lowerFrom (t.reverse ++ before) u := by
  have hsplit : ∃ start, start.length = lowerWidth t ∧
      lowerFrom before (t ++ u) = start ++ lowerFrom (t.reverse ++ before) u := by
    induction t generalizing before with
    | nil => exact ⟨[], rfl, rfl⟩
    | cons c t ih =>
      obtain ⟨start, hlength, hstart⟩ := ih (c :: before)
      have hrest : (c :: t).reverse ++ before = t.reverse ++ c :: before := by simp
      rw [hrest, List.cons_append, lowerFrom, hstart, ← List.append_assoc]
      refine ⟨_, ?_, rfl⟩
      -- all that stands before the rest has the width of the part
      have htotal := length_lowerFrom before (c :: t ++ u)
      rw [List.cons_append, lowerFrom, hstart, ← List.append_assoc, List.length_append,
        length_lowerFrom, ← List.cons_append, lowerWidth_append] at htotal
      omega
  obtain ⟨start, hlength, hstart⟩ := hsplit
  rw [hstart, ← hlength, List.drop_left]

/-- A character that is no letter stays as it is. -/
theorem lowerFrom_plain {c : Char} (h : c = '.' ∨ c.isDigit = true) (before t : Text) :
    lowerFrom before (c :: t) = c :: lowerFrom (c :: before) t := by
  have hplain : ∀ c : Char, c.toNat < 0x41 → c ≠ 'Σ' ∧ c ≠ 'İ' ∧ lowerChar c = c := by
    intro c hc
    refine ⟨by rintro rfl; exact absurd hc (by decide), by rintro rfl; exact absurd hc (by decide),
      ?_⟩
    have hnone : lowerRanges.find? (fun r => r.first ≤ c.toNat && c.toNat ≤ r.last &&
        (c.toNat - r.first) % r.step == 0) = none := by
      have hranges : ∀ r ∈ lowerRanges, 0x41 ≤ r.first := by decide +kernel
      rw [List.find?_eq_none]
      intro r hr
      have := hranges r hr
      simp only [Bool.and_eq_true, decide_eq_true_eq, beq_iff_eq, not_and]
      omega
    rw [lowerChar, hnone]
  have hsmall : c.toNat < 0x41 := by
    rcases h with rfl | h
    · decide
    · simp only [Char.isDigit, Bool.and_eq_true, decide_eq_true_eq] at h
      have : c.val.toNat ≤ 57 := h.2
      show c.val.toNat < 65
      omega
  obtain ⟨hsigma, hdotted, hchar⟩ := hplain c hsmall
  rw [lowerFrom, if_neg hsigma, if_neg hdotted, hchar]
  rfl

theorem isDigit_of_mem_number {n : Nat} {c : Char} (h : c ∈ number n) : c.isDigit = true :=
  Nat.isDigit_of_mem_toDigits (by decide) (by decide) h

theorem number_injective : Function.Injective number := by
  intro m n h
  have hread := congrArg (Nat.ofDigitChars 10 · 0) h
  simpa [number, Nat.ofDigitChars_ten_toDigits] using hread

theorem lowerFrom_digits {digits : Text} (h : ∀ c ∈ digits, c.isDigit = true) (before t : Text) :
    ∃ before', lowerFrom before (digits ++ t) = digits ++ lowerFrom before' t := by
  induction digits generalizing before with
  | nil => exact ⟨before, rfl⟩
  | cons c digits ih =>
    obtain ⟨before', hbefore'⟩ := ih (fun c hc => h c (List.mem_cons_of_mem _ hc)) (c :: before)
    refine ⟨before', ?_⟩
    rw [List.cons_append, lowerFrom_plain (Or.inr (h c List.mem_cons_self)), hbefore',
      List.cons_append]

end Text

/-! ## Names -/

namespace Naming

variable {template : Path} {extension : Text} {taken : List Text}

/-- What follows the stem and the first dot of a name. -/
def ending (number : Nat) (extension : Text) : Text :=
  if number = 0 then extension else Text.number number ++ '.' :: extension

theorem outputName_eq (template : Path) (number : Nat) (extension : Text) :
    outputName template number extension =
      template.stem?.getD [] ++ '.' :: ending number extension := by
  rw [outputName, ending]
  split
  · rfl
  · simp

/-- Different numbers give names that differ in lower case. -/
theorem lower_outputName_injective (template : Path) (extension : Text) :
    Function.Injective fun number => Text.lower (outputName template number extension) := by
  intro m n h
  set stem := template.stem?.getD [] with hstem
  -- behind the stem and the dot, both names go on in the same way
  have hends : ∃ before, Text.lowerFrom before (ending m extension) =
      Text.lowerFrom before (ending n extension) := by
    refine ⟨'.' :: (stem.reverse ++ []), ?_⟩
    have hdrop := congrArg (List.drop (Text.lowerWidth stem)) h
    simp only [Text.lower, outputName_eq, ← hstem, Text.drop_lowerFrom] at hdrop
    rw [Text.lowerFrom_plain (Or.inl rfl), Text.lowerFrom_plain (Or.inl rfl)] at hdrop
    exact (List.cons.inj hdrop).2
  obtain ⟨before, hends⟩ := hends
  have hlength := congrArg List.length hends
  rw [Text.length_lowerFrom, Text.length_lowerFrom] at hlength
  have hwidth : ∀ k, Text.lowerWidth (Text.number k ++ '.' :: extension) =
      Text.lowerWidth (Text.number k) + 1 + Text.lowerWidth extension := by
    intro k
    rw [Text.lowerWidth_append]
    simp [Text.lowerWidth, Nat.add_assoc]
  by_cases hm : m = 0
  · by_cases hn : n = 0
    · rw [hm, hn]
    · rw [ending, ending, if_pos hm, if_neg hn, hwidth] at hlength
      omega
  · by_cases hn : n = 0
    · rw [ending, ending, if_neg hm, if_pos hn, hwidth] at hlength
      omega
    · -- the numbers end at the first dot
      have hnumber : ∀ k, k ≠ 0 →
          (Text.lowerFrom before (ending k extension)).takeWhile (· ≠ '.') = Text.number k := by
        intro k hk
        obtain ⟨before', hk'⟩ := Text.lowerFrom_digits (fun c => Text.isDigit_of_mem_number (n := k))
          before ('.' :: extension)
        rw [ending, if_neg hk, hk', Text.lowerFrom_plain (Or.inl rfl),
          List.takeWhile_append_of_pos]
        · simp
        · intro c hc
          have hdigit := Text.isDigit_of_mem_number hc
          simp only [ne_eq, decide_eq_true_eq]
          rintro rfl
          exact absurd hdigit (by decide)
      apply Text.number_injective
      rw [← hnumber m hm, ← hnumber n hn, hends]

/-- If no free name is found, the names of all numbers that were tried are taken. -/
theorem lower_mem_of_firstFree {n fuel : Nat}
    (h : Text.lower (outputName template (firstFree template extension taken n fuel) extension) ∈
      taken) :
    ∀ i ≤ fuel, Text.lower (outputName template (n + i) extension) ∈ taken := by
  induction fuel generalizing n with
  | zero =>
    intro i hi
    obtain rfl := Nat.le_zero.1 hi
    exact h
  | succ fuel ih =>
    rw [firstFree] at h
    split at h
    · next hn =>
      intro i hi
      cases i with
      | zero => exact hn
      | succ i =>
        have := ih h i (Nat.le_of_succ_le_succ hi)
        rwa [Nat.add_right_comm] at this
    · next hn => exact absurd h hn

/-- **The name that is chosen is free.** -/
theorem lower_firstFree_notMem (template : Path) (extension : Text) (taken : List Text) (n : Nat) :
    Text.lower (outputName template
      (firstFree template extension taken n taken.length) extension) ∉ taken := by
  intro h
  -- one more name than there are taken ones
  let tried := (List.range (taken.length + 1)).map fun i =>
    Text.lower (outputName template (n + i) extension)
  have hnodup : tried.Nodup := by
    refine List.Nodup.map ?_ List.nodup_range
    intro i j hij
    have := lower_outputName_injective template extension hij
    omega
  have hsubset : tried ⊆ taken := by
    intro name hname
    obtain ⟨i, hi, rfl⟩ := List.mem_map.1 hname
    exact lower_mem_of_firstFree h i (Nat.le_of_lt_succ (List.mem_range.1 hi))
  have hlength := (hnodup.subperm hsubset).length_le
  rw [List.length_map, List.length_range] at hlength
  exact absurd hlength (Nat.not_succ_le_self _)

theorem nodup_lower_namesFrom (extension : Text) (given : List (Text × Nat)) (taken : List Text)
    (templates : List Path) :
    ((namesFrom extension given taken templates).map Text.lower).Nodup ∧
      ∀ name ∈ namesFrom extension given taken templates, Text.lower name ∉ taken := by
  induction templates generalizing given taken with
  | nil => simp [namesFrom]
  | cons template rest ih =>
    rw [namesFrom]
    obtain ⟨hnodup, hfree⟩ := ih _ _
    refine ⟨?_, ?_⟩
    · rw [List.map_cons, List.nodup_cons]
      refine ⟨fun hmem => ?_, hnodup⟩
      obtain ⟨name, hname, heq⟩ := List.mem_map.1 hmem
      exact hfree name hname (heq ▸ List.mem_cons_self)
    · intro name hname
      rcases List.mem_cons.1 hname with rfl | hname
      · exact lower_firstFree_notMem _ _ _ _
      · exact fun hmem => hfree name hname (List.mem_cons_of_mem _ hmem)

/-- **The output names are distinct, the case of letters aside.** -/
theorem nodup_lower_outputNames (templates : List Path) (extension : Text) :
    ((outputNames templates extension).map Text.lower).Nodup :=
  (nodup_lower_namesFrom extension [] [] templates).1

theorem length_namesFrom (extension : Text) (given : List (Text × Nat)) (taken : List Text)
    (templates : List Path) :
    (namesFrom extension given taken templates).length = templates.length := by
  induction templates generalizing given taken with
  | nil => rfl
  | cons template rest ih => rw [namesFrom, List.length_cons, ih, List.length_cons]

/-! ## Plain names -/

theorem exists_outputName_of_mem {given : List (Text × Nat)} {templates : List Path} {name : Text}
    (h : name ∈ namesFrom extension given taken templates) :
    ∃ template number, name = outputName template number extension := by
  induction templates generalizing given taken with
  | nil => cases h
  | cons template rest ih =>
    rw [namesFrom] at h
    rcases List.mem_cons.1 h with rfl | h
    · exact ⟨_, _, rfl⟩
    · exact ih h

theorem slash_notMem_outputName (h : '/' ∉ extension) (template : Path) (number : Nat) :
    '/' ∉ outputName template number extension := by
  have hstem : '/' ∉ template.stem?.getD [] := by
    cases hstem : template.stem? with
    | none => exact List.not_mem_nil
    | some stem => exact Path.slash_notMem_of_stem? hstem
  have hending : '/' ∉ ending number extension := by
    rw [ending]
    split
    · exact h
    · simp only [List.mem_append, List.mem_cons, not_or]
      refine ⟨fun hslash => ?_, by decide, h⟩
      exact absurd (Text.isDigit_of_mem_number hslash) (by decide)
  rw [outputName_eq]
  simp only [List.mem_append, List.mem_cons, not_or]
  exact ⟨hstem, by decide, hending⟩

/-- **Output names name files of one directory**, if the extension does. -/
theorem slash_notMem_outputNames (h : '/' ∉ extension) {templates : List Path} {name : Text}
    (hname : name ∈ outputNames templates extension) : '/' ∉ name ∧ name ≠ [] := by
  obtain ⟨template, number, rfl⟩ := exists_outputName_of_mem hname
  refine ⟨slash_notMem_outputName h template number, ?_⟩
  rw [outputName_eq]
  simp

end Naming

end Stencil
