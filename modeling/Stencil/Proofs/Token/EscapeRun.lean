/-
  Runs of backslashes in a text, and the markers that they stand before.

  * `trailing t` is the length of the run at the end of `t`;
  * `AtMarkers m P t`: every occurrence of the two characters `m` in `t` stands
    directly after a run whose length satisfies `P`;
  * `mapRuns m inner last` changes the length of every run directly before an
    occurrence of `m` by `inner`, and that of the run at the end by `last`.

  Main statements: changing the runs twice is changing them once by the composed
  functions (`mapRuns_mapRuns`), and `mapRuns` moves `AtMarkers` and `trailing`
  through the change (`atMarkers_mapRuns`, `trailing_mapRuns`).  `release` is the
  change of the run at the end by `halved` (`release_reverse`).
-/
import Stencil.Token

namespace Stencil.Token

/-- The number of backslashes at the end of a text. -/
def trailing (t : Text) : Nat := escapes t.reverse

/-- What is left of a run of `n` backslashes that loses half of them, rounded down. -/
def halved (n : Nat) : Nat := n - n / 2

/-- Every occurrence of `m` stands directly after a run of backslashes whose length
    satisfies `P`. -/
def AtMarkers (m : Char × Char) (P : Nat → Prop) (t : Text) : Prop :=
  ∀ before after, t = before ++ m.1 :: m.2 :: after → P (trailing before)

/-- The text that follows `k` backslashes, together with them, where every run of `n`
    backslashes directly before an occurrence of `m` has become one of `inner n`, and
    the run of `n` at the end one of `last n`. -/
def mapRuns (m : Char × Char) (inner last : Nat → Nat) : Nat → Text → Text
  | k, [] => List.replicate (last k) '\\'
  | k, c :: rest =>
    if c = '\\' then mapRuns m inner last (k + 1) rest
    else List.replicate (if m.1 = c ∧ rest.head? = some m.2 then inner k else k) '\\' ++
      c :: mapRuns m inner last 0 rest

/-! ## The run at the end -/

theorem escapes_replicate (k : Nat) {held : Text} (h : held.head? ≠ some '\\') :
    escapes (List.replicate k '\\' ++ held) = k := by
  have hstop : held.takeWhile (· = '\\') = [] := by
    cases held with
    | nil => rfl
    | cons c held => simp_all
  rw [escapes, List.takeWhile_append_of_pos (by simp), hstop]
  simp

/-- A character that is no backslash ends the run before it. -/
theorem escapes_append_cons {c : Char} (hc : c ≠ '\\') (held base : Text) :
    escapes (held ++ c :: base) = escapes held := by
  induction held with
  | nil => simp [escapes, hc]
  | cons d held ih =>
    simp only [escapes, List.cons_append, List.takeWhile_cons] at ih ⊢
    split
    · simp only [List.length_cons, ih]
    · rfl

theorem escapes_le_length (held : Text) : escapes held ≤ held.length :=
  (List.takeWhile_sublist _).length_le

@[simp] theorem trailing_replicate (k : Nat) : trailing (List.replicate k '\\') = k := by
  have h : escapes (List.replicate k '\\' ++ []) = k := escapes_replicate k (by simp)
  simpa [trailing] using h

theorem trailing_append_cons {c : Char} (hc : c ≠ '\\') (t rest : Text) :
    trailing (t ++ c :: rest) = trailing rest := by
  simp only [trailing, List.reverse_append, List.reverse_cons, List.append_assoc,
    List.singleton_append]
  exact escapes_append_cons hc _ _

/-- A text ends with a backslash when the run at its end is not empty. -/
theorem trailing_pos_iff (t : Text) : 0 < trailing t ↔ t.getLast? = some '\\' := by
  rw [← List.head?_reverse, trailing]
  cases t.reverse with
  | nil => simp [escapes]
  | cons c held => by_cases hc : c = '\\' <;> simp [escapes, hc]

theorem release_replicate (k : Nat) {held : Text} (h : held.head? ≠ some '\\') :
    release (List.replicate k '\\' ++ held) = List.replicate (halved k) '\\' ++ held := by
  rw [release, escapes_replicate k h, List.drop_append_of_le_length (by simp; omega),
    List.drop_replicate, halved]

theorem release_append_cons {c : Char} (hc : c ≠ '\\') (held base : Text) :
    release (held ++ c :: base) = release held ++ c :: base := by
  have hle := escapes_le_length held
  rw [release, escapes_append_cons hc, List.drop_append_of_le_length (by omega), release]

/-! ## Occurrences of a marker -/

section
variable {m : Char × Char} {P Q : Nat → Prop}

theorem AtMarkers.mono (hPQ : ∀ n, P n → Q n) {t : Text} (h : AtMarkers m P t) :
    AtMarkers m Q t := fun before after ht => hPQ _ (h before after ht)

theorem atMarkers_replicate (h₁ : m.1 ≠ '\\') (k : Nat) :
    AtMarkers m P (List.replicate k '\\') := by
  intro before after ht
  have hm : m.1 ∈ List.replicate k '\\' := by rw [ht]; simp
  exact absurd (List.eq_of_mem_replicate hm) h₁

/-- The first occurrence after a run is at the run's end, or comes later. -/
theorem atMarkers_replicate_cons (h₁ : m.1 ≠ '\\') {c : Char} (hc : c ≠ '\\') (k : Nat)
    (rest : Text) :
    AtMarkers m P (List.replicate k '\\' ++ c :: rest) ↔
      (m.1 = c ∧ rest.head? = some m.2 → P k) ∧ AtMarkers m P rest := by
  constructor
  · intro h
    refine ⟨?_, fun before after hrest => ?_⟩
    · rintro ⟨rfl, hhead⟩
      obtain ⟨after, rfl⟩ := List.head?_eq_some_iff.1 hhead
      simpa using h _ after rfl
    · have := h (List.replicate k '\\' ++ c :: before) after (by rw [hrest]; simp)
      rwa [trailing_append_cons hc] at this
  · rintro ⟨hfirst, hlater⟩ before after ht
    rcases List.append_eq_append_iff.1 ht with ⟨mid, hbefore, hmid⟩ | ⟨mid, hrun, hmid⟩
    · cases mid with
      | nil =>
        simp only [List.nil_append, List.cons.injEq] at hmid
        obtain ⟨rfl, rfl⟩ := hmid
        rw [hbefore, List.append_nil, trailing_replicate]
        exact hfirst ⟨rfl, rfl⟩
      | cons d mid =>
        simp only [List.cons_append, List.cons.injEq] at hmid
        obtain ⟨rfl, hmid⟩ := hmid
        rw [hbefore, trailing_append_cons hc]
        exact hlater mid after hmid
    · cases mid with
      | nil =>
        simp only [List.nil_append, List.cons.injEq] at hmid
        obtain ⟨rfl, rfl⟩ := hmid
        rw [List.append_nil] at hrun
        rw [← hrun, trailing_replicate]
        exact hfirst ⟨rfl, rfl⟩
      | cons d mid =>
        -- the occurrence cannot begin inside the run
        have hd : d ∈ List.replicate k '\\' := by rw [hrun]; simp
        simp only [List.cons_append, List.cons.injEq] at hmid
        exact absurd (hmid.1.trans (List.eq_of_mem_replicate hd)) h₁

end

/-! ## Changing the runs -/

section
variable {m : Char × Char} {f g : Nat → Nat}

@[simp] theorem mapRuns_nil (k : Nat) : mapRuns m f g k [] = List.replicate (g k) '\\' := rfl

@[simp] theorem mapRuns_backslash (k : Nat) (rest : Text) :
    mapRuns m f g k ('\\' :: rest) = mapRuns m f g (k + 1) rest := by
  rw [mapRuns, if_pos rfl]

theorem mapRuns_cons {c : Char} (hc : c ≠ '\\') (k : Nat) (rest : Text) :
    mapRuns m f g k (c :: rest) =
      List.replicate (if m.1 = c ∧ rest.head? = some m.2 then f k else k) '\\' ++
        c :: mapRuns m f g 0 rest := by
  rw [mapRuns, if_neg hc]

/-- The backslashes before the text may as well be a part of it. -/
theorem mapRuns_replicate (n k : Nat) (t : Text) :
    mapRuns m f g k (List.replicate n '\\' ++ t) = mapRuns m f g (k + n) t := by
  induction n generalizing k with
  | zero => rfl
  | succ n ih =>
    rw [List.replicate_succ, List.cons_append, mapRuns_backslash, ih]
    congr 1; omega

/-- A run in the middle of a text, seen as a run before the rest of it. -/
theorem replicate_cons_backslash (k : Nat) (rest : Text) :
    List.replicate k '\\' ++ '\\' :: rest = List.replicate (k + 1) '\\' ++ rest := by
  rw [List.replicate_succ', List.append_assoc, List.singleton_append]

theorem mapRuns_id (k : Nat) (t : Text) :
    mapRuns m id id k t = List.replicate k '\\' ++ t := by
  induction t generalizing k with
  | nil => simp
  | cons c rest ih =>
    by_cases hc : c = '\\'
    · subst hc
      rw [mapRuns_backslash, ih, replicate_cons_backslash]
    · rw [mapRuns_cons hc, ih, id_eq, ite_self]
      simp

/-- Without markers the runs before them do not matter. -/
theorem mapRuns_of_no_marker {t : Text} (h : ¬ [m.1, m.2] <:+: t) (k : Nat)
    (hlast : g (trailing (List.replicate k '\\' ++ t)) = trailing (List.replicate k '\\' ++ t)) :
    mapRuns m f g k t = List.replicate k '\\' ++ t := by
  induction t generalizing k with
  | nil =>
    rw [List.append_nil, trailing_replicate] at hlast
    rw [mapRuns_nil, hlast, List.append_nil]
  | cons c rest ih =>
    have hrest : ¬ [m.1, m.2] <:+: rest := fun hin => h (hin.trans (List.suffix_cons c rest).isInfix)
    by_cases hc : c = '\\'
    · subst hc
      rw [replicate_cons_backslash] at hlast ⊢
      rw [mapRuns_backslash, ih hrest _ hlast]
    · have hm : ¬ (m.1 = c ∧ rest.head? = some m.2) := by
        rintro ⟨rfl, hhead⟩
        obtain ⟨tail, rfl⟩ := List.head?_eq_some_iff.1 hhead
        exact h ⟨[], tail, rfl⟩
      rw [trailing_append_cons hc] at hlast
      rw [mapRuns_cons hc, if_neg hm, ih hrest 0 hlast]
      rfl

/-- Changing the runs by functions that agree is the same change. -/
theorem mapRuns_congr {f' g' : Nat → Nat} (hf : ∀ n, f n = f' n) (hg : ∀ n, g n = g' n)
    (k : Nat) (t : Text) : mapRuns m f g k t = mapRuns m f' g' k t := by
  rw [funext hf, funext hg]

theorem head?_mapRuns_pos (hf : ∀ n, f n = 0 ↔ n = 0) (hg : ∀ n, g n = 0 ↔ n = 0) {k : Nat}
    (hk : k ≠ 0) (t : Text) : (mapRuns m f g k t).head? = some '\\' := by
  have hrun : ∀ n rest, n ≠ 0 → (List.replicate n '\\' ++ rest).head? = some '\\' := by
    intro n rest hn
    obtain ⟨n, rfl⟩ := Nat.exists_eq_succ_of_ne_zero hn
    simp [List.replicate_succ]
  induction t generalizing k with
  | nil => simpa using hrun (g k) [] (by rwa [Ne, hg])
  | cons c rest ih =>
    by_cases hc : c = '\\'
    · subst hc
      rw [mapRuns_backslash]
      exact ih (Nat.succ_ne_zero k)
    · rw [mapRuns_cons hc]
      refine hrun _ _ ?_
      split
      · rwa [Ne, hf]
      · exact hk

/-- A change that makes no run empty keeps the first character. -/
theorem head?_mapRuns (hf : ∀ n, f n = 0 ↔ n = 0) (hg : ∀ n, g n = 0 ↔ n = 0) (t : Text) :
    (mapRuns m f g 0 t).head? = t.head? := by
  cases t with
  | nil => simp [(hg 0).2 rfl]
  | cons c rest =>
    by_cases hc : c = '\\'
    · subst hc
      rw [mapRuns_backslash, head?_mapRuns_pos hf hg (Nat.succ_ne_zero 0)]
      rfl
    · rw [mapRuns_cons hc, (hf 0).2 rfl, ite_self]
      simp

theorem mapRuns_eq_nil_iff (hf : ∀ n, f n = 0 ↔ n = 0) (hg : ∀ n, g n = 0 ↔ n = 0) (t : Text) :
    mapRuns m f g 0 t = [] ↔ t = [] := by
  rw [← List.head?_eq_none_iff, head?_mapRuns hf hg, List.head?_eq_none_iff]

/-- **Two changes in a row are one change**, if the first one makes no run empty. -/
theorem mapRuns_mapRuns {f' g' : Nat → Nat} (hf : ∀ n, f n = 0 ↔ n = 0)
    (hg : ∀ n, g n = 0 ↔ n = 0) (k : Nat) (t : Text) :
    mapRuns m f' g' 0 (mapRuns m f g k t) =
      mapRuns m (fun n => f' (f n)) (fun n => g' (g n)) k t := by
  induction t generalizing k with
  | nil => simpa using mapRuns_replicate (m := m) (f := f') (g := g') (g k) 0 []
  | cons c rest ih =>
    by_cases hc : c = '\\'
    · subst hc
      rw [mapRuns_backslash, mapRuns_backslash, ih]
    · rw [mapRuns_cons hc, mapRuns_replicate, mapRuns_cons hc, mapRuns_cons hc, ih,
        head?_mapRuns hf hg, Nat.zero_add]
      congr 2
      split <;> rfl

/-- The markers of a text stay, each after the changed run. -/
theorem atMarkers_mapRuns {P : Nat → Prop} (h₁ : m.1 ≠ '\\') (hf : ∀ n, f n = 0 ↔ n = 0)
    (hg : ∀ n, g n = 0 ↔ n = 0) (k : Nat) (t : Text) :
    AtMarkers m P (mapRuns m f g k t) ↔
      AtMarkers m (fun n => P (f n)) (List.replicate k '\\' ++ t) := by
  induction t generalizing k with
  | nil => simp [atMarkers_replicate h₁]
  | cons c rest ih =>
    by_cases hc : c = '\\'
    · subst hc
      rw [mapRuns_backslash, ih, replicate_cons_backslash]
    · rw [mapRuns_cons hc, atMarkers_replicate_cons h₁ hc, atMarkers_replicate_cons h₁ hc, ih,
        head?_mapRuns hf hg]
      refine and_congr (imp_congr_right fun hm => ?_) (by simp)
      rw [if_pos hm]

theorem trailing_mapRuns (k : Nat) (t : Text) :
    trailing (mapRuns m f g k t) = g (trailing (List.replicate k '\\' ++ t)) := by
  induction t generalizing k with
  | nil => simp
  | cons c rest ih =>
    by_cases hc : c = '\\'
    · subst hc
      rw [mapRuns_backslash, ih, replicate_cons_backslash]
    · rw [mapRuns_cons hc, trailing_append_cons hc, trailing_append_cons hc, ih]
      simp

/-- A change of the runs keeps every character but the backslash. -/
theorem count_mapRuns {d : Char} (hd : d ≠ '\\') (k : Nat) (t : Text) :
    (mapRuns m f g k t).count d = t.count d := by
  have hrun : ∀ n, (List.replicate n '\\').count d = 0 := fun n =>
    List.count_eq_zero.2 fun h => hd (List.eq_of_mem_replicate h)
  induction t generalizing k with
  | nil => simp [hrun]
  | cons c rest ih =>
    by_cases hc : c = '\\'
    · subst hc
      rw [mapRuns_backslash, ih, List.count_cons_of_ne (Ne.symm hd)]
    · rw [mapRuns_cons hc, List.count_append, hrun, Nat.zero_add, List.count_cons, List.count_cons,
        ih]

/-- Releasing the held characters halves the run at their end. -/
theorem release_reverse (k : Nat) (t : Text) :
    release (List.replicate k '\\' ++ t).reverse =
      (mapRuns m id halved k t).reverse := by
  induction t generalizing k with
  | nil =>
    have h : release (List.replicate k '\\' ++ []) = _ := release_replicate k (by simp)
    simpa using h
  | cons c rest ih =>
    by_cases hc : c = '\\'
    · subst hc
      rw [mapRuns_backslash, ← ih, replicate_cons_backslash]
    · have h := ih 0
      rw [List.replicate_zero, List.nil_append] at h
      rw [mapRuns_cons hc, id_eq, ite_self]
      simp only [List.reverse_append, List.reverse_cons, List.append_assoc,
        List.singleton_append]
      rw [release_append_cons hc, h]

end

/-! ## Halving -/

theorem halved_eq_zero_iff (n : Nat) : halved n = 0 ↔ n = 0 := by unfold halved; omega

/-- A change that is made in one case only makes no run empty if the change does not. -/
theorem ite_id_eq_zero_iff {f : Nat → Nat} (hf : ∀ n, f n = 0 ↔ n = 0) (made : Bool) (n : Nat) :
    (if made then f else id) n = 0 ↔ n = 0 := by
  cases made
  · exact Iff.rfl
  · exact hf n

end Stencil.Token
