/-
  Columns of a program and of its template.

  A program line that is written from a section of the template's own text repeats the
  characters of a line of the template.  It pads the first line to the column of the section, so
  the characters stand in their columns; behind a literal closing marker they stand further to
  the left, since the run of backslashes directly before the marker has lost half of its length.

  * `Token.droppedFrom` counts the backslashes that were lost up to a character, read off the
    text that was kept: a run that now has `h` backslashes before a literal marker had `2 h - 1`;
  * `Program.dropped` counts them for a closing marker.

  The backslashes are lost in the raw text of a token (`getElem?_mapRuns`), the line breaks are
  told apart in its lines (`forall₂_lines_mapRuns`, `forall₂_lines_unifyBreaks`).

  Main statement: `write_columns`.  A line that holds no two backslashes before a closing marker
  keeps all its columns; one that does has lost some (`column_lost`).
-/
import Stencil.Proofs.Program.Report

namespace Stencil

open Text (OneLine)

/-! ## Backslashes that were lost -/

namespace Token

/-- The number of backslashes that a text has lost up to its character `n`, when each run that
    stands directly before a marker and has `h` backslashes now had `2 h - 1`; `k` backslashes
    stand before the text. -/
def droppedFrom (m : Char × Char) : Nat → Text → Nat → Nat
  | _, [], _ => 0
  | k, c :: rest, n =>
    (if m.1 = c ∧ rest.head? = some m.2 then k - 1 else 0) +
      match n with
      | 0 => 0
      | n + 1 => droppedFrom m (if c = '\\' then k + 1 else 0) rest n
termination_by structural _ t => t

section
variable {m : Char × Char}

theorem droppedFrom_zero (k : Nat) (c : Char) (rest : Text) :
    droppedFrom m k (c :: rest) 0 = if m.1 = c ∧ rest.head? = some m.2 then k - 1 else 0 := rfl

theorem droppedFrom_succ {c : Char} (hc : c ≠ '\\') (k : Nat) (rest : Text) (n : Nat) :
    droppedFrom m k (c :: rest) (n + 1) =
      (if m.1 = c ∧ rest.head? = some m.2 then k - 1 else 0) + droppedFrom m 0 rest n := by
  rw [droppedFrom, if_neg hc]

/-- A backslash begins no marker. -/
theorem droppedFrom_backslash (h₁ : m.1 ≠ '\\') (k : Nat) (rest : Text) (n : Nat) :
    droppedFrom m k ('\\' :: rest) (n + 1) = droppedFrom m (k + 1) rest n := by
  rw [droppedFrom, if_neg fun h => h₁ h.1, if_pos rfl, Nat.zero_add]

/-- Within a run nothing is lost yet. -/
theorem droppedFrom_replicate_of_lt (h₁ : m.1 ≠ '\\') {h n : Nat} (hn : n < h) (k : Nat)
    (t : Text) : droppedFrom m k (List.replicate h '\\' ++ t) n = 0 := by
  induction h generalizing k n with
  | zero => exact absurd hn (Nat.not_lt_zero n)
  | succ h ih =>
    rw [List.replicate_succ, List.cons_append]
    cases n with
    | zero => rw [droppedFrom_zero, if_neg fun h => h₁ h.1]
    | succ n => rw [droppedFrom_backslash h₁, ih (Nat.lt_of_succ_lt_succ hn)]

theorem droppedFrom_replicate_add (h₁ : m.1 ≠ '\\') (h k : Nat) (t : Text) (n : Nat) :
    droppedFrom m k (List.replicate h '\\' ++ t) (h + n) = droppedFrom m (k + h) t n := by
  induction h generalizing k with
  | zero => simp
  | succ h ih =>
    rw [List.replicate_succ, List.cons_append, Nat.succ_add, droppedFrom_backslash h₁, ih,
      Nat.succ_add_eq_add_succ]

/-- Padding in front of a text moves it to the right. -/
theorem droppedFrom_padding (h₁ : m.1 ≠ ' ') (w : Nat) (t : Text) (n : Nat) :
    droppedFrom m 0 (List.replicate w ' ' ++ t) (w + n) = droppedFrom m 0 t n := by
  induction w with
  | zero => simp
  | succ w ih =>
    rw [List.replicate_succ, List.cons_append, Nat.succ_add, droppedFrom_succ (by decide),
      if_neg fun h => h₁ h.1, ih, Nat.zero_add]

/-- What comes behind a text changes nothing in it, unless it completes a marker. -/
theorem droppedFrom_append {ending : Text} (hending : ending.head? ≠ some m.2) (k : Nat)
    {t : Text} {n : Nat} (hn : n < t.length) :
    droppedFrom m k (t ++ ending) n = droppedFrom m k t n := by
  induction t generalizing k n with
  | nil => exact absurd hn (Nat.not_lt_zero n)
  | cons c t ih =>
    have hhead : (t ++ ending).head? = some m.2 ↔ t.head? = some m.2 := by
      cases t with
      | nil => simpa using hending
      | cons d t => simp
    rw [List.cons_append]
    cases n with
    | zero => simp only [droppedFrom_zero, hhead]
    | succ n => simp only [droppedFrom, hhead, ih _ (Nat.lt_of_succ_lt_succ hn)]

/-- Nothing is lost where no two backslashes stand before a marker. -/
theorem droppedFrom_eq_zero {k : Nat} {t : Text}
    (h : ¬ ['\\', '\\', m.1, m.2] <:+: List.replicate k '\\' ++ t) (n : Nat) :
    droppedFrom m k t n = 0 := by
  induction t generalizing k n with
  | nil => rfl
  | cons c rest ih =>
    have hmarker : (if m.1 = c ∧ rest.head? = some m.2 then k - 1 else 0) = 0 := by
      split
      · next hm =>
        obtain ⟨rfl, hhead⟩ := hm
        obtain ⟨after, rfl⟩ := List.head?_eq_some_iff.1 hhead
        by_contra hk
        obtain ⟨k, rfl⟩ : ∃ k', k = k' + 2 := ⟨k - 2, by omega⟩
        refine h ⟨List.replicate k '\\', after, ?_⟩
        simp [List.replicate_succ']
      · rfl
    cases n with
    | zero => rw [droppedFrom_zero, hmarker]
    | succ n =>
      rw [droppedFrom, hmarker, Nat.zero_add]
      refine ih ?_ n
      by_cases hc : c = '\\'
      · subst hc
        rwa [if_pos rfl, ← replicate_cons_backslash]
      · rw [if_neg hc]
        intro hrest
        refine h (hrest.trans ?_)
        exact ((List.suffix_cons c rest).trans (List.suffix_append _ _)).isInfix

/-! ## Columns in a segment -/

/-- An odd run is what is left of it and what it has lost. -/
theorem halved_add_lost {n : Nat} (h : n % 2 = 1) : halved n + (halved n - 1) = n := by
  unfold halved
  omega

/-- The characters of a run are those of a longer run. -/
theorem getElem?_replicate_of_le {h k i : Nat} (hi : i < h) (hk : h ≤ k) (rest : Text) :
    (List.replicate h '\\')[i]? = (List.replicate k '\\' ++ rest)[i]? := by
  have hi' : i < k := Nat.lt_of_lt_of_le hi hk
  rw [List.getElem?_append_left (by simpa using hi'), List.getElem?_replicate_of_lt hi,
    List.getElem?_replicate_of_lt hi']

/-- A run that has lost what `droppedFrom` counts at the character behind it, and behind this
    character a text that has. -/
theorem getElem?_shortened (h₁ : m.1 ≠ '\\') {d : Char} (hd : d ≠ '\\') {h k : Nat}
    {kept rest : Text} (hlost : h + (if m.1 = d ∧ kept.head? = some m.2 then h - 1 else 0) = k)
    (hrest : ∀ i c, kept[i]? = some c → rest[i + droppedFrom m 0 kept i]? = some c) {j : Nat}
    {c : Char} (hj : (List.replicate h '\\' ++ d :: kept)[j]? = some c) :
    (List.replicate k '\\' ++ d :: rest)[j +
      droppedFrom m 0 (List.replicate h '\\' ++ d :: kept) j]? = some c := by
  rcases Nat.lt_or_ge j h with hjh | hjh
  · rw [droppedFrom_replicate_of_lt h₁ hjh, Nat.add_zero,
      ← getElem?_replicate_of_le hjh (by omega) (d :: rest)]
    rwa [List.getElem?_append_left (by simpa using hjh)] at hj
  · obtain ⟨i, rfl⟩ := Nat.exists_eq_add_of_le hjh
    rw [List.getElem?_append_right (by simp), List.length_replicate, Nat.add_sub_cancel_left] at hj
    rw [droppedFrom_replicate_add h₁, Nat.zero_add]
    cases i with
    | zero =>
      rw [List.getElem?_cons_zero] at hj
      rw [droppedFrom_zero, Nat.add_zero, hlost, List.getElem?_append_right (by simp)]
      simpa using hj
    | succ i =>
      rw [List.getElem?_cons_succ] at hj
      have hcolumn : h + (i + 1) + ((if m.1 = d ∧ kept.head? = some m.2 then h - 1 else 0) +
          droppedFrom m 0 kept i) = k + (i + droppedFrom m 0 kept i + 1) := by omega
      rw [droppedFrom_succ hd, hcolumn, List.getElem?_append_right (by simp),
        List.length_replicate, Nat.add_sub_cancel_left, List.getElem?_cons_succ]
      exact hrest i c hj

/-- **A character of the content stands in the raw text behind the backslashes that were
    lost.** -/
theorem getElem?_mapRuns (h₁ : m.1 ≠ '\\') {last : Nat → Nat} (hlast : ∀ n, last n = 0 ↔ n = 0)
    (hle : ∀ n, last n ≤ n) {k : Nat} {raw : Text}
    (hraw : AtMarkers m (fun n => n % 2 = 1) (List.replicate k '\\' ++ raw)) {j : Nat} {c : Char}
    (hj : (mapRuns m halved last k raw)[j]? = some c) :
    (List.replicate k '\\' ++ raw)[j + droppedFrom m 0 (mapRuns m halved last k raw) j]? =
      some c := by
  induction raw generalizing k j c with
  | nil =>
    rw [mapRuns_nil] at hj ⊢
    have hlt : j < last k := by simpa using (List.getElem?_eq_some_iff.1 hj).1
    have hnone := droppedFrom_replicate_of_lt h₁ hlt 0 []
    rw [List.append_nil] at hnone
    rw [hnone, Nat.add_zero, ← getElem?_replicate_of_le hlt (hle k) []]
    exact hj
  | cons d rest ih =>
    by_cases hd : d = '\\'
    · subst hd
      rw [mapRuns_backslash] at hj ⊢
      rw [replicate_cons_backslash] at hraw ⊢
      exact ih hraw hj
    · obtain ⟨hodd, hlater⟩ := (atMarkers_replicate_cons h₁ hd k rest).1 hraw
      rw [mapRuns_cons hd] at hj ⊢
      refine getElem?_shortened h₁ hd ?_ (fun i c hc => ?_) hj
      · -- what the run has lost is missing at its end
        rw [head?_mapRuns halved_eq_zero_iff hlast]
        split
        · next hm => exact halved_add_lost (hodd hm)
        · rfl
      · simpa using ih (k := 0) (by simpa using hlater) hc

/-! ## Lines of a segment -/

/-- A line feed ends the run before it, which is left as it is. -/
theorem mapRuns_append_newline {f g : Nat → Nat} (h₁ : m.1 ≠ '\n') (h₂ : m.2 ≠ '\n') (k : Nat)
    (t rest : Text) : mapRuns m f g k (t ++ '\n' :: rest) =
      mapRuns m f id k t ++ '\n' :: mapRuns m f g 0 rest := by
  induction t generalizing k with
  | nil =>
    rw [List.nil_append, mapRuns_cons (by decide), if_neg fun h => h₁ h.1, mapRuns_nil, id_eq]
  | cons c t ih =>
    rw [List.cons_append]
    by_cases hc : c = '\\'
    · subst hc
      rw [mapRuns_backslash, mapRuns_backslash, ih]
    · have hhead : (t ++ '\n' :: rest).head? = some m.2 ↔ t.head? = some m.2 := by
        cases t with
        | nil => simpa using Ne.symm h₂
        | cons d t => simp
      rw [mapRuns_cons hc, mapRuns_cons hc, ih]
      simp only [hhead, List.append_assoc, List.cons_append]

theorem newline_notMem_mapRuns (f g : Nat → Nat) {t : Text} (h : '\n' ∉ t) :
    '\n' ∉ mapRuns m f g 0 t := by
  rw [← List.count_eq_zero] at h ⊢
  rwa [count_mapRuns (by decide)]

/-- The markers of a text stand in its lines. -/
theorem AtMarkers.of_append_newline {P : Nat → Prop} {t rest : Text}
    (h : AtMarkers m P (t ++ '\n' :: rest)) : AtMarkers m P t ∧ AtMarkers m P rest := by
  constructor
  · rintro before after rfl
    exact h before (after ++ '\n' :: rest) (by simp)
  · rintro before after rfl
    have := h (t ++ '\n' :: before) after (by simp)
    rwa [trailing_append_cons (by decide)] at this

/-- **The lines of the content are made from the lines of the raw text.**  The run at the end of
    a line is that at the end of the text, or it stays. -/
theorem forall₂_lines_mapRuns (h₁ : m.1 ≠ '\n') (h₂ : m.2 ≠ '\n') {last : Nat → Nat}
    {P : Nat → Prop} {raw : Text} (hraw : AtMarkers m P raw) :
    List.Forall₂ (fun kept line => AtMarkers m P line ∧
        (kept = mapRuns m halved id 0 line ∨ kept = mapRuns m halved last 0 line))
      (Text.lines (mapRuns m halved last 0 raw)) (Text.lines raw) := by
  induction raw using Text.line_induction with
  | last t ht =>
    rw [Text.lines_of_notMem ht, Text.lines_of_notMem (newline_notMem_mapRuns halved last ht)]
    exact .cons ⟨hraw, .inr rfl⟩ .nil
  | line t rest ht ih =>
    obtain ⟨hline, hrest⟩ := hraw.of_append_newline
    rw [mapRuns_append_newline h₁ h₂, Text.lines_append_newline ht,
      Text.lines_append_newline (newline_notMem_mapRuns halved id ht)]
    exact .cons ⟨hline, .inl rfl⟩ (ih hrest)

end

end Token

namespace Program

/-! ## Line breaks -/

/-- A line of a template as its program repeats it: without the carriage return of its line
    break, and with spaces for any other ones. -/
def Repeats (unified line : Text) : Prop :=
  ∃ kept ending, line = kept ++ ending ∧ (ending = [] ∨ ending = ['\r']) ∧
    unified = kept.map spaced

theorem Repeats.cons {unified line : Text} (h : Repeats unified line) (c : Char) :
    Repeats (spaced c :: unified) (c :: line) := by
  obtain ⟨kept, ending, rfl, hending, rfl⟩ := h
  exact ⟨c :: kept, ending, rfl, hending, rfl⟩

theorem forall₂_lines_cons {c : Char} (hc : c ≠ '\n') {t u : Text}
    (h : List.Forall₂ Repeats (Text.lines u) (Text.lines t)) :
    List.Forall₂ Repeats (Text.lines (spaced c :: u)) (Text.lines (c :: t)) := by
  have hspaced : spaced c ≠ '\n' := by
    unfold spaced
    split
    · decide
    · exact hc
  obtain ⟨line, lines, ht, hct⟩ := Text.lines_cons hc t
  obtain ⟨unified, others, hu, hcu⟩ := Text.lines_cons hspaced u
  rw [ht, hu, List.forall₂_cons] at h
  rw [hct, hcu]
  exact .cons (h.1.cons c) h.2

/-- **The lines of a program repeat the lines of the template.** -/
theorem forall₂_lines_unifyBreaks (t : Text) :
    List.Forall₂ Repeats (Text.lines (unifyBreaks t)) (Text.lines t) := by
  fun_induction unifyBreaks t with
  | case1 rest ih =>
    obtain ⟨piece, pieces, hrest, hcons⟩ := Text.lines_cons (c := '\r') (by decide) ('\n' :: rest)
    rw [Text.lines_newline, List.cons.injEq] at hrest
    obtain ⟨rfl, rfl⟩ := hrest
    rw [Text.lines_newline, hcons]
    exact .cons ⟨[], ['\r'], rfl, .inr rfl, rfl⟩ ih
  | case2 rest _ ih => exact forall₂_lines_cons (c := '\r') (by decide) ih
  | case3 c rest _ hc ih =>
    by_cases hfeed : c = '\n'
    · subst hfeed
      rw [Text.lines_newline, Text.lines_newline]
      exact .cons ⟨[], [], rfl, .inl rfl, rfl⟩ ih
    · have h := forall₂_lines_cons hfeed ih
      rwa [spaced, if_neg hc] at h
  | case4 => exact .cons ⟨[], [], rfl, .inl rfl, rfl⟩ .nil

/-! ## Columns of a line -/

/-- The backslashes that were lost before closing markers up to the character `n` of a program
    line. -/
def dropped (line : Text) (n : Nat) : Nat := Token.droppedFrom ('#', '>') 0 line n

/-- Spaces for carriage returns make and break no marker. -/
theorem droppedFrom_map_spaced (k : Nat) (t : Text) (n : Nat) :
    Token.droppedFrom ('#', '>') k (t.map spaced) n = Token.droppedFrom ('#', '>') k t n := by
  have hspaced : ∀ {d : Char} (c : Char), d ≠ ' ' → d ≠ '\r' → (spaced c = d ↔ c = d) := by
    intro d c hblank hreturn
    unfold spaced
    split
    · next hc =>
      subst hc
      exact ⟨fun h => absurd h.symm hblank, fun h => absurd h.symm hreturn⟩
    · exact Iff.rfl
  have hmarker : ∀ (c : Char) (rest : Text),
      ('#' = spaced c ∧ (rest.map spaced).head? = some '>' ↔ '#' = c ∧ rest.head? = some '>') := by
    intro c rest
    rw [eq_comm, hspaced c (by decide) (by decide), eq_comm (a := c), List.head?_map,
      Option.map_eq_some_iff]
    simp [hspaced _ (show '>' ≠ ' ' by decide) (show '>' ≠ '\r' by decide)]
  induction t generalizing k n with
  | nil => rfl
  | cons c rest ih =>
    rw [List.map_cons]
    cases n with
    | zero => simp only [Token.droppedFrom_zero, hmarker]
    | succ n =>
      simp only [Token.droppedFrom, hmarker, ih,
        hspaced c (show '\\' ≠ ' ' by decide) (show '\\' ≠ '\r' by decide)]

/-- **A character of a line that repeats a line of a token's content stands in the raw line
    behind the backslashes that were lost.** -/
theorem getElem?_of_repeats {last : Nat → Nat} (hlast : ∀ n, last n = 0 ↔ n = 0)
    (hle : ∀ n, last n ≤ n) {raw unified : Text}
    (hraw : Token.AtMarkers ('#', '>') (fun n => n % 2 = 1) raw)
    (h : Repeats unified (Token.mapRuns ('#', '>') Token.halved last 0 raw)) {j : Nat} {c : Char}
    (hj : unified[j]? = some c) :
    ∃ d, raw[j + dropped unified j]? = some d ∧ c = spaced d := by
  obtain ⟨kept, ending, hkept, hending, rfl⟩ := h
  rw [List.getElem?_map, Option.map_eq_some_iff] at hj
  obtain ⟨d, hd, rfl⟩ := hj
  refine ⟨d, ?_, rfl⟩
  have hlt : j < kept.length := (List.getElem?_eq_some_iff.1 hd).1
  have hhead : ending.head? ≠ some '>' := by
    rcases hending with rfl | rfl
    · simp
    · simp
  have hmarkers : Token.AtMarkers ('#', '>') (fun n => n % 2 = 1)
      (List.replicate 0 '\\' ++ raw) := by simpa using hraw
  have hfound := Token.getElem?_mapRuns (by decide) hlast hle hmarkers (j := j) (c := d)
    (by rw [hkept, List.getElem?_append_left hlt]; exact hd)
  rw [hkept, Token.droppedFrom_append hhead 0 hlt] at hfound
  rw [dropped, droppedFrom_map_spaced]
  simpa using hfound

/-! ## Columns of a section -/

theorem exists_getElem?_of_forall₂ {α β : Type} {R : α → β → Prop} {as : List α} {bs : List β}
    (h : List.Forall₂ R as bs) {i : Nat} {a : α} (ha : as[i]? = some a) :
    ∃ b, bs[i]? = some b ∧ R a b := by
  obtain ⟨hi, rfl⟩ := List.getElem?_eq_some_iff.1 ha
  have hi' : i < bs.length := h.length_eq ▸ hi
  exact ⟨bs[i], List.getElem?_eq_getElem hi', h.get hi hi'⟩

/-- A line of a part of a text lies in a line of the text, behind the characters in front of the
    part if it is the first one. -/
theorem exists_line_of_part {raw row : Text} {i : Nat} (h : (Text.lines raw)[i]? = some row)
    (pre post : Text) : ∃ before behind,
      (Text.lines (pre ++ (raw ++ post)))[(Position.behind pre).line + i - 1]? =
        some (before ++ (row ++ behind)) ∧
      before.length = if i = 0 then (Position.behind pre).column else 0 := by
  obtain ⟨behind, hbehind⟩ := Text.getElem?_lines_append_right h post
  have hline := Text.getElem?_lines_append_left pre hbehind
  have hnumber : pre.count '\n' + i = (Position.behind pre).line + i - 1 := by
    simp only [Position.behind]
    omega
  rw [hnumber] at hline
  refine ⟨_, behind, hline, ?_⟩
  split
  · simp [Text.lastLine, Position.behind]
  · rfl

/-- **A line of a token inside a tag, seen in the text that the token was cut from.** -/
theorem exists_line_of_isLiteral {text : Text} {t : Token} (h : t.IsLiteral text)
    (hk : t.kind.ending = ('#', '>')) {i : Nat} {unified : Text}
    (hi : (Text.lines (unifyBreaks t.content))[i]? = some unified) :
    ∃ original, (Text.lines text)[t.position.line + i - 1]? = some original ∧
      ∀ j c, unified[j]? = some c → ∃ d,
        original[(if i = 0 then t.position.column else 0) + (j + dropped unified j)]? = some d ∧
          c = spaced d := by
  obtain ⟨pre, s, post, ended, rfl, rfl, hliteral⟩ := h
  have hraw := hliteral.markers
  rw [hk] at hraw
  simp only [Token.Segment.content, hk] at hi
  obtain ⟨kept, hkept, hrepeats⟩ := exists_getElem?_of_forall₂ (forall₂_lines_unifyBreaks _) hi
  obtain ⟨row, hrow, hmarkers, hmade⟩ := exists_getElem?_of_forall₂
    (Token.forall₂_lines_mapRuns (by decide) (by decide) hraw) hkept
  obtain ⟨before, behind, horiginal, hstart⟩ := exists_line_of_part hrow pre post
  rw [← List.append_assoc] at horiginal
  refine ⟨_, horiginal, fun j c hj => ?_⟩
  have hle : ∀ n, (if ended then Token.halved else id) n ≤ n := by
    intro n
    cases ended
    · exact Nat.le_refl n
    · exact Nat.sub_le n _
  obtain ⟨d, hd, hc⟩ : ∃ d, row[j + dropped unified j]? = some d ∧ c = spaced d := by
    rcases hmade with rfl | rfl
    · exact getElem?_of_repeats (fun _ => Iff.rfl) (fun _ => Nat.le_refl _) hmarkers hrepeats hj
    · exact getElem?_of_repeats (Token.ite_id_eq_zero_iff Token.halved_eq_zero_iff ended) hle
        hmarkers hrepeats hj
  refine ⟨d, ?_, hc⟩
  rw [← hstart, List.getElem?_append_right (Nat.le_add_right _ _), Nat.add_sub_cancel_left,
    List.getElem?_append_left (List.getElem?_eq_some_iff.1 hd).1]
  exact hd

/-- The column in which the content of a line of a block begins. -/
def Block.margin (b : Block) (i : Nat) : Nat := if i = 0 then b.part.position.column else 0

theorem Block.lineText_eq (b : Block) (i : Nat) (content : Text) :
    b.lineText i content = List.replicate (b.margin i) ' ' ++ content := by
  cases i <;> rfl

/-- **The columns of a program are those of its template, less the backslashes that were
    lost.**  For a template and include files whose paths hold no line breaks, each program line
    that is written from a code or expression section of the template's own text has a template
    line, and behind the padding every character of the program line is a character of the
    template line, a space maybe for a carriage return: it stands to the right of its column by
    the backslashes that were lost up to it, and none were where no two backslashes stand before a
    closing marker in the line. -/
theorem write_columns (env : Resolver.Setting) (path : Path) (text : Text) (locale : Option Text)
    (hpath : OneLine path.text)
    (hlookup : ∀ source ∈ env.lookup.sources, OneLine source.path.text) :
    ∃ blocks, Layout (write (resolve env path text) path locale)
        (resolve env path text).sections blocks ∧
      ∀ b ∈ blocks, Remap.IsTemplateSection text b.part → ∀ i < b.contents.length,
        ∃ written original,
          (write (resolve env path text) path locale).line? (b.first + i) = some written ∧
          (Text.lines text)[b.part.position.line + i - 1]? = some original ∧
          (∀ n c, b.margin i ≤ n → written[n]? = some c →
            ∃ d, original[n + dropped written n]? = some d ∧ c = spaced d) ∧
          (¬ ['\\', '\\', '#', '>'] <:+: written → ∀ n, dropped written n = 0) := by
  obtain ⟨blocks, hlayout⟩ := Remap.exists_layout_write env path text locale hpath hlookup
  refine ⟨blocks, hlayout, ?_⟩
  rintro b hb ⟨t, ht, hkind, hposition, hcontent⟩ i hi
  have hmapped : isMapped b.part = true := by
    have hpart := List.mem_map_of_mem (f := Block.part) hb
    rw [hlayout.parts] at hpart
    exact (List.mem_filter.1 hpart).2
  have hending := ending_of_isMapped hkind hmapped
  obtain ⟨unified, hunified⟩ : ∃ unified, b.contents[i]? = some unified :=
    ⟨_, List.getElem?_eq_getElem hi⟩
  have hlines := hunified
  rw [Block.contents, ← hcontent] at hlines
  obtain ⟨original, horiginal, hcolumns⟩ :=
    exists_line_of_isLiteral (Token.isLiteral_of_mem_scan ht) hending hlines
  rw [hposition] at horiginal hcolumns
  refine ⟨_, original, hlayout.line b hb i _ hunified, horiginal, ?_, ?_⟩
  · intro n c hn hc
    obtain ⟨j, rfl⟩ := Nat.exists_eq_add_of_le hn
    rw [Block.lineText_eq] at hc ⊢
    rw [List.getElem?_append_right (by simp), List.length_replicate, Nat.add_sub_cancel_left] at hc
    rw [dropped, Token.droppedFrom_padding (by decide), Nat.add_assoc]
    exact hcolumns j c hc
  · intro hnone n
    exact Token.droppedFrom_eq_zero (k := 0) (by simpa using hnone) n

/-- A template of code that begins with three backslashes before a literal closing marker. -/
def lossyTemplate : Text := "<#\\\\\\#>x#>".toList

/-- The section of its code: one of the backslashes is lost. -/
def lossySection (path : Path) : Section := ⟨.code, path, ⟨1, 2⟩, "\\\\#>x".toList⟩

theorem scan_lossyTemplate : Token.scan lossyTemplate = [⟨.code, ⟨1, 2⟩, "\\\\#>x".toList⟩] := by
  cbv

theorem isTemplateSection_lossySection (path : Path) :
    Remap.IsTemplateSection lossyTemplate (lossySection path) := by
  rw [Remap.IsTemplateSection, scan_lossyTemplate]
  exact ⟨_, List.mem_singleton_self _, .code, rfl, rfl⟩

theorem sections_lossyTemplate (env : Resolver.Setting) (path : Path) :
    (resolve env path lossyTemplate).sections = [lossySection path] := by
  rw [resolve, scan_lossyTemplate, Resolver.walk_done (Resolver.step_eq_of_outcome (.plain rfl)),
    Resolver.walk_nil]
  rfl

/-- The one block of its program has one line. -/
theorem exists_block_lossy {p : Program} {env : Resolver.Setting} {path : Path}
    {blocks : List Block} (h : Layout p (resolve env path lossyTemplate).sections blocks) :
    ∃ b ∈ blocks, b.part = lossySection path ∧ Remap.IsTemplateSection lossyTemplate b.part ∧
      p.line? b.first = some "  \\\\#>x".toList := by
  have hpart : lossySection path ∈ blocks.map Block.part := by
    rw [h.parts, sections_lossyTemplate]
    exact List.mem_singleton_self _
  obtain ⟨b, hb, hpart⟩ := List.mem_map.1 hpart
  have hcontents : b.contents = ["\\\\#>x".toList] := by
    rw [Block.contents, hpart]
    rfl
  have hline := h.line b hb 0 "\\\\#>x".toList (by rw [hcontents]; rfl)
  rw [Block.lineText, hpart] at hline
  exact ⟨b, hb, hpart, hpart ▸ isTemplateSection_lossySection path, hline⟩

/-- The `#` of the closing marker stands one column further to the right in the template. -/
theorem write_columns_lossy :
    OneLine "m".toList ∧ (∀ source ∈ Lookup.empty.sources, OneLine source.path.text) ∧
    ∃ blocks, Layout (write (resolve ⟨.empty, "t".toList⟩ ⟨"m".toList⟩ lossyTemplate) ⟨"m".toList⟩
        none) (resolve ⟨.empty, "t".toList⟩ ⟨"m".toList⟩ lossyTemplate).sections blocks ∧
      ∃ b ∈ blocks, ∃ written original,
        (write (resolve ⟨.empty, "t".toList⟩ ⟨"m".toList⟩ lossyTemplate) ⟨"m".toList⟩ none).line?
          b.first = some written ∧
        (Text.lines lossyTemplate)[b.part.position.line - 1]? = some original ∧
        written[4]? = some '#' ∧ dropped written 4 = 1 ∧
        ∃ d, original[5]? = some d ∧ '#' = spaced d := by
  have hpath : OneLine "m".toList := by decide
  have hlookup : ∀ source ∈ Lookup.empty.sources, OneLine source.path.text := by decide
  obtain ⟨blocks, hlayout, hcolumns⟩ :=
    write_columns ⟨.empty, "t".toList⟩ ⟨"m".toList⟩ lossyTemplate none hpath hlookup
  obtain ⟨b, hb, hpart, hsection, hline⟩ := exists_block_lossy hlayout
  obtain ⟨written, original, hwritten, horiginal, hcolumn, -⟩ :=
    hcolumns b hb hsection 0 (by rw [Block.length_contents]; exact Nat.succ_pos _)
  obtain rfl : "  \\\\#>x".toList = written :=
    Option.some.inj (hline.symm.trans hwritten)
  refine ⟨hpath, hlookup, blocks, hlayout, b, hb, _, original, hline, horiginal, rfl, rfl, ?_⟩
  exact hcolumn 4 '#' (by rw [Block.margin, hpart]; decide) rfl

/-- **A program does not keep every column of its template**: in the column of the `#` the
    template line has a backslash. -/
theorem column_lost :
    ∃ blocks, Layout (write (resolve ⟨.empty, "t".toList⟩ ⟨"m".toList⟩ lossyTemplate) ⟨"m".toList⟩
        none) (resolve ⟨.empty, "t".toList⟩ ⟨"m".toList⟩ lossyTemplate).sections blocks ∧
      ∃ b ∈ blocks, Remap.IsTemplateSection lossyTemplate b.part ∧ b.margin 0 ≤ 4 ∧
        ∃ written original,
          (write (resolve ⟨.empty, "t".toList⟩ ⟨"m".toList⟩ lossyTemplate) ⟨"m".toList⟩
            none).line? b.first = some written ∧
          (Text.lines lossyTemplate)[b.part.position.line - 1]? = some original ∧
          written[4]? = some '#' ∧ original[4]? = some '\\' := by
  obtain ⟨blocks, hlayout⟩ := Remap.exists_layout_write ⟨.empty, "t".toList⟩ ⟨"m".toList⟩
    lossyTemplate none (by decide) (by decide)
  obtain ⟨b, hb, hpart, hsection, hline⟩ := exists_block_lossy hlayout
  refine ⟨blocks, hlayout, b, hb, hsection, ?_, _, lossyTemplate, hline, ?_, rfl, rfl⟩
  · rw [Block.margin, hpart]
    decide
  · rw [hpart]
    rfl

end Program

end Stencil
