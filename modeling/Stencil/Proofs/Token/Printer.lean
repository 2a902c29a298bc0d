/-
  Writing tokens as a text.

  * a `Part` is the kind and the content of a token;
  * `Part.WellFormed` says which parts there are: not empty, with every marker that
    would end the token behind a backslash, and no code that looks like another tag;
  * `write` writes parts: every tag between its markers, `2 n - 1` backslashes for a run
    of `n` before a literal marker, twice the run before a boundary, and an empty tag
    between two texts.

  Main statement: the parts of every text are well-formed, and the scan of written
  well-formed parts gives them back (`parts_scan_write`).
-/
import Stencil.Proofs.Token.Segment

namespace Stencil.Token

/-! ## Parts -/

/-- The kind and the content of a token. -/
structure Part where
  kind : Kind
  content : Text
  deriving DecidableEq

/-- A token without its place. -/
def part (t : Token) : Part := ⟨t.kind, t.content⟩

/-- The parts that are those of some token. -/
structure Part.WellFormed (p : Part) : Prop where
  nonempty : p.content ≠ []
  /-- A marker that would end the token stands directly behind a backslash. -/
  guarded : ∀ before after,
    p.content = before ++ p.kind.ending.1 :: p.kind.ending.2 :: after →
      before.getLast? = some '\\'
  /-- A code part begins neither with `=` nor with `@`. -/
  start : p.kind.Admits p.content

/-- Whether a part is well-formed, by all ways to cut its content in two. -/
instance (p : Part) : Decidable p.WellFormed :=
  decidable_of_iff (p.content ≠ [] ∧
      (∀ n < p.content.length, (p.content.drop n).take 2 = [p.kind.ending.1, p.kind.ending.2] →
        (p.content.take n).getLast? = some '\\') ∧ p.kind.Admits p.content) <| by
    constructor
    · rintro ⟨hne, hguard, hstart⟩
      refine ⟨hne, fun before after h => ?_, hstart⟩
      have := hguard before.length (by rw [h]; simp) (by rw [h]; simp)
      rwa [h, List.take_left] at this
    · rintro ⟨hne, hguard, hstart⟩
      refine ⟨hne, fun n _ h => hguard _ ((p.content.drop n).drop 2) ?_, hstart⟩
      have htail := List.take_append_drop 2 (p.content.drop n)
      rw [h] at htail
      exact (List.take_append_drop n p.content).symm.trans
        (congrArg (p.content.take n ++ ·) htail.symm)

/-! ## Writing -/

/-- The content of a part as it is written; a marker follows if the part is `ended`. -/
def Part.written (p : Part) (ended : Bool) : Text :=
  mapRuns p.kind.ending (fun n => 2 * n - 1) (if ended then fun n => 2 * n else id) 0 p.content

/-- What stands between a text and the parts after it: an empty tag if they begin with
    another text. -/
def separator : List Part → Text
  | ⟨.text, _⟩ :: _ => Kind.code.marker ++ Kind.text.marker
  | _ => []

/-- Parts as a text. -/
def write : List Part → Text
  | [] => []
  | p :: rest =>
    if p.kind = .text then p.written (!rest.isEmpty) ++ (separator rest ++ write rest)
    else p.kind.marker ++ (p.written true ++ Kind.text.marker ++ write rest)

example : write [⟨.text, ['a', '\\']⟩, ⟨.text, ['b']⟩, ⟨.expression, ['\\', '#', '>']⟩] =
    ['a', '\\', '\\', '<', '#', '#', '>', 'b', '<', '#', '=', '\\', '#', '>', '#', '>'] := by decide

/-! ## Written contents are raw segments -/

section
variable {p : Part}

theorem doubled_eq_zero_iff (n : Nat) : 2 * n - 1 = 0 ↔ n = 0 := by omega

theorem run_eq_zero_iff (ended : Bool) (n : Nat) :
    (if ended then fun n => 2 * n else id : Nat → Nat) n = 0 ↔ n = 0 :=
  ite_id_eq_zero_iff (fun _ => by omega) ended n

theorem Part.head?_written (p : Part) (ended : Bool) :
    (p.written ended).head? = p.content.head? :=
  head?_mapRuns doubled_eq_zero_iff (run_eq_zero_iff ended) _

theorem Part.WellFormed.literal (hp : p.WellFormed) (ended : Bool) :
    Literal p.kind (p.written ended) := by
  refine ⟨?_, hp.start.of_head? (p.head?_written ended)⟩
  refine (atMarkers_mapRuns p.kind.ending_ne_backslash doubled_eq_zero_iff
    (run_eq_zero_iff ended) 0 _).2 fun before after h => ?_
  have := (trailing_pos_iff before).2 (hp.guarded before after h)
  omega

/-- A written part, with any text behind it, stays behind its own marker. -/
theorem Part.WellFormed.start_written (hp : p.WellFormed) (ended : Bool) (rest : Text) :
    p.kind.Admits (p.written ended ++ rest) := by
  refine hp.start.of_head? ?_
  obtain ⟨c, content, hcontent⟩ := List.exists_cons_of_ne_nil hp.nonempty
  have hhead := p.head?_written ended
  rw [hcontent] at hhead
  obtain ⟨tail, htail⟩ := List.head?_eq_some_iff.1 hhead
  rw [htail, hcontent]
  rfl

theorem Part.trailing_written (p : Part) : trailing (p.written true) % 2 = 0 := by
  rw [Part.written, trailing_mapRuns]
  simp

/-- **The content of the written part is the part's content.** -/
theorem Part.content_written (p : Part) (ended : Bool) :
    Segment.content ⟨p.kind, p.written ended⟩ ended = p.content := by
  have hinner : ∀ n, halved (2 * n - 1) = id n := by
    intro n; simp only [halved, id]; omega
  have hlast : ∀ n, (if ended then halved else id : Nat → Nat)
      ((if ended then fun n => 2 * n else id : Nat → Nat) n) = id n := by
    intro n
    cases ended
    · rfl
    · simp only [halved, if_true, id]; omega
  rw [Segment.content, Part.written,
    mapRuns_mapRuns doubled_eq_zero_iff (run_eq_zero_iff ended), mapRuns_congr hinner hlast,
    mapRuns_id]
  rfl

theorem Part.WellFormed.token_written (hp : p.WellFormed) (before : Text) (ended : Bool) :
    (Segment.token? ⟨p.kind, p.written ended⟩ before ended).map part = [p] := by
  have hne : p.written ended ≠ [] := by
    rw [Ne, ← List.head?_eq_none_iff, p.head?_written, List.head?_eq_none_iff]
    exact hp.nonempty
  rw [Segment.token?, if_neg hne, p.content_written]
  rfl

end

/-! ## Scanning what is written -/

/-- A marker directly before the next one. -/
theorem scanFrom_marker {k k' : Kind} {rest : Text} (hk : Alternate k k')
    (hrest : k'.Admits rest) (before : Text) :
    scanFrom k (.behind before) (.behind before) [] (k'.marker ++ rest) =
      scanFrom k' (.behind (before ++ k'.marker)) (.behind (before ++ k'.marker)) [] rest := by
  have hempty : Literal k [] := ⟨fun b a h => by simp at h, k.admits_nil⟩
  have := scanFrom_next hempty rfl hk hrest before
  simpa [Segment.token?] using this

/-- After a text that is not the last part comes the marker of a tag. -/
theorem exists_opening {rest : List Part} (hne : rest ≠ []) (hrest : ∀ p ∈ rest, p.WellFormed) :
    ∃ k inside, Alternate .text k ∧ separator rest ++ write rest = k.marker ++ inside ∧
      k.Admits inside := by
  obtain ⟨p, rest, rfl⟩ := List.exists_cons_of_ne_nil hne
  obtain ⟨k, content⟩ := p
  by_cases hk : k = .text
  · subst hk
    exact ⟨.code, Kind.text.marker ++ write (⟨.text, content⟩ :: rest), by decide, by
      simp [separator], by simp [Kind.marker, Kind.Admits]⟩
  · have hp := hrest _ List.mem_cons_self
    refine ⟨k, _, by simp [Alternate, hk], ?_,
      hp.start_written true (Kind.text.marker ++ write rest)⟩
    rw [write, if_neg hk, List.append_assoc, separator]
    · rfl
    · rintro content' rest' h
      exact hk (by simp_all)

/-- The separator yields no token. -/
theorem scanFrom_separator (rest : List Part) (before : Text) : ∃ before',
    scanFrom .text (.behind before) (.behind before) [] (separator rest ++ write rest) =
      scanFrom .text (.behind before') (.behind before') [] (write rest) := by
  unfold separator
  split
  · refine ⟨before ++ Kind.code.marker ++ Kind.text.marker, ?_⟩
    rw [List.append_assoc, scanFrom_marker (by decide) (by simp [Kind.marker, Kind.Admits]),
      scanFrom_marker (by decide) (Kind.admits_text _)]
  · exact ⟨before, rfl⟩

theorem parts_scanFrom_write {parts : List Part} (h : ∀ p ∈ parts, p.WellFormed)
    (before : Text) :
    (scanFrom .text (.behind before) (.behind before) [] (write parts)).map part = parts := by
  induction parts generalizing before with
  | nil => rfl
  | cons p rest ih =>
    have hp := h p List.mem_cons_self
    have hrest : ∀ q ∈ rest, q.WellFormed := fun q hq => h q (List.mem_cons_of_mem _ hq)
    by_cases hk : p.kind = .text
    · rw [write, if_pos hk]
      by_cases hne : rest = []
      · subst hne
        have hlast := scanFrom_last (hp.literal false) before
        have htoken := hp.token_written before false
        rw [hk] at hlast htoken
        simpa [separator, write, hlast] using htoken
      · obtain ⟨k, inside, halt, hopen, hstart⟩ := exists_opening hne hrest
        obtain ⟨before', hsep⟩ := scanFrom_separator rest (before ++ p.written true)
        have hnext := scanFrom_next (hp.literal true) p.trailing_written (hk ▸ halt) hstart before
        have htoken := hp.token_written before true
        rw [hk] at hnext htoken
        -- the marker after the text is read in both scans
        rw [hopen, scanFrom_marker halt hstart] at hsep
        rw [hopen, ← List.append_assoc, show (!rest.isEmpty) = true by simp [hne], hnext, hsep,
          List.map_append, htoken, ih hrest]
        rfl
    · have halt : Alternate .text p.kind := by simp [Alternate, hk]
      have halt' : Alternate p.kind .text := by simp [Alternate, hk]
      rw [write, if_neg hk, List.append_assoc, scanFrom_marker halt (hp.start_written true _),
        ← List.append_assoc,
        scanFrom_next (hp.literal true) p.trailing_written halt' (Kind.admits_text _),
        List.map_append, hp.token_written, ih hrest]
      rfl

/-! ## Parts of a text -/

/-- The content of a raw segment that is not empty. -/
theorem Literal.wellFormed {k : Kind} {raw : Text} (h : Literal k raw) (hne : raw ≠ [])
    (ended : Bool) : Part.WellFormed ⟨k, Segment.content ⟨k, raw⟩ ended⟩ := by
  refine ⟨?_, fun before after hcontent => ?_, h.start.of_head? (Segment.head?_content _ _)⟩
  · rwa [Ne, Segment.content_eq_nil_iff]
  · have hodd : AtMarkers k.ending (fun n => 0 < halved n) raw :=
      h.markers.mono fun n hn => by unfold halved; omega
    exact (trailing_pos_iff before).1 ((atMarkers_mapRuns k.ending_ne_backslash
      halved_eq_zero_iff (ite_id_eq_zero_iff halved_eq_zero_iff ended) 0 raw).2 hodd before after
      hcontent)

theorem Literal.wellFormed_of_mem {k : Kind} {raw before : Text} {ended : Bool} {t : Token}
    (h : Literal k raw) (ht : t ∈ Segment.token? ⟨k, raw⟩ before ended) :
    (part t).WellFormed := by
  rw [Segment.token?] at ht
  split at ht
  · simp at ht
  · next hne =>
    rw [List.mem_singleton] at ht
    subst ht
    exact h.wellFormed hne ended

theorem Cut.wellFormed {k : Kind} {t : Text} {segments : List Segment} (h : Cut k t segments)
    (before : Text) : ∀ token ∈ Segment.tokens before segments, (part token).WellFormed := by
  induction h generalizing before with
  | last hraw => exact fun token ht => hraw.wellFormed_of_mem ht
  | next hraw _ _ hrest ih =>
    obtain ⟨raw', rest', rfl⟩ := hrest.ne_nil
    intro token ht
    rcases List.mem_append.1 ht with ht | ht
    · exact hraw.wellFormed_of_mem ht
    · exact ih _ token ht

/-- **Scanning and writing are inverse up to escapes**: the parts of a text are
    well-formed, and well-formed parts are those of the text that is written for them. -/
theorem parts_scan_write :
    (∀ t, ∀ p ∈ (scan t).map part, p.WellFormed) ∧
      ∀ parts : List Part, (∀ p ∈ parts, p.WellFormed) → (scan (write parts)).map part = parts := by
  refine ⟨fun t p hp => ?_, fun parts h => parts_scanFrom_write h []⟩
  obtain ⟨token, htoken, rfl⟩ := List.mem_map.1 hp
  obtain ⟨segments, hcut⟩ := exists_cut .text t (Kind.admits_text t)
  rw [show scan t = Segment.tokens [] segments from scanFrom_of_cut hcut []] at htoken
  exact hcut.wellFormed [] token htoken

/-- Two texts side by side, and runs of backslashes before a literal marker, before the
    end of a token and at the end of the last one. -/
theorem parts_scan_write_runs :
    (∀ p ∈ [⟨.text, ['\\', '<', '#', '\\', '\\']⟩, ⟨.text, ['<']⟩,
      ⟨.code, ['#', '\\', '\\', '#', '>', '\\']⟩, (⟨.text, ['\\']⟩ : Part)], p.WellFormed) ∧
    (scan (write [⟨.text, ['\\', '<', '#', '\\', '\\']⟩, ⟨.text, ['<']⟩,
      ⟨.code, ['#', '\\', '\\', '#', '>', '\\']⟩, ⟨.text, ['\\']⟩])).map part =
      [⟨.text, ['\\', '<', '#', '\\', '\\']⟩, ⟨.text, ['<']⟩,
        ⟨.code, ['#', '\\', '\\', '#', '>', '\\']⟩, ⟨.text, ['\\']⟩] :=
  ⟨by decide, parts_scan_write.2 _ (by decide)⟩

end Stencil.Token
