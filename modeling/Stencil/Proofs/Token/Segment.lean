/-
  The raw segments of a text and its tokens.

  A text is cut at those markers that stand after an even run of backslashes.  The
  segments between them lie outside and inside tags in turn, and a segment that is
  not empty is a token.

  * `Cut k t segments` says that the text `t`, whose first character lies in a token
    of kind `k`, is cut into these raw segments; it is a grammar and does not mention
    the scan;
  * `Segment.tokens` are the tokens of raw segments: the content is the raw text with
    the runs before markers halved, and the place is counted over everything before;
  * `Position.behind` counts a place over a text;
  * `CutOut text t pre raw post` says where a token is cut out of a text.

  Main statements: every text has exactly one cut (`exists_cut`, `Cut.unique`), the scan
  gives the tokens of the cut (`scanFrom_of_cut`), and each of them is cut out of the text
  (`exists_cutOut`).
-/
import Stencil.Proofs.Token.EscapeRun

namespace Stencil

/-! ## Places -/

namespace Position

/-- The place of the character behind a text: the lines are counted from 1 by line
    feeds, the columns from 0 by the characters after the last of them. -/
def behind (before : Text) : Position :=
  ⟨1 + before.count '\n', (before.reverse.takeWhile (· ≠ '\n')).length⟩

theorem behind_concat (before : Text) (c : Char) :
    behind (before ++ [c]) = (behind before).after c := by
  by_cases hc : c = '\n'
  · subst hc
    simp [behind, after, Nat.add_assoc]
  · simp [behind, after, hc]

theorem after_of_ne {c : Char} (hc : c ≠ '\n') (p : Position) : p.after c = p.right 1 := by
  rw [after, if_neg hc, right]

/-- A text without line feeds moves the place to the right. -/
theorem behind_append {text : Text} (h : '\n' ∉ text) (before : Text) :
    behind (before ++ text) = (behind before).right text.length := by
  induction text generalizing before with
  | nil => simp [right]
  | cons c text ih =>
    simp only [List.mem_cons, not_or] at h
    rw [← List.singleton_append, ← List.append_assoc, ih h.2, behind_concat,
      after_of_ne (Ne.symm h.1)]
    simp [right, Nat.add_assoc, Nat.add_comm 1]

end Position

namespace Token

/-! ## Markers -/

/-- The two characters of the marker that ends a token. -/
def Kind.ending : Kind → Char × Char
  | text => ('<', '#')
  | code | expression | directive => ('#', '>')

/-- The marker before a token, unless it is the first one. -/
def Kind.marker : Kind → Text
  | text => ['#', '>']
  | code => ['<', '#']
  | expression => ['<', '#', '=']
  | directive => ['<', '#', '@']

/-- Behind the marker of a token of kind `k` the text does not make it the marker of
    another kind. -/
def Kind.Admits (k : Kind) (t : Text) : Prop :=
  k = .code → t.head? ≠ some '=' ∧ t.head? ≠ some '@'

instance (k : Kind) (t : Text) : Decidable (k.Admits t) :=
  inferInstanceAs (Decidable (_ → _))

theorem Kind.Admits.of_head? {k : Kind} {t t' : Text} (h : k.Admits t) (ht : t'.head? = t.head?) :
    k.Admits t' := by rwa [Kind.Admits, ht]

theorem Kind.admits_nil (k : Kind) : k.Admits [] := fun _ => by simp

theorem Kind.admits_text (t : Text) : Kind.text.Admits t := fun h => by cases h

/-- One of two neighbours lies outside a tag, the other one inside. -/
def Alternate (k k' : Kind) : Prop := k = .text ↔ k' ≠ .text

instance (k k' : Kind) : Decidable (Alternate k k') := inferInstanceAs (Decidable (_ ↔ _))

theorem Kind.ending_ne_backslash (k : Kind) : k.ending.1 ≠ '\\' := by cases k <;> decide

theorem Kind.ending_fst_ne_snd (k : Kind) : k.ending.1 ≠ k.ending.2 := by cases k <;> decide

theorem Kind.ending_ne_newline (k : Kind) : k.ending.1 ≠ '\n' := by cases k <;> decide

theorem Kind.newline_notMem_marker (k : Kind) : '\n' ∉ k.marker := by cases k <;> decide

/-- A marker begins with the two characters that end the token before it. -/
theorem Alternate.marker_eq {k k' : Kind} (h : Alternate k k') :
    ∃ tail, k'.marker = k.ending.1 :: k.ending.2 :: tail := by
  cases k <;> cases k' <;> first | exact absurd h (by decide) | exact ⟨_, rfl⟩

/-! ## Segments -/

/-- A part of a text between two markers. -/
structure Segment where
  kind : Kind
  raw : Text
  deriving DecidableEq

/-- No marker ends a token inside its raw text, and the text does not make the marker
    before it one of another kind. -/
structure Literal (k : Kind) (raw : Text) : Prop where
  markers : AtMarkers k.ending (fun n => n % 2 = 1) raw
  start : k.Admits raw

/-- A text, whose first character lies in a token of the given kind, is cut into raw
    segments; the marker before a segment stands after an even run of backslashes. -/
inductive Cut : Kind → Text → List Segment → Prop
  | last {k raw} : Literal k raw → Cut k raw [⟨k, raw⟩]
  | next {k k' raw rest segments} : Literal k raw → trailing raw % 2 = 0 → Alternate k k' →
      Cut k' rest segments → Cut k (raw ++ k'.marker ++ rest) (⟨k, raw⟩ :: segments)

namespace Segment

/-- The content of a raw segment: every run before a marker loses half of its
    backslashes.  A marker comes after the segment if it is `ended`. -/
def content (s : Segment) (ended : Bool) : Text :=
  mapRuns s.kind.ending halved (if ended then halved else id) 0 s.raw

/-- The token of a segment, unless the segment is empty. -/
def token? (s : Segment) (before : Text) (ended : Bool) : List Token :=
  if s.raw = [] then [] else [⟨s.kind, .behind before, s.content ended⟩]

/-- The tokens of segments that come after the text `before`. -/
def tokens (before : Text) : List Segment → List Token
  | [] => []
  | [s] => s.token? before false
  | s :: s' :: rest =>
    s.token? before true ++ tokens (before ++ s.raw ++ s'.kind.marker) (s' :: rest)

theorem head?_content (s : Segment) (ended : Bool) : (s.content ended).head? = s.raw.head? :=
  head?_mapRuns halved_eq_zero_iff (ite_id_eq_zero_iff halved_eq_zero_iff ended) _

theorem content_eq_nil_iff (s : Segment) (ended : Bool) : s.content ended = [] ↔ s.raw = [] :=
  mapRuns_eq_nil_iff halved_eq_zero_iff (ite_id_eq_zero_iff halved_eq_zero_iff ended) _

end Segment

/-! ## Steps of the scan -/

section
variable {k k' : Kind} {start here : Position} {held : Text}

theorem scanFrom_plain {c : Char} {rest : Text}
    (h : ¬ (k.ending.1 = c ∧ rest.head? = some k.ending.2)) :
    scanFrom k start here held (c :: rest) =
      scanFrom k start (here.after c) (c :: held) rest := by
  by_cases hk : k = .text
  · subst hk
    rw [scanFrom]
    rintro r rfl rfl
    exact h ⟨rfl, rfl⟩
  · rw [scanFrom]
    · rintro r rfl rfl
      cases k with
      | text => exact hk rfl
      | code | expression | directive => exact h ⟨rfl, rfl⟩
    · exact fun _ h' => absurd h' hk
    · exact hk

/-- After an odd run a marker is literal text. -/
theorem scanFrom_literal {rest : Text} (h : escapes held % 2 = 1) :
    scanFrom k start here held (k.ending.1 :: k.ending.2 :: rest) =
      scanFrom k start (here.right 1) (k.ending.1 :: release held) (k.ending.2 :: rest) := by
  have hb : isBoundary held = false := by simp [isBoundary, h]
  cases k with
  | text =>
    by_cases h₁ : ∃ inside, rest = '=' :: inside
    · obtain ⟨inside, rfl⟩ := h₁
      simp [Kind.ending, scanFrom, hb]
    · by_cases h₂ : ∃ inside, rest = '@' :: inside
      · obtain ⟨inside, rfl⟩ := h₂
        simp [Kind.ending, scanFrom, hb]
      · simp only [Kind.ending]
        rw [scanFrom, if_neg (by simp [hb])]
        · exact fun inside hi => h₁ ⟨inside, hi⟩
        · exact fun inside hi => h₂ ⟨inside, hi⟩
  | code | expression | directive => simp [Kind.ending, scanFrom, hb]

/-- After an even run a marker ends the token. -/
theorem scanFrom_boundary {rest : Text} (hk : Alternate k k')
    (hrest : k'.Admits rest) (h : escapes held % 2 = 0) :
    scanFrom k start here held (k'.marker ++ rest) = emit k start (release held) ++
      scanFrom k' (here.right k'.marker.length) (here.right k'.marker.length) [] rest := by
  have hb : isBoundary held = true := by simp [isBoundary, h]
  by_cases ht : k = .text
  · subst ht
    cases k' with
    | text => exact absurd hk (by decide)
    | expression | directive => simp [Kind.marker, scanFrom, hb]
    | code =>
      obtain ⟨h₁, h₂⟩ := hrest rfl
      simp only [Kind.marker, List.cons_append, List.nil_append]
      rw [scanFrom, if_pos hb]
      · rfl
      · rintro inside rfl; exact h₁ rfl
      · rintro inside rfl; exact h₂ rfl
  · obtain rfl : k' = .text := Decidable.byContradiction fun hk' => ht (hk.2 hk')
    cases k with
    | text => exact absurd rfl ht
    | code | expression | directive => simp [Kind.marker, scanFrom, hb]

/-- The scan of a raw segment halves its runs before markers, and leaves the run at its
    end as it is. -/
theorem scanFrom_raw (raw rest : Text) (n : Nat) (before base : Text)
    (hraw : AtMarkers k.ending (fun n => n % 2 = 1) (List.replicate n '\\' ++ raw))
    (hbase : base.head? ≠ some '\\') (hrest : rest.head? ≠ some k.ending.2) :
    scanFrom k start (.behind before) (List.replicate n '\\' ++ base) (raw ++ rest) =
      scanFrom k start (.behind (before ++ raw))
        ((mapRuns k.ending halved id n raw).reverse ++ base) rest := by
  induction raw generalizing n before base with
  | nil => simp
  | cons c raw ih =>
    have hbefore : before ++ c :: raw = (before ++ [c]) ++ raw := by simp
    by_cases hc : c = '\\'
    · subst hc
      rw [List.cons_append, scanFrom_plain (fun h => k.ending_ne_backslash h.1),
        ← Position.behind_concat, ← List.cons_append, ← List.replicate_succ, mapRuns_backslash,
        hbefore]
      exact ih (n + 1) _ base (by rwa [← replicate_cons_backslash]) hbase
    · obtain ⟨hodd, hlater⟩ := (atMarkers_replicate_cons k.ending_ne_backslash hc n raw).1 hraw
      rw [List.cons_append, mapRuns_cons hc, hbefore]
      by_cases hm : k.ending.1 = c ∧ raw.head? = some k.ending.2
      · -- a literal marker: its second character is read as the next one
        obtain ⟨rfl, hhead⟩ := hm
        obtain ⟨tail, rfl⟩ := List.head?_eq_some_iff.1 hhead
        rw [List.cons_append, scanFrom_literal (by
            rw [escapes_replicate n hbase]; exact hodd ⟨rfl, rfl⟩),
          release_replicate n hbase, if_pos ⟨rfl, rfl⟩,
          ← Position.after_of_ne k.ending_ne_newline, ← Position.behind_concat]
        have := ih 0 (before ++ [k.ending.1])
          (k.ending.1 :: (List.replicate (halved n) '\\' ++ base)) hlater (by simp [hc])
        simpa using this
      · have hm' : ¬ (k.ending.1 = c ∧ (raw ++ rest).head? = some k.ending.2) := by
          rintro ⟨rfl, hhead⟩
          cases raw with
          | nil => exact hrest hhead
          | cons d raw => exact hm ⟨rfl, hhead⟩
        rw [scanFrom_plain hm', if_neg hm, ← Position.behind_concat]
        have := ih 0 (before ++ [c]) (c :: (List.replicate n '\\' ++ base)) hlater (by simp [hc])
        simpa using this

/-- The held characters of a segment, as the token of it. -/
theorem emit_content (s : Segment) (before : Text) (ended : Bool) :
    emit s.kind (.behind before) (s.content ended).reverse = s.token? before ended := by
  rw [emit, Segment.token?]
  simp only [List.isEmpty_reverse, List.isEmpty_iff, List.reverse_reverse,
    s.content_eq_nil_iff ended]

theorem scanFrom_last {raw : Text} (h : Literal k raw) (before : Text) :
    scanFrom k (.behind before) (.behind before) [] raw =
      Segment.token? ⟨k, raw⟩ before false := by
  have hraw : scanFrom k (.behind before) (.behind before) _ (raw ++ []) = _ :=
    scanFrom_raw raw [] 0 before [] h.markers (by simp) (by simp)
  simp only [List.replicate_zero, List.append_nil] at hraw
  rw [hraw, scanFrom, ← emit_content]
  rfl

theorem scanFrom_next {raw rest : Text} (h : Literal k raw) (heven : trailing raw % 2 = 0)
    (hk : Alternate k k') (hrest : k'.Admits rest) (before : Text) :
    scanFrom k (.behind before) (.behind before) [] (raw ++ k'.marker ++ rest) =
      Segment.token? ⟨k, raw⟩ before true ++
        scanFrom k' (.behind (before ++ raw ++ k'.marker))
          (.behind (before ++ raw ++ k'.marker)) [] rest := by
  obtain ⟨tail, htail⟩ := hk.marker_eq
  have hraw : scanFrom k (.behind before) (.behind before) _ (raw ++ (k'.marker ++ rest)) = _ :=
    scanFrom_raw raw _ 0 before [] h.markers (by simp)
      (by rw [htail]; simpa using k.ending_fst_ne_snd)
  simp only [List.replicate_zero, List.append_nil] at hraw
  have hrun : escapes (mapRuns k.ending halved id 0 raw).reverse = trailing raw :=
    trailing_mapRuns 0 raw
  have hrelease : release (mapRuns k.ending halved id 0 raw).reverse =
      (Segment.content ⟨k, raw⟩ true).reverse := by
    have := release_reverse (m := k.ending) 0 (mapRuns k.ending halved id 0 raw)
    rw [List.replicate_zero, List.nil_append,
      mapRuns_mapRuns (g := id) halved_eq_zero_iff (fun _ => Iff.rfl)] at this
    rw [this]
    rfl
  rw [List.append_assoc, hraw, scanFrom_boundary hk hrest (by rw [hrun]; exact heven), hrelease,
    ← Position.behind_append k'.newline_notMem_marker]
  exact congrArg (· ++ _) (emit_content ⟨k, raw⟩ before true)

end

/-! ## Cuts -/

theorem Cut.ne_nil {k : Kind} {t : Text} {segments : List Segment} (h : Cut k t segments) :
    ∃ raw rest, segments = ⟨k, raw⟩ :: rest := by
  cases h with
  | last => exact ⟨_, _, rfl⟩
  | next => exact ⟨_, _, rfl⟩

/-- A cut text does not make the marker before it one of another kind. -/
theorem Cut.start {k : Kind} {t : Text} {segments : List Segment} (h : Cut k t segments) :
    k.Admits t := by
  cases h with
  | last hraw => exact hraw.start
  | @next _ k' raw rest _ hraw _ halt _ =>
    cases raw with
    | cons c raw => exact hraw.start.of_head? rfl
    | nil =>
      -- an empty code tag ends at once
      rintro rfl
      obtain ⟨tail, htail⟩ := halt.marker_eq
      simp [htail, Kind.ending]

/-- **The scan gives the tokens of the cut.** -/
theorem scanFrom_of_cut {k : Kind} {t : Text} {segments : List Segment} (h : Cut k t segments)
    (before : Text) :
    scanFrom k (.behind before) (.behind before) [] t = Segment.tokens before segments := by
  induction h generalizing before with
  | last hraw => exact scanFrom_last hraw before
  | next hraw heven halt hrest ih =>
    rw [scanFrom_next hraw heven halt hrest.start, ih]
    obtain ⟨raw', rest', rfl⟩ := hrest.ne_nil
    rfl

/-- A token is a segment of a text, in its place. -/
def IsSegment (t : Text) (token : Token) : Prop :=
  ∃ (pre : Text) (s : Segment) (post : Text) (ended : Bool),
    t = pre ++ s.raw ++ post ∧ token = ⟨s.kind, .behind pre, s.content ended⟩

/-- A token is a segment of a text, in its place, and no marker ends it inside the segment. -/
def IsLiteral (t : Text) (token : Token) : Prop :=
  ∃ (pre : Text) (s : Segment) (post : Text) (ended : Bool), t = pre ++ s.raw ++ post ∧
    token = ⟨s.kind, .behind pre, s.content ended⟩ ∧ Literal s.kind s.raw

theorem IsLiteral.isSegment {t : Text} {token : Token} (h : IsLiteral t token) :
    IsSegment t token := by
  obtain ⟨pre, s, post, ended, ht, htoken, -⟩ := h
  exact ⟨pre, s, post, ended, ht, htoken⟩

/-- Where a token is cut out of a text: its raw text stands in its place, no marker ends the token
    inside it, and one stands behind it, after an even run of backslashes, unless the text ends
    there. -/
structure CutOut (text : Text) (t : Token) (pre raw post : Text) : Prop where
  text_eq : text = pre ++ (raw ++ post)
  position : t.position = .behind pre
  content : t.content = Segment.content ⟨t.kind, raw⟩ (!post.isEmpty)
  literal : Literal t.kind raw
  ended : post = [] ∨ trailing raw % 2 = 0 ∧
    ∃ tail, post = t.kind.ending.1 :: t.kind.ending.2 :: tail

theorem CutOut.isLiteral {text pre raw post : Text} {t : Token} (h : CutOut text t pre raw post) :
    IsLiteral text t := by
  refine ⟨pre, ⟨t.kind, raw⟩, post, !post.isEmpty, by rw [h.text_eq, List.append_assoc], ?_,
    h.literal⟩
  rw [← h.position, ← h.content]

/-- The token of a segment, which is not empty, is cut out there. -/
theorem cutOut_of_token? {k : Kind} {raw before : Text} (post : Text) {token : Token}
    (h : token ∈ Segment.token? ⟨k, raw⟩ before (!post.isEmpty)) (hraw : Literal k raw)
    (hended : post = [] ∨ trailing raw % 2 = 0 ∧
      ∃ tail, post = k.ending.1 :: k.ending.2 :: tail) :
    CutOut (before ++ (raw ++ post)) token before raw post := by
  rw [Segment.token?] at h
  split at h
  · cases h
  · rw [List.mem_singleton.1 h]
    exact ⟨rfl, rfl, rfl, hraw, hended⟩

/-- The tokens of a cut are cut out of the text. -/
theorem Cut.exists_cutOut {k : Kind} {t : Text} {segments : List Segment} (h : Cut k t segments)
    (before : Text) : ∀ token ∈ Segment.tokens before segments,
      ∃ pre raw post, CutOut (before ++ t) token pre raw post := by
  induction h generalizing before with
  | @last k raw hraw =>
    intro token htoken
    have hcut := cutOut_of_token? [] htoken hraw (.inl rfl)
    rw [List.append_nil] at hcut
    exact ⟨before, raw, [], hcut⟩
  | @next k k' raw rest _ hraw heven halt hrest ih =>
    obtain ⟨raw', rest', rfl⟩ := hrest.ne_nil
    obtain ⟨tail, htail⟩ := halt.marker_eq
    intro token htoken
    rcases List.mem_append.1 htoken with htoken | htoken
    · have hpost : k'.marker ++ rest = k.ending.1 :: k.ending.2 :: (tail ++ rest) := by
        rw [htail]
        rfl
      have hcut := cutOut_of_token? (k'.marker ++ rest) (by rw [hpost]; exact htoken) hraw
        (.inr ⟨heven, _, hpost⟩)
      rw [← List.append_assoc raw] at hcut
      exact ⟨before, raw, _, hcut⟩
    · have := ih (before ++ raw ++ k'.marker) token htoken
      simpa only [List.append_assoc] using this

/-! ## There is one cut -/

/-- The first marker after an even run. -/
theorem exists_boundary (k : Kind) : ∀ t, ¬ AtMarkers k.ending (fun n => n % 2 = 1) t →
    ∃ raw rest, t = raw ++ k.ending.1 :: k.ending.2 :: rest ∧
      AtMarkers k.ending (fun n => n % 2 = 1) raw ∧ trailing raw % 2 = 0 := by
  intro t h
  obtain ⟨before, hb⟩ := Classical.not_forall.1 h
  obtain ⟨after, ha⟩ := Classical.not_forall.1 hb
  obtain ⟨rfl, heven⟩ := Classical.not_imp.1 ha
  by_cases hbefore : AtMarkers k.ending (fun n => n % 2 = 1) before
  · exact ⟨before, after, rfl, hbefore, by omega⟩
  · obtain ⟨raw, rest, hsplit, hraw, hrun⟩ := exists_boundary k before hbefore
    exact ⟨raw, rest ++ k.ending.1 :: k.ending.2 :: after, by rw [hsplit]; simp, hraw, hrun⟩
termination_by t => t.length
decreasing_by subst_vars; simp

/-- The two characters that end a token begin a marker. -/
theorem exists_marker (k : Kind) (rest : Text) :
    ∃ k' rest', Alternate k k' ∧ k.ending.1 :: k.ending.2 :: rest = k'.marker ++ rest' ∧
      k'.Admits rest' := by
  cases k with
  | code | expression | directive => exact ⟨.text, rest, by decide, rfl, Kind.admits_text _⟩
  | text =>
    by_cases h₁ : rest.head? = some '='
    · obtain ⟨inside, rfl⟩ := List.head?_eq_some_iff.1 h₁
      exact ⟨.expression, inside, by decide, rfl, fun h => by cases h⟩
    · by_cases h₂ : rest.head? = some '@'
      · obtain ⟨inside, rfl⟩ := List.head?_eq_some_iff.1 h₂
        exact ⟨.directive, inside, by decide, rfl, fun h => by cases h⟩
      · exact ⟨.code, rest, by decide, rfl, fun _ => ⟨h₁, h₂⟩⟩

/-- **Every text has a cut.** -/
theorem exists_cut (k : Kind) : ∀ t : Text, k.Admits t → ∃ segments, Cut k t segments := by
  intro t hstart
  by_cases h : AtMarkers k.ending (fun n => n % 2 = 1) t
  · exact ⟨_, .last ⟨h, hstart⟩⟩
  · obtain ⟨raw, rest, ht, hraw, heven⟩ := exists_boundary k t h
    obtain ⟨k', rest', halt, hmarker, hstart'⟩ := exists_marker k rest
    rw [hmarker, ← List.append_assoc] at ht
    obtain ⟨tail, htail⟩ := halt.marker_eq
    have hlt : rest'.length < t.length := by rw [ht, htail]; simp; omega
    obtain ⟨segments, hcut⟩ := exists_cut k' rest' hstart'
    refine ⟨⟨k, raw⟩ :: segments, ?_⟩
    rw [ht] at hstart ⊢
    refine .next ⟨hraw, ?_⟩ heven halt hcut
    cases raw with
    | nil => exact k.admits_nil
    | cons c raw => exact hstart.of_head? rfl
termination_by t => t.length

/-- **Every token of a text is cut out of it.** -/
theorem exists_cutOut {t : Text} {token : Token} (h : token ∈ scan t) :
    ∃ pre raw post, CutOut t token pre raw post := by
  obtain ⟨segments, hcut⟩ := exists_cut .text t (Kind.admits_text t)
  rw [show scan t = Segment.tokens [] segments from scanFrom_of_cut hcut []] at h
  exact hcut.exists_cutOut [] token h

/-- Every token of a text is a segment of it, in its place. -/
theorem isLiteral_of_mem_scan {t : Text} {token : Token} (h : token ∈ scan t) :
    IsLiteral t token := by
  obtain ⟨pre, raw, post, hcut⟩ := exists_cutOut h
  exact hcut.isLiteral

/-- Two texts before markers that end the same token are the same. -/
theorem boundary_unique {k : Kind} {raw raw' rest rest' : Text}
    (hraw' : AtMarkers k.ending (fun n => n % 2 = 1) raw') (heven : trailing raw % 2 = 0)
    (hpre : ∃ mid, raw' = raw ++ mid ∧
      k.ending.1 :: k.ending.2 :: rest = mid ++ k.ending.1 :: k.ending.2 :: rest') :
    raw = raw' := by
  obtain ⟨mid, rfl, hmid⟩ := hpre
  rcases mid with _ | ⟨c, _ | ⟨d, mid⟩⟩
  · simp
  · -- the markers would overlap in one character
    simp only [List.cons_append, List.nil_append, List.cons.injEq] at hmid
    exact absurd hmid.2.1.symm k.ending_fst_ne_snd
  · simp only [List.cons_append, List.cons.injEq] at hmid
    have := hraw' raw mid (by rw [hmid.1, hmid.2.1])
    omega

/-- A marker and the text after it are determined by their characters. -/
theorem marker_unique {k k₁ k₂ : Kind} {t₁ t₂ : Text} {segments₁ segments₂ : List Segment}
    (h₁ : Alternate k k₁) (h₂ : Alternate k k₂) (hcut₁ : Cut k₁ t₁ segments₁)
    (hcut₂ : Cut k₂ t₂ segments₂) (h : k₁.marker ++ t₁ = k₂.marker ++ t₂) :
    k₁ = k₂ ∧ t₁ = t₂ := by
  have hs₁ := hcut₁.start
  have hs₂ := hcut₂.start
  cases k with
  | text => cases k₁ <;> cases k₂ <;> grind [Kind.marker, Kind.Admits, Alternate]
  | code | expression | directive =>
    obtain rfl : k₁ = .text := Decidable.byContradiction fun hk => by simpa using h₁.2 hk
    obtain rfl : k₂ = .text := Decidable.byContradiction fun hk => by simpa using h₂.2 hk
    exact ⟨rfl, by simpa using h⟩

/-- **A text has one cut only.** -/
theorem Cut.unique {k : Kind} {t : Text} {segments segments' : List Segment}
    (h : Cut k t segments) (h' : Cut k t segments') : segments = segments' := by
  induction h generalizing segments' with
  | @last k raw hraw =>
    cases h' with
    | last => rfl
    | next _ heven halt _ =>
      obtain ⟨tail, htail⟩ := halt.marker_eq
      have := hraw.markers _ _ (by rw [htail, List.append_assoc]; rfl)
      omega
  | @next k k₁ raw₁ rest₁ segments₁ hraw₁ heven₁ halt₁ hcut₁ ih =>
    obtain ⟨tail₁, htail₁⟩ := halt₁.marker_eq
    generalize ht : raw₁ ++ k₁.marker ++ rest₁ = t at h'
    cases h' with
    | last hraw =>
      have := hraw.markers raw₁ (tail₁ ++ rest₁) (by rw [← ht, htail₁]; simp)
      omega
    | @next _ k₂ raw₂ rest₂ segments₂ hraw₂ heven₂ halt₂ hcut₂ =>
      obtain ⟨tail₂, htail₂⟩ := halt₂.marker_eq
      have hsplit : raw₁ ++ k.ending.1 :: k.ending.2 :: (tail₁ ++ rest₁) =
          raw₂ ++ k.ending.1 :: k.ending.2 :: (tail₂ ++ rest₂) := by
        simpa [htail₁, htail₂] using ht
      obtain rfl : raw₁ = raw₂ := by
        rcases List.append_eq_append_iff.1 hsplit with ⟨mid, h₁, h₂⟩ | ⟨mid, h₁, h₂⟩
        · exact boundary_unique hraw₂.markers heven₁ ⟨mid, h₁, h₂⟩
        · exact (boundary_unique hraw₁.markers heven₂ ⟨mid, h₁, h₂⟩).symm
      simp only [List.append_assoc, List.append_cancel_left_eq] at ht
      obtain ⟨rfl, rfl⟩ := marker_unique halt₁ halt₂ hcut₁ hcut₂ ht
      rw [ih hcut₂]

/-- **A text is cut in exactly one way into raw segments, and its tokens are those of the
    segments that are not empty.** -/
theorem scan_eq_tokens (t : Text) : ∃ segments, Cut .text t segments ∧
    (∀ other, Cut .text t other → other = segments) ∧ scan t = Segment.tokens [] segments := by
  obtain ⟨segments, hcut⟩ := exists_cut .text t (Kind.admits_text t)
  exact ⟨segments, hcut, fun _ hother => hother.unique hcut, scanFrom_of_cut hcut []⟩

/-! ## Templates of one token -/

theorem literal_of_no_marker {k : Kind} {raw : Text} (h : ¬ [k.ending.1, k.ending.2] <:+: raw)
    (hstart : k.Admits raw) : Literal k raw := by
  refine ⟨?_, hstart⟩
  rintro before after rfl
  exact absurd ⟨before, after, List.append_assoc before [_, _] after⟩ h

/-- A template without `<#` is one text, unless it is empty. -/
theorem scan_of_no_tag {t : Text} (h : ¬ "<#".toList <:+: t) :
    scan t = if t = [] then [] else [⟨.text, .start, t⟩] := by
  have hcontent : Segment.content ⟨.text, t⟩ false = t :=
    mapRuns_of_no_marker (m := ('<', '#')) h 0 rfl
  have hscan : scan t = Segment.token? ⟨.text, t⟩ [] false :=
    scanFrom_last (literal_of_no_marker (k := .text) h (Kind.admits_text t)) []
  rw [hscan, Segment.token?, hcontent]
  rfl

/-- A template that is a tag is the token inside it. -/
theorem scan_tag {k : Kind} {inside : Text} (hk : k ≠ .text) (hne : inside ≠ [])
    (hstart : k.Admits inside) (h : ¬ "#>".toList <:+: inside) (hend : trailing inside = 0) :
    scan (k.marker ++ (inside ++ "#>".toList)) = [⟨k, .behind k.marker, inside⟩] := by
  have hending : k.ending = ('#', '>') := by
    cases k with
    | text => exact absurd rfl hk
    | code | expression | directive => rfl
  have hnone : ¬ [k.ending.1, k.ending.2] <:+: inside := by rwa [hending]
  have houtside : Literal .text [] := literal_of_no_marker (by simp) (Kind.admits_text [])
  have hinside := literal_of_no_marker hnone hstart
  have hcut : Cut .text ([] ++ k.marker ++ (inside ++ Kind.text.marker ++ []))
      [⟨.text, []⟩, ⟨k, inside⟩, ⟨.text, []⟩] :=
    .next houtside rfl ⟨fun _ => hk, fun _ => rfl⟩
      (.next hinside (by rw [hend]) ⟨fun h => absurd h hk, fun h => absurd rfl h⟩ (.last houtside))
  have hcontent : Segment.content ⟨k, inside⟩ true = inside :=
    mapRuns_of_no_marker hnone 0 (by simp [hend, halved])
  have hscan := scanFrom_of_cut hcut []
  simp only [List.nil_append, List.append_nil] at hscan
  exact hscan.trans (by simp [Segment.tokens, Segment.token?, hne, hcontent])

end Token

end Stencil
