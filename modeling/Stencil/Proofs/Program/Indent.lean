/-
  The first character of a line that is not blank.

  * `indent t`: the number of blanks at the start of a text;
  * `FirstInk row start stop column`: where the first character between two columns of a line
    stands that is not blank;
  * `bareLine? t i`: a line of a text without its line break, of which a carriage return may be a
    part;
  * `SameStart u t`: two texts agree up to their first character that is not blank.

  A token loses backslashes only behind the first character of a line that is not blank, since a
  backslash is no blank: the lines of its content begin as the lines of its raw text
  (`sameStart_mapRuns`).  So a line of a program has the blanks of the line that it repeats
  (`exists_bareLine`), and they lead to the first character of that line in the template
  (`exists_firstInk`).
-/
import Stencil.Proofs.Program.Columns
import Stencil.Proofs.Text.Blanks

namespace Stencil

/-! ## Blanks at the start of a line -/

namespace Text

/-- The number of blanks at the start of a text. -/
def indent (t : Text) : Nat := (t.takeWhile isBlank).length

/-- The line of a text with the number `i`, counted from 0, without its line break: a carriage
    return before the line feed belongs to it. -/
def bareLine? (t : Text) (i : Nat) : Option Text :=
  (lines t)[i]?.map fun line => if i + 1 < (lines t).length then withoutReturn line else line

/-- The column of the first character between two columns of a line that is not blank, or the
    second one of them if there is no such character. -/
structure FirstInk (row : Text) (start stop column : Nat) : Prop where
  le_column : start ≤ column
  column_le : column ≤ stop
  blank : ∀ n c, start ≤ n → n < column → row[n]? = some c → isBlank c = true
  ink : column < stop → ∃ c, row[column]? = some c ∧ isBlank c = false

theorem indent_le_length (t : Text) : indent t ≤ t.length :=
  (List.takeWhile_prefix isBlank).length_le

theorem indent_append {blanks rest : Text} (hblanks : ∀ c ∈ blanks, isBlank c = true)
    (hrest : ∀ c, rest.head? = some c → isBlank c = false) :
    indent (blanks ++ rest) = blanks.length := by
  have hstop : rest.takeWhile isBlank = [] := by
    cases rest with
    | nil => rfl
    | cons c rest => rw [List.takeWhile_cons_of_neg (by simp [hrest c rfl])]
  rw [indent, List.takeWhile_append_of_pos hblanks, hstop, List.append_nil]

theorem indent_replicate_append (n : Nat) (t : Text) :
    indent (List.replicate n ' ' ++ t) = n + indent t := by
  have hspaces : ∀ c ∈ List.replicate n ' ', isBlank c = true := by
    intro c hc
    rw [List.eq_of_mem_replicate hc]
    rfl
  rw [indent, List.takeWhile_append_of_pos hspaces, List.length_append, List.length_replicate,
    indent]

/-- **The blanks of a part of a line lead to its first character that is none.** -/
theorem firstInk_of_part (before part behind : Text) :
    FirstInk (before ++ (part ++ behind)) before.length (before.length + part.length)
      (before.length + indent part) := by
  have hinside : ∀ {n}, n < part.length →
      (before ++ (part ++ behind))[before.length + n]? = part[n]? := by
    intro n hn
    rw [List.getElem?_append_right (Nat.le_add_right _ _), Nat.add_sub_cancel_left,
      List.getElem?_append_left hn]
  have hle := indent_le_length part
  have hsplit := takeWhile_append_trimStart part
  refine ⟨Nat.le_add_right _ _, by omega, fun n c hn hlt hc => ?_, fun hlt => ?_⟩
  · obtain ⟨k, rfl⟩ := Nat.exists_eq_add_of_le hn
    have hk : k < indent part := by omega
    rw [hinside (by omega), ← hsplit, List.getElem?_append_left hk] at hc
    exact List.mem_takeWhile_imp (List.mem_of_getElem? hc)
  · have hlt' : indent part < part.length := by omega
    have hfound : (part.takeWhile isBlank ++ trimStart part)[indent part]? =
        (trimStart part)[0]? := by
      rw [indent, List.getElem?_append_right (Nat.le_refl _), Nat.sub_self]
    rw [hsplit, List.getElem?_eq_getElem hlt', ← List.head?_eq_getElem?] at hfound
    exact ⟨part[indent part], by rw [hinside hlt', List.getElem?_eq_getElem hlt'],
      head?_trimStart hfound.symm⟩

/-- A line without its line break, in front of the rest of the line. -/
theorem exists_of_bareLine? {t bare : Text} {i : Nat} (h : bareLine? t i = some bare) :
    ∃ ending, (lines t)[i]? = some (bare ++ ending) := by
  obtain ⟨line, hline, rfl⟩ := Option.map_eq_some_iff.1 h
  rw [hline]
  split
  · obtain ⟨ending, hending⟩ := exists_withoutReturn line
    exact ⟨ending, congrArg some hending⟩
  · exact ⟨[], by rw [List.append_nil]⟩

/-! ## Texts that begin alike -/

/-- Two texts have the same blanks at the start and the same character behind them. -/
def SameStart (u t : Text) : Prop :=
  ∃ blanks rest rest', t = blanks ++ rest ∧ u = blanks ++ rest' ∧
    (∀ c ∈ blanks, isBlank c = true) ∧ (∀ c, rest.head? = some c → isBlank c = false) ∧
    rest'.head? = rest.head?

theorem SameStart.indent_eq {u t : Text} (h : SameStart u t) : indent u = indent t := by
  obtain ⟨blanks, rest, rest', rfl, rfl, hblanks, hrest, hhead⟩ := h
  rw [indent_append hblanks hrest, indent_append hblanks (hhead ▸ hrest)]

/-- A carriage return is a blank, so it is not the character behind the blanks. -/
theorem head?_withoutReturn {t : Text} (h : ∀ c, t.head? = some c → isBlank c = false) :
    (withoutReturn t).head? = t.head? := by
  cases t with
  | nil => rfl
  | cons c t =>
    rw [withoutReturn_cons fun hc => absurd (h c rfl) (by rw [hc]; decide)]
    rfl

theorem SameStart.withoutReturn {u t : Text} (h : SameStart u t) :
    SameStart (withoutReturn u) (withoutReturn t) := by
  obtain ⟨blanks, rest, rest', rfl, rfl, hblanks, hrest, hhead⟩ := h
  by_cases hnil : rest = []
  · subst hnil
    obtain rfl := List.head?_eq_none_iff.1 hhead
    rw [List.append_nil]
    have hsplit := takeWhile_append_trimStart (Text.withoutReturn blanks)
    exact ⟨_, _, _, hsplit.symm, hsplit.symm, fun c => List.mem_takeWhile_imp,
      fun c => head?_trimStart, rfl⟩
  · have hnil' : rest' ≠ [] := fun h => hnil (List.head?_eq_none_iff.1 (hhead ▸ h ▸ rfl))
    refine ⟨blanks, _, _, withoutReturn_append _ hnil, withoutReturn_append _ hnil', hblanks,
      ?_, ?_⟩
    · rw [head?_withoutReturn hrest]
      exact hrest
    · rw [head?_withoutReturn hrest, head?_withoutReturn (hhead ▸ hrest), hhead]

end Text

open Text (SameStart indent isBlank withoutReturn bareLine? FirstInk)

/-! ## Lines of a token -/

namespace Token

section
variable {m : Char × Char} {f g : Nat → Nat}

/-- Blanks are in no run and begin no marker. -/
theorem mapRuns_append_blanks (h₁ : isBlank m.1 = false) {blanks : Text}
    (hblanks : ∀ c ∈ blanks, isBlank c = true) (rest : Text) :
    mapRuns m f g 0 (blanks ++ rest) = blanks ++ mapRuns m f g 0 rest := by
  induction blanks with
  | nil => rfl
  | cons c blanks ih =>
    obtain ⟨hc, hlater⟩ := List.forall_mem_cons.1 hblanks
    have hbackslash : c ≠ '\\' := by
      rintro rfl
      exact absurd hc (by decide)
    have hmarker : m.1 ≠ c := by
      rintro rfl
      rw [h₁] at hc
      cases hc
    rw [List.cons_append, mapRuns_cons hbackslash, if_neg fun h => hmarker h.1, ih hlater]
    rfl

/-- **Up to the first character that is not blank no backslash is lost.** -/
theorem sameStart_mapRuns (h₁ : isBlank m.1 = false) (hf : ∀ n, f n = 0 ↔ n = 0)
    (hg : ∀ n, g n = 0 ↔ n = 0) (t : Text) : SameStart (mapRuns m f g 0 t) t := by
  have hsplit := Text.takeWhile_append_trimStart t
  have hblanks : ∀ c ∈ t.takeWhile isBlank, isBlank c = true := fun c => List.mem_takeWhile_imp
  refine ⟨t.takeWhile isBlank, Text.trimStart t, mapRuns m f g 0 (Text.trimStart t), hsplit.symm,
    ?_, hblanks, fun c => Text.head?_trimStart, head?_mapRuns hf hg _⟩
  rw [← mapRuns_append_blanks h₁ hblanks, hsplit]

end

end Token

namespace Program

theorem isBlank_spaced (c : Char) : isBlank (spaced c) = isBlank c := by
  unfold spaced
  split
  · next hc =>
    subst hc
    rfl
  · rfl

theorem indent_map_spaced (t : Text) : indent (t.map spaced) = indent t := by
  have hblank : isBlank ∘ spaced = isBlank := funext isBlank_spaced
  rw [indent, List.takeWhile_map, List.length_map, hblank, indent]

/-- **A line of a program has the blanks of the raw line that it is written from**, without the
    line break of the latter. -/
theorem exists_bareLine {m : Char × Char} (h₁ : isBlank m.1 = false) (h₂ : m.2 ≠ '\n')
    {last : Nat → Nat} (hlast : ∀ n, last n = 0 ↔ n = 0) {raw unified : Text} {i : Nat}
    (h : (Text.lines (unifyBreaks (Token.mapRuns m Token.halved last 0 raw)))[i]? = some unified) :
    ∃ bare, bareLine? raw i = some bare ∧ indent unified = indent bare := by
  have hmarker : m.1 ≠ '\n' := by
    rintro h
    rw [h] at h₁
    exact absurd h₁ (by decide)
  have hstart : ∀ {g : Nat → Nat}, (∀ n, g n = 0 ↔ n = 0) → ∀ t,
      SameStart (Token.mapRuns m Token.halved g 0 t) t :=
    fun hg t => Token.sameStart_mapRuns h₁ Token.halved_eq_zero_iff hg t
  induction raw using Text.line_induction generalizing i with
  | last t ht =>
    have hkept := Token.newline_notMem_mapRuns (m := m) Token.halved last ht
    rw [unifyBreaks_of_notMem hkept, Text.lines_of_notMem (newline_notMem_map_spaced hkept)] at h
    obtain ⟨hi, rfl⟩ := List.getElem?_eq_some_iff.1 h
    obtain rfl : i = 0 := by simpa using hi
    refine ⟨t, by simp [bareLine?, Text.lines_of_notMem ht], ?_⟩
    rw [List.getElem_cons_zero, indent_map_spaced, (hstart hlast t).indent_eq]
  | line t rest ht ih =>
    have hid := Token.newline_notMem_mapRuns (m := m) Token.halved id ht
    have hkept := Text.notMem_withoutReturn hid
    rw [Token.mapRuns_append_newline hmarker h₂, unifyBreaks_append_newline hid,
      Text.lines_append_newline (newline_notMem_map_spaced hkept)] at h
    have hlength : 0 < (Text.lines rest).length :=
      List.length_pos_of_ne_nil (Text.lines_ne_nil rest)
    cases i with
    | zero =>
      obtain rfl := Option.some.inj h
      refine ⟨withoutReturn t, by simp [bareLine?, Text.lines_append_newline ht, hlength], ?_⟩
      rw [indent_map_spaced, (hstart (g := id) (fun _ => Iff.rfl) t).withoutReturn.indent_eq]
    | succ i =>
      obtain ⟨bare, hbare, hindent⟩ := ih h
      refine ⟨bare, ?_, hindent⟩
      simpa [bareLine?, Text.lines_append_newline ht] using hbare

/-! ## Lines of a section -/

/-- The part of a line of a text that belongs to a section.  The section is a token that is cut
    out of the text; between the two columns stands a line of its raw text without its line
    break, and `i` is the number of this line in the section. -/
structure Cutting (body : Text) (s : Section) (i : Nat) (line : Text) (start stop : Nat) :
    Prop where
  found : (Text.lines body)[s.position.line + i - 1]? = some line
  start_eq : start = if i = 0 then s.position.column else 0
  stop_le : stop ≤ line.length
  cut : ∃ t ∈ Token.scan body, Resolver.Becomes t.kind s.kind ∧
    t.position = s.position ∧ t.content = s.content ∧ ∃ pre raw post, t.CutOut body pre raw post ∧
      bareLine? raw i = some ((line.take stop).drop start)

/-- **The blanks of a program line lead to the first character of its template line**: the one
    that is not blank, in the part that belongs to the section, or the end of this part. -/
theorem exists_firstInk {body : Text} {t : Token} (ht : t ∈ Token.scan body) {b : Block}
    (hk : Resolver.Becomes t.kind b.part.kind) (hmapped : isMapped b.part = true)
    (hposition : t.position = b.part.position) (hcontent : t.content = b.part.content) {i : Nat}
    {unified : Text} (hi : b.contents[i]? = some unified) :
    ∃ line start stop, Cutting body b.part i line start stop ∧
      FirstInk line start stop (indent (b.lineText i unified)) := by
  obtain ⟨pre, raw, post, hcut⟩ := Token.exists_cutOut ht
  have hending := ending_of_isMapped hk hmapped
  have hlines := hi
  rw [Block.contents, ← hcontent, hcut.content, Token.Segment.content, hending] at hlines
  obtain ⟨bare, hbare, hindent⟩ := exists_bareLine (by decide) (by decide)
    (Token.ite_id_eq_zero_iff Token.halved_eq_zero_iff _) hlines
  obtain ⟨ending, hrow⟩ := Text.exists_of_bareLine? hbare
  obtain ⟨before, behind, hline, hbefore⟩ := exists_line_of_part hrow pre post
  rw [← hcut.text_eq, ← hcut.position, hposition, List.append_assoc] at hline
  have hmargin : before.length = b.margin i := by
    rw [hbefore, ← hcut.position, hposition, Block.margin]
  refine ⟨_, before.length, before.length + bare.length,
    ⟨hline, hmargin, ?_, t, ht, hk, hposition, hcontent, pre, raw, post, hcut, ?_⟩, ?_⟩
  · simp
  · simpa [List.take_append, List.drop_append] using hbare
  · rw [Block.lineText_eq, Text.indent_replicate_append, ← hmargin, hindent]
    exact Text.firstInk_of_part before bare _

end Program

end Stencil
