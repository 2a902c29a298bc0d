/-
  The place of a compile error on its line.

  * `NearToken message token`: at its end the message names the token, in quotes behind `near`,
    from the first place on at which it can begin;
  * `FailsAlike loader source line message`: the text does not load, for the same reason;
  * `Meant`: of the places of the token, the first one behind which the program, cut off there,
    fails for the same reason, or else the first one.

  Main statement: `tokenSpan_placed`.
-/
import Mathlib.Order.Bounds.Defs
import Stencil.Compilation
import Stencil.Proofs.Text.Lines
import Stencil.Proofs.Text.Blanks
import Stencil.Proofs.Text.Occurrences

namespace Stencil.Compilation

open Text (isBlank Bare StandsAt Occurrences)

/-! ## The token of a message -/

/-- What stands before a token in a message. -/
def nearMark : Text := "near '".toList

/-- Behind the text `before` the message names a token in quotes, and ends, blanks aside. A token
    has no line feeds. -/
def Names (message before token : Text) : Prop :=
  '\n' ∉ token ∧ ∃ blanks : Text, (∀ c ∈ blanks, isBlank c = true) ∧
    message = before ++ (nearMark ++ token ++ ['\'']) ++ blanks

/-- The token that the message names from the first place on at which one can begin. -/
def NearToken (message token : Text) : Prop :=
  ∃ before, Names message before token ∧
    ∀ before' token', Names message before' token' → before.length ≤ before'.length

/-- Behind the text `before` a token begins that goes on to the end. -/
def Begins (t before token : Text) : Prop := '\n' ∉ token ∧ t = before ++ (nearMark ++ token)

/-- The token that begins first. -/
def BeginsFirst (t token : Text) : Prop :=
  ∃ before, Begins t before token ∧
    ∀ before' token', Begins t before' token' → before.length ≤ before'.length

theorem begins_cons {c : Char} {rest before token : Text} : Begins (c :: rest) before token ↔
    (before = [] ∧ Begins (c :: rest) [] token) ∨
      ∃ before', before = c :: before' ∧ Begins rest before' token := by
  cases before with
  | nil => simp
  | cons d before =>
    simp only [Begins, List.cons_append, List.cons.injEq, reduceCtorEq, false_and, false_or]
    constructor
    · rintro ⟨hline, rfl, hrest⟩
      exact ⟨before, ⟨rfl, rfl⟩, hline, hrest⟩
    · rintro ⟨before', ⟨rfl, rfl⟩, hline, hrest⟩
      exact ⟨hline, rfl, hrest⟩

theorem BeginsFirst.unique {t token token' : Text} (h : BeginsFirst t token)
    (h' : BeginsFirst t token') : token = token' := by
  obtain ⟨before, ⟨hline, heq⟩, hleast⟩ := h
  obtain ⟨before', ⟨hline', heq'⟩, hleast'⟩ := h'
  have hlength : before.length = before'.length :=
    Nat.le_antisymm (hleast _ _ ⟨hline', heq'⟩) (hleast' _ _ ⟨hline, heq⟩)
  exact List.append_cancel_left ((List.append_inj (heq.symm.trans heq') hlength).2)

/-- If no token begins at the first character, the search goes on behind it. -/
theorem BeginsFirst.cons {c : Char} {rest token : Text}
    (hfirst : ∀ token, ¬ Begins (c :: rest) [] token) (h : BeginsFirst rest token) :
    BeginsFirst (c :: rest) token := by
  obtain ⟨before, hbegins, hleast⟩ := h
  refine ⟨c :: before, begins_cons.2 (.inr ⟨before, rfl, hbegins⟩), fun before' token' h' => ?_⟩
  rcases begins_cons.1 h' with ⟨-, hbegins'⟩ | ⟨behind, rfl, hbegins'⟩
  · exact absurd hbegins' (hfirst token')
  · exact Nat.succ_le_succ (hleast behind token' hbegins')

/-- The search stops at the token that begins first, and fails only if none begins. -/
theorem first_spec (t : Text) :
    (∀ token, nearToken?.first t = some token → BeginsFirst t token) ∧
    (nearToken?.first t = none → ∀ before token, ¬ Begins t before token) := by
  induction t with
  | nil =>
    refine ⟨fun token h => ?_, fun _ before token h => ?_⟩
    · cases h
    · have hmark : nearMark ++ token = [] := (List.append_eq_nil_iff.1 h.2.symm).2
      exact absurd (List.append_eq_nil_iff.1 hmark).1 (by decide)
  | cons c rest ih =>
    have hnext (hfirst : ∀ token, ¬ Begins (c :: rest) [] token) :
        (∀ token, nearToken?.first rest = some token → BeginsFirst (c :: rest) token) ∧
        (nearToken?.first rest = none → ∀ before token, ¬ Begins (c :: rest) before token) := by
      refine ⟨fun token h => (ih.1 token h).cons hfirst, fun h before token hbegins => ?_⟩
      rcases begins_cons.1 hbegins with ⟨-, hbegins'⟩ | ⟨behind, rfl, hbegins'⟩
      · exact hfirst token hbegins'
      · exact ih.2 h behind token hbegins'
    rw [nearToken?.first]
    split
    · next token hstrip =>
      have htoken : c :: rest = nearMark ++ token := Text.stripStart?_eq_some_iff.1 hstrip
      split
      · next hline =>
        refine hnext ?_
        rintro token' ⟨hline', heq⟩
        have := List.append_cancel_left (htoken.symm.trans heq)
        exact hline' (this ▸ List.contains_iff_mem.1 hline)
      · next hline =>
        refine ⟨fun token' h => ?_, fun h => by cases h⟩
        cases h
        exact ⟨[], ⟨fun h => hline (List.contains_iff_mem.2 h), htoken⟩, fun _ _ _ => Nat.zero_le _⟩
    · next hstrip =>
      refine hnext ?_
      rintro token ⟨-, heq⟩
      exact absurd (hstrip.symm.trans (Text.stripStart?_eq_some_iff.2 heq)) nofun

/-- A message names what begins before the quote at its end; the blanks behind it do not count. -/
theorem names_iff {message before token : Text} : Names message before token ↔
    ∃ body, Text.trimEnd message = body ++ ['\''] ∧ Begins body before token := by
  constructor
  · rintro ⟨hline, blanks, hblanks, rfl⟩
    refine ⟨before ++ (nearMark ++ token), ?_, hline, rfl⟩
    rw [Text.trimEnd_append ?_ hblanks]
    · simp
    · intro c hc
      rw [← List.append_assoc, List.getLast?_concat] at hc
      cases hc
      rfl
  · rintro ⟨body, hbody, hline, rfl⟩
    obtain ⟨blanks, hmessage, hblanks⟩ := Text.exists_trimEnd message
    refine ⟨hline, blanks, hblanks, ?_⟩
    rw [hmessage, hbody]
    simp

theorem nearToken?_of_trimEnd {message body : Text} (h : Text.trimEnd message = body ++ ['\'']) :
    nearToken? message = nearToken?.first body := by
  simp [nearToken?, h]

/-- **The token that is found is the one that the message names.** -/
theorem nearToken?_eq_some_iff {message token : Text} :
    nearToken? message = some token ↔ NearToken message token := by
  by_cases hquote : ∃ body, Text.trimEnd message = body ++ ['\'']
  · obtain ⟨body, hbody⟩ := hquote
    have hnames (before token : Text) : Names message before token ↔ Begins body before token := by
      rw [names_iff]
      constructor
      · rintro ⟨body', hbody', hbegins⟩
        rwa [List.append_cancel_right (hbody.symm.trans hbody')]
      · exact fun hbegins => ⟨body, hbody, hbegins⟩
    obtain ⟨hsome, hnone⟩ := first_spec body
    simp only [NearToken, hnames, nearToken?_of_trimEnd hbody]
    constructor
    · exact hsome token
    · rintro ⟨before, hbegins, hleast⟩
      cases hfirst : nearToken?.first body with
      | none => exact absurd hbegins (hnone hfirst before token)
      | some token' =>
        rw [(hsome token' hfirst).unique ⟨before, hbegins, hleast⟩]
  · constructor
    · intro h
      unfold nearToken? at h
      split at h
      · next body hbody =>
        refine absurd ⟨body.reverse, ?_⟩ hquote
        rw [← List.reverse_reverse (Text.trimEnd message), hbody, List.reverse_cons]
      · cases h
    · rintro ⟨before, hnamed, -⟩
      obtain ⟨body, hbody, -⟩ := names_iff.1 hnamed
      exact absurd ⟨body, hbody⟩ hquote

/-! ## The program before a place -/

/-- The program up to a column of a line: the lines before it, and the first characters of the
    line. -/
def upTo (p : Program) (line : Nat) (lineText : Text) (column : Nat) : Text :=
  ((Text.lines p.source).take (line - 1)).flatMap (· ++ ['\n']) ++ lineText.take column

/-- What is cut off is the program before the place. -/
theorem cutAt_eq_upTo {p : Program} {line column : Nat} {lineText : Text}
    (h : p.line? line = some lineText) (hcolumn : column ≤ lineText.length) :
    cutAt p.source line column = upTo p line lineText column := by
  rw [Program.line?] at h
  split at h
  · cases h
  · next hline =>
    obtain ⟨behind, hbehind⟩ := Text.exists_eq_of_line h
    have hbefore := Text.flatten_take_linesInclusive (List.getElem?_eq_some_iff.1 h).1
    have hcut (before : Text) (hsource : p.source = before ++ (lineText ++ behind)) :
        p.source.take (before.length + column) = before ++ lineText.take column := by
      rw [hsource, List.take_length_add_append, List.take_append_of_le_length hcolumn]
    rw [cutAt, hbefore, hcut _ hbehind, upTo]

/-- A text does not load, and the failure is on the line and has the message. -/
def FailsAlike (loader : Loader) (source : Text) (line : Nat) (message : Text) : Prop :=
  ∃ failure, loader source = some failure ∧ failure.line? = some line ∧ failure.message = message

/-- Of the places of a token on a line, the one that a message is about: the first one behind which
    the program, cut off there, fails alike, or the first one of all if there is none such. -/
structure Meant (loader : Loader) (p : Program) (line : Nat) (lineText token message : Text)
    (columns : List Nat) (column : Nat) : Prop where
  failing : (∃ c ∈ columns, FailsAlike loader (upTo p line lineText (c + token.length)) line message) →
    IsLeast {c | c ∈ columns ∧
      FailsAlike loader (upTo p line lineText (c + token.length)) line message} column
  other : (∀ c ∈ columns,
      ¬ FailsAlike loader (upTo p line lineText (c + token.length)) line message) →
    IsLeast {c | c ∈ columns} column

/-! ## The column of a token -/

/-- The first place that satisfies a test is the least one. -/
theorem isLeast_of_find? {test : Nat → Bool} {columns : List Nat} {column : Nat}
    (hascending : columns.Pairwise (· < ·)) (h : columns.find? test = some column) :
    IsLeast {c | c ∈ columns ∧ test c = true} column := by
  obtain ⟨htest, before, behind, rfl, hbefore⟩ := List.find?_eq_some_iff_append.1 h
  refine ⟨⟨List.mem_append_right _ List.mem_cons_self, htest⟩, ?_⟩
  rintro c ⟨hc, htestc⟩
  rcases List.mem_append.1 hc with hc | hc
  · have := hbefore c hc
    simp [htestc] at this
  · rcases List.mem_cons.1 hc with rfl | hc
    · exact Nat.le_refl c
    · have hbehind := (List.pairwise_append.1 hascending).2.1
      exact Nat.le_of_lt ((List.pairwise_cons.1 hbehind).1 c hc)

/-- Whether the program, cut off behind the token in a column, fails alike. -/
def reproduces (loader : Loader) (p : Program) (line : Nat) (token message : Text) (column : Nat) :
    Bool :=
  match loader (cutAt p.source line (column + token.length)) with
  | some failure => failure.line? = some line && failure.message = message
  | none => false

theorem reproduces_iff {loader : Loader} {p : Program} {line column : Nat}
    {lineText token message : Text} (h : p.line? line = some lineText)
    (hcolumn : column + token.length ≤ lineText.length) :
    reproduces loader p line token message column = true ↔
      FailsAlike loader (upTo p line lineText (column + token.length)) line message := by
  rw [reproduces, cutAt_eq_upTo h hcolumn, FailsAlike]
  cases loader (upTo p line lineText (column + token.length)) <;> simp

/-- One place is taken as it is, of several ones the first that fails alike. -/
theorem tokenColumn?_eq (loader : Loader) (p : Program) (line : Nat) (lineText : Text) (a : Char)
    (pattern message : Text) : tokenColumn? loader p line lineText a pattern message =
      (Text.occurrences a pattern 0 lineText).head?.map fun first =>
        ((Text.occurrences a pattern 0 lineText).find?
          (reproduces loader p line (a :: pattern) message)).getD first := by
  unfold tokenColumn?
  split
  · next h => simp [h]
  · next only h =>
    rw [h, List.find?_singleton]
    cases reproduces loader p line (a :: pattern) message only <;> rfl
  · next first rest h =>
    rw [h]
    rfl

/-- The place that is chosen is the one that is meant. -/
theorem meant_getD {loader : Loader} {p : Program} {line : Nat} {lineText token message : Text}
    {first : Nat} {rest : List Nat} (h : p.line? line = some lineText) (htoken : token ≠ [])
    (hcolumns : Occurrences token lineText (first :: rest)) :
    Meant loader p line lineText token message (first :: rest)
      (((first :: rest).find? (reproduces loader p line token message)).getD first) := by
  have hreproduces : ∀ c ∈ first :: rest, (reproduces loader p line token message c = true ↔
      FailsAlike loader (upTo p line lineText (c + token.length)) line message) :=
    fun c hc => reproduces_iff h (((hcolumns.mem_iff c).1 hc).1.le htoken)
  have hset : ∀ c, (c ∈ first :: rest ∧ reproduces loader p line token message c = true) ↔
      (c ∈ first :: rest ∧ FailsAlike loader (upTo p line lineText (c + token.length)) line message) :=
    fun c => and_congr_right fun hc => hreproduces c hc
  cases hfind : (first :: rest).find? (reproduces loader p line token message) with
  | some column =>
    refine ⟨fun _ => ?_, fun hnone => ?_⟩
    · simpa only [hset, Option.getD_some] using isLeast_of_find? hcolumns.ascending hfind
    · have hmem := List.mem_of_find?_eq_some hfind
      exact absurd ((hreproduces column hmem).1 (List.find?_some hfind)) (hnone column hmem)
  | none =>
    refine ⟨fun ⟨c, hc, hfails⟩ => ?_, fun _ => ⟨List.mem_cons_self, fun c hc => ?_⟩⟩
    · exact absurd ((hreproduces c hc).2 hfails) (List.find?_eq_none.1 hfind c hc)
    · rcases List.mem_cons.1 hc with rfl | hc
      · exact Nat.le_refl c
      · exact Nat.le_of_lt ((List.pairwise_cons.1 hcolumns.ascending).1 c hc)

/-! ## The span -/

theorem tokenSpan_of_token (loader : Loader) {p : Program} {line : Nat}
    {lineText token message : Text} (h : p.line? line = some lineText)
    (hnear : NearToken message token) (htoken : token ≠ []) (hoccurs : token <:+: lineText) :
    ∃ columns column, Occurrences token lineText columns ∧
      Meant loader p line lineText token message columns column ∧
      column ∈ columns ∧ tokenSpan loader p line message = (column, token.length) := by
  obtain ⟨a, pattern, rfl⟩ := List.exists_cons_of_ne_nil htoken
  have hcolumns := Text.occurrences_spec a pattern lineText
  obtain ⟨first, rest, hfirst⟩ := List.exists_cons_of_ne_nil (hcolumns.ne_nil hoccurs)
  have hcolumn := tokenColumn?_eq loader p line lineText a pattern message
  rw [hfirst] at hcolumns hcolumn
  refine ⟨first :: rest, _, hcolumns, meant_getD h htoken hcolumns, ?_, ?_⟩
  · cases hfind : (first :: rest).find? (reproduces loader p line (a :: pattern) message) with
    | some column => exact List.mem_of_find?_eq_some hfind
    | none => exact List.mem_cons_self
  · simp only [tokenSpan, h, nearToken?_eq_some_iff.2 hnear, hcolumn]
    rfl

theorem tokenSpan_of_content {loader : Loader} {p : Program} {line : Nat} {lineText message : Text}
    (h : p.line? line = some lineText)
    (hnone : ∀ token, NearToken message token → token ≠ [] → ¬ token <:+: lineText) :
    tokenSpan loader p line message = contentSpan lineText := by
  rw [tokenSpan, h]
  cases hnear : nearToken? message with
  | none => rfl
  | some token =>
    cases token with
    | nil => rfl
    | cons a pattern =>
      have hcolumns := Text.occurrences_spec a pattern lineText
      have hempty : Text.occurrences a pattern 0 lineText = [] := by
        by_contra hne
        obtain ⟨column, hmem⟩ := List.exists_mem_of_ne_nil _ hne
        exact hnone _ (nearToken?_eq_some_iff.1 hnear) (List.cons_ne_nil _ _)
          (Text.exists_standsAt_iff.1 ⟨column, ((hcolumns.mem_iff column).1 hmem).1⟩)
      simp only [tokenColumn?_eq, hempty]
      rfl

/-- **The span of a compile error lies on its line and covers the offending token.**  Without such a
    line it is empty.  If the message names a token that stands on the line, the span is the place
    of the token that is meant; otherwise it is the line without the blanks around it. -/
theorem tokenSpan_placed (loader : Loader) (p : Program) (line : Nat) (message : Text) :
    (p.line? line = none → tokenSpan loader p line message = (0, 0)) ∧
    ∀ lineText, p.line? line = some lineText →
      (tokenSpan loader p line message).1 + (tokenSpan loader p line message).2 ≤ lineText.length ∧
      (∀ token, NearToken message token → token ≠ [] → token <:+: lineText →
        ∃ columns column, Occurrences token lineText columns ∧
          Meant loader p line lineText token message columns column ∧
          tokenSpan loader p line message = (column, token.length) ∧
          (lineText.drop column).take token.length = token) ∧
      ((∀ token, NearToken message token → token ≠ [] → ¬ token <:+: lineText) →
        ∃ leading content trailing, lineText = leading ++ (content ++ trailing) ∧
          (∀ c ∈ leading, isBlank c = true) ∧ (∀ c ∈ trailing, isBlank c = true) ∧ Bare content ∧
          tokenSpan loader p line message = (leading.length, content.length)) := by
  refine ⟨fun h => by rw [tokenSpan, h], fun lineText h => ?_⟩
  have htoken : ∀ token, NearToken message token → token ≠ [] → token <:+: lineText →
      ∃ columns column, Occurrences token lineText columns ∧
        Meant loader p line lineText token message columns column ∧
        StandsAt token lineText column ∧
        tokenSpan loader p line message = (column, token.length) := by
    intro token hnear hne hoccurs
    obtain ⟨columns, column, hcolumns, hmeant, hmem, hspan⟩ :=
      tokenSpan_of_token loader h hnear hne hoccurs
    exact ⟨columns, column, hcolumns, hmeant, ((hcolumns.mem_iff column).1 hmem).1, hspan⟩
  have hcontent : (∀ token, NearToken message token → token ≠ [] → ¬ token <:+: lineText) →
      ∃ leading content trailing, lineText = leading ++ (content ++ trailing) ∧
        (∀ c ∈ leading, isBlank c = true) ∧ (∀ c ∈ trailing, isBlank c = true) ∧ Bare content ∧
        tokenSpan loader p line message = (leading.length, content.length) := by
    intro hnone
    obtain ⟨leading, trailing, hline, hleading, htrailing, hbare, hlength⟩ :=
      Text.exists_trim lineText
    refine ⟨leading, Text.trim lineText, trailing, hline, hleading, htrailing, hbare, ?_⟩
    rw [tokenSpan_of_content h hnone, contentSpan, ← hlength]
    rfl
  refine ⟨?_, fun token hnear hne hoccurs => ?_, hcontent⟩
  · by_cases hoccurs : ∃ token, NearToken message token ∧ token ≠ [] ∧ token <:+: lineText
    · obtain ⟨token, hnear, hne, hoccurs⟩ := hoccurs
      obtain ⟨-, column, -, -, hstands, hspan⟩ := htoken token hnear hne hoccurs
      rw [hspan]
      exact hstands.le hne
    · obtain ⟨leading, content, trailing, hline, -, -, -, hspan⟩ :=
        hcontent fun token hnear hne hin => hoccurs ⟨token, hnear, hne, hin⟩
      rw [hspan, hline]
      simp only [List.length_append]
      omega
  · obtain ⟨columns, column, hcolumns, hmeant, hstands, hspan⟩ := htoken token hnear hne hoccurs
    exact ⟨columns, column, hcolumns, hmeant, hspan, hstands.take_eq⟩

/-- A line on which the offending token stands a second time. -/
def repeatedLine : Text := "x = = 1".toList

/-- The program of that line. -/
def repeatedProgram : Program := ⟨⟨"m".toList⟩, repeatedLine ++ ['\n'], [none]⟩

/-- Why it does not load. -/
def repeatedMessage : Text := "unexpected symbol near '='".toList

/-- The message is about the second equals sign: the program loads alike up to that one only. -/
theorem tokenSpan_placed_repeated :
    repeatedProgram.line? 1 = some repeatedLine ∧ NearToken repeatedMessage ['='] ∧
    ['='] <:+: repeatedLine ∧
    (∃ columns column, Occurrences ['='] repeatedLine columns ∧
      Meant loadFailure? repeatedProgram 1 repeatedLine ['='] repeatedMessage columns column ∧
      tokenSpan loadFailure? repeatedProgram 1 repeatedMessage = (column, 1) ∧
      (repeatedLine.drop column).take 1 = ['=']) ∧
    tokenSpan loadFailure? repeatedProgram 1 repeatedMessage = (4, 1) := by
  have hline : repeatedProgram.line? 1 = some repeatedLine := by decide +kernel
  have hnear : NearToken repeatedMessage ['='] := nearToken?_eq_some_iff.1 (by decide +kernel)
  have hoccurs : ['='] <:+: repeatedLine := ⟨"x ".toList, " = 1".toList, rfl⟩
  have hplaced := (tokenSpan_placed loadFailure? repeatedProgram 1 repeatedMessage).2 _ hline
  exact ⟨hline, hnear, hoccurs, hplaced.2.1 _ hnear (List.cons_ne_nil _ _) hoccurs,
    by decide +kernel⟩

end Stencil.Compilation
