/-
  The grammar of directives.

  * `Worded content word rest`: the first word of a content, and what stands behind it;
  * `Identifier`: the names of variables, which are the parts of a module path;
  * `Spelled word arguments d`: a first word and attributes spell a directive; the grammar does
    not mention how attributes are read.

  The attributes of an import and of an include are each told by one form (`moduleParts?_iff`,
  `includeArguments?_iff`), and a directive without shorthand is what its words spell
  (`read_eq_ok_iff`).

  Main statement: `directive_grammar`.
-/
import Stencil.Proofs.Resolution.Failure
import Stencil.Proofs.Text.Blanks
import Stencil.Proofs.Text.Pieces

namespace Stencil

namespace Directive

open Text (isBlank Bare)

/-! ## Words -/

/-- The first word of a content, which is free of blanks, and what stands behind it. -/
structure Worded (content word rest : Text) : Prop where
  blank_before : ∃ leading, content = leading ++ (word ++ rest) ∧ ∀ c ∈ leading, isBlank c = true
  nonempty : word ≠ []
  solid : ∀ c ∈ word, isBlank c = false
  /-- The word ends at a blank, or with the content. -/
  apart : ∀ c, rest.head? = some c → isBlank c = true

/-- A content is blank, or it has a first word. -/
theorem blank_or_worded (content : Text) :
    (∀ c ∈ content, isBlank c = true) ∨ ∃ word rest, Worded content word rest := by
  have hstart := Text.takeWhile_append_trimStart content
  have hleading : ∀ c ∈ content.takeWhile isBlank, isBlank c = true :=
    fun c hc => List.mem_takeWhile_imp hc
  cases hbody : Text.trimStart content with
  | nil =>
    rw [hbody, List.append_nil] at hstart
    exact .inl (hstart ▸ hleading)
  | cons c body =>
    refine .inr ⟨(c :: body).takeWhile fun d => !isBlank d, (c :: body).dropWhile fun d => !isBlank d,
      ⟨_, ?_, hleading⟩, ?_, ?_, ?_⟩
    · rw [List.takeWhile_append_dropWhile, ← hbody, hstart]
    · have hc : isBlank c = false := Text.head?_trimStart (t := content) (by rw [hbody]; rfl)
      simp [hc]
    · intro d hd
      simpa using List.mem_takeWhile_imp hd
    · intro d hd
      have := List.head?_dropWhile_not (fun d => !isBlank d) (c :: body)
      rw [hd] at this
      simpa using this

section
variable {content word rest : Text}

theorem Worded.trimStart_eq (h : Worded content word rest) :
    Text.trimStart content = word ++ rest := by
  obtain ⟨leading, rfl, hleading⟩ := h.blank_before
  rw [Text.trimStart_append _ hleading]
  refine Text.trimStart_of_head? fun c hc => h.solid c ?_
  rw [List.head?_append_of_ne_nil _ h.nonempty] at hc
  exact List.mem_of_mem_head? hc

/-- A content is cut behind its first word. -/
theorem Worded.splitAt?_eq (h : Worded content word rest) :
    (Text.splitAt? isBlank (word ++ rest)).getD (word ++ rest, []) = (word, rest.drop 1) := by
  cases hrest : rest with
  | nil =>
    rw [List.append_nil, Text.splitAt?_of_forall h.solid]
    rfl
  | cons c rest =>
    have hc : isBlank c = true := h.apart c (by rw [hrest]; rfl)
    rw [Text.splitAt?_append hc h.solid]
    rfl

theorem Worded.trim_drop (h : Worded content word rest) :
    Text.trim (rest.drop 1) = Text.trim rest := by
  cases hrest : rest with
  | nil => rfl
  | cons c rest =>
    have hc : isBlank c = true := h.apart c (by rw [hrest]; rfl)
    exact (Text.trim_append rest (List.forall_mem_singleton.2 hc)).symm

/-- The name and the attributes of a content, by its first word. -/
theorem Worded.split?_eq (h : Worded content word rest) : split? content = some
    (match Text.splitAt? (· = '=') word with
    | none => (word, Text.trim rest)
    | some (name, value) => (name, if (Text.trim rest).isEmpty then expandShorthand name value
        else expandShorthand name value ++ ' ' :: Text.trim rest)) := by
  have hbody : (word ++ rest).isEmpty = false := by simp [h.nonempty]
  simp only [split?, h.trimStart_eq, hbody, Bool.false_eq_true, if_false, h.splitAt?_eq,
    h.trim_drop]
  cases Text.splitAt? (· = '=') word <;> rfl

theorem Worded.split?_of_plain (h : Worded content word rest) (hplain : '=' ∉ word) :
    split? content = some (word, Text.trim rest) := by
  have hword : Text.splitAt? (· = '=') word = none := by
    refine Text.splitAt?_of_forall fun c hc => ?_
    simpa using fun heq : c = '=' => hplain (heq ▸ hc)
  rw [h.split?_eq, hword]

end

theorem read_of_blank {content : Text} (h : ∀ c ∈ content, isBlank c = true) :
    read content = .error .unknown := by
  have hbody : Text.trimStart content = [] := by
    rw [← List.append_nil content, Text.trimStart_append [] h]
    rfl
  simp [read, split?, hbody]

/-! ## Modules -/

/-- The keywords of Lua. -/
def keywords : List Text :=
  ["and", "break", "do", "else", "elseif", "end", "false", "for", "function", "goto", "if",
    "in", "local", "nil", "not", "or", "repeat", "return", "then", "true", "until",
    "while"].map String.toList

theorem reserved_eq_keywords : reserved = keywords := rfl

/-- A text that can name a variable: ASCII letters, digits and underscores, with no digit at the
    start, and no keyword. -/
structure Identifier (t : Text) : Prop where
  start : ∃ c rest, t = c :: rest ∧ (c.isAlpha = true ∨ c = '_')
  chars : ∀ c ∈ t, c.isAlphanum = true ∨ c = '_'
  free : t ∉ keywords

theorem identifier_iff {t : Text} : isIdentifier t = true ↔ Identifier t := by
  cases t with
  | nil =>
    constructor
    · intro h
      cases h
    · rintro ⟨⟨c, rest, hnil, -⟩, -, -⟩
      cases hnil
  | cons c rest =>
    simp only [isIdentifier, isNameStart, isNameRest, Bool.and_eq_true, Bool.or_eq_true,
      List.all_eq_true, Bool.not_eq_true', List.contains_eq_mem, decide_eq_false_iff_not,
      beq_iff_eq, reserved_eq_keywords]
    constructor
    · rintro ⟨⟨hstart, hrest⟩, hfree⟩
      refine ⟨⟨c, rest, rfl, hstart⟩, List.forall_mem_cons.2 ⟨?_, hrest⟩, hfree⟩
      exact hstart.imp_left fun h => by simp [Char.isAlphanum, h]
    · rintro ⟨⟨d, others, heq, hstart⟩, hchars, hfree⟩
      obtain ⟨rfl, rfl⟩ := List.cons.inj heq
      exact ⟨⟨hstart, (List.forall_mem_cons.1 hchars).2⟩, hfree⟩

theorem Identifier.notMem {t : Text} {c : Char} (h : Identifier t) (hc : c.isAlphanum = false)
    (hunder : c ≠ '_') : c ∉ t := by
  intro hmem
  rcases h.chars c hmem with h | h
  · rw [hc] at h
    cases h
  · exact hunder h

/-- Identifiers with dots between them hold letters, digits, underscores and dots. -/
theorem notMem_join {parts : List Text} {c : Char} (h : ∀ part ∈ parts, Identifier part)
    (hc : c.isAlphanum = false) (hunder : c ≠ '_') (hdot : c ≠ '.') :
    c ∉ Text.join ['.'] parts := by
  intro hmem
  rcases Text.exists_of_mem_join hmem with ⟨part, hpart, hmem⟩ | hmem
  · exact (h part hpart).notMem hc hunder hmem
  · exact hdot (List.mem_singleton.1 hmem)

/-- **The attributes of an import**: identifiers with dots between them, and spaces around them. -/
theorem moduleParts?_iff {arguments : Text} {parts : List Text} :
    moduleParts? arguments = some parts ↔ parts ≠ [] ∧ (∀ part ∈ parts, Identifier part) ∧
      ∃ before behind, (∀ c ∈ before, c = ' ') ∧ (∀ c ∈ behind, c = ' ') ∧
        arguments = longForm "namespace".toList (before ++ (Text.join ['.'] parts ++ behind)) := by
  constructor
  · intro h
    unfold moduleParts? at h
    split at h
    · cases h
    · next name hname =>
      obtain ⟨quoted, hquoted, hclose⟩ := Option.bind_eq_some_iff.1 hname
      rw [Text.stripStart?_eq_some_iff] at hquoted
      rw [Text.stripEnd?_eq_some_iff] at hclose
      simp only [Option.ite_none_right_eq_some, Option.some.injEq] at h
      obtain ⟨hall, rfl⟩ := h
      obtain ⟨before, behind, hspaces, hbefore, hbehind⟩ := Text.exists_strip (· = ' ') name
      refine ⟨Text.splitOn_ne_nil _, fun part hpart => ?_, before, behind, ?_, ?_, ?_⟩
      · exact identifier_iff.1 (List.all_eq_true.1 hall part hpart)
      · simpa using hbefore
      · simpa using hbehind
      · rw [Text.join_splitOn, hquoted, hclose]
        exact congrArg (fun n => "namespace=\"".toList ++ (n ++ ['"'])) hspaces
  · rintro ⟨hne, hall, before, behind, hbefore, hbehind, rfl⟩
    have hspace : ' ' ∉ Text.join ['.'] parts :=
      notMem_join hall (by decide) (by decide) (by decide)
    have hdots : ∀ part ∈ parts, '.' ∉ part :=
      fun part hpart => (hall part hpart).notMem (by decide) (by decide)
    have hname : trimSpaces (before ++ (Text.join ['.'] parts ++ behind)) =
        Text.join ['.'] parts := by
      refine Text.strip_around (by simpa using hbefore) ?_ ?_ (by simpa using hbehind)
      · intro c hc
        simpa using fun heq : c = ' ' => hspace (heq ▸ List.mem_of_mem_head? hc)
      · intro c hc
        simpa using fun heq : c = ' ' => hspace (heq ▸ List.mem_of_getLast? hc)
    have hquotes : (Text.stripStart? "namespace=\"".toList (longForm "namespace".toList
        (before ++ (Text.join ['.'] parts ++ behind)))).bind (Text.stripEnd? ['"']) =
          some (before ++ (Text.join ['.'] parts ++ behind)) :=
      Option.bind_eq_some_iff.2 ⟨_, Text.stripStart?_eq_some_iff.2 rfl,
        Text.stripEnd?_eq_some_iff.2 rfl⟩
    have hparts : parts.all isIdentifier = true :=
      List.all_eq_true.2 fun part hpart => identifier_iff.2 (hall part hpart)
    simp only [moduleParts?, hquotes, hname, Text.splitOn_join hne hdots, hparts, if_true]

/-! ## Files -/

theorem longForm_append (key value behind : Text) :
    longForm key value ++ behind = key ++ "=\"".toList ++ (value ++ '"' :: behind) := by
  simp [longForm]

/-- What stands behind the file name of an include. -/
def onceForm (once : Bool) : Text := if once then longForm "once".toList "true".toList else []

theorem bare_longForm {key : Text} (h : ∀ c ∈ key, isBlank c = false) (value : Text) :
    Bare (longForm key value) := by
  constructor
  · intro c hc
    cases key with
    | nil =>
      cases hc
      decide
    | cons d key =>
      cases hc
      exact h c List.mem_cons_self
  · intro c hc
    rw [longForm, List.getLast?_concat] at hc
    cases hc
    decide

theorem bare_onceForm (once : Bool) : Bare (onceForm once) := by
  cases once
  · constructor
    · intro c hc
      cases hc
    · intro c hc
      cases hc
  · exact bare_longForm (Text.solid_of_all (by decide)) _

/-- The name of a file ends at the first quote. -/
theorem cutFile_iff {arguments file behind : Text} :
    (Text.stripStart? "file=\"".toList arguments).bind (Text.splitAt? (· = '"')) =
        some (file, behind) ↔
      '"' ∉ file ∧ arguments = longForm "file".toList file ++ behind := by
  rw [Option.bind_eq_some_iff, longForm_append]
  simp only [Text.stripStart?_eq_some_iff, Text.splitAt?_eq_some_iff]
  constructor
  · rintro ⟨quoted, rfl, c, rfl, hc, hfree⟩
    obtain rfl : c = '"' := by simpa using hc
    exact ⟨fun hmem => by simpa using hfree _ hmem, rfl⟩
  · rintro ⟨hquote, rfl⟩
    refine ⟨file ++ '"' :: behind, rfl, '"', rfl, by simp, fun c hc => ?_⟩
    simpa using fun heq : c = '"' => hquote (heq ▸ hc)

/-- The request to put a file in once, with blanks around it. -/
theorem trim_eq_onceForm_iff {behind : Text} : Text.trim behind = onceForm true ↔
    ∃ final, Text.stripStart? "once=\"true\"".toList (Text.trimStart behind) = some final ∧
      final.all isBlank = true := by
  constructor
  · intro htrim
    obtain ⟨leading, final, hbehind, hleading, hfinal, -, -⟩ := Text.exists_trim behind
    rw [htrim] at hbehind
    have hstart : Text.trimStart behind = onceForm true ++ final := by
      rw [hbehind, Text.trimStart_append _ hleading]
      exact Text.trimStart_of_head? fun c hc => (bare_onceForm true).first c hc
    refine ⟨final, ?_, List.all_eq_true.2 hfinal⟩
    rw [Text.stripStart?_eq_some_iff, hstart]
    rfl
  · rintro ⟨final, hstrip, hblank⟩
    rw [Text.trim, Text.stripStart?_eq_some_iff.1 hstrip]
    exact Text.trimEnd_append (bare_onceForm true).last (List.all_eq_true.1 hblank)

/-- What may stand behind the name of a file: blanks, or the request to put it in once, with
    blanks before it. -/
theorem includeArguments?_of_cut {arguments file behind : Text}
    (hcut : (Text.stripStart? "file=\"".toList arguments).bind (Text.splitAt? (· = '"')) =
      some (file, behind)) {name : Text} {once : Bool} :
    includeArguments? arguments = some (name, once) ↔ name = file ∧ file ≠ [] ∧
      (∀ c, behind.head? = some c → isBlank c = true) ∧ Text.trim behind = onceForm once := by
  constructor
  · intro h
    simp only [includeArguments?, hcut] at h
    split at h
    · cases h
    · next hne =>
      have hfile : file ≠ [] := by simpa using hne
      split at h
      · next hblank =>
        have hblank : ∀ c ∈ behind, isBlank c = true := List.all_eq_true.1 hblank
        cases h
        exact ⟨rfl, hfile, fun c hc => hblank c (List.mem_of_mem_head? hc),
          Text.trim_eq_nil_iff.2 hblank⟩
      · split at h
        · cases h
        · next final hfinal =>
          simp only [Option.ite_none_right_eq_some, Bool.and_eq_true] at h
          obtain ⟨⟨hgap, hblank⟩, h⟩ := h
          cases h
          exact ⟨rfl, hfile, fun c hc => by simpa [hc] using hgap,
            trim_eq_onceForm_iff.2 ⟨final, hfinal, hblank⟩⟩
  · rintro ⟨rfl, hne, hhead, htrim⟩
    have hname : name.isEmpty = false := by simpa using hne
    cases once with
    | false =>
      have hblank : behind.all isBlank = true := List.all_eq_true.2 (Text.trim_eq_nil_iff.1 htrim)
      simp only [includeArguments?, hcut, hname, hblank, Bool.false_eq_true, if_false, if_true]
    | true =>
      have hsome : behind.all isBlank = false := by
        rw [← Bool.not_eq_true, List.all_eq_true, ← Text.trim_eq_nil_iff, htrim]
        simp [onceForm, longForm]
      have hgap : behind.head?.any isBlank = true := by
        cases hfirst : behind.head? with
        | none =>
          rw [List.head?_eq_none_iff.1 hfirst] at hsome
          cases hsome
        | some c => exact hhead c hfirst
      obtain ⟨final, hstrip, hend⟩ := trim_eq_onceForm_iff.1 htrim
      simp only [includeArguments?, hcut, hname, hsome, hstrip, hgap, hend, Bool.false_eq_true,
        if_false, Bool.and_self, if_true]

/-- **The attributes of an include.** -/
theorem includeArguments?_iff {arguments file : Text} {once : Bool} :
    includeArguments? arguments = some (file, once) ↔ file ≠ [] ∧ '"' ∉ file ∧
      ∃ behind, arguments = longForm "file".toList file ++ behind ∧
        (∀ c, behind.head? = some c → isBlank c = true) ∧ Text.trim behind = onceForm once := by
  constructor
  · intro h
    cases hcut : (Text.stripStart? "file=\"".toList arguments).bind (Text.splitAt? (· = '"')) with
    | none =>
      rw [includeArguments?, hcut] at h
      cases h
    | some cut =>
      obtain ⟨name, behind⟩ := cut
      obtain ⟨rfl, hne, hhead, htrim⟩ := (includeArguments?_of_cut hcut).1 h
      obtain ⟨hquote, harguments⟩ := cutFile_iff.1 hcut
      exact ⟨hne, hquote, behind, harguments, hhead, htrim⟩
  · rintro ⟨hne, hquote, behind, harguments, hhead, htrim⟩
    exact (includeArguments?_of_cut (cutFile_iff.2 ⟨hquote, harguments⟩)).2
      ⟨rfl, hne, hhead, htrim⟩

/-- The attributes of an include, with no blanks around them. -/
theorem includeArguments?_iff_of_bare {arguments file : Text} {once : Bool} (h : Bare arguments) :
    includeArguments? arguments = some (file, once) ↔ file ≠ [] ∧ '"' ∉ file ∧
      ∃ gap, (∀ c ∈ gap, isBlank c = true) ∧ (gap = [] ↔ once = false) ∧
        arguments = longForm "file".toList file ++ (gap ++ onceForm once) := by
  rw [includeArguments?_iff]
  refine and_congr_right fun _ => and_congr_right fun _ => ?_
  constructor
  · rintro ⟨behind, rfl, hhead, htrim⟩
    obtain ⟨gap, final, hbehind, hgap, hfinal, -, -⟩ := Text.exists_trim behind
    rw [htrim] at hbehind
    subst hbehind
    obtain rfl : final = [] := by
      simp only [← List.append_assoc] at h
      exact h.eq_nil_of_blank hfinal
    rw [List.append_nil] at h hhead htrim ⊢
    refine ⟨gap, hgap, ?_, rfl⟩
    cases once with
    | false =>
      rw [onceForm, if_neg (by simp), List.append_nil] at h
      simp [h.eq_nil_of_blank hgap]
    | true =>
      -- the request does not stand directly behind the name
      have : gap ≠ [] := by
        rintro rfl
        exact absurd (hhead 'o' rfl) (by decide)
      simp [this]
  · rintro ⟨gap, hgap, hnil, rfl⟩
    refine ⟨_, rfl, fun c hc => ?_, ?_⟩
    · cases gap with
      | nil =>
        rw [hnil.1 rfl] at hc
        cases hc
      | cons d gap =>
        cases hc
        exact hgap c List.mem_cons_self
    · rw [Text.trim_append _ hgap]
      exact Text.trim_of_bare (bare_onceForm once)

/-! ## Directives -/

/-- A first word without shorthand and attributes without blanks around them spell a directive. -/
inductive Spelled : Text → Text → Directive → Prop
  | importModule {parts before behind} (hparts : parts ≠ []) (hall : ∀ part ∈ parts, Identifier part)
      (hbefore : ∀ c ∈ before, c = ' ') (hbehind : ∀ c ∈ behind, c = ' ') :
      Spelled "import".toList
        (longForm "namespace".toList (before ++ (Text.join ['.'] parts ++ behind)))
        (.importModule (Text.join ['.'] parts) (parts.getLast hparts))
  | includeFile {file} (hfile : file ≠ []) (hquote : '"' ∉ file) :
      Spelled "include".toList (longForm "file".toList file) (.includeFile file false)
  | includeOnce {file gap} (hfile : file ≠ []) (hquote : '"' ∉ file) (hgap : gap ≠ [])
      (hblank : ∀ c ∈ gap, isBlank c = true) :
      Spelled "include".toList
        (longForm "file".toList file ++ (gap ++ longForm "once".toList "true".toList))
        (.includeFile file true)
  /-- Flags may have any attributes. -/
  | appendLibraries {arguments} :
      Spelled "AppendReferenceAssemblies".toList arguments .appendLibraries
  | appendProgram {arguments} : Spelled "AppendGeneraterSource".toList arguments .appendProgram

/-- The fault of a first word that spells no directive. -/
def Fault.ofWord (word : Text) : Fault :=
  if word = "import".toList then .badImport
  else if word = "include".toList then .badInclude
  else .unknown

theorem spelled_import {arguments : Text} {parts : List Text}
    (h : moduleParts? arguments = some parts) :
    Spelled "import".toList arguments
      (.importModule (Text.join ['.'] parts) (parts.getLast?.getD [])) := by
  obtain ⟨hne, hall, before, behind, hbefore, hbehind, rfl⟩ := moduleParts?_iff.1 h
  rw [List.getLast?_eq_some_getLast hne, Option.getD_some]
  exact .importModule hne hall hbefore hbehind

theorem spelled_include {arguments file : Text} {once : Bool} (hbare : Bare arguments)
    (h : includeArguments? arguments = some (file, once)) :
    Spelled "include".toList arguments (.includeFile file once) := by
  obtain ⟨hne, hquote, gap, hblank, hgap, rfl⟩ := (includeArguments?_iff_of_bare hbare).1 h
  cases once with
  | false =>
    rw [hgap.2 rfl, onceForm, if_neg (by simp), List.append_nil, List.append_nil]
    exact .includeFile hne hquote
  | true => exact .includeOnce hne hquote (fun hnil => nomatch hgap.1 hnil) hblank

section
variable {content word rest : Text}

/-- A content is read as a directive that its first word and its attributes spell, or it has the
    fault of its first word. -/
theorem read_cases (h : Worded content word rest) (hplain : '=' ∉ word) :
    (∃ d, read content = .ok d ∧ Spelled word (Text.trim rest) d) ∨
      read content = .error (.ofWord word) := by
  have hbare := Text.bare_trim rest
  have hsplit := h.split?_of_plain hplain
  generalize Text.trim rest = arguments at hbare hsplit ⊢
  rw [read, hsplit]
  dsimp only
  unfold Fault.ofWord
  split
  · next hword =>
    subst hword
    split
    · next parts hparts => exact .inl ⟨_, rfl, spelled_import hparts⟩
    · exact .inr rfl
  · split
    · next hword =>
      subst hword
      split
      · next file once hfile => exact .inl ⟨_, rfl, spelled_include hbare hfile⟩
      · exact .inr rfl
    · split
      · next hword => exact .inl ⟨_, rfl, hword ▸ .appendLibraries⟩
      · split
        · next hword => exact .inl ⟨_, rfl, hword ▸ .appendProgram⟩
        · exact .inr rfl

theorem read_of_spelled (h : Worded content word rest) (hplain : '=' ∉ word) {d : Directive}
    (hd : Spelled word (Text.trim rest) d) : read content = .ok d := by
  have hbare := Text.bare_trim rest
  have hsplit := h.split?_of_plain hplain
  generalize Text.trim rest = arguments at hbare hsplit hd
  rw [read, hsplit]
  cases hd with
  | @importModule parts before behind hparts hall hbefore hbehind =>
    have hmodule := moduleParts?_iff.2 ⟨hparts, hall, before, behind, hbefore, hbehind, rfl⟩
    dsimp only
    rw [if_pos rfl, hmodule]
    dsimp only
    rw [List.getLast?_eq_some_getLast hparts, Option.getD_some]
  | @includeFile file hfile hquote =>
    have hnone : ∀ c ∈ ([] : Text), isBlank c = true := fun c hc => nomatch hc
    have harguments : includeArguments? (longForm "file".toList file) = some (file, false) :=
      (includeArguments?_iff_of_bare hbare).2
        ⟨hfile, hquote, [], hnone, by simp, (List.append_nil _).symm⟩
    dsimp only
    rw [if_neg (by decide), if_pos rfl, harguments]
  | @includeOnce file gap hfile hquote hgap hblank =>
    have harguments : includeArguments? _ = some (file, true) :=
      (includeArguments?_iff_of_bare hbare).2 ⟨hfile, hquote, gap, hblank, by simp [hgap], rfl⟩
    dsimp only
    rw [if_neg (by decide), if_pos rfl, harguments]
  | appendLibraries => rfl
  | appendProgram => rfl

/-- **A first word and its attributes are read as the directive that they spell.** -/
theorem read_eq_ok_iff (h : Worded content word rest) (hplain : '=' ∉ word) (d : Directive) :
    read content = .ok d ↔ Spelled word (Text.trim rest) d := by
  constructor
  · intro hread
    rcases read_cases h hplain with ⟨d', hread', hd'⟩ | hread'
    · exact Except.ok.inj (hread'.symm.trans hread) ▸ hd'
    · rw [hread'] at hread
      cases hread
  · exact read_of_spelled h hplain

/-- A content that spells no directive has the fault of its first word. -/
theorem read_eq_error_iff (h : Worded content word rest) (hplain : '=' ∉ word) (fault : Fault) :
    read content = .error fault ↔
      (∀ d, ¬ Spelled word (Text.trim rest) d) ∧ fault = .ofWord word := by
  constructor
  · intro hread
    rcases read_cases h hplain with ⟨d, hread', -⟩ | hread'
    · rw [hread'] at hread
      cases hread
    · refine ⟨fun d hd => ?_, Except.error.inj (hread.symm.trans hread')⟩
      rw [read_of_spelled h hplain hd] at hread
      cases hread
  · rintro ⟨hnone, rfl⟩
    exact (read_cases h hplain).resolve_left fun ⟨d, _, hd⟩ => hnone d hd

end

end Directive

/-! ## What directives do -/

namespace Resolver

/-- The step of a token that is a directive. -/
def effect (env : Setting) (file : Path) (s : Resolver) (t : Token) : Directive → Step
  | .importModule module binding =>
    .done (s.add ⟨[], [⟨module, binding, file, t.position⟩], false, false, []⟩)
  | .includeFile name once => stepInclude env file s t name once
  | .appendLibraries => .done (s.add ⟨[], [], true, false, []⟩)
  | .appendProgram => .done (s.add ⟨[], [], false, true, []⟩)

/-- The step of a token that is no directive: its error is added. -/
def refusal (file : Path) (s : Resolver) (t : Token) (kind : DirectiveError.Kind) : Step :=
  .done (s.add ⟨[], [], false, false, [⟨kind, file, t.position, t.content⟩]⟩)

section
variable {env : Setting} {file : Path} {s : Resolver} {t : Token}

theorem step_of_ok (hk : t.kind = .directive) {d : Directive} (h : Directive.read t.content = .ok d) :
    step env file s t = effect env file s t d := by
  cases d with
  | importModule module binding => exact step_eq_of_outcome (.imported hk h)
  | includeFile name once => exact step_of_include hk h
  | appendLibraries => exact step_eq_of_outcome (.libraries hk h)
  | appendProgram => exact step_eq_of_outcome (.program hk h)

theorem step_of_error (hk : t.kind = .directive) {fault : Directive.Fault}
    (h : Directive.read t.content = .error fault) :
    step env file s t = refusal file s t (.ofFault fault) :=
  step_eq_of_outcome (.malformed hk h)

end

end Resolver

open Directive Resolver

/-- **Directives without shorthand are accepted exactly by their grammar.**  A content is blank, or
    it has a first word.  A blank content is an unknown directive.  A first word without `=` and
    the attributes behind it are the directive that they spell, and spell only one; if they spell
    none, an `import` and an `include` are invalid, and every other word is unknown.  A
    directive that is spelled is carried out, and one that is not adds its error. -/
theorem directive_grammar (env : Setting) (file : Path) (s : Resolver) (t : Token)
    (hk : t.kind = .directive) :
    ((∀ c ∈ t.content, Text.isBlank c = true) ∨ ∃ word rest, Worded t.content word rest) ∧
    ((∀ c ∈ t.content, Text.isBlank c = true) →
      step env file s t = refusal file s t .unknownDirective) ∧
    ∀ word rest, Worded t.content word rest → '=' ∉ word →
      (∀ d, read t.content = .ok d ↔ Spelled word (Text.trim rest) d) ∧
      (∀ d d', Spelled word (Text.trim rest) d → Spelled word (Text.trim rest) d' → d = d') ∧
      (∀ fault, read t.content = .error fault ↔
        (∀ d, ¬ Spelled word (Text.trim rest) d) ∧ fault = .ofWord word) ∧
      (∀ d, Spelled word (Text.trim rest) d → step env file s t = effect env file s t d) ∧
      ((∀ d, ¬ Spelled word (Text.trim rest) d) →
        (word = "import".toList → step env file s t = refusal file s t .invalidImport) ∧
        (word = "include".toList → step env file s t = refusal file s t .invalidInclude) ∧
        (word ≠ "import".toList → word ≠ "include".toList →
          step env file s t = refusal file s t .unknownDirective)) := by
  refine ⟨blank_or_worded t.content, fun hblank => step_of_error hk (read_of_blank hblank),
    fun word rest h hplain => ⟨read_eq_ok_iff h hplain, fun d d' hd hd' => ?_,
      read_eq_error_iff h hplain, fun d hd => ?_, fun hnone => ?_⟩⟩
  · have hsame := ((read_eq_ok_iff h hplain d).2 hd).symm.trans ((read_eq_ok_iff h hplain d').2 hd')
    exact Except.ok.inj hsame
  · exact step_of_ok hk ((read_eq_ok_iff h hplain d).2 hd)
  · have hstep : step env file s t = refusal file s t (.ofFault (.ofWord word)) :=
      step_of_error hk ((read_eq_error_iff h hplain _).2 ⟨hnone, rfl⟩)
    refine ⟨fun hword => ?_, fun hword => ?_, fun himport hinclude => ?_⟩
    · rw [hstep, hword]
      rfl
    · rw [hstep, hword]
      rfl
    · rw [hstep, Fault.ofWord, if_neg himport, if_neg hinclude]
      rfl

/-- An include directive with other blanks than spaces between its words. -/
def spacedDirective : Token :=
  ⟨.directive, ⟨1, 3⟩, "\tinclude\u2003file=\"x y\"\n once=\"true\" ".toList⟩

theorem directive_grammar_spaced :
    spacedDirective.kind = .directive ∧
    Worded spacedDirective.content "include".toList
      "\u2003file=\"x y\"\n once=\"true\" ".toList ∧
    '=' ∉ "include".toList ∧
    Spelled "include".toList (Text.trim "\u2003file=\"x y\"\n once=\"true\" ".toList)
      (.includeFile "x y".toList true) ∧
    read spacedDirective.content = .ok (.includeFile "x y".toList true) ∧
    ∀ env file s, step env file s spacedDirective =
      stepInclude env file s spacedDirective "x y".toList true := by
  have hworded : Worded spacedDirective.content "include".toList
      "\u2003file=\"x y\"\n once=\"true\" ".toList :=
    ⟨⟨['\t'], by decide +kernel, List.all_eq_true.1 rfl⟩, by decide, Text.solid_of_all (by decide),
      fun c hc => by cases hc; decide⟩
  have htrim : Text.trim "\u2003file=\"x y\"\n once=\"true\" ".toList =
      longForm "file".toList "x y".toList ++
        (['\n', ' '] ++ longForm "once".toList "true".toList) := by
    decide +kernel
  have hspelled : Spelled "include".toList
      (Text.trim "\u2003file=\"x y\"\n once=\"true\" ".toList) (.includeFile "x y".toList true) := by
    rw [htrim]
    exact .includeOnce (by decide) (by decide) (by decide) (List.all_eq_true.1 rfl)
  have h := fun env file s => (directive_grammar env file s spacedDirective rfl).2.2
    "include".toList _ hworded (by decide)
  exact ⟨rfl, hworded, by decide, hspelled,
    ((h ⟨.empty, []⟩ ⟨[]⟩ .start).1 _).2 hspelled, fun env file s => (h env file s).2.2.2.1 _ hspelled⟩

end Stencil
