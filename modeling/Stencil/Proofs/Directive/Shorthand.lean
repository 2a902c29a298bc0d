/-
  Directives in shorthand.

  The first word of a directive may carry an attribute, as in `include="x"`.  It is taken apart,
  and the attribute is put before the others with one space between them, while the long form is
  read as it was written.  So both forms have the same attributes up to the blanks behind the first
  one (`SameBehind`), and these do not matter: an import has no second attribute, and an include
  admits any blanks there (`moduleParts?_congr`, `includeArguments?_congr`).

  * `Resolver.SameEffect`: two directives in one place do the same, but for the content that an
    error quotes.

  Main statement: `shorthand_effect`.
-/
import Stencil.Proofs.Directive.Grammar

namespace Stencil

namespace Directive

open Text (isBlank Bare)

/-! ## Attributes and what stands behind them -/

/-- The texts behind an attribute differ in blanks only. -/
structure SameBehind (behind behind' : Text) : Prop where
  apart : ∀ c, behind.head? = some c → isBlank c = true
  apart' : ∀ c, behind'.head? = some c → isBlank c = true
  trim_eq : Text.trim behind = Text.trim behind'
  nil_iff : behind = [] ↔ behind' = []

theorem SameBehind.symm {behind behind' : Text} (h : SameBehind behind behind') :
    SameBehind behind' behind :=
  ⟨h.apart', h.apart, h.trim_eq.symm, h.nil_iff.symm⟩

section
variable {key value behind behind' : Text}

/-- An attribute at the start of a text is the only one that ends before a blank, if its value has
    no blanks. -/
theorem longForm_inj {key' value' : Text} (hkey : '=' ∉ key) (hkey' : '=' ∉ key')
    (hvalue : ∀ c ∈ value, isBlank c = false) (hvalue' : '"' ∉ value')
    (hbehind' : ∀ c, behind'.head? = some c → isBlank c = true)
    (h : longForm key value ++ behind = longForm key' value' ++ behind') :
    key = key' ∧ value = value' ∧ behind = behind' := by
  have hform : ∀ k v u : Text, longForm k v ++ u = k ++ '=' :: '"' :: (v ++ '"' :: u) := by
    intro k v u
    rw [longForm_append, List.append_assoc]
    rfl
  rw [hform, hform] at h
  obtain ⟨rfl, hrest⟩ := Text.append_cons_inj hkey hkey' h
  replace hrest := (List.cons.inj hrest).2
  by_cases hquote : '"' ∈ value
  · -- the value of the second attribute would end before a character of the first value
    obtain ⟨start, rest, rfl, hstart⟩ := List.eq_append_cons_of_mem hquote
    rw [List.append_assoc, List.cons_append] at hrest
    obtain ⟨rfl, rfl⟩ := Text.append_cons_inj hstart hvalue' hrest
    exfalso
    cases rest with
    | nil =>
      have hblank := hbehind' _ rfl
      exact absurd hblank (by decide)
    | cons c rest =>
      have hblank := hbehind' c rfl
      rw [hvalue c (by simp)] at hblank
      cases hblank
  · exact ⟨rfl, Text.append_cons_inj hquote hvalue' hrest⟩

theorem includeArguments?_congr (hkey : '=' ∉ key) (hvalue : ∀ c ∈ value, isBlank c = false)
    (h : SameBehind behind behind') :
    includeArguments? (longForm key value ++ behind) =
      includeArguments? (longForm key value ++ behind') := by
  have hmono : ∀ {u u' : Text}, SameBehind u u' → ∀ p,
      includeArguments? (longForm key value ++ u) = some p →
        includeArguments? (longForm key value ++ u') = some p := by
    rintro u u' h ⟨file, once⟩ hread
    obtain ⟨hne, hquote, rest, heq, hhead, htrim⟩ := includeArguments?_iff.1 hread
    obtain ⟨rfl, rfl, rfl⟩ := longForm_inj hkey (by decide) hvalue hquote hhead heq
    exact includeArguments?_iff.2 ⟨hne, hquote, u', rfl, h.apart', h.trim_eq ▸ htrim⟩
  refine Option.ext fun p => ?_
  exact ⟨hmono h p, hmono h.symm p⟩

theorem moduleParts?_congr (hkey : '=' ∉ key) (hvalue : ∀ c ∈ value, isBlank c = false)
    (h : SameBehind behind behind') :
    moduleParts? (longForm key value ++ behind) = moduleParts? (longForm key value ++ behind') := by
  have hmono : ∀ {u u' : Text}, SameBehind u u' → ∀ parts,
      moduleParts? (longForm key value ++ u) = some parts →
        moduleParts? (longForm key value ++ u') = some parts := by
    intro u u' h parts hread
    obtain ⟨-, hall, before, after, hbefore, hafter, heq⟩ := moduleParts?_iff.1 hread
    have hspaces : ∀ {t : Text}, (∀ c ∈ t, c = ' ') → '"' ∉ t :=
      fun ht hmem => absurd (ht _ hmem) (by decide)
    have hquote : '"' ∉ before ++ (Text.join ['.'] parts ++ after) := by
      simp only [List.mem_append, not_or]
      exact ⟨hspaces hbefore, notMem_join hall (by decide) (by decide) (by decide), hspaces hafter⟩
    -- nothing stands behind the attribute of an import
    rw [← List.append_nil (longForm "namespace".toList _)] at heq
    obtain ⟨-, -, rfl⟩ := longForm_inj hkey (by decide) hvalue hquote (by intro c hc; cases hc) heq
    rwa [h.nil_iff.1 rfl]
  refine Option.ext fun parts => ?_
  exact ⟨hmono h parts, hmono h.symm parts⟩

end

/-- Attributes that are read alike belong to the same directive. -/
theorem read_congr {content content' name arguments arguments' : Text}
    (h : split? content = some (name, arguments)) (h' : split? content' = some (name, arguments'))
    (hmodule : moduleParts? arguments = moduleParts? arguments')
    (hfile : includeArguments? arguments = includeArguments? arguments') :
    read content = read content' := by
  rw [read, read, h, h']
  dsimp only
  rw [hmodule, hfile]

/-! ## Both forms -/

/-- What stands behind an attribute in shorthand, and what stands behind it in the long form. -/
theorem sameBehind_trimEnd {tail : Text} (h : ∀ c, tail.head? = some c → isBlank c = true) :
    SameBehind (if (Text.trim tail).isEmpty then [] else ' ' :: Text.trim tail)
      (Text.trimEnd tail) := by
  obtain ⟨trailing, htail, hblanks⟩ := Text.exists_trimEnd tail
  have htrim : Text.trim (Text.trimEnd tail) = Text.trim tail := by
    obtain ⟨leading, trailing', hend, hleading, htrailing', hbare, -⟩ :=
      Text.exists_trim (Text.trimEnd tail)
    have hmiddle : tail = leading ++ (Text.trim (Text.trimEnd tail) ++ (trailing' ++ trailing)) := by
      rw [hend, List.append_assoc, List.append_assoc] at htail
      exact htail
    have hbehind := List.forall_mem_append.2 ⟨htrailing', hblanks⟩
    exact (Text.trim_around hleading hbare hbehind).symm.trans (congrArg Text.trim hmiddle.symm)
  have hnil : Text.trimEnd tail = [] ↔ Text.trim tail = [] := by
    constructor
    · intro hend
      rw [← htrim, hend]
      rfl
    · intro hnone
      have hall := Text.trim_eq_nil_iff.1 hnone
      have := Text.trimEnd_append (t := []) (by intro c hc; cases hc) hall
      rwa [List.nil_append] at this
  refine ⟨fun c hc => ?_, fun c hc => h c ?_, ?_, ?_⟩
  · split at hc
    · cases hc
    · cases hc
      decide
  · rw [htail, List.head?_append, hc]
    rfl
  · rw [htrim]
    split
    · next hnone => exact (List.isEmpty_iff.1 hnone).symm
    · have hspace : Text.trim (' ' :: Text.trim tail) = Text.trim (Text.trim tail) :=
        Text.trim_append _ Text.isBlank_space
      exact hspace.trans (Text.trim_of_bare (Text.bare_trim tail))
  · rw [hnil]
    split
    · next hnone => simpa using hnone
    · next hsome => simpa using hsome

section
variable {leading name key value word tail : Text}

theorem worded_longForm (hleading : ∀ c ∈ leading, isBlank c = true)
    (hname : ∀ c ∈ name, isBlank c = false) (hvalue : ∀ c ∈ value, isBlank c = false)
    (htail : ∀ c, tail.head? = some c → isBlank c = true) :
    Worded (leading ++ (longForm name value ++ tail)) (longForm name value) tail := by
  refine ⟨⟨leading, rfl, hleading⟩, by simp [longForm], fun c hc => ?_, htail⟩
  simp only [longForm, List.mem_append, List.mem_singleton] at hc
  rcases hc with ((hc | hc) | hc) | rfl
  · exact hname c hc
  · exact Text.solid_of_all (by decide) c hc
  · exact hvalue c hc
  · decide

/-- **A directive in shorthand has the attribute that its first word carries.** -/
theorem split?_shorthand (hleading : ∀ c ∈ leading, isBlank c = true)
    (hname : ∀ c ∈ name, isBlank c = false) (hplain : '=' ∉ name)
    (hword : ∀ c ∈ word, isBlank c = false)
    (htail : ∀ c, tail.head? = some c → isBlank c = true)
    (hexpand : expandShorthand name ('"' :: (word ++ ['"'])) = longForm key value) :
    split? (leading ++ (longForm name word ++ tail)) = some (name, longForm key value ++
      if (Text.trim tail).isEmpty then [] else ' ' :: Text.trim tail) := by
  have hcut : Text.splitAt? (· = '=') (longForm name word) =
      some (name, '"' :: (word ++ ['"'])) := by
    have hform : longForm name word = name ++ '=' :: '"' :: (word ++ ['"']) := by simp [longForm]
    rw [hform]
    refine Text.splitAt?_append (by simp) fun c hc => ?_
    simpa using fun heq : c = '=' => hplain (heq ▸ hc)
  rw [(worded_longForm hleading hname hword htail).split?_eq, hcut]
  dsimp only
  rw [hexpand]
  split
  · rw [List.append_nil]
  · rfl

/-- The attributes of a directive whose first attribute stands behind a space. -/
theorem split?_long (hleading : ∀ c ∈ leading, isBlank c = true) (hne : name ≠ [])
    (hname : ∀ c ∈ name, isBlank c = false) (hplain : '=' ∉ name)
    (hkey : ∀ c ∈ key, isBlank c = false) :
    split? (leading ++ (name ++ ' ' :: (longForm key value ++ tail))) =
      some (name, longForm key value ++ Text.trimEnd tail) := by
  have hworded : Worded (leading ++ (name ++ ' ' :: (longForm key value ++ tail))) name
      (' ' :: (longForm key value ++ tail)) := by
    refine ⟨⟨leading, rfl, hleading⟩, hne, hname, fun c hc => ?_⟩
    cases hc
    decide
  have hbare := bare_longForm hkey value
  have hfirst : ∀ c, (longForm key value ++ tail).head? = some c → isBlank c = false := by
    intro c hc
    rw [List.head?_append_of_ne_nil _ (by simp [longForm])] at hc
    exact hbare.first c hc
  rw [hworded.split?_of_plain hplain, ← List.singleton_append,
    Text.trim_append _ Text.isBlank_space, Text.trim, Text.trimStart_of_head? hfirst,
    Text.trimEnd_append_of_getLast? _ hbare.last]

/-- **A directive in shorthand is read as its long form.** -/
theorem read_shorthand (hleading : ∀ c ∈ leading, isBlank c = true) (hne : name ≠ [])
    (hname : ∀ c ∈ name, isBlank c = false) (hplain : '=' ∉ name)
    (hword : ∀ c ∈ word, isBlank c = false)
    (htail : ∀ c, tail.head? = some c → isBlank c = true)
    (hkey : '=' ∉ key ∧ ∀ c ∈ key, isBlank c = false) (hvalue : ∀ c ∈ value, isBlank c = false)
    (hexpand : expandShorthand name ('"' :: (word ++ ['"'])) = longForm key value) :
    read (leading ++ (longForm name word ++ tail)) =
      read (leading ++ (name ++ ' ' :: (longForm key value ++ tail))) :=
  read_congr (split?_shorthand hleading hname hplain hword htail hexpand)
    (split?_long hleading hne hname hplain hkey.2)
    (moduleParts?_congr hkey.1 hvalue (sameBehind_trimEnd htail))
    (includeArguments?_congr hkey.1 hvalue (sameBehind_trimEnd htail))

theorem unquoted?_quoted (word : Text) : unquoted? ('"' :: (word ++ ['"'])) = some word :=
  Option.bind_eq_some_iff.2
    ⟨word ++ ['"'], Text.stripStart?_eq_some_iff.2 rfl, Text.stripEnd?_eq_some_iff.2 rfl⟩

/-- A word without `=` is the value of the main attribute. -/
theorem expandShorthand_plain (name : Text) (h : '=' ∉ word) :
    expandShorthand name ('"' :: (word ++ ['"'])) = longForm (mainAttribute name) word := by
  have hcut : Text.splitAt? (· = '=') word = none := by
    refine Text.splitAt?_of_forall fun c hc => ?_
    simpa using fun heq : c = '=' => h (heq ▸ hc)
  rw [expandShorthand, unquoted?_quoted]
  dsimp only
  rw [hcut]

/-- A word with `=` names its attribute. -/
theorem expandShorthand_named (name value : Text) (h : '=' ∉ key) :
    expandShorthand name ('"' :: (key ++ '=' :: value ++ ['"'])) = longForm key value := by
  have hcut : Text.splitAt? (· = '=') (key ++ '=' :: value) = some (key, value) := by
    refine Text.splitAt?_append (by simp) fun c hc => ?_
    simpa using fun heq : c = '=' => h (heq ▸ hc)
  rw [expandShorthand, unquoted?_quoted]
  dsimp only
  rw [hcut]

end

end Directive

/-! ## Effects -/

namespace Resolver

/-- Two directives in one place of a file do the same in a state: they lead to the same state, or
    to the same state with an error of the same kind, which quotes the directive. -/
def SameEffect (env : Setting) (file : Path) (s : Resolver) (t t' : Token) : Prop :=
  ∃ s', (walk env file s [t] = s' ∧ walk env file s [t'] = s') ∨
    ∃ kind, walk env file s [t] = s'.add (failure file t kind) ∧
      walk env file s [t'] = s'.add (failure file t' kind)

/-- **Directives that are read alike have the same effect.** -/
theorem sameEffect_of_read {env : Setting} {file : Path} {s : Resolver} {position : Position}
    {content content' : Text} (h : Directive.read content = Directive.read content') :
    SameEffect env file s ⟨.directive, position, content⟩ ⟨.directive, position, content'⟩ := by
  have hselects : ∀ {name once source}, Selects env ⟨.directive, position, content⟩ name once source →
      Selects env ⟨.directive, position, content'⟩ name once source :=
    fun hs => ⟨rfl, h.symm.trans hs.read, hs.supported, hs.single⟩
  -- a step that ends in the same state, and one that adds the error of its directive
  have hdone : ∀ {s' : Resolver}, step env file s ⟨.directive, position, content⟩ = .done s' →
      step env file s ⟨.directive, position, content'⟩ = .done s' →
      SameEffect env file s ⟨.directive, position, content⟩ ⟨.directive, position, content'⟩ := by
    intro s' hstep hstep'
    exact ⟨s', .inl ⟨by rw [walk_done hstep, walk_nil], by rw [walk_done hstep', walk_nil]⟩⟩
  have hfail : ∀ {s' : Resolver} {kind : DirectiveError.Kind},
      step env file s ⟨.directive, position, content⟩ =
        .done (s'.add (failure file ⟨.directive, position, content⟩ kind)) →
      step env file s ⟨.directive, position, content'⟩ =
        .done (s'.add (failure file ⟨.directive, position, content'⟩ kind)) →
      SameEffect env file s ⟨.directive, position, content⟩ ⟨.directive, position, content'⟩ := by
    intro s' kind hstep hstep'
    exact ⟨s', .inr ⟨kind, by rw [walk_done hstep, walk_nil], by rw [walk_done hstep', walk_nil]⟩⟩
  generalize hstep : step env file s ⟨.directive, position, content⟩ = result at hdone hfail
  have ho : Outcome env file s ⟨.directive, position, content⟩ result := hstep ▸ outcome_step
  cases ho with
  | plain hk => cases hk
  | malformed hk hr => exact hfail rfl (step_eq_of_outcome (.malformed rfl (h ▸ hr)))
  | imported hk hr => exact hdone rfl (step_eq_of_outcome (.imported rfl (h ▸ hr)))
  | libraries hk hr => exact hdone rfl (step_eq_of_outcome (.libraries rfl (h ▸ hr)))
  | program hk hr => exact hdone rfl (step_eq_of_outcome (.program rfl (h ▸ hr)))
  | unsupported hk hr he => exact hfail rfl (step_eq_of_outcome (.unsupported rfl (h ▸ hr) he))
  | notFound hk hr he hc => exact hfail rfl (step_eq_of_outcome (.notFound rfl (h ▸ hr) he hc))
  | duplicated hk hr he hc => exact hfail rfl (step_eq_of_outcome (.duplicated rfl (h ▸ hr) he hc))
  | skipped hs hc => exact hdone rfl (step_eq_of_outcome (.skipped (hselects hs) hc))
  | cyclic hs hc ha => exact hfail rfl (step_eq_of_outcome (.cyclic (hselects hs) hc ha))
  | unreadable hs hc ha ht =>
    exact hfail rfl (step_eq_of_outcome (.unreadable (hselects hs) hc ha ht))
  | expanded hs hc ha ht =>
    have hstep' : step env file s ⟨.directive, position, content'⟩ = _ :=
      step_eq_of_outcome (.expanded (hselects hs) hc ha ht)
    exact ⟨_, .inl ⟨walk_expand hstep [], walk_expand hstep' []⟩⟩

end Resolver

open Directive Resolver

/-- **A directive in shorthand has the effect of its long form.**  In every state `n="v"` does what
    `n key="v"` does, where the key is `namespace` for an import and `file` for every other name,
    and `n="k=v"` does what `n k="v"` does, with the same text behind both: they lead to the same
    sections, imports, flags, errors, chosen and active files, and if they fail, to an error of
    the same kind in the same place. -/
theorem shorthand_effect (env : Setting) (file : Path) (s : Resolver) (position : Position)
    {leading name value tail : Text} (hleading : ∀ c ∈ leading, Text.isBlank c = true)
    (hne : name ≠ []) (hname : ∀ c ∈ name, Text.isBlank c = false) (hplain : '=' ∉ name)
    (hvalue : ∀ c ∈ value, Text.isBlank c = false)
    (htail : ∀ c, tail.head? = some c → Text.isBlank c = true) :
    ('=' ∉ value → SameEffect env file s
      ⟨.directive, position, leading ++ (longForm name value ++ tail)⟩
      ⟨.directive, position, leading ++ (name ++ ' ' ::
        (longForm (if name = "import".toList then "namespace".toList else "file".toList) value ++
          tail))⟩) ∧
    ∀ key, (∀ c ∈ key, Text.isBlank c = false) → '=' ∉ key → SameEffect env file s
      ⟨.directive, position, leading ++ (longForm name (key ++ '=' :: value) ++ tail)⟩
      ⟨.directive, position, leading ++ (name ++ ' ' :: (longForm key value ++ tail))⟩ := by
  constructor
  · intro hnone
    have hmain : '=' ∉ mainAttribute name ∧ ∀ c ∈ mainAttribute name, Text.isBlank c = false := by
      unfold mainAttribute
      split
      · exact ⟨by decide, Text.solid_of_all (by decide)⟩
      · exact ⟨by decide, Text.solid_of_all (by decide)⟩
    exact sameEffect_of_read (read_shorthand hleading hne hname hplain hvalue htail hmain hvalue
      (expandShorthand_plain name hnone))
  · intro key hkey hfree
    have hword : ∀ c ∈ key ++ '=' :: value, Text.isBlank c = false :=
      List.forall_mem_append.2 ⟨hkey, List.forall_mem_cons.2 ⟨by decide, hvalue⟩⟩
    exact sameEffect_of_read (read_shorthand hleading hne hname hplain hword htail ⟨hfree, hkey⟩
      hvalue (expandShorthand_named name value hfree))

/-- One include file, which can be read. -/
def Resolver.Setting.oneFile : Setting := ⟨⟨[⟨⟨"a.t".toList⟩, .ok ['A']⟩]⟩, ['t']⟩

/-- An include that names its attribute, with a line break before the second one. -/
theorem shorthand_effect_once :
    (∀ c ∈ [' '], Text.isBlank c = true) ∧ "include".toList ≠ [] ∧
    (∀ c ∈ "include".toList, Text.isBlank c = false) ∧ '=' ∉ "include".toList ∧
    (∀ c ∈ "a.t".toList, Text.isBlank c = false) ∧
    (∀ c, "\n once=\"true\" ".toList.head? = some c → Text.isBlank c = true) ∧
    '=' ∉ "a.t".toList ∧ (∀ c ∈ "file".toList, Text.isBlank c = false) ∧ '=' ∉ "file".toList ∧
    SameEffect .oneFile ⟨"m".toList⟩ .start
      ⟨.directive, ⟨1, 3⟩, " include=\"a.t\"\n once=\"true\" ".toList⟩
      ⟨.directive, ⟨1, 3⟩, " include file=\"a.t\"\n once=\"true\" ".toList⟩ ∧
    SameEffect .oneFile ⟨"m".toList⟩ .start
      ⟨.directive, ⟨1, 3⟩, " include=\"file=a.t\"\n once=\"true\" ".toList⟩
      ⟨.directive, ⟨1, 3⟩, " include file=\"a.t\"\n once=\"true\" ".toList⟩ := by
  have hname : ∀ c ∈ "include".toList, Text.isBlank c = false := Text.solid_of_all (by decide)
  have hvalue : ∀ c ∈ "a.t".toList, Text.isBlank c = false := Text.solid_of_all (by decide)
  have hkey : ∀ c ∈ "file".toList, Text.isBlank c = false := Text.solid_of_all (by decide)
  have htail : ∀ c, "\n once=\"true\" ".toList.head? = some c → Text.isBlank c = true := by
    intro c hc
    cases hc
    decide
  have h := shorthand_effect .oneFile ⟨"m".toList⟩ .start ⟨1, 3⟩ Text.isBlank_space (by decide) hname
    (by decide) hvalue htail
  exact ⟨Text.isBlank_space, by decide, hname, by decide, hvalue, htail, by decide, hkey, by decide,
    h.1 (by decide), h.2 _ hkey (by decide)⟩

end Stencil
