/-
  The include files that discovery offers.

  Discovery takes a file for an include by its extension, in letters of either case
  (`hasExtension_of_mem_includes`); a directive is carried out if the name that it gives ends in a
  dot and the extension, letter by letter.  So a file is found and cannot be included, if its
  extension is written in other letters than the one that is asked for (`supported_iff`).

  * `including name`: a template that includes the file of a name;
  * `resolve_selected`: what such a template resolves to, if it selects a file.

  Main statement: `include_offered`.
-/
import Stencil.Proofs.Directive.Grammar
import Stencil.Proofs.Files.Name
import Stencil.Proofs.Files.Node
import Stencil.Proofs.Resolution.Duplicate
import Stencil.Proofs.Text.Occurrences
import Stencil.Proofs.Token.Segment

namespace Stencil

/-! ## Extensions -/

namespace Discovery

theorem length_eq_of_sameLetters {a b : Text} (h : sameLetters a b = true) : a.length = b.length := by
  have hmap : a.map Char.toLower = b.map Char.toLower := by simpa [sameLetters] using h
  simpa using congrArg List.length hmap

/-- Every include that is found has the extension, in letters of either case. -/
theorem hasExtension_of_mem_includes {tree : FileTree} {c : Criteria} {root p : Path}
    (h : p ∈ (discover tree c root).includes) : hasExtension c.includeExtension p = true := by
  have hfiles : ∀ {files}, p ∈ (Project.ofFiles c files).includes →
      hasExtension c.includeExtension p = true := by
    intro files hp
    have := List.of_mem_filter hp
    simp only [Bool.and_eq_true] at this
    exact this.2
  unfold discover at h
  split at h
  · cases h
  · cases h
  · split at h
    · cases h
    · cases h
    · exact hfiles h
    · cases h
  · exact hfiles h

/-- **A name of a file with the extension in letters of either case is supported if and only if
    its extension is the one that is asked for.** -/
theorem supported_iff {p : Path} {includeExtension name : Text} (hname : p.fileName? = some name)
    (h : hasExtension includeExtension p = true) :
    (Text.stripEnd? ('.' :: includeExtension) name).isSome ↔
      p.extension? = some includeExtension := by
  cases hp : p.extension? with
  | none => simp [hasExtension, hp] at h
  | some extension =>
    have hsame : sameLetters includeExtension extension = true := by
      simpa [hasExtension, hp] using h
    obtain ⟨stem, hne, hfree, rfl⟩ := (Path.extension?_iff_of_fileName? hname).1 hp
    rw [Option.isSome_iff_exists, Option.some.injEq]
    simp only [Text.stripEnd?_eq_some_iff]
    constructor
    · rintro ⟨start, heq⟩
      have hlength : ('.' :: extension).length = ('.' :: includeExtension).length := by
        simp [length_eq_of_sameLetters hsame]
      exact (List.cons.inj (List.append_inj_right' heq hlength)).2
    · rintro rfl
      exact ⟨stem, rfl⟩

end Discovery

/-! ## Including a file by its name -/

open Directive (longForm)

/-- The inside of a directive that includes the file of a name. -/
def inclusion (name : Text) : Text :=
  [' '] ++ ("include".toList ++ ' ' :: (longForm "file".toList name ++ [' ']))

/-- A template that includes the file of a name. -/
def including (name : Text) : Text := "<#@".toList ++ (inclusion name ++ "#>".toList)

/-- The token of that template. -/
def inclusionToken (name : Text) : Token := ⟨.directive, ⟨1, 3⟩, inclusion name⟩

section
variable {name : Text}

theorem scan_including (h : ¬ "#>".toList <:+: name) :
    Token.scan (including name) = [inclusionToken name] := by
  have hform : inclusion name = " include file=\"".toList ++ (name ++ "\" ".toList) := by
    simp [inclusion, longForm]
  have hnone : ¬ "#>".toList <:+: inclusion name := by
    intro hmarker
    rw [hform] at hmarker
    -- the marker has no character of the quotes around the name
    rcases Text.pair_infix_append hmarker with hleft | hmarker | ⟨hlast, -⟩
    · revert hleft
      decide
    · rcases Text.pair_infix_append hmarker with hname | hright | ⟨-, hhead⟩
      · exact h hname
      · revert hright
        decide
      · cases hhead
    · cases hlast
  have hend : Token.trailing (inclusion name) = 0 := by
    have hlast : (inclusion name).getLast? = some ' ' := by
      rw [hform, List.getLast?_append, List.getLast?_append]
      rfl
    by_contra hrun
    have := (Token.trailing_pos_iff _).1 (Nat.pos_of_ne_zero hrun)
    rw [hlast] at this
    cases this
  have hstart : Token.Kind.directive.Admits (inclusion name) := by
    intro hkind
    cases hkind
  exact Token.scan_tag (by decide) (by simp [inclusion]) hstart hnone hend

theorem read_inclusion (hne : name ≠ []) (hquote : '"' ∉ name) :
    Directive.read (inclusion name) = .ok (.includeFile name false) := by
  have hworded : Directive.Worded (inclusion name) "include".toList
      (' ' :: (longForm "file".toList name ++ [' '])) := by
    refine ⟨⟨[' '], rfl, Text.isBlank_space⟩, by decide, Text.solid_of_all (by decide), ?_⟩
    intro c hc
    cases hc
    decide
  have hbare : Text.Bare (longForm "file".toList name) :=
    Directive.bare_longForm (Text.solid_of_all (by decide)) name
  have htrim : Text.trim (' ' :: (longForm "file".toList name ++ [' '])) =
      longForm "file".toList name :=
    Text.trim_around Text.isBlank_space hbare Text.isBlank_space
  refine Directive.read_of_spelled hworded (by decide) ?_
  rw [htrim]
  exact .includeFile hne hquote

end

namespace Resolver

variable {env : Setting} {name : Text} {source : Source}

theorem step_selected (file : Path) (hs : Selects env (inclusionToken name) name false source)
    {text : Text} (htext : source.text = .ok text) :
    step env file .start (inclusionToken name) = .expand source text
      ⟨[source.path.components], [source.path.components], .empty⟩ := by
  refine step_eq_of_outcome (.expanded hs ?_ List.not_mem_nil htext)
  intro honce
  cases honce

theorem fails_selected (hs : Selects env (inclusionToken name) name false source)
    {cause : ReadFailure} (htext : source.text = .error cause) :
    Fails env .start (inclusionToken name) (.ofReadFailure name cause) := by
  refine .unreadable hs ?_ List.not_mem_nil htext
  intro honce
  cases honce

theorem resolve_selected (path : Path) (hscan : Token.scan (including name) = [inclusionToken name])
    (hs : Selects env (inclusionToken name) name false source) {text : Text}
    (htext : source.text = .ok text) :
    resolve env path (including name) = (walk env source.path
      ⟨[source.path.components], [source.path.components], .empty⟩ (Token.scan text)).result := by
  rw [resolve, hscan, walk_expand (step_selected path hs htext), walk_nil]
  rfl

end Resolver

open Resolver Discovery

/-- **What discovery finds can be included if its extension is written as it is asked for.**  Let a
    file be the only one of its name that discovery finds, and let the name have neither quotes nor
    the marker that ends a tag.  Then it is the candidate of its name, and its extension is the one
    that is asked for, in letters of either case.  If it is the same in letters of the same case, a
    template that includes the name selects the file, and resolves to what the file resolves to in
    its place, or to the error that it cannot be read.  If not, every directive that includes the
    name fails, and the template resolves to the error `UnsupportedExtension`. -/
theorem include_offered (tree : FileTree) (c : Criteria) (root : Path) {p : Path} {name : Text}
    (hfound : ((discover tree c root).includes.filter fun q => q.fileName? == some name) = [p])
    (hquote : '"' ∉ name) (hmarker : ¬ "#>".toList <:+: name) :
    let env : Setting := ⟨(discover tree c root).lookup tree, c.includeExtension⟩
    env.lookup.candidates name = [Project.source tree p] ∧
    (∃ extension, p.extension? = some extension ∧
      sameLetters c.includeExtension extension = true) ∧
    (p.extension? = some c.includeExtension →
      Selects env (inclusionToken name) name false (Project.source tree p) ∧
      ∀ path,
        (∀ text, (Project.source tree p).text = .ok text →
          resolve env path (including name) = (walk env p
            ⟨[p.components], [p.components], .empty⟩ (Token.scan text)).result) ∧
        ∀ cause, (Project.source tree p).text = .error cause →
          resolve env path (including name) =
            failure path (inclusionToken name) (.ofReadFailure name cause)) ∧
    (p.extension? ≠ some c.includeExtension →
      (∀ s t once, t.kind = .directive → Directive.read t.content = .ok (.includeFile name once) →
        Fails env s t .unsupportedExtension) ∧
      ∀ path, resolve env path (including name) =
        failure path (inclusionToken name) .unsupportedExtension) := by
  intro env
  have hmem : p ∈ (discover tree c root).includes.filter fun q => q.fileName? == some name :=
    hfound ▸ List.mem_cons_self
  obtain ⟨hincludes, hnamed⟩ := List.mem_filter.1 hmem
  have hfile : p.fileName? = some name := by simpa using hnamed
  have hextension := hasExtension_of_mem_includes hincludes
  have hsupported := supported_iff hfile hextension
  have hsingle : env.lookup.candidates name = [Project.source tree p] := by
    rw [Project.candidates_lookup, hfound, List.map_singleton]
  obtain ⟨extension, hp, hsame⟩ : ∃ extension, p.extension? = some extension ∧
      sameLetters c.includeExtension extension = true := by
    simpa [hasExtension, Option.any_eq_true] using hextension
  have hne : name ≠ [] := by
    obtain ⟨stem, -, -, rfl⟩ := (Path.extension?_iff_of_fileName? hfile).1 hp
    simp
  have hscan := scan_including hmarker
  have hread := read_inclusion hne hquote
  refine ⟨hsingle, ⟨extension, hp, hsame⟩, fun heq => ?_, fun hother => ?_⟩
  · have hselects : Selects env (inclusionToken name) name false (Project.source tree p) :=
      ⟨rfl, hread, hsupported.2 heq, hsingle⟩
    refine ⟨hselects, fun path => ⟨fun text htext => ?_, fun cause htext => ?_⟩⟩
    · exact resolve_selected path hscan hselects htext
    · exact (fails_selected hselects htext).resolve_eq hscan path
  · have hfails : ∀ s t once, t.kind = .directive →
        Directive.read t.content = .ok (.includeFile name once) →
        Fails env s t .unsupportedExtension := by
      intro s t once hk hr
      refine .unsupported hk hr ?_
      rw [← Option.not_isSome_iff_eq_none.trans Option.isNone_iff_eq_none.symm]
      exact fun hsome => hother (hsupported.1 hsome)
    exact ⟨hfails, (hfails _ _ false rfl hread).resolve_eq hscan⟩

/-! ## A directory of one include file -/

namespace Discovery

/-- The criteria of a project without settings. -/
def Criteria.plain : Criteria := ⟨"sgtt".toList, "ttinc".toList, []⟩

theorem includes_single {name bytes : Bytes} (c : Criteria) :
    (discover (.single name bytes) c ⟨[Path.dot]⟩).includes =
      [Path.join ⟨[Path.dot]⟩ ⟨name⟩].filter fun p =>
        !hasExtension c.templateExtension p && hasExtension c.includeExtension p := by
  simp [discover, FileTree.resolve_single, Node.walk, Node.walkEach, Node.isPruned,
    Node.isDirectory, Project.ofFiles]

end Discovery

/-- A file in small letters is selected. -/
theorem include_offered_small :
    ((discover (.single "a.ttinc".toList [65]) .plain ⟨[Path.dot]⟩).includes.filter
      fun q => q.fileName? == some "a.ttinc".toList) = [⟨"./a.ttinc".toList⟩] ∧
    '"' ∉ "a.ttinc".toList ∧ ¬ "#>".toList <:+: "a.ttinc".toList ∧
    Selects ⟨(discover (.single "a.ttinc".toList [65]) .plain ⟨[Path.dot]⟩).lookup
        (.single "a.ttinc".toList [65]), "ttinc".toList⟩
      (inclusionToken "a.ttinc".toList) "a.ttinc".toList false
      (Project.source (.single "a.ttinc".toList [65]) ⟨"./a.ttinc".toList⟩) := by
  have hfound : ((discover (.single "a.ttinc".toList [65]) .plain ⟨[Path.dot]⟩).includes.filter
      fun q => q.fileName? == some "a.ttinc".toList) = [⟨"./a.ttinc".toList⟩] := by
    rw [includes_single]
    decide +kernel
  have hoffered := include_offered _ .plain ⟨[Path.dot]⟩ hfound (by decide) (by decide)
  exact ⟨hfound, by decide, by decide, (hoffered.2.2.1 (by decide +kernel)).1⟩

/-- **A file that discovery finds cannot be included**: its extension is written in capital
    letters. -/
theorem capitals_not_included :
    (discover (.single "a.TTINC".toList [65]) .plain ⟨[Path.dot]⟩).includes =
      [⟨"./a.TTINC".toList⟩] ∧
    (⟨"./a.TTINC".toList⟩ : Path).fileName? = some "a.TTINC".toList ∧
    '"' ∉ "a.TTINC".toList ∧ ¬ "#>".toList <:+: "a.TTINC".toList ∧
    resolve ⟨(discover (.single "a.TTINC".toList [65]) .plain ⟨[Path.dot]⟩).lookup
        (.single "a.TTINC".toList [65]), "ttinc".toList⟩ ⟨"m.sgtt".toList⟩
        (including "a.TTINC".toList) =
      failure ⟨"m.sgtt".toList⟩ (inclusionToken "a.TTINC".toList) .unsupportedExtension := by
  have hmarker : ¬ "#>".toList <:+: "a.TTINC".toList := by decide
  have hread := @read_inclusion "a.TTINC".toList (by decide) (by decide)
  refine ⟨?_, by decide +kernel, by decide, hmarker, ?_⟩
  · rw [includes_single]
    decide +kernel
  · exact (Fails.unsupported rfl hread rfl).resolve_eq (scan_including hmarker) _

end Stencil
