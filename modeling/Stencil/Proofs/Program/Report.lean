/-
  Diagnostics of a program in terms of its template.

  * `IsTemplateSection text s`: the section is a token of the template's text;
  * `Rewritten d d'`: code and message say that a diagnostic is not the template's own;
  * `Reported path text blocks d d'`: what the diagnostic `d` of a program is reported as,
    by the block that its line lies in;
  * `report_own`, `report_foreign`, `report_frame`: the three cases.

  A section ends on a line of the text that it was cut from (`exists_line_of_isSegment`):
  neither halving backslashes nor counting line breaks as the program does changes the
  number of its line feeds.

  Main statement: `report_blocks`.
-/
import Mathlib.Data.List.Forall2
import Stencil.Proofs.Files.Name
import Stencil.Proofs.Program.Layout
import Stencil.Proofs.Token.Segment
import Stencil.Remap

namespace Stencil

open Text (OneLine)
open Program (Block Layout)

/-! ## Lines of a section -/

namespace Program

theorem Block.length_contents (b : Block) :
    b.contents.length = b.part.content.count '\n' + 1 := by
  rw [Block.contents, Text.length_lines, count_unifyBreaks]

end Program

/-- The lines of a segment are lines of the text. -/
theorem exists_line_of_isSegment {text : Text} {t : Token} (h : t.IsSegment text) {i : Nat}
    (hi : i ≤ t.content.count '\n') :
    ∃ line, (Text.lines text)[t.position.line + i - 1]? = some line := by
  obtain ⟨pre, s, post, ended, rfl, rfl⟩ := h
  rw [Token.Segment.content, Token.count_mapRuns (by decide)] at hi
  have hlength := Text.length_lines (pre ++ s.raw ++ post)
  simp only [List.count_append] at hlength
  have hlt : (Position.behind pre).line + i - 1 < (Text.lines (pre ++ s.raw ++ post)).length := by
    simp only [Position.behind]
    omega
  exact ⟨_, List.getElem?_eq_getElem hlt⟩

/-- A token of code or of an expression ends with a closing marker. -/
theorem ending_of_isMapped {t : Token} {s : Section} (h : Resolver.Becomes t.kind s.kind)
    (hmapped : Program.isMapped s = true) : t.kind.ending = ('#', '>') := by
  obtain ⟨kind, position, content⟩ := t
  obtain ⟨_, file, position', content'⟩ := s
  cases h with
  | text => exact absurd hmapped (by simp [Program.isMapped])
  | code | expression => rfl

namespace Remap

/-! ## Cases -/

/-- A section that was cut from the template's own text. -/
def IsTemplateSection (text : Text) (s : Section) : Prop :=
  ∃ t ∈ Token.scan text, Resolver.Becomes t.kind s.kind ∧
    t.position = s.position ∧ t.content = s.content

/-- A diagnostic that is not the template's own says so in its code and its message. -/
structure Rewritten (d d' : Diagnostic) : Prop where
  code : d'.code = "SGTT_".toList ++ d.code
  message : d'.message = match d.severity with
    | .error => "TemplateCompileError ".toList ++ d.message
    | .warning => "TemplateCompileWarning ".toList ++ d.message
    | .info => "TemplateCompileInfo ".toList ++ d.message

/-- What a diagnostic of the program of a template is reported as. -/
structure Reported (path : Path) (text : Text) (blocks : List Block) (d d' : Diagnostic) :
    Prop where
  severity : d'.severity = d.severity
  /-- On a line of a block, the line that it was written from is reported. -/
  line : ∀ b ∈ blocks, ∀ i < b.contents.length, d.location.line = b.first + i →
    d'.location.line = b.part.position.line + i ∧
      d'.location.file.components = b.part.file.components
  /-- On a line of the template's own file, the message stays. -/
  own : ∀ b ∈ blocks, ∀ i < b.contents.length, d.location.line = b.first + i →
    b.part.file.components = path.components →
      d'.location.file = path ∧ d'.code = d.code ∧ d'.message = d.message
  /-- On a line of the template's own text, the reported span is cut off at the end of that line,
      where carriage returns do not count. -/
  within : ∀ b ∈ blocks, ∀ i < b.contents.length, d.location.line = b.first + i →
    b.part.file.components = path.components → IsTemplateSection text b.part →
    ∃ bare returns, (Text.lines text)[b.part.position.line + i - 1]? =
        some (bare ++ List.replicate returns '\r') ∧ bare.getLast? ≠ some '\r' ∧
      d'.location.column = min d.location.column bare.length ∧
      d'.location.length = min d.location.length (bare.length - d'.location.column) ∧
      d'.location.column + d'.location.length ≤ bare.length
  /-- On a line of another file, that line is reported with the columns of the program. -/
  other : ∀ b ∈ blocks, ∀ i < b.contents.length, d.location.line = b.first + i →
    b.part.file.components ≠ path.components → Rewritten d d' ∧ d'.location =
      ⟨b.part.file, b.part.position.line + i, d.location.column, d.location.length⟩
  /-- On a line of the frame, or on none, the start of the template is reported. -/
  frame : (∀ b ∈ blocks, ¬ (b.first ≤ d.location.line ∧ d.location.line < b.behind)) →
    Rewritten d d' ∧ d'.location = ⟨path, 1, 0, 0⟩

section
variable {p : Program} {text : Text} {d : Diagnostic} {origin : Origin}

theorem report_own (h : p.origin? d.location.line = some origin)
    (hfile : origin.file.components = p.template.components) : report p text d =
      { d with location := ⟨p.template, origin.line,
          min d.location.column (width text origin.line),
          min d.location.length
            (width text origin.line - min d.location.column (width text origin.line))⟩ } := by
  rw [report, h]
  simp only [Path.same_iff.2 hfile, if_true]

theorem report_foreign (h : p.origin? d.location.line = some origin)
    (hfile : origin.file.components ≠ p.template.components) : report p text d =
      foreign d ⟨origin.file, origin.line, d.location.column, d.location.length⟩ := by
  rw [report, h]
  simp only [Path.same_iff, hfile, if_false]

theorem report_frame (h : p.origin? d.location.line = none) :
    report p text d = foreign d ⟨p.template, 1, 0, 0⟩ := by
  rw [report, h]

end

theorem rewritten_foreign (d : Diagnostic) (location : Location) :
    Rewritten d (foreign d location) := by
  refine ⟨rfl, ?_⟩
  obtain ⟨code, severity, message, place⟩ := d
  cases severity <;> rfl

theorem severity_report (p : Program) (text : Text) (d : Diagnostic) :
    (report p text d).severity = d.severity := by
  unfold report
  split
  · rfl
  · split <;> rfl

theorem exists_withoutReturns (line : Text) : ∃ returns,
    line = withoutReturns line ++ List.replicate returns '\r' ∧
      (withoutReturns line).getLast? ≠ some '\r' := by
  refine ⟨(line.reverse.takeWhile (· = '\r')).length, ?_, ?_⟩
  · have hreturns : line.reverse.takeWhile (· = '\r') =
        List.replicate (line.reverse.takeWhile (· = '\r')).length '\r' :=
      List.eq_replicate_of_mem fun c hc => by simpa using List.mem_takeWhile_imp hc
    have hsplit := congrArg List.reverse
      (List.takeWhile_append_dropWhile (p := (· = '\r')) (l := line.reverse))
    rw [hreturns, List.reverse_append, List.reverse_replicate, List.reverse_reverse] at hsplit
    exact hsplit.symm
  · rw [withoutReturns, List.getLast?_reverse]
    intro hhead
    have hstop := List.head?_dropWhile_not (· = '\r') line.reverse
    rw [hhead] at hstop
    simp at hstop

/-- The width of a line that exists. -/
theorem width_of_line {text line : Text} {n : Nat} (h : (Text.lines text)[n - 1]? = some line) :
    width text n = (withoutReturns line).length := by
  rw [width, h, Option.getD_some]

/-- **Every diagnostic of a program with a layout is reported by its block.** -/
theorem reported_of_layout {p : Program} {sections : List Section} {blocks : List Block}
    (h : Layout p sections blocks) (text : Text) (d : Diagnostic) :
    Reported p.template text blocks d (report p text d) := by
  have horigin : ∀ b ∈ blocks, ∀ i < b.contents.length, d.location.line = b.first + i →
      p.origin? d.location.line = some ⟨b.part.file, b.part.position.line + i⟩ := by
    intro b hb i hi hline
    rw [hline]
    exact h.origin b hb i hi
  refine ⟨severity_report p text d, ?_, ?_, ?_, ?_, fun hout => ?_⟩
  · intro b hb i hi hline
    by_cases hfile : b.part.file.components = p.template.components
    · rw [report_own (horigin b hb i hi hline) hfile]
      exact ⟨rfl, hfile.symm⟩
    · rw [report_foreign (horigin b hb i hi hline) hfile]
      exact ⟨rfl, rfl⟩
  · intro b hb i hi hline hfile
    rw [report_own (horigin b hb i hi hline) hfile]
    exact ⟨rfl, rfl, rfl⟩
  · rintro b hb i hi hline hfile ⟨t, ht, -, hposition, hcontent⟩
    rw [b.length_contents, ← hcontent] at hi
    obtain ⟨line, hexists⟩ :=
      exists_line_of_isSegment (Token.isLiteral_of_mem_scan ht).isSegment (Nat.le_of_lt_succ hi)
    rw [hposition] at hexists
    rw [report_own (horigin b hb i (by rwa [b.length_contents, ← hcontent]) hline) hfile]
    obtain ⟨returns, hline, hbare⟩ := exists_withoutReturns line
    refine ⟨withoutReturns line, returns, hline ▸ hexists, hbare, ?_, ?_, ?_⟩
    · rw [width_of_line hexists]
    · rw [width_of_line hexists]
    · simp only [width_of_line hexists]
      omega
  · intro b hb i hi hline hfile
    rw [report_foreign (horigin b hb i hi hline) hfile]
    exact ⟨rewritten_foreign d _, rfl⟩
  · rw [report_frame (h.frame _ hout)]
    exact ⟨rewritten_foreign d _, rfl⟩

/-! ## Names of templates -/

theorem oneLine_displayName {p : Path} (h : OneLine p.text) :
    OneLine (Program.displayName p) := by
  unfold Program.displayName
  cases hname : p.shownName? with
  | none => exact h
  | some name => exact Path.oneLine_shownName hname h

/-! ## Programs of templates -/

/-- A program has a layout if its name and the paths of its files hold no line breaks. -/
theorem exists_layout_of_oneLine (env : Resolver.Setting) (path : Path) (text : Text)
    {template : Path} (locale : Option Text) (hname : OneLine (Program.displayName template))
    (hpath : OneLine path.text)
    (hlookup : ∀ source ∈ env.lookup.sources, OneLine source.path.text) :
    ∃ blocks, Layout (Program.write (resolve env path text) template locale)
      (resolve env path text).sections blocks := by
  have himports : ∀ i ∈ (resolve env path text).imports, OneLine (Program.importLine i).text := by
    intro i hi
    have hfrom := imports_resolve env path text i hi
    refine Program.oneLine_importLine hfrom.oneLine.1 hfrom.oneLine.2 ?_
    rcases hfrom.known with hfile | ⟨source, hsource, hfile⟩
    · exact hfile ▸ hpath
    · exact hfile ▸ hlookup source hsource
  exact Program.exists_layout template (Program.woven_write _ template locale)
    (Program.oneLine_linesOf hname himports locale)

/-- The program of a template has a layout if the paths of its files hold no line breaks. -/
theorem exists_layout_write (env : Resolver.Setting) (path : Path) (text : Text)
    (locale : Option Text) (hpath : OneLine path.text)
    (hlookup : ∀ source ∈ env.lookup.sources, OneLine source.path.text) :
    ∃ blocks, Layout (Program.write (resolve env path text) path locale)
      (resolve env path text).sections blocks :=
  exists_layout_of_oneLine env path text locale (oneLine_displayName hpath) hpath hlookup

/-- **A diagnostic is reported where its program line was written from.**  For a template and
    include files whose paths hold no line breaks, the program has a layout, and whatever
    diagnostics of it are given, each of them is reported once and in its place, by the block
    that its line lies in. -/
theorem report_blocks (env : Resolver.Setting) (path : Path) (text : Text) (locale : Option Text)
    (hpath : OneLine path.text)
    (hlookup : ∀ source ∈ env.lookup.sources, OneLine source.path.text) :
    ∃ blocks, Layout (Program.write (resolve env path text) path locale)
        (resolve env path text).sections blocks ∧
      ∀ diagnostics : List Diagnostic, List.Forall₂ (Reported path text blocks) diagnostics
        (diagnostics.map
          (report (Program.write (resolve env path text) path locale) text)) := by
  obtain ⟨blocks, hlayout⟩ := exists_layout_write env path text locale hpath hlookup
  refine ⟨blocks, hlayout, fun diagnostics => ?_⟩
  rw [List.forall₂_map_right_iff]
  exact List.forall₂_same.2 fun d _ => reported_of_layout hlayout text d

/-- A lookup with one file of code. -/
def codeFile : Resolver.Setting where
  lookup := ⟨[⟨⟨"a.t".toList⟩, .ok "<# x = #>".toList⟩]⟩
  includeExtension := "t".toList

/-- A template that includes the file of code between code and an expression of its own. -/
def codeTemplate : Text := "<# y =\r\n1 #><#@ include=\"a.t\" #><#= 2 #>".toList

/-- Diagnostics on the template's own code, on the included code and on no line. -/
def codeDiagnostics : List Diagnostic :=
  [⟨"W1".toList, .warning, "unused".toList, ⟨⟨"m.lua".toList⟩, 12, 1, 40⟩⟩,
    ⟨"E1".toList, .error, "unknown".toList, ⟨⟨"m.lua".toList⟩, 14, 0, 1⟩⟩,
    ⟨"E2".toList, .error, "lost".toList, ⟨⟨"m.lua".toList⟩, 0, 7, 7⟩⟩]

/-- What these diagnostics are reported as. -/
def codeReports : List Diagnostic :=
  [⟨"W1".toList, .warning, "unused".toList, ⟨⟨"m".toList⟩, 2, 1, 31⟩⟩,
    ⟨"SGTT_E1".toList, .error, "TemplateCompileError unknown".toList, ⟨⟨"a.t".toList⟩, 1, 0, 1⟩⟩,
    ⟨"SGTT_E2".toList, .error, "TemplateCompileError lost".toList, ⟨⟨"m".toList⟩, 1, 0, 0⟩⟩]

theorem resolve_codeTemplate : resolve codeFile ⟨"m".toList⟩ codeTemplate =
    ⟨[⟨.code, ⟨"m".toList⟩, ⟨1, 2⟩, " y =\r\n1 ".toList⟩, ⟨.code, ⟨"a.t".toList⟩, ⟨1, 2⟩, " x = ".toList⟩,
      ⟨.expression, ⟨"m".toList⟩, ⟨2, 27⟩, " 2 ".toList⟩], [], false, false, []⟩ := by
  let t : Token := ⟨.directive, ⟨2, 7⟩, " include=\"a.t\" ".toList⟩
  have hscan : Token.scan codeTemplate =
      [⟨.code, ⟨1, 2⟩, " y =\r\n1 ".toList⟩, t, ⟨.expression, ⟨2, 27⟩, " 2 ".toList⟩] := by
    cbv
  have hbody : Token.scan "<# x = #>".toList = [⟨.code, ⟨1, 2⟩, " x = ".toList⟩] := by
    cbv
  have hselects : Resolver.Selects codeFile t "a.t".toList false
      ⟨⟨"a.t".toList⟩, .ok "<# x = #>".toList⟩ :=
    ⟨rfl, by decide +kernel, rfl, rfl⟩
  rw [resolve, hscan, Resolver.walk_done (Resolver.step_eq_of_outcome (.plain rfl)),
    Resolver.walk_expand (Resolver.step_eq_of_outcome
      (.expanded hselects (by simp) List.not_mem_nil rfl)),
    hbody, Resolver.walk_done (Resolver.step_eq_of_outcome (.plain rfl)), Resolver.walk_nil,
    Resolver.walk_done (Resolver.step_eq_of_outcome (.plain rfl)), Resolver.walk_nil]
  rfl

theorem report_blocks_code :
    OneLine "m".toList ∧ (∀ source ∈ codeFile.lookup.sources, OneLine source.path.text) ∧
    codeDiagnostics.map
        (report (Program.write (resolve codeFile ⟨"m".toList⟩ codeTemplate) ⟨"m".toList⟩ none)
          codeTemplate) = codeReports ∧
    ∃ blocks, Layout (Program.write (resolve codeFile ⟨"m".toList⟩ codeTemplate) ⟨"m".toList⟩ none)
        (resolve codeFile ⟨"m".toList⟩ codeTemplate).sections blocks ∧
      List.Forall₂ (Reported ⟨"m".toList⟩ codeTemplate blocks) codeDiagnostics codeReports := by
  have hpath : OneLine "m".toList := by decide
  have hlookup : ∀ source ∈ codeFile.lookup.sources, OneLine source.path.text := by decide
  have hreports : codeDiagnostics.map
      (report (Program.write (resolve codeFile ⟨"m".toList⟩ codeTemplate) ⟨"m".toList⟩ none)
        codeTemplate) = codeReports := by
    rw [resolve_codeTemplate]
    decide +kernel
  obtain ⟨blocks, hlayout, hreported⟩ :=
    report_blocks codeFile ⟨"m".toList⟩ codeTemplate none hpath hlookup
  exact ⟨hpath, hlookup, hreports, blocks, hlayout, hreports ▸ hreported codeDiagnostics⟩

end Remap

end Stencil
