/-
  Runs that are asked to stop.

  A request to stop is looked for before each template, while it is rendered, and behind a template
  without a text.  Up to the look that finds it, a run goes the way of the run without a request.

  Main statement: the summary of a run that is asked to stop begins the summary of the whole run,
  and its entries are the files that were written (`generate_cancelled`).
-/
import Stencil.Proofs.Files.Here
import Stencil.Proofs.Generation.Course

namespace Stencil

open Cancellation

namespace Generation

variable {job : Job} {p : Project} {tree : FileTree} {flag : Flag} {r : Run}
  {templates : List (Path × Text)}

/-- **A run that is asked to stop gives the first files of the run that is not**, and all of it
    unless it stops. -/
theorem Runs.exists_never [Lua.Locales] (h : Runs job p tree flag templates r) :
    ∃ full, Runs job p tree .never templates full ∧ r.files <+: full.files ∧
      (r.ending ≠ .cancelled → r = full) := by
  induction h with
  | done => exact ⟨_, .done, List.prefix_rfl, fun _ => rfl⟩
  | stopped | interrupted =>
    exact ⟨_, runs_generateFrom .., List.nil_prefix, fun hending => absurd rfl hending⟩
  | unread hflag hrender _ ih =>
    obtain ⟨full, hfull, hfiles, hall⟩ := ih
    refine ⟨_, .unread rfl (rendering_never hrender (by simp)) hfull, ?_, ?_⟩
    · simpa using hfiles
    · intro hending
      have hsame := Run.afterNothing_of_ne hending
      rw [Run.after_ending, hsame] at hending
      rw [hsame, hall hending]
      rfl
  | unwritable hflag hrender hwrite =>
    exact ⟨_, .unwritable rfl (rendering_never hrender (by simp)) hwrite, List.prefix_rfl,
      fun _ => rfl⟩
  | written hflag hrender hwrite _ ih =>
    obtain ⟨full, hfull, hfiles, hall⟩ := ih
    refine ⟨_, .written rfl (rendering_never hrender (by simp)) hwrite hfull, ?_, ?_⟩
    · simpa using hfiles
    · intro hending
      rw [hall hending]

end Generation

/-- **A run that is asked to stop is a prefix of the run that is not.**  Its summary has the first
    files of the whole one, and all of them unless it stops.  No other files are written, each
    with the text that its template gives; two of them go to one place only if one of their paths
    is a link. -/
theorem generate_cancelled [Lua.Locales] (job : Job) (tree : FileTree) (flag : Flag)
    (hext : '/' ∉ job.outputExtension) :
    let r := generate job tree flag
    let full := generate job tree .never
    let p := job.project tree
    r.files <+: full.files ∧ (r.ending ≠ .cancelled → r = full) ∧
    ∃ turns left, Generation.Course job p tree (job.names p) turns left r.tree ∧
      r.files = turns.filterMap (Generation.Turn.entry job) ∧
      (∀ place, r.tree.top.fileAt? place ≠ tree.top.fileAt? place →
        Generation.Touches job r.tree turns place) ∧
      (∀ before template g after, turns = before ++ ⟨template, some g⟩ :: after →
        r.tree.readText (job.pathOf g) = .ok g.text ∨
          ∃ place, r.tree.LeadsTo (job.pathOf g) place ∧
            Generation.Touches job r.tree after place) ∧
      ((∀ f ∈ r.files, ¬ r.tree.IsLink f.path) →
        ∀ turn ∈ turns, ∀ g ∈ turn.generated?, r.tree.readText (job.pathOf g) = .ok g.text) := by
  intro r full p
  have hruns := Generation.runs_generateFrom job p tree flag (job.names p)
  obtain ⟨whole, hwhole, hfiles, hall⟩ := hruns.exists_never
  obtain rfl := hwhole.eq_generateFrom
  obtain ⟨turns, left, hcourse, hentries, -⟩ := hruns.exists_course
  refine ⟨hfiles, fun hending => congrArg (Run.after p.events) (hall hending), turns, left, hcourse,
    hentries, ?_, ?_, ?_⟩
  · intro place hchanged
    by_contra hnot
    exact hchanged (hcourse.grows.files place hnot)
  · rintro before template g after rfl
    exact hcourse.readText_or
  · intro hlinks turn hturn g hg
    refine hcourse.readText hext (fun g' hg' => ?_) hturn hg
    obtain ⟨turn', hturn', hg'⟩ := List.mem_filterMap.1 hg'
    refine hlinks (job.entryOf turn'.template g') ?_
    rw [show r.files = _ from hentries]
    exact Generation.mem_entries_iff.2 ⟨turn', hturn', g', hg', rfl⟩

/-! ## A project of two templates -/

/-- The job of a current directory without settings. -/
def Job.plain : Job :=
  ⟨⟨[Path.dot]⟩, ⟨[Path.dot]⟩, "sgtt".toList, "ttinc".toList, "cs".toList, none, .standard⟩

/-- The files of two templates whose directives are unknown. -/
def refusedFiles : List (Bytes × Node) :=
  [("a.sgtt".toList, .file (Text.Utf8.encode "<#@ bad #>".toList)),
    ("b.sgtt".toList, .file (Text.Utf8.encode "<#@ bad #>".toList))]

/-- A project of these templates, in whose directory there may be more files. -/
def refusedTree (more : List (Bytes × Node)) : FileTree := ⟨.directory (refusedFiles ++ more), []⟩

/-- What such a template gives: a file of comments. -/
def refusal (template : Path) (name : Text) : Generated where
  fileName := name
  text := (Resolution.ofError
    ⟨.unknownDirective, template, ⟨1, 3⟩, " bad ".toList⟩).errorComments
  outcome := .directiveErrors
  diagnostics := []

theorem rendering_refused [Lua.Locales] {p : Project} {tree : FileTree} {template : Path}
    {name : Text} (hread : tree.readText template = .ok "<#@ bad #>".toList) (flag : Flag) :
    Generation.rendering .plain p tree template name flag =
      (.generated (refusal template name) none, flag) := by
  set request := Job.plain.request p tree template name
  have htext : request.template.text = .ok "<#@ bad #>".toList := by
    simp only [request, Job.request, Project.source, hread]
  have hrefused : (Rendering.resolution Job.plain.includeExtension request
      "<#@ bad #>".toList).isOk = false := by
    rw [resolution_unknown]
    rfl
  have hends : Rendering.Ends (.lua Job.plain.libraries) Job.plain.includeExtension request flag
    _ _ := .refused htext hrefused
  rw [resolution_unknown] at hends
  exact hends.eq_render

theorem names_refused : Job.plain.names (Job.plain.project (refusedTree [])) =
    [(⟨"./a.sgtt".toList⟩, "a.cs".toList), (⟨"./b.sgtt".toList⟩, "b.cs".toList)] := by
  have hwalk : (Node.directory (refusedFiles ++ [])).walk [] ⟨[Path.dot]⟩ =
      [⟨"./a.sgtt".toList⟩, ⟨"./b.sgtt".toList⟩] := by
    rw [Node.walk, List.mergeSort_of_pairwise (by decide +kernel)]
    rfl
  have hproject : Job.plain.project (refusedTree []) =
      .ofFiles Job.plain.criteria [⟨"./a.sgtt".toList⟩, ⟨"./b.sgtt".toList⟩] := by
    rw [← hwalk, Job.project, Discovery.discover, refusedTree]
    simp only [Job.plain, FileTree.resolve_here]
    rfl
  rw [hproject]
  decide +kernel

/-- The file of the first template. -/
def refusedA : Bytes × Node :=
  ("a.cs".toList, .file (Text.Utf8.encode "// ./a.sgtt(1,4) [UnknownDirective]: bad\n".toList))

/-- The file of the second template. -/
def refusedB : Bytes × Node :=
  ("b.cs".toList, .file (Text.Utf8.encode "// ./b.sgtt(1,4) [UnknownDirective]: bad\n".toList))

theorem readText_refused (more : List (Bytes × Node)) :
    (refusedTree more).readText ⟨"./a.sgtt".toList⟩ = .ok "<#@ bad #>".toList ∧
    (refusedTree more).readText ⟨"./b.sgtt".toList⟩ = .ok "<#@ bad #>".toList :=
  have ha : Path.Descends ⟨"./a.sgtt".toList⟩ ["a.sgtt".toList] := by decide +kernel
  have hb : Path.Descends ⟨"./b.sgtt".toList⟩ ["b.sgtt".toList] := by decide +kernel
  ⟨FileTree.readText_of_descends ha ⟨_, rfl⟩ rfl, FileTree.readText_of_descends hb ⟨_, rfl⟩ rfl⟩

theorem write_refused :
    (refusedTree []).write (Job.plain.pathOf (refusal ⟨"./a.sgtt".toList⟩ "a.cs".toList))
      (refusal ⟨"./a.sgtt".toList⟩ "a.cs".toList).text = .ok (refusedTree [refusedA]) ∧
    (refusedTree [refusedA]).write (Job.plain.pathOf (refusal ⟨"./b.sgtt".toList⟩ "b.cs".toList))
      (refusal ⟨"./b.sgtt".toList⟩ "b.cs".toList).text = .ok (refusedTree [refusedA, refusedB]) :=
  have ha : Path.Descends ⟨"./a.cs".toList⟩ ["a.cs".toList] := by decide +kernel
  have hb : Path.Descends ⟨"./b.cs".toList⟩ ["b.cs".toList] := by decide +kernel
  ⟨FileTree.write_here ha (by decide +kernel) rfl, FileTree.write_here hb (by decide +kernel) rfl⟩

/-- The entries of the files in a summary. -/
def refusedEntries : List GeneratedFile :=
  [⟨⟨"./a.sgtt".toList⟩, ⟨"./a.cs".toList⟩, .directiveErrors, []⟩,
    ⟨⟨"./b.sgtt".toList⟩, ⟨"./b.cs".toList⟩, .directiveErrors, []⟩]

/-- A run that finds no request at its two looks writes both files. -/
theorem exists_generate_refused [Lua.Locales] {flag : Flag} (hfirst : flag.isSet = false)
    (hsecond : flag.afterLook.isSet = false) : ∃ events, generate .plain (refusedTree []) flag =
      ⟨refusedEntries, .completed, refusedTree [refusedA, refusedB], events⟩ := by
  have hruns := Generation.Runs.written (p := Job.plain.project (refusedTree [])) hfirst
    (rendering_refused (readText_refused []).1 _) write_refused.1
    (.written hsecond (rendering_refused (readText_refused [refusedA]).2 _) write_refused.2 .done)
  rw [← names_refused] at hruns
  exact ⟨_, Generation.generate_eq_of_runs hruns⟩

/-- A run that finds a request at its second look writes the first file. -/
theorem exists_generate_stopped [Lua.Locales] : ∃ events, generate .plain (refusedTree []) ⟨some 1⟩ =
      ⟨refusedEntries.take 1, .cancelled, refusedTree [refusedA], events⟩ := by
  have hfirst : (⟨some 1⟩ : Flag).isSet = false := rfl
  have hsecond : (⟨some 1⟩ : Flag).afterLook.isSet = true := rfl
  have hruns : Generation.Runs .plain (Job.plain.project (refusedTree [])) (refusedTree []) ⟨some 1⟩
      [(⟨"./a.sgtt".toList⟩, "a.cs".toList), (⟨"./b.sgtt".toList⟩, "b.cs".toList)] _ :=
    .written hfirst (rendering_refused (readText_refused []).1 _) write_refused.1 (.stopped hsecond)
  rw [← names_refused] at hruns
  exact ⟨_, Generation.generate_eq_of_runs hruns⟩

/-- The flag is set after the first of two templates: the run writes one file, and its summary is a
    part of the whole one.  If the flag were set after both, the run would be the whole one. -/
theorem generate_cancelled_refused :
    let _ : Lua.Locales := .single
    let r := generate .plain (refusedTree []) ⟨some 1⟩
    let late := generate .plain (refusedTree []) ⟨some 2⟩
    let full := generate .plain (refusedTree []) .never
    '/' ∉ Job.plain.outputExtension ∧ r.ending = .cancelled ∧ r.files <+: full.files ∧
      r.files = refusedEntries.take 1 ∧ full.files = refusedEntries ∧
      late.ending ≠ .cancelled ∧ late = full ∧
      (∀ f ∈ r.files, ¬ r.tree.IsLink f.path) ∧
      ∃ turns : List Generation.Turn, r.files = turns.filterMap (Generation.Turn.entry .plain) ∧
        ∀ turn ∈ turns, ∀ g ∈ turn.generated?,
          r.tree.readText (Job.plain.pathOf g) = .ok g.text := by
  intro locales r late full
  obtain ⟨events, hr⟩ : ∃ events, r = _ := exists_generate_stopped
  obtain ⟨_, hlate⟩ : ∃ events, late = _ := exists_generate_refused rfl rfl
  obtain ⟨_, hfull⟩ : ∃ events, full = _ := exists_generate_refused rfl rfl
  have hending : late.ending ≠ .cancelled := by simp [hlate]
  have hlinks : ∀ f ∈ r.files, ¬ r.tree.IsLink f.path := by
    rw [hr]
    intro f hf
    obtain rfl := List.mem_singleton.1 hf
    have hdescends : Path.Descends ⟨"./a.cs".toList⟩ ["a.cs".toList] := by decide +kernel
    exact FileTree.not_isLink_of_descends hdescends ⟨_, rfl⟩ rfl
  obtain ⟨hbegins, -, turns, -, -, hfiles, -, -, htexts⟩ :=
    generate_cancelled .plain (refusedTree []) ⟨some 1⟩ (by decide)
  obtain ⟨-, hall, -⟩ := generate_cancelled .plain (refusedTree []) ⟨some 2⟩ (by decide)
  exact ⟨by decide, by rw [hr], hbegins, by rw [hr], by rw [hfull], hending, hall hending, hlinks,
    turns, hfiles, htexts hlinks⟩

end Stencil
