/-
  What the success of a generation means.

  A run without a request to stop comes to its end or to a file that cannot be written
  (`Runs.ending_ne_cancelled`), and its course to the end is the only one (`Course.exists_runs`).
  A template without a text is passed over, and nothing in the summary tells of it.

  Main statement: a request to generate succeeds if and only if every template of the project was
  rendered and written, or had no text when its turn came (`respond_generate`).
-/
import Stencil.CommandLine.Response
import Stencil.Proofs.Generation.Cancelled

namespace Stencil

open Cancellation

namespace Run

theorem hasFailures_eq_false_iff {r : Run} :
    r.hasFailures = false ↔ ∀ f ∈ r.files, f.outcome = .rendered := by
  simp [hasFailures]

theorem hasErrors_eq_false {r : Run} (h : ∀ f ∈ r.files, f.diagnostics = []) :
    r.hasErrors = false := by
  rw [hasErrors, diagnostics, List.flatMap_eq_nil_iff.2 h, List.any_nil]

/-- Without diagnostics, the paths of a summary are those of the templates and their files. -/
theorem forall_paths_iff {r : Run} (h : ∀ f ∈ r.files, f.diagnostics = []) {P : Path → Prop} :
    (∀ q ∈ r.paths, P q) ↔ ∀ f ∈ r.files, P f.template ∧ P f.path := by
  constructor
  · intro hall f hf
    exact ⟨hall _ (List.mem_flatMap.2 ⟨f, hf, by simp⟩), hall _ (List.mem_flatMap.2 ⟨f, hf, by simp⟩)⟩
  · intro hall q hq
    obtain ⟨f, hf, hq⟩ := List.mem_flatMap.1 hq
    rw [h f hf, List.map_nil, List.mem_cons, List.mem_singleton] at hq
    rcases hq with rfl | rfl
    · exact (hall f hf).1
    · exact (hall f hf).2

end Run

namespace Generation

variable [Lua.Locales] {job : Job} {p : Project} {tree tree' : FileTree} {flag : Flag} {r : Run}
  {templates left : List (Path × Text)} {turns : List Turn}

theorem Runs.ending_ne_cancelled (h : Runs job p tree flag templates r) (hflag : flag = .never) :
    r.ending ≠ .cancelled := by
  induction h with
  | done | unwritable => nofun
  | stopped hset =>
    subst hflag
    cases hset
  | interrupted _ hrender =>
    subst hflag
    have hends := Rendering.ends_iff.2 hrender
    have hset := hends.isSet_of_cancelled rfl
    rw [hends.eq_never] at hset
    cases hset
  | unread _ hrender _ ih | written _ hrender _ _ ih =>
    subst hflag
    obtain rfl := (Rendering.ends_iff.2 hrender).eq_never
    exact ih rfl

theorem Runs.ending_eq_completed (h : Runs job p tree .never templates r)
    (hwritten : ∀ file cause, r.ending ≠ .unwritable file cause) : r.ending = .completed := by
  cases hending : r.ending with
  | completed => rfl
  | cancelled => exact absurd hending (h.ending_ne_cancelled rfl)
  | unwritable file cause => exact absurd hending (hwritten file cause)

/-- **A course to the end is the run without a request to stop.** -/
theorem Course.exists_runs (h : Course job p tree templates turns left tree') (hleft : left = []) :
    ∃ r, Runs job p tree .never templates r ∧ r.ending = .completed := by
  induction h with
  | stop =>
    subst hleft
    exact ⟨_, .done, rfl⟩
  | pass htext _ ih =>
    obtain ⟨r, hruns, hending⟩ := ih hleft
    exact ⟨_, .unread rfl (Rendering.Ends.unreadable htext).eq_render hruns, hending⟩
  | write hrender hwrite _ ih =>
    obtain ⟨r, hruns, hending⟩ := ih hleft
    exact ⟨_, .written rfl hrender hwrite hruns, hending⟩

theorem Course.diagnostics_eq_nil (h : Course job p tree templates turns left tree') {turn : Turn}
    (hturn : turn ∈ turns) {g : Generated} (hg : g ∈ turn.generated?)
    (hrendered : g.outcome = .rendered) : g.diagnostics = [] := by
  induction h with
  | stop => cases hturn
  | pass _ _ ih =>
    rcases List.mem_cons.1 hturn with rfl | hturn
    · cases hg
    · exact ih hturn
  | write hrender _ _ ih =>
    rcases List.mem_cons.1 hturn with rfl | hturn
    · cases hg
      exact ((Rendering.ends_iff.2 hrender).of_generated rfl).2 hrendered
    · exact ih hturn

omit [Lua.Locales] in
/-- The outcomes in a summary are those of the turns. -/
theorem rendered_entries_iff : (∀ f ∈ turns.filterMap (Turn.entry job), f.outcome = .rendered) ↔
    ∀ turn ∈ turns, ∀ g ∈ turn.generated?, g.outcome = .rendered := by
  constructor
  · intro h turn hturn g hg
    exact h (job.entryOf turn.template g) (mem_entries_iff.2 ⟨turn, hturn, g, hg, rfl⟩)
  · intro h f hf
    obtain ⟨turn, hturn, g, hg, rfl⟩ := mem_entries_iff.1 hf
    exact h turn hturn g hg

/-- What is rendered has no diagnostics, nor has its entry. -/
theorem Course.diagnostics_entries (h : Course job p tree templates turns left tree')
    (hrendered : ∀ turn ∈ turns, ∀ g ∈ turn.generated?, g.outcome = .rendered) :
    ∀ f ∈ turns.filterMap (Turn.entry job), f.diagnostics = [] := by
  intro f hf
  obtain ⟨turn, hturn, g, hg, rfl⟩ := mem_entries_iff.1 hf
  exact h.diagnostics_eq_nil hturn hg (hrendered turn hturn g hg)

omit [Lua.Locales] in
theorem map_template_entries (h : ∀ turn ∈ turns, turn.generated? ≠ none) :
    (turns.filterMap (Turn.entry job)).map GeneratedFile.template = turns.map Turn.template := by
  induction turns with
  | nil => rfl
  | cons turn turns ih =>
    obtain ⟨g, hg⟩ := Option.ne_none_iff_exists'.1 (h turn List.mem_cons_self)
    simp [Turn.entry, hg, Job.entryOf,
      ih fun turn hturn => h turn (List.mem_cons_of_mem _ hturn)]

end Generation

namespace CommandLine

variable {surroundings : Surroundings} {tree : FileTree} {args : List Text} {request : Request}
  {out? : Option Path} {locale? : Option Text} {json : Bool} {s : Settings} {base : Job} {r : Run}

/-- The job with the options of a request. -/
def withOptions (base : Job) (root : Path) (out? : Option Path) (locale? : Option Text) : Job :=
  { base with
    outputDirectory := (out?.map root.join).getD base.outputDirectory
    locale? := locale?.or base.locale? }

theorem exitCode_answerRun : (answerRun json r).exitCode = 0 ↔
    (∀ file cause, r.ending ≠ .unwritable file cause) ∧ r.hasFailures = false ∧
      r.hasErrors = false ∧ (json = true → ∀ q ∈ r.paths, q.isText = true) := by
  rw [answerRun]
  split
  · next file cause hending => simp [Answer.failure, hending]
  · next hending =>
    rw [and_iff_right hending, ← and_assoc, ← Bool.or_eq_false_iff, ← List.all_eq_true]
    generalize (r.hasFailures || r.hasErrors) = failed
    cases json
    · cases failed <;> simp
    · cases htext : r.paths.all Path.isText <;> cases failed <;> simp [Answer.failure]

theorem tree_answerRun : (answerRun json r).tree = r.tree := by
  rw [answerRun]
  split
  · rfl
  · cases json
    · rfl
    · simp only [if_true]
      split <;> rfl

/-- The response to a request to generate is the answer to a run. -/
theorem respond_of_run [Lua.Locales] (hparse : parse args = .ok request)
    (hcommand : request.command = .generate out? locale? json)
    (hload : Settings.load tree surroundings.sharedFile? request.root = .ok s)
    (hjob : Job.ofSettings request.root s = .ok base) :
    let a := answerRun json (generate (withOptions base request.root out? locale?) tree .never)
    (respond surroundings tree args).exitCode = a.exitCode ∧
      (respond surroundings tree args).output = a.output ∧
      (respond surroundings tree args).tree = a.tree := by
  simp only [respond, hparse, answer, hload, hcommand, generateAll, hjob, withOptions, and_self]

/-- A request to generate succeeds only if there is a job. -/
theorem exists_job_of_exitCode [Lua.Locales] (hparse : parse args = .ok request)
    (hcommand : request.command = .generate out? locale? json)
    (hexit : (respond surroundings tree args).exitCode = 0) :
    ∃ s base, Settings.load tree surroundings.sharedFile? request.root = .ok s ∧
      Job.ofSettings request.root s = .ok base := by
  simp only [respond, hparse, answer] at hexit
  cases hload : Settings.load tree surroundings.sharedFile? request.root with
  | error fault => simp [hload, Answer.failure] at hexit
  | ok s =>
    cases hjob : Job.ofSettings request.root s with
    | error unknown => simp [hload, hcommand, generateAll, hjob, Answer.failure] at hexit
    | ok base => exact ⟨s, base, rfl, hjob⟩

/-- To render a template without a text is a failure. -/
theorem exitCode_renderOne [Lua.Locales] {template : Path} {includes : List Path} {failure : ReadFailure}
    (htext : (Project.source tree template).text = .error failure) :
    (renderOne tree s template includes locale?).exitCode = 1 := by
  rw [renderOne]
  split
  · rfl
  · next libraries _ =>
    simp only [render, htext, answerRendering, Ending.generated?, Answer.failure]

end CommandLine

/-- **A request to generate succeeds if and only if every template of the project was rendered and
    its file written, or it had no text when its turn came.**  A template without a text has no
    entry in the summary; if all have one, the entries are those of all templates, in order.  A
    summary that is asked for as JSON is given only if all its paths are UTF-8. -/
theorem respond_generate [Lua.Locales] (surroundings : CommandLine.Surroundings)
    (tree : FileTree) (args : List Text) (request : CommandLine.Request) (out? : Option Path)
    (locale? : Option Text) (json : Bool) (hparse : CommandLine.parse args = .ok request)
    (hcommand : request.command = .generate out? locale? json) :
    let response := CommandLine.respond surroundings tree args
    response.exitCode = 0 ↔ ∃ s base,
      Settings.load tree surroundings.sharedFile? request.root = .ok s ∧
      Job.ofSettings request.root s = .ok base ∧
      let job := CommandLine.withOptions base request.root out? locale?
      let p := job.project tree
      let files := (generate job tree .never).files
      ∃ turns, Generation.Course job p tree (job.names p) turns [] response.tree ∧
        turns.map Generation.Turn.template = p.templates ∧
        files = turns.filterMap (Generation.Turn.entry job) ∧
        (∀ turn ∈ turns, ∀ g ∈ turn.generated?, g.outcome = .rendered) ∧
        (json = true → ∀ f ∈ files, f.template.isText = true ∧ f.path.isText = true) ∧
        ((∀ turn ∈ turns, turn.generated? ≠ none) →
          files.map GeneratedFile.template = p.templates) := by
  intro response
  constructor
  · intro hexit
    obtain ⟨s, base, hload, hjob⟩ := CommandLine.exists_job_of_exitCode hparse hcommand hexit
    refine ⟨s, base, hload, hjob, ?_⟩
    intro job p files
    obtain ⟨hcode, -, htree⟩ := CommandLine.respond_of_run hparse hcommand hload hjob
    obtain ⟨hwritten, hfailures, -, hpaths⟩ :=
      CommandLine.exitCode_answerRun.1 (hcode.symm.trans hexit)
    have hruns := Generation.runs_generateFrom job p tree .never (job.names p)
    obtain ⟨turns, left, hcourse, hentries, hleft⟩ := hruns.exists_course
    have hfiles : files = turns.filterMap (Generation.Turn.entry job) := hentries
    obtain rfl := hleft (hruns.ending_eq_completed hwritten)
    have htemplates : turns.map Generation.Turn.template = p.templates := by
      simpa [Job.map_fst_names] using hcourse.templates_eq.symm
    have hrendered : ∀ turn ∈ turns, ∀ g ∈ turn.generated?, g.outcome = .rendered :=
      Generation.rendered_entries_iff.1 (hentries ▸ Run.hasFailures_eq_false_iff.1 hfailures)
    have hclean : ∀ f ∈ files, f.diagnostics = [] :=
      hfiles ▸ hcourse.diagnostics_entries hrendered
    refine ⟨turns, ?_, htemplates, hfiles, hrendered,
      fun hjson => (Run.forall_paths_iff hclean).1 (hpaths hjson), fun hall => ?_⟩
    · rw [htree, CommandLine.tree_answerRun]
      exact hcourse
    · rw [← htemplates, ← Generation.map_template_entries hall]
      exact congrArg _ hfiles
  · rintro ⟨s, base, hload, hjob, turns, hcourse, -, hfiles, hrendered, htext, -⟩
    obtain ⟨hcode, -, -⟩ := CommandLine.respond_of_run hparse hcommand hload hjob
    obtain ⟨r, hruns, hending⟩ := hcourse.exists_runs rfl
    set run := generate (CommandLine.withOptions base request.root out? locale?) tree .never
      with hrun
    have hcompleted : run.ending = .completed := by
      rw [hrun, Generation.generate_eq_of_runs hruns]
      exact hending
    have hclean : ∀ f ∈ run.files, f.diagnostics = [] :=
      hfiles ▸ hcourse.diagnostics_entries hrendered
    have hfailures : run.hasFailures = false :=
      Run.hasFailures_eq_false_iff.2 (hfiles ▸ Generation.rendered_entries_iff.2 hrendered)
    rw [hcode, CommandLine.exitCode_answerRun]
    exact ⟨by simp [hcompleted], hfailures, Run.hasErrors_eq_false hclean,
      fun hjson => (Run.forall_paths_iff hclean).2 (htext hjson)⟩

/-! ## A template without a text -/

/-- A project of one template whose bytes are no text. -/
def garbledTree : FileTree := .single "a.sgtt".toList [255]

theorem project_garbled : Job.plain.project garbledTree = ⟨[⟨"./a.sgtt".toList⟩], [], []⟩ := by
  have hwalk : (Node.directory [("a.sgtt".toList, .file [255])]).walk [] ⟨[Path.dot]⟩ =
      [⟨"./a.sgtt".toList⟩] := by
    rw [Node.walk, List.mergeSort_of_pairwise (by decide +kernel)]
    rfl
  have hproject : Job.plain.project garbledTree =
      .ofFiles Job.plain.criteria [⟨"./a.sgtt".toList⟩] := by
    rw [← hwalk, Job.project, Discovery.discover, garbledTree]
    simp only [Job.plain, FileTree.resolve_single]
    rfl
  rw [hproject]
  rfl

theorem names_garbled : Job.plain.names (Job.plain.project garbledTree) =
    [(⟨"./a.sgtt".toList⟩, "a.cs".toList)] := by
  rw [project_garbled]
  rfl

namespace CommandLine

/-- No surroundings. -/
def Surroundings.none : Surroundings := ⟨.none, .none, .none⟩

/-- The request to generate, without options. -/
def Request.plain : Request := ⟨0, ⟨[Path.dot]⟩, .generate .none .none false⟩

theorem parse_plain : parse ["generate".toList] = .ok .plain := by decide +kernel

theorem load_garbled : Settings.load garbledTree .none ⟨[Path.dot]⟩ = .ok .empty := by
  have hsteps : (Settings.projectFile ⟨[Path.dot]⟩).steps =
      [.stay, .down ".sgtt".toList, .down "config.toml".toList] := by decide +kernel
  have hfree : garbledTree.resolve true (Settings.projectFile ⟨[Path.dot]⟩) = .error .notFound := by
    rw [FileTree.resolve, if_neg (by decide +kernel), if_neg (by decide +kernel),
      if_neg (by decide +kernel), hsteps, FileTree.follow, if_pos (by decide +kernel),
      FileTree.follow]
    rfl
  have hfile : Settings.loadFile garbledTree (Settings.projectFile ⟨[Path.dot]⟩) = .ok .empty := by
    rw [Settings.loadFile, FileTree.readText, FileTree.read, hfree]
  rw [Settings.load, hfile]
  rfl

theorem ofSettings_plain : Job.ofSettings ⟨[Path.dot]⟩ .empty = .ok .plain := rfl

end CommandLine

theorem text_garbled :
    (Project.source garbledTree ⟨"./a.sgtt".toList⟩).text =
      .error (.failed FileFault.notText.message) := by
  have hdescends : Path.Descends ⟨"./a.sgtt".toList⟩ ["a.sgtt".toList] := by decide +kernel
  have hresolve : garbledTree.resolve true ⟨"./a.sgtt".toList⟩ =
      .ok (.found ["a.sgtt".toList] (.file [255])) :=
    FileTree.resolve_of_descends hdescends ⟨_, rfl⟩ rfl
  have hread : garbledTree.readText ⟨"./a.sgtt".toList⟩ = .error .notText := by
    rw [FileTree.readText, FileTree.read, hresolve]
    rfl
  simp only [Project.source, hread]

theorem exists_generate_garbled [Lua.Locales] : ∃ events, generate .plain garbledTree .never =
    ⟨[], .completed, garbledTree, events⟩ := by
  have hrender : Generation.rendering .plain (Job.plain.project garbledTree) garbledTree
      ⟨"./a.sgtt".toList⟩ "a.cs".toList .never = _ :=
    Rendering.Ends.eq_render (.unreadable text_garbled)
  have hruns : Generation.Runs .plain (Job.plain.project garbledTree) garbledTree .never
    [(⟨"./a.sgtt".toList⟩, "a.cs".toList)] _ := .unread rfl hrender .done
  rw [← names_garbled] at hruns
  exact ⟨_, Generation.generate_eq_of_runs hruns⟩

theorem respond_garbled [Lua.Locales] :
    (CommandLine.respond .none garbledTree ["generate".toList]).exitCode = 0 ∧
    (CommandLine.respond .none garbledTree ["generate".toList]).tree = garbledTree := by
  obtain ⟨events, hrun⟩ := exists_generate_garbled
  obtain ⟨hcode, -, htree⟩ := @CommandLine.respond_of_run .none garbledTree ["generate".toList]
    .plain none none false .empty .plain _ CommandLine.parse_plain rfl CommandLine.load_garbled
    CommandLine.ofSettings_plain
  have hjob : CommandLine.withOptions .plain CommandLine.Request.plain.root none none = .plain := rfl
  rw [hjob, hrun] at hcode htree
  exact ⟨hcode, htree⟩

/-- The only template is passed over. -/
theorem respond_generate_garbled :
    CommandLine.parse ["generate".toList] = .ok .plain ∧
      CommandLine.Request.plain.command = .generate none none false ∧
      (CommandLine.respond .none garbledTree ["generate".toList]).exitCode = 0 := by
  obtain ⟨events, hrun⟩ := exists_generate_garbled
  refine ⟨CommandLine.parse_plain, rfl, ?_⟩
  refine (respond_generate .none garbledTree ["generate".toList] .plain none none false
    CommandLine.parse_plain rfl).2 ⟨.empty, .plain, CommandLine.load_garbled,
      CommandLine.ofSettings_plain, [⟨⟨"./a.sgtt".toList⟩, none⟩], ?_, ?_, ?_, ?_, nofun, ?_⟩
  · rw [respond_garbled.2]
    have hcourse : Generation.Course .plain (Job.plain.project garbledTree) garbledTree
        [(⟨"./a.sgtt".toList⟩, "a.cs".toList)] _ [] garbledTree := .pass text_garbled .stop
    rw [← names_garbled] at hcourse
    exact hcourse
  · exact (congrArg Project.templates project_garbled).symm
  · exact congrArg Run.files hrun
  · simp
  · simp

/-- **A request to generate succeeds although a template gives no file.**  The request to render
    that template fails. -/
theorem respond_generate_unread :
    (Job.plain.project garbledTree).templates = [⟨"./a.sgtt".toList⟩] ∧
    (generate .plain garbledTree .never).files = [] ∧
    (CommandLine.respond .none garbledTree ["generate".toList]).exitCode = 0 ∧
    (CommandLine.respond .none garbledTree
      ["render".toList, "./a.sgtt".toList]).exitCode = 1 := by
  obtain ⟨events, hrun⟩ := exists_generate_garbled
  refine ⟨?_, ?_, respond_garbled.1, ?_⟩
  · rw [project_garbled]
  · rw [hrun]
  · have hparse : CommandLine.parse ["render".toList, "./a.sgtt".toList] =
        .ok ⟨0, ⟨[Path.dot]⟩, .render ⟨"./a.sgtt".toList⟩ [] none⟩ := by decide +kernel
    have hload : Settings.load garbledTree CommandLine.Surroundings.none.sharedFile? ⟨[Path.dot]⟩ =
      .ok .empty := CommandLine.load_garbled
    simp only [CommandLine.respond, hparse, CommandLine.answer, hload]
    exact CommandLine.exitCode_renderOne text_garbled

end Stencil
