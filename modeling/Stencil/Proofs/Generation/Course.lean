/-
  The course of a run over the templates of a project.

  * `Runs job p tree flag templates r`: the run gives `r`, one constructor for each way in which
    the first template is met (`runs_generateFrom`, `Runs.eq_generateFrom`);
  * `Course job p tree templates turns left tree'`: what became of the templates one after the
    other, and which are left; a `Turn` is a template with the file that it gave, if any.

  Main statements: a run has a course with the files of its summary (`Runs.exists_course`); a course
  changes no file but those that its paths lead to (`Course.grows`), and leaves each of them with
  the text that its template gave (`Course.readText_or`, `Course.readText`).
-/
import Stencil.Proofs.Files.Directory
import Stencil.Proofs.Naming.Distinct
import Stencil.Proofs.Rendering.Ending
import Stencil.Generation

namespace Stencil

open Cancellation

/-! ## Runs -/

namespace Run

variable {r : Run}

@[simp] theorem after_files (events : List Log.Event) : (r.after events).files = r.files := rfl

@[simp] theorem after_ending (events : List Log.Event) : (r.after events).ending = r.ending := rfl

@[simp] theorem after_tree (events : List Log.Event) : (r.after events).tree = r.tree := rfl

@[simp] theorem afterFile_files (f : GeneratedFile) : (r.afterFile f).files = f :: r.files := rfl

@[simp] theorem afterFile_ending (f : GeneratedFile) : (r.afterFile f).ending = r.ending := rfl

@[simp] theorem afterFile_tree (f : GeneratedFile) : (r.afterFile f).tree = r.tree := rfl

@[simp] theorem afterNothing_files (stopped : Bool) : (r.afterNothing stopped).files = r.files := by
  rw [afterNothing]
  split <;> rfl

@[simp] theorem afterNothing_tree (stopped : Bool) : (r.afterNothing stopped).tree = r.tree := by
  rw [afterNothing]
  split <;> rfl

@[simp] theorem afterNothing_false : r.afterNothing false = r := rfl

theorem afterNothing_of_ne {stopped : Bool} (h : (r.afterNothing stopped).ending ≠ .cancelled) :
    r.afterNothing stopped = r := by
  rw [afterNothing] at h ⊢
  split
  · next hstopped => simp [hstopped] at h
  · rfl

theorem ending_of_afterNothing {stopped : Bool} (h : (r.afterNothing stopped).ending = .completed) :
    r.ending = .completed := by
  rwa [afterNothing_of_ne] at h
  simp [h]

end Run

namespace Job

/-- The path of a generated file. -/
def pathOf (job : Job) (g : Generated) : Path := job.outputDirectory.join ⟨g.fileName⟩

/-- The entry of a generated file in a summary. -/
def entryOf (job : Job) (template : Path) (g : Generated) : GeneratedFile :=
  ⟨template, job.pathOf g, g.outcome, g.diagnostics⟩

theorem length_outputNames (job : Job) (p : Project) :
    (Naming.outputNames p.templates job.outputExtension).length = p.templates.length :=
  Naming.length_namesFrom ..

theorem map_fst_names (job : Job) (p : Project) : (job.names p).map Prod.fst = p.templates :=
  List.map_fst_zip (Nat.le_of_eq (job.length_outputNames p).symm)

theorem map_snd_names (job : Job) (p : Project) :
    (job.names p).map Prod.snd = Naming.outputNames p.templates job.outputExtension :=
  List.map_snd_zip (Nat.le_of_eq (job.length_outputNames p))

end Job

namespace Generation

variable [Lua.Locales]

/-- The rendering of a template in a run. -/
def rendering (job : Job) (p : Project) (tree : FileTree) (template : Path) (name : Text)
    (flag : Flag) : Ending × Flag :=
  render (.lua job.libraries) job.includeExtension (job.request p tree template name) flag

/-- The events of a rendering in a run. -/
def events (job : Job) (p : Project) (tree : FileTree) (template : Path) (name : Text)
    (ending : Ending) : List Log.Event :=
  Rendering.events job.includeExtension (job.request p tree template name) ending

/-- The run over templates gives `r`. -/
inductive Runs (job : Job) (p : Project) : FileTree → Flag → List (Path × Text) → Run → Prop
  | done {tree flag} : Runs job p tree flag [] ⟨[], .completed, tree, []⟩
  /-- The look before the template finds the flag set. -/
  | stopped {tree flag template templates} : flag.isSet = true →
      Runs job p tree flag (template :: templates) ⟨[], .cancelled, tree, []⟩
  /-- The template has no text; there is a look at the flag behind it. -/
  | unread {tree flag template name templates failure flag' r} : flag.isSet = false →
      rendering job p tree template name flag.afterLook = (.unreadable failure, flag') →
      Runs job p tree flag'.afterLook templates r →
      Runs job p tree flag ((template, name) :: templates)
        ((r.afterNothing flag'.isSet).after (events job p tree template name (.unreadable failure)))
  /-- A look during the rendering finds the flag set. -/
  | interrupted {tree flag template name templates flag'} : flag.isSet = false →
      rendering job p tree template name flag.afterLook = (.cancelled, flag') →
      Runs job p tree flag ((template, name) :: templates)
        (Run.after (events job p tree template name .cancelled) ⟨[], .cancelled, tree, []⟩)
  /-- The file cannot be written. -/
  | unwritable {tree flag template name templates g fault? flag' cause} : flag.isSet = false →
      rendering job p tree template name flag.afterLook = (.generated g fault?, flag') →
      tree.write (job.pathOf g) g.text = .error cause →
      Runs job p tree flag ((template, name) :: templates)
        (Run.after (events job p tree template name (.generated g fault?))
          ⟨[], .unwritable (job.pathOf g) cause, tree, []⟩)
  | written {tree flag template name templates g fault? flag' next r} : flag.isSet = false →
      rendering job p tree template name flag.afterLook = (.generated g fault?, flag') →
      tree.write (job.pathOf g) g.text = .ok next →
      Runs job p next flag' templates r →
      Runs job p tree flag ((template, name) :: templates)
        (Run.after (events job p tree template name (.generated g fault?))
          (r.afterFile (job.entryOf template g)))

/-- A template whose turn has come, with the file that it gave. -/
structure Turn where
  template : Path
  /-- Nothing, if the template had no text. -/
  generated? : Option Generated

/-- The entry of a turn in a summary. -/
def Turn.entry (job : Job) (turn : Turn) : Option GeneratedFile :=
  turn.generated?.map (job.entryOf turn.template)

/-- The templates of some turns are met, those that are left are not.  A file has what the
    template gives without a request to stop, as files are then. -/
inductive Course (job : Job) (p : Project) :
    FileTree → List (Path × Text) → List Turn → List (Path × Text) → FileTree → Prop
  | stop {tree left} : Course job p tree left [] left tree
  /-- The template has no text. -/
  | pass {tree template name templates failure turns left tree'} :
      (Project.source tree template).text = .error failure →
      Course job p tree templates turns left tree' →
      Course job p tree ((template, name) :: templates) (⟨template, none⟩ :: turns) left tree'
  /-- The file of the template is written. -/
  | write {tree template name templates g fault? next turns left tree'} :
      rendering job p tree template name .never = (.generated g fault?, .never) →
      tree.write (job.pathOf g) g.text = .ok next →
      Course job p next templates turns left tree' →
      Course job p tree ((template, name) :: templates) (⟨template, some g⟩ :: turns) left tree'

/-! ## What runs give -/

variable {job : Job} {p : Project} {tree tree' : FileTree} {flag : Flag} {r : Run}
  {templates left : List (Path × Text)} {turns : List Turn}

/-- A run whose flag is set does nothing. -/
theorem generateFrom_of_isSet (hflag : flag.isSet = true) :
    (generateFrom job p tree flag templates).afterNothing true = ⟨[], .cancelled, tree, []⟩ := by
  cases templates with
  | nil => rfl
  | cons template templates => simp [generateFrom, hflag, Run.afterNothing]

theorem runs_generateFrom (job : Job) (p : Project) (tree : FileTree) (flag : Flag)
    (templates : List (Path × Text)) :
    Runs job p tree flag templates (generateFrom job p tree flag templates) := by
  induction templates generalizing tree flag with
  | nil => exact .done
  | cons first templates ih =>
    obtain ⟨template, name⟩ := first
    simp only [generateFrom]
    cases hflag : flag.isSet with
    | true =>
      simp only [if_true]
      exact .stopped hflag
    | false =>
      simp only [Bool.false_eq_true, if_false]
      rcases hrender : rendering job p tree template name flag.afterLook with ⟨ending, flag'⟩
      rw [show render (.lua job.libraries) job.includeExtension
        (job.request p tree template name) flag.afterLook = (ending, flag') from hrender]
      cases ending with
      | unreadable failure => exact .unread hflag hrender (ih tree flag'.afterLook)
      | cancelled =>
        have hset := (Rendering.ends_iff.2 hrender).isSet_of_cancelled rfl
        simp only [Ending.generated?, hset]
        rw [generateFrom_of_isSet (Flag.isSet_afterLook hset)]
        exact .interrupted hflag hrender
      | generated g fault? =>
        simp only [Ending.generated?]
        cases hwrite : tree.write (job.outputDirectory.join ⟨g.fileName⟩) g.text with
        | error cause => exact .unwritable hflag hrender hwrite
        | ok next => exact .written hflag hrender hwrite (ih next flag')

/-- The run over templates gives one result. -/
theorem Runs.eq_generateFrom (h : Runs job p tree flag templates r) :
    r = generateFrom job p tree flag templates := by
  induction h with
  | done => rfl
  | stopped hflag => simp [generateFrom, hflag]
  | unread hflag hrender _ ih =>
    rw [rendering] at hrender
    simp only [generateFrom, hflag, hrender, Ending.generated?, Bool.false_eq_true, if_false, ← ih,
      events]
  | interrupted hflag hrender =>
    have hset := (Rendering.ends_iff.2 hrender).isSet_of_cancelled rfl
    rw [rendering] at hrender
    simp only [generateFrom, hflag, hrender, Ending.generated?, Bool.false_eq_true, if_false, hset,
      generateFrom_of_isSet (Flag.isSet_afterLook hset), events]
  | unwritable hflag hrender hwrite =>
    rw [rendering] at hrender
    rw [Job.pathOf] at hwrite
    simp only [generateFrom, hflag, hrender, hwrite, Ending.generated?, Bool.false_eq_true, if_false,
      events, Job.pathOf]
  | written hflag hrender hwrite _ ih =>
    rw [rendering] at hrender
    rw [Job.pathOf] at hwrite
    simp only [generateFrom, hflag, hrender, hwrite, Ending.generated?, Bool.false_eq_true, if_false,
      ← ih, events, Job.pathOf, Job.entryOf]

theorem generate_eq_of_runs
    (h : Runs job (job.project tree) tree flag (job.names (job.project tree)) r) :
    generate job tree flag = r.after (job.project tree).events := by
  rw [h.eq_generateFrom, generate]

/-- A rendering that is not stopped ends as if there were no request to stop. -/
theorem rendering_never {template : Path} {name : Text} {ending : Ending} {flag' : Flag}
    (h : rendering job p tree template name flag = (ending, flag')) (hending : ending ≠ .cancelled) :
    rendering job p tree template name .never = (ending, .never) := by
  rcases (Rendering.ends_iff.2 h).never (Backend.lua_steadyCompiler _)
    (Backend.lua_steadyExecutor _) with hcancelled | ⟨f₀, hnever⟩
  · exact absurd hcancelled hending
  · obtain rfl := hnever.eq_never
    exact hnever.eq_render

/-- **A run has a course with the files of its summary**; no template is left if it comes to its
    end. -/
theorem Runs.exists_course (h : Runs job p tree flag templates r) :
    ∃ turns left, Course job p tree templates turns left r.tree ∧
      r.files = turns.filterMap (Turn.entry job) ∧ (r.ending = .completed → left = []) := by
  induction h with
  | done => exact ⟨[], [], .stop, rfl, fun _ => rfl⟩
  | stopped | interrupted | unwritable => exact ⟨[], _, .stop, rfl, nofun⟩
  | @unread tree flag template name templates failure flag' r hflag hrender _ ih =>
    obtain ⟨turns, left, hcourse, hfiles, hleft⟩ := ih
    have htext := (Rendering.ends_iff.2 hrender).of_unreadable rfl
    refine ⟨⟨template, none⟩ :: turns, left, ?_, ?_, ?_⟩
    · rw [Run.after_tree, Run.afterNothing_tree]
      exact .pass htext hcourse
    · simpa [List.filterMap_cons, Turn.entry] using hfiles
    · intro hending
      exact hleft (Run.ending_of_afterNothing hending)
  | @written tree flag template name templates g fault? flag' next r hflag hrender hwrite _ ih =>
    obtain ⟨turns, left, hcourse, hfiles, hleft⟩ := ih
    have hnever := rendering_never hrender (by simp)
    refine ⟨⟨template, some g⟩ :: turns, left, .write hnever hwrite hcourse, ?_, hleft⟩
    simpa [Turn.entry] using hfiles

omit [Lua.Locales] in
theorem mem_entries_iff {f : GeneratedFile} : f ∈ turns.filterMap (Turn.entry job) ↔
    ∃ turn ∈ turns, ∃ g ∈ turn.generated?, job.entryOf turn.template g = f := by
  simp [Turn.entry]

/-- The templates of a course are those of its turns and those that are left. -/
theorem Course.templates_eq (h : Course job p tree templates turns left tree') :
    templates.map Prod.fst = turns.map Turn.template ++ left.map Prod.fst := by
  induction h with
  | stop => rfl
  | pass _ _ ih | write _ _ _ ih => simp [ih]

/-- The names of the files are those of their templates. -/
theorem Course.names_sublist (h : Course job p tree templates turns left tree') :
    ((turns.filterMap Turn.generated?).map Generated.fileName).Sublist (templates.map Prod.snd) := by
  induction h with
  | stop => exact List.nil_sublist _
  | pass _ _ ih => exact ih.cons _
  | @write tree template name templates g fault? next turns left tree' hrender _ _ ih =>
    have hname : g.fileName = name := ((Rendering.ends_iff.2 hrender).of_generated rfl).1
    simpa [hname] using ih

/-! ## What files hold -/

/-- A file of the turns leads to a place. -/
def Touches (job : Job) (tree : FileTree) (turns : List Turn) (place : Place) : Prop :=
  ∃ g ∈ turns.filterMap Turn.generated?, tree.LeadsTo (job.pathOf g) place

/-- **A course changes no file but those that its paths lead to.** -/
theorem Course.grows (h : Course job p tree templates turns left tree') :
    tree.Grows (Touches job tree' turns) tree' := by
  induction h with
  | stop => exact .refl _ _
  | pass _ _ ih => exact ih.mono fun _ h => by simpa [Touches, List.filterMap_cons] using h
  | @write tree template name templates g fault? next turns left tree' _ hwrite _ ih =>
    obtain ⟨place, hleads, -, hgrow⟩ := FileTree.exists_grows_of_write hwrite
    refine (hgrow.trans ih).mono fun other hother => ?_
    rcases hother with rfl | ⟨g', hg', hleads'⟩
    · exact ⟨g, by simp, hleads.grows ih⟩
    · exact ⟨g', by simp [hg'], hleads'⟩

/-- **A path leads to the text of its file**, unless that of a later file leads to the same
    place. -/
theorem Course.exists_place {before after : List Turn} {template : Path} {g : Generated}
    (h : Course job p tree templates (before ++ ⟨template, some g⟩ :: after) left tree') :
    ∃ place bytes, tree'.LeadsTo (job.pathOf g) place ∧ tree'.top.fileAt? place = some bytes ∧
      (bytes = Text.Utf8.encode g.text ∨ Touches job tree' after place) := by
  generalize hturns : before ++ ⟨template, some g⟩ :: after = turns at h
  induction h generalizing before with
  | stop => simp at hturns
  | pass _ _ ih =>
    cases before with
    | nil => simp at hturns
    | cons first before => exact ih (List.cons.inj hturns).2
  | @write tree template name templates g fault? next turns left tree' _ hwrite hcourse ih =>
    cases before with
    | cons first before => exact ih (List.cons.inj hturns).2
    | nil =>
      simp only [List.nil_append, List.cons.injEq, Turn.mk.injEq, Option.some.injEq] at hturns
      obtain ⟨⟨-, rfl⟩, rfl⟩ := hturns
      obtain ⟨place, hleads, hfile, -⟩ := FileTree.exists_grows_of_write hwrite
      have hgrow := hcourse.grows
      by_cases hlater : Touches job tree' after place
      · -- the file stays a file
        obtain ⟨node, hnode, halike⟩ := hgrow.within place _ (Node.fileAt?_eq_some_iff.1 hfile)
        cases halike with
        | file _ bytes =>
          exact ⟨place, bytes, hleads.grows hgrow, Node.fileAt?_eq_some_iff.2 hnode, Or.inr hlater⟩
      · refine ⟨place, _, hleads.grows hgrow, ?_, Or.inl rfl⟩
        rw [hgrow.files place hlater, hfile]

/-- Two files of a course go to one place only if a path is a link. -/
theorem Course.not_touches {before after : List Turn} {template : Path} {g : Generated}
    {place : Place} {bytes : Bytes} (hext : '/' ∉ job.outputExtension)
    (h : Course job p tree (job.names p) (before ++ ⟨template, some g⟩ :: after) left tree')
    (hlinks : ∀ g' ∈ (before ++ ⟨template, some g⟩ :: after).filterMap Turn.generated?,
      ¬ tree'.IsLink (job.pathOf g'))
    (hleads : tree'.LeadsTo (job.pathOf g) place) (hfile : tree'.top.fileAt? place = some bytes) :
    ¬ Touches job tree' after place := by
  rintro ⟨g', hg', hleads'⟩
  have hnames := h.names_sublist
  rw [Job.map_snd_names] at hnames
  have hname : ∀ g₁ ∈ (before ++ ⟨template, some g⟩ :: after).filterMap Turn.generated?,
      tree'.LeadsTo (job.pathOf g₁) place →
        place.getLast? = some (Text.Utf8.encode g₁.fileName) := by
    intro g₁ hg₁ hleads₁
    have hplain := Naming.slash_notMem_outputNames hext
      (hnames.subset (List.mem_map_of_mem hg₁))
    exact hleads₁.getLast?_join (fun h => hplain.1 (Path.slash_mem_encode_iff.1 h))
      (fun h => hplain.2 (Text.Utf8.encode_injective h)) hfile (hlinks g₁ hg₁)
  have hnodup := (Naming.nodup_lower_outputNames p.templates job.outputExtension).of_map.sublist hnames
  simp only [List.filterMap_append, List.filterMap_cons, List.map_append, List.map_cons] at hnodup
  refine (List.nodup_cons.1 (List.nodup_append.1 hnodup).2.1).1 ?_
  have hsame : g'.fileName = g.fileName := by
    have hlast := hname g (by simp) hleads
    rw [hname g' (by simp [hg']) hleads'] at hlast
    exact Text.Utf8.encode_injective (Option.some.inj hlast)
  exact hsame ▸ List.mem_map_of_mem hg'

/-- A path is read as the text of its file, unless a later file has gone to the same place. -/
theorem Course.readText_or {before after : List Turn} {template : Path} {g : Generated}
    (h : Course job p tree templates (before ++ ⟨template, some g⟩ :: after) left tree') :
    tree'.readText (job.pathOf g) = .ok g.text ∨
      ∃ place, tree'.LeadsTo (job.pathOf g) place ∧ Touches job tree' after place := by
  obtain ⟨place, bytes, hleads, hfile, rfl | htouches⟩ := h.exists_place
  · exact Or.inl (hleads.readText hfile)
  · exact Or.inr ⟨place, hleads, htouches⟩

/-- **Without links, every path is read as the text of its file.** -/
theorem Course.readText (h : Course job p tree (job.names p) turns left tree')
    (hext : '/' ∉ job.outputExtension)
    (hlinks : ∀ g ∈ turns.filterMap Turn.generated?, ¬ tree'.IsLink (job.pathOf g)) {turn : Turn}
    (hturn : turn ∈ turns) {g : Generated} (hg : g ∈ turn.generated?) :
    tree'.readText (job.pathOf g) = .ok g.text := by
  obtain ⟨template, generated?⟩ := turn
  obtain rfl : generated? = some g := hg
  obtain ⟨before, after, rfl⟩ := List.append_of_mem hturn
  obtain ⟨place, bytes, hleads, hfile, rfl | htouches⟩ := h.exists_place
  · exact hleads.readText hfile
  · exact absurd htouches (h.not_touches hext hlinks hleads hfile)

end Generation

end Stencil
