/-
  Literal text comes through the whole rendering as it is.

  * `Resolution.IsLiteral r`: a template resolves to texts and to nothing else;
  * `isLiteral_of_no_tag`: a template without `<#` is one text;
  * `compile_literal`, `ofArtifact_literal`: the program of a literal resolution compiles,
    and its execution gives the texts, after the warning if the machine does not know the
    locale.

  Main statement: `render_literal`.
-/
import Stencil.Proofs.Library.Requested
import Stencil.Proofs.Literal.Run
import Stencil.Proofs.Token.Segment
import Stencil.Rendering

namespace Stencil

/-! ## Templates without tags -/

/-- A template resolves to texts: no directive fails, binds a module or asks for a list
    after the output. -/
structure Resolution.IsLiteral (r : Resolution) : Prop where
  ok : r.isOk = true
  texts : ∀ s ∈ r.sections, s.kind = .text
  imports : r.imports = []
  libraries : r.appendLibraries = false
  program : r.appendProgram = false

/-- A template without `<#` resolves to itself. -/
theorem resolve_of_no_tag (env : Resolver.Setting) (path : Path) {t : Text}
    (h : ¬ "<#".toList <:+: t) :
    resolve env path t =
      if t = [] then .empty else .ofSection ⟨.text, path, .start, t⟩ := by
  rw [resolve, Token.scan_of_no_tag h]
  split
  · rw [Resolver.walk_nil]
    rfl
  · have hstep : Resolver.step env path .start ⟨.text, .start, t⟩ =
        .done (Resolver.start.add (.ofSection ⟨.text, path, .start, t⟩)) := rfl
    rw [Resolver.walk_done hstep, Resolver.walk_nil]
    rfl

namespace Literal

open Lua Cancellation

/-! ## Literal resolutions -/

/-- The texts of a resolution. -/
def textsOf (r : Resolution) : List Text := r.sections.map (·.content)

/-- A template without `<#` resolves to one text at most, which is the template. -/
theorem isLiteral_of_no_tag (env : Resolver.Setting) (path : Path) {t : Text}
    (h : ¬ "<#".toList <:+: t) :
    (resolve env path t).IsLiteral ∧ (resolve env path t).sections.length ≤ 1 ∧
      (textsOf (resolve env path t)).flatten = t := by
  rw [resolve_of_no_tag env path h]
  split
  · next hnil =>
    subst hnil
    exact ⟨⟨rfl, fun s hs => absurd hs List.not_mem_nil, rfl, rfl, rfl⟩, Nat.zero_le 1, rfl⟩
  · refine ⟨⟨rfl, fun s hs => ?_, rfl, rfl, rfl⟩, Nat.le_refl 1, List.append_nil t⟩
    rw [List.mem_singleton.1 hs]

variable {r : Resolution} {path : Path} {locale : Option Text} {requested : List Library}

/-- The program of texts compiles. -/
theorem compile_literal (libraries : Libraries) (h : r.IsLiteral)
    (hname : Text.OneLine (Program.displayName path)) :
    Compilation.compile libraries (Program.write r path locale) =
      .ok ⟨tree locale ((textsOf r).map Text.Utf8.encode), libraries, Compilation.runtime⟩ := by
  have hload : Compilation.load (Program.write r path locale).source =
      .ok (tree locale ((textsOf r).map Text.Utf8.encode)) := by
    rw [Compilation.load, parse_write locale h.texts h.imports hname, textsOf, List.map_map]
    rfl
  rw [Compilation.compile, hload]

/-- It is rendered as the texts in their order, after the warning if the locale is not known. -/
theorem ofArtifact_literal [Locales] (texts : List Text) (hlimit : texts.length < Number.wholeLimit) :
    Execution.ofArtifact ⟨tree locale (texts.map Text.Utf8.encode), .ofRequested requested,
        Compilation.runtime⟩ =
      .rendered (warnings locale ++ texts).flatten := by
  have hneeded : ∀ l ∈ Library.needed, l ∈ (Libraries.ofRequested requested).members :=
    fun _ hl => Libraries.mem_ofRequested_iff.2 (.inl hl)
  obtain ⟨s, hrun⟩ : ∃ s, Execution.evaluate (tree locale (texts.map Text.Utf8.encode))
      (environment (.ofRequested requested)) =
        .ok (.rendered (warnings locale ++ texts).flatten) s :=
    evaluate_tree (environment_linked _) (hneeded _ (by decide)) (hneeded _ (by decide)) hlimit
  rw [Execution.ofArtifact, hrun]

/-! ## Rendering -/

/-- A flag that is never set does not stop a rendering. -/
theorem build_of_compile [Locales] {libraries : Libraries}
    {file : Text → Outcome → List Diagnostic → Generated} {text : Text} {p : Program} {a : Artifact}
    (h : Compilation.compile libraries p = .ok a) :
    Rendering.build (Backend.lua libraries) file text r p Flag.never =
      (Rendering.ended file r p a (Execution.ofArtifact a), Flag.never) := by
  have hcompile : (Backend.lua libraries).compile p Flag.never.afterLook = (.ok a, Flag.never) := by
    show (Compilation.compile libraries p, Flag.never) = _
    rw [h]
  rw [Rendering.build, if_neg (by decide), hcompile]
  rfl

/-- Nothing is listed after the output. -/
theorem annotate_of_isLiteral (h : r.IsLiteral) (output : Text) (a : Artifact) (p : Program) :
    Rendering.annotate output r a p = output := by
  rw [Rendering.annotate, h.libraries, h.program]
  rfl

/-- A template that resolves to texts is rendered as their concatenation. -/
theorem render_of_isLiteral [Locales] {includes : Lookup} {includeExtension text fileName : Text}
    (hname : Text.OneLine (Program.displayName path))
    (hr : resolve ⟨includes, includeExtension⟩ path text = r) (h : r.IsLiteral)
    (hlimit : r.sections.length < Number.wholeLimit) :
    render (Backend.lua (.ofRequested requested)) includeExtension
        ⟨⟨path, .ok text⟩, includes, fileName, locale⟩ Flag.never =
      (.generated ⟨fileName, (warnings locale).flatten ++ (textsOf r).flatten, .rendered, []⟩ none,
        Flag.never) := by
  subst hr
  let r := resolve ⟨includes, includeExtension⟩ path text
  have hexecute : Execution.ofArtifact ⟨tree locale ((textsOf r).map Text.Utf8.encode),
      .ofRequested requested, Compilation.runtime⟩ =
        .rendered (warnings locale ++ textsOf r).flatten :=
    ofArtifact_literal (textsOf r) (by rwa [textsOf, List.length_map])
  rw [render]
  show (if r.isOk then _ else _) = _
  rw [if_pos h.ok]
  refine (build_of_compile (compile_literal _ h hname)).trans ?_
  rw [hexecute]
  show (Ending.generated ⟨fileName, Rendering.annotate _ r _ _, .rendered, []⟩ none, Flag.never) = _
  rw [annotate_of_isLiteral h, List.flatten_append]

/-- **Literal text comes through as it is.** A template that resolves to texts is rendered
    as their concatenation, whichever characters stand in them, and one without `<#` as
    itself. The warning comes before it if, and only if, a locale is asked for that the
    machine, whatever locales it has, does not know. Lua counts the texts, which it does
    exactly up to 2^53. -/
theorem render_literal [Locales] (includes : Lookup) (includeExtension text fileName : Text)
    (path : Path) (locale : Option Text) (requested : List Library)
    (hname : Text.OneLine (Program.displayName path)) :
    let request : RenderRequest := ⟨⟨path, .ok text⟩, includes, fileName, locale⟩
    let r := Rendering.resolution includeExtension request text
    let Renders (body : Text) : Prop :=
      render (Backend.lua (.ofRequested requested)) includeExtension request Flag.never =
        (.generated ⟨fileName, (warnings locale).flatten ++ body, .rendered, []⟩ none, Flag.never)
    (r.IsLiteral → r.sections.length < Number.wholeLimit →
      Renders (r.sections.map (·.content)).flatten) ∧
    (¬ "<#".toList <:+: text → r.IsLiteral ∧ Renders text) := by
  intro request r Renders
  refine ⟨fun h hlimit => render_of_isLiteral hname rfl h hlimit, fun h => ?_⟩
  obtain ⟨hliteral, hlength, htext⟩ := isLiteral_of_no_tag ⟨includes, includeExtension⟩ path h
  have hlimit : r.sections.length < Number.wholeLimit := Nat.lt_of_le_of_lt hlength (by decide)
  have hrenders : Renders (textsOf r).flatten := render_of_isLiteral hname rfl hliteral hlimit
  have htext' : (textsOf r).flatten = text := htext
  rw [htext'] at hrenders
  exact ⟨hliteral, hrenders⟩

/-- A template of two texts, with an escaped marker in the first. -/
def markerTemplate : Text := "say \\\\\\<# \"hi\"<##>\x007".toList

/-- What `markerTemplate` resolves to. -/
def markerResolution (path : Path) : Resolution :=
  ⟨[⟨.text, path, ⟨1, 0⟩, "say \\\\<# \"hi\"".toList⟩, ⟨.text, path, ⟨1, 18⟩, "\x007".toList⟩],
    [], false, false, []⟩

theorem resolve_markerTemplate (env : Resolver.Setting) (path : Path) :
    resolve env path markerTemplate = markerResolution path := by
  have hscan : Token.scan markerTemplate =
      [⟨.text, ⟨1, 0⟩, "say \\\\<# \"hi\"".toList⟩, ⟨.text, ⟨1, 18⟩, "\x007".toList⟩] := by
    cbv
  have hstep (s : Resolver) (position : Position) (content : Text) :
      Resolver.step env path s ⟨.text, position, content⟩ =
        .done { s with result := { s.result with
          sections := s.result.sections ++ [⟨.text, path, position, content⟩] } } := rfl
  rw [resolve, hscan, Resolver.walk_done (hstep _ _ _), Resolver.walk_done (hstep _ _ _),
    Resolver.walk_nil]
  rfl

theorem isLiteral_markerResolution (path : Path) : (markerResolution path).IsLiteral := by
  refine ⟨rfl, ?_, rfl, rfl, rfl⟩
  simp [markerResolution]

/-- On a machine without other locales the warning is written, and names the locale as it is. -/
theorem render_literal_marker :
    let _ : Locales := .single
    let path : Path := ⟨"main.sgtt".toList⟩
    let request : RenderRequest := ⟨⟨path, .ok markerTemplate⟩, ⟨[]⟩, "main.cs".toList,
      some "x\ny".toList⟩
    Text.OneLine (Program.displayName path) ∧
      (Rendering.resolution "inc".toList request markerTemplate).IsLiteral ∧
      render (Backend.lua (.ofRequested [.math])) "inc".toList request Flag.never =
        (.generated ⟨"main.cs".toList, ("#warning The culture \"x\ny\" could not be resolved. " ++
          "This source is generated using the invariant culture.\n" ++
          "say \\\\<# \"hi\"\x007").toList, .rendered, []⟩ none, Flag.never) := by
  intro locales path request
  have hname : Text.OneLine (Program.displayName path) := by decide +kernel
  have hr : Rendering.resolution "inc".toList request markerTemplate = markerResolution path :=
    resolve_markerTemplate _ path
  have hunknown : ¬ Knows "x\ny".toList := by decide +kernel
  have hrender := (render_literal ⟨[]⟩ "inc".toList markerTemplate "main.cs".toList path
    (some "x\ny".toList) [.math] hname).1
  rw [hr] at hrender ⊢
  have hbody : ((markerResolution path).sections.map (·.content)).flatten =
      "say \\\\<# \"hi\"\x007".toList := by decide +kernel
  have hwarning : warning "x\ny".toList = ("#warning The culture \"x\ny\" could not be resolved. " ++
      "This source is generated using the invariant culture.\n").toList := by decide +kernel
  refine ⟨hname, isLiteral_markerResolution path, ?_⟩
  rw [hrender (isLiteral_markerResolution path) (by decide), warnings, if_neg hunknown,
    List.flatten_singleton, hbody, hwarning, ← String.toList_append]

end Literal

end Stencil
