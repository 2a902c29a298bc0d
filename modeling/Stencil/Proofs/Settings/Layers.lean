/-
  Settings in two layers.

  Each setting is merged on its own, and what it is in effect is found in the merged settings.  The
  two stages agree on when a setting is given, but for the locale: a blank one is no locale in
  effect, and still takes the place of the one in the lower layer.

  * `loadShared tree shared?`: the settings of the lower layer;
  * `Overrides given setting default lower upper`: how a setting follows from two layers, by when a
    layer gives it;
  * `overrides_of_said`: a setting is given by what a layer says about it;
  * `overrides_locale_iff`: when a blank locale counts as absent.

  Main statement: `merge_layers`.
-/
import Mathlib.Logic.Basic
import Stencil.Proofs.Files.Here
import Stencil.Settings

namespace Stencil.Settings

/-! ## Merging -/

theorem merge_assoc (lower upper top : Settings) :
    (lower.merge upper).merge top = lower.merge (upper.merge top) := by
  simp [merge, Option.or_assoc]

@[simp] theorem empty_merge (s : Settings) : empty.merge s = s := by
  simp [merge, empty]

@[simp] theorem merge_empty (s : Settings) : s.merge empty = s := by
  simp [merge, empty]

/-- The settings of the file for all projects, if there is one. -/
def loadShared (tree : FileTree) : Option Path → Except Fault Settings
  | some file => loadFile tree file
  | none => .ok empty

theorem load_eq_merge {tree : FileTree} {shared? : Option Path} {root : Path}
    {lower upper : Settings} (hlower : loadShared tree shared? = .ok lower)
    (hupper : loadFile tree (projectFile root) = .ok upper) :
    load tree shared? root = .ok (lower.merge upper) := by
  cases shared? with
  | none =>
    cases hlower
    rw [load, hupper]
    rfl
  | some file =>
    rw [loadShared] at hlower
    simp only [load, hlower, hupper]
    rfl

/-! ## Settings in effect -/

section
variable {α β : Type} {lower upper : Settings}

/-- How a setting follows from two layers: it is that of the upper one if this one gives it, else
    that of the lower one if that one does, and else the default. -/
structure Overrides (given : Settings → Prop) (setting : Settings → α) (default : α)
    (lower upper : Settings) : Prop where
  ofUpper : given upper → setting (lower.merge upper) = setting upper
  ofLower : ¬ given upper → given lower → setting (lower.merge upper) = setting lower
  ofNone : ¬ given upper → ¬ given lower → setting (lower.merge upper) = default

/-- **A setting is given by what a layer says about it**, if it is merged so, and has its default
    if nothing is said. -/
theorem overrides_of_said {said? : Settings → Option β} {setting : Settings → α} {default : α}
    (meaning : β → α) (hmerge : said? (lower.merge upper) = (said? upper).or (said? lower))
    (hsetting : ∀ s, setting s = (said? s).elim default meaning) :
    Overrides (said? · ≠ none) setting default lower upper := by
  have hmerged : setting (lower.merge upper) =
      ((said? upper).or (said? lower)).elim default meaning := by rw [hsetting, hmerge]
  constructor
  · intro hupper
    obtain ⟨b, hb⟩ := Option.ne_none_iff_exists'.1 hupper
    rw [hmerged, hsetting, hb, Option.some_or]
  · intro hupper _
    rw [hmerged, hsetting, not_not.1 hupper, Option.none_or]
  · intro hupper hlower
    rw [hmerged, not_not.1 hupper, not_not.1 hlower]
    rfl

theorem overrides_getD {said? : Settings → Option α}
    (hmerge : said? (lower.merge upper) = (said? upper).or (said? lower)) (default : α) :
    Overrides (said? · ≠ none) (fun s => (said? s).getD default) default lower upper :=
  overrides_of_said id hmerge fun s => by cases said? s <;> rfl

theorem overrides_outputDirectory (lower upper : Settings) (root : Path) :
    Overrides (·.outputDirectory? ≠ none) (outputDirectory · root) root lower upper := by
  refine overrides_of_said root.join rfl fun s => ?_
  rw [outputDirectory]
  cases s.outputDirectory? <;> rfl

theorem overrides_libraries (lower upper : Settings) :
    Overrides (·.libraries? ≠ none) libraries (.ok .standard) lower upper := by
  refine overrides_of_said Libraries.ofNames rfl fun s => ?_
  rw [libraries]
  cases s.libraries? <;> rfl

/-! ### The locale -/

theorem locale_eq_elim (s : Settings) :
    s.locale = s.locale?.elim none fun l => some (Text.trim l) |>.filter fun l => !l.isEmpty := by
  rw [locale]
  cases s.locale? <;> rfl

theorem said_of_locale {s : Settings} (h : s.locale ≠ none) : s.locale? ≠ none := by
  intro hnone
  rw [locale_eq_elim, hnone] at h
  exact h rfl

theorem overrides_locale (lower upper : Settings) :
    Overrides (·.locale? ≠ none) locale none lower upper :=
  overrides_of_said _ rfl locale_eq_elim

/-- **A blank locale counts as absent if and only if there is none below it.** -/
theorem overrides_locale_iff : Overrides (·.locale ≠ none) locale none lower upper ↔
    (upper.locale? ≠ none → upper.locale = none → lower.locale = none) := by
  have hsaid := overrides_locale lower upper
  constructor
  · intro h hwritten hblank
    refine not_not.1 fun hlower => hlower ?_
    rw [← h.ofLower (not_not.2 hblank) hlower, hsaid.ofUpper hwritten, hblank]
  · intro h
    constructor
    · exact fun hupper => hsaid.ofUpper (said_of_locale hupper)
    · intro hupper hlower
      refine hsaid.ofLower (fun hwritten => ?_) (said_of_locale hlower)
      exact hlower (h hwritten (not_not.1 hupper))
    · intro hupper hlower
      by_cases hwritten : upper.locale? = none
      · by_cases hbelow : lower.locale? = none
        · exact hsaid.ofNone (not_not.2 hwritten) (not_not.2 hbelow)
        · rw [hsaid.ofLower (not_not.2 hwritten) hbelow, not_not.1 hlower]
      · rw [hsaid.ofUpper hwritten, not_not.1 hupper]

end

/-- **The settings of a project take the place of those for all projects, one by one.**  A setting
    is that of the project if its file gives the setting, else that of the file for all projects,
    else the default; for the locale this is so if a locale is given when it is written, blank or
    not.  That a blank locale counts as absent is the same if and only if the project has none or
    there is no locale below it.  Layers can be merged in any grouping, and one that sets nothing
    makes no difference. -/
theorem merge_layers (lower upper : Settings) :
    (∀ tree shared? root, loadShared tree shared? = .ok lower →
      loadFile tree (projectFile root) = .ok upper →
      load tree shared? root = .ok (lower.merge upper)) ∧
    (Overrides (·.templateExtension? ≠ none) templateExtension "sgtt".toList lower upper ∧
      Overrides (·.includeExtension? ≠ none) includeExtension "ttinc".toList lower upper ∧
      Overrides (·.outputExtension? ≠ none) outputExtension "cs".toList lower upper ∧
      (∀ root, Overrides (·.outputDirectory? ≠ none) (outputDirectory · root) root lower upper) ∧
      Overrides (·.libraries? ≠ none) libraries (.ok .standard) lower upper ∧
      Overrides (·.locale? ≠ none) locale none lower upper) ∧
    (Overrides (·.locale ≠ none) locale none lower upper ↔
      (upper.locale? ≠ none → upper.locale = none → lower.locale = none)) ∧
    (∀ top, (lower.merge upper).merge top = lower.merge (upper.merge top)) ∧
    (empty.merge lower = lower ∧ lower.merge empty = lower) := by
  refine ⟨fun tree shared? root => load_eq_merge, ⟨?_, ?_, ?_, ?_, ?_, ?_⟩, overrides_locale_iff,
    merge_assoc lower upper, empty_merge lower, merge_empty lower⟩
  · exact overrides_getD rfl "sgtt".toList
  · exact overrides_getD rfl "ttinc".toList
  · exact overrides_getD rfl "cs".toList
  · exact overrides_outputDirectory lower upper
  · exact overrides_libraries lower upper
  · exact overrides_locale lower upper

/-- Settings of a locale and nothing else. -/
def ofLocale (name : Text) : Settings := { empty with locale? := some name }

/-- Settings of an extension of output files and nothing else. -/
def ofOutputExtension (extension : Text) : Settings :=
  { empty with outputExtension? := some extension }

/-- A tree with a file for all projects and that of one project. -/
def layeredTree : FileTree :=
  ⟨.directory [("shared.toml".toList,
      .file (Text.Utf8.encode "[render]\nlocale = \"de_DE.UTF-8\"\n".toList)),
    ("p".toList, .directory [(".sgtt".toList, .directory [("config.toml".toList,
      .file (Text.Utf8.encode "[output]\nextension = \"ts\"\n".toList))])])], []⟩

/-- A file on the way down from the current directory is loaded from its text. -/
theorem loadFile_of_descends {tree : FileTree} {file : Path} {names : List Bytes} {text : Text}
    {s : Settings} (h : file.Descends names) (hhere : tree.top.HasDirectory tree.here)
    (hfile : tree.top.at? (tree.here ++ names) = some (.file (Text.Utf8.encode text)))
    (htext : (Toml.parse? text).bind ofDocument? = some s) : loadFile tree file = .ok s := by
  simp only [loadFile, FileTree.readText_of_descends h hhere hfile, htext]

/-- The project gives the extension, the file for all projects the locale, and nothing else is
    given. -/
theorem merge_layers_loaded :
    let lower := ofLocale "de_DE.UTF-8".toList
    let upper := ofOutputExtension "ts".toList
    loadShared layeredTree (some ⟨"shared.toml".toList⟩) = .ok lower ∧
    loadFile layeredTree (projectFile ⟨"p".toList⟩) = .ok upper ∧
    load layeredTree (some ⟨"shared.toml".toList⟩) ⟨"p".toList⟩ = .ok (lower.merge upper) ∧
    (lower.merge upper).outputExtension = "ts".toList ∧
    (lower.merge upper).locale = some "de_DE.UTF-8".toList ∧
    (lower.merge upper).includeExtension = "ttinc".toList := by
  intro lower upper
  have hpath : Path.Descends ⟨"shared.toml".toList⟩ ["shared.toml".toList] := by decide +kernel
  have hshared : loadShared layeredTree (some ⟨"shared.toml".toList⟩) = .ok lower :=
    loadFile_of_descends hpath ⟨_, rfl⟩ rfl (by decide +kernel)
  have hbelow : (projectFile ⟨"p".toList⟩).Descends
      ["p".toList, ".sgtt".toList, "config.toml".toList] := by decide +kernel
  have hproject : loadFile layeredTree (projectFile ⟨"p".toList⟩) = .ok upper :=
    loadFile_of_descends hbelow ⟨_, rfl⟩ rfl (by decide +kernel)
  obtain ⟨hload, ⟨-, hinclude, houtput, -, -, hlocale⟩, -⟩ := merge_layers lower upper
  refine ⟨hshared, hproject, hload _ _ _ hshared hproject, ?_, ?_, ?_⟩
  · exact houtput.ofUpper (by decide)
  · exact hlocale.ofLower (by decide) (by decide)
  · exact hinclude.ofNone (by decide) (by decide)

/-- **A blank locale does not count as absent**: no locale is in effect, though the file for all
    projects gives one. -/
theorem blank_locale_hides :
    let lower := ofLocale "de_DE.UTF-8".toList
    let upper := ofLocale [' ']
    (Toml.parse? "[render]\nlocale = \"de_DE.UTF-8\"\n".toList).bind ofDocument? = some lower ∧
    (Toml.parse? "[render]\nlocale = \" \"\n".toList).bind ofDocument? = some upper ∧
    upper.locale = none ∧ lower.locale = some "de_DE.UTF-8".toList ∧
    (lower.merge upper).locale = none ∧
    ¬ Overrides (·.locale ≠ none) locale none lower upper := by
  intro lower upper
  have hlocale : lower.locale = some "de_DE.UTF-8".toList := by decide
  have hblank : upper.locale = none := by decide
  refine ⟨by decide +kernel, by decide +kernel, hblank, hlocale, by decide, fun h => ?_⟩
  have hnone : lower.locale = none := overrides_locale_iff.1 h (by decide) hblank
  rw [hlocale] at hnone
  cases hnone

end Stencil.Settings
