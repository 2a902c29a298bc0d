/-
  The imports of a resolution.

  * `Import.From env file i`: the import is what some import directive asks for, and stands
    in the given file or in a file of the lookup;
  * `imports_resolve`: every import of a resolution comes from the template or the lookup.

  A module name is made of identifiers, so neither the name nor the binding of an import has
  line breaks (`Import.From.oneLine`).
-/
import Stencil.Proofs.Resolution.Failure
import Stencil.Proofs.Text.Lines
import Stencil.Proofs.Text.Pieces

namespace Stencil

open Text (OneLine oneLine_iff)

/-! ## Module names -/

namespace Directive

theorem isNameRest_of_mem {name : Text} (h : isIdentifier name = true) {c : Char}
    (hc : c ∈ name) : isNameRest c = true := by
  cases name with
  | nil => cases hc
  | cons d rest =>
    simp only [isIdentifier, Bool.and_eq_true, List.all_eq_true] at h
    obtain ⟨⟨hstart, hrest⟩, -⟩ := h
    rcases List.mem_cons.1 hc with rfl | hc
    · simp only [isNameStart, isNameRest, Char.isAlphanum, Bool.or_eq_true] at hstart ⊢
      exact hstart.imp_left .inl
    · exact hrest c hc

theorem oneLine_of_isIdentifier {name : Text} (h : isIdentifier name = true) : OneLine name := by
  refine oneLine_iff.2 fun c hc => ?_
  have hname := isNameRest_of_mem h hc
  constructor
  · rintro rfl; exact absurd hname (by decide)
  · rintro rfl; exact absurd hname (by decide)

/-- The parts of a module name are identifiers. -/
theorem isIdentifier_of_moduleParts? {arguments : Text} {parts : List Text}
    (h : moduleParts? arguments = some parts) : ∀ part ∈ parts, isIdentifier part = true := by
  unfold moduleParts? at h
  split at h
  · cases h
  · simp only [Option.ite_none_right_eq_some, Option.some.injEq] at h
    obtain ⟨hall, rfl⟩ := h
    exact List.all_eq_true.1 hall

/-- Identifiers with dots between them are on one line. -/
theorem oneLine_join {parts : List Text} (h : ∀ part ∈ parts, OneLine part) :
    OneLine (Text.join ['.'] parts) := by
  refine oneLine_iff.2 fun c hc => ?_
  rcases Text.exists_of_mem_join hc with ⟨piece, hpiece, hc⟩ | hc
  · exact oneLine_iff.1 (h piece hpiece) c hc
  · rw [List.mem_singleton.1 hc]
    decide

/-- An import directive asks for the identifiers of its attributes. -/
theorem exists_parts_of_read {content module binding : Text}
    (h : read content = .ok (.importModule module binding)) :
    ∃ arguments parts, moduleParts? arguments = some parts ∧
      module = Text.join ['.'] parts ∧ binding = parts.getLast?.getD [] := by
  unfold read at h
  split at h
  · cases h
  · next name arguments _ =>
    split at h
    · split at h
      · next parts hparts =>
        simp only [Except.ok.injEq, importModule.injEq] at h
        exact ⟨arguments, parts, hparts, h.1.symm, h.2.symm⟩
      · cases h
    · split at h
      · split at h <;> cases h
      · split at h
        · cases h
        · split at h <;> cases h

theorem moduleParts?_ne_nil {arguments : Text} {parts : List Text}
    (h : moduleParts? arguments = some parts) : parts ≠ [] := by
  unfold moduleParts? at h
  split at h
  · cases h
  · simp only [Option.ite_none_right_eq_some, Option.some.injEq] at h
    exact h.2 ▸ Text.splitOn_ne_nil _

/-- An import directive binds an identifier. -/
theorem isIdentifier_of_read {content module binding : Text}
    (h : read content = .ok (.importModule module binding)) : isIdentifier binding = true := by
  obtain ⟨arguments, parts, hparts, rfl, rfl⟩ := exists_parts_of_read h
  rw [List.getLast?_eq_some_getLast (moduleParts?_ne_nil hparts), Option.getD_some]
  exact isIdentifier_of_moduleParts? hparts _ (List.getLast_mem _)

/-- The module and the binding of an import directive are on one line. -/
theorem oneLine_of_read {content module binding : Text}
    (h : read content = .ok (.importModule module binding)) :
    OneLine module ∧ OneLine binding := by
  obtain ⟨arguments, parts, hparts, rfl, rfl⟩ := exists_parts_of_read h
  have hall : ∀ part ∈ parts, OneLine part := fun part hpart =>
    oneLine_of_isIdentifier (isIdentifier_of_moduleParts? hparts part hpart)
  refine ⟨oneLine_join hall, ?_⟩
  cases hlast : parts.getLast? with
  | none => simp
  | some part => exact hall part (List.mem_of_getLast? hlast)

end Directive

/-! ## Where imports come from -/

/-- An import is asked for by a directive of the file, or of a file of the lookup. -/
structure Import.From (env : Resolver.Setting) (file : Path) (i : Import) : Prop where
  asked : ∃ content, Directive.read content = .ok (.importModule i.module i.binding)
  known : i.file = file ∨ ∃ source ∈ env.lookup.sources, i.file = source.path

/-- **Every import of a resolution is asked for in the template or in a file of the
    lookup.** -/
theorem imports_resolve (env : Resolver.Setting) (path : Path) (text : Text) :
    ∀ i ∈ (resolve env path text).imports, i.From env path := by
  intro i hi
  obtain ⟨file, s, t, r, hfile, hadds, hr⟩ :=
    (Resolver.exists_adds_of_mem_walk Resolution.imports_append env path .start _ hi).resolve_left
      List.not_mem_nil
  cases hadds with
  | imported _ hread =>
    rw [List.mem_singleton.1 hr]
    exact ⟨⟨_, hread⟩, hfile⟩
  | plain | failed | libraries | program | nothing => exact absurd hr List.not_mem_nil

theorem Import.From.oneLine {env : Resolver.Setting} {file : Path} {i : Import}
    (h : i.From env file) : OneLine i.module ∧ OneLine i.binding := by
  obtain ⟨content, hread⟩ := h.asked
  exact Directive.oneLine_of_read hread

end Stencil
