/-
  The settings of a project.

  * `Settings` holds what configuration files say; a setting that no file gives is
    absent;
  * `merge` lets a later layer win setting by setting;
  * `templateExtension` and the like are the settings with their defaults; a locale
    that is blank counts as absent;
  * `load` reads the layers: a file for all projects, then the file of the project.
-/
import Stencil.FileTree
import Stencil.Library
import Stencil.Toml.Document

namespace Stencil

/-- What configuration files say. -/
structure Settings where
  templateExtension? : Option Text
  includeExtension? : Option Text
  outputExtension? : Option Text
  /-- The output directory, seen from the root of the project. -/
  outputDirectory? : Option Path
  locale? : Option Text
  libraries? : Option (List Text)
  deriving DecidableEq

namespace Settings

/-- Nothing is set. -/
def empty : Settings := ⟨none, none, none, none, none, none⟩

/-- Two layers of settings; the upper one wins. -/
def merge (lower upper : Settings) : Settings where
  templateExtension? := upper.templateExtension?.or lower.templateExtension?
  includeExtension? := upper.includeExtension?.or lower.includeExtension?
  outputExtension? := upper.outputExtension?.or lower.outputExtension?
  outputDirectory? := upper.outputDirectory?.or lower.outputDirectory?
  locale? := upper.locale?.or lower.locale?
  libraries? := upper.libraries?.or lower.libraries?

/-! ## Settings with their defaults -/

/-- The extension of template files. -/
def templateExtension (s : Settings) : Text := s.templateExtension?.getD "sgtt".toList

/-- The extension of include files. -/
def includeExtension (s : Settings) : Text := s.includeExtension?.getD "ttinc".toList

/-- The extension of generated files. -/
def outputExtension (s : Settings) : Text := s.outputExtension?.getD "cs".toList

/-- The directory for generated files of the project at a root. -/
def outputDirectory (s : Settings) (root : Path) : Path :=
  match s.outputDirectory? with
  | some directory => root.join directory
  | none => root

/-- The locale, without the blanks around it. -/
def locale (s : Settings) : Option Text :=
  (s.locale?.map Text.trim).filter fun l => !l.isEmpty

/-- The libraries to link. -/
def libraries (s : Settings) : Except UnknownLibrary Libraries :=
  match s.libraries? with
  | some names => Libraries.ofNames names
  | none => .ok .standard

/-! ## Settings in a document -/

/-- The settings of a section, by their order: a table gives them by name, a list by
    position; a date or a time stands for an empty section. -/
def sectionValues? (names : List Text) : Toml.Value → Option (List (Option Toml.Value))
  | .table _ members => some (names.map fun name => Toml.Members.value? name members)
  | .array items => some ((List.range names.length).map fun n => items[n]?)
  | .tables items => some ((List.range names.length).map fun n => items[n]?.map (.table .header))
  | .dateTime _ => some (names.map fun _ => none)
  | _ => none

/-- The values of a section of a document, by the order of their names. -/
def values? (document : Toml.Members) (name : Text) (names : List Text) :
    Option (List (Option Toml.Value)) :=
  match document.value? name with
  | none => some (names.map fun _ => none)
  | some v => sectionValues? names v

/-- A value that must be a string. -/
def text? : Toml.Value → Option Text
  | .string t => some t
  | _ => none

/-- A value that must be a list of strings. -/
def texts? : Toml.Value → Option (List Text)
  | .array items => items.mapM text?
  | _ => none

/-- A setting that may be absent but must have its form. -/
def setting? {α : Type} (form : Toml.Value → Option α) : Option (Option Toml.Value) → Option (Option α)
  | some (some v) => (form v).map some
  | _ => some none

/-- The settings of a document, if all of them have their forms. Other keys do not
    matter. -/
def ofDocument? (document : Toml.Members) : Option Settings := do
  let template ← values? document "template".toList ["extension".toList, "include_extension".toList]
  let output ← values? document "output".toList ["extension".toList, "dir".toList]
  let render ← values? document "render".toList ["locale".toList, "libraries".toList]
  return {
    templateExtension? := ← setting? text? template[0]?
    includeExtension? := ← setting? text? template[1]?
    outputExtension? := ← setting? text? output[0]?
    outputDirectory? := (← setting? text? output[1]?).map fun t => ⟨t⟩
    locale? := ← setting? text? render[0]?
    libraries? := ← setting? texts? render[1]? }

/-! ## Configuration files -/

/-- Why settings cannot be loaded. -/
inductive Fault where
  /-- A file cannot be read. -/
  | unreadable (file : Path) (cause : FileFault)
  /-- A file does not hold settings. -/
  | invalid (file : Path)
  deriving DecidableEq

/-- The words for a fault. -/
def Fault.message : Fault → Text
  | unreadable file cause => "failed to read ".toList ++ file.text ++ ": ".toList ++ cause.message
  | invalid file => "failed to parse ".toList ++ file.text ++ ": the file is not valid".toList

/-- The settings of a file; a file that does not exist sets nothing. -/
def loadFile (tree : FileTree) (file : Path) : Except Fault Settings :=
  match tree.readText file with
  | .error .notFound => .ok empty
  | .error cause => .error (.unreadable file cause)
  | .ok text =>
    match (Toml.parse? text).bind ofDocument? with
    | some s => .ok s
    | none => .error (.invalid file)

/-- The configuration file of the project at a root. -/
def projectFile (root : Path) : Path :=
  (root.join ⟨".sgtt".toList⟩).join ⟨"config.toml".toList⟩

/-- The settings of a project: those of the file for all projects, if there is one, below
    those of its own file. -/
def load (tree : FileTree) (shared? : Option Path) (root : Path) : Except Fault Settings := do
  let lower ← match shared? with
    | some file => loadFile tree file
    | none => pure empty
  return lower.merge (← loadFile tree (projectFile root))

end Settings

end Stencil
