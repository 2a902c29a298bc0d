/-
  What a program takes from the paths of its files.

  * `Resolution.rename σ r`: the same resolution of files with other paths;
  * `Line.Retold σ l l'`: a line as it is written for the other paths: its text is the same
    up to what stands behind two dashes;
  * `retold_linesOf`: each line of a program is written so, whatever the paths are;
  * `count_write`: the line breaks that end no line of a program are those in the names in
    its header, which are written as they are; the paths in markers are escaped;
  * `Headed p template imports`: the first lines of a program;
  * `headed_write`: a program begins with them, if the names in its header hold no line
    breaks.
-/
import Mathlib.Data.List.Forall2
import Stencil.Proofs.Program.Layout

namespace Stencil

open Text (OneLine)

/-! ## Other paths -/

/-- The same line of a file with another path. -/
def Origin.rename (σ : Path → Path) (o : Origin) : Origin := { o with file := σ o.file }

/-- The same section of a file with another path. -/
def Section.rename (σ : Path → Path) (s : Section) : Section := { s with file := σ s.file }

/-- The same import of a file with another path. -/
def Import.rename (σ : Path → Path) (i : Import) : Import := { i with file := σ i.file }

/-- The same error in a file with another path. -/
def DirectiveError.rename (σ : Path → Path) (e : DirectiveError) : DirectiveError :=
  { e with file := σ e.file }

/-- The same resolution of files with other paths. -/
def Resolution.rename (σ : Path → Path) (r : Resolution) : Resolution :=
  { r with
    sections := r.sections.map (Section.rename σ)
    imports := r.imports.map (Import.rename σ)
    errors := r.errors.map (DirectiveError.rename σ) }

namespace Program

/-- The names that stand in the header of a program as they are: that of the template, and
    those of the files with imports. -/
def headerNames (r : Resolution) (template : Path) : Text :=
  displayName template ++ r.imports.flatMap fun i => i.file.text

theorem oneLine_headerNames {r : Resolution} {template : Path} :
    OneLine (headerNames r template) ↔
      OneLine (displayName template) ∧ ∀ i ∈ r.imports, OneLine i.file.text := by
  rw [headerNames, Text.oneLine_append, Text.oneLine_flatMap]

/-! ## Lines for other paths -/

/-- A line as it is written for other paths. -/
inductive Line.Retold (σ : Path → Path) : Line → Line → Prop
  /-- Its text is the same, and so is the place that it was written from. -/
  | same (text : Text) (origin : Option Origin) :
    Retold σ ⟨text, origin⟩ ⟨text, origin.map (Origin.rename σ)⟩
  /-- It is a line of the frame with another comment. -/
  | comment (code c c' : Text) :
    Retold σ (plain (code ++ "--".toList ++ c)) (plain (code ++ "--".toList ++ c'))

section
variable (σ : Path → Path)

/-- Lines of the frame in which no path stands. -/
theorem retold_frame {ls : List Line} (h : ∀ l ∈ ls, l.origin = none) :
    List.Forall₂ (Line.Retold σ) ls ls := by
  refine List.forall₂_same.2 fun l hl => ?_
  obtain ⟨text, origin⟩ := l
  obtain rfl : origin = none := h _ hl
  exact .same text none

theorem retold_mapped (file : Path) (line : Nat) (texts : List Text) :
    List.Forall₂ (Line.Retold σ) (mapped file line texts) (mapped (σ file) line texts) := by
  induction texts generalizing line with
  | nil => exact .nil
  | cons t texts ih => exact .cons (.same t (some ⟨file, line⟩)) (ih (line + 1))

/-- A marker is a comment. -/
theorem retold_marker (file : Path) (line : Nat) :
    Line.Retold σ (marker file line) (marker (σ file) line) :=
  let escaped (p : Path) : Text :=
    "#line ".toList ++ Text.number line ++ " \"".toList ++ Lua.quote p.text ++ ['"']
  .comment [] (escaped file) (escaped (σ file))

theorem retold_block (s : Section) :
    List.Forall₂ (Line.Retold σ) (block s) (block (s.rename σ)) :=
  .cons (retold_marker σ s.file s.position.line) (retold_mapped σ s.file s.position.line _)

theorem retold_body (isOpen : Bool) (sections : List Section) :
    List.Forall₂ (Line.Retold σ) (body isOpen sections)
      (body isOpen (sections.map (Section.rename σ))) := by
  induction sections generalizing isOpen with
  | nil => exact retold_frame σ (origin_closing isOpen)
  | cons s rest ih =>
    rw [List.map_cons, body, body, show (s.rename σ).kind = s.kind from rfl]
    have hclosing := retold_frame σ (origin_closing isOpen)
    cases s.kind with
    | text => exact List.rel_append hclosing (.cons (.same _ none) (ih false))
    | expression =>
      exact List.rel_append hclosing (.cons (.same _ none) (List.rel_append (retold_block σ s)
        (.cons (.same _ none) (.cons (.same _ none) (ih false)))))
    | code => exact List.rel_append (retold_block σ s) (ih true)

/-- The line of an import ends with a comment. -/
theorem retold_importLine (i : Import) :
    Line.Retold σ (importLine i) (importLine (i.rename σ)) := by
  let place (file : Path) : Text := " from import directive of ".toList ++ file.text ++ '(' ::
    Text.number i.position.line ++ ',' :: Text.number (i.position.column + 1) ++ [')']
  let code : Text :=
    "local ".toList ++ i.binding ++ " = require(\"".toList ++ i.module ++ "\") ".toList
  have hline (i' : Import) (hmodule : i'.module = i.module) (hbinding : i'.binding = i.binding)
      (hposition : i'.position = i.position) :
      importLine i' = plain (code ++ "--".toList ++ place i'.file) := by
    simp only [importLine, code, place, hmodule, hbinding, hposition, List.append_assoc]
    rfl
  rw [hline i rfl rfl rfl, hline (i.rename σ) rfl rfl rfl]
  exact .comment code (place i.file) (place (σ i.file))

theorem retold_header (template template' : Path) (imports : List Import) :
    List.Forall₂ (Line.Retold σ) (header template imports)
      (header template' (imports.map (Import.rename σ))) := by
  refine .cons ?_ (List.rel_append ?_ ?_)
  · exact .comment [] (" Generated from ".toList ++ displayName template)
      (" Generated from ".toList ++ displayName template')
  · rw [List.forall₂_map_left_iff, List.map_map, List.forall₂_map_right_iff]
    exact List.forall₂_same.2 fun i _ => retold_importLine σ i
  · exact .cons (.same _ none) (.cons (.same _ none) (.cons (.same _ none) .nil))

/-- **Other paths change nothing but comments**: each line of a program is the line that is
    written for the other paths, up to what stands behind two dashes. -/
theorem retold_linesOf (r : Resolution) (template template' : Path) (locale : Option Text) :
    List.Forall₂ (Line.Retold σ) (linesOf r template locale)
      (linesOf (r.rename σ) template' locale) :=
  List.rel_append (List.rel_append (List.rel_append
    (retold_header σ template template' r.imports)
    (retold_frame σ (origin_prologue locale)))
    (retold_body σ false r.sections))
    (retold_frame σ origin_epilogue)

end

/-! ## Line breaks -/

/-- A character of a source stands in a line or ends one. -/
theorem count_ofLines (template : Path) (ls : List Line) (c : Char) :
    (ofLines template ls).source.count c =
      (ls.flatMap Line.text).count c + (if c = '\n' then ls.length else 0) := by
  rw [ofLines]
  induction ls with
  | nil => simp
  | cons l ls ih =>
    rw [List.flatMap_cons, List.count_append, ih, List.count_append, List.flatMap_cons,
      List.count_append, List.length_cons]
    by_cases hc : c = '\n'
    · simp [hc, Nat.add_assoc, Nat.add_left_comm, Nat.add_comm 1]
    · simp [hc, Ne.symm hc]

/-- The line breaks in the line of an import are those in the name of its file. -/
theorem count_importLine {i : Import} (hmodule : OneLine i.module) (hbinding : OneLine i.binding)
    {c : Char} (hc : c = '\n' ∨ c = '\r') : (importLine i).text.count c = i.file.text.count c := by
  let code : Text := "local ".toList ++ i.binding ++ " = require(\"".toList ++ i.module ++
    "\") -- from import directive of ".toList
  let place : Text :=
    '(' :: Text.number i.position.line ++ ',' :: Text.number (i.position.column + 1) ++ [')']
  have hline : (importLine i).text = code ++ i.file.text ++ place := by
    simp [importLine, plain, code, place]
  have hcode : OneLine code := by
    simp only [code, Text.oneLine_append, hmodule, hbinding, and_true]
    decide
  have hplace : OneLine place := by
    simp only [place, Text.oneLine_cons, Text.oneLine_append, Text.oneLine_number, and_true]
    decide
  rw [hline, List.count_append, List.count_append, Text.count_of_oneLine hcode hc,
    Text.count_of_oneLine hplace hc, Nat.zero_add, Nat.add_zero]

theorem count_header (template : Path) {imports : List Import}
    (himports : ∀ i ∈ imports, OneLine i.module ∧ OneLine i.binding) {c : Char}
    (hc : c = '\n' ∨ c = '\r') : ((header template imports).flatMap Line.text).count c =
      (displayName template ++ imports.flatMap fun i => i.file.text).count c := by
  have htitle : ("-- Generated from ".toList ++ displayName template).count c =
      (displayName template).count c := by
    rw [List.count_append, Text.count_of_oneLine (by decide) hc, Nat.zero_add]
  have hlines : ((imports.map importLine).flatMap Line.text).count c =
      (imports.flatMap fun i => i.file.text).count c := by
    induction imports with
    | nil => rfl
    | cons i imports ih =>
      have hi := himports i List.mem_cons_self
      rw [List.map_cons, List.flatMap_cons, List.flatMap_cons, List.count_append, List.count_append,
        count_importLine hi.1 hi.2 hc, ih fun i' hi' => himports i' (List.mem_cons_of_mem i hi')]
  have hend : ([fixed "", fixed "local GenClass = \x7b\x7d", fixed ""].flatMap Line.text).count c =
      0 := Text.count_of_oneLine (by decide) hc
  rw [header, List.cons_append, List.flatMap_cons, List.flatMap_append, List.count_append,
    List.count_append, hlines, hend, Nat.add_zero, List.count_append]
  exact congrArg (· + _) htitle

/-- The line breaks of a program end its lines or stand in the names in its header. -/
theorem count_write {r : Resolution} (himports : ∀ i ∈ r.imports, OneLine i.module ∧
    OneLine i.binding) (template : Path) (locale : Option Text) {c : Char}
    (hc : c = '\n' ∨ c = '\r') : (write r template locale).source.count c =
      (headerNames r template).count c +
        (if c = '\n' then (write r template locale).lineMap.length else 0) := by
  have hframe {ls : List Line} (h : ∀ l ∈ ls, OneLine l.text) : (ls.flatMap Line.text).count c = 0 :=
    Text.count_of_oneLine (Text.oneLine_flatMap.2 h) hc
  have hepilogue : (epilogue.flatMap Line.text).count c = 0 := hframe (by decide)
  have hlength : (write r template locale).lineMap.length = (linesOf r template locale).length :=
    List.length_map _
  rw [hlength, write_eq_ofLines, count_ofLines, linesOf, List.flatMap_append, List.flatMap_append,
    List.flatMap_append, List.count_append, List.count_append, List.count_append,
    hframe (oneLine_prologue locale), hframe (oneLine_body false r.sections),
    hepilogue, count_header template himports hc]
  rfl

/-! ## The header -/

/-- The first lines of a program: a comment, a line for each import, an empty line, the table
    of the program, an empty line; then comes the function that renders. -/
structure Headed (p : Program) (template : Path) (imports : List Import) : Prop where
  title : p.line? 1 = some ("-- Generated from ".toList ++ displayName template)
  binding : ∀ k i, imports[k]? = some i → p.line? (k + 2) = some
    ("local ".toList ++ i.binding ++ " = require(\"".toList ++ i.module ++
      "\") -- from import directive of ".toList ++ i.file.text ++ '(' ::
      Text.number i.position.line ++ ',' :: Text.number (i.position.column + 1) ++ [')'])
  blank : p.line? (imports.length + 2) = some []
  table : p.line? (imports.length + 3) = some "local GenClass = \x7b\x7d".toList
  blankBehind : p.line? (imports.length + 4) = some []
  render : p.line? (imports.length + 5) = some "function GenClass.execute()".toList

/-- A program whose names in the header hold no line breaks begins with a header. -/
theorem headed_write {r : Resolution} {template : Path} (hnames : OneLine (headerNames r template))
    (himports : ∀ i ∈ r.imports, OneLine i.module ∧ OneLine i.binding) (locale : Option Text) :
    Headed (write r template locale) template r.imports := by
  obtain ⟨hname, hfiles⟩ := oneLine_headerNames.1 hnames
  have hline := oneLine_linesOf hname (fun i hi =>
    oneLine_importLine (himports i hi).1 (himports i hi).2 (hfiles i hi)) locale
  -- the lines behind those of the imports
  let behind : List Line := [fixed "", fixed "local GenClass = \x7b\x7d", fixed ""] ++
    prologue locale ++ body false r.sections ++ epilogue
  have hlines : linesOf r template locale =
      plain ("-- Generated from ".toList ++ displayName template) ::
        (r.imports.map importLine ++ behind) := by
    simp only [linesOf, header, behind, List.cons_append, List.append_assoc]
  have hbehind : ∀ k l, behind[k]? = some l →
      (write r template locale).line? (r.imports.length + 2 + k) = some l.text := by
    intro k l hl
    have hindex : (linesOf r template locale)[r.imports.length + 1 + k]? = some l := by
      rw [hlines, Nat.add_right_comm, List.getElem?_cons_succ,
        List.getElem?_append_right (by simp), List.length_map, Nat.add_sub_cancel_left, hl]
    rw [show r.imports.length + 2 + k = r.imports.length + 1 + k + 1 by omega]
    exact line?_ofLines hline hindex
  refine ⟨?_, fun k i hi => ?_, hbehind 0 _ rfl, hbehind 1 _ rfl, hbehind 2 _ rfl, hbehind 3 _ rfl⟩
  · exact line?_ofLines (n := 0) hline (by rw [hlines]; rfl)
  · have hindex : (linesOf r template locale)[k + 1]? = some (importLine i) := by
      have hk : k < (r.imports.map importLine).length := by
        rw [List.length_map]
        exact (List.getElem?_eq_some_iff.1 hi).1
      rw [hlines, List.getElem?_cons_succ, List.getElem?_append_left hk, List.getElem?_map, hi]
      rfl
    exact line?_ofLines hline hindex

end Program

end Stencil
