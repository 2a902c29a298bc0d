/-
  The place that the comments of a fault name.

  The column of a fault is nowhere kept: it is counted over the blanks of a program line, which is
  padded, cut at other line breaks than the template and may have lost backslashes.

  * `place file line column`: the line of the comments that names a place;
  * `Located env path text p blocks fault`: what the comments of a fault of a program are, by the
    block that its line lies in.

  Main statement: `faults_located`.
-/
import Stencil.Proofs.Program.Indent
import Stencil.Proofs.Resolution.Provenance
import Stencil.Proofs.Text.Comment
import Stencil.Rendering

namespace Stencil.Rendering

open Text (OneLine FirstInk indent rows spot)
open Program (Block Cutting Layout)
open Resolver (Visited)

/-- The line that names a place of a file; the column is counted from 0. -/
def place (file : Path) (line column : Nat) : Text :=
  "at ".toList ++ (file.text ++ (spot line column ++ [')']))

/-- Lines as comments. -/
def listing (lines : List Text) : Text := (lines.map (commentMark ++ ·)).flatMap (· ++ ['\n'])

/-- The comments of a fault of a program. -/
structure Located (env : Resolver.Setting) (path : Path) (text : Text) (p : Program)
    (blocks : List Block) (fault : Fault) : Prop where
  /-- For a line of a block, the first comment names the first character that is not blank in the
      line of the file that the program line is written from, or the end of that line's part of the
      section; the lines of the message follow. -/
  inside : ∀ b ∈ blocks, ∀ i < b.contents.length, fault.line? = some (b.first + i) →
    ∃ body line start stop column, Visited env path text b.part.file body ∧
      Cutting body b.part i line start stop ∧ FirstInk line start stop column ∧
      faultComments p fault =
        listing (place b.part.file (b.part.position.line + i) column :: rows fault.message)
  /-- For any other line, or for none, there are the lines of the message only. -/
  outside : (∀ b ∈ blocks, ∀ i < b.contents.length, fault.line? ≠ some (b.first + i)) →
    faultComments p fault = listing (rows fault.message)

section
variable {p : Program} {fault : Fault}

theorem oneLine_place {file : Path} (h : OneLine file.text) (line column : Nat) :
    OneLine (place file line column) := by
  simp only [place, Text.oneLine_append]
  exact ⟨by decide, h, Text.oneLine_spot line column, by decide⟩

theorem faultPlace_of_origin {n : Nat} {origin : Origin} {written : Text}
    (hn : fault.line? = some n) (horigin : p.origin? n = some origin)
    (hline : p.line? n = some written) :
    faultPlace p fault = place origin.file origin.line (indent written) ++ ['\n'] := by
  rw [faultPlace, hn]
  simp only [horigin, hline, Option.getD_some, place, spot, indent, List.append_assoc,
    List.cons_append]
  rfl

theorem faultPlace_of_frame (h : ∀ n, fault.line? = some n → p.origin? n = none) :
    faultPlace p fault = [] := by
  rw [faultPlace]
  cases hn : fault.line? with
  | none => rfl
  | some n => simp only [h n hn]

/-- A place is a line of its own. -/
theorem faultComments_of_place {file : Path} {line column : Nat} (hfile : OneLine file.text)
    (h : faultPlace p fault = place file line column ++ ['\n']) :
    faultComments p fault = listing (place file line column :: rows fault.message) := by
  rw [faultComments, h, List.append_assoc, List.singleton_append, commentOut_eq,
    Text.rows_append_newline (oneLine_place hfile line column).1, listing]

end

/-- **Faults are located where their program lines were written from.**  For a template and include
    files whose paths hold no line breaks, the program has a layout.  A fault of a line of a block
    is located in the file, the line and the column of the first character of that line which is not
    blank, as far as the line belongs to the section, whatever backslashes its tokens have lost; any
    other fault is not located.  The lines of the message follow. -/
theorem faults_located (env : Resolver.Setting) (path : Path) (text : Text) (template : Path)
    (locale : Option Text) (hpath : OneLine path.text) (htemplate : OneLine template.text)
    (hlookup : ∀ source ∈ env.lookup.sources, OneLine source.path.text) :
    ∃ blocks, Layout (Program.write (resolve env path text) template locale)
        (resolve env path text).sections blocks ∧
      ∀ fault, Located env path text (Program.write (resolve env path text) template locale) blocks
        fault := by
  obtain ⟨blocks, hlayout⟩ := Remap.exists_layout_of_oneLine env path text locale
    (Remap.oneLine_displayName htemplate) hpath hlookup
  have hreach := Resolver.reaches_walk env path .start (Token.scan text) []
  have htraced := (Resolver.Moment.Sourced.reaches hreach).result
  refine ⟨blocks, hlayout, fun fault => ⟨fun b hb i hi hn => ?_, fun hout => ?_⟩⟩
  · obtain ⟨hsection, hmapped⟩ := hlayout.part_mem hb
    obtain ⟨t, ⟨body, hvisited, ht⟩, hkind, hposition, hcontent⟩ := htraced.sections b.part hsection
    have hfile : OneLine b.part.file.text := by
      rcases hvisited.known with ⟨h, -⟩ | ⟨source, hsource, h, -⟩
      · exact h ▸ hpath
      · exact h ▸ hlookup source hsource
    have hcontents := List.getElem?_eq_getElem hi
    obtain ⟨line, start, stop, hcutting, hink⟩ :=
      Program.exists_firstInk ht hkind hmapped hposition hcontent hcontents
    exact ⟨body, line, start, stop, _, hvisited, hcutting, hink, faultComments_of_place hfile
      (faultPlace_of_origin hn (hlayout.origin b hb i hi) (hlayout.line b hb i _ hcontents))⟩
  · have hframe : ∀ n, fault.line? = some n →
        (Program.write (resolve env path text) template locale).origin? n = none := by
      intro n hn
      refine hlayout.frame n fun b hb hinside => ?_
      obtain ⟨i, rfl⟩ := Nat.exists_eq_add_of_le hinside.1
      exact hout b hb i (Nat.lt_of_add_lt_add_left hinside.2) hn
    rw [faultComments, faultPlace_of_frame hframe, List.nil_append, commentOut_eq, listing]

/-- A backslash before the closing marker is lost in the program, behind the first character. -/
theorem faults_located_lossy :
    OneLine "m".toList ∧ (∀ source ∈ Lookup.empty.sources, OneLine source.path.text) ∧
    ∃ blocks, Layout (Program.write
        (resolve ⟨.empty, "t".toList⟩ ⟨"m".toList⟩ Program.lossyTemplate) ⟨"m".toList⟩ none)
        (resolve ⟨.empty, "t".toList⟩ ⟨"m".toList⟩ Program.lossyTemplate).sections blocks ∧
      ∃ b ∈ blocks, b.part = Program.lossySection ⟨"m".toList⟩ ∧
        faultComments (Program.write
          (resolve ⟨.empty, "t".toList⟩ ⟨"m".toList⟩ Program.lossyTemplate) ⟨"m".toList⟩ none)
          ⟨"bad\n\nworse".toList, some b.first⟩ =
            "// at m(1,3)\n// bad\n// \n// worse\n".toList := by
  have hpath : OneLine "m".toList := by decide
  have hlookup : ∀ source ∈ Lookup.empty.sources, OneLine source.path.text := by decide
  obtain ⟨blocks, hlayout, hlocated⟩ := faults_located ⟨.empty, "t".toList⟩ ⟨"m".toList⟩
    Program.lossyTemplate ⟨"m".toList⟩ none hpath hpath hlookup
  obtain ⟨⟨part, first⟩, hb, hpart, -⟩ := Program.exists_block_lossy hlayout
  obtain rfl : part = Program.lossySection ⟨"m".toList⟩ := hpart
  refine ⟨hpath, hlookup, blocks, hlayout, _, hb, rfl, ?_⟩
  obtain ⟨body, line, start, stop, column, hvisited, hcutting, hink, hcomments⟩ :=
    (hlocated ⟨"bad\n\nworse".toList, some first⟩).inside _ hb 0
      (by rw [Block.length_contents]; exact Nat.succ_pos _) rfl
  obtain ⟨-, rfl⟩ := hvisited.known.resolve_right fun ⟨source, hsource, _⟩ => by cases hsource
  obtain rfl : Program.lossyTemplate = line := Option.some.inj hcutting.found
  obtain rfl : start = 2 := hcutting.start_eq
  -- the section begins with a backslash
  obtain rfl : 2 = column := by
    refine Nat.le_antisymm hink.le_column (Nat.not_lt.1 fun hlt => ?_)
    exact absurd (hink.blank 2 '\\' (Nat.le_refl 2) hlt rfl) (by decide)
  have hlisting : listing (place ⟨"m".toList⟩ 1 2 :: rows "bad\n\nworse".toList) =
      "// at m(1,3)\n// bad\n// \n// worse\n".toList := by decide +kernel
  exact hcomments.trans hlisting

end Stencil.Rendering
