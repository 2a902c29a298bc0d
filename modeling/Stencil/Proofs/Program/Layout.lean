/-
  Where the template's code stands in a program.

  * a `Block` is a section of code or of an expression with the number of the first
    program line that is written from it;
  * `Layout p sections blocks` says what the lines of a program are, told by what looking
    up a line gives: the blocks of the sections in their order, each one behind its own
    marker line with the content lines of its section (`ContentLines`) and their origins, and
    no origin on any other line;
  * `Woven sections lines` is the grammar of such lines: blocks with lines of the frame
    before, between and behind them.

  The lines of a program are woven (`woven_write`), and woven lines have a layout
  (`Woven.exists_blocks`).

  Main statement: `write_layout`.
-/
import Stencil.Proofs.Program.Breaks
import Stencil.Proofs.Resolution.Import

namespace Stencil

open Text (OneLine oneLine_iff)

namespace Program

/-! ## Layouts -/

/-- Whether the lines of a section are mapped to the template. -/
def isMapped (s : Section) : Bool := s.kind ≠ .text

/-- A section of code or of an expression, and the program line on which its content
    begins. -/
structure Block where
  part : Section
  first : Nat

namespace Block

/-- The content lines of the section, as the program writes them. -/
def contents (b : Block) : List Text := Text.lines (unifyBreaks b.part.content)

/-- The program line behind the block. -/
def behind (b : Block) : Nat := b.first + b.contents.length

/-- The text of a program line of the block: the first one is padded to the column of the
    section. -/
def lineText (b : Block) (i : Nat) (content : Text) : Text :=
  (if i = 0 then List.replicate b.part.position.column ' ' else []) ++ content

end Block

/-- The lines of a program, as looking them up shows them. -/
structure Layout (p : Program) (sections : List Section) (blocks : List Block) : Prop where
  /-- There is one block for each section of code or of an expression, in their order. -/
  parts : blocks.map Block.part = sections.filter isMapped
  /-- The marker of a block stands behind the block before it. -/
  apart : blocks.Pairwise fun b b' => b.behind < b'.first
  /-- A block directly follows its own marker line. -/
  marked : ∀ b ∈ blocks, 1 < b.first ∧ p.line? (b.first - 1) =
    some ("--#line ".toList ++ Text.number b.part.position.line ++ " \"".toList ++
      Lua.quote b.part.file.text ++ ['"'])
  /-- The contents of a block are the content lines of its section. -/
  content : ∀ b ∈ blocks, ContentLines b.part.content b.contents
  /-- The lines of a block are its contents. -/
  line : ∀ b ∈ blocks, ∀ i content, b.contents[i]? = some content →
    p.line? (b.first + i) = some (b.lineText i content)
  /-- The lines of a block are mapped to the lines of the section. -/
  origin : ∀ b ∈ blocks, ∀ i < b.contents.length,
    p.origin? (b.first + i) = some ⟨b.part.file, b.part.position.line + i⟩
  /-- Lines outside the blocks are not mapped. -/
  frame : ∀ n, (∀ b ∈ blocks, ¬ (b.first ≤ n ∧ n < b.behind)) → p.origin? n = none

/-- A block is one of a section of code or of an expression. -/
theorem Layout.part_mem {p : Program} {sections : List Section} {blocks : List Block}
    (h : Layout p sections blocks) {b : Block} (hb : b ∈ blocks) :
    b.part ∈ sections ∧ isMapped b.part = true := by
  have hpart := List.mem_map_of_mem (f := Block.part) hb
  rw [h.parts] at hpart
  exact List.mem_filter.1 hpart

/-! ## Lines of a program -/

/-- The lines of which a program is made are those that it is looked up by. -/
theorem line?_ofLines {template : Path} {ls : List Line} (h : ∀ l ∈ ls, OneLine l.text) {n : Nat}
    {l : Line} (hl : ls[n]? = some l) : (ofLines template ls).line? (n + 1) = some l.text := by
  have hclean : ∀ piece ∈ ls.map Line.text, '\n' ∉ piece := by
    intro piece hpiece
    obtain ⟨l, hl, rfl⟩ := List.mem_map.1 hpiece
    exact (h l hl).1
  have hlines := Text.lines_flatMap hclean
  rw [List.flatMap_map] at hlines
  have hn : n < ls.length := (List.getElem?_eq_some_iff.1 hl).1
  rw [line?, if_neg (Nat.succ_ne_zero n), ofLines, hlines, Nat.add_sub_cancel,
    List.getElem?_append_left (by simpa using hn), List.getElem?_map, hl]
  rfl

theorem origin?_ofLines (template : Path) (ls : List Line) (n : Nat) :
    (ofLines template ls).origin? (n + 1) = (ls[n]?).bind Line.origin := by
  rw [origin?, if_neg (Nat.succ_ne_zero n), ofLines, Nat.add_sub_cancel, List.getElem?_map]
  cases ls[n]? <;> rfl

/-! ## Blocks -/

theorem getElem?_mapped (file : Path) (line : Nat) (texts : List Text) (i : Nat) :
    (mapped file line texts)[i]? = texts[i]?.map fun t => ⟨t, some ⟨file, line + i⟩⟩ := by
  induction texts generalizing line i with
  | nil => simp [mapped]
  | cons t texts ih =>
    cases i with
    | zero => simp [mapped]
    | succ i =>
      rw [mapped, List.getElem?_cons_succ, List.getElem?_cons_succ, ih, Nat.add_assoc,
        Nat.add_comm 1]

theorem length_mapped (file : Path) (line : Nat) (texts : List Text) :
    (mapped file line texts).length = texts.length := by
  induction texts generalizing line with
  | nil => rfl
  | cons t texts ih => rw [mapped, List.length_cons, ih, List.length_cons]

/-- The content lines of a section, the first one padded. -/
theorem getElem?_contentLines (b : Block) (i : Nat) :
    (contentLines b.part)[i]? = b.contents[i]?.map (b.lineText i) := by
  unfold contentLines
  split
  · next h => simp [Block.contents, h]
  · next first rest h =>
    cases i with
    | zero => simp [Block.contents, h, Block.lineText]
    | succ i =>
      rw [Block.contents, h, List.getElem?_cons_succ, List.getElem?_cons_succ]
      cases rest[i]? <;> simp [Block.lineText]

theorem length_contentLines (b : Block) : (contentLines b.part).length = b.contents.length := by
  unfold contentLines
  split
  · next h => simp [Block.contents, h]
  · next first rest h => simp [Block.contents, h]

/-- The lines of a block behind its marker. -/
theorem getElem?_block (b : Block) (i : Nat) : (block b.part)[i + 1]? = b.contents[i]?.map
    fun c => ⟨b.lineText i c, some ⟨b.part.file, b.part.position.line + i⟩⟩ := by
  rw [block, List.getElem?_cons_succ, getElem?_mapped, getElem?_contentLines, Option.map_map]
  rfl

theorem length_block (b : Block) : (block b.part).length = b.contents.length + 1 := by
  rw [block, List.length_cons, length_mapped, length_contentLines]

/-! ## Woven lines -/

/-- Lines that are the blocks of sections with lines of the frame around them. -/
inductive Woven : List Section → List Line → Prop
  | nil : Woven [] []
  | frame {l sections ls} : l.origin = none → Woven sections ls → Woven sections (l :: ls)
  | block {s sections ls} : Woven sections ls → Woven (s :: sections) (block s ++ ls)

theorem Woven.append_frame {sections : List Section} {frame ls : List Line}
    (hframe : ∀ l ∈ frame, l.origin = none) (h : Woven sections ls) :
    Woven sections (frame ++ ls) := by
  induction frame with
  | nil => exact h
  | cons l frame ih =>
    exact .frame (hframe l List.mem_cons_self) (ih fun l' hl' => hframe l' (List.mem_cons_of_mem _ hl'))

theorem origin_closing (isOpen : Bool) : ∀ l ∈ closing isOpen, l.origin = none := by
  cases isOpen <;> simp [closing, defaultMarker, fixed, plain]

/-- The body of a program is woven from the sections. -/
theorem woven_body (isOpen : Bool) (sections : List Section) {rest : List Line}
    (hrest : Woven [] rest) : Woven (sections.filter isMapped) (body isOpen sections ++ rest) := by
  induction sections generalizing isOpen with
  | nil => exact hrest.append_frame (origin_closing isOpen)
  | cons s sections ih =>
    unfold body
    split
    · next hk =>
      rw [List.filter_cons_of_neg (by simp [isMapped, hk]), List.append_assoc]
      exact .append_frame (origin_closing isOpen) (.frame rfl (ih false))
    · next hk =>
      rw [List.filter_cons_of_pos (by simp [isMapped, hk])]
      simp only [List.append_assoc, List.cons_append]
      exact .append_frame (origin_closing isOpen)
        (.frame rfl (.block (.frame rfl (.frame rfl (ih false)))))
    · next hk =>
      rw [List.filter_cons_of_pos (by simp [isMapped, hk]), List.append_assoc]
      exact .block (ih true)

/-- What stands around the body is not mapped. -/
theorem origin_header (template : Path) (imports : List Import) :
    ∀ l ∈ header template imports, l.origin = none := by
  simp only [header, List.cons_append, List.mem_cons, List.mem_append, List.mem_map]
  rintro l (rfl | ⟨i, -, rfl⟩ | hl)
  · rfl
  · rfl
  · revert l
    simp [fixed, plain]

theorem origin_prologue (locale : Option Text) : ∀ l ∈ prologue locale, l.origin = none := by
  cases locale <;> simp [prologue, chooseLocale, appendText, fixed, plain]

theorem origin_epilogue : ∀ l ∈ epilogue, l.origin = none := by
  simp [epilogue, fixed, plain]

/-- The lines of a program. -/
def linesOf (r : Resolution) (template : Path) (locale : Option Text) : List Line :=
  header template r.imports ++ prologue locale ++ body false r.sections ++ epilogue

theorem write_eq_ofLines (r : Resolution) (template : Path) (locale : Option Text) :
    write r template locale = ofLines template (linesOf r template locale) := rfl

theorem woven_write (r : Resolution) (template : Path) (locale : Option Text) :
    Woven (r.sections.filter isMapped) (linesOf r template locale) := by
  have hbody : Woven (r.sections.filter isMapped) (body false r.sections ++ (epilogue ++ [])) :=
    woven_body false r.sections (.append_frame origin_epilogue .nil)
  rw [linesOf, List.append_assoc, List.append_assoc, ← List.append_nil epilogue]
  exact .append_frame (origin_header template r.imports) (.append_frame (origin_prologue locale) hbody)

/-! ## The blocks of woven lines -/

/-- A block stands in the lines. -/
structure Block.In (ls : List Line) (b : Block) : Prop where
  marked : 1 < b.first ∧ ls[b.first - 2]? = some (marker b.part.file b.part.position.line)
  line : ∀ i, i < b.contents.length → ls[b.first - 1 + i]? =
    (b.contents[i]?).map fun c => ⟨b.lineText i c, some ⟨b.part.file, b.part.position.line + i⟩⟩

/-- The lines of a block, seen in all lines. -/
theorem getElem?_append_block (before ls : List Line) (s : Section) {i : Nat}
    (hi : i < (block s).length) : (before ++ (block s ++ ls))[before.length + i]? = (block s)[i]? := by
  rw [List.getElem?_append_right (Nat.le_add_right _ _), Nat.add_sub_cancel_left,
    List.getElem?_append_left hi]

/-- A block stands behind the lines before it, with its marker first. -/
theorem in_append_block (before ls : List Line) (s : Section) :
    Block.In (before ++ (block s ++ ls)) ⟨s, before.length + 2⟩ := by
  let b : Block := ⟨s, before.length + 2⟩
  have hlength : (block s).length = b.contents.length + 1 := length_block b
  have hmarker : 0 < (block s).length := by omega
  refine ⟨⟨by simp, getElem?_append_block before ls s hmarker⟩, fun i hi => ?_⟩
  have hindex : b.first - 1 + i = before.length + (i + 1) := by
    show before.length + 2 - 1 + i = _
    omega
  rw [hindex, getElem?_append_block before ls s (hlength ▸ Nat.succ_lt_succ hi)]
  exact getElem?_block b i

/-- Behind some lines `before` woven lines have blocks, and other lines are not mapped. -/
theorem Woven.exists_blocks {sections : List Section} {ls : List Line} (h : Woven sections ls)
    (before : List Line) : ∃ blocks : List Block, blocks.map Block.part = sections ∧
      blocks.Pairwise (fun b b' => b.behind < b'.first) ∧
      (∀ b ∈ blocks, before.length + 1 < b.first ∧ b.In (before ++ ls)) ∧
      ∀ n l, before.length ≤ n → (before ++ ls)[n]? = some l →
        (∀ b ∈ blocks, ¬ (b.first ≤ n + 1 ∧ n + 1 < b.behind)) → l.origin = none := by
  induction h generalizing before with
  | nil =>
    refine ⟨[], rfl, .nil, by simp, fun n l hn hl => ?_⟩
    rw [List.append_nil, List.getElem?_eq_none hn] at hl
    cases hl
  | @frame l sections ls hl _ ih =>
    obtain ⟨blocks, hparts, hapart, hin, hframe⟩ := ih (before ++ [l])
    simp only [List.append_assoc, List.singleton_append, List.length_append,
      List.length_singleton] at hin hframe
    refine ⟨blocks, hparts, hapart, fun b hb => ⟨by have := (hin b hb).1; omega, (hin b hb).2⟩, ?_⟩
    intro n l' hn hl' hout
    rcases Nat.eq_or_lt_of_le hn with rfl | hlt
    · rw [List.getElem?_append_right (Nat.le_refl _), Nat.sub_self, List.getElem?_cons_zero] at hl'
      cases hl'
      exact hl
    · exact hframe n l' hlt hl' hout
  | @block s sections ls _ ih =>
    let b : Block := ⟨s, before.length + 2⟩
    have hlength : (Program.block s).length = b.contents.length + 1 := length_block b
    obtain ⟨blocks, hparts, hapart, hin, hframe⟩ := ih (before ++ Program.block s)
    simp only [List.append_assoc, List.length_append, hlength] at hin hframe
    refine ⟨b :: blocks, by simp [b, hparts], ?_, ?_, ?_⟩
    · refine List.pairwise_cons.2 ⟨fun b' hb' => ?_, hapart⟩
      have := (hin b' hb').1
      show before.length + 2 + b.contents.length < b'.first
      omega
    · intro b' hb'
      rcases List.mem_cons.1 hb' with rfl | hb'
      · exact ⟨Nat.lt_succ_self _, in_append_block before ls s⟩
      · exact ⟨by have := (hin b' hb').1; omega, (hin b' hb').2⟩
    · intro n l hn hl hout
      have hself := hout b List.mem_cons_self
      have hfirst : b.first = before.length + 2 := rfl
      have hbehind : b.behind = before.length + 2 + b.contents.length := rfl
      by_cases hn' : before.length + (b.contents.length + 1) ≤ n
      · exact hframe n l hn' hl fun b' hb' => hout b' (List.mem_cons_of_mem _ hb')
      · -- only the marker of the block is before its first line
        obtain rfl : n = before.length := by omega
        have hnonempty : 0 < (Program.block s).length := by omega
        have hmarker := getElem?_append_block before ls s hnonempty
        rw [Nat.add_zero, hl] at hmarker
        cases hmarker
        rfl

/-! ## Lines without line breaks -/

theorem oneLine_digitChar (n : Nat) : OneLine [Nat.digitChar (n % 10)] := by
  have h : ∀ d < 10, OneLine [Nat.digitChar d] := by decide
  exact h _ (Nat.mod_lt n (by decide))

/-- A quoted character is on one line. -/
theorem oneLine_quoteChar (c : Char) : OneLine (Lua.quoteChar c) := by
  unfold Lua.quoteChar
  split_ifs with h₁ h₂ hn hr ht hc
  any_goals decide
  · have h := fun n => (Text.oneLine_cons.1 (oneLine_digitChar n)).1
    simp only [Lua.threeDigits, Text.oneLine_cons, Text.oneLine_nil, and_true]
    exact ⟨by decide, h _, h _, h _⟩
  · exact Text.oneLine_cons.2 ⟨⟨hn, hr⟩, Text.oneLine_nil⟩

theorem oneLine_quote (t : Text) : OneLine (Lua.quote t) := by
  refine oneLine_iff.2 fun c hc => ?_
  obtain ⟨d, -, hc⟩ := List.mem_flatMap.1 hc
  exact oneLine_iff.1 (oneLine_quoteChar d) c hc

/-- The lines that are written from a section have no line breaks. -/
theorem oneLine_block (s : Section) : ∀ l ∈ block s, OneLine l.text := by
  intro l hl
  obtain ⟨n, hn⟩ := List.mem_iff_getElem?.1 hl
  cases n with
  | zero =>
    rw [block, List.getElem?_cons_zero] at hn
    cases hn
    simp only [marker, plain, Text.oneLine_append]
    exact ⟨⟨⟨⟨by decide, Text.oneLine_number _⟩, by decide⟩, oneLine_quote _⟩, by decide⟩
  | succ i =>
    have hblock := getElem?_block ⟨s, 0⟩ i
    rw [hn] at hblock
    obtain ⟨c, hc, rfl⟩ := Option.map_eq_some_iff.1 hblock.symm
    have hline : OneLine c :=
      Text.oneLine_of_mem_lines (return_notMem_unifyBreaks _) (List.mem_of_getElem? hc)
    simp only [Block.lineText, Text.oneLine_append]
    refine ⟨?_, hline⟩
    split
    · exact oneLine_iff.2 fun d hd => by rw [List.eq_of_mem_replicate hd]; decide
    · exact Text.oneLine_nil

theorem oneLine_appendText (t : Text) : OneLine (appendText t).text := by
  simp only [appendText, plain, Text.oneLine_append]
  exact ⟨⟨by decide, oneLine_quote t⟩, by decide⟩

theorem oneLine_closing (isOpen : Bool) : ∀ l ∈ closing isOpen, OneLine l.text := by
  cases isOpen <;> decide

theorem oneLine_body (isOpen : Bool) (sections : List Section) :
    ∀ l ∈ body isOpen sections, OneLine l.text := by
  induction sections generalizing isOpen with
  | nil => exact oneLine_closing isOpen
  | cons s sections ih =>
    unfold body
    split
    · intro l hl
      rcases List.mem_append.1 hl with hl | hl
      · exact oneLine_closing isOpen l hl
      · rcases List.mem_cons.1 hl with rfl | hl
        · exact oneLine_appendText _
        · exact ih false l hl
    · intro l hl
      simp only [List.mem_append, List.mem_cons] at hl
      rcases hl with hl | rfl | hl | rfl | rfl | hl
      · exact oneLine_closing isOpen l hl
      · decide
      · exact oneLine_block s l hl
      · decide
      · decide
      · exact ih false l hl
    · intro l hl
      rcases List.mem_append.1 hl with hl | hl
      · exact oneLine_block s l hl
      · exact ih true l hl

theorem oneLine_importLine {i : Import} (hmodule : OneLine i.module) (hbinding : OneLine i.binding)
    (hfile : OneLine i.file.text) : OneLine (importLine i).text := by
  simp only [importLine, plain, Text.oneLine_append, Text.oneLine_cons, Text.oneLine_number,
    hmodule, hbinding, hfile, and_true]
  decide

theorem oneLine_prologue (locale : Option Text) : ∀ l ∈ prologue locale, OneLine l.text := by
  cases locale with
  | none => decide
  | some name =>
    simp only [prologue, chooseLocale, List.cons_append, List.nil_append, List.mem_cons,
      List.not_mem_nil, or_false, forall_eq_or_imp, forall_eq]
    refine ⟨by decide, by decide, by decide, ?_, by decide, oneLine_appendText _, by decide,
      by decide⟩
    simp only [plain, Text.oneLine_append]
    exact ⟨⟨by decide, oneLine_quote name⟩, by decide⟩

/-- **No line of a program holds a line break**, if the names in its header hold none. -/
theorem oneLine_linesOf {r : Resolution} {template : Path} (hname : OneLine (displayName template))
    (himports : ∀ i ∈ r.imports, OneLine (importLine i).text) (locale : Option Text) :
    ∀ l ∈ linesOf r template locale, OneLine l.text := by
  intro l hl
  simp only [linesOf, List.mem_append] at hl
  rcases hl with ((hl | hl) | hl) | hl
  · simp only [header, List.cons_append, List.mem_cons, List.mem_append, List.mem_map] at hl
    rcases hl with rfl | ⟨i, hi, rfl⟩ | rfl | rfl | rfl | hl
    · simp only [plain, Text.oneLine_append]
      exact ⟨by decide, hname⟩
    · exact himports i hi
    · decide
    · decide
    · decide
    · exact absurd hl List.not_mem_nil
  · exact oneLine_prologue locale l hl
  · exact oneLine_body false r.sections l hl
  · revert l
    decide

/-! ## The layout of a program -/

/-- Woven one-line texts make a program with a layout. -/
theorem exists_layout {sections : List Section} {ls : List Line} (template : Path)
    (hwoven : Woven (sections.filter isMapped) ls) (hline : ∀ l ∈ ls, OneLine l.text) :
    ∃ blocks, Layout (ofLines template ls) sections blocks := by
  obtain ⟨blocks, hparts, hapart, hin, hframe⟩ := hwoven.exists_blocks []
  simp only [List.nil_append, List.length_nil] at hin hframe
  refine ⟨blocks, hparts, hapart, fun b hb => ?_, fun b _ => contentLines_iff.2 rfl,
    fun b hb i c hc => ?_, fun b hb i hi => ?_, fun n hn => ?_⟩
  · obtain ⟨hfirst, hmarker⟩ := (hin b hb).2.marked
    refine ⟨hfirst, ?_⟩
    rw [show b.first - 1 = b.first - 2 + 1 by omega]
    exact line?_ofLines hline hmarker
  · have hfirst := (hin b hb).1
    have hl := (hin b hb).2.line i (List.getElem?_eq_some_iff.1 hc).1
    rw [hc] at hl
    rw [show b.first + i = b.first - 1 + i + 1 by omega]
    exact line?_ofLines hline hl
  · have hfirst := (hin b hb).1
    have hl := (hin b hb).2.line i hi
    rw [List.getElem?_eq_getElem hi] at hl
    rw [show b.first + i = b.first - 1 + i + 1 by omega, origin?_ofLines, hl]
    rfl
  · cases n with
    | zero => rfl
    | succ n =>
      rw [origin?_ofLines]
      cases hl : ls[n]? with
      | none => rfl
      | some l => exact hframe n l (Nat.zero_le _) hl hn

/-- The line feeds of a program end its lines. -/
theorem count_source {template : Path} {ls : List Line} (h : ∀ l ∈ ls, OneLine l.text) :
    (ofLines template ls).source.count '\n' = (ofLines template ls).lineMap.length := by
  simp only [ofLines, List.length_map, List.count_flatMap]
  induction ls with
  | nil => rfl
  | cons l ls ih =>
    have hl : l.text.count '\n' = 0 := List.count_eq_zero.2 (h l List.mem_cons_self).1
    simp only [List.map_cons, List.sum_cons, List.length_cons, Function.comp_apply]
    rw [ih fun l' hl' => h l' (List.mem_cons_of_mem _ hl')]
    simp [hl, Nat.add_comm]

theorem getLast?_source {template : Path} {ls : List Line} (h : ls ≠ []) :
    (ofLines template ls).source.getLast? = some '\n' := by
  rw [ofLines, ← List.dropLast_append_getLast h]
  simp

theorem return_notMem_source {template : Path} {ls : List Line} (h : ∀ l ∈ ls, OneLine l.text) :
    '\r' ∉ (ofLines template ls).source := by
  simp only [ofLines, List.mem_flatMap, List.mem_append, not_exists, not_and]
  rintro l hl (hr | hr)
  · exact (h l hl).2 hr
  · exact absurd hr (by decide)

/-- **The line map of a program is exact.**  If the names in its header hold no line breaks,
    a program of a resolution has one line for each entry of its line map, each ended by a
    line feed, and no carriage return; its lines are the blocks of the code and expression
    sections with the origins of their lines, and lines of the frame, which have none. -/
theorem write_layout (env : Resolver.Setting) (path : Path) (text : Text) (template : Path)
    (locale : Option Text) (hname : OneLine (displayName template))
    (himports : ∀ i ∈ (resolve env path text).imports, OneLine i.file.text) :
    '\r' ∉ (write (resolve env path text) template locale).source ∧
    (write (resolve env path text) template locale).source.getLast? = some '\n' ∧
    (write (resolve env path text) template locale).source.count '\n' =
      (write (resolve env path text) template locale).lineMap.length ∧
    ∃ blocks, Layout (write (resolve env path text) template locale)
      (resolve env path text).sections blocks := by
  have hline := oneLine_linesOf hname (fun i hi =>
    let h := (imports_resolve env path text i hi).oneLine
    oneLine_importLine h.1 h.2 (himports i hi)) locale
  rw [write_eq_ofLines]
  exact ⟨return_notMem_source hline, getLast?_source (by simp [linesOf, epilogue]),
    count_source hline, exists_layout template (woven_write _ _ _) hline⟩

/-- A template with an import, code on two lines and an expression. -/
def mixedTemplate : Text :=
  "<#@ import namespace=\"a.b\" #><# if x then\r\nend #>text<#= \r1 #>".toList

/-- The sections of `mixedTemplate`. -/
def mixedSections (path : Path) : List Section :=
  [⟨.code, path, ⟨1, 31⟩, " if x then\r\nend ".toList⟩, ⟨.text, path, ⟨2, 6⟩, "text".toList⟩,
    ⟨.expression, path, ⟨2, 13⟩, " \r1 ".toList⟩]

theorem sections_mixedTemplate (env : Resolver.Setting) (path : Path) :
    (resolve env path mixedTemplate).sections = mixedSections path := by
  have hscan : Token.scan mixedTemplate =
      [⟨.directive, ⟨1, 3⟩, " import namespace=\"a.b\" ".toList⟩,
        ⟨.code, ⟨1, 31⟩, " if x then\r\nend ".toList⟩, ⟨.text, ⟨2, 6⟩, "text".toList⟩,
        ⟨.expression, ⟨2, 13⟩, " \r1 ".toList⟩] := by
    cbv
  have hread : Directive.read " import namespace=\"a.b\" ".toList =
      .ok (.importModule "a.b".toList ['b']) := by
    decide +kernel
  rw [resolve, hscan, Resolver.walk_done (Resolver.step_eq_of_outcome (.imported rfl hread)),
    Resolver.walk_done (Resolver.step_eq_of_outcome (.plain rfl)),
    Resolver.walk_done (Resolver.step_eq_of_outcome (.plain rfl)),
    Resolver.walk_done (Resolver.step_eq_of_outcome (.plain rfl)), Resolver.walk_nil]
  rfl

/-- The header of the program names the template and the file of the import.  The code has two
    lines, the first one padded, and the carriage return of the expression is a space. -/
theorem write_layout_mixed :
    let r := resolve ⟨.empty, "t".toList⟩ ⟨"m".toList⟩ mixedTemplate
    let p := write r ⟨"m".toList⟩ none
    OneLine (displayName ⟨"m".toList⟩) ∧ (∀ i ∈ r.imports, OneLine i.file.text) ∧
    '\r' ∉ p.source ∧
    ∃ code expression : Block, Layout p r.sections [code, expression] ∧
      p.line? (code.first - 1) = some "--#line 1 \"m\"".toList ∧
      p.line? code.first = some (List.replicate 31 ' ' ++ " if x then".toList) ∧
      p.line? (code.first + 1) = some "end ".toList ∧
      p.origin? (code.first + 1) = some ⟨⟨"m".toList⟩, 2⟩ ∧
      p.line? expression.first = some (List.replicate 13 ' ' ++ "  1 ".toList) := by
  intro r p
  have hname : OneLine (displayName ⟨"m".toList⟩) := by decide +kernel
  have himports : ∀ i ∈ r.imports, OneLine i.file.text := by
    intro i hi
    rcases (imports_resolve _ _ _ i hi).known with hfile | ⟨source, hsource, -⟩
    · rw [hfile]
      decide
    · exact absurd hsource List.not_mem_nil
  obtain ⟨hreturn, -, -, blocks, hlayout⟩ :=
    write_layout ⟨.empty, "t".toList⟩ ⟨"m".toList⟩ mixedTemplate ⟨"m".toList⟩ none hname himports
  have hparts : blocks.map Block.part = [⟨.code, ⟨"m".toList⟩, ⟨1, 31⟩, " if x then\r\nend ".toList⟩,
      ⟨.expression, ⟨"m".toList⟩, ⟨2, 13⟩, " \r1 ".toList⟩] := by
    rw [hlayout.parts, sections_mixedTemplate]
    rfl
  obtain ⟨⟨_, first⟩, others, rfl, rfl, hothers⟩ := List.map_eq_cons_iff.1 hparts
  obtain ⟨⟨_, first'⟩, rest, rfl, rfl, hrest⟩ := List.map_eq_cons_iff.1 hothers
  obtain rfl := List.map_eq_nil_iff.1 hrest
  refine ⟨hname, himports, hreturn, _, _, hlayout, ?_, ?_, ?_, ?_, ?_⟩
  · have hmarker : "--#line ".toList ++ Text.number 1 ++ " \"".toList ++ Lua.quote "m".toList ++
        ['"'] = "--#line 1 \"m\"".toList := by decide +kernel
    exact (hlayout.marked _ List.mem_cons_self).2.trans (congrArg some hmarker)
  · exact hlayout.line _ List.mem_cons_self 0 _ rfl
  · exact hlayout.line _ List.mem_cons_self 1 _ rfl
  · exact hlayout.origin _ List.mem_cons_self 1 (Nat.lt_succ_self 1)
  · exact hlayout.line _ (List.mem_cons_of_mem _ List.mem_cons_self) 0 _ rfl

end Program

end Stencil
