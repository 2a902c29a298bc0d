/-
  The bytes that a location names.

  * `Slice t start stop part`: the part of a text from one byte up to another one, both of which
    begin a character or end the text; nothing else can be cut out of a text;
  * `Addressed source n before line behind`: the line of a number, and what stands around it;
  * `lineStart_eq`, `fromLine_eq`, `lineText_eq`: where that line begins, and what is cut off there;
  * `byteRange_eq`: the range, told by characters.

  Main statement: `slice_byteRange`.  Columns and lengths are numbers without a bound; where a
  number is a machine word, the sum of the two must be one.
-/
import Stencil.Proofs.Text.Lines
import Stencil.Proofs.Text.Utf8
import Stencil.Snippet

namespace Stencil

open Text (lines linesInclusive)

/-! ## Slices -/

namespace Text.Utf8

/-- The part of a text from the byte `start` up to the byte `stop`. There is none unless each of
    them begins a character or ends the text. -/
def Slice (t : Text) (start stop : Nat) (part : Text) : Prop :=
  ∃ before behind, t = before ++ (part ++ behind) ∧ (encode before).length = start ∧
    (encode (before ++ part)).length = stop

theorem length_encode_le_append (t u : Text) : (encode t).length ≤ (encode (t ++ u)).length := by
  rw [encode_append, List.length_append]
  exact Nat.le_add_right _ _

variable {t part other : Text} {start stop : Nat}

theorem Slice.le (h : Slice t start stop part) : start ≤ stop := by
  obtain ⟨before, behind, -, rfl, rfl⟩ := h
  exact length_encode_le_append before part

theorem Slice.stop_le (h : Slice t start stop part) : stop ≤ (encode t).length := by
  obtain ⟨before, behind, rfl, -, rfl⟩ := h
  rw [← List.append_assoc]
  exact length_encode_le_append _ behind

/-- A slice has the bytes in its range. -/
theorem Slice.encode_eq (h : Slice t start stop part) :
    encode part = ((encode t).take stop).drop start := by
  obtain ⟨before, behind, rfl, rfl, rfl⟩ := h
  rw [← List.append_assoc, encode_append _ behind, List.take_left, encode_append, List.drop_left]

/-- A range has one slice. -/
theorem Slice.iff_eq (h : Slice t start stop part) : Slice t start stop other ↔ other = part := by
  constructor
  · intro h'
    exact encode_injective (h'.encode_eq.trans h.encode_eq.symm)
  · rintro rfl
    exact h

end Text.Utf8

open Text.Utf8 (Slice encode_append)

namespace Snippet

/-! ## Lines of a source -/

/-- The line of a number with what stands before and behind it. The lines are counted from 1, and
    0 stands for the first one too; a line past the last one is empty, at the end of the source. -/
inductive Addressed (source : Text) (n : Nat) : Text → Text → Text → Prop
  | line {line behind} : (lines source)[n - 1]? = some line →
      source = ((lines source).take (n - 1)).flatMap (· ++ ['\n']) ++ (line ++ behind) →
      (∀ c, behind.head? = some c → c = '\n') →
      Addressed source n (((lines source).take (n - 1)).flatMap (· ++ ['\n'])) line behind
  | past : (lines source).length ≤ n - 1 → Addressed source n source [] []

theorem exists_addressed (source : Text) (n : Nat) :
    ∃ before line behind, Addressed source n before line behind := by
  cases hline : (lines source)[n - 1]? with
  | none => exact ⟨_, _, _, .past (List.getElem?_eq_none_iff.1 hline)⟩
  | some line =>
    obtain ⟨behind, hsource, hbehind⟩ := Text.exists_break_of_line hline
    exact ⟨_, _, _, .line hline hsource hbehind⟩

section
variable {source before line behind : Text} {n : Nat}

theorem Addressed.source_eq (h : Addressed source n before line behind) :
    source = before ++ (line ++ behind) := by
  cases h with
  | line _ hsource _ => exact hsource
  | past => simp

theorem Addressed.newline_notMem (h : Addressed source n before line behind) : '\n' ∉ line := by
  cases h with
  | line hline _ _ => exact fun hc => (Text.mem_of_mem_lines (List.mem_of_getElem? hline) hc).2 rfl
  | past => exact List.not_mem_nil

theorem Addressed.head?_behind (h : Addressed source n before line behind) {c : Char}
    (hc : behind.head? = some c) : c = '\n' := by
  cases h with
  | line _ _ hbehind => exact hbehind c hc
  | past => cases hc

/-- The lines before a line, put together, are what stands before it. -/
theorem Addressed.flatten_take (h : Addressed source n before line behind) :
    ((linesInclusive source).take (n - 1)).flatten = before := by
  cases h with
  | line hline _ _ =>
    exact Text.flatten_take_linesInclusive (List.getElem?_eq_some_iff.1 hline).1
  | past hlength =>
    rw [List.take_of_length_le ((Text.length_linesInclusive_le source).trans hlength),
      Text.flatten_linesInclusive]

theorem lineStart_eq (h : Addressed source n before line behind) :
    lineStart source n = byteSize before := by
  rw [lineStart, h.flatten_take]

theorem fromLine_eq (h : Addressed source n before line behind) :
    fromLine source n = line ++ behind := by
  have hsplit : before ++ fromLine source n = before ++ (line ++ behind) := by
    rw [← h.source_eq, fromLine, ← h.flatten_take, ← List.flatten_append, List.take_append_drop,
      Text.flatten_linesInclusive]
  exact List.append_cancel_left hsplit

theorem lineText_eq (h : Addressed source n before line behind) : lineText source n = line := by
  have hplain : ∀ c ∈ line, decide (c ≠ '\n') = true := by
    intro c hc
    simpa using fun heq : c = '\n' => h.newline_notMem (heq ▸ hc)
  rw [lineText, fromLine_eq h, List.takeWhile_append_of_pos hplain]
  cases hbehind : behind with
  | nil => simp
  | cons c rest =>
    obtain rfl : c = '\n' := h.head?_behind (by rw [hbehind]; rfl)
    simp

/-! ## Ranges -/

/-- **The range of a location, told by characters**: it lies between two parts of the line. -/
theorem byteRange_eq {l : Location} (h : Addressed source l.line before line behind) :
    byteRange source l = (byteSize (before ++ line.take l.column),
      byteSize (before ++ line.take (l.column + l.length))) := by
  simp only [byteRange, lineStart_eq h, lineText_eq h, charOffset, byteSize, encode_append,
    List.length_append]

end

/-- **The bytes of a location are a slice of its line.**  Its line begins where a character of the
    source begins, or at the end of the source, so that the rest of the source can be cut off
    there.  The range lies in the line, whose line feed does not count; its ends are in order, both
    of them begin a character or end the source, and the slice between them has the characters of
    the line from the column on, as many as the location asks for or as there are left. -/
theorem slice_byteRange (source : Text) (l : Location) :
    ∃ before line behind, Addressed source l.line before line behind ∧ '\n' ∉ line ∧
      Slice source (lineStart source l.line) (byteSize source) (fromLine source l.line) ∧
      Slice source (lineStart source l.line) (byteSize (before ++ line)) line ∧
      lineStart source l.line ≤ (byteRange source l).1 ∧
      (byteRange source l).1 ≤ (byteRange source l).2 ∧
      (byteRange source l).2 ≤ byteSize (before ++ line) ∧
      byteSize (before ++ line) ≤ byteSize source ∧
      ∀ part, Slice source (byteRange source l).1 (byteRange source l).2 part ↔
        part = (line.drop l.column).take l.length := by
  obtain ⟨before, line, behind, h⟩ := exists_addressed source l.line
  have hfrom : Slice source (lineStart source l.line) (byteSize source)
      (fromLine source l.line) := by
    rw [lineStart_eq h, fromLine_eq h]
    exact ⟨before, [], by rw [List.append_nil, h.source_eq], rfl, by rw [← h.source_eq]; rfl⟩
  have hline : Slice source (lineStart source l.line) (byteSize (before ++ line)) line := by
    rw [lineStart_eq h]
    exact ⟨before, behind, h.source_eq, rfl, rfl⟩
  have hrange : Slice source (byteRange source l).1 (byteRange source l).2
      ((line.drop l.column).take l.length) := by
    -- the line is cut before and behind the characters of the location
    have hcut : line = line.take l.column ++ ((line.drop l.column).take l.length ++
        line.drop (l.column + l.length)) := by
      rw [← List.append_assoc, ← List.take_add, List.take_append_drop]
    have hsource := h.source_eq
    rw [hcut] at hsource
    rw [byteRange_eq h]
    refine ⟨before ++ line.take l.column, line.drop (l.column + l.length) ++ behind, ?_, rfl, ?_⟩
    · simpa only [List.append_assoc] using hsource
    · rw [List.append_assoc, ← List.take_add]
      rfl
  refine ⟨before, line, behind, h, h.newline_notMem, hfrom, hline, ?_, hrange.le, ?_,
    hline.stop_le, fun part => hrange.iff_eq⟩
  · rw [byteRange_eq h, lineStart_eq h]
    exact Text.Utf8.length_encode_le_append before _
  · have hall : before ++ line = before ++ line.take (l.column + l.length) ++
        line.drop (l.column + l.length) := by
      rw [List.append_assoc, List.take_append_drop]
    rw [byteRange_eq h, hall]
    exact Text.Utf8.length_encode_le_append _ _

/-- A character of two bytes stands before the location; a location behind the line is empty. -/
example : byteRange "ab\nhé = x\n".toList ⟨⟨"f".toList⟩, 2, 3, 1⟩ = (7, 8) ∧
    byteRange "ab\nhé = x\n".toList ⟨⟨"f".toList⟩, 2, 40, 2⟩ = (10, 10) := by decide

end Snippet

end Stencil
