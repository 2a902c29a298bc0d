/-
  The lines of the document that stands for the output of a program that does not compile.

  * `opening p`: the lines before the diagnostics; `closing`: the line that ends the part which is
    never compiled;
  * `entry d`: a diagnostic as the document shows it;
  * `fallback_eq`: the document is made of these texts, each ended by a line feed;
  * `length_lines_entry`: a diagnostic has one line more than there are line feeds in its file, its
    code and its message.

  Main statement: `lines_fallback`.  A message of the compiler can quote a string of several lines,
  one of which closes the part that is never compiled (`fallback_broken`).
-/
import Stencil.Compilation
import Stencil.Proofs.Text.Comment
import Stencil.Remap

namespace Stencil

open Text (OneLine)

namespace Diagnostic

/-- The place of a diagnostic, behind its file, and the name of its severity. -/
def place (d : Diagnostic) : Text :=
  Text.spot d.location.line d.location.column ++ "): ".toList ++ d.severity.name ++ [' ']

theorem display_eq (d : Diagnostic) :
    d.display = d.location.file.text ++ (d.place ++ (d.code ++ (": ".toList ++ d.message))) := by
  unfold display place Text.spot
  simp only [List.append_assoc, List.cons_append, List.nil_append]

theorem newline_notMem_place (d : Diagnostic) : '\n' ∉ d.place := by
  have hname : OneLine d.severity.name := by
    cases d.severity <;> decide
  have h : OneLine d.place := by
    simp only [place, Text.oneLine_append, Text.oneLine_cons, Text.oneLine_spot, hname,
      Text.oneLine_nil, and_true]
    decide
  exact h.1

theorem count_display (d : Diagnostic) : d.display.count '\n' =
    d.location.file.text.count '\n' + d.code.count '\n' + d.message.count '\n' := by
  have hcolon : '\n' ∉ ": ".toList := by decide
  rw [display_eq, List.count_append, List.count_append, List.count_append, List.count_append,
    List.count_eq_zero.2 d.newline_notMem_place, List.count_eq_zero.2 hcolon, Nat.zero_add,
    Nat.zero_add, Nat.add_assoc]

end Diagnostic

namespace Compilation

theorem file_diagnostic (loader : Loader) (p : Program) (failure : LoadFailure) :
    (diagnostic loader p failure).location.file = ⟨Program.label⟩ := by
  unfold diagnostic
  split <;> rfl

theorem code_diagnostic (loader : Loader) (p : Program) (failure : LoadFailure) :
    (diagnostic loader p failure).code = syntaxErrorCode := by
  unfold diagnostic
  split <;> rfl

theorem message_diagnostic (loader : Loader) (p : Program) (failure : LoadFailure) :
    (diagnostic loader p failure).message = failure.message := by
  unfold diagnostic
  split <;> rfl

theorem compile_of_loadFailure? {libraries : Libraries} {p : Program} {failure : LoadFailure}
    (h : loadFailure? p.source = some failure) :
    compile libraries p = .error [diagnostic loadFailure? p failure] := by
  unfold loadFailure? at h
  unfold compile
  cases hload : load p.source with
  | ok main => simp [hload] at h
  | error reason =>
    obtain rfl : reason = failure := by simpa [hload] using h
    rfl

/-- The compiler reports one diagnostic, whose file and code are on one line. -/
theorem exists_of_compile {libraries : Libraries} {p : Program} {ds : List Diagnostic}
    (h : compile libraries p = .error ds) :
    ∃ d, ds = [d] ∧ '\n' ∉ d.location.file.text ∧ '\n' ∉ d.code := by
  unfold compile at h
  split at h
  · cases h
  · cases h
    refine ⟨_, rfl, ?_, ?_⟩
    · rw [file_diagnostic]
      decide
    · rw [code_diagnostic]
      decide

end Compilation

namespace Remap

/-! ## The parts of the document -/

/-- The line that names the template. -/
def failureLine (p : Program) : Text :=
  "#error ".toList ++ Program.displayName p.template ++
    ": failed to compile the program generated from this template".toList

/-- The lines before the diagnostics: the program in comments, the error, and the beginning of the
    part that is never compiled. -/
def opening (p : Program) : List Text :=
  (Text.rows p.source).map (commentMark ++ ·) ++ [failureLine p, "#if false".toList]

/-- The line that ends the part which is never compiled. -/
def closing : Text := "#endif".toList

/-- A diagnostic as the document shows it, three columns to the right. -/
def entry (d : Diagnostic) : Text :=
  Diagnostic.display { d with location := { d.location with column := d.location.column + 3 } }

/-- **The document is made of its parts, each ended by a line feed.** -/
theorem fallback_eq (p : Program) (ds : List Diagnostic) :
    fallback p ds = (opening p ++ ds.map entry ++ [closing]).flatMap (· ++ ['\n']) := by
  have hentry : ∀ d, (shifted d).display = entry d := fun _ => rfl
  have hframe : ": failed to compile the program generated from this template\n#if false\n".toList =
      ": failed to compile the program generated from this template".toList ++
        '\n' :: "#if false".toList ++ ['\n'] := by
    decide +kernel
  have hend : "#endif\n".toList = closing ++ ['\n'] := by decide
  unfold fallback opening failureLine
  simp only [hentry, hframe, hend, commentOut_eq, List.flatMap_append, List.flatMap_cons,
    List.flatMap_nil, List.flatMap_map, List.append_assoc, List.cons_append, List.nil_append,
    List.append_nil]

/-! ## The lines of the parts -/

section
variable {p : Program} {d : Diagnostic}

theorem newline_notMem_of_mem_opening (hname : '\n' ∉ Program.displayName p.template) {line : Text}
    (h : line ∈ opening p) : '\n' ∉ line := by
  simp only [opening, List.mem_append, List.mem_map, List.mem_cons, List.not_mem_nil,
    or_false] at h
  rcases h with ⟨row, hrow, rfl⟩ | rfl | rfl
  · exact fun hc => (List.mem_append.1 hc).elim newline_notMem_commentMark
      (Text.newline_notMem_of_mem_rows hrow)
  · have hstart : '\n' ∉ "#error ".toList := by decide
    have hend : '\n' ∉ ": failed to compile the program generated from this template".toList := by
      decide
    unfold failureLine
    simp only [List.mem_append, hstart, hname, hend, or_self, not_false_eq_true]
  · decide

theorem closing_notMem_opening (p : Program) : closing ∉ opening p := by
  simp only [opening, List.mem_append, List.mem_map, List.mem_cons, List.not_mem_nil, or_false,
    not_or, not_exists, not_and]
  refine ⟨fun row _ h => ?_, fun h => ?_, by decide⟩
  · have hfirst : some '/' = some '#' := congrArg List.head? h
    exact absurd hfirst (by decide)
  · -- the words differ in their third characters
    have hthird : some 'n' = some 'r' := congrArg (fun line => (line.drop 2).head?) h
    exact absurd hthird (by decide)

theorem length_lines_entry (d : Diagnostic) : (Text.lines (entry d)).length =
    d.location.file.text.count '\n' + d.code.count '\n' + d.message.count '\n' + 1 := by
  rw [Text.length_lines, entry, Diagnostic.count_display]

theorem entry_ne_closing (d : Diagnostic) : entry d ≠ closing := by
  intro h
  have hmem : '(' ∈ entry d := by
    rw [entry, Diagnostic.display_eq]
    exact List.mem_append_right _
      (List.mem_append_left _ (by simp [Diagnostic.place, Text.spot]))
  rw [h] at hmem
  exact absurd hmem (by decide)

end

/-! ## The lines of the document -/

/-- **The frame of the document of a program that does not compile.**  If the name of the template
    has no line feed, the document has the lines of the program in comments, the line of the
    error and the beginning of the part that is never compiled; then the lines of each diagnostic,
    which are one more than the line feeds in its file, its code and its message; then the line
    that closes the part.  The part is closed before its end exactly if that line is one of a
    diagnostic's own.  So there is one line for each diagnostic, and none of them closes the part,
    if these three texts of each diagnostic are free of line feeds.  Of the one diagnostic of the
    compiler only the message can have some. -/
theorem lines_fallback (p : Program) (ds : List Diagnostic)
    (hname : '\n' ∉ Program.displayName p.template) :
    Text.lines (fallback p ds) =
      opening p ++ ds.flatMap (fun d => Text.lines (entry d)) ++ [closing, []] ∧
    (∀ d ∈ ds, (Text.lines (entry d)).length = d.location.file.text.count '\n' +
      d.code.count '\n' + d.message.count '\n' + 1) ∧
    (closing ∈ opening p ++ ds.flatMap (fun d => Text.lines (entry d)) ↔
      ∃ d ∈ ds, closing ∈ Text.lines (entry d)) ∧
    ((∀ d ∈ ds, '\n' ∉ d.location.file.text ∧ '\n' ∉ d.code ∧ '\n' ∉ d.message) →
      Text.lines (fallback p ds) = opening p ++ ds.map entry ++ [closing, []] ∧
      closing ∉ opening p ++ ds.map entry) ∧
    ∀ libraries, Compilation.compile libraries p = .error ds →
      ∃ d, ds = [d] ∧ (Text.lines (entry d)).length = d.message.count '\n' + 1 := by
  have hlines : Text.lines (fallback p ds) =
      opening p ++ ds.flatMap (fun d => Text.lines (entry d)) ++ [closing, []] := by
    have hclosing : Text.lines closing = [closing] := Text.lines_of_notMem (by decide)
    rw [fallback_eq, Text.lines_flatMap_lines, List.flatMap_append, List.flatMap_append,
      Text.flatMap_lines fun line hline => newline_notMem_of_mem_opening hname hline,
      List.flatMap_map, List.flatMap_singleton, hclosing, List.append_assoc _ [closing]]
    rfl
  refine ⟨hlines, fun d _ => length_lines_entry d, ?_, fun hfree => ?_, fun libraries h => ?_⟩
  · rw [List.mem_append, List.mem_flatMap]
    exact or_iff_right (closing_notMem_opening p)
  · have hentries : ds.flatMap (fun d => Text.lines (entry d)) = ds.map entry := by
      rw [← List.flatMap_map, Text.flatMap_lines]
      intro line hline
      obtain ⟨d, hd, rfl⟩ := List.mem_map.1 hline
      obtain ⟨hfile, hcode, hmessage⟩ := hfree d hd
      rw [← List.count_eq_zero, entry, Diagnostic.count_display, List.count_eq_zero.2 hfile,
        List.count_eq_zero.2 hcode, List.count_eq_zero.2 hmessage]
    refine ⟨by rw [hlines, hentries], fun hmem => ?_⟩
    rcases List.mem_append.1 hmem with hmem | hmem
    · exact closing_notMem_opening p hmem
    · obtain ⟨d, -, hd⟩ := List.mem_map.1 hmem
      exact entry_ne_closing d hd
  · obtain ⟨d, rfl, hfile, hcode⟩ := Compilation.exists_of_compile h
    refine ⟨d, rfl, ?_⟩
    rw [length_lines_entry, List.count_eq_zero.2 hfile, List.count_eq_zero.2 hcode, Nat.zero_add]

/-- A program that is nothing but a string in long brackets. -/
def misplaced (content : String) : Program :=
  ⟨⟨"t/m.t".toList⟩, "[[".toList ++ content.toList ++ "]]".toList, []⟩

/-- The message about a string on one line is on one line, and so is its entry. -/
theorem lines_fallback_misplaced :
    '\n' ∉ Program.displayName (misplaced "a").template ∧
    ∃ d, Compilation.compile (.ofRequested []) (misplaced "a") = .error [d] ∧
      (∀ d' ∈ [d], '\n' ∉ d'.location.file.text ∧ '\n' ∉ d'.code ∧ '\n' ∉ d'.message) ∧
      Text.lines (fallback (misplaced "a") [d]) =
        opening (misplaced "a") ++ [d].map entry ++ [closing, []] ∧
      closing ∉ opening (misplaced "a") ++ [d].map entry ∧
      ∃ d', [d] = [d'] ∧ (Text.lines (entry d')).length = d'.message.count '\n' + 1 := by
  have hload : Compilation.loadFailure? (misplaced "a").source =
      some ⟨some 1, "unexpected symbol near '[[a]]'".toList⟩ := by decide +kernel
  have hname : '\n' ∉ Program.displayName (misplaced "a").template := by decide +kernel
  obtain ⟨d, hcompile, hmessage⟩ : ∃ d,
      Compilation.compile (.ofRequested []) (misplaced "a") = .error [d] ∧
        d.message = "unexpected symbol near '[[a]]'".toList :=
    ⟨_, Compilation.compile_of_loadFailure? hload, Compilation.message_diagnostic _ _ _⟩
  obtain ⟨d', hd', hfile, hcode⟩ := Compilation.exists_of_compile hcompile
  obtain rfl : d = d' := (List.cons.inj hd').1
  have hfree : ∀ d' ∈ [d], '\n' ∉ d'.location.file.text ∧ '\n' ∉ d'.code ∧ '\n' ∉ d'.message := by
    intro d' hd'
    rw [List.mem_singleton.1 hd', hmessage]
    exact ⟨hfile, hcode, by decide⟩
  obtain ⟨-, -, -, hframe, hone⟩ := lines_fallback (misplaced "a") [d] hname
  exact ⟨hname, d, hcompile, hfree, (hframe hfree).1, (hframe hfree).2, hone _ hcompile⟩

/-- **A diagnostic can close the part that is never compiled**: the message about a string of
    several lines quotes all of them. -/
theorem fallback_broken :
    '\n' ∉ Program.displayName (misplaced "a\n#endif\n").template ∧
    ∃ d, Compilation.compile (.ofRequested []) (misplaced "a\n#endif\n") = .error [d] ∧
      Text.lines (fallback (misplaced "a\n#endif\n") [d]) =
        ["// [[a", "// #endif", "// ]]",
          "#error m.t: failed to compile the program generated from this template", "#if false",
          "sgtt_program(3,4): error LUA001: unexpected symbol near '[[a", "#endif", "]]'",
          "#endif", ""].map String.toList := by
  have hload : Compilation.loadFailure? (misplaced "a\n#endif\n").source =
      some ⟨some 3, "unexpected symbol near '[[a\n#endif\n]]'".toList⟩ := by decide +kernel
  refine ⟨by decide +kernel, _, Compilation.compile_of_loadFailure? hload, ?_⟩
  decide +kernel

end Remap

end Stencil
