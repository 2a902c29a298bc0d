/-
  The comments that report the errors of a resolution.

  * `DirectiveError.From env path e`: the error is that of a failing directive in the template or
    in a file of the lookup;
  * `count_comment`: the line feeds of a comment are those of the file's path and of the label;
    the directive itself is put on one line (`newline_notMem_flatten`);
  * `DirectiveError.From.exists_of_mem_label`: a label has a line feed only if the file that could
    not be found has one in its name.

  Main statement: `lines_errorComments`.  A file name with a line feed ends a comment early
  (`comment_broken`).
-/
import Stencil.Proofs.Program.Report
import Stencil.Proofs.Resolution.Failure
import Stencil.Proofs.Text.Comment
import Stencil.Proofs.Text.Blanks

namespace Stencil

namespace DirectiveError

/-! ## The line feeds of a comment -/

theorem newline_notMem_flatten (t : Text) : '\n' ∉ flatten t := by
  fun_induction flatten t with
  | case1 rest ih => simpa using ih
  | case2 rest ih => simpa using ih
  | case3 c rest _ hc ih =>
    rw [List.mem_cons, not_or]
    exact ⟨fun h => hc h.symm, ih⟩
  | case4 => exact List.not_mem_nil

theorem newline_notMem_trim_flatten (t : Text) : '\n' ∉ Text.trim (flatten t) := by
  obtain ⟨leading, trailing, heq, -⟩ := Text.exists_trim (flatten t)
  intro h
  refine newline_notMem_flatten t ?_
  rw [heq]
  exact List.mem_append_right _ (List.mem_append_left _ h)

/-- The place of an error and the bracket before its label. -/
def place (e : DirectiveError) : Text :=
  Text.spot e.position.line e.position.column ++ ") [".toList

/-- The directive as it is shown behind the label. -/
def shown (e : DirectiveError) : Text := "]: ".toList ++ Text.trim (flatten e.content)

theorem comment_eq (e : DirectiveError) : e.comment =
    commentMark ++ (e.file.text ++ (e.place ++ (e.kind.label ++ e.shown))) := by
  unfold comment place shown commentMark Text.spot
  simp only [List.append_assoc, List.cons_append]

theorem newline_notMem_place (e : DirectiveError) : '\n' ∉ e.place := by
  have hend : '\n' ∉ ") [".toList := by decide
  exact fun h => (List.mem_append.1 h).elim (Text.oneLine_spot _ _).1 hend

theorem newline_notMem_shown (e : DirectiveError) : '\n' ∉ e.shown := by
  have hbracket : '\n' ∉ "]: ".toList := by decide
  exact fun h => (List.mem_append.1 h).elim hbracket (newline_notMem_trim_flatten e.content)

/-- **The line feeds of a comment are those of the file's path and of the label.** -/
theorem count_comment (e : DirectiveError) :
    e.comment.count '\n' = e.file.text.count '\n' + e.kind.label.count '\n' := by
  rw [comment_eq, List.count_append, List.count_append, List.count_append, List.count_append,
    List.count_eq_zero.2 newline_notMem_commentMark, List.count_eq_zero.2 e.newline_notMem_place,
    List.count_eq_zero.2 e.newline_notMem_shown, Nat.zero_add, Nat.zero_add, Nat.add_zero]

/-- The label of an error is on one line, unless it quotes the name of a file. -/
theorem exists_of_mem_label {kind : Kind} (h : '\n' ∈ kind.label) :
    ∃ name, kind = .includeVanished name ∧ '\n' ∈ name := by
  cases kind with
  | includeVanished name =>
    have hstart : '\n' ∉ "InvalidIncludeDirective \"".toList := by decide
    have hend : '\n' ∉ "\" is not found.".toList := by decide
    unfold Kind.label at h
    simp only [List.mem_append, hstart, hend, false_or, or_false] at h
    exact ⟨name, rfl, h⟩
  | _ => exact absurd h (by decide)

/-! ## Where errors come from -/

/-- A directive of the file, or of a file of the lookup, has failed with the error. -/
structure From (env : Resolver.Setting) (file : Path) (e : DirectiveError) : Prop where
  failed : ∃ s t, Resolver.Fails env s t e.kind
  known : e.file = file ∨ ∃ source ∈ env.lookup.sources, e.file = source.path

theorem From.exists_of_mem_label {env : Resolver.Setting} {file : Path} {e : DirectiveError}
    (h : e.From env file) (hc : '\n' ∈ e.kind.label) :
    ∃ source ∈ env.lookup.sources, ∃ name, source.path.fileName? = some name ∧
      source.text = .error .notFound ∧ e.kind = .includeVanished name ∧ '\n' ∈ name := by
  obtain ⟨name, hkind, hname⟩ := DirectiveError.exists_of_mem_label hc
  obtain ⟨s, t, hfails⟩ := h.failed
  rw [hkind] at hfails
  generalize heq : Kind.includeVanished name = kind at hfails
  cases hfails with
  | @malformed fault => cases fault <;> cases heq
  | unsupported | notFound | duplicated | cyclic => cases heq
  | @unreadable name' once source cause hs _ _ htext =>
    cases cause with
    | missing | permissionDenied | failed => cases heq
    | notFound =>
      cases heq
      have hmem : source ∈ env.lookup.candidates name := by simp [hs.single]
      obtain ⟨hsource, hfile⟩ := List.mem_filter.1 hmem
      exact ⟨source, hsource, name, by simpa using hfile, htext, hkind, hname⟩

end DirectiveError

/-- **Every error of a resolution is that of a directive of the template or of a file of the
    lookup.** -/
theorem errors_resolve (env : Resolver.Setting) (path : Path) (text : Text) :
    ∀ e ∈ (resolve env path text).errors, e.From env path := by
  intro e he
  obtain ⟨s, t, hfails, -, hfile⟩ := Resolver.exists_fails_of_mem_errors he
  exact ⟨⟨s, t, hfails⟩, hfile⟩

/-- **The comments of the errors, line by line.**  Each error of a resolution has its comment, in
    order, which begins with the comment mark and ends with the directive on one line.  It has
    one line more than there are line feeds in the path of its file and in its label: the file
    is the template or a file of the lookup, and a label has line feeds only if it quotes the
    name of a file of the lookup that could not be found.  So there is one line for each error
    if the paths of the template and of the files of the lookup have no line feeds. -/
theorem lines_errorComments (env : Resolver.Setting) (path : Path) (text : Text) :
    let r := resolve env path text
    Text.lines r.errorComments = r.errors.flatMap (fun e => Text.lines e.comment) ++ [[]] ∧
    (∀ e ∈ r.errors, commentMark <+: e.comment ∧
      Text.trim (DirectiveError.flatten e.content) <:+ e.comment ∧
      '\n' ∉ Text.trim (DirectiveError.flatten e.content) ∧
      (Text.lines e.comment).length =
        e.file.text.count '\n' + e.kind.label.count '\n' + 1 ∧
      (e.file = path ∨ ∃ source ∈ env.lookup.sources, e.file = source.path) ∧
      ('\n' ∈ e.kind.label → ∃ source ∈ env.lookup.sources, ∃ name,
        source.path.fileName? = some name ∧ source.text = .error .notFound ∧
        e.kind = .includeVanished name ∧ '\n' ∈ name)) ∧
    ('\n' ∉ path.text → (∀ source ∈ env.lookup.sources, '\n' ∉ source.path.text) →
      Text.lines r.errorComments = r.errors.map DirectiveError.comment ++ [[]]) := by
  intro r
  have hlines : Text.lines r.errorComments =
      r.errors.flatMap (fun e => Text.lines e.comment) ++ [[]] := by
    have := Text.lines_flatMap_lines (r.errors.map DirectiveError.comment)
    rwa [List.flatMap_map, List.flatMap_map] at this
  refine ⟨hlines, fun e he => ?_, fun hpath hlookup => ?_⟩
  · have hfrom := errors_resolve env path text e he
    refine ⟨?_, ?_, DirectiveError.newline_notMem_trim_flatten _, ?_, hfrom.known,
      hfrom.exists_of_mem_label⟩
    · rw [e.comment_eq]
      exact List.prefix_append _ _
    · exact List.suffix_append _ _
    · rw [Text.length_lines, e.count_comment]
  · -- neither the path of an error nor its label has a line feed
    rw [hlines, ← List.flatMap_map, Text.flatMap_lines]
    intro comment hcomment
    obtain ⟨e, he, rfl⟩ := List.mem_map.1 hcomment
    have hfrom := errors_resolve env path text e he
    have hfile : '\n' ∉ e.file.text := by
      rcases hfrom.known with h | ⟨source, hsource, h⟩
      · rwa [h]
      · rw [h]
        exact hlookup source hsource
    have hlabel : '\n' ∉ e.kind.label := by
      intro hc
      obtain ⟨source, hsource, name, hname, -, -, hfeed⟩ := hfrom.exists_of_mem_label hc
      exact hlookup source hsource (Path.mem_text_of_fileName? (by decide) hname hfeed)
    rw [← List.count_eq_zero, e.count_comment, List.count_eq_zero.2 hfile,
      List.count_eq_zero.2 hlabel]

/-- A lookup with a file that has vanished. -/
def Resolver.Setting.lost : Resolver.Setting where
  lookup := ⟨[⟨⟨"p/a.t".toList⟩, .error .notFound⟩]⟩
  includeExtension := "t".toList

/-- A directive with a line break, for a file that has vanished. -/
def lostDirective : Token := ⟨.directive, ⟨1, 3⟩, " include=\"a.t\"\n".toList⟩

theorem lines_errorComments_lost :
    '\n' ∉ "m".toList ∧ (∀ source ∈ Resolver.Setting.lost.lookup.sources,
      '\n' ∉ source.path.text) ∧
    (resolve .lost ⟨"m".toList⟩ "<#@ include=\"a.t\"\n#>".toList).errors =
      [⟨.includeVanished "a.t".toList, ⟨"m".toList⟩, ⟨1, 3⟩, lostDirective.content⟩] ∧
    Text.lines (resolve .lost ⟨"m".toList⟩ "<#@ include=\"a.t\"\n#>".toList).errorComments =
      ["// m(1,4) [InvalidIncludeDirective \"a.t\" is not found.]: include=\"a.t\"".toList, []] := by
  have hscan : Token.scan "<#@ include=\"a.t\"\n#>".toList = [lostDirective] := by decide +kernel
  have hselects : Resolver.Selects .lost lostDirective "a.t".toList false
      ⟨⟨"p/a.t".toList⟩, .error .notFound⟩ :=
    ⟨rfl, by decide +kernel, by decide +kernel, rfl⟩
  have hfails : Resolver.Fails .lost .start _ _ :=
    .unreadable hselects (by simp) List.not_mem_nil rfl
  have hpath : '\n' ∉ "m".toList := by decide
  have hlookup : ∀ source ∈ Resolver.Setting.lost.lookup.sources, '\n' ∉ source.path.text := by
    decide
  have herrors : (resolve .lost ⟨"m".toList⟩ "<#@ include=\"a.t\"\n#>".toList).errors =
      [⟨.includeVanished "a.t".toList, ⟨"m".toList⟩, ⟨1, 3⟩, lostDirective.content⟩] := by
    rw [resolve, hscan, hfails.result_walk]
    rfl
  refine ⟨hpath, hlookup, herrors, ?_⟩
  rw [(lines_errorComments .lost ⟨"m".toList⟩ _).2.2 hpath hlookup, herrors]
  decide +kernel

/-- A lookup with a file that has vanished, and whose name has a line feed. -/
def Resolver.Setting.brokenName : Resolver.Setting where
  lookup := ⟨[⟨⟨"p/a\nb.t".toList⟩, .error .notFound⟩]⟩
  includeExtension := "t".toList

/-- **The comment of an error can have two lines**: the label quotes the name of the file as it
    is, while the directive is put on one line. -/
theorem comment_broken :
    (resolve .brokenName ⟨"m".toList⟩ "<#@ include file=\"a\nb.t\" #>".toList).errors.length = 1 ∧
    Text.lines (resolve .brokenName ⟨"m".toList⟩
        "<#@ include file=\"a\nb.t\" #>".toList).errorComments =
      ["// m(1,4) [InvalidIncludeDirective \"a".toList,
        "b.t\" is not found.]: include file=\"a b.t\"".toList, []] := by
  have hscan : Token.scan "<#@ include file=\"a\nb.t\" #>".toList =
      [⟨.directive, ⟨1, 3⟩, " include file=\"a\nb.t\" ".toList⟩] := by decide +kernel
  have hselects : Resolver.Selects .brokenName
      ⟨.directive, ⟨1, 3⟩, " include file=\"a\nb.t\" ".toList⟩ "a\nb.t".toList false
      ⟨⟨"p/a\nb.t".toList⟩, .error .notFound⟩ :=
    ⟨rfl, by decide +kernel, by decide +kernel, rfl⟩
  have hfails : Resolver.Fails .brokenName .start _ _ :=
    .unreadable hselects (by simp) List.not_mem_nil rfl
  rw [resolve, hscan, hfails.result_walk]
  decide +kernel

end Stencil
