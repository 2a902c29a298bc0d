/-
  The lexemes of a program do not depend on the paths of its files.

  * `ReadAlike ls ls'`: if what stands behind the lines is read alike, the whole is;
    this composes (`ReadAlike.append`);
  * `read_comment`, `read_importLine`: a comment on a line of its own has no lexemes, and the
    line of an import has those of its binding and its module;
  * `Closed s`: the lines of a section are read by themselves, so that the marker behind them
    is a comment and not a part of what the section leaves open;
  * `ofChunk_rename`: so a program of closed sections has the same lexemes for all paths.

  Main statement: `write_paths`.
-/
import Stencil.Compilation
import Stencil.Proofs.Literal.Lexemes
import Stencil.Proofs.Program.Paths

namespace Stencil

open Lua Text.Utf8
open Text (OneLine)

/-! ## Names of modules -/

namespace Directive

/-- A character of a name is one byte, and a byte of a name for the reader of programs. -/
theorem encodeChar_of_isNameRest {c : Char} (h : isNameRest c = true) :
    c.toNat < 128 ∧ encodeChar c = [c.toNat.toUInt8] ∧
      Token.isNameByte c.toNat.toUInt8 = true := by
  have hupper (h : c.isUpper = true) : c.toNat ≤ 90 := (of_decide_eq_true h).2
  have hlower (h : c.isLower = true) : c.toNat ≤ 122 :=
    of_decide_eq_true (Bool.and_eq_true_iff.1 h).2
  have hdigit (h : c.isDigit = true) : c.toNat ≤ 57 :=
    of_decide_eq_true (Bool.and_eq_true_iff.1 h).2
  have hascii : c.toNat < 128 := by
    rcases Bool.or_eq_true_iff.1 h with h | h
    · rcases Bool.or_eq_true_iff.1 h with h | h
      · rcases Bool.or_eq_true_iff.1 h with h | h
        · exact Nat.lt_of_le_of_lt (hupper h) (by decide)
        · exact Nat.lt_of_le_of_lt (hlower h) (by decide)
      · exact Nat.lt_of_le_of_lt (hdigit h) (by decide)
    · rw [beq_iff_eq.1 h]
      decide
  have hbyte := forall_of_ofNat
    (P := fun c => isNameRest c = true → Token.isNameByte c.toNat.toUInt8 = true) (by decide) hascii
  exact ⟨hascii, encodeChar_of_lt hascii, hbyte h⟩

/-- The reserved words are those of the reader of programs. -/
theorem reserved_eq : Token.reserved = reserved.map encode := by
  rw [reserved, List.map_map]
  rfl

/-- An identifier is a name for the reader of programs. -/
theorem exists_name_of_isIdentifier {name : Text} (h : isIdentifier name = true) :
    ∃ b tail, encode name = b :: tail ∧ (Token.isDigit b = false ∧ Token.isNameByte b = true) ∧
      (∀ d ∈ tail, Token.isNameByte d = true) ∧ Token.reserved.contains (b :: tail) = false := by
  cases name with
  | nil => cases h
  | cons c rest =>
    have hnames : ∀ d ∈ c :: rest, isNameRest d = true := fun d hd => isNameRest_of_mem h hd
    simp only [isIdentifier, Bool.and_eq_true, Bool.not_eq_true'] at h
    obtain ⟨⟨hstart, -⟩, hreserved⟩ := h
    obtain ⟨hascii, hbyte, hname⟩ := encodeChar_of_isNameRest (hnames c List.mem_cons_self)
    have hcons : encode (c :: rest) = c.toNat.toUInt8 :: encode rest := by
      rw [encode_cons, hbyte, List.singleton_append]
    have hdigit := forall_of_ofNat
      (P := fun c => isNameStart c = true → Token.isDigit c.toNat.toUInt8 = false) (by decide) hascii
    refine ⟨_, _, hcons, ⟨hdigit hstart, hname⟩, ?_, ?_⟩
    · intro b hb
      obtain ⟨d, hd, hb⟩ := List.mem_flatMap.1 hb
      obtain ⟨-, hbyte', hname'⟩ := encodeChar_of_isNameRest (hnames d (List.mem_cons_of_mem c hd))
      rw [hbyte', List.mem_singleton] at hb
      exact hb ▸ hname'
    · rw [← hcons, reserved_eq, List.contains_eq_mem, decide_eq_false_iff_not,
        List.mem_map_of_injective encode_injective]
      simpa using hreserved

/-- The name of a module needs no escapes. -/
theorem quote_of_read {content module binding : Text}
    (h : read content = .ok (.importModule module binding)) : Lua.quote module = module := by
  obtain ⟨arguments, parts, hparts, rfl, rfl⟩ := exists_parts_of_read h
  have hplain {c : Char} (hc : isNameRest c = true) : Lua.quoteChar c = [c] :=
    forall_of_ofNat (P := fun c => isNameRest c = true → Lua.quoteChar c = [c]) (by decide)
      (encodeChar_of_isNameRest hc).1 hc
  have hchar : ∀ c ∈ Text.join ['.'] parts, Lua.quoteChar c = [c] := by
    intro c hc
    rcases Text.exists_of_mem_join hc with ⟨piece, hpiece, hc⟩ | hc
    · exact hplain (isNameRest_of_mem (isIdentifier_of_moduleParts? hparts piece hpiece) hc)
    · rw [List.mem_singleton.1 hc]
      decide
  rw [Lua.quote, List.flatMap_congr hchar, List.flatMap_singleton']

end Directive

namespace Program

open Literal (Read written written_nil written_cons written_append)

/-! ## Lines that are read alike -/

/-- If what stands behind the lines is read alike, the whole is. -/
def ReadAlike (ls ls' : List Line) : Prop :=
  ls.length = ls'.length ∧ ∀ line rest rest',
    Token.lexemes (line + ls.length) (10 :: rest) = Token.lexemes (line + ls.length) (10 :: rest') →
    Token.lexemes line (10 :: (written ls ++ rest)) =
      Token.lexemes line (10 :: (written ls' ++ rest'))

theorem ReadAlike.append {ls ls' us us' : List Line} (h : ReadAlike ls ls')
    (h' : ReadAlike us us') : ReadAlike (ls ++ us) (ls' ++ us') := by
  refine ⟨by rw [List.length_append, List.length_append, h.1, h'.1], fun line rest rest' hrest => ?_⟩
  rw [List.length_append, ← Nat.add_assoc] at hrest
  rw [written_append, written_append, List.append_assoc, List.append_assoc]
  exact h.2 line _ _ (h'.2 _ rest rest' hrest)

/-- Lines that are read as the same lexemes. -/
theorem ReadAlike.of_read {ls ls' : List Line} (hlength : ls.length = ls'.length)
    (h : ∀ line, ∃ ts, Read line ls ts ∧ Read line ls' ts) : ReadAlike ls ls' := by
  refine ⟨hlength, fun line rest rest' hrest => ?_⟩
  obtain ⟨ts, hls, hls'⟩ := h line
  rw [hls, hls', hrest, hlength]

/-- Lines that are read as lexemes are read alike. -/
theorem ReadAlike.refl {ls : List Line} (h : ∀ line, ∃ ts, Read line ls ts) : ReadAlike ls ls :=
  .of_read rfl fun line => (h line).imp fun _ hts => ⟨hts, hts⟩

theorem ReadAlike.map {α : Type} {f g : α → Line} {as : List α}
    (h : ∀ a ∈ as, ReadAlike [f a] [g a]) : ReadAlike (as.map f) (as.map g) := by
  induction as with
  | nil => exact .refl fun line => ⟨[], fun rest => rfl⟩
  | cons a as ih =>
    exact (h a List.mem_cons_self).append (ih fun b hb => h b (List.mem_cons_of_mem a hb))

/-! ## Comments and imports -/

/-- A comment on a line of its own has no lexemes. -/
theorem read_comment (line : Nat) {c : Char} (text : Text) (hc : c.toNat < 128 ∧ c ≠ '[')
    (h : OneLine (c :: text)) : Read line [plain ("--".toList ++ c :: text)] [] := by
  intro rest
  have hopen : (encode (c :: text)).head? ≠ some 91 := by
    rw [encode_cons, encodeChar_of_lt hc.1, List.singleton_append, List.head?_cons]
    intro h91
    have hnat := congrArg UInt8.toNat (Option.some.inj h91)
    rw [toNat_byte (by omega)] at hnat
    exact hc.2 (Char.toNat_inj.1 hnat)
  have hwritten : written [plain ("--".toList ++ c :: text)] ++ rest =
      45 :: 45 :: encode (c :: text) ++ 10 :: rest := by
    rw [written_cons, plain, encode_append, List.append_assoc, List.append_assoc]
    rfl
  rw [hwritten, Token.lexemes_newline line (by simp)]
  exact Token.lexemes_comment (line + 1) hopen fun _ => Literal.isBreak_of_mem_encode h

/-- The lexemes of the line of an import. -/
def importLexemes (line : Nat) (i : Import) : List Lexeme :=
  lexed line ["local"] ++ ⟨.name (encode i.binding), encode i.binding, line⟩ ::
    (lexed line ["=", "require", "("] ++ .quoted line (encode i.module) :: lexed line [")"])

/-- The line of an import is read as its binding and its module, wherever it stands. -/
theorem read_importLine (line : Nat) {i : Import}
    (hasked : ∃ content, Directive.read content = .ok (.importModule i.module i.binding))
    (hfile : OneLine i.file.text) : Read line [importLine i] (importLexemes (line + 1) i) := by
  intro rest
  obtain ⟨content, hread⟩ := hasked
  let place : Text := " from import directive of ".toList ++ i.file.text ++ '(' ::
    Text.number i.position.line ++ ',' :: Text.number (i.position.column + 1) ++ [')']
  have hplace : OneLine place := by
    simp only [place, Text.oneLine_append, Text.oneLine_cons, Text.oneLine_number, hfile, and_true]
    decide
  have hwritten : written [importLine i] ++ rest = bytes "local " ++ (encode i.binding ++
      32 :: (bytes "= require(" ++ 34 :: (encode (quote i.module) ++
        34 :: (41 :: 32 :: (45 :: 45 :: encode place ++ 10 :: rest))))) := by
    have hline : (importLine i).text = "local ".toList ++ i.binding ++ " = require(\"".toList ++
        i.module ++ "\") --".toList ++ place := by
      simp only [importLine, plain, place, List.append_assoc]
      rfl
    rw [written_cons, hline, Directive.quote_of_read hread]
    simp only [encode_append, List.append_assoc]
    rfl
  obtain ⟨b, tail, hname, hstart, htail, hreserved⟩ :=
    Directive.exists_name_of_isIdentifier (Directive.isIdentifier_of_read hread)
  have hlocal (rest : Bytes) : Token.lexemes line (10 :: (bytes "local " ++ rest)) =
      lexed (line + 1) ["local"] ++ Token.lexemes (line + 1) rest :=
    (Token.lexemes_eq_ahead 3 _ _).trans rfl
  have hrequire (rest : Bytes) : Token.lexemes (line + 1)
      (32 :: (bytes "= require(" ++ 34 :: rest)) =
        lexed (line + 1) ["=", "require", "("] ++ Token.lexemes (line + 1) (34 :: rest) :=
    (Token.lexemes_eq_ahead 5 _ _).trans rfl
  have hclose (rest : Bytes) : Token.lexemes (line + 1) (41 :: 32 :: rest) =
      lexed (line + 1) [")"] ++ Token.lexemes (line + 1) rest :=
    (Token.lexemes_eq_ahead 2 _ _).trans rfl
  rw [hwritten, hlocal, hname, Token.lexemes_name _ _ hstart htail (by decide) hreserved, hrequire,
    Token.lexemes_quoted, hclose,
    Token.lexemes_comment (line + 1) (by exact fun h => absurd (Option.some.inj h) (by decide))
      (fun _ => Literal.isBreak_of_mem_encode hplace)]
  simp [importLexemes, Lexeme.quoted, hname]

/-! ## Sections -/

/-- The lines of a section are read by themselves, whatever follows them: up to the end of
    the last one, or up to a fault. -/
def Closed (s : Section) : Prop :=
  ∀ line, ∃ ts, Read line ((contentLines s).map plain) ts ∨
    ∀ rest, Token.lexemes line (10 :: (written ((contentLines s).map plain) ++ rest)) = ts

theorem written_mapped (file : Path) (line : Nat) (texts : List Text) :
    written (mapped file line texts) = written (texts.map plain) := by
  induction texts generalizing line with
  | nil => rfl
  | cons t texts ih => rw [mapped, List.map_cons, written_cons, written_cons, ih, plain]

/-- The lines of a closed section are read alike, whatever file they are mapped to. -/
theorem readAlike_mapped {s : Section} (h : Closed s) (file file' : Path) (line : Nat) :
    ReadAlike (mapped file line (contentLines s)) (mapped file' line (contentLines s)) := by
  refine ⟨by rw [length_mapped, length_mapped], fun n rest rest' hrest => ?_⟩
  rw [length_mapped] at hrest
  rw [written_mapped, written_mapped]
  obtain ⟨ts, hread | hfault⟩ := h n
  · rw [hread, hread, List.length_map, hrest]
  · rw [hfault, hfault]

theorem read_marker (line : Nat) (file : Path) (n : Nat) : Read line [marker file n] [] := by
  have hline : OneLine (marker file n).text :=
    oneLine_block ⟨.code, file, ⟨n, 0⟩, []⟩ _ List.mem_cons_self
  let text : Text := "line ".toList ++ Text.number n ++ " \"".toList ++ Lua.quote file.text ++ ['"']
  have htext : marker file n = plain ("--".toList ++ '#' :: text) := rfl
  rw [htext] at hline ⊢
  exact read_comment line text (by decide) (Text.oneLine_append.1 hline).2

theorem read_defaultMarker (line : Nat) : Read line [defaultMarker] [] :=
  read_comment line (c := '#') "line default".toList (by decide) (by decide)

/-- The block of a closed section is read alike for all paths of its file. -/
theorem readAlike_block (σ : Path → Path) {s : Section} (h : Closed s) :
    ReadAlike (block s) (block (s.rename σ)) := by
  have hmarker : ReadAlike [marker s.file s.position.line] [marker (σ s.file) s.position.line] :=
    .of_read rfl fun line => ⟨[], read_marker line _ _, read_marker line _ _⟩
  exact hmarker.append (readAlike_mapped h s.file (σ s.file) s.position.line)

theorem readAlike_closing (isOpen : Bool) : ReadAlike (closing isOpen) (closing isOpen) := by
  cases isOpen with
  | false => exact .refl fun line => ⟨[], fun rest => rfl⟩
  | true => exact .refl fun line => ⟨[], read_defaultMarker line⟩

theorem readAlike_appendText (t : Text) : ReadAlike [appendText t] [appendText t] :=
  .refl fun line => ⟨_, Literal.read_appendText line t⟩

/-- The line before an expression. -/
theorem read_opener (line : Nat) :
    Read line [fixed "        builder[#builder + 1] = tostring(("]
      (lexed (line + 1) ["builder", "[", "#", "builder", "+", "1", "]", "=", "tostring", "(", "("]) :=
  fun _ => (Token.lexemes_eq_ahead 24 _ _).trans rfl

/-- The line behind an expression. -/
theorem read_closer (line : Nat) : Read line [fixed "        ))"] (lexed (line + 1) [")", ")"]) :=
  fun _ => (Token.lexemes_eq_ahead 11 _ _).trans rfl

/-- The body of a program is read alike for all paths. -/
theorem readAlike_body (σ : Path → Path) (isOpen : Bool) {sections : List Section}
    (h : ∀ s ∈ sections, s.kind ≠ .text → Closed s) :
    ReadAlike (body isOpen sections) (body isOpen (sections.map (Section.rename σ))) := by
  induction sections generalizing isOpen with
  | nil => exact readAlike_closing isOpen
  | cons s rest ih =>
    have hrest (isOpen : Bool) := ih isOpen fun s' hs' => h s' (List.mem_cons_of_mem s hs')
    have hclosed := h s List.mem_cons_self
    rw [List.map_cons, body, body, show (s.rename σ).kind = s.kind from rfl]
    cases hkind : s.kind with
    | text =>
      exact (readAlike_closing isOpen).append ((readAlike_appendText s.content).append (hrest false))
    | expression =>
      have hblock := readAlike_block σ (hclosed (by rw [hkind]; decide))
      have hopener : ReadAlike [fixed "        builder[#builder + 1] = tostring(("] _ :=
        .refl fun line => ⟨_, read_opener line⟩
      have hmarker : ReadAlike [defaultMarker] [defaultMarker] :=
        .refl fun line => ⟨_, read_defaultMarker line⟩
      have hcloser : ReadAlike [fixed "        ))"] [fixed "        ))"] :=
        .refl fun line => ⟨_, read_closer line⟩
      exact (readAlike_closing isOpen).append (hopener.append
        (hblock.append (hmarker.append (hcloser.append (hrest false)))))
    | code =>
      exact (readAlike_block σ (hclosed (by rw [hkind]; decide))).append (hrest true)

/-! ## Programs -/

/-- The lines of a program behind the first one. -/
def linesBehind (r : Resolution) (locale : Option Text) : List Line :=
  r.imports.map importLine ++ (Literal.headLines ++ chooseLocale locale ++ [Literal.openLine] ++
    (body false r.sections ++ (epilogue.take 6 ++ epilogue.drop 6)))

theorem linesOf_eq_cons (r : Resolution) (template : Path) (locale : Option Text) :
    linesOf r template locale =
      plain ("-- Generated from ".toList ++ displayName template) :: linesBehind r locale := by
  simp only [linesOf, linesBehind, header, prologue, Literal.headLines, List.append_assoc,
    List.take_append_drop]
  rfl

/-- The lines behind the first one are read alike for all paths, if the sections are closed. -/
theorem readAlike_linesBehind (σ : Path → Path) {r : Resolution} (locale : Option Text)
    (hasked : ∀ i ∈ r.imports,
      ∃ content, Directive.read content = .ok (.importModule i.module i.binding))
    (hfiles : ∀ i ∈ r.imports, OneLine i.file.text ∧ OneLine (σ i.file).text)
    (hclosed : ∀ s ∈ r.sections, s.kind ≠ .text → Closed s) :
    ReadAlike (linesBehind r locale) (linesBehind (r.rename σ) locale) := by
  have himport : ∀ i ∈ r.imports, ReadAlike [importLine i] [importLine (i.rename σ)] :=
    fun i hi => .of_read rfl fun line => ⟨importLexemes (line + 1) i,
      read_importLine line (hasked i hi) (hfiles i hi).1,
      read_importLine line (i := i.rename σ) (hasked i hi) (hfiles i hi).2⟩
  have himports : ReadAlike (r.imports.map importLine)
      ((r.imports.map (Import.rename σ)).map importLine) := by
    rw [List.map_map]
    exact .map himport
  have hhead : ReadAlike Literal.headLines Literal.headLines :=
    .refl fun line => ⟨_, Literal.read_head line⟩
  have hlocale : ReadAlike (chooseLocale locale) (chooseLocale locale) :=
    .refl fun line => ⟨_, Literal.read_chooseLocale line locale⟩
  have hopen : ReadAlike [Literal.openLine] [Literal.openLine] :=
    .refl fun line => ⟨_, Literal.read_open line⟩
  have hend : ReadAlike (epilogue.take 6 ++ epilogue.drop 6) (epilogue.take 6 ++ epilogue.drop 6) :=
    .append (.refl fun line => ⟨_, Literal.read_close line⟩)
      (.refl fun line => ⟨_, Literal.read_main line⟩)
  exact himports.append (((hhead.append hlocale).append hopen).append
    ((readAlike_body σ false hclosed).append hend))

/-- A program is read from the end of its first line on, which is a comment. -/
theorem ofChunk_write_eq {r : Resolution} {template : Path} (hname : OneLine (displayName template))
    (locale : Option Text) : Token.ofChunk (encode (write r template locale).source) =
      .ok (Token.lexemes 1 (10 :: (written (linesBehind r locale) ++ []))) := by
  let title : Text := " Generated from ".toList ++ displayName template
  have htitle : OneLine title := Text.oneLine_append.2 ⟨by decide, hname⟩
  have hsource : encode (write r template locale).source =
      45 :: 45 :: encode title ++ 10 :: written (linesBehind r locale) := by
    show written (linesOf r template locale) = _
    rw [linesOf_eq_cons, written_cons, plain, encode_append]
    rfl
  rw [hsource, List.append_nil,
    ← Token.lexemes_comment 1 (by exact fun h => absurd (Option.some.inj h) (by decide))
      (fun _ => Literal.isBreak_of_mem_encode htitle)]
  rfl

/-- **Other paths give the same lexemes.** -/
theorem ofChunk_rename (σ : Path → Path) {r : Resolution} {template template' : Path}
    (locale : Option Text) (hasked : ∀ i ∈ r.imports,
      ∃ content, Directive.read content = .ok (.importModule i.module i.binding))
    (hclosed : ∀ s ∈ r.sections, s.kind ≠ .text → Closed s) (hnames : OneLine (headerNames r template))
    (hnames' : OneLine (headerNames (r.rename σ) template')) :
    Token.ofChunk (encode (write (r.rename σ) template' locale).source) =
      Token.ofChunk (encode (write r template locale).source) := by
  obtain ⟨hname, hfiles⟩ := oneLine_headerNames.1 hnames
  obtain ⟨hname', hfiles'⟩ := oneLine_headerNames.1 hnames'
  have halike := readAlike_linesBehind σ locale hasked
    (fun i hi => ⟨hfiles i hi, hfiles' (i.rename σ) (List.mem_map_of_mem hi)⟩) hclosed
  rw [ofChunk_write_eq hname, ofChunk_write_eq hname', ← halike.2 1 [] [] rfl]

/-- **What the paths of its files do to a program.**  Whatever they are, they change its lines
    only behind two dashes, and its line map only in the files that it names; every line break
    that ends none of its lines stands in the name of the template or of the file of an import.
    If these hold no line breaks, the program begins with its header and has one line for each
    entry of its line map; and if its sections are closed, it has the lexemes of the program
    with any other such paths. -/
theorem write_paths {env : Resolver.Setting} {path : Path} {text : Text} {r : Resolution}
    (hr : resolve env path text = r) (template : Path) (locale : Option Text) :
    (∀ σ template', List.Forall₂ (Line.Retold σ) (linesOf r template locale)
      (linesOf (r.rename σ) template' locale)) ∧
    (write r template locale).source.count '\n' =
      (headerNames r template).count '\n' + (write r template locale).lineMap.length ∧
    (write r template locale).source.count '\r' = (headerNames r template).count '\r' ∧
    (OneLine (headerNames r template) →
      Headed (write r template locale) template r.imports ∧
      (write r template locale).source.count '\n' = (write r template locale).lineMap.length ∧
      ((∀ s ∈ r.sections, s.kind ≠ .text → Closed s) →
        ∀ σ template', OneLine (headerNames (r.rename σ) template') →
          Token.ofChunk (encode (write (r.rename σ) template' locale).source) =
            Token.ofChunk (encode (write r template locale).source))) := by
  subst hr
  have hfrom := imports_resolve env path text
  have himports := fun i hi => (hfrom i hi).oneLine
  have hfeeds := count_write himports template locale (.inl rfl)
  have hreturns := count_write himports template locale (.inr rfl)
  refine ⟨fun σ template' => retold_linesOf σ _ template template' locale, hfeeds, hreturns,
    fun hnames => ⟨headed_write hnames himports locale, ?_, fun hclosed σ template' hnames' => ?_⟩⟩
  · rw [hfeeds, Text.count_of_oneLine hnames (.inl rfl), if_pos rfl, Nat.zero_add]
  · exact ofChunk_rename σ locale (fun i hi => (hfrom i hi).asked) hclosed hnames hnames'

/-- A template with an import, a text, code and an expression. -/
def pathTemplate : Text := "<#@ import namespace=\"a.b\" #>x<# y = 1 #><#= y #>".toList

/-- Its sections: the columns are those behind the opening markers. -/
def pathSections (path : Path) : List Section :=
  [⟨.text, path, ⟨1, 29⟩, ['x']⟩, ⟨.code, path, ⟨1, 32⟩, " y = 1 ".toList⟩,
    ⟨.expression, path, ⟨1, 44⟩, " y ".toList⟩]

theorem resolve_pathTemplate (env : Resolver.Setting) (path : Path) :
    resolve env path pathTemplate =
      ⟨pathSections path, [⟨"a.b".toList, ['b'], path, ⟨1, 3⟩⟩], false, false, []⟩ := by
  have hscan : Token.scan pathTemplate =
      [⟨.directive, ⟨1, 3⟩, " import namespace=\"a.b\" ".toList⟩, ⟨.text, ⟨1, 29⟩, ['x']⟩,
        ⟨.code, ⟨1, 32⟩, " y = 1 ".toList⟩, ⟨.expression, ⟨1, 44⟩, " y ".toList⟩] := by cbv
  have hread : Directive.read " import namespace=\"a.b\" ".toList =
      .ok (.importModule "a.b".toList ['b']) := rfl
  rw [resolve, hscan, Resolver.walk_done (Resolver.step_eq_of_outcome (.imported rfl hread)),
    Resolver.walk_done (Resolver.step_eq_of_outcome (.plain rfl)),
    Resolver.walk_done (Resolver.step_eq_of_outcome (.plain rfl)),
    Resolver.walk_done (Resolver.step_eq_of_outcome (.plain rfl)), Resolver.walk_nil]
  rfl

/-- Neither its code nor its expression leaves anything open. -/
theorem closed_pathSections (path : Path) :
    ∀ s ∈ pathSections path, s.kind ≠ .text → Closed s := by
  simp only [pathSections, List.forall_mem_cons, List.not_mem_nil, false_implies, implies_true,
    and_true]
  refine ⟨fun h => absurd rfl h, fun _ line => ?_, fun _ line => ?_⟩
  · exact ⟨lexed (line + 1) ["y", "=", "1"], .inl fun _ => (Token.lexemes_eq_ahead 40 _ _).trans rfl⟩
  · exact ⟨lexed (line + 1) ["y"], .inl fun _ => (Token.lexemes_eq_ahead 48 _ _).trans rfl⟩

/-- A quote and a backslash in a path change no lexeme. -/
theorem write_paths_quoted :
    let path : Path := ⟨"/p/a\"b\\.sgtt".toList⟩
    let r := resolve ⟨.empty, "ttinc".toList⟩ path pathTemplate
    OneLine (headerNames r path) ∧ (∀ s ∈ r.sections, s.kind ≠ .text → Closed s) ∧
      OneLine (headerNames (r.rename fun _ => ⟨"q".toList⟩) ⟨"q".toList⟩) ∧
      Headed (write r path none) path r.imports ∧
      Token.ofChunk (encode (write (r.rename fun _ => ⟨"q".toList⟩) ⟨"q".toList⟩ none).source) =
        Token.ofChunk (encode (write r path none).source) := by
  intro path r
  have hr : r = ⟨pathSections path, [⟨"a.b".toList, ['b'], path, ⟨1, 3⟩⟩], false, false, []⟩ :=
    resolve_pathTemplate _ path
  have hnames : OneLine (headerNames r path) := by
    rw [hr]
    decide +kernel
  have hclosed : ∀ s ∈ r.sections, s.kind ≠ .text → Closed s := by
    rw [hr]
    exact closed_pathSections path
  have hnames' : OneLine (headerNames (r.rename fun _ => ⟨"q".toList⟩) ⟨"q".toList⟩) := by
    rw [hr]
    decide +kernel
  obtain ⟨-, -, -, hwrite⟩ := write_paths (r := r) rfl path none
  obtain ⟨hheaded, -, hlexemes⟩ := hwrite hnames
  exact ⟨hnames, hclosed, hnames', hheaded, hlexemes hclosed _ _ hnames'⟩

/-- A path whose file name holds a line feed. -/
def brokenPath : Path := ⟨"/p/a\nb.sgtt".toList⟩

/-- **The name of a template is not escaped in the header**: what follows its line feed is a line
    of code, the program does not load, and it has a line more than its line map. -/
theorem header_broken :
    let p := write (resolve ⟨.empty, "ttinc".toList⟩ brokenPath ['x']) brokenPath none
    p.line? 2 = some "b.sgtt".toList ∧ p.source.count '\n' = p.lineMap.length + 1 ∧
      (Compilation.loadFailure? p.source).isSome := by
  have hscan : Token.scan ['x'] = [⟨.text, ⟨1, 0⟩, ['x']⟩] := by cbv
  have hr : resolve ⟨.empty, "ttinc".toList⟩ brokenPath ['x'] =
      ⟨[⟨.text, brokenPath, ⟨1, 0⟩, ['x']⟩], [], false, false, []⟩ := by
    rw [resolve, hscan, Resolver.walk_done (Resolver.step_eq_of_outcome (.plain rfl)),
      Resolver.walk_nil]
    rfl
  intro p
  have hp : p = write ⟨[⟨.text, brokenPath, ⟨1, 0⟩, ['x']⟩], [], false, false, []⟩ brokenPath none :=
    congrArg (write · brokenPath none) hr
  rw [hp]
  decide +kernel

/-- A template whose first code section leaves a long bracket open, which the second one
    closes. -/
def openTemplate : Text := "<# x = [[#><#]] #>".toList

theorem resolve_openTemplate (env : Resolver.Setting) (path : Path) :
    resolve env path openTemplate = ⟨[⟨.code, path, ⟨1, 2⟩, " x = [[".toList⟩,
      ⟨.code, path, ⟨1, 13⟩, "]] ".toList⟩], [], false, false, []⟩ := by
  have hscan : Token.scan openTemplate =
      [⟨.code, ⟨1, 2⟩, " x = [[".toList⟩, ⟨.code, ⟨1, 13⟩, "]] ".toList⟩] := by cbv
  rw [resolve, hscan, Resolver.walk_done (Resolver.step_eq_of_outcome (.plain rfl)),
    Resolver.walk_done (Resolver.step_eq_of_outcome (.plain rfl)), Resolver.walk_nil]
  rfl

/-- **The marker behind a section that is not closed is no comment**: it is a part of the string
    that the section leaves open, so that the lexemes depend on the path. -/
theorem open_section_reads_marker :
    let source (path : Path) :=
      (write (resolve ⟨.empty, "ttinc".toList⟩ path openTemplate) ⟨"m".toList⟩ none).source
    Token.ofChunk (encode (source ⟨"m".toList⟩)) ≠ Token.ofChunk (encode (source ⟨"n".toList⟩)) := by
  intro source hsame
  have hnears := congrArg (fun ts => ts.toOption.map (List.map Lexeme.near)) hsame
  simp only [source, resolve_openTemplate] at hnears
  revert hnears
  decide +kernel

end Program

end Stencil
