/-
  The lexemes of the program of a template without code.

  * `Read line lines lexemes`: the lines after a line are read as lexemes, whatever
    follows them. The frame is read by evaluation, each text as one string;
  * `ofChunk_write`: the program of texts has the lexemes `Literal.lexemes`.
-/
import Stencil.Program
import Stencil.Proofs.Lua.Lexing
import Stencil.Proofs.Lua.Parsing
import Stencil.Proofs.Text.Lines

namespace Stencil.Literal

open Lua Text.Utf8

/-! ## Places -/

/-- How many lines choose a locale. -/
def localeLines : Option Text → Nat
  | none => 1
  | some _ => 4

/-- The line on which the function begins that appends the texts. -/
def firstLine (locale : Option Text) : Nat := 7 + localeLines locale + 1

/-- The line on which that function ends. -/
def lastLine (locale : Option Text) (contents : List Bytes) : Nat :=
  firstLine locale + contents.length + 1

/-! ## The lexemes -/

/-- The lexemes of a statement that appends a text. -/
def appendLexemes (line : Nat) (content : Bytes) : List Lexeme :=
  lexed line ["builder", "[", "#", "builder", "+", "1", "]", "="] ++ [.quoted line content]

/-- The lexemes of statements that append texts, from a line on. -/
def contentLexemes (line : Nat) : List Bytes → List Lexeme
  | [] => []
  | content :: rest => appendLexemes line content ++ contentLexemes (line + 1) rest

/-- The lexemes before the choice of the locale. -/
def headLexemes : List Lexeme :=
  lexed 3 ["local", "GenClass", "=", "\x7b", "\x7d"] ++
    lexed 5 ["function", "GenClass", ".", "execute", "(", ")"] ++
    lexed 6 ["local", "builder", "=", "\x7b", "\x7d"] ++
    lexed 7 ["local", "previous_locale", "=", "os", ".", "setlocale", "(", ")"]

/-- The lexemes of a call of `os.setlocale` with a text. -/
def setlocaleLexemes (line : Nat) (name : Bytes) : List Lexeme :=
  lexed line ["os", ".", "setlocale", "("] ++ .quoted line name :: lexed line [")"]

/-- The lexemes that choose a locale, from a line on. -/
def localeLexemes (line : Nat) : Option Text → List Lexeme
  | none => setlocaleLexemes line (bytes "C")
  | some name =>
    lexed line ["if"] ++ setlocaleLexemes line (encode name) ++ lexed line ["==", "nil", "then"] ++
      setlocaleLexemes (line + 1) (bytes "C") ++
      appendLexemes (line + 2) (encode (Program.localeWarning name)) ++ lexed (line + 3) ["end"]

/-- The lexemes before the texts, on the line before them. -/
def openLexemes (line : Nat) : List Lexeme :=
  lexed line ["local", "ok", ",", "failure", "=", "pcall", "(", "function", "(", ")"]

/-- The lexemes after the texts in the function that renders, from a line on. -/
def closeLexemes (line : Nat) : List Lexeme :=
  lexed line ["end", ")"] ++
    lexed (line + 1) ["os", ".", "setlocale", "(", "previous_locale", ")"] ++
    lexed (line + 2)
      ["if", "not", "ok", "then", "error", "(", "failure", ",", "0", ")", "end"] ++
    lexed (line + 3) ["return", "table", ".", "concat", "(", "builder", ")"] ++
    lexed (line + 4) ["end"]

/-- The lexemes of the function that writes a file, from a line on. -/
def mainLexemes (line : Nat) : List Lexeme :=
  lexed line ["function", "GenClass", ".", "main", "(", "path", ")"] ++
    (lexed (line + 1) ["local", "file", "=", "assert", "(", "io", ".", "open", "(", "path", ","] ++
      .quoted (line + 1) (bytes "wb") :: lexed (line + 1) [")", ")"]) ++
    lexed (line + 2)
      ["file", ":", "write", "(", "GenClass", ".", "execute", "(", ")", ")"] ++
    lexed (line + 3) ["file", ":", "close", "(", ")"] ++ lexed (line + 4) ["end"]

/-- The lexemes of the program of texts, the end apart. -/
def frameLexemes (locale : Option Text) (contents : List Bytes) : List Lexeme :=
  let line := lastLine locale contents
  headLexemes ++ localeLexemes 8 locale ++ openLexemes (firstLine locale) ++
    contentLexemes (firstLine locale + 1) contents ++ closeLexemes line ++
    (mainLexemes (line + 6) ++ lexed (line + 12) ["return", "GenClass"])

/-- The lexemes of the program of texts. -/
def lexemes (locale : Option Text) (contents : List Bytes) : List Lexeme :=
  frameLexemes locale contents ++ [⟨.finish, Token.endText, lastLine locale contents + 13⟩]

/-! ## Reading the lines -/

/-- The bytes of lines. -/
def written (lines : List Program.Line) : Bytes :=
  encode (lines.flatMap fun l => l.text ++ ['\n'])

@[simp] theorem written_nil : written [] = [] := rfl

@[simp] theorem written_cons (l : Program.Line) (lines : List Program.Line) :
    written (l :: lines) = encode l.text ++ 10 :: written lines := by
  simp [written, show encodeChar '\n' = [10] from rfl]

theorem written_append (ls ls' : List Program.Line) :
    written (ls ++ ls') = written ls ++ written ls' := by
  simp [written]

/-- The lines after a line are read as lexemes, up to the line feed that ends them. -/
def Read (line : Nat) (lines : List Program.Line) (lexemes : List Lexeme) : Prop :=
  ∀ rest, Token.lexemes line (10 :: (written lines ++ rest)) =
    lexemes ++ Token.lexemes (line + lines.length) (10 :: rest)

theorem Read.append {line : Nat} {ls ls' : List Program.Line} {ts ts' : List Lexeme}
    (h : Read line ls ts) (h' : Read (line + ls.length) ls' ts') :
    Read line (ls ++ ls') (ts ++ ts') := by
  intro rest
  rw [written_append, List.append_assoc, h, h', List.append_assoc, List.length_append,
    Nat.add_assoc]

set_option maxRecDepth 100000

open Program (fixed)

/-- The lines between the first one and the choice of the locale. -/
def headLines : List Program.Line :=
  [fixed "", fixed "local GenClass = \x7b\x7d", fixed "", fixed "function GenClass.execute()",
    fixed "    local builder = \x7b\x7d", fixed "    local previous_locale = os.setlocale()"]

theorem read_head (line : Nat) : Read line headLines
    (lexed (line + 2) ["local", "GenClass", "=", "\x7b", "\x7d"] ++
      lexed (line + 4) ["function", "GenClass", ".", "execute", "(", ")"] ++
      lexed (line + 5) ["local", "builder", "=", "\x7b", "\x7d"] ++
      lexed (line + 6) ["local", "previous_locale", "=", "os", ".", "setlocale", "(", ")"]) :=
  fun _ => (Token.lexemes_eq_ahead 48 _ _).trans rfl

/-- A call of `os.setlocale` with a written text. -/
theorem lexemes_setlocale (line : Nat) (name : Text) (rest : Bytes) :
    Token.lexemes line (bytes "os.setlocale(" ++ 34 :: (encode (quote name) ++ 34 :: 41 :: rest)) =
      setlocaleLexemes line (encode name) ++ Token.lexemes line rest := by
  have hstart (rest : Bytes) : Token.lexemes line (bytes "os.setlocale(" ++ 34 :: rest) =
      lexed line ["os", ".", "setlocale", "("] ++ Token.lexemes line (34 :: rest) :=
    (Token.lexemes_eq_ahead 4 _ _).trans rfl
  have hend : Token.lexemes line (41 :: rest) = lexed line [")"] ++ Token.lexemes line rest :=
    (Token.lexemes_eq_ahead 1 _ _).trans rfl
  rw [hstart, Token.lexemes_quoted, hend]
  simp [setlocaleLexemes, Lexeme.quoted]

/-- The line of a statement that appends a text. -/
theorem read_appendText (line : Nat) (t : Text) :
    Read line [Program.appendText t] (appendLexemes (line + 1) (encode t)) := by
  intro rest
  have hwritten : written [Program.appendText t] ++ rest =
      bytes "        builder[#builder + 1] = " ++
        34 :: (encode (quote t) ++ 34 :: 10 :: rest) := by
    show encode ("        builder[#builder + 1] = ".toList ++ ['"'] ++ quote t ++ ['"'] ++ ['\n'] ++ []) ++
      rest = _
    simp only [encode_append, List.append_assoc]
    rfl
  have hstart (rest : Bytes) : Token.lexemes line
      (10 :: (bytes "        builder[#builder + 1] = " ++ 34 :: rest)) =
        lexed (line + 1) ["builder", "[", "#", "builder", "+", "1", "]", "="] ++
          Token.lexemes (line + 1) (34 :: rest) :=
    (Token.lexemes_eq_ahead 21 _ _).trans rfl
  rw [hwritten, hstart, Token.lexemes_quoted]
  simp [appendLexemes, Lexeme.quoted]

/-- A line that sets the known locale. -/
theorem read_setlocale_known (n line : Nat) :
    Read line [Program.plain (List.replicate n ' ' ++ "os.setlocale(\"C\")".toList)]
      (setlocaleLexemes (line + 1) (bytes "C")) := by
  intro rest
  have hblanks : encode (List.replicate n ' ') = List.replicate n 32 := by
    induction n with
    | zero => rfl
    | succ n ih => rw [List.replicate_succ, encode_cons, ih]; rfl
  have hwritten : written [Program.plain (List.replicate n ' ' ++ "os.setlocale(\"C\")".toList)] ++
      rest = List.replicate n 32 ++ (bytes "os.setlocale(" ++
        34 :: (encode (quote "C".toList) ++ 34 :: 41 :: 10 :: rest)) := by
    rw [written_cons, Program.plain, encode_append, hblanks, List.append_assoc, List.append_assoc]
    rfl
  rw [hwritten, Token.lexemes_newline, Token.lexemes_blanks, lexemes_setlocale]
  · rfl
  · cases n <;> exact fun h => absurd (Option.some.inj h) (by decide)

theorem read_chooseLocale (line : Nat) (locale : Option Text) :
    Read line (Program.chooseLocale locale) (localeLexemes (line + 1) locale) := by
  cases locale with
  | none => exact read_setlocale_known 4 line
  | some name =>
    have hif : Read line [Program.plain ("    if os.setlocale(\"".toList ++ quote name ++
        "\") == nil then".toList)] (lexed (line + 1) ["if"] ++
          setlocaleLexemes (line + 1) (encode name) ++
          lexed (line + 1) ["==", "nil", "then"]) := by
      intro rest
      have hwritten : written [Program.plain ("    if os.setlocale(\"".toList ++ quote name ++
          "\") == nil then".toList)] ++ rest = bytes "    if " ++ (bytes "os.setlocale(" ++
            34 :: (encode (quote name) ++ 34 :: 41 :: (bytes " == nil then" ++ 10 :: rest))) := by
        rw [written_cons, Program.plain, encode_append, encode_append, List.append_assoc,
          List.append_assoc, List.append_assoc]
        rfl
      have hstart (rest : Bytes) : Token.lexemes line (10 :: (bytes "    if " ++
          (bytes "os.setlocale(" ++ rest))) = lexed (line + 1) ["if"] ++
            Token.lexemes (line + 1) (bytes "os.setlocale(" ++ rest) :=
        (Token.lexemes_eq_ahead 7 _ _).trans rfl
      have hthen : Token.lexemes (line + 1) (bytes " == nil then" ++ 10 :: rest) =
          lexed (line + 1) ["==", "nil", "then"] ++ Token.lexemes (line + 1) (10 :: rest) :=
        (Token.lexemes_eq_ahead 6 _ _).trans rfl
      rw [hwritten, hstart, lexemes_setlocale, hthen]
      simp
    have hend : Read (line + 3) [fixed "    end"] (lexed (line + 4) ["end"]) :=
      fun _ => (Token.lexemes_eq_ahead 6 _ _).trans rfl
    exact ((hif.append (read_setlocale_known 8 (line + 1))).append
      (read_appendText (line + 2) (Program.localeWarning name))).append hend

/-- The line before the texts. -/
def openLine : Program.Line := fixed "    local ok, failure = pcall(function()"

theorem read_open (line : Nat) : Read line [openLine] (openLexemes (line + 1)) :=
  fun _ => (Token.lexemes_eq_ahead 19 _ _).trans rfl

theorem read_contents (line : Nat) (texts : List Text) :
    Read line (texts.map Program.appendText) (contentLexemes (line + 1) (texts.map encode)) := by
  induction texts generalizing line with
  | nil => intro rest; rfl
  | cons t texts ih => exact (read_appendText line t).append (ih (line + 1))

theorem read_close (line : Nat) : Read line (Program.epilogue.take 6) (closeLexemes (line + 1)) :=
  fun _ => (Token.lexemes_eq_ahead 56 _ _).trans rfl

/-- What follows the mode in which the file is opened. -/
def afterMode : String :=
  "))\n    file:write(GenClass.execute())\n    file:close()\nend\n\nreturn GenClass"

theorem read_main (line : Nat) : Read line (Program.epilogue.drop 6)
    (mainLexemes (line + 1) ++ lexed (line + 7) ["return", "GenClass"]) := by
  intro rest
  have hstart (rest : Bytes) : Token.lexemes line (10 :: (bytes "function GenClass.main(path)" ++
      10 :: (bytes "    local file = assert(io.open(path, " ++ 34 :: rest))) =
      lexed (line + 1) ["function", "GenClass", ".", "main", "(", "path", ")"] ++
        (lexed (line + 2)
          ["local", "file", "=", "assert", "(", "io", ".", "open", "(", "path", ","] ++
        Token.lexemes (line + 2) (34 :: rest)) :=
    (Token.lexemes_eq_ahead 29 _ _).trans rfl
  have hend : Token.lexemes (line + 2) (bytes afterMode ++ 10 :: rest) =
      lexed (line + 2) [")", ")"] ++ lexed (line + 3)
          ["file", ":", "write", "(", "GenClass", ".", "execute", "(", ")", ")"] ++
        lexed (line + 4) ["file", ":", "close", "(", ")"] ++ lexed (line + 5) ["end"] ++
        lexed (line + 7) ["return", "GenClass"] ++ Token.lexemes (line + 7) (10 :: rest) :=
    (Token.lexemes_eq_ahead 34 _ _).trans rfl
  have hwritten : written (Program.epilogue.drop 6) ++ rest = bytes "function GenClass.main(path)" ++
      10 :: (bytes "    local file = assert(io.open(path, " ++
        34 :: (encode (quote "wb".toList) ++ 34 :: (bytes afterMode ++ 10 :: rest))) := rfl
  rw [hwritten, hstart, Token.lexemes_quoted, hend]
  simp [mainLexemes, Lexeme.quoted, Program.epilogue, bytes]

/-! ## The program -/

theorem isBreak_of_mem_encode {t : Text} (h : Text.OneLine t) {b : UInt8} (hb : b ∈ encode t) :
    Token.isBreak b = false := by
  obtain ⟨c, hc, hb⟩ := List.mem_flatMap.1 hb
  obtain ⟨hline, hreturn⟩ := Text.oneLine_iff.1 h c hc
  by_cases hascii : c.toNat < 128
  · rw [encodeChar_of_lt hascii, List.mem_singleton] at hb
    subst hb
    have hc' : c.toNat < 256 := by omega
    simp only [Token.isBreak, Bool.or_eq_false_iff, beq_eq_false_iff_ne, ne_eq, byte_eq hc']
    exact ⟨fun h => hline (Char.toNat_inj.1 h), fun h => hreturn (Char.toNat_inj.1 h)⟩
  · have hle := le_of_mem_encodeChar (Nat.le_of_not_lt hascii) hb
    simp only [Token.isBreak, Bool.or_eq_false_iff, beq_eq_false_iff_ne]
    constructor <;> · rintro rfl; exact absurd hle (by decide)

/-- The body of a program of texts. -/
theorem body_of_texts {sections : List Section} (h : ∀ s ∈ sections, s.kind = .text) :
    Program.body false sections = sections.map fun s => Program.appendText s.content := by
  induction sections with
  | nil => rfl
  | cons s rest ih =>
    rw [Program.body, h s List.mem_cons_self]
    exact congrArg _ (ih fun s' hs' => h s' (List.mem_cons_of_mem s hs'))

theorem Read.at {line line' : Nat} {ls : List Program.Line} {ts : List Lexeme} (h : Read line ls ts)
    (hline : line' = line) : Read line' ls ts := hline ▸ h

/-- The lines after the first one. -/
theorem read_frame (locale : Option Text) (texts : List Text) :
    Read 1 (headLines ++ Program.chooseLocale locale ++
        [openLine] ++ texts.map Program.appendText ++
        Program.epilogue.take 6 ++ Program.epilogue.drop 6)
      (frameLexemes locale (texts.map encode)) := by
  have hlocale : 1 + (headLines ++ Program.chooseLocale locale).length = 7 + localeLines locale := by
    cases locale <;> rfl
  have hopen : 1 + (headLines ++ Program.chooseLocale locale ++
      [openLine]).length = firstLine locale := by
    cases locale <;> rfl
  have htexts : 1 + (headLines ++ Program.chooseLocale locale ++
      [openLine] ++ texts.map Program.appendText).length =
        firstLine locale + (texts.map encode).length := by
    rw [List.length_append, ← Nat.add_assoc, hopen, List.length_map, List.length_map]
  have hclose : 1 + (headLines ++ Program.chooseLocale locale ++
      [openLine] ++ texts.map Program.appendText ++
      Program.epilogue.take 6).length = lastLine locale (texts.map encode) + 5 := by
    rw [List.length_append, ← Nat.add_assoc, htexts]
    rfl
  exact (((((read_head 1).append (read_chooseLocale 7 locale)).append ((read_open _).at hlocale)).append
    ((read_contents _ texts).at hopen)).append ((read_close _).at htexts)).append
      ((read_main _).at hclose)

/-- The program of texts has the lexemes of the frame and of the texts. -/
theorem ofChunk_write {r : Resolution} {template : Path} (locale : Option Text)
    (htexts : ∀ s ∈ r.sections, s.kind = .text) (himports : r.imports = [])
    (hname : Text.OneLine (Program.displayName template)) :
    Token.ofChunk (encode (Program.write r template locale).source) =
      .ok (lexemes locale (r.sections.map fun s => encode s.content)) := by
  let texts := r.sections.map Section.content
  have hcontents : r.sections.map (fun s => encode s.content) = texts.map encode := by
    rw [List.map_map]; rfl
  have hbody : Program.body false r.sections = texts.map Program.appendText := by
    rw [body_of_texts htexts, List.map_map]; rfl
  have hcomment : ∀ b ∈ bytes " Generated from " ++ encode (Program.displayName template),
      Token.isBreak b = false := by
    intro b hb
    rcases List.mem_append.1 hb with hb | hb
    · exact isBreak_of_mem_encode (by decide) hb
    · exact isBreak_of_mem_encode hname hb
  let frame := headLines ++ Program.chooseLocale locale ++
    [openLine] ++ texts.map Program.appendText ++
    Program.epilogue.take 6 ++ Program.epilogue.drop 6
  have hlines : Program.header template r.imports ++ Program.prologue locale ++
      Program.body false r.sections ++ Program.epilogue =
        Program.plain ("-- Generated from ".toList ++ Program.displayName template) :: frame := by
    simp only [frame, List.append_assoc, List.take_append_drop, himports, hbody, Program.header,
      Program.prologue, headLines]
    rfl
  have hsource : encode (Program.write r template locale).source =
      45 :: 45 :: (bytes " Generated from " ++ encode (Program.displayName template)) ++
        10 :: written frame := by
    show written (Program.header template r.imports ++ Program.prologue locale ++
      Program.body false r.sections ++ Program.epilogue) = _
    rw [hlines, written_cons, Program.plain, encode_append]
    rfl
  have hlength : 1 + frame.length = lastLine locale (texts.map encode) + 12 := by
    cases locale <;>
      simp [frame, lastLine, firstLine, localeLines, headLines, Program.chooseLocale,
        Program.epilogue] <;> omega
  have hfinish (line : Nat) : Token.lexemes line [10] = [⟨.finish, Token.endText, line + 1⟩] := by
    rw [Token.lexemes_newline line (by simp), Token.lexemes]
  have hframe := read_frame locale texts []
  rw [List.append_nil] at hframe
  rw [hsource, hcontents, lexemes, ← hfinish, ← hlength, ← hframe]
  rw [← Token.lexemes_comment 1 (by exact fun h => absurd (Option.some.inj h) (by decide)) hcomment]
  rfl

end Stencil.Literal
