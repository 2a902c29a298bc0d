/-
  The Lua program that prints a template's output, and the map from its lines
  back to the template.

      -- Generated from main.sgtt
      local string = require("string") -- from import directive of main.sgtt(1,4)

      local GenClass = ...
      function GenClass.execute()
          ...
          local ok, failure = pcall(function()
              builder[#builder + 1] = "text"
              builder[#builder + 1] = tostring((
      --#line 1 "main.sgtt"
               expression
      --#line default
              ))
      --#line 2 "main.sgtt"
        code
      --#line default
          end)
          ...

  * a `Program` is its source with one optional `Origin` for each line;
  * `Program.write` lists the lines of the program of a resolution;
  * `block` are the lines of a code or expression section: the marker line, then
    the content, its first line padded to the column where the section starts.
-/
import Stencil.Resolution
import Stencil.Lua.Quoted

namespace Stencil

/-- The line of a file that a program line was written from. -/
structure Origin where
  file : Path
  line : Nat
  deriving DecidableEq

/-- A program and where its lines come from. -/
structure Program where
  /-- The template that the program renders. -/
  template : Path
  source : Text
  /-- The origin of each line in order; nothing for a line of the frame. -/
  lineMap : List (Option Origin)
  deriving DecidableEq

namespace Program

/-- The name of the program in messages. -/
def label : Text := "sgtt_program".toList

/-- A line of a program under construction. -/
structure Line where
  text : Text
  origin : Option Origin
  deriving DecidableEq

/-- A line of the frame. -/
def plain (text : Text) : Line := ⟨text, none⟩

/-- A line of the frame, given as a string. -/
def fixed (text : String) : Line := plain text.toList

/-- The program of its lines. -/
def ofLines (template : Path) (lines : List Line) : Program :=
  ⟨template, lines.flatMap fun l => l.text ++ ['\n'], lines.map Line.origin⟩

/-! ## Looking up lines -/

/-- The text of a line, counted from 1. -/
def line? (p : Program) (n : Nat) : Option Text :=
  if n = 0 then none else (Text.lines p.source)[n - 1]?

/-- The origin of a line, counted from 1. -/
def origin? (p : Program) (n : Nat) : Option Origin :=
  if n = 0 then none else (p.lineMap[n - 1]?).join

/-- The name of a template in messages: its file name, if it has one. -/
def displayName (template : Path) : Text := template.shownName?.getD template.text

/-! ## Mapped blocks -/

/-- The line that ends the blocks of template code. -/
def defaultMarker : Line := fixed "--#line default"

/-- The line before a block of template code. -/
def marker (file : Path) (line : Nat) : Line :=
  plain ("--#line ".toList ++ Text.number line ++ " \"".toList ++ Lua.quote file.text ++ ['"'])

/-- Line breaks as the program counts them: a carriage return with its line
    feed is a line feed, any other one a space. -/
def unifyBreaks : Text → Text
  | '\r' :: '\n' :: rest => '\n' :: unifyBreaks rest
  | '\r' :: rest => ' ' :: unifyBreaks rest
  | c :: rest => c :: unifyBreaks rest
  | [] => []

/-- Lines of a file from a line number on. -/
def mapped (file : Path) (line : Nat) : List Text → List Line
  | [] => []
  | text :: rest => ⟨text, some ⟨file, line⟩⟩ :: mapped file (line + 1) rest

/-- The content lines of a section, the first one padded to its column. -/
def contentLines (s : Section) : List Text :=
  match Text.lines (unifyBreaks s.content) with
  | [] => []
  | first :: rest => (List.replicate s.position.column ' ' ++ first) :: rest

/-- The block of a code or expression section. -/
def block (s : Section) : List Line :=
  marker s.file s.position.line :: mapped s.file s.position.line (contentLines s)

/-! ## The body -/

/-- A statement that appends a text to the output. -/
def appendText (t : Text) : Line :=
  plain ("        builder[#builder + 1] = \"".toList ++ Lua.quote t ++ ['"'])

/-- The marker that ends an open block. -/
def closing (isOpen : Bool) : List Line := if isOpen then [defaultMarker] else []

/-- The lines of the sections; `isOpen` tells whether a block stands before them. -/
def body (isOpen : Bool) : List Section → List Line
  | [] => closing isOpen
  | s :: rest =>
    match s.kind with
    | .text => closing isOpen ++ appendText s.content :: body false rest
    | .expression =>
      closing isOpen ++ fixed "        builder[#builder + 1] = tostring((" ::
        (block s ++ defaultMarker :: fixed "        ))" :: body false rest)
    | .code => block s ++ body true rest

/-! ## The frame -/

/-- The line of an import. -/
def importLine (i : Import) : Line :=
  plain ("local ".toList ++ i.binding ++ " = require(\"".toList ++ i.module ++
    "\") -- from import directive of ".toList ++ i.file.text ++ '(' ::
    Text.number i.position.line ++ ',' :: Text.number (i.position.column + 1) ++ [')'])

/-- The lines before the function that renders. -/
def header (template : Path) (imports : List Import) : List Line :=
  plain ("-- Generated from ".toList ++ displayName template) :: imports.map importLine ++
    [fixed "", fixed "local GenClass = \x7b\x7d", fixed ""]

/-- What the output begins with when a locale is not known. -/
def localeWarning (name : Text) : Text :=
  "#warning The culture \"".toList ++ name ++
    "\" could not be resolved. This source is generated using the invariant culture.\n".toList

/-- The lines that choose the locale. -/
def chooseLocale : Option Text → List Line
  | none => [fixed "    os.setlocale(\"C\")"]
  | some name =>
    [plain ("    if os.setlocale(\"".toList ++ Lua.quote name ++ "\") == nil then".toList),
      fixed "        os.setlocale(\"C\")",
      appendText (localeWarning name),
      fixed "    end"]

/-- The lines before the body. -/
def prologue (locale : Option Text) : List Line :=
  [fixed "function GenClass.execute()",
    fixed "    local builder = \x7b\x7d",
    fixed "    local previous_locale = os.setlocale()"] ++ chooseLocale locale ++
    [fixed "    local ok, failure = pcall(function()"]

/-- The lines after the body. -/
def epilogue : List Line :=
  [fixed "    end)",
    fixed "    os.setlocale(previous_locale)",
    fixed "    if not ok then error(failure, 0) end",
    fixed "    return table.concat(builder)",
    fixed "end",
    fixed "",
    fixed "function GenClass.main(path)",
    fixed "    local file = assert(io.open(path, \"wb\"))",
    fixed "    file:write(GenClass.execute())",
    fixed "    file:close()",
    fixed "end",
    fixed "",
    fixed "return GenClass"]

/-- The program of a resolved template. -/
def write (r : Resolution) (template : Path) (locale : Option Text) : Program :=
  ofLines template
    (header template r.imports ++ prologue locale ++ body false r.sections ++ epilogue)

end Program

end Stencil
