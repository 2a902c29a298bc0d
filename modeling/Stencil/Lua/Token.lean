/-
  The lexemes of a Lua chunk.

  * `Token`: names, strings, numbers, fixed tokens, the end;
  * `Lexeme`: a token with the bytes that messages show for it and the line on
    which it ends;
  * `lexemes`: the lexemes of a chunk; it ends with the end token or with the
    first lexical fault;
  * `quoted` and `longBracket` read the two forms of strings.
-/
import Stencil.Lua.Number
import Stencil.Lua.SyntaxFault

namespace Stencil.Lua

/-- A token. -/
inductive Token where
  | name (s : Bytes)
  | string (s : Bytes)
  | number (n : Number)
  /-- A reserved word, an operator or a punctuation mark, as it is written. -/
  | fixed (text : Bytes)
  /-- The end of the chunk. -/
  | finish
  /-- A lexical fault; nothing follows it. -/
  | fault (cause : SyntaxFault.Cause)

/-- A token, the bytes that messages show for it, and the line on which it ends. -/
structure Lexeme where
  token : Token
  near : Bytes
  line : Nat

namespace Token

/-! ## Classes of bytes -/

/-- A decimal digit. -/
def isDigit (b : UInt8) : Bool := 48 ≤ b && b ≤ 57

/-- A byte of a name; every byte outside ASCII is one. -/
def isNameByte (b : UInt8) : Bool :=
  isDigit b || (65 ≤ b && b ≤ 90) || (97 ≤ b && b ≤ 122) || b == 95 || 128 ≤ b

/-- A line feed or a carriage return. -/
def isBreak (b : UInt8) : Bool := b == 10 || b == 13

/-- A control character. -/
def isControlByte (b : UInt8) : Bool := b < 32 || b == 127

/-- How many bytes after its first byte a line break has: a pair of a line feed
    and a carriage return is one line break. -/
def breakTail (b : UInt8) : Bytes → Nat
  | c :: _ => if isBreak c && c != b then 1 else 0
  | [] => 0

/-- The reserved words. -/
def reserved : List Bytes :=
  ["and", "break", "do", "else", "elseif", "end", "false", "for", "function", "goto", "if", "in",
    "local", "nil", "not", "or", "repeat", "return", "then", "true", "until", "while"].map bytes

/-! ## Long brackets -/

/-- How many `=` stand at the start. -/
def equalSigns (rest : Bytes) : Nat := (rest.takeWhile (· == 61)).length

/-- The level of a long bracket after its first byte `b`: the number of `=`
    before the second `b`. -/
def bracketLevel? (b : UInt8) (rest : Bytes) : Option Nat :=
  if (rest.drop (equalSigns rest)).head? = some b then some (equalSigns rest) else none

/-- The inside of a string or comment. -/
structure Body where
  /-- The bytes that it stands for. -/
  content : Bytes
  /-- How many bytes were read, its end included. -/
  size : Nat
  /-- How many line breaks were read. -/
  breaks : Nat

/-- Reads the inside of a long bracket of a level up to its end; every line break
    stands for a line feed. Without an end, the number of line breaks. -/
def longBody (level : Nat) (bytes : Bytes) : Except Nat Body :=
  match bytes with
  | [] => .error 0
  | b :: rest =>
    if b == 93 && bracketLevel? 93 rest == some level then .ok ⟨[], level + 2, 0⟩
    else if isBreak b then
      let k := breakTail b rest
      match longBody level (rest.drop k) with
      | .ok body => .ok ⟨10 :: body.content, body.size + k + 1, body.breaks + 1⟩
      | .error n => .error (n + 1)
    else
      match longBody level rest with
      | .ok body => .ok ⟨b :: body.content, body.size + 1, body.breaks⟩
      | .error n => .error n
termination_by bytes.length

/-- Reads a long bracket after both of its opening brackets; a line break that
    follows them directly does not count. -/
def longBracket (level : Nat) : Bytes → Except Nat Body
  | b :: rest =>
    if isBreak b then
      let k := breakTail b rest
      match longBody level (rest.drop k) with
      | .ok body => .ok ⟨body.content, body.size + k + 1, body.breaks + 1⟩
      | .error n => .error (n + 1)
    else longBody level (b :: rest)
  | [] => longBody level []

/-! ## Quoted strings -/

/-- The byte of a one-letter escape. -/
def letterEscape? (b : UInt8) : Option UInt8 :=
  if b == 97 then some 7
  else if b == 98 then some 8
  else if b == 102 then some 12
  else if b == 110 then some 10
  else if b == 114 then some 13
  else if b == 116 then some 9
  else if b == 118 then some 11
  else if b == 92 || b == 34 || b == 39 then some b
  else none

/-- Reads the hexadecimal digits of a scalar value up to the closing brace. -/
def scalarEscape (value : Nat) (size : Nat) : Bytes → Option (Nat × Nat)
  | [] => none
  | b :: rest => match Number.hexDigit? b with
    | none => none
    | some d =>
      let value := value * 16 + d
      if value ≥ 0x110000 then none
      else if rest.head? = some 125 then some (value, size + 2)
      else scalarEscape value (size + 1) rest

/-- The length of the white space at the start, and its line breaks. -/
def blankRun (bytes : Bytes) : Nat × Nat :=
  match bytes with
  | [] => (0, 0)
  | b :: rest =>
    if isBreak b then
      let k := breakTail b rest
      let (size, breaks) := blankRun (rest.drop k)
      (size + k + 1, breaks + 1)
    else if Number.isSpace b then
      let (size, breaks) := blankRun rest
      (size + 1, breaks)
    else (0, 0)
termination_by bytes.length

/-- Up to three decimal digits after the first one. -/
def decimalEscape (first : UInt8) (rest : Bytes) : Option Body :=
  let digits := first :: (rest.take 2).takeWhile isDigit
  let value : Nat := digits.foldl (fun n d => n * 10 + (d.toNat - 48)) 0
  if value > 255 then none else some ⟨[value.toUInt8], digits.length, 0⟩

/-- Reads an escape sequence after its backslash. -/
def escape? : Bytes → Option Body
  | [] => some ⟨[], 0, 0⟩
  | b :: rest =>
    match letterEscape? b with
    | some c => some ⟨[c], 1, 0⟩
    | none =>
      if isBreak b then some ⟨[10], 1 + breakTail b rest, 1⟩
      else if isDigit b then decimalEscape b rest
      else if b == 120 then
        match rest with
        | h :: l :: _ => match Number.hexDigit? h, Number.hexDigit? l with
          | some m, some n => some ⟨[(m * 16 + n).toUInt8], 3, 0⟩
          | _, _ => none
        | _ => none
      else if b == 117 then
        match rest with
        | 123 :: digits => match scalarEscape 0 0 digits with
          | some (value, size) =>
            if 0xD800 ≤ value && value < 0xE000 then none
            else some ⟨Text.Utf8.encodeChar (Char.ofNat value), size + 2, 0⟩
          | none => none
        | _ => none
      else if b == 122 then
        let (size, breaks) := blankRun rest
        some ⟨[], size + 1, breaks⟩
      else none

/-- Why a quoted string could not be read: the cause, the content before it, the
    line breaks before it, and whether the chunk ended. -/
structure BadQuote where
  cause : SyntaxFault.Cause
  content : Bytes
  breaks : Nat
  atEnd : Bool

/-- The content and line breaks that stand before what follows. -/
def BadQuote.after (content : Bytes) (breaks : Nat) (bad : BadQuote) : BadQuote :=
  { bad with content := content ++ bad.content, breaks := breaks + bad.breaks }

/-- Reads the inside of a quoted string up to its closing quote. -/
def quoted (quote : UInt8) (bytes : Bytes) : Except BadQuote Body :=
  match bytes with
  | [] => .error ⟨.unfinishedString, [], 0, true⟩
  | b :: rest =>
    if b == quote then .ok ⟨[], 1, 0⟩
    else if isBreak b then .error ⟨.unfinishedString, [], 0, false⟩
    else if b == 92 then
      match escape? rest with
      | none => .error ⟨.invalidEscape, [], 0, false⟩
      | some e =>
        match quoted quote (rest.drop e.size) with
        | .ok body =>
          .ok ⟨e.content ++ body.content, 1 + e.size + body.size, e.breaks + body.breaks⟩
        | .error bad => .error (bad.after e.content e.breaks)
    else
      match quoted quote rest with
      | .ok body => .ok ⟨b :: body.content, 1 + body.size, body.breaks⟩
      | .error bad => .error (bad.after [b] 0)
termination_by bytes.length

/-! ## Numerals -/

/-- The length of a numeral's text after its first byte: name bytes and points,
    and a sign after an exponent mark. -/
def numeralSize (mark : UInt8) (last : UInt8) : Bytes → Nat
  | [] => 0
  | b :: rest =>
    if isNameByte b || b == 46 || ((b == 45 || b == 43) && last ||| 32 == mark) then
      1 + numeralSize mark b rest
    else 0

/-- The exponent mark of a numeral: `p` after `0x`, `e` otherwise. -/
def exponentMark (first : UInt8) : Bytes → UInt8
  | b :: _ => if first == 48 && b ||| 32 == 120 then 112 else 101
  | [] => 101

/-! ## Lexemes -/

/-- What begins at a place of a chunk. -/
inductive Item where
  /-- White space or a comment, of a size after its first byte. -/
  | blank (size breaks : Nat)
  /-- A token, of a size after its first byte. -/
  | token (t : Token) (near : Bytes) (size breaks : Nat)
  /-- A lexical fault after some line breaks. -/
  | fault (cause : SyntaxFault.Cause) (near : Bytes) (breaks : Nat)

/-- A fixed token. -/
def Item.mark (text : Bytes) : Item := .token (.fixed text) text (text.length - 1) 0

/-- What messages show for the end of the chunk. -/
def endText : Bytes := bytes "<eof>"

/-- The numeral that begins with a byte. -/
def numeral (mark b : UInt8) (rest : Bytes) : Item :=
  let size := numeralSize mark b rest
  let text := b :: rest.take size
  match Number.read? text with
  | some n => .token (.number n) text size 0
  | none => .fault .malformedNumber text 0

/-- The string in long brackets, its first bracket and level read. -/
def longString (level : Nat) (rest : Bytes) : Item :=
  match longBracket level (rest.drop (level + 1)) with
  | .ok body =>
    let signs := List.replicate level 61
    .token (.string body.content) (91 :: signs ++ 91 :: body.content ++ 93 :: signs ++ [93])
      (level + body.size + 1) body.breaks
  | .error n => .fault .unfinishedLongString endText n

/-- The comment whose two dashes were read. -/
def comment (rest : Bytes) : Item :=
  let short := fun (_ : Unit) => Item.blank (1 + (rest.takeWhile (!isBreak ·)).length) 0
  match rest with
  | 91 :: after => match bracketLevel? 91 after with
    | some level => match longBracket level (after.drop (level + 1)) with
      | .ok body => .blank (level + body.size + 3) body.breaks
      | .error n => .fault .unfinishedLongComment endText n
    | none => short ()
  | _ => short ()

/-- The fixed token that may have a second byte. -/
def pair (b second : UInt8) (rest : Bytes) : Item :=
  if rest.head? = some second then .mark [b, second] else .mark [b]

/-- The item that begins with a byte. -/
def item (b : UInt8) (rest : Bytes) : Item :=
  if isDigit b then numeral (exponentMark b rest) b rest
  else if isNameByte b then
    let text := b :: rest.takeWhile isNameByte
    if reserved.contains text then .mark text else .token (.name text) text (text.length - 1) 0
  else if isBreak b then .blank (breakTail b rest) 1
  else if b == 32 || b == 9 || b == 11 || b == 12 then .blank 0 0
  else if b == 45 then
    match rest with
    | 45 :: after => comment after
    | _ => .mark [b]
  else if b == 91 then
    match bracketLevel? 91 rest with
    | some level => longString level rest
    | none =>
      if equalSigns rest = 0 then .mark [b]
      else .fault .invalidLongDelimiter (b :: rest.take (equalSigns rest)) 0
  else if b == 61 || b == 60 || b == 62 || b == 126 then pair b 61 rest
  else if b == 58 then pair b 58 rest
  else if b == 34 || b == 39 then
    match quoted b rest with
    | .ok body => .token (.string body.content) (b :: body.content ++ [b]) body.size body.breaks
    | .error bad =>
      .fault bad.cause (if bad.atEnd then endText else b :: bad.content) bad.breaks
  else if b == 46 then
    match rest with
    | 46 :: 46 :: _ => .mark [46, 46, 46]
    | 46 :: _ => .mark [46, 46]
    | c :: after => if isDigit c then numeral (exponentMark c after) b rest else .mark [46]
    | [] => .mark [46]
  else if isControlByte b then
    .token (.fixed [b]) (Lua.bytes "char(" ++ decimal b.toNat ++ Lua.bytes ")") 0 0
  else .mark [b]

/-- The lexemes from a line on. -/
def lexemes (line : Nat) (bytes : Bytes) : List Lexeme :=
  match bytes with
  | [] => [⟨.finish, endText, line⟩]
  | b :: rest =>
    match item b rest with
    | .blank size breaks => lexemes (line + breaks) (rest.drop size)
    | .token t near size breaks =>
      ⟨t, near, line + breaks⟩ :: lexemes (line + breaks) (rest.drop size)
    | .fault cause near breaks => [⟨.fault cause, near, line + breaks⟩]
termination_by bytes.length

/-! ## Headers -/

/-- The bytes without a byte order mark, and whether there was one. -/
def dropByteOrderMark : Bytes → Bytes × Bool
  | 0xEF :: 0xBB :: 0xBF :: rest => (rest, true)
  | b => (b, false)

/-- The lexemes of a chunk. A byte order mark and a first line that begins with `#`
    are skipped; a compiled chunk is not accepted. -/
def ofChunk (chunk : Bytes) : Except SyntaxFault.Cause (List Lexeme) :=
  let (chunk, marked) := dropByteOrderMark chunk
  let (chunk, line, header) : Bytes × Nat × Bool := match chunk with
    | 35 :: rest => match rest.dropWhile (!isBreak ·) with
      | [] => ([], 1, marked)
      | b :: after => (after.drop (breakTail b after), 2, true)
    | _ => (chunk, 1, marked)
  if chunk.head? = some 27 then
    .error (if header then .malformedBytecode else .incompatibleBytecode)
  else .ok (lexemes line chunk)

end Token

end Stencil.Lua
