/-
  Reading the smallest parts of a TOML document.

  * a `Reader` takes its part from the start of a text or fails; what it takes is the
    longest that it can take, so no other reader could go on from what is left;
  * strings: `basic`, `literal` and their forms of several lines;
  * numbers: `integer` within 64 bits, `float` below positive infinity, `dateTime`
    with days that exist.
-/
import Stencil.Toml.Value

namespace Stencil.Toml

/-- Takes a part from the start of a text. -/
abbrev Reader := StateT Text Option

namespace Reader

/-! ## Characters -/

/-- The next character, which stays. -/
def peek : Reader (Option Char) := do return (← get).head?

/-- Takes a character if it is the next one. -/
def accept (c : Char) : Reader Bool := fun t =>
  match t with
  | a :: rest => if a = c then some (true, rest) else some (false, t)
  | [] => some (false, [])

/-- Takes a literal. -/
def exactly (text : Text) : Reader Unit := fun t => (Text.stripStart? text t).map fun rest => ((), rest)

/-- Takes a character of a class. -/
def one (p : Char → Bool) : Reader Char := fun t =>
  match t with
  | a :: rest => if p a then some (a, rest) else none
  | [] => none

/-- Takes all characters of a class. -/
def many (p : Char → Bool) : Reader Text := fun t => some (t.takeWhile p, t.dropWhile p)

/-- Takes all characters of a class, of which there must be one. -/
def oneOrMore (p : Char → Bool) : Reader Text := do
  let taken ← many p
  if taken.isEmpty then failure else return taken

/-- What a reader takes, as it is written. -/
def written {α : Type} (r : Reader α) : Reader Text := fun t =>
  (r t).map fun (_, rest) => (t.take (t.length - rest.length), rest)

/-- Takes a part if it is there. -/
def optionally {α : Type} (r : Reader α) : Reader Unit := fun t =>
  match r t with
  | some (_, rest) => some ((), rest)
  | none => some ((), t)

/-! ## Blanks and comments -/

/-- A blank inside a line. -/
def isSpace (c : Char) : Bool := c = ' ' || c = '\t'

/-- A character of a comment. -/
def isCommentary (c : Char) : Bool := c = '\t' || (' ' ≤ c && c ≠ '\x7f')

/-- Takes the blanks of a line. -/
def spaces : Reader Unit := do let _ ← many isSpace

/-- Takes a line break. -/
def newline : Reader Unit := exactly ['\n'] <|> exactly ['\r', '\n']

/-- Takes the rest of a line that holds nothing but a comment. -/
def lineEnd : Reader Unit := do
  spaces
  if ← accept '#' then let _ ← many isCommentary
  if (← peek).isSome then newline

/-- Blanks, line breaks and comments, each of which ends with its line. -/
def gapRest (inComment : Bool) : Text → Option Text
  | [] => if inComment then none else some []
  | '\n' :: rest => gapRest false rest
  | '\r' :: '\n' :: rest => gapRest false rest
  | c :: rest =>
    if inComment then if isCommentary c then gapRest true rest else none
    else if c = '#' then gapRest true rest
    else if isSpace c then gapRest false rest
    else some (c :: rest)

/-- Takes blanks, line breaks and comments. -/
def gap : Reader Unit := fun t => (gapRest false t).map fun rest => ((), rest)

/-! ## Strings -/

/-- A character that stands for itself between double quotes. -/
def isBasic (c : Char) : Bool := isCommentary c && c ≠ '"' && c ≠ '\\'

/-- A character that stands for itself between single quotes. -/
def isLiteral (c : Char) : Bool := isCommentary c && c ≠ '\''

/-- The character of an escape of one letter. -/
def escaped? (c : Char) : Option Char :=
  if c = 'b' then some '\x08'
  else if c = 't' then some '\t'
  else if c = 'n' then some '\n'
  else if c = 'f' then some '\x0c'
  else if c = 'r' then some '\r'
  else if c = '"' ∨ c = '\\' then some c
  else none

/-- The value of a hexadecimal digit. -/
def hexDigit? (c : Char) : Option Nat :=
  if '0' ≤ c ∧ c ≤ '9' then some (c.toNat - '0'.toNat)
  else if 'a' ≤ c ∧ c ≤ 'f' then some (c.toNat - 'a'.toNat + 10)
  else if 'A' ≤ c ∧ c ≤ 'F' then some (c.toNat - 'A'.toNat + 10)
  else none

/-- The number of some digits in a base. -/
def digitsValue (base : Nat) (digits : List Nat) : Nat :=
  digits.foldl (fun n d => n * base + d) 0

/-- The scalar value of some hexadecimal digits. -/
def scalar? (digits : Text) : Option Char := do
  let n := digitsValue 16 (← digits.mapM hexDigit?)
  if n.isValidChar then some (Char.ofNat n) else none

/-- A character before what a reader gave. -/
def push (c : Char) (r : Option (Text × Text)) : Option (Text × Text) :=
  r.map fun (text, rest) => (c :: text, rest)

/-- What follows the opening quote of a basic string. -/
def basicRest : Text → Option (Text × Text)
  | [] => none
  | '"' :: rest => some ([], rest)
  | '\\' :: 'u' :: a :: b :: c :: d :: rest =>
    (scalar? [a, b, c, d]).bind fun x => push x (basicRest rest)
  | '\\' :: 'U' :: a :: b :: c :: d :: e :: f :: g :: h :: rest =>
    (scalar? [a, b, c, d, e, f, g, h]).bind fun x => push x (basicRest rest)
  | '\\' :: c :: rest => (escaped? c).bind fun x => push x (basicRest rest)
  | c :: rest => if isBasic c then push c (basicRest rest) else none

/-- Whether a line ends here but for blanks. -/
def endsLine (t : Text) : Bool :=
  let rest := t.dropWhile isSpace
  rest.head? = some '\n' || Text.startsWith ['\r', '\n'] rest

/-- What follows the opening quotes of a basic string of several lines. While `joining`,
    a backslash at the end of a line has removed the blanks and line breaks so far. Up to
    two quotes may stand before the closing ones. -/
def basicLinesRest (joining : Bool) : Text → Option (Text × Text)
  | [] => none
  | '"' :: '"' :: '"' :: '"' :: '"' :: rest => some (['"', '"'], rest)
  | '"' :: '"' :: '"' :: '"' :: rest => some (['"'], rest)
  | '"' :: '"' :: '"' :: rest => some ([], rest)
  | '\\' :: 'u' :: a :: b :: c :: d :: rest =>
    (scalar? [a, b, c, d]).bind fun x => push x (basicLinesRest false rest)
  | '\\' :: 'U' :: a :: b :: c :: d :: e :: f :: g :: h :: rest =>
    (scalar? [a, b, c, d, e, f, g, h]).bind fun x => push x (basicLinesRest false rest)
  | '\\' :: c :: rest =>
    if endsLine (c :: rest) then basicLinesRest true (c :: rest)
    else (escaped? c).bind fun x => push x (basicLinesRest false rest)
  | '\r' :: '\n' :: rest =>
    if joining then basicLinesRest true rest else push '\n' (basicLinesRest false rest)
  | c :: rest =>
    if joining && (isSpace c || c = '\n') then basicLinesRest true rest
    else if isBasic c || c = '\n' || c = '"' then push c (basicLinesRest false rest)
    else none

/-- What follows the opening quote of a literal string. -/
def literalRest : Text → Option (Text × Text)
  | [] => none
  | '\'' :: rest => some ([], rest)
  | c :: rest => if isLiteral c then push c (literalRest rest) else none

/-- What follows the opening quotes of a literal string of several lines. -/
def literalLinesRest : Text → Option (Text × Text)
  | [] => none
  | '\'' :: '\'' :: '\'' :: '\'' :: '\'' :: rest => some (['\'', '\''], rest)
  | '\'' :: '\'' :: '\'' :: '\'' :: rest => some (['\''], rest)
  | '\'' :: '\'' :: '\'' :: rest => some ([], rest)
  | '\r' :: '\n' :: rest => push '\n' (literalLinesRest rest)
  | c :: rest =>
    if isCommentary c || c = '\n' then push c (literalLinesRest rest) else none

/-- Takes a basic string of one line. -/
def basic : Reader Text := do exactly ['"']; basicRest

/-- Takes a literal string of one line. -/
def literal : Reader Text := do exactly ['\'']; literalRest

/-- Takes a string of several lines; a line break right after the quotes is no part
    of it. -/
def severalLines : Reader Text :=
  (do exactly ['"', '"', '"']; optionally newline; basicLinesRest false) <|>
    (do exactly ['\'', '\'', '\'']; optionally newline; literalLinesRest)

/-- Takes a string that may not begin a string of several lines. -/
def oneLine : Reader Text := fun t =>
  if Text.startsWith ['"', '"', '"'] t || Text.startsWith ['\'', '\'', '\''] t then none
  else (basic <|> literal) t

/-- Takes a string. -/
def string : Reader Text := severalLines <|> oneLine

/-! ## Numbers -/

/-- A decimal digit. -/
def isDigit (c : Char) : Bool := '0' ≤ c && c ≤ '9'

/-- Takes digits of a class; a single `_` may stand between two of them. -/
def digits (p : Char → Bool) : Reader Text := do
  let taken ← oneOrMore fun c => p c || c = '_'
  if taken.head? = some '_' ∨ taken.getLast? = some '_' ∨ Text.occurrences '_' ['_'] 0 taken ≠ []
  then failure
  else return taken.filter (· ≠ '_')

/-- Takes the digits of a whole number without a zero before other digits. -/
def wholeDigits : Reader Text := do
  let taken ← digits isDigit
  if taken.head? = some '0' ∧ taken.length ≠ 1 then failure else return taken

/-- Takes a sign; whether it was a minus. -/
def sign : Reader Bool := do
  if ← accept '-' then return true
  let _ ← accept '+'
  return false

/-- The digits of a text as numbers. -/
def digitValues (text : Text) : List Nat := text.filterMap hexDigit?

/-- The number, if it fits into 64 bits. -/
def within64? (n : Int) : Option Int :=
  if -9223372036854775808 ≤ n ∧ n ≤ 9223372036854775807 then some n else none

/-- Takes a whole number in another base, after its mark. -/
def inBase (mark : Char) (base : Nat) (p : Char → Bool) : Reader Int := do
  exactly ['0', mark]
  let taken ← digits p
  within64? (digitsValue base (digitValues taken))

/-- Takes a whole number. -/
def integer : Reader Int :=
  inBase 'x' 16 (fun c => (hexDigit? c).isSome) <|>
    inBase 'o' 8 (fun c => '0' ≤ c && c ≤ '7') <|>
    inBase 'b' 2 (fun c => c = '0' || c = '1') <|> do
    let negative ← sign
    let n : Int := digitsValue 10 (digitValues (← wholeDigits))
    within64? (if negative then -n else n)

/-- Takes an exponent. -/
def exponent : Reader Int := do
  let _ ← one fun c => c = 'e' || c = 'E'
  let negative ← sign
  let n : Int := digitsValue 10 (digitValues (← digits isDigit))
  return if negative then -n else n

/-- Takes a point and the digits after it. -/
def fraction : Reader Text := do exactly ['.']; digits isDigit

/-- The least number that is rounded to infinity. -/
def infinityBound : Nat := Text.twoTo 1024 - Text.twoTo 970

/-- Whether `n * 10 ^ e` is rounded to infinity; the number of digits decides unless
    it is the one of the bound. -/
def isInfinite (n : Nat) (e : Int) : Bool :=
  let size : Int := (Nat.toDigits 10 n).length + e
  if n = 0 ∨ size < 309 then false
  else if 309 < size then true
  else infinityBound * Text.tenTo (-e).toNat ≤ n * Text.tenTo e.toNat

/-- Takes a float of digits. -/
def finite : Reader Unit := do
  let negative ← sign
  let whole ← wholeDigits
  let (after, e) ← (do return ([], ← exponent)) <|> (do
    let after ← fraction
    let e ← exponent <|> pure 0
    return (after, e))
  let n := digitsValue 10 (digitValues (whole ++ after))
  if !negative && isInfinite n (e - after.length) then failure

/-- Takes a float. -/
def float : Reader Text :=
  written (finite <|> do
    let _ ← sign
    exactly "inf".toList <|> exactly "nan".toList)

/-! ## Dates and times -/

/-- Takes a number of exactly `n` digits. -/
def counted : Nat → Reader Nat
  | 0 => pure 0
  | n + 1 => do
    let c ← one isDigit
    let rest ← counted n
    return (c.toNat - '0'.toNat) * Text.tenTo n + rest

/-- Takes a number of two digits between two bounds. -/
def twoDigits (low high : Nat) : Reader Nat := do
  let n ← counted 2
  if low ≤ n ∧ n ≤ high then return n else failure

/-- The number of days of a month. -/
def daysOf (year month : Nat) : Nat :=
  if month = 2 then if year % 4 = 0 ∧ (year % 100 ≠ 0 ∨ year % 400 = 0) then 29 else 28
  else if month = 4 ∨ month = 6 ∨ month = 9 ∨ month = 11 then 30
  else 31

/-- Takes a date. -/
def date : Reader Unit := do
  let year ← counted 4
  exactly ['-']
  let month ← twoDigits 1 12
  exactly ['-']
  let _ ← twoDigits 1 (daysOf year month)

/-- Takes a time of day. -/
def time : Reader Unit := do
  let _ ← twoDigits 0 23
  exactly [':']
  let _ ← twoDigits 0 59
  exactly [':']
  let _ ← twoDigits 0 60
  optionally (do exactly ['.']; oneOrMore isDigit)

/-- Takes the distance of a local time from the common one. -/
def offset : Reader Unit :=
  (do let _ ← one fun c => c = 'Z' || c = 'z') <|> do
    let _ ← one fun c => c = '+' || c = '-'
    let _ ← twoDigits 0 23
    exactly [':']
    let _ ← twoDigits 0 59

/-- Takes a date, a time, or both. -/
def dateTime : Reader Text :=
  written ((do
    date
    optionally do
      let _ ← one fun c => c = 'T' || c = 't' || c = ' '
      time
      optionally offset) <|> time)

end Reader

end Stencil.Toml
