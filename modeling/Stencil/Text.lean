/-
  Text as a list of characters, with the few operations that every stage of
  the tool shares.

  * `isBlank` is the Unicode property White_Space; `trim`, `trimStart` and
    `trimEnd` remove blank characters from the ends;
  * `lines` cuts at every line feed, `linesInclusive` cuts after it;
  * `stripStart?` and `stripEnd?` remove a literal from an end, `replace`
    changes every occurrence of a literal;
  * `number` writes a natural number, `number?` reads a machine word back.

  Main statement: the pieces of `linesInclusive` put together give back the
  text (`flatten_linesInclusive`).
-/

namespace Stencil

/-- A text is the list of its Unicode scalar values. -/
abbrev Text := List Char

namespace Text

/-! ## Blank characters -/

/-- Unicode White_Space. -/
def isBlank (c : Char) : Bool :=
  let n := c.toNat
  (9 ≤ n && n ≤ 13) || n == 0x20 || n == 0x85 || n == 0xA0 || n == 0x1680 ||
    (0x2000 ≤ n && n ≤ 0x200A) || n == 0x2028 || n == 0x2029 || n == 0x202F ||
    n == 0x205F || n == 0x3000

/-- The text without the blank characters at its start. -/
def trimStart (t : Text) : Text := t.dropWhile isBlank

/-- The text without the blank characters at its end. -/
def trimEnd (t : Text) : Text := (t.reverse.dropWhile isBlank).reverse

/-- The text without the blank characters at its ends. -/
def trim (t : Text) : Text := trimEnd (trimStart t)

/-! ## Lines -/

/-- The pieces between line feeds.  There is always at least one. -/
def lines : Text → List Text
  | [] => [[]]
  | c :: rest =>
    if c = '\n' then [] :: lines rest
    else match lines rest with
      | [] => [[c]]
      | piece :: pieces => (c :: piece) :: pieces

/-- The pieces that each end with their line feed; a last piece without one is
    kept when it is not empty. -/
def linesInclusive : Text → List Text
  | [] => []
  | c :: rest =>
    if c = '\n' then [c] :: linesInclusive rest
    else match linesInclusive rest with
      | [] => [[c]]
      | piece :: pieces => (c :: piece) :: pieces

theorem lines_ne_nil (t : Text) : lines t ≠ [] := by
  cases t with
  | nil => simp [lines]
  | cons c rest =>
    rw [lines]
    split
    · simp
    · split <;> simp

/-- The pieces of `linesInclusive` put together are the text. -/
theorem flatten_linesInclusive (t : Text) : (linesInclusive t).flatten = t := by
  induction t with
  | nil => rfl
  | cons c rest ih =>
    rw [linesInclusive]
    split
    · simp [ih]
    · cases hl : linesInclusive rest with
      | nil => rw [hl] at ih; simpa using ih
      | cons piece pieces => rw [hl] at ih; simpa using ih

/-! ## Literals in a text -/

/-- The rest of the text after `start`, if it begins so. -/
def stripStart? : Text → Text → Option Text
  | [], t => some t
  | _ :: _, [] => none
  | a :: start, c :: t => if a = c then stripStart? start t else none

/-- The text before `ending`, if it ends so. -/
def stripEnd? (ending t : Text) : Option Text :=
  (stripStart? ending.reverse t.reverse).map List.reverse

/-- Whether the text begins with `start`. -/
def startsWith (start t : Text) : Bool := (stripStart? start t).isSome

theorem stripStart?_eq_some_iff {start t rest : Text} :
    stripStart? start t = some rest ↔ t = start ++ rest := by
  induction start generalizing t with
  | nil => simp [stripStart?, eq_comm]
  | cons a start ih =>
    cases t with
    | nil => simp [stripStart?]
    | cons c t =>
      rw [stripStart?]
      split
      · next h => subst h; simp [ih]
      · next h => simp; intro h'; exact absurd h'.symm h

theorem length_lt_of_stripStart? {a : Char} {start t rest : Text}
    (h : stripStart? (a :: start) t = some rest) : rest.length < t.length := by
  rw [stripStart?_eq_some_iff] at h
  subst h
  simp only [List.cons_append, List.length_cons, List.length_append]
  omega

/-- The text with every occurrence of the non-empty literal `a :: old`, taken
    from the left, changed to `new`. -/
def replace (a : Char) (old new t : Text) : Text :=
  match _h : stripStart? (a :: old) t with
  | some rest => new ++ replace a old new rest
  | none => match t with
    | [] => []
    | c :: t' => c :: replace a old new t'
termination_by t.length
decreasing_by
  · exact length_lt_of_stripStart? _h
  · simp

/-- The offsets of the non-overlapping occurrences of the non-empty literal
    `a :: pattern`, from the left; `at` is the offset of the text's start. -/
def occurrences (a : Char) (pattern : Text) (start : Nat) (t : Text) : List Nat :=
  match _h : stripStart? (a :: pattern) t with
  | some rest => start :: occurrences a pattern (start + pattern.length + 1) rest
  | none => match t with
    | [] => []
    | _ :: t' => occurrences a pattern (start + 1) t'
termination_by t.length
decreasing_by
  · exact length_lt_of_stripStart? _h
  · simp

/-- The text before the first `c` and the text after it, if there is one. -/
def splitAt? (p : Char → Bool) : Text → Option (Text × Text)
  | [] => none
  | c :: t => if p c then some ([], t) else (splitAt? p t).map fun (l, r) => (c :: l, r)

/-- The pieces between the occurrences of a character, or of a byte. -/
def splitOn {α : Type} [DecidableEq α] (sep : α) : List α → List (List α)
  | [] => [[]]
  | c :: rest =>
    if c = sep then [] :: splitOn sep rest
    else match splitOn sep rest with
      | [] => [[c]]
      | piece :: pieces => (c :: piece) :: pieces

/-- The pieces joined by a separator. -/
def join {α : Type} (sep : List α) (pieces : List (List α)) : List α :=
  (pieces.intersperse sep).flatten

/-! ## Numbers -/

/-- A power of two. -/
def twoTo (n : Nat) : Nat := Nat.pow 2 n

/-- A power of ten. -/
def tenTo (n : Nat) : Nat := Nat.pow 10 n

/-- A natural number in decimal. -/
def number (n : Nat) : Text := Nat.toDigits 10 n

/-- The largest machine word. -/
def maxWord : Nat := 18446744073709551615

/-- The value of a decimal digit. -/
def digit? (c : Char) : Option Nat :=
  if '0' ≤ c ∧ c ≤ '9' then some (c.toNat - '0'.toNat) else none

/-- Reads decimal digits on top of the value read so far, within a machine word. -/
def numberFrom? (n : Nat) : Text → Option Nat
  | [] => some n
  | c :: t => match digit? c with
    | none => none
    | some d => if n * 10 + d ≤ maxWord then numberFrom? (n * 10 + d) t else none

/-- Reads a non-empty decimal number that fits a machine word. -/
def number? : Text → Option Nat
  | [] => none
  | t => numberFrom? 0 t

end Text

end Stencil
