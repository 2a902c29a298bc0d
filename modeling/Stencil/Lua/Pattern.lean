/-
  Lua patterns.

  * `Pattern.matchAt`: the first match of a pattern that begins at a position of a
    subject, found by backtracking, with its captures;
  * `Pattern.Fault`: what makes a pattern or a capture invalid;
  * `Pattern.Match.capture`: a captured text or position.

  A pattern ends at its first NUL. Backtracking may nest to a limited depth.
-/
import Stencil.Lua.SyntaxFault

namespace Stencil.Lua.Pattern

/-- What makes a pattern or a capture invalid. -/
inductive Fault where
  | endsWithEscape
  | missingBracket
  | missingFrontierSet
  | unbalanced
  | tooComplex
  | tooManyCaptures
  | noOpenCapture
  | invalidCapture
  | unfinishedCapture
  deriving DecidableEq

/-- The text of a fault. -/
def Fault.message : Fault → String
  | endsWithEscape => "malformed pattern (ends with '%')"
  | missingBracket => "malformed pattern (missing ']')"
  | missingFrontierSet => "missing '[' after '%f' in pattern"
  | unbalanced => "unbalanced pattern"
  | tooComplex => "pattern too complex"
  | tooManyCaptures => "too many captures"
  | noOpenCapture => "invalid pattern capture"
  | invalidCapture => "invalid capture index"
  | unfinishedCapture => "unfinished capture"

/-! ## Classes -/

/-- An ASCII letter. -/
def isLetter (b : UInt8) : Bool := (65 ≤ b && b ≤ 90) || (97 ≤ b && b ≤ 122)

/-- An ASCII digit. -/
def isDigit (b : UInt8) : Bool := 48 ≤ b && b ≤ 57

/-- The ASCII class that a letter in lower case names. -/
def class? (letter : UInt8) : Option (UInt8 → Bool) :=
  if letter == 97 then some isLetter
  else if letter == 99 then some fun b => b < 32 || b == 127
  else if letter == 100 then some isDigit
  else if letter == 103 then some fun b => 33 ≤ b && b ≤ 126
  else if letter == 108 then some fun b => 97 ≤ b && b ≤ 122
  else if letter == 112 then some fun b => 33 ≤ b && b ≤ 126 && !isLetter b && !isDigit b
  else if letter == 115 then some fun b => b == 32 || (9 ≤ b && b ≤ 13)
  else if letter == 117 then some fun b => 65 ≤ b && b ≤ 90
  else if letter == 119 then some fun b => isLetter b || isDigit b
  else if letter == 120 then
    some fun b => isDigit b || (65 ≤ b && b ≤ 70) || (97 ≤ b && b ≤ 102)
  else if letter == 122 then some (· == 0)
  else none

/-- Whether a byte is of the class that the byte after `%` names; a letter in upper
    case names the complement, any other byte itself. -/
def inClass (b name : UInt8) : Bool :=
  if isLetter name then
    match class? (name ||| 32) with
    | some p => if name ≥ 97 then p b else !p b
    | none => b == name
  else b == name

/-- Whether a byte is in the set of the bytes between `[` and `]`. -/
def inSet (b : UInt8) : Bytes → Bool
  | 37 :: name :: rest => inClass b name || inSet b rest
  | low :: 45 :: high :: rest => (low ≤ b && b ≤ high) || inSet b rest
  | x :: rest => x == b || inSet b rest
  | [] => false

/-- Whether a byte is in a set, which `^` at its start turns into its complement. -/
def inBrackets (b : UInt8) : Bytes → Bool
  | 94 :: rest => !inSet b rest
  | inside => inSet b inside

/-! ## Items -/

/-- What matches one byte. -/
inductive Single where
  | any
  | byte (b : UInt8)
  | named (name : UInt8)
  | set (inside : Bytes)

/-- Whether a byte matches. -/
def Single.admits (b : UInt8) : Single → Bool
  | any => true
  | byte x => b == x
  | named name => inClass b name
  | set inside => inBrackets b inside

/-- The inside of a set up to its `]`, which is not its first byte, and what follows. -/
def setInside : Bytes → Except Fault (Bytes × Bytes)
  | [] => .error .missingBracket
  | b :: rest =>
    match b, rest with
    | 37, name :: after => close [b, name] after
    | _, _ => close [b] rest
where
  /-- Goes on unless the set ends here. -/
  close (read : Bytes) : Bytes → Except Fault (Bytes × Bytes)
    | [] => .error .missingBracket
    | 93 :: rest => .ok (read, rest)
    | 37 :: name :: rest => close (read ++ [37, name]) rest
    | b :: rest => close (read ++ [b]) rest

/-- The set after its `[`, and what follows its `]`. -/
def set : Bytes → Except Fault (Bytes × Bytes)
  | 94 :: rest => (setInside rest).map fun (inside, after) => (94 :: inside, after)
  | rest => setInside rest

/-- The item that a pattern begins with, and what follows it. -/
def single : Bytes → Except Fault (Single × Bytes)
  | [] => .error .missingBracket
  | 37 :: rest => match rest with
    | [] => .error .endsWithEscape
    | name :: after => .ok (.named name, after)
  | 91 :: rest => (set rest).map fun (inside, after) => (.set inside, after)
  | 46 :: rest => .ok (.any, rest)
  | b :: rest => .ok (.byte b, rest)

/-! ## Captures -/

/-- How far a capture has come. -/
inductive Extent where
  | unfinished
  | position
  | length (n : Nat)
  deriving DecidableEq

/-- A capture: where it begins and how far it has come. -/
structure Capture where
  start : Nat
  extent : Extent

/-- How many captures a pattern may have. -/
def captureLimit : Nat := 32

/-- How deeply backtracking may nest. -/
def depthLimit : Nat := 200

/-- The end of a match and its captures, or nothing. -/
abbrev Outcome := Except Fault (Option (Nat × List Capture))

/-- What matches the rest of a pattern from a position on. -/
abbrev Matcher := Nat → List Capture → Bytes → Outcome

/-- Closes the last capture that is open, at a position. -/
def closeLast (position : Nat) (captures : List Capture) : Except Fault (List Capture) :=
  match captures.reverse.findIdx? (·.extent = .unfinished) with
  | none => .error .noOpenCapture
  | some i =>
    .ok ((captures.reverse.modify i fun c =>
      { c with extent := .length (position - c.start) }).reverse)

/-- Opens a capture. -/
def opened (position : Nat) (extent : Extent) (captures : List Capture) :
    Except Fault (List Capture) :=
  if captures.length ≥ captureLimit then .error .tooManyCaptures
  else .ok (captures ++ [⟨position, extent⟩])

section

variable (subject : Array UInt8)

/-- The part of the subject between two positions. -/
def slice (start length : Nat) : Bytes := (subject.toList.drop start).take length

/-- The position after a balanced part that begins with `opening`, the nesting
    counted from an opening on. -/
def balanced (opening closing : UInt8) : Nat → Nat → Nat → Option Nat
  | 0, _, _ => none
  | n + 1, nesting, position =>
    match subject[position]? with
    | none => none
    | some b =>
      if b == closing then
        if nesting = 1 then some (position + 1)
        else balanced opening closing n (nesting - 1) (position + 1)
      else if b == opening then balanced opening closing n (nesting + 1) (position + 1)
      else balanced opening closing n nesting (position + 1)

/-- Whether a byte of the subject matches an item. -/
def admitsAt (item : Single) (position : Nat) : Bool :=
  (subject[position]?).any item.admits

/-- How many bytes from a position on match an item. -/
def runLength (item : Single) : Nat → Nat → Nat
  | 0, _ => 0
  | n + 1, position =>
    if admitsAt subject item position then 1 + runLength item n (position + 1) else 0

/-- Tries the rest of a pattern after each number of repetitions, the longest first. -/
def longest (deeper : Matcher) (captures : List Capture) (after : Bytes) (position : Nat) :
    Nat → Outcome
  | 0 => deeper position captures after
  | n + 1 => do
    match ← deeper (position + n + 1) captures after with
    | some found => return some found
    | none => longest deeper captures after position n

/-- Tries the rest of a pattern after each number of repetitions, the shortest first. -/
def shortest (deeper : Matcher) (captures : List Capture) (item : Single) (after : Bytes) :
    Nat → Nat → Outcome
  | 0, position => deeper position captures after
  | n + 1, position => do
    match ← deeper position captures after with
    | some found => return some found
    | none =>
      if admitsAt subject item position then
        shortest deeper captures item after n (position + 1)
      else return none

/-- Matches the rest of a pattern with one item after the other; `deeper` matches
    where the choice may have to be taken back. -/
def items (deeper : Matcher) : Nat → Matcher
  | 0, _, _, _ => .ok none
  | n + 1, position, captures, pattern =>
    let room := subject.size + 1
    let ordinary := fun (_ : Unit) => do
      let (item, after) ← single pattern
      let matched := admitsAt subject item position
      match after with
      | 63 :: after =>
        match ← if matched then deeper (position + 1) captures after else pure none with
        | some found => return some found
        | none => items deeper n position captures after
      | 42 :: after =>
        longest deeper captures after position (runLength subject item room position)
      | 43 :: after =>
        if matched then
          longest deeper captures after (position + 1)
            (runLength subject item room (position + 1))
        else return none
      | 45 :: after => shortest subject deeper captures item after room position
      | _ => if matched then items deeper n (position + 1) captures after else return none
    match pattern with
    | [] => return some (position, captures)
    | 40 :: 41 :: after => do deeper position (← opened position .position captures) after
    | 40 :: after => do deeper position (← opened position .unfinished captures) after
    | 41 :: after => do deeper position (← closeLast position captures) after
    | [36] => return if position = subject.size then some (position, captures) else none
    | 37 :: 98 :: after =>
      match after with
      | opening :: closing :: after =>
        if subject[position]? = some opening then
          match balanced subject opening closing room 1 (position + 1) with
          | some next => items deeper n next captures after
          | none => return none
        else return none
      | _ => .error .unbalanced
    | 37 :: 102 :: after =>
      match after with
      | 91 :: inside => do
        let (inside, after) ← set inside
        let previous := if position = 0 then 0 else (subject[position - 1]?).getD 0
        let next := (subject[position]?).getD 0
        if !inBrackets previous inside && inBrackets next inside then
          items deeper n position captures after
        else return none
      | _ => .error .missingFrontierSet
    | 37 :: b :: after =>
      if isDigit b then
        match if b == 48 then none else captures[b.toNat - 49]? with
        | some ⟨start, .length length⟩ =>
          let text := slice subject start length
          if slice subject position length = text ∧ position + length ≤ subject.size then
            items deeper n (position + length) captures after
          else return none
        | some ⟨_, .position⟩ => return none
        | _ => .error .invalidCapture
      else ordinary ()
    | _ => ordinary ()

/-- Matches a pattern with at most a depth of backtracking. -/
def matcher : Nat → Matcher
  | 0, _, _, _ => .error .tooComplex
  | n + 1, position, captures, pattern =>
    items subject (matcher n) (pattern.length + 1) position captures pattern

/-- A match: where it begins and ends, and its captures. -/
structure Match where
  start : Nat
  stop : Nat
  captures : List Capture

/-- The match of a pattern at a position. -/
def matchAt (pattern : Bytes) (position : Nat) : Except Fault (Option Match) := do
  let found ← matcher subject depthLimit position [] pattern
  return found.map fun (stop, captures) => ⟨position, stop, captures⟩

/-- The first match of a pattern from a position on. -/
def findFrom (pattern : Bytes) (anchored : Bool) : Nat → Nat → Except Fault (Option Match)
  | 0, _ => .ok none
  | n + 1, position => do
    match ← matchAt subject pattern position with
    | some m => return some m
    | none =>
      if anchored || position ≥ subject.size then return none
      else findFrom pattern anchored n (position + 1)

end

/-- What a capture holds. -/
inductive Captured where
  | text (t : Bytes)
  /-- A position, counted from 1. -/
  | position (n : Nat)

namespace Match

/-- The text of the whole match. -/
def text (subject : Array UInt8) (m : Match) : Bytes := slice subject m.start (m.stop - m.start)

/-- A capture, counted from 0; without captures the whole match is the first one. -/
def capture (subject : Array UInt8) (m : Match) (i : Nat) : Except Fault Captured :=
  match m.captures[i]? with
  | some ⟨start, .length n⟩ => .ok (.text (slice subject start n))
  | some ⟨start, .position⟩ => .ok (.position (start + 1))
  | some ⟨_, .unfinished⟩ => .error .unfinishedCapture
  | none => if i = 0 then .ok (.text (m.text subject)) else .error .invalidCapture

/-- All captures; with `whole`, the whole match where there are none. -/
def all (subject : Array UInt8) (m : Match) (whole : Bool) : Except Fault (List Captured) :=
  let count := if m.captures.isEmpty && whole then 1 else m.captures.length
  (List.range count).mapM (m.capture subject)

end Match

/-- Whether a pattern has a byte with a meaning of its own. -/
def isSpecial (pattern : Bytes) : Bool := pattern.any (bytes "^$*+?.([%-").contains

/-- The first place of a text in the subject from a position on. -/
def findPlain (subject text : Bytes) (position : Nat) : Option Nat :=
  go position (subject.drop position)
where
  /-- Looks at the rest of the subject. -/
  go (position : Nat) : Bytes → Option Nat
    | [] => if text.isEmpty then some position else none
    | b :: rest => if text.isPrefixOf (b :: rest) then some position else go (position + 1) rest

end Stencil.Lua.Pattern
