/-
  Lexemes of a chunk that is only partly known.

  * `ahead`: the first items of a chunk, the rest left as it is. It is the same as
    `lexemes` for every number of items, so a known beginning is read by evaluation;
  * `lexemes_newline`, `lexemes_comment`, `lexemes_name`, `lexemes_quoted`: the items whose size
    depends on a text that is not known.
-/
import Stencil.Proofs.Lua.Quoted

namespace Stencil.Lua.Token

open Text.Utf8

/-- The lexemes from a line on, the recursion unfolded for a number of items. -/
def ahead : Nat → Nat → Bytes → List Lexeme
  | 0, line, bytes => lexemes line bytes
  | _ + 1, line, [] => lexemes line []
  | n + 1, line, b :: rest =>
    match item b rest with
    | .blank size breaks => ahead n (line + breaks) (rest.drop size)
    | .token t near size breaks =>
      ⟨t, near, line + breaks⟩ :: ahead n (line + breaks) (rest.drop size)
    | .fault cause near breaks => [⟨.fault cause, near, line + breaks⟩]

theorem lexemes_eq_ahead (n line : Nat) (bytes : Bytes) : lexemes line bytes = ahead n line bytes := by
  induction n generalizing line bytes with
  | zero => rfl
  | succ n ih =>
    cases bytes with
    | nil => rfl
    | cons b rest =>
      rw [lexemes, ahead]
      cases item b rest with
      | blank size breaks => exact ih _ _
      | token t near size breaks => exact congrArg _ (ih _ _)
      | fault cause near breaks => rfl

/-! ## Items that end with what is not known -/

/-- A line feed ends a line, unless a carriage return belongs to it. -/
theorem lexemes_newline (line : Nat) {rest : Bytes} (h : rest.head? ≠ some 13) :
    lexemes line (10 :: rest) = lexemes (line + 1) rest := by
  have htail : breakTail 10 rest = 0 := by
    cases rest with
    | nil => rfl
    | cons b rest =>
      have hb : b ≠ 13 := by simpa using h
      simp only [breakTail, isBreak]
      by_cases hline : b = 10
      · simp [hline]
      · simp [hline, hb]
  rw [lexemes, show item 10 rest = .blank (breakTail 10 rest) 1 from rfl]
  simp [htail]

theorem lexemes_blanks (n line : Nat) (rest : Bytes) :
    lexemes line (List.replicate n 32 ++ rest) = lexemes line rest := by
  induction n with
  | zero => rfl
  | succ n ih =>
    rw [List.replicate_succ, List.cons_append]
    exact ((lexemes_eq_ahead 1 _ _).trans rfl).trans ih

/-- A short comment ends before the end of its line. -/
theorem lexemes_comment (line : Nat) {text rest : Bytes} (hopen : text.head? ≠ some 91)
    (h : ∀ b ∈ text, isBreak b = false) :
    lexemes line (45 :: 45 :: text ++ 10 :: rest) = lexemes line (10 :: rest) := by
  have htext : (text ++ 10 :: rest).takeWhile (!isBreak ·) = text := by
    rw [List.takeWhile_append_of_pos (by simpa using h)]
    simp [isBreak]
  have hshort : comment (text ++ 10 :: rest) = .blank (1 + text.length) 0 := by
    unfold comment
    simp only [htext]
    split
    · next after heq =>
      cases text with
      | nil => simp at heq
      | cons b text => simp_all
    · rfl
  rw [List.cons_append, lexemes, List.cons_append,
    show item 45 (45 :: (text ++ 10 :: rest)) = comment (text ++ 10 :: rest) from rfl, hshort]
  simp [Nat.add_comm 1]

/-- A name that is no reserved word ends before the first byte that no name has. -/
theorem lexemes_name (line : Nat) {b c : UInt8} {tail : Bytes} (rest : Bytes)
    (hstart : isDigit b = false ∧ isNameByte b = true) (htail : ∀ d ∈ tail, isNameByte d = true)
    (hstop : isNameByte c = false) (hreserved : reserved.contains (b :: tail) = false) :
    lexemes line (b :: tail ++ c :: rest) =
      ⟨.name (b :: tail), b :: tail, line⟩ :: lexemes line (c :: rest) := by
  have htaken : (tail ++ c :: rest).takeWhile isNameByte = tail := by
    rw [List.takeWhile_append_of_pos htail, List.takeWhile_cons, hstop]
    simp
  have hitem : item b (tail ++ c :: rest) = .token (.name (b :: tail)) (b :: tail) tail.length 0 := by
    unfold item
    simp only [hstart, htaken, hreserved, Bool.false_eq_true, if_false, if_true, List.length_cons,
      Nat.add_sub_cancel]
  rw [List.cons_append, lexemes, hitem]
  simp

/-- The written form of a text between quotes is one string. -/
theorem lexemes_quoted (line : Nat) (t : Text) (rest : Bytes) :
    lexemes line (34 :: (encode (quote t) ++ 34 :: rest)) =
      ⟨.string (encode t), 34 :: encode t ++ [34], line⟩ :: lexemes line rest := by
  have hitem : item 34 (encode (quote t) ++ 34 :: rest) =
      .token (.string (encode t)) (34 :: encode t ++ [34]) ((encode (quote t)).length + 1) 0 := by
    unfold item
    rw [quoted_quote]
    rfl
  rw [lexemes, hitem]
  simp [← List.drop_drop]

end Stencil.Lua.Token
