/-
  Escaped text as a text.

  * `unquote t`: the content of a double-quoted string, its opening quote read, and the text
    behind its closing quote. The rules are those for texts: a backslash stands before itself,
    a quote, one of three letters, or up to three decimal digits, of which as many belong to it
    as there are;
  * `Unquotes written content`: in front of any text, `written` is read as `content` and nothing
    of the text behind it.

  Main statement: `quote_lossless`.
-/
import Stencil.Proofs.Lua.Quoted
import Stencil.Proofs.Token.EscapeRun

namespace Stencil.Lua

open Text.Utf8
open Stencil.Lua.Token (lt_of_isControl)
open Stencil.Token (trailing trailing_append_cons trailing_replicate)

/-! ## Reading -/

/-- The character of a letter or mark behind a backslash. -/
def letter? (c : Char) : Option Char :=
  if c = '\\' ∨ c = '"' then some c
  else if c = 'n' then some '\n'
  else if c = 'r' then some '\r'
  else if c = 't' then some '\t'
  else none

/-- The decimal digits at the start of a text, at most three. -/
def codeDigits (t : Text) : Text := (t.take 3).takeWhile Char.isDigit

/-- The character of a decimal code, and what follows its digits. A code outside ASCII is not a
    character of its own. -/
def decimal? (t : Text) : Option (Char × Text) :=
  if codeDigits t = [] ∨ 128 ≤ Nat.ofDigitChars 10 (codeDigits t) 0 then none
  else some (Char.ofNat (Nat.ofDigitChars 10 (codeDigits t) 0), t.drop (codeDigits t).length)

/-- The character of an escape sequence behind its backslash, and what follows the sequence. -/
def unescape? : Text → Option (Char × Text)
  | [] => none
  | c :: rest =>
    match letter? c with
    | some d => some (d, rest)
    | none => decimal? (c :: rest)

theorem length_le_of_unescape? {t rest : Text} {c : Char} (h : unescape? t = some (c, rest)) :
    rest.length ≤ t.length := by
  unfold unescape? at h
  split at h
  · cases h
  · split at h
    · cases h
      simp
    · unfold decimal? at h
      split at h
      · cases h
      · cases h
        simp

/-- Reads the inside of a double-quoted string up to its closing quote: its content, and what
    follows the quote. A line break ends no string. -/
def unquote (t : Text) : Option (Text × Text) :=
  match t with
  | [] => none
  | c :: rest =>
    if c = '"' then some ([], rest)
    else if c = '\n' ∨ c = '\r' then none
    else if c = '\\' then
      match _h : unescape? rest with
      | none => none
      | some (d, behind) => (unquote behind).map fun (content, final) => (d :: content, final)
    else (unquote rest).map fun (content, final) => (c :: content, final)
termination_by t.length
decreasing_by
  · have := length_le_of_unescape? _h
    simp only [List.length_cons]
    omega
  · simp

/-- In front of any text, `written` is read as `content`, and what is behind it as if it stood
    alone. -/
def Unquotes (written content : Text) : Prop :=
  ∀ behind, unquote (written ++ behind) =
    (unquote behind).map fun (t, final) => (content ++ t, final)

namespace Unquotes

theorem nil : Unquotes [] [] := by
  intro behind
  simp

theorem append {w₁ t₁ w₂ t₂ : Text} (h₁ : Unquotes w₁ t₁) (h₂ : Unquotes w₂ t₂) :
    Unquotes (w₁ ++ w₂) (t₁ ++ t₂) := by
  intro behind
  rw [List.append_assoc, h₁, h₂, Option.map_map]
  simp [Function.comp_def]

/-- A character without a meaning of its own stands for itself. -/
theorem plain {c : Char} (hquote : c ≠ '"') (hbreak : c ≠ '\n' ∧ c ≠ '\r') (hslash : c ≠ '\\') :
    Unquotes [c] [c] := by
  intro behind
  rw [List.singleton_append, unquote, if_neg hquote, if_neg (by simp [hbreak]), if_neg hslash]
  rfl

/-- An escape sequence whose extent does not depend on what follows it. -/
theorem escape {w : Text} {c : Char} (h : ∀ behind, unescape? (w ++ behind) = some (c, behind)) :
    Unquotes ('\\' :: w) [c] := by
  intro behind
  rw [List.cons_append, unquote, if_neg (by decide), if_neg (by decide), if_pos rfl]
  split
  · next hnone =>
    rw [h] at hnone
    cases hnone
  · next d final hsome =>
    rw [h] at hsome
    cases hsome
    rfl

theorem letter {c d : Char} (h : letter? c = some d) : Unquotes ['\\', c] [d] := by
  refine escape fun behind => ?_
  rw [List.singleton_append, unescape?, h]

/-- The three digits of a control character take no digit behind them for their own. -/
theorem digits {n : Nat} (h : n < 128) : Unquotes ('\\' :: threeDigits n) [Char.ofNat n] := by
  refine escape fun behind => ?_
  have hdigits : ∀ n < 128, letter? (Nat.digitChar (n / 100 % 10)) = none ∧
      (threeDigits n).takeWhile Char.isDigit = threeDigits n ∧
      Nat.ofDigitChars 10 (threeDigits n) 0 = n := by decide
  obtain ⟨hletter, hall, hcode⟩ := hdigits n h
  have htaken : codeDigits (threeDigits n ++ behind) = threeDigits n := hall
  have hdecimal : unescape? (threeDigits n ++ behind) = decimal? (threeDigits n ++ behind) := by
    simp only [threeDigits, List.cons_append, unescape?, hletter]
  rw [hdecimal, decimal?, htaken, hcode, List.drop_left, if_neg]
  rintro (hempty | hlarge)
  · exact List.cons_ne_nil _ _ hempty
  · omega

end Unquotes

/-! ## Quoted text -/

theorem quote_append (s t : Text) : quote (s ++ t) = quote s ++ quote t := List.flatMap_append

/-- The written form of a character is read as the character. -/
theorem unquotes_quoteChar (c : Char) : Unquotes (quoteChar c) [c] := by
  unfold quoteChar
  split_ifs with hslash hquote hline hreturn htab hcontrol
  · subst hslash; exact .letter rfl
  · subst hquote; exact .letter rfl
  · subst hline; exact .letter rfl
  · subst hreturn; exact .letter rfl
  · subst htab; exact .letter rfl
  · have h := Unquotes.digits (lt_of_isControl hcontrol)
    rwa [Char.ofNat_toNat] at h
  · exact .plain hquote ⟨hline, hreturn⟩ hslash

theorem unquotes_quote (s : Text) : Unquotes (quote s) s := by
  induction s with
  | nil => exact .nil
  | cons c s ih => exact (unquotes_quoteChar c).append ih

theorem isControl_of_mem_quoteChar {c d : Char} (h : d ∈ quoteChar c) : isControl d = false := by
  have hletter : ∀ {e : Char}, isControl e = false → d ∈ ['\\', e] → isControl d = false := by
    intro e he hd
    rcases List.mem_cons.1 hd with rfl | hd
    · decide
    · rwa [List.mem_singleton.1 hd]
  have hdigits : ∀ n < 128, ('\\' :: threeDigits n).all (!isControl ·) = true := by decide
  unfold quoteChar at h
  split_ifs at h with hslash hquote hline hreturn htab hcontrol
  · exact hletter (by decide) h
  · exact hletter (by decide) h
  · exact hletter (by decide) h
  · exact hletter (by decide) h
  · exact hletter (by decide) h
  · have := List.all_eq_true.1 (hdigits c.toNat (lt_of_isControl hcontrol)) d h
    rwa [Bool.not_eq_true'] at this
  · rw [List.mem_singleton.1 h]
    simpa using hcontrol

/-! ## Quotes -/

/-- The only quote in the written form of a character stands directly behind a backslash. -/
theorem eq_of_quoteChar_eq {c : Char} {before behind : Text}
    (h : quoteChar c = before ++ '"' :: behind) : before = ['\\'] := by
  have hmem : '"' ∈ quoteChar c := by simp [h]
  have hc : c = '"' := by
    by_contra hc
    unfold quoteChar at hmem
    split_ifs at hmem with hslash hline hreturn htab hcontrol
    any_goals (revert hmem; decide)
    · have hdigits : ∀ n < 128, '"' ∉ '\\' :: threeDigits n := by decide
      exact hdigits c.toNat (lt_of_isControl hcontrol) hmem
    · exact hc (List.mem_singleton.1 hmem).symm
  subst hc
  rw [show quoteChar '"' = ['\\', '"'] from rfl] at h
  rcases before with _ | ⟨a, _ | ⟨b, before⟩⟩
  · simp at h
  · simp only [List.cons_append, List.nil_append, List.cons.injEq] at h
    rw [h.1]
  · simp at h

theorem trailing_quoteChar (c : Char) : trailing (quoteChar c) % 2 = 0 := by
  have hdigits : ∀ n < 128, trailing ('\\' :: threeDigits n) % 2 = 0 := by decide
  unfold quoteChar
  split_ifs with hslash hquote hline hreturn htab hcontrol
  any_goals decide
  · exact hdigits c.toNat (lt_of_isControl hcontrol)
  · rw [← List.nil_append [c], trailing_append_cons hslash]
    rfl

/-- An even run of backslashes in front does not change the parity of the run at the end. -/
theorem trailing_append_mod {t : Text} (h : trailing t % 2 = 0) (u : Text) :
    trailing (t ++ u) % 2 = trailing u % 2 := by
  by_cases hu : ∃ c ∈ u, c ≠ '\\'
  · obtain ⟨c, hc, hslash⟩ := hu
    obtain ⟨u₁, u₂, rfl⟩ := List.append_of_mem hc
    rw [← List.append_assoc, trailing_append_cons hslash, trailing_append_cons hslash]
  · -- the two runs are one
    have hall : u = List.replicate u.length '\\' :=
      List.eq_replicate_iff.2 ⟨rfl, fun c hc => by_contra fun h => hu ⟨c, hc, h⟩⟩
    have hsum : trailing (t ++ u) = u.length + trailing t := by
      rw [hall, trailing, List.reverse_append, List.reverse_replicate, Stencil.Token.escapes,
        List.takeWhile_append_of_pos (by simp)]
      simp [trailing, Stencil.Token.escapes]
    have hrun : trailing u = u.length := by
      rw [hall, trailing_replicate, List.length_replicate]
    omega

/-- Every quote in a quoted text stands directly behind an odd number of backslashes. -/
theorem odd_trailing_of_quote_eq {s before behind : Text} (h : quote s = before ++ '"' :: behind) :
    trailing before % 2 = 1 := by
  induction s generalizing before with
  | nil => simp [quote] at h
  | cons c s ih =>
    rw [show quote (c :: s) = quoteChar c ++ quote s from rfl] at h
    rcases List.append_eq_append_iff.1 h with ⟨inner, rfl, hs⟩ | ⟨_ | ⟨d, rest⟩, hc, hs⟩
    · rw [trailing_append_mod (trailing_quoteChar c)]
      exact ih hs
    · rw [List.append_nil] at hc
      rw [← hc, ← List.append_nil (quoteChar c), trailing_append_mod (trailing_quoteChar c)]
      exact ih hs.symm
    · obtain ⟨rfl, rfl⟩ := List.cons.inj hs
      rw [eq_of_quoteChar_eq hc]
      rfl

/-- **Quoted text is loss-free and closed.**  It holds no control characters, and every quote in it
    is escaped; up to the closing quote it is read back as the text, by the rules for texts as well
    as by the bytes of a program. Quoting goes character by character, and whatever follows a quoted
    text, no escape sequence of it takes characters of what follows. -/
theorem quote_lossless (s : Text) :
    (∀ c ∈ quote s, isControl c = false) ∧
    (∀ before behind, quote s = before ++ '"' :: behind → trailing before % 2 = 1) ∧
    (∀ rest, unquote (quote s ++ '"' :: rest) = some (s, rest)) ∧
    (∀ rest, Token.quoted 34 (encode (quote s) ++ 34 :: rest) =
      .ok ⟨encode s, (encode (quote s)).length + 1, 0⟩) ∧
    (∀ t, quote (s ++ t) = quote s ++ quote t) ∧
    ∀ behind, unquote (quote s ++ behind) =
      (unquote behind).map fun (t, rest) => (s ++ t, rest) := by
  refine ⟨fun c hc => ?_, fun _ _ h => odd_trailing_of_quote_eq h, fun rest => ?_,
    Token.quoted_quote s, quote_append s, unquotes_quote s⟩
  · obtain ⟨d, -, hd⟩ := List.mem_flatMap.1 hc
    exact isControl_of_mem_quoteChar hd
  · rw [unquotes_quote s, unquote, if_pos rfl]
    simp

end Stencil.Lua
