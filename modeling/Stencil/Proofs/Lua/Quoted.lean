/-
  Reading back double-quoted strings.

  * `StandsFor written content`: inside a double-quoted string, `written` is read as
    `content`, whatever follows it; so what stands side by side is read side by side;
  * `standsFor_quote`: the written form of a text stands for the bytes of the text;
  * `quoted_quote`: it is read up to the closing quote, and no further.
-/
import Stencil.Lua.Quoted
import Stencil.Lua.Token
import Stencil.Proofs.Text.Utf8

namespace Stencil.Lua.Token

open Text.Utf8

/-- Inside a double-quoted string, `written` is read as `content`. -/
def StandsFor (written content : Bytes) : Prop :=
  ∀ (rest : Bytes) (body : Body), quoted 34 rest = .ok body →
    quoted 34 (written ++ rest) =
      .ok ⟨content ++ body.content, written.length + body.size, body.breaks⟩

namespace StandsFor

theorem nil : StandsFor [] [] := by
  intro rest body h
  simpa using h

theorem append {w₁ c₁ w₂ c₂ : Bytes} (h₁ : StandsFor w₁ c₁) (h₂ : StandsFor w₂ c₂) :
    StandsFor (w₁ ++ w₂) (c₁ ++ c₂) := by
  intro rest body h
  rw [List.append_assoc, h₁ _ _ (h₂ _ _ h)]
  simp [Nat.add_assoc]

/-- A byte that has no meaning of its own stands for itself. -/
theorem byte {b : UInt8} (hquote : b ≠ 34) (hbreak : isBreak b = false) (hslash : b ≠ 92) :
    StandsFor [b] [b] := by
  intro rest body h
  rw [List.singleton_append, quoted]
  simp [hquote, hbreak, hslash, h]

/-- Bytes that have no meaning of their own stand for themselves. -/
theorem plain {w : Bytes} (h : ∀ b ∈ w, b ≠ 34 ∧ isBreak b = false ∧ b ≠ 92) : StandsFor w w := by
  induction w with
  | nil => exact nil
  | cons b w ih =>
    obtain ⟨hquote, hbreak, hslash⟩ := h b List.mem_cons_self
    exact (byte hquote hbreak hslash).append (ih fun c hc => h c (List.mem_cons_of_mem b hc))

/-- An escape sequence stands for its content. -/
theorem escape {w content : Bytes}
    (he : ∀ rest, escape? (w ++ rest) = some ⟨content, w.length, 0⟩) :
    StandsFor (92 :: w) content := by
  intro rest body h
  rw [List.cons_append, quoted]
  simp [he, h, isBreak]
  omega

end StandsFor

/-! ## The escapes of a text -/

/-- One letter after the backslash. -/
theorem standsFor_letter {b c : UInt8} (h : letterEscape? b = some c) :
    StandsFor [92, b] [c] := by
  apply StandsFor.escape
  intro rest
  simp [escape?, h]

/-- The byte of a decimal digit. -/
def digitByte (n : Nat) : UInt8 := (48 + n % 10).toUInt8

theorem encode_threeDigits : ∀ n < 128, encode (threeDigits n) =
    [digitByte (n / 100), digitByte (n / 10), digitByte n] := by
  decide

theorem isDigit_digitByte (n : Nat) : isDigit (digitByte n) = true := by
  have h : ∀ k < 10, isDigit (48 + k).toUInt8 = true := by decide
  exact h _ (Nat.mod_lt n (by decide))

theorem escape?_digitByte (n : Nat) (rest : Bytes) :
    escape? (digitByte n :: rest) = decimalEscape (digitByte n) rest := by
  have h : ∀ k < 10, letterEscape? (48 + k).toUInt8 = none ∧ isBreak (48 + k).toUInt8 = false := by
    decide
  obtain ⟨hletter, hbreak⟩ := h _ (Nat.mod_lt n (by decide))
  unfold escape?
  simp only [show letterEscape? (digitByte n) = none from hletter,
    show isBreak (digitByte n) = false from hbreak, isDigit_digitByte]
  rfl

/-- All three digits belong to a decimal escape, so a digit behind it does not. -/
theorem standsFor_threeDigits {n : Nat} (h : n < 128) :
    StandsFor (92 :: encode (threeDigits n)) [n.toUInt8] := by
  apply StandsFor.escape
  intro rest
  have hvalue : ∀ n < 128, (((0 * 10 + ((digitByte (n / 100)).toNat - 48)) * 10 +
      ((digitByte (n / 10)).toNat - 48)) * 10 + ((digitByte n).toNat - 48)) = n := by decide
  rw [encode_threeDigits n h, List.cons_append, escape?_digitByte, decimalEscape]
  simp only [List.cons_append, List.nil_append, List.take_succ_cons, List.take_zero,
    List.takeWhile_cons, isDigit_digitByte, if_true, List.takeWhile_nil, List.foldl_cons,
    List.foldl_nil, hvalue n h, List.length_cons, List.length_nil]
  rw [if_neg (by omega)]

/-- A character outside ASCII has no meaning of its own. -/
theorem standsFor_encodeChar_of_le {c : Char} (h : 128 ≤ c.toNat) :
    StandsFor (encodeChar c) (encodeChar c) := by
  refine StandsFor.plain fun b hb => ?_
  have hb : 128 ≤ b.toNat := le_of_mem_encodeChar h hb
  refine ⟨?_, ?_, ?_⟩
  · rintro rfl; exact absurd hb (by decide)
  · simp only [isBreak, Bool.or_eq_false_iff, beq_eq_false_iff_ne]
    constructor <;> · rintro rfl; exact absurd hb (by decide)
  · rintro rfl; exact absurd hb (by decide)

/-! ## Texts -/

theorem lt_of_isControl {c : Char} (h : isControl c = true) : c.toNat < 128 := by
  simp only [isControl, Bool.or_eq_true, decide_eq_true_eq, beq_iff_eq] at h
  omega

/-- The written form of a character stands for its bytes. -/
theorem standsFor_quoteChar (c : Char) : StandsFor (encode (quoteChar c)) (encodeChar c) := by
  unfold quoteChar
  split_ifs with hslash hquote hline hreturn htab hcontrol
  · subst hslash; exact standsFor_letter (by decide)
  · subst hquote; exact standsFor_letter (by decide)
  · subst hline; exact standsFor_letter (by decide)
  · subst hreturn; exact standsFor_letter (by decide)
  · subst htab; exact standsFor_letter (by decide)
  · have hc := lt_of_isControl hcontrol
    have h := standsFor_threeDigits hc
    rwa [← encodeChar_of_lt hc] at h
  · rw [encode_cons, encode_nil, List.append_nil]
    by_cases hc : c.toNat < 128
    · rw [encodeChar_of_lt hc]
      have hc' : c.toNat < 256 := by omega
      apply StandsFor.byte
      · rw [ne_eq, byte_eq hc']
        rintro h
        exact hquote (Char.toNat_inj.1 h)
      · simp only [isBreak, Bool.or_eq_false_iff, beq_eq_false_iff_ne, ne_eq, byte_eq hc']
        exact ⟨fun h => hline (Char.toNat_inj.1 h), fun h => hreturn (Char.toNat_inj.1 h)⟩
      · rw [ne_eq, byte_eq hc']
        exact fun h => hslash (Char.toNat_inj.1 h)
    · exact standsFor_encodeChar_of_le (Nat.le_of_not_lt hc)

/-- The written form of a text stands for the bytes of the text. -/
theorem standsFor_quote (t : Text) : StandsFor (encode (quote t)) (encode t) := by
  induction t with
  | nil => exact StandsFor.nil
  | cons c t ih =>
    rw [show quote (c :: t) = quoteChar c ++ quote t from rfl, encode_append, encode_cons]
    exact (standsFor_quoteChar c).append ih

/-- **A written text is read up to its closing quote, and gives its bytes.** -/
theorem quoted_quote (t : Text) (rest : Bytes) :
    quoted 34 (encode (quote t) ++ 34 :: rest) =
      .ok ⟨encode t, (encode (quote t)).length + 1, 0⟩ := by
  have hend : quoted 34 (34 :: rest) = .ok ⟨[], 1, 0⟩ := by
    rw [quoted]
    rfl
  rw [standsFor_quote t _ _ hend, List.append_nil]

end Stencil.Lua.Token
