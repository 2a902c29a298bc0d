/-
  Reading back what was written as UTF-8, and what was written where a text is read.

  * `segments_encodeChar`: the bytes of a character are one segment, whatever follows;
  * `decodeLossy_encode`: a text comes back;
  * `Reads bytes parts`: bytes are those of characters and invalid parts (`reads_segments`);
  * `decode?_eq_some_iff`: bytes are well formed if they are those of a text;
  * `mem_decodeLossy_iff`, `encode_eq_append_cons`: an ASCII character is a byte of its own.
-/
import Mathlib.Data.List.Basic
import Stencil.Text.Utf8

namespace Stencil.Text.Utf8

@[simp] theorem encode_nil : encode [] = [] := rfl

@[simp] theorem encode_cons (c : Char) (t : Text) : encode (c :: t) = encodeChar c ++ encode t := rfl

@[simp] theorem encode_append (t u : Text) : encode (t ++ u) = encode t ++ encode u := by
  simp [encode]

theorem encode_flatten (texts : List Text) : encode texts.flatten = (texts.map encode).flatten := by
  induction texts with
  | nil => rfl
  | cons t rest ih => rw [List.flatten_cons, encode_append, ih, List.map_cons, List.flatten_cons]

/-! ## Bytes -/

theorem toNat_byte {n : Nat} (h : n < 256) : n.toUInt8.toNat = n := by
  simp [Nat.toUInt8, Nat.mod_eq_of_lt h]

theorem le_byte {b : UInt8} {n : Nat} (h : n < 256) : b ≤ n.toUInt8 ↔ b.toNat ≤ n := by
  rw [UInt8.le_iff_toNat_le, toNat_byte h]

theorem byte_le {b : UInt8} {n : Nat} (h : n < 256) : n.toUInt8 ≤ b ↔ n ≤ b.toNat := by
  rw [UInt8.le_iff_toNat_le, toNat_byte h]

theorem byte_lt {b : UInt8} {n : Nat} (h : n < 256) : n.toUInt8 < b ↔ n < b.toNat := by
  rw [UInt8.lt_iff_toNat_lt, toNat_byte h]

theorem byte_eq {b : UInt8} {n : Nat} (h : n < 256) : n.toUInt8 = b ↔ n = b.toNat := by
  rw [← UInt8.toNat_inj, toNat_byte h]

/-- A byte that continues a sequence. -/
theorem isTail_byte {n : Nat} (h : n < 64) : isTail (0x80 + n).toUInt8 = true := by
  have hn : 0x80 + n < 256 := by omega
  simp only [isTail, Bool.and_eq_true, decide_eq_true_eq, le_byte hn, byte_le hn]
  simp
  omega

theorem toNat_lt (c : Char) : c.toNat < 0x110000 := by
  have hvalid : c.toNat.isValidChar := c.valid
  rcases hvalid with h | h
  · omega
  · exact h.2

/-- What holds of the first characters, one by one, holds of each of them. -/
theorem forall_of_ofNat {b : Nat} {P : Char → Prop} (h : ∀ n < b, P (Char.ofNat n)) {c : Char}
    (hc : c.toNat < b) : P c := by
  have := h c.toNat hc
  rwa [Char.ofNat_toNat] at this

/-! ## Segments -/

theorem segments_one {a : UInt8} (ha : announced? a = some 1) (rest : Bytes) :
    segments (a :: rest) = some (Char.ofNat a.toNat) :: segments rest := by
  rw [segments.eq_def]
  simp only [ha]

theorem segments_two {a b : UInt8} (ha : announced? a = some 2) (hb : isTail b = true)
    (rest : Bytes) :
    segments (a :: b :: rest) =
      some (Char.ofNat ((a.toNat - 0xC0) * 64 + (b.toNat - 0x80))) :: segments rest := by
  rw [segments.eq_def]
  simp only [ha, hb, if_true]

theorem segments_three {a b c : UInt8} (ha : announced? a = some 3) (hb : isSecond a b = true)
    (hc : isTail c = true) (rest : Bytes) :
    segments (a :: b :: c :: rest) =
      some (Char.ofNat ((a.toNat - 0xE0) * 4096 + (b.toNat - 0x80) * 64 + (c.toNat - 0x80))) ::
        segments rest := by
  rw [segments.eq_def]
  simp only [ha, hb, hc, if_true]

theorem segments_four {a b c d : UInt8} (ha : announced? a = some 4) (hb : isSecond a b = true)
    (hc : isTail c = true) (hd : isTail d = true) (rest : Bytes) :
    segments (a :: b :: c :: d :: rest) =
      some (Char.ofNat ((a.toNat - 0xF0) * 262144 + (b.toNat - 0x80) * 4096 +
        (c.toNat - 0x80) * 64 + (d.toNat - 0x80))) :: segments rest := by
  rw [segments.eq_def]
  simp only [ha, hb, hc, hd, if_true]

theorem announced?_one {n : Nat} (h : n < 0x80) : announced? n.toUInt8 = some 1 := by
  have hn : n < 256 := by omega
  simp only [announced?, byte_lt hn]
  simp
  omega

theorem announced?_two {n : Nat} (h : 2 ≤ n) (h' : n < 32) :
    announced? (0xC0 + n).toUInt8 = some 2 := by
  have hn : 0xC0 + n < 256 := by omega
  simp only [announced?, byte_lt hn, byte_le hn, le_byte hn]
  rw [if_neg (by simp; omega), if_pos (by simp; omega)]

theorem announced?_three {n : Nat} (h : n < 16) : announced? (0xE0 + n).toUInt8 = some 3 := by
  have hn : 0xE0 + n < 256 := by omega
  simp only [announced?, byte_lt hn, byte_le hn, le_byte hn]
  rw [if_neg (by simp; omega), if_neg (by simp; omega), if_pos (by simp; omega)]

theorem announced?_four {n : Nat} (h : n < 5) : announced? (0xF0 + n).toUInt8 = some 4 := by
  have hn : 0xF0 + n < 256 := by omega
  simp only [announced?, byte_lt hn, byte_le hn, le_byte hn]
  rw [if_neg (by simp; omega), if_neg (by simp; omega), if_neg (by simp; omega),
    if_pos (by simp; omega)]

theorem isSecond_of_three {n : Nat} (h : 0x800 ≤ n) (hvalid : n.isValidChar) (h' : n < 0x10000) :
    isSecond (0xE0 + n / 4096).toUInt8 (0x80 + n / 64 % 64).toUInt8 = true := by
  have ha : 0xE0 + n / 4096 < 256 := by omega
  have hb : 0x80 + n / 64 % 64 < 256 := by omega
  have hv : n < 0xD800 ∨ 0xDFFF < n := by
    rcases hvalid with h | h
    · exact .inl h
    · exact .inr h.1
  simp only [isSecond, beq_iff_eq, byte_eq ha, byte_le hb, le_byte hb, isTail]
  split_ifs <;> simp_all <;> omega

theorem isSecond_of_four {n : Nat} (h : 0x10000 ≤ n) (h' : n < 0x110000) :
    isSecond (0xF0 + n / 262144).toUInt8 (0x80 + n / 4096 % 64).toUInt8 = true := by
  have ha : 0xF0 + n / 262144 < 256 := by omega
  have hb : 0x80 + n / 4096 % 64 < 256 := by omega
  simp only [isSecond, beq_iff_eq, byte_eq ha, byte_le hb, le_byte hb, isTail]
  split_ifs <;> simp_all <;> omega

theorem encodeChar_of_lt {c : Char} (h : c.toNat < 0x80) : encodeChar c = [c.toNat.toUInt8] := by
  rw [encodeChar, if_pos h]

/-- No byte of a character outside ASCII is one of ASCII. -/
theorem le_of_mem_encodeChar {c : Char} (h : 0x80 ≤ c.toNat) {b : UInt8} (hb : b ∈ encodeChar c) :
    0x80 ≤ b.toNat := by
  have hn := toNat_lt c
  have hbyte : ∀ {n : Nat}, b = n.toUInt8 → 0x80 ≤ n → n < 256 → 0x80 ≤ b.toNat := by
    rintro n rfl hle hlt
    rwa [toNat_byte hlt]
  unfold encodeChar at hb
  simp only at hb
  split_ifs at hb with h₁ h₂ h₃ <;>
    simp only [List.mem_cons, List.not_mem_nil, or_false] at hb
  · omega
  · rcases hb with hb | hb <;> exact hbyte hb (by omega) (by omega)
  · rcases hb with hb | hb | hb <;> exact hbyte hb (by omega) (by omega)
  · rcases hb with hb | hb | hb | hb <;> exact hbyte hb (by omega) (by omega)

/-- The bytes of a character are one segment, whatever follows. -/
theorem segments_encodeChar (c : Char) (rest : Bytes) :
    segments (encodeChar c ++ rest) = some c :: segments rest := by
  have hvalid : c.toNat.isValidChar := c.valid
  have hn := toNat_lt c
  -- The value that is read back is the number of the character in each of the four widths.
  have hread : ∀ {n : Nat}, n = c.toNat → some (Char.ofNat n) = some c := by
    rintro n rfl
    rw [Char.ofNat_toNat]
  by_cases h₁ : c.toNat < 0x80
  · rw [encodeChar_of_lt h₁]
    refine (segments_one (announced?_one h₁) rest).trans ?_
    rw [hread (toNat_byte (by omega))]
  by_cases h₂ : c.toNat < 0x800
  · simp only [encodeChar, if_neg h₁, if_pos h₂]
    refine (segments_two (announced?_two (by omega) (by omega))
      (isTail_byte (Nat.mod_lt _ (by decide))) rest).trans ?_
    rw [hread]
    rw [toNat_byte (by omega), toNat_byte (by omega)]
    omega
  by_cases h₃ : c.toNat < 0x10000
  · simp only [encodeChar, if_neg h₁, if_neg h₂, if_pos h₃]
    refine (segments_three (announced?_three (by omega))
      (isSecond_of_three (by omega) hvalid h₃) (isTail_byte (Nat.mod_lt _ (by decide)))
      rest).trans ?_
    rw [hread]
    rw [toNat_byte (by omega), toNat_byte (by omega), toNat_byte (by omega)]
    omega
  · simp only [encodeChar, if_neg h₁, if_neg h₂, if_neg h₃]
    refine (segments_four (announced?_four (by omega)) (isSecond_of_four (by omega) hn)
      (isTail_byte (Nat.mod_lt _ (by decide))) (isTail_byte (Nat.mod_lt _ (by decide)))
      rest).trans ?_
    rw [hread]
    rw [toNat_byte (by omega), toNat_byte (by omega), toNat_byte (by omega),
      toNat_byte (by omega)]
    omega

theorem segments_encode (t : Text) : segments (encode t) = t.map some := by
  induction t with
  | nil => rw [encode_nil, segments.eq_def, List.map_nil]
  | cons c t ih => rw [encode_cons, segments_encodeChar, ih, List.map_cons]

/-- **A text comes back from its bytes.** -/
@[simp] theorem decodeLossy_encode (t : Text) : decodeLossy (encode t) = t := by
  rw [decodeLossy, segments_encode, List.map_map]
  exact List.map_id t

theorem encode_injective : Function.Injective encode :=
  Function.LeftInverse.injective decodeLossy_encode

/-! ## What was read -/

theorem toNat_ofNat {n : Nat} (h : n.isValidChar) : (Char.ofNat n).toNat = n := by
  rw [Char.ofNat, dif_pos h]
  rfl

/-- What a first byte announces is told by its range. -/
theorem range_of_announced? {a : UInt8} {n : Nat} (h : announced? a = some n) :
    n = 1 ∧ a.toNat < 0x80 ∨ n = 2 ∧ 0xC2 ≤ a.toNat ∧ a.toNat ≤ 0xDF ∨
    n = 3 ∧ 0xE0 ≤ a.toNat ∧ a.toNat ≤ 0xEF ∨ n = 4 ∧ 0xF0 ≤ a.toNat ∧ a.toNat ≤ 0xF4 := by
  simp only [announced?, UInt8.lt_iff_toNat_lt, UInt8.le_iff_toNat_le, Bool.and_eq_true,
    decide_eq_true_eq] at h
  split_ifs at h <;> cases h <;> simp_all

theorem range_of_isTail {b : UInt8} (h : isTail b = true) : 0x80 ≤ b.toNat ∧ b.toNat ≤ 0xBF := by
  simpa [isTail, UInt8.le_iff_toNat_le] using h

/-- The second byte keeps the sequence from being longer than it need be, a surrogate, or too
    great. -/
theorem range_of_isSecond {a b : UInt8} (h : isSecond a b = true) :
    0x80 ≤ b.toNat ∧ b.toNat ≤ 0xBF ∧ (a.toNat = 0xE0 → 0xA0 ≤ b.toNat) ∧
    (a.toNat = 0xED → b.toNat ≤ 0x9F) ∧ (a.toNat = 0xF0 → 0x90 ≤ b.toNat) ∧
    (a.toNat = 0xF4 → b.toNat ≤ 0x8F) := by
  simp only [isSecond, isTail, beq_iff_eq, ← UInt8.toNat_inj, UInt8.le_iff_toNat_le] at h
  simp only [UInt8.reduceToNat] at h
  split_ifs at h <;> simp at h <;> omega

theorem eq_byte {b : UInt8} {n : Nat} (h : n = b.toNat) : n.toUInt8 = b := by
  rw [byte_eq (h ▸ b.toNat_lt), h]

theorem encodeChar_one {a : UInt8} (ha : announced? a = some 1) :
    encodeChar (Char.ofNat a.toNat) = [a] := by
  have := range_of_announced? ha
  have hn : (Char.ofNat a.toNat).toNat = a.toNat := toNat_ofNat (.inl (by omega))
  rw [encodeChar_of_lt (by omega), hn, eq_byte rfl]

theorem encodeChar_two {a b : UInt8} (ha : announced? a = some 2) (hb : isTail b = true) :
    encodeChar (Char.ofNat ((a.toNat - 0xC0) * 64 + (b.toNat - 0x80))) = [a, b] := by
  have := range_of_announced? ha
  have := range_of_isTail hb
  have hn := toNat_ofNat (n := (a.toNat - 0xC0) * 64 + (b.toNat - 0x80)) (.inl (by omega))
  rw [encodeChar, hn]
  rw [if_neg (by omega), if_pos (by omega), eq_byte (b := a) (by omega), eq_byte (b := b) (by omega)]

theorem encodeChar_three {a b c : UInt8} (ha : announced? a = some 3) (hb : isSecond a b = true)
    (hc : isTail c = true) :
    encodeChar (Char.ofNat ((a.toNat - 0xE0) * 4096 + (b.toNat - 0x80) * 64 +
      (c.toNat - 0x80))) = [a, b, c] := by
  have := range_of_announced? ha
  have := range_of_isSecond hb
  have := range_of_isTail hc
  have hvalid : ((a.toNat - 0xE0) * 4096 + (b.toNat - 0x80) * 64 + (c.toNat - 0x80)).isValidChar := by
    unfold Nat.isValidChar
    omega
  rw [encodeChar, toNat_ofNat hvalid]
  rw [if_neg (by omega), if_neg (by omega), if_pos (by omega), eq_byte (b := a) (by omega),
    eq_byte (b := b) (by omega), eq_byte (b := c) (by omega)]

theorem encodeChar_four {a b c d : UInt8} (ha : announced? a = some 4) (hb : isSecond a b = true)
    (hc : isTail c = true) (hd : isTail d = true) :
    encodeChar (Char.ofNat ((a.toNat - 0xF0) * 262144 + (b.toNat - 0x80) * 4096 +
      (c.toNat - 0x80) * 64 + (d.toNat - 0x80))) = [a, b, c, d] := by
  have := range_of_announced? ha
  have := range_of_isSecond hb
  have := range_of_isTail hc
  have := range_of_isTail hd
  have hvalid : ((a.toNat - 0xF0) * 262144 + (b.toNat - 0x80) * 4096 + (c.toNat - 0x80) * 64 +
      (d.toNat - 0x80)).isValidChar := by
    unfold Nat.isValidChar
    omega
  rw [encodeChar, toNat_ofNat hvalid]
  rw [if_neg (by omega), if_neg (by omega), if_neg (by omega), eq_byte (b := a) (by omega),
    eq_byte (b := b) (by omega), eq_byte (b := c) (by omega), eq_byte (b := d) (by omega)]

/-- No byte of an invalid part is one of ASCII. -/
def Foreign (part : Bytes) : Prop := ∀ b ∈ part, 0x80 ≤ b.toNat

theorem foreign_one {a : UInt8} (h : announced? a ≠ some 1) : Foreign [a] := by
  have hle : 0x80 ≤ a.toNat := by
    by_contra hlt
    refine h ?_
    have := announced?_one (Nat.lt_of_not_le hlt)
    rwa [eq_byte rfl] at this
  simpa [Foreign] using hle

theorem foreign_two {a b : UInt8} (h : announced? a ≠ some 1) (hb : isSecond a b = true) :
    Foreign [a, b] :=
  List.forall_mem_cons.2 ⟨foreign_one h _ List.mem_cons_self,
    List.forall_mem_singleton.2 (range_of_isSecond hb).1⟩

theorem foreign_three {a b c : UInt8} (h : announced? a ≠ some 1) (hb : isSecond a b = true)
    (hc : isTail c = true) : Foreign [a, b, c] :=
  List.forall_mem_append.2 ⟨foreign_two h hb, List.forall_mem_singleton.2 (range_of_isTail hc).1⟩

/-- Bytes are read as parts: a character for its bytes, nothing for bytes that are invalid. -/
inductive Reads : Bytes → List (Option Char) → Prop
  | nil : Reads [] []
  | char (c : Char) {rest parts} : Reads rest parts → Reads (encodeChar c ++ rest) (some c :: parts)
  | invalid {part rest parts} : Foreign part → Reads rest parts →
      Reads (part ++ rest) (none :: parts)

theorem Reads.of_encodeChar {c : Char} {first rest : Bytes} {parts : List (Option Char)}
    (h : encodeChar c = first) (hrest : Reads rest parts) : Reads (first ++ rest) (some c :: parts) :=
  h ▸ .char c hrest

/-- **The segments of bytes are what they are read as.** -/
theorem reads_segments (bytes : Bytes) : Reads bytes (segments bytes) := by
  fun_induction segments bytes with
  | case1 => exact .nil
  | case2 a rest ha ih => exact .invalid (foreign_one (by simp [ha])) ih
  | case3 a rest ha ih => exact .of_encodeChar (encodeChar_one ha) ih
  | case4 a ha b rest hb ih => exact .of_encodeChar (encodeChar_two ha hb) ih
  | case5 a ha b rest _ ih => exact .invalid (foreign_one (by simp [ha])) ih
  | case6 a ha => exact .invalid (foreign_one (by simp [ha])) .nil
  | case7 a ha b hb c rest hc ih => exact .of_encodeChar (encodeChar_three ha hb hc) ih
  | case8 a ha b hb c rest _ ih => exact .invalid (foreign_two (by simp [ha]) hb) ih
  | case9 a ha b hb => exact .invalid (foreign_two (by simp [ha]) hb) .nil
  | case10 a ha b rest _ ih => exact .invalid (foreign_one (by simp [ha])) ih
  | case11 a ha => exact .invalid (foreign_one (by simp [ha])) .nil
  | case12 a n h₁ h₂ h₃ ha b hb c hc d rest hd ih =>
    obtain rfl : n = 4 := by
      have hn : n ≠ 1 ∧ n ≠ 2 ∧ n ≠ 3 := ⟨h₁, h₂, h₃⟩
      have := range_of_announced? ha
      omega
    exact .of_encodeChar (encodeChar_four ha hb hc hd) ih
  | case13 a n h₁ _ _ ha b hb c hc d rest _ ih =>
    exact .invalid (foreign_three (by simpa [ha] using h₁) hb hc) ih
  | case14 a n h₁ _ _ ha b hb c hc =>
    exact .invalid (foreign_three (by simpa [ha] using h₁) hb hc) .nil
  | case15 a n h₁ _ _ ha b hb c rest _ ih =>
    exact .invalid (foreign_two (by simpa [ha] using h₁) hb) ih
  | case16 a n h₁ _ _ ha b hb => exact .invalid (foreign_two (by simpa [ha] using h₁) hb) .nil
  | case17 a n h₁ _ _ ha b rest _ ih => exact .invalid (foreign_one (by simpa [ha] using h₁)) ih
  | case18 a n h₁ _ _ ha => exact .invalid (foreign_one (by simpa [ha] using h₁)) .nil

theorem Reads.eq_encode {bytes : Bytes} {t : Text} (h : Reads bytes (t.map some)) :
    bytes = encode t := by
  induction t generalizing bytes with
  | nil => cases h with | nil => rfl
  | cons c t ih => cases h with | char _ hrest => rw [ih hrest, encode_cons]

theorem mapM_id_eq_some_iff {parts : List (Option Char)} {t : Text} :
    parts.mapM id = some t ↔ parts = t.map some := by
  induction parts generalizing t with
  | nil => cases t <;> simp
  | cons part parts ih =>
    rw [List.mapM_cons]
    simp only [id_eq, Option.bind_eq_bind, Option.bind_eq_some_iff, Option.pure_def,
      Option.some.injEq, ih]
    constructor
    · rintro ⟨c, rfl, t, rfl, rfl⟩
      rfl
    · cases t with
      | nil => intro h; cases h
      | cons c t =>
        intro h
        obtain ⟨rfl, rfl⟩ := List.cons.inj h
        exact ⟨c, rfl, t, rfl, rfl⟩

/-- **Bytes are well formed if and only if they are those of a text.** -/
theorem decode?_eq_some_iff {bytes : Bytes} {t : Text} :
    decode? bytes = some t ↔ bytes = encode t := by
  rw [decode?, mapM_id_eq_some_iff]
  constructor
  · intro h
    exact (h ▸ reads_segments bytes).eq_encode
  · rintro rfl
    exact segments_encode t

/-- The bytes of a text are well formed. -/
@[simp] theorem decode?_encode (t : Text) : decode? (encode t) = some t :=
  decode?_eq_some_iff.2 rfl

/-! ## ASCII characters -/

/-- An ASCII character has a byte of its own, which no other character has. -/
theorem mem_encodeChar_iff {c d : Char} (hc : c.toNat < 0x80) :
    c.toNat.toUInt8 ∈ encodeChar d ↔ d = c := by
  have hbyte : c.toNat.toUInt8.toNat = c.toNat := toNat_byte (by omega)
  constructor
  · intro h
    by_cases hd : d.toNat < 0x80
    · rw [encodeChar_of_lt hd, List.mem_singleton, ← UInt8.toNat_inj, hbyte,
        toNat_byte (by omega)] at h
      rw [← Char.ofNat_toNat d, ← h, Char.ofNat_toNat]
    · have := le_of_mem_encodeChar (Nat.le_of_not_lt hd) h
      omega
  · rintro rfl
    rw [encodeChar_of_lt hc]
    exact List.mem_cons_self

theorem Reads.mem_iff {bytes : Bytes} {parts : List (Option Char)} (h : Reads bytes parts) {c : Char}
    (hc : c.toNat < 0x80) : some c ∈ parts ↔ c.toNat.toUInt8 ∈ bytes := by
  induction h with
  | nil => simp
  | char d _ ih =>
    rw [List.mem_cons, List.mem_append, ih, mem_encodeChar_iff hc, Option.some.injEq, eq_comm]
  | @invalid part _ _ hpart _ ih =>
    have hnone : c.toNat.toUInt8 ∉ part := by
      intro hmem
      have := hpart _ hmem
      rw [toNat_byte (by omega)] at this
      omega
    simp [ih, hnone]

/-- **The ASCII characters of bytes that are printed are their own bytes.** -/
theorem mem_decodeLossy_iff {c : Char} (hc : c.toNat < 0x80) {bytes : Bytes} :
    c ∈ decodeLossy bytes ↔ c.toNat.toUInt8 ∈ bytes := by
  rw [← (reads_segments bytes).mem_iff hc, decodeLossy, List.mem_map]
  constructor
  · rintro ⟨part, hpart, rfl⟩
    cases part with
    | none => exact absurd hc (by decide)
    | some d => exact hpart
  · intro h
    exact ⟨some c, h, rfl⟩

theorem mem_encode_iff {c : Char} (hc : c.toNat < 0x80) {t : Text} :
    c.toNat.toUInt8 ∈ encode t ↔ c ∈ t := by
  simp [encode, mem_encodeChar_iff hc]

/-- **What stands before and behind the byte of an ASCII character are texts.** -/
theorem encode_eq_append_cons {c : Char} (hc : c.toNat < 0x80) {t : Text} {before behind : Bytes}
    (h : encode t = before ++ c.toNat.toUInt8 :: behind) :
    ∃ u v, t = u ++ c :: v ∧ before = encode u ∧ behind = encode v := by
  induction t generalizing before with
  | nil => simp at h
  | cons d t ih =>
    rw [encode_cons, List.append_eq_append_iff] at h
    rcases h with ⟨rest, rfl, hrest⟩ | ⟨rest, hd, hrest⟩
    · obtain ⟨u, v, rfl, rfl, rfl⟩ := ih hrest
      exact ⟨d :: u, v, rfl, rfl, rfl⟩
    · cases rest with
      | nil =>
        have hstart : encode t = [] ++ c.toNat.toUInt8 :: behind := hrest.symm
        obtain ⟨u, v, rfl, hu, rfl⟩ := ih hstart
        obtain rfl : [] = u := encode_injective hu
        exact ⟨[d], v, rfl, by simpa using hd.symm, rfl⟩
      | cons a rest =>
        obtain ⟨rfl, rfl⟩ := List.cons.inj hrest
        obtain rfl := (mem_encodeChar_iff hc).1 (hd ▸ List.mem_append_right before List.mem_cons_self)
        rw [encodeChar_of_lt hc] at hd
        cases before with
        | nil =>
          obtain rfl := (List.cons.inj hd).2
          exact ⟨[], t, rfl, rfl, rfl⟩
        | cons => simp at hd

end Stencil.Text.Utf8
