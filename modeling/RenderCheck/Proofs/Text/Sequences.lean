import RenderCheck.Text.Utf8

/-! # The sequences of characters

    The bytes of each character are a sequence of one of four lengths: a byte that
    leads, and bytes that continue. The ranges of the bytes that may stand in each
    place leave exactly the sequences of characters.

    * **Bytes** by their ranges.
    * **Sequences** of characters (`IsSequence`) are what the encoder writes
      (`isSequence_iff`), and what bytes encode a text is the usual notion
      (`toByteArray_encode`). -/

namespace RenderCheck.Text

/-! ## Bytes -/

theorem toNat_toUInt8 {n : Nat} (h : n < 256) : n.toUInt8.toNat = n := by
  rw [Nat.toUInt8, UInt8.toNat_ofNat', Nat.mod_eq_of_lt h]

theorem isContinuation_iff {b : UInt8} :
    isContinuation b = true ↔ 0x80 ≤ b.toNat ∧ b.toNat ≤ 0xBF := by
  simp only [isContinuation, Bool.and_eq_true, decide_eq_true_eq, UInt8.le_iff_toNat_le]
  exact Iff.rfl

theorem mayFollow_iff {lead b : UInt8} : mayFollow lead b = true ↔ isContinuation b = true ∧
    (lead.toNat = 0xE0 → 0xA0 ≤ b.toNat) ∧ (lead.toNat = 0xED → b.toNat ≤ 0x9F) ∧
    (lead.toNat = 0xF0 → 0x90 ≤ b.toNat) ∧ (lead.toNat = 0xF4 → b.toNat ≤ 0x8F) := by
  rw [isContinuation_iff]
  unfold mayFollow isContinuation
  simp only [← UInt8.toNat_inj, UInt8.reduceToNat]
  -- a case for each lead byte with a range of its own
  repeat' split
  all_goals
    simp only [Bool.and_eq_true, decide_eq_true_eq, UInt8.le_iff_toNat_le, UInt8.reduceToNat]
    omega

theorem sequenceLength_cases (lead : UInt8) :
    (sequenceLength lead = 1 ∧ lead.toNat < 0x80) ∨
    (sequenceLength lead = 0 ∧ (0x80 ≤ lead.toNat ∧ lead.toNat < 0xC2 ∨ 0xF5 ≤ lead.toNat)) ∨
    (sequenceLength lead = 2 ∧ 0xC2 ≤ lead.toNat ∧ lead.toNat < 0xE0) ∨
    (sequenceLength lead = 3 ∧ 0xE0 ≤ lead.toNat ∧ lead.toNat < 0xF0) ∨
    (sequenceLength lead = 4 ∧ 0xF0 ≤ lead.toNat ∧ lead.toNat < 0xF5) := by
  unfold sequenceLength
  simp only [UInt8.lt_iff_toNat_lt, UInt8.reduceToNat]
  split
  · omega
  split
  · omega
  split
  · omega
  split
  · omega
  split <;> omega

theorem toByteArray_encode (text : List Char) : (encode text).toByteArray = text.utf8Encode := by
  have hchar (c : Char) : encodeChar c = String.utf8EncodeChar c := by
    have hrange : c.toNat < 0x110000 := by
      rcases c.valid with h | h
      · exact Nat.lt_trans h (by decide)
      · exact h.2
    have hnumber : c.val.toNat = c.toNat := rfl
    unfold encodeChar String.utf8EncodeChar
    simp only [hnumber]
    repeat' split
    · rfl
    all_goals
      simp only [List.cons.injEq, ← UInt8.toNat_inj, Nat.toUInt8, UInt8.toNat_ofNat', and_true]
      omega
  rw [List.utf8Encode, encode, funext hchar]

/-! ## Sequences -/

/-- Bytes are the sequence of a character. -/
inductive IsSequence : List UInt8 → Char → Prop where
  | one {lead : UInt8} : sequenceLength lead = 1 → IsSequence [lead] (Char.ofNat lead.toNat)
  | two {lead b : UInt8} : sequenceLength lead = 2 → isContinuation b = true →
    IsSequence [lead, b] (Char.ofNat (lead.toNat % 0x20 * 0x40 + payload b))
  | three {lead b c : UInt8} : sequenceLength lead = 3 → mayFollow lead b = true →
    isContinuation c = true →
    IsSequence [lead, b, c]
      (Char.ofNat (lead.toNat % 0x10 * 0x1000 + payload b * 0x40 + payload c))
  | four {lead b c d : UInt8} : sequenceLength lead = 4 → mayFollow lead b = true →
    isContinuation c = true → isContinuation d = true →
    IsSequence [lead, b, c, d]
      (Char.ofNat (lead.toNat % 0x08 * 0x40000 + payload b * 0x1000 + payload c * 0x40 + payload d))

theorem toNat_ofNat {n : Nat} (h : n < 0xD800 ∨ 0xDFFF < n ∧ n < 0x110000) :
    (Char.ofNat n).toNat = n := by
  have hvalid : n.isValidChar := h
  rw [Char.ofNat, dif_pos hvalid]
  rfl

section Encoder

variable {n : Nat}

theorem encodeChar_one (hmost : n < 0x80) : encodeChar (Char.ofNat n) = [n.toUInt8] := by
  have hvalue : (Char.ofNat n).toNat = n := toNat_ofNat (.inl (by omega))
  unfold encodeChar
  simp only [hvalue]
  rw [if_pos hmost]

theorem encodeChar_two (hleast : 0x80 ≤ n) (hmost : n < 0x800) :
    encodeChar (Char.ofNat n) = [(0xC0 + n / 0x40).toUInt8, (0x80 + n % 0x40).toUInt8] := by
  have hvalue : (Char.ofNat n).toNat = n := toNat_ofNat (.inl (by omega))
  unfold encodeChar
  simp only [hvalue]
  rw [if_neg (by omega), if_pos hmost]

theorem encodeChar_three (hleast : 0x800 ≤ n) (hmost : n < 0x10000)
    (hgap : n < 0xD800 ∨ 0xDFFF < n) :
    encodeChar (Char.ofNat n) = [(0xE0 + n / 0x1000).toUInt8, (0x80 + n / 0x40 % 0x40).toUInt8,
      (0x80 + n % 0x40).toUInt8] := by
  have hvalue : (Char.ofNat n).toNat = n := toNat_ofNat (by omega)
  unfold encodeChar
  simp only [hvalue]
  rw [if_neg (by omega), if_neg (by omega), if_pos hmost]

theorem encodeChar_four (hleast : 0x10000 ≤ n) (hmost : n < 0x110000) :
    encodeChar (Char.ofNat n) = [(0xF0 + n / 0x40000).toUInt8, (0x80 + n / 0x1000 % 0x40).toUInt8,
      (0x80 + n / 0x40 % 0x40).toUInt8, (0x80 + n % 0x40).toUInt8] := by
  have hvalue : (Char.ofNat n).toNat = n := toNat_ofNat (.inr ⟨by omega, hmost⟩)
  unfold encodeChar
  simp only [hvalue]
  rw [if_neg (by omega), if_neg (by omega), if_neg (by omega)]

theorem eq_toUInt8 {b : UInt8} (h : n = b.toNat) : b = n.toUInt8 := by
  rw [h, Nat.toUInt8, UInt8.ofNat_toNat]

end Encoder

/-- A sequence is what the encoder writes. -/
theorem IsSequence.eq_encodeChar {bytes : List UInt8} {c : Char} (h : IsSequence bytes c) :
    bytes = encodeChar c := by
  cases h with
  | @one lead hlead =>
    have hrange := sequenceLength_cases lead
    rw [encodeChar_one (by omega), ← eq_toUInt8 rfl]
  | @two lead b hlead hb =>
    have hrange := sequenceLength_cases lead
    rw [isContinuation_iff] at hb
    unfold payload
    rw [encodeChar_two (by omega) (by omega), ← eq_toUInt8 (b := lead) (by omega),
      ← eq_toUInt8 (b := b) (by omega)]
  | @three lead b c hlead hb hc =>
    have hrange : 0xE0 ≤ lead.toNat ∧ lead.toNat < 0xF0 := by
      have hcases := sequenceLength_cases lead
      omega
    obtain ⟨hb, hlow, hgap, -, -⟩ := mayFollow_iff.1 hb
    rw [isContinuation_iff] at hb hc
    unfold payload
    rw [encodeChar_three (by omega) (by omega) (by omega)]
    -- what the second byte may be only mattered for the range
    clear hlow hgap
    rw [← eq_toUInt8 (b := lead) (by omega), ← eq_toUInt8 (b := b) (by omega),
      ← eq_toUInt8 (b := c) (by omega)]
  | @four lead b c d hlead hb hc hd =>
    have hrange : 0xF0 ≤ lead.toNat ∧ lead.toNat < 0xF5 := by
      have hcases := sequenceLength_cases lead
      omega
    obtain ⟨hb, -, -, hlow, hhigh⟩ := mayFollow_iff.1 hb
    rw [isContinuation_iff] at hb hc hd
    unfold payload
    rw [encodeChar_four (by omega) (by omega)]
    clear hlow hhigh
    rw [← eq_toUInt8 (b := lead) (by omega), ← eq_toUInt8 (b := b) (by omega),
      ← eq_toUInt8 (b := c) (by omega), ← eq_toUInt8 (b := d) (by omega)]

theorem toNat_range (c : Char) : c.toNat < 0xD800 ∨ 0xDFFF < c.toNat ∧ c.toNat < 0x110000 :=
  c.valid

/-- The encoder writes sequences. -/
theorem isSequence_encodeChar (c : Char) : IsSequence (encodeChar c) c := by
  have hrange := toNat_range c
  have hsame {value : Nat} (h : value = c.toNat) : Char.ofNat value = c := by
    rw [h, Char.ofNat_toNat]
  unfold encodeChar
  simp only []
  -- the bytes are those of the shortest form, one case for each length
  split
  · next hone =>
    have hlead := toNat_toUInt8 (n := c.toNat) (by omega)
    have hlength := sequenceLength_cases c.toNat.toUInt8
    have hsequence := @IsSequence.one c.toNat.toUInt8 (by omega)
    rwa [hsame hlead] at hsequence
  split
  · next htwo =>
    have hlead := toNat_toUInt8 (n := 0xC0 + c.toNat / 0x40) (by omega)
    have hb := toNat_toUInt8 (n := 0x80 + c.toNat % 0x40) (by omega)
    have hlength := sequenceLength_cases (0xC0 + c.toNat / 0x40).toUInt8
    have hsequence := @IsSequence.two (0xC0 + c.toNat / 0x40).toUInt8
      (0x80 + c.toNat % 0x40).toUInt8 (by omega) (by rw [isContinuation_iff]; omega)
    rwa [hsame (by unfold payload; omega)] at hsequence
  split
  · next hthree =>
    have hlead := toNat_toUInt8 (n := 0xE0 + c.toNat / 0x1000) (by omega)
    have hb := toNat_toUInt8 (n := 0x80 + c.toNat / 0x40 % 0x40) (by omega)
    have hc := toNat_toUInt8 (n := 0x80 + c.toNat % 0x40) (by omega)
    have hlength := sequenceLength_cases (0xE0 + c.toNat / 0x1000).toUInt8
    have hsequence := @IsSequence.three (0xE0 + c.toNat / 0x1000).toUInt8
      (0x80 + c.toNat / 0x40 % 0x40).toUInt8 (0x80 + c.toNat % 0x40).toUInt8
      (by omega) (by rw [mayFollow_iff, isContinuation_iff]; omega)
      (by rw [isContinuation_iff]; omega)
    rwa [hsame (by unfold payload; omega)] at hsequence
  · next hfour =>
    have hlead := toNat_toUInt8 (n := 0xF0 + c.toNat / 0x40000) (by omega)
    have hb := toNat_toUInt8 (n := 0x80 + c.toNat / 0x1000 % 0x40) (by omega)
    have hc := toNat_toUInt8 (n := 0x80 + c.toNat / 0x40 % 0x40) (by omega)
    have hd := toNat_toUInt8 (n := 0x80 + c.toNat % 0x40) (by omega)
    have hlength := sequenceLength_cases (0xF0 + c.toNat / 0x40000).toUInt8
    have hsequence := @IsSequence.four (0xF0 + c.toNat / 0x40000).toUInt8
      (0x80 + c.toNat / 0x1000 % 0x40).toUInt8 (0x80 + c.toNat / 0x40 % 0x40).toUInt8
      (0x80 + c.toNat % 0x40).toUInt8
      (by omega) (by rw [mayFollow_iff, isContinuation_iff]; omega)
      (by rw [isContinuation_iff]; omega) (by rw [isContinuation_iff]; omega)
    rwa [hsame (by unfold payload; omega)] at hsequence

/-- The sequences are those of the characters. -/
theorem isSequence_iff {bytes : List UInt8} {c : Char} :
    IsSequence bytes c ↔ bytes = encodeChar c := by
  refine ⟨IsSequence.eq_encodeChar, ?_⟩
  rintro rfl
  exact isSequence_encodeChar c

end RenderCheck.Text
