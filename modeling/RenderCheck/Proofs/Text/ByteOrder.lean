import RenderCheck.Proofs.Text.Sequences

/-! # The order of texts and of their bytes

    Comparing two texts character by character gives the same as comparing
    them byte by byte: at the first difference the greater character has a
    greater byte, and no character's bytes begin with those of another. -/

namespace RenderCheck.Text

/-! ## Characters -/

/-- Numbers in base 64 compare by their leading digits first. -/
theorem digits_lt {n m : Nat} (h : n < m) :
    n / 0x40 < m / 0x40 ∨ n / 0x40 = m / 0x40 ∧ n % 0x40 < m % 0x40 := by
  omega

/-- A greater character has greater bytes, whatever follows. -/
theorem encodeChar_append_lt {c d : Char} (h : c < d) (first second : List UInt8) :
    encodeChar c ++ first < encodeChar d ++ second := by
  have hlt : c.toNat < d.toNat := h
  have hrange : d.toNat < 0x110000 := by
    have hvalid := d.valid
    show d.val.toNat < _
    rcases hvalid with h | h <;> omega
  have hlow := digits_lt hlt
  have hmiddle : c.toNat / 0x40 < d.toNat / 0x40 →
      c.toNat / 0x1000 < d.toNat / 0x1000 ∨
        c.toNat / 0x1000 = d.toNat / 0x1000 ∧ c.toNat / 0x40 % 0x40 < d.toNat / 0x40 % 0x40 := by
    omega
  have hhigh : c.toNat / 0x1000 < d.toNat / 0x1000 →
      c.toNat / 0x40000 < d.toNat / 0x40000 ∨
        c.toNat / 0x40000 = d.toNat / 0x40000 ∧
          c.toNat / 0x1000 % 0x40 < d.toNat / 0x1000 % 0x40 := by
    omega
  unfold encodeChar
  simp only []
  -- a case for each pair of lengths; a longer sequence has the greater lead byte
  repeat' split
  all_goals
    simp only [List.cons_append, List.nil_append, List.cons_lt_cons_iff, UInt8.lt_iff_toNat_lt,
      ← UInt8.toNat_inj]
    simp (disch := omega) only [toNat_toUInt8]
    omega

theorem encodeChar_ne_nil (c : Char) : encodeChar c ≠ [] := by
  unfold encodeChar
  simp only []
  repeat' split
  all_goals exact List.cons_ne_nil _ _

/-! ## Texts -/

/-- Bytes in front of both do not matter. -/
theorem append_lt_append (front : List UInt8) {first second : List UInt8} (h : first < second) :
    front ++ first < front ++ second := by
  induction front with
  | nil => exact h
  | cons b front ih => exact List.cons_lt_cons_iff.2 (.inr ⟨rfl, ih⟩)

/-- A greater text has greater bytes. -/
theorem encode_lt_of_lt {first second : List Char} (h : first < second) :
    encode first < encode second := by
  induction first generalizing second with
  | nil =>
    cases second with
    | nil => exact absurd h (List.lt_irrefl _)
    | cons d second =>
      obtain ⟨b, bytes, hbytes⟩ := List.exists_cons_of_ne_nil (encodeChar_ne_nil d)
      show [] < encodeChar d ++ encode second
      rw [hbytes]
      exact List.nil_lt_cons _ _
  | cons c first ih =>
    cases second with
    | nil => exact absurd h (List.not_lt_nil _)
    | cons d second =>
      show encodeChar c ++ encode first < encodeChar d ++ encode second
      -- the first difference is here, or behind a character they share
      rcases List.cons_lt_cons_iff.1 h with hlt | ⟨rfl, hlt⟩
      · exact encodeChar_append_lt hlt _ _
      · exact append_lt_append _ (ih hlt)

/-- The order of texts is that of their bytes. -/
theorem encode_lt_encode_iff {first second : String} :
    Text.encode first.toList < Text.encode second.toList ↔ first < second := by
  rw [String.lt_iff]
  refine ⟨fun h => ?_, encode_lt_of_lt⟩
  by_cases hlt : first.toList < second.toList
  · exact hlt
  rcases List.le_iff_lt_or_eq.1 (List.not_lt.1 hlt) with hgt | heq
  · exact absurd (List.lt_trans h (encode_lt_of_lt hgt)) (List.lt_irrefl _)
  · rw [heq] at h
    exact absurd h (List.lt_irrefl _)

end RenderCheck.Text
