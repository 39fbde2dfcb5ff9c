import RenderCheck.Deflate.Zlib

/-! # Stored data is read back

    Data that was stored without compression, in as many blocks as it takes, is
    what decompressing gives, if that much output is allowed; and reading ends
    right behind the last block, whatever comes there.

    * **Blocks**: `readBlock_storedBlock` for one, `readBlocks_storeWithin` for
      all.
    * **Frames**: `zlibInflate_zlibStore`. -/

namespace RenderCheck.Deflate

/-! ## Blocks -/

/-- Two bytes are a number below 65536, the lower one first. -/
theorem littleEndian_toUInt8 {n : Nat} (h : n < 65536) :
    n.toUInt8.toNat + 256 * (n / 256).toUInt8.toNat = n := by
  simp only [UInt8.toNat_ofNat', Nat.toUInt8]
  omega

/-- The three bits at the start of a stored block. -/
theorem bits_storedHead (final : Bool) (rest : List UInt8) :
    (BitSource.ofBytes ((if final then 1 else 0) :: rest)).bits 3
      = .ok (if final then 1 else 0, ⟨(if final then 1 else 0) :: rest, 3⟩) := by
  have hbit (value : UInt8) (used : Nat) (h : used < 7) : (⟨value :: rest, used⟩ : BitSource).bit
      = .ok (value.toNat / Nat.pow 2 used % 2, ⟨value :: rest, used + 1⟩) := by
    simp only [BitSource.bit, if_pos h]
  have hbits (value : UInt8) : (BitSource.ofBytes (value :: rest)).bits 3
      = .ok (value.toNat / Nat.pow 2 0 % 2 + 2 * (value.toNat / Nat.pow 2 1 % 2
          + 2 * (value.toNat / Nat.pow 2 2 % 2 + 2 * 0)), ⟨value :: rest, 3⟩) := by
    simp only [BitSource.bits, BitSource.ofBytes, hbit value _ (by decide : 0 < 7),
      hbit value _ (by decide : 1 < 7), hbit value _ (by decide : 2 < 7), bind, Except.bind, pure,
      Except.pure]
  rw [hbits]
  cases final <;> rfl

section Blocks

variable {limit : Nat} {bytes : List UInt8} {out : Array UInt8}

/-- A stored block behind its first three bits gives its bytes. -/
theorem readStored_storedBlock (head : UInt8) (rest : List UInt8)
    (hlength : bytes.length ≤ storedLimit) (hroom : out.size + bytes.length ≤ limit) :
    readStored limit ⟨head :: bytes.length.toUInt8 :: (bytes.length / 256).toUInt8
        :: (65535 - bytes.length).toUInt8 :: ((65535 - bytes.length) / 256).toUInt8
        :: (bytes ++ rest), 3⟩ out
      = (out ++ bytes, .ok (.ofBytes rest)) := by
  unfold storedLimit at hlength
  have htake : (bytes ++ rest).take bytes.length = bytes := List.take_left
  have hdrop : (bytes ++ rest).drop bytes.length = rest := List.drop_left
  have hcomplement : bytes.length + (65535 - bytes.length) = 65535 := by omega
  simp only [readStored, BitSource.align, if_neg (by decide : ¬ 3 = 0), List.drop_one, List.tail_cons]
  rw [littleEndian_toUInt8 (by omega), littleEndian_toUInt8 (by omega), hcomplement,
    if_neg (by simp), Nat.min_eq_left (by omega), htake, hdrop, if_pos rfl]

/-- A stored block gives its bytes, and says whether it is the last. -/
theorem readBlock_storedBlock (manner : Manner) (final : Bool) (rest : List UInt8)
    (hlength : bytes.length ≤ storedLimit) (hroom : out.size + bytes.length ≤ limit) :
    readBlock manner limit (.ofBytes (storedBlock final bytes ++ rest)) out
      = (out ++ bytes, .ok (final, .ofBytes rest)) := by
  have hstored := readStored_storedBlock (if final then 1 else 0) rest hlength hroom
  rw [storedBlock]
  simp only [List.cons_append, List.nil_append]
  rw [readBlock, bits_storedHead]
  cases final with
  | false =>
    dsimp only at hstored ⊢
    rw [hstored]
    rfl
  | true =>
    dsimp only at hstored ⊢
    rw [hstored]
    rfl

end Blocks

/-- All blocks together give all bytes. -/
theorem readBlocks_storeWithin (manner : Manner) {limit fuel fuel' : Nat} {bytes rest : List UInt8}
    {out : Array UInt8} (hfuel : bytes.length ≤ fuel) (hfuel' : fuel < fuel')
    (hroom : out.size + bytes.length ≤ limit) :
    readBlocks manner limit fuel' (.ofBytes (storeWithin fuel bytes ++ rest)) out
      = (out ++ bytes, .ok rest) := by
  -- each block that is not the last takes one of the fuel of both sides
  induction fuel generalizing fuel' bytes out with
  | zero =>
    obtain ⟨fuel', rfl⟩ : ∃ n, fuel' = n + 1 := ⟨fuel' - 1, by omega⟩
    obtain rfl : bytes = [] := List.eq_nil_of_length_eq_zero (by omega)
    rw [storeWithin, readBlocks, readBlock_storedBlock manner true rest (by decide) hroom]
    rfl
  | succ fuel ih =>
    obtain ⟨fuel', rfl⟩ : ∃ n, fuel' = n + 1 := ⟨fuel' - 1, by omega⟩
    unfold storeWithin
    split
    · next hlast =>
      rw [readBlocks, readBlock_storedBlock manner true rest hlast hroom]
      rfl
    · next hmore =>
      have htaken : (bytes.take storedLimit).length = storedLimit := by
        rw [List.length_take]
        omega
      have hleft : (bytes.drop storedLimit).length = bytes.length - storedLimit := List.length_drop
      have hpos : 0 < storedLimit := by decide
      rw [List.append_assoc, readBlocks,
        readBlock_storedBlock manner false _ (Nat.le_of_eq htaken) (by omega)]
      dsimp only
      have hsize : (out ++ bytes.take storedLimit).size = out.size + storedLimit := by
        rw [← Array.length_toList, Array.toList_appendList, List.length_append, Array.length_toList,
          htaken]
      have hjoined : out ++ bytes.take storedLimit ++ bytes.drop storedLimit = out ++ bytes := by
        rw [← Array.toList_inj]
        simp only [Array.toList_appendList, List.append_assoc, List.take_append_drop]
      rw [ih (by omega) (by omega) (by omega), hjoined]

/-- There are at least as many bytes in blocks as there were before. -/
theorem length_le_storeWithin (fuel : Nat) (bytes : List UInt8) :
    bytes.length ≤ (storeWithin fuel bytes).length := by
  induction fuel generalizing bytes with
  | zero => simp [storeWithin, storedBlock]; omega
  | succ fuel ih =>
    unfold storeWithin
    split
    · simp [storedBlock]; omega
    · have hrest := ih (bytes.drop storedLimit)
      simp [storedBlock] at hrest ⊢
      omega

/-! ## Frames -/

/-- Stored data is decompressed to what it was. -/
theorem inflate_store (manner : Manner) {limit : Nat} {bytes : List UInt8} (rest : List UInt8)
    (hroom : bytes.length ≤ limit) :
    inflate manner limit (store bytes ++ rest) = (bytes.toArray, .ok rest) := by
  have hlength := length_le_storeWithin bytes.length bytes
  rw [inflate, store, readBlocks_storeWithin manner (Nat.le_refl _)]
  · simp
  · rw [List.length_append]
    omega
  · simpa using hroom

/-- So is framed data. -/
theorem zlibInflate_zlibStore (manner : Manner) {limit : Nat} {bytes : List UInt8}
    (hroom : bytes.length ≤ limit) :
    zlibInflate manner limit (zlibStore bytes)
      = (bytes.toArray, .ok (bigEndian32 (adler32 bytes))) := by
  have hframe : isFrameHead 0x78 0x01 = true := by decide
  rw [zlibStore, List.append_assoc]
  simp only [List.cons_append, List.nil_append, zlibInflate, hframe, if_true]
  exact inflate_store manner _ hroom

end RenderCheck.Deflate
