import RenderCheck.Png.Reader
import RenderCheck.Png.Writer

/-! # Chunks are read back

    What is written as a chunk is read as the same chunk, with a checksum that is
    right, and reading goes on behind it. The chunks of pixels of a file, up to the
    first other chunk, hold the data that was cut into them.

    * **Numbers** in four bytes: `ofBigEndian_bigEndian32`.
    * **One chunk**: `readChunkHead?_encode`, `readChunkBody?_encode`.
    * **All chunks of pixels**: `readPixels_flatMap`, `flatten_pixelChunks`.
    * **Headers**: `Header.decode_encode`.
    * **Files**: `readHead_encodeRows`. -/

namespace RenderCheck.Png

/-! ## Numbers -/

/-- Four bytes are enough for a number below `2³²`. -/
theorem ofBigEndian_bigEndian32 {n : Nat} (h : n < 0x100000000) :
    ofBigEndian (Deflate.bigEndian32 n) = n := by
  simp only [ofBigEndian, Deflate.bigEndian32, List.foldl_cons, List.foldl_nil, Nat.toUInt8,
    UInt8.toNat_ofNat']
  omega

theorem crc32_lt (bytes : List UInt8) : crc32 bytes < 0x100000000 :=
  UInt32.toNat_lt _

/-! ## One chunk -/

namespace Chunk

/-- A chunk that can be written: its kind has four letters, and four bytes are
    enough for the length of its data. -/
structure Fits (chunk : Chunk) : Prop where
  kind : chunk.kind.length = 4
  data : chunk.data.length < 0x100000000

/-- What stands behind the head of a chunk. -/
def body (chunk : Chunk) : List UInt8 :=
  chunk.data ++ Deflate.bigEndian32 (crc32 (chunk.kind ++ chunk.data))

theorem readChunkHead?_encode {chunk : Chunk} (h : chunk.Fits) (rest : List UInt8) :
    readChunkHead? (chunk.encode ++ rest)
      = some (chunk.data.length, chunk.kind, chunk.body ++ rest) := by
  obtain ⟨k₀, k₁, k₂, k₃, hkind⟩ : ∃ k₀ k₁ k₂ k₃, chunk.kind = [k₀, k₁, k₂, k₃] := by
    match hkind : chunk.kind, h.kind with
    | [k₀, k₁, k₂, k₃], _ => exact ⟨k₀, k₁, k₂, k₃, rfl⟩
  have hlength := ofBigEndian_bigEndian32 h.data
  rw [encode, body, hkind]
  unfold Deflate.bigEndian32 at hlength ⊢
  simp only [List.cons_append, List.nil_append, List.append_assoc, readChunkHead?, hlength]

theorem readChunkBody?_encode (chunk : Chunk) (rest : List UInt8) :
    readChunkBody? chunk.data.length chunk.kind (chunk.body ++ rest) = some (chunk, true, rest) := by
  have hchecksum := ofBigEndian_bigEndian32 (crc32_lt (chunk.kind ++ chunk.data))
  have hdata : (chunk.body ++ rest).take chunk.data.length = chunk.data := by
    rw [body, List.append_assoc, List.take_left]
  have hafter : (chunk.body ++ rest).drop chunk.data.length
      = Deflate.bigEndian32 (crc32 (chunk.kind ++ chunk.data)) ++ rest := by
    rw [body, List.append_assoc, List.drop_left]
  have htaken (n : Nat) : (Deflate.bigEndian32 n ++ rest).take 4 = Deflate.bigEndian32 n := rfl
  have hdropped (n : Nat) : (Deflate.bigEndian32 n ++ rest).drop 4 = rest := rfl
  have hlong (n : Nat) : 4 ≤ (Deflate.bigEndian32 n ++ rest).length := by
    simp [Deflate.bigEndian32]
  simp only [readChunkBody?, hdata, hafter, htaken, hdropped, hchecksum]
  rw [if_pos ⟨trivial, hlong _⟩]
  simp

/-- A chunk is longer than its data. -/
theorem lt_length_encode (chunk : Chunk) : chunk.data.length < chunk.encode.length := by
  have hfour (n : Nat) : (Deflate.bigEndian32 n).length = 4 := rfl
  simp only [encode, List.length_append, hfour]
  omega

end Chunk

/-! ## Chunks of pixels -/

/-- Chunks of pixels are read up to the first other one. -/
theorem readPixels_flatMap {chunks : List Chunk}
    (hchunks : ∀ chunk ∈ chunks, chunk.Fits ∧ chunk.kind = Chunk.pixels) {ending : Chunk}
    (hending : ending.Fits) (hother : ending.kind ≠ Chunk.pixels) (rest : List UInt8) (fuel : Nat)
    (hfuel : chunks.length < fuel) :
    readPixels fuel (chunks.flatMap Chunk.encode ++ (ending.encode ++ rest))
      = .ok (chunks.map Chunk.data) := by
  induction chunks generalizing fuel with
  | nil =>
    obtain ⟨fuel, rfl⟩ : ∃ n, fuel = n + 1 := ⟨fuel - 1, by simp at hfuel; omega⟩
    rw [List.flatMap_nil, List.nil_append, readPixels, Chunk.readChunkHead?_encode hending]
    dsimp only
    rw [if_pos hother]
    rfl
  | cons chunk chunks ih =>
    rw [List.length_cons] at hfuel
    obtain ⟨fuel, rfl⟩ : ∃ n, fuel = n + 1 := ⟨fuel - 1, by omega⟩
    obtain ⟨hfits, hpixels⟩ := hchunks chunk List.mem_cons_self
    have hrest := ih (fun other hmem => hchunks other (List.mem_cons_of_mem _ hmem)) fuel (by omega)
    rw [List.flatMap_cons, List.append_assoc, readPixels, Chunk.readChunkHead?_encode hfits]
    dsimp only
    rw [if_neg (fun h => h hpixels), Chunk.readChunkBody?_encode]
    dsimp only
    rw [hrest]
    rfl

theorem length_le_flatMap_encode (chunks : List Chunk) :
    chunks.length ≤ (chunks.flatMap Chunk.encode).length := by
  induction chunks with
  | nil => exact Nat.zero_le _
  | cons chunk chunks ih =>
    have hlt := chunk.lt_length_encode
    rw [List.flatMap_cons, List.length_append, List.length_cons]
    omega

/-! ### Cutting data into chunks -/

theorem pieceLimit_eq : pieceLimit = 1048576 := by decide

/-- There is at least one chunk, and none is too large. -/
theorem pixelChunks_fits {fuel : Nat} {bytes : List UInt8} (hfuel : bytes.length ≤ fuel) :
    pixelChunks fuel bytes ≠ [] ∧
      ∀ chunk ∈ pixelChunks fuel bytes, chunk.Fits ∧ chunk.kind = Chunk.pixels := by
  have hfits {data : List UInt8} (h : data.length ≤ pieceLimit) :
      Chunk.Fits ⟨Chunk.pixels, data⟩ := by
    rw [pieceLimit_eq] at h
    exact ⟨rfl, by dsimp only; omega⟩
  induction fuel generalizing bytes with
  | zero =>
    rw [pixelChunks]
    simp [hfits (by omega : bytes.length ≤ pieceLimit)]
  | succ fuel ih =>
    unfold pixelChunks
    split
    · next hsmall => simp [hfits hsmall]
    · have hdrop : (bytes.drop pieceLimit).length ≤ fuel := by
        rw [List.length_drop, pieceLimit_eq]
        omega
      refine ⟨List.cons_ne_nil _ _, fun chunk hmem => ?_⟩
      rcases List.mem_cons.1 hmem with rfl | hmem
      · exact ⟨hfits (List.length_take_le _ _), rfl⟩
      · exact (ih hdrop).2 chunk hmem

/-- Together the chunks hold all the data. -/
theorem flatten_pixelChunks (fuel : Nat) (bytes : List UInt8) :
    ((pixelChunks fuel bytes).map Chunk.data).flatten = bytes := by
  induction fuel generalizing bytes with
  | zero => simp [pixelChunks]
  | succ fuel ih =>
    unfold pixelChunks
    split
    · simp
    · rw [List.map_cons, List.flatten_cons, ih, List.take_append_drop]

/-! ## Headers -/

/-- A header of an image that has pixels, with its measures in four bytes. -/
structure Header.Fits (header : Header) : Prop where
  width : 0 < header.width ∧ header.width < 0x100000000
  height : 0 < header.height ∧ header.height < 0x100000000
  depth : header.depth ∈ header.colorType.depths

/-- The number in four bytes. -/
theorem ofBigEndian_lt (a b c d : UInt8) : ofBigEndian [a, b, c, d] < 0x100000000 := by
  have ha := a.toNat_lt
  have hb := b.toNat_lt
  have hc := c.toNat_lt
  have hd := d.toNat_lt
  simp only [ofBigEndian, List.foldl_cons, List.foldl_nil]
  omega

/-- A header that was read is one of an image with pixels. -/
theorem Header.fits_of_decode {data : List UInt8} {header : Header}
    (h : Header.decode data = .ok header) : header.Fits := by
  unfold Header.decode at h
  split at h
  case h_2 => cases h
  dsimp only at h
  split at h
  · cases h
  split at h
  · cases h
  next hdepth =>
  split at h
  · cases h
  next hsize =>
  split at h
  · cases h
  cases h
  rw [not_or] at hsize
  refine ⟨⟨Nat.pos_of_ne_zero hsize.1, ofBigEndian_lt _ _ _ _⟩,
    ⟨Nat.pos_of_ne_zero hsize.2, ofBigEndian_lt _ _ _ _⟩, ?_⟩
  simpa using hdepth

theorem ColorType.ofCode?_code (colorType : ColorType) :
    ColorType.ofCode? colorType.code.toUInt8.toNat = some colorType := by
  cases colorType <;> rfl

/-- A header is read as it was written. -/
theorem Header.decode_encode {header : Header} (h : header.Fits) :
    Header.decode header.encode = .ok header := by
  obtain ⟨width, height, depth, colorType, interlaced⟩ := header
  obtain ⟨⟨hwidth, hwidth'⟩, ⟨hheight, hheight'⟩, hdepth⟩ := h
  dsimp only at *
  have hw := ofBigEndian_bigEndian32 hwidth'
  have hh := ofBigEndian_bigEndian32 hheight'
  have hsmall : depth < 256 := by
    cases colorType <;> simp [ColorType.depths] at hdepth <;> omega
  have hbits : depth.toUInt8.toNat = depth := by
    rw [Nat.toUInt8, UInt8.toNat_ofNat', Nat.mod_eq_of_lt hsmall]
  unfold Deflate.bigEndian32 at hw hh
  unfold Header.encode Deflate.bigEndian32
  simp only [List.cons_append, List.nil_append, Header.decode, hw, hh, hbits,
    ColorType.ofCode?_code]
  rw [if_neg (by simpa using hdepth), if_neg (by omega)]
  cases interlaced with
  | false => rfl
  | true => rfl

/-! ## Files -/

theorem Header.fits_chunk (header : Header) : header.chunk.Fits :=
  ⟨rfl, by simp [Header.chunk, Header.encode, Deflate.bigEndian32]⟩

theorem Chunk.fits_last : Chunk.last.Fits :=
  ⟨rfl, by decide⟩

section Files

variable {header : Header} (h : header.Fits)

include h

/-- A file whose pixels stand directly behind the header says nothing else before
    them. -/
theorem readHead_pixels {chunk : Chunk} (hfits : chunk.Fits) (hkind : chunk.kind = Chunk.pixels)
    (rest : List UInt8) :
    readHead (signature ++ (header.chunk.encode ++ (chunk.encode ++ rest)))
      = .ok ({ header := header }, chunk.encode ++ rest) := by
  have hcontents (fuel : Nat) : readContents (fuel + 1) { header := header } (chunk.encode ++ rest)
      = .ok ({ header := header }, chunk.encode ++ rest) := by
    rw [readContents, Chunk.readChunkHead?_encode hfits]
    dsimp only
    rw [if_pos hkind]
  have hhead := Chunk.readChunkHead?_encode header.fits_chunk (chunk.encode ++ rest)
  have hbody := Chunk.readChunkBody?_encode header.chunk (chunk.encode ++ rest)
  have hlong (rest : List UInt8) : ¬ (signature ++ rest).length < 8 := by
    simp [signature]
  have htake (rest : List UInt8) : (signature ++ rest).take 8 = signature := rfl
  have hdrop (rest : List UInt8) : (signature ++ rest).drop 8 = rest := rfl
  have hdecode : Header.decode header.chunk.data = .ok header := Header.decode_encode h
  have hheader : header.chunk.kind = Chunk.header := rfl
  rw [readHead, if_neg (hlong _), htake, hdrop]
  rw [hheader] at hhead hbody
  simp only [ne_eq, not_true_eq_false, if_false, hhead, hbody, hdecode, Bool.not_true,
    Bool.false_eq_true]
  exact hcontents _

/-- The data of a file that was written, cut into chunks of pixels. -/
theorem readHead_encodeRows (rows : List UInt8) :
    ∃ body compressed, readHead (encodeRows header rows) = .ok ({ header := header }, body) ∧
      readPixels (body.length + 1) body = .ok compressed ∧
      compressed.flatten = Deflate.zlibStore
        (unfilteredRows (header.rowBytes header.width) header.height rows) := by
  rw [encodeRows]
  generalize Deflate.zlibStore (unfilteredRows (header.rowBytes header.width) header.height rows)
    = data
  have hshort : (data.drop frameLength).length ≤ data.length := by simp
  have hframe : Chunk.Fits ⟨Chunk.pixels, data.take frameLength⟩ :=
    ⟨rfl, Nat.lt_of_le_of_lt (List.length_take_le _ _) (by decide)⟩
  -- the chunks of pixels: the one of the frame, and those of what is left
  obtain ⟨chunks, hchunks⟩ : ∃ chunks, chunks = ⟨Chunk.pixels, data.take frameLength⟩
      :: pixelChunks data.length (data.drop frameLength) := ⟨_, rfl⟩
  have hall : ∀ chunk ∈ chunks, chunk.Fits ∧ chunk.kind = Chunk.pixels := by
    rw [hchunks]
    exact List.forall_mem_cons.2 ⟨⟨hframe, rfl⟩, (pixelChunks_fits hshort).2⟩
  have hfuel := length_le_flatMap_encode chunks
  have hpixels := readPixels_flatMap hall Chunk.fits_last (by decide) []
    ((chunks.flatMap Chunk.encode ++ Chunk.last.encode).length + 1) (by
      rw [List.length_append]
      omega)
  refine ⟨chunks.flatMap Chunk.encode ++ Chunk.last.encode, chunks.map Chunk.data, ?_, ?_, ?_⟩
  · rw [hchunks, List.flatMap_cons, List.append_assoc, ← readHead_pixels h hframe rfl]
    simp
  · rwa [List.append_nil] at hpixels
  · rw [hchunks, List.map_cons, List.flatten_cons, flatten_pixelChunks, List.take_append_drop]

end Files

end RenderCheck.Png
