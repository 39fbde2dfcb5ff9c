import RenderCheck.Proofs.Deflate.Stored
import RenderCheck.Proofs.Png.Chunks

/-! # Written images are read back

    A PNG file that was written is read as the same image, of any size from one
    pixel up to what the header has room for. How large an image may be is up to
    the reader; nothing else can go wrong.

    * **Rows**: what is cut into rows with the filter that changes nothing is put
      together again (`readRows_flatMap`).
    * **Pixels**: rows put into their places are the image (`toList_placeRows`).
    * **Files**: `decodeWithin_encode`. -/

namespace RenderCheck.Png

/-! ## Rows -/

/-- Items that fill a rectangle are its rows, one after the other. -/
theorem exists_rows {α : Type} {items : List α} {width height : Nat}
    (h : items.length = width * height) :
    ∃ rows : List (List α), rows.flatten = items ∧ rows.length = height ∧
      ∀ row ∈ rows, row.length = width := by
  induction height generalizing items with
  | zero => exact ⟨[], (List.eq_nil_of_length_eq_zero h).symm, rfl, fun _ hmem => nomatch hmem⟩
  | succ height ih =>
    rw [Nat.mul_succ] at h
    have hrest : (items.drop width).length = width * height := by
      rw [List.length_drop]
      omega
    obtain ⟨rows, hflatten, hlength, hrows⟩ := ih hrest
    refine ⟨items.take width :: rows, ?_, by rw [List.length_cons, hlength], fun row hmem => ?_⟩
    · rw [List.flatten_cons, hflatten, List.take_append_drop]
    · rcases List.mem_cons.1 hmem with rfl | hmem
      · rw [List.length_take]
        omega
      · exact hrows row hmem

section Rows

variable {length : Nat} {rows : List (List UInt8)} (hrows : ∀ row ∈ rows, row.length = length)

include hrows

/-- Rows are written with the filter that changes nothing before each. -/
theorem unfilteredRows_flatten :
    unfilteredRows length rows.length rows.flatten = rows.flatMap (0 :: ·) := by
  induction rows with
  | nil => rfl
  | cons row rows ih =>
    have hrow : row.length = length := hrows row List.mem_cons_self
    have hrest := ih fun other hmem => hrows other (List.mem_cons_of_mem _ hmem)
    have htake : (row ++ rows.flatten).take length = row := by rw [← hrow, List.take_left]
    have hdrop : (row ++ rows.flatten).drop length = rows.flatten := by rw [← hrow, List.drop_left]
    rw [List.length_cons, unfilteredRows, List.flatten_cons, htake, hdrop, hrest, List.flatMap_cons]

/-- They are read as they were. -/
theorem readRows_flatMap (step : Nat) (above : List UInt8) :
    readRows step length rows.length above (rows.flatMap (0 :: ·)) = .ok (rows, []) := by
  induction rows generalizing above with
  | nil => rfl
  | cons row rows ih =>
    have hrow : row.length = length := hrows row List.mem_cons_self
    have hrest := ih (fun other hmem => hrows other (List.mem_cons_of_mem _ hmem)) row
    have htake : (row ++ rows.flatMap (0 :: ·)).take length = row := by rw [← hrow, List.take_left]
    have hdrop : (row ++ rows.flatMap (0 :: ·)).drop length = rows.flatMap (0 :: ·) := by
      rw [← hrow, List.drop_left]
    have hfilter : unfilter step 0 above row = .ok row := rfl
    rw [List.flatMap_cons, List.length_cons, List.cons_append, readRows]
    simp only [htake, hdrop, hfilter, bind, Except.bind, hrest, pure, Except.pure]
    rw [if_neg (by omega)]

theorem length_flatMap_rows : (rows.flatMap (0 :: ·)).length = rows.length * (1 + length) := by
  induction rows with
  | nil => simp
  | cons row rows ih =>
    have hrow : row.length = length := hrows row List.mem_cons_self
    have hrest := ih fun other hmem => hrows other (List.mem_cons_of_mem _ hmem)
    rw [List.flatMap_cons, List.length_append, hrest, List.length_cons, List.length_cons, hrow,
      Nat.add_mul]
    omega

end Rows

/-! ## Colors -/

/-- A sample of eight bits stays as it is. -/
theorem scaleSample_eight (value : UInt8) : scaleSample 8 value.toNat = value := by
  rw [scaleSample, if_neg (by decide), show Nat.pow 2 8 - 1 = 255 from rfl,
    Nat.mul_div_cancel _ (by decide)]
  exact UInt8.ofNat_toNat

theorem length_flatMap_channels (pixels : List Pixel) :
    (pixels.flatMap Pixel.channels).length = pixels.length * 4 := by
  induction pixels with
  | nil => rfl
  | cons pixel pixels ih =>
    rw [List.flatMap_cons, List.length_append, ih, List.length_cons, Pixel.channels, Nat.add_mul]
    exact Nat.add_comm _ _

/-- Four samples are the pixel they were taken from. -/
theorem fours_channels (pixels : List Pixel) :
    colors.fours (scaleSample 8) ((pixels.flatMap Pixel.channels).map UInt8.toNat) = pixels := by
  induction pixels with
  | nil => rfl
  | cons pixel pixels ih =>
    rw [List.flatMap_cons, Pixel.channels]
    simp only [List.cons_append, List.nil_append, List.map_cons, colors.fours, ih, scaleSample_eight]

/-! ## Places -/

/-- Items put in from a place on stand there instead of what stood there. -/
theorem toList_foldl_setIfInBounds {α : Type} (place : Nat → Nat) {items old : List α}
    (hlength : old.length = items.length) {n : Nat} {before after : List α}
    (hplace : ∀ i, place (n + i) = before.length + i) {array : Array α}
    (harray : array.toList = before ++ old ++ after) :
    ((items.zipIdx n).foldl (fun array (item, i) => array.setIfInBounds (place i) item) array).toList
      = before ++ items ++ after := by
  induction items generalizing old n before array with
  | nil =>
    obtain rfl : old = [] := List.eq_nil_of_length_eq_zero hlength
    exact harray
  | cons item items ih =>
    obtain ⟨first, old, rfl⟩ : ∃ first rest, old = first :: rest :=
      List.exists_cons_of_length_eq_add_one hlength
    have hset : (array.setIfInBounds (place n) item).toList = (before ++ [item]) ++ old ++ after := by
      have hn : place n = before.length := hplace 0
      rw [Array.toList_setIfInBounds, harray, hn]
      simp
    have hplace' : ∀ i, place (n + 1 + i) = (before ++ [item]).length + i := by
      intro i
      have hi := hplace (1 + i)
      rw [List.length_append, List.length_singleton, Nat.add_assoc, hi]
      omega
    rw [List.zipIdx_cons, List.foldl_cons, ih (Nat.succ.inj hlength) hplace' hset]
    simp

section Places

variable {width : Nat}

/-- The bytes of a row of pixels are put in as these pixels. -/
theorem toList_placeRow {row : Nat} {pixels old before after : List Pixel} {array : Array Pixel}
    (hold : old.length = pixels.length) (hbefore : before.length = row * width)
    (harray : array.toList = before ++ old ++ after) :
    (placeRow width ⟨0, 0, 1, 1⟩ row array pixels).toList = before ++ pixels ++ after := by
  refine toList_foldl_setIfInBounds (fun column => (0 + row * 1) * width + (0 + column * 1)) hold
    (fun i => ?_) harray
  rw [hbefore, Nat.zero_add, Nat.mul_one, Nat.zero_add, Nat.zero_add, Nat.mul_one]

/-- The bytes of a row of pixels. -/
theorem length_of_mem_bytes {rows : List (List Pixel)} (hrows : ∀ row ∈ rows, row.length = width) :
    ∀ row ∈ rows.map (List.flatMap Pixel.channels), row.length = width * 4 := by
  intro row hmem
  obtain ⟨pixels, hpixels, rfl⟩ := List.mem_map.1 hmem
  rw [length_flatMap_channels, hrows pixels hpixels]

variable (header : Header) (hdepth : header.depth = 8) (hcolor : header.colorType = .rgba)

include hdepth hcolor

/-- The colors of a row are the pixels that it was written from. -/
theorem colors_channels {pixels : List Pixel} (hlength : pixels.length = width) :
    colors { header := header }
        ((rowSamples header.depth (pixels.flatMap Pixel.channels)).take
          (width * header.colorType.channels))
      = pixels := by
  have hsamples : (rowSamples header.depth (pixels.flatMap Pixel.channels)).take
      (width * header.colorType.channels) = (pixels.flatMap Pixel.channels).map UInt8.toNat := by
    rw [hdepth, hcolor, rowSamples, if_pos rfl, List.take_of_length_le]
    rw [List.length_map, length_flatMap_channels, hlength]
    exact Nat.le_refl _
  rw [hsamples, colors]
  simp only [hcolor, hdepth]
  exact fours_channels pixels

/-- The rows of an image put into their places, one after the other. -/
theorem toList_placeRows {rows : List (List Pixel)} (hrows : ∀ row ∈ rows, row.length = width)
    {n : Nat} {before old : List Pixel} {array : Array Pixel} (hbefore : before.length = n * width)
    (hold : old.length = rows.length * width) (harray : array.toList = before ++ old) :
    (((rows.map (List.flatMap Pixel.channels)).zipIdx n).foldl
        (fun (array : Array Pixel) (row : List UInt8 × Nat) =>
          placeRow width ⟨0, 0, 1, 1⟩ row.2 array (colors { header := header }
            ((rowSamples header.depth row.1).take (width * header.colorType.channels))))
        array).toList = before ++ rows.flatten := by
  induction rows generalizing n before old array with
  | nil =>
    obtain rfl : old = [] := List.eq_nil_of_length_eq_zero (by simpa using hold)
    simpa using harray
  | cons row rows ih =>
    have hrow : row.length = width := hrows row List.mem_cons_self
    rw [List.length_cons, Nat.add_mul, Nat.one_mul] at hold
    -- of what stands behind the rows before, the first pixels make room for this row
    have hparts : array.toList = before ++ old.take width ++ old.drop width := by
      rw [List.append_assoc, List.take_append_drop, harray]
    have htaken : (old.take width).length = row.length := by
      rw [List.length_take]
      omega
    have hleft : (old.drop width).length = rows.length * width := by
      rw [List.length_drop]
      omega
    have hplaced := toList_placeRow htaken hbefore hparts
    have hbehind : (before ++ row).length = (n + 1) * width := by
      rw [List.length_append, hbefore, hrow, Nat.add_mul, Nat.one_mul]
    rw [List.map_cons, List.zipIdx_cons, List.foldl_cons, List.flatten_cons, ← List.append_assoc]
    dsimp only
    rw [colors_channels header hdepth hcolor hrow]
    exact ih (fun other hmem => hrows other (List.mem_cons_of_mem _ hmem)) hbehind hleft hplaced

end Places

/-! ## Images -/

/-- An image is given by the pixels at its columns and rows. -/
theorem ofFn_getD (image : Image) :
    Image.ofFn image.width image.height
      (fun x y => image.pixels.getD (y * image.width + x) .transparent) = image := by
  refine Image.ext rfl rfl (Array.ext (by simp [image.size_pixels]) fun i hi hi' => ?_)
  have hplace : i / image.width * image.width + i % image.width = i := by
    rw [Nat.mul_comm]
    exact Nat.div_add_mod i image.width
  simp [hplace, hi']

theorem rowBytes_ofImage (image : Image) (width : Nat) :
    (Header.ofImage image).rowBytes width = width * 4 := by
  simp only [Header.rowBytes, Header.pixelBits, Header.ofImage, ColorType.channels]
  omega

@[simp] theorem gridCount_one (bound : Nat) : gridCount bound 0 1 = bound := by
  simp [gridCount]

section Files

variable {image : Image} (hwidth : 0 < image.width ∧ image.width < 0x100000000)
  (hheight : 0 < image.height ∧ image.height < 0x100000000)

include hwidth hheight

theorem fits_ofImage : (Header.ofImage image).Fits :=
  ⟨hwidth, hheight, by simp [Header.ofImage, ColorType.depths]⟩

omit hheight in
/-- The rows in a file that was written are decompressed to what they were. -/
theorem inflatePixels_encode {rows : List (List UInt8)} {compressed : List (List UInt8)}
    (hcompressed : compressed.flatten = Deflate.zlibStore (rows.flatMap (0 :: ·)))
    (hrows : ∀ row ∈ rows, row.length = image.width * 4) (hcount : rows.length = image.height) :
    inflatePixels (.ofImage image) compressed = .ok (rows.flatMap (0 :: ·)) := by
  have hlength := length_flatMap_rows hrows
  rw [hcount] at hlength
  have hlimit : (Header.ofImage image).dataLimit = image.height * (1 + image.width * 4) := by
    rw [Header.dataLimit, rowBytes_ofImage]
    simp [Header.ofImage]
  have hneeded : (Header.ofImage image).dataLength = image.height * (1 + image.width * 4) := by
    have hpasses : (Header.ofImage image).passes = [⟨0, 0, 1, 1⟩] := rfl
    rw [Header.dataLength, hpasses]
    simp only [List.map_cons, List.map_nil, gridCount_one, rowBytes_ofImage]
    rw [Header.ofImage, if_neg (Nat.ne_of_gt hwidth.1), List.foldr_cons, List.foldr_nil,
      Nat.add_zero]
  have hinflate := Deflate.zlibInflate_zlibStore .sparing (Nat.le_of_eq hlength)
  simp only [inflatePixels, hcompressed, hlimit, hneeded, hinflate]
  rw [if_pos (by simp [hlength])]

omit hwidth hheight in
/-- Put into their places, the rows of an image are its pixels. -/
theorem placePasses_encode {rows : List (List Pixel)} (hpixels : rows.flatten = image.pixels.toList)
    (hrows : ∀ row ∈ rows, row.length = image.width) (hcount : rows.length = image.height) :
    placePasses { header := .ofImage image }
        [(⟨0, 0, 1, 1⟩, rows.map (List.flatMap Pixel.channels))] = image.pixels := by
  have hblank : (Array.replicate (image.width * image.height) Pixel.transparent).toList
      = [] ++ List.replicate (image.width * image.height) Pixel.transparent := by simp
  have hroom : (List.replicate (image.width * image.height) Pixel.transparent).length
      = rows.length * image.width := by rw [List.length_replicate, hcount, Nat.mul_comm]
  have hplaced := toList_placeRows (.ofImage image) rfl rfl hrows (n := 0) (by simp) hroom hblank
  rw [List.nil_append, hpixels, Array.toList_inj] at hplaced
  simp only [placePasses, List.foldl_cons, List.foldl_nil, placeRows, gridCount_one]
  exact hplaced

/-- The rows in a file that was written. -/
theorem readPasses_encode {rows : List (List UInt8)}
    (hrows : ∀ row ∈ rows, row.length = image.width * 4) (hcount : rows.length = image.height) :
    readPasses (.ofImage image) (Header.ofImage image).passes (rows.flatMap (0 :: ·))
      = .ok [(⟨0, 0, 1, 1⟩, rows)] := by
  have hread := readRows_flatMap hrows (Header.ofImage image).pixelBytes
    (List.replicate (image.width * 4) 0)
  rw [hcount] at hread
  have hpasses : (Header.ofImage image).passes = [⟨0, 0, 1, 1⟩] := rfl
  have hwide : (Header.ofImage image).width = image.width := rfl
  have hhigh : (Header.ofImage image).height = image.height := rfl
  rw [hpasses, readPasses]
  simp only [gridCount_one, rowBytes_ofImage, hwide, hhigh, hread, bind, Except.bind]
  rw [if_neg (by omega), readPasses]
  rfl

/-- An image that was written is read, unless it has more bytes than the reader
    allows. -/
theorem decodeWithin_encode (limit : Nat) :
    decodeWithin limit (encode image)
      = if 4 * (image.width * image.height) ≤ limit then .ok image else .error .tooLarge := by
  obtain ⟨rows, hpixels, hcount, hrows⟩ := exists_rows
    (image.pixels.length_toList.trans image.size_pixels)
  have hbytes := length_of_mem_bytes hrows
  have hcount' : (rows.map (List.flatMap Pixel.channels)).length = image.height := by
    rw [List.length_map, hcount]
  have hsamples : image.samples = (rows.map (List.flatMap Pixel.channels)).flatten := by
    rw [Image.samples, ← hpixels, List.flatten_eq_flatMap, List.flatMap_assoc, List.flatMap_def]
    rfl
  -- step by step: what the writer made of the rows is undone
  obtain ⟨body, compressed, hread, hchunks, hcompressed⟩ :=
    readHead_encodeRows (fits_ofImage hwidth hheight) image.samples
  have hwritten := unfilteredRows_flatten hbytes
  rw [hcount', ← hsamples] at hwritten
  have hwide : (Header.ofImage image).width = image.width := rfl
  have hhigh : (Header.ofImage image).height = image.height := rfl
  rw [rowBytes_ofImage, hwide, hhigh, hwritten] at hcompressed
  have hinflate := inflatePixels_encode hwidth hcompressed hbytes hcount'
  have hpasses := readPasses_encode hwidth hheight hbytes hcount'
  have hplaced := placePasses_encode hpixels hrows hcount
  have houtput : (Contents.outputLength { header := .ofImage image })
      = 4 * (image.width * image.height) := by
    simp [Contents.outputLength, Header.ofImage, Nat.mul_comm]
  rw [decodeWithin, encode, hread]
  simp only [bind, Except.bind, houtput]
  -- the limit is asked before anything is unpacked
  by_cases hlimit : limit < 4 * (image.width * image.height)
  · rw [if_pos hlimit, if_neg (Nat.not_le_of_lt hlimit)]
    rfl
  · rw [if_neg hlimit, if_pos (Nat.le_of_not_lt hlimit)]
    have himage := ofFn_getD image
    have hget : (Thunk.mk fun _ => placePasses { header := .ofImage image }
        [(⟨0, 0, 1, 1⟩, rows.map (List.flatMap Pixel.channels))]).get = image.pixels := hplaced
    simp only [hchunks, hinflate, hwide, hhigh, hpasses, hget, himage]
    rfl

end Files

end RenderCheck.Png
