import RenderCheck.Backend.Native

/-! # Pixels of strips

    Images that were put side by side are all found again on the strip: each of
    them stands as far to the right as the images before it are wide. Putting an
    image on a canvas changes what it covers and nothing else; the images that
    come later begin where it ends, and the canvas is wide and high enough for all
    of them.

    * **Putting** one image, and several one after the other.
    * **Laying out**: what a strip has to show, and nothing else (`LaysOut`).
    * **Strips** lay out their images, as no other image does
      (`strip_lays_out`). -/

namespace RenderCheck.Image

/-! ## Putting one image -/

section Put

variable {canvas image : Image} {left top x y : Nat}

theorem pixel?_of_lt (hx : x < image.width) (hy : y < image.height) :
    image.pixel? x y = some (image.pixel x y) := by
  have hplace : y * image.width + x < image.pixels.size := by
    rw [image.size_pixels]
    exact index_lt hx hy
  rw [pixel, pixel?, if_pos ⟨hx, hy⟩, Array.getElem?_eq_getElem hplace, Option.getD_some]

theorem pixel?_of_not_lt (h : ¬ (x < image.width ∧ y < image.height)) : image.pixel? x y = none :=
  if_neg h

/-- A canvas shows the image where it was put. -/
@[simp] theorem pixel?_put_inside (hx : x < image.width) (hy : y < image.height)
    (hright : left + x < canvas.width) (hbottom : top + y < canvas.height) :
    (canvas.put image left top).pixel? (left + x) (top + y) = image.pixel? x y := by
  rw [put, pixel?_ofFn, if_pos ⟨hright, hbottom⟩,
    if_pos ⟨Nat.le_add_right left x, Nat.le_add_right top y⟩, Nat.add_sub_cancel_left,
    Nat.add_sub_cancel_left, pixel?_of_lt hx hy, Option.getD_some]

/-- Elsewhere it shows what it did before. -/
@[simp] theorem pixel?_put_outside
    (h : ¬ ((left ≤ x ∧ x < left + image.width) ∧ (top ≤ y ∧ y < top + image.height))) :
    (canvas.put image left top).pixel? x y = canvas.pixel? x y := by
  rw [put, pixel?_ofFn]
  by_cases hcanvas : x < canvas.width ∧ y < canvas.height
  · rw [if_pos hcanvas, pixel?_of_lt hcanvas.1 hcanvas.2]
    split
    · have hbeyond : ¬ (x - left < image.width ∧ y - top < image.height) := by omega
      rw [pixel?_of_not_lt hbeyond, Option.getD_none]
    · rfl
  · rw [if_neg hcanvas, pixel?_of_not_lt hcanvas]

end Put

/-! ## Putting several -/

/-- Where an image in a row begins: the images before it are that wide. -/
def offset (images : List Image) (index : Nat) : Nat :=
  ((images.take index).map width).foldr (· + ·) 0

@[simp] theorem offset_zero (images : List Image) : offset images 0 = 0 := by
  rw [offset, List.take_zero, List.map_nil, List.foldr_nil]

@[simp] theorem offset_cons_succ (image : Image) (images : List Image) (index : Nat) :
    offset (image :: images) (index + 1) = image.width + offset images index := rfl

/-- A place is covered by an image in a row. -/
def Covers (images : List Image) (index x y : Nat) : Prop :=
  ∃ image ∈ images[index]?, (offset images index ≤ x ∧ x < offset images index + image.width) ∧
    y < image.height

section PutAlong

variable {canvas : Image} {left x y : Nat} {images : List Image}

@[simp] theorem width_put (canvas image : Image) (left top : Nat) :
    (canvas.put image left top).width = canvas.width := rfl

@[simp] theorem height_put (canvas image : Image) (left top : Nat) :
    (canvas.put image left top).height = canvas.height := rfl

@[simp] theorem width_putAlong (canvas : Image) (left : Nat) (images : List Image) :
    (canvas.putAlong left images).width = canvas.width := by
  induction images generalizing canvas left with
  | nil => rfl
  | cons image images ih => simp [putAlong, ih]

@[simp] theorem height_putAlong (canvas : Image) (left : Nat) (images : List Image) :
    (canvas.putAlong left images).height = canvas.height := by
  induction images generalizing canvas left with
  | nil => rfl
  | cons image images ih => simp [putAlong, ih]

/-- What is to the left of all the images stays. -/
theorem pixel?_putAlong_before (hx : x < left) :
    (canvas.putAlong left images).pixel? x y = canvas.pixel? x y := by
  induction images generalizing canvas left with
  | nil => rfl
  | cons image images ih =>
    rw [putAlong, ih (Nat.lt_add_right _ hx)]
    simp (disch := omega)

/-- So does what no image covers. -/
theorem pixel?_putAlong_uncovered (hx : left ≤ x) (h : ∀ index, ¬ Covers images index (x - left) y) :
    (canvas.putAlong left images).pixel? x y = canvas.pixel? x y := by
  induction images generalizing canvas left with
  | nil => rfl
  | cons image images ih =>
    have hfirst : ¬ (x - left < image.width ∧ y < image.height) := fun hinside =>
      h 0 ⟨image, rfl, by simp; omega, hinside.2⟩
    have hput : (canvas.put image left 0).pixel? x y = canvas.pixel? x y := by
      simp (disch := omega)
    rw [putAlong]
    by_cases hbehind : left + image.width ≤ x
    · rw [ih hbehind fun index => ?_, hput]
      rintro ⟨other, hother, hcolumn, hrow⟩
      refine h (index + 1) ⟨other, hother, ?_, hrow⟩
      simp only [offset_cons_succ]
      omega
    · rw [pixel?_putAlong_before (Nat.lt_of_not_le hbehind), hput]

/-- Each image is shown where it was put: the later ones begin where it ends. -/
theorem pixel?_putAlong_covered {index : Nat} {image : Image} (himage : images[index]? = some image)
    (hx : x < image.width) (hy : y < image.height)
    (hright : left + (offset images index + x) < canvas.width) (hbottom : y < canvas.height) :
    (canvas.putAlong left images).pixel? (left + (offset images index + x)) y
      = image.pixel? x y := by
  induction images generalizing canvas left index with
  | nil => cases himage
  | cons first images ih =>
    rw [putAlong]
    cases index with
    | zero =>
      obtain rfl : first = image := Option.some.inj himage
      rw [offset_zero, Nat.zero_add] at hright ⊢
      rw [pixel?_putAlong_before (Nat.add_lt_add_left hx left)]
      have hshown : (canvas.put first left 0).pixel? (left + x) (0 + y) = first.pixel? x y :=
        pixel?_put_inside hx hy hright (by omega)
      rwa [Nat.zero_add] at hshown
    | succ index =>
      rw [offset_cons_succ, Nat.add_assoc first.width, ← Nat.add_assoc left] at hright ⊢
      exact ih himage hright hbottom

end PutAlong

/-! ## Laying out -/

/-- An image shows others side by side, aligned at the top, and is transparent
    wherever it shows none of them. -/
structure LaysOut (canvas : Image) (images : List Image) : Prop where
  /-- It is as wide as all of them together. -/
  width_eq : canvas.width = (images.map width).foldr (· + ·) 0
  /-- None of them is higher. -/
  height_le (image : Image) : image ∈ images → image.height ≤ canvas.height
  /-- One of them is as high, or there are none. -/
  height_eq : (images = [] ∧ canvas.height = 0) ∨ ∃ image ∈ images, image.height = canvas.height
  /-- Each pixel of each of them stands behind the images before it. -/
  shows (index : Nat) (image : Image) : images[index]? = some image →
    ∀ x y, x < image.width → y < image.height →
      canvas.pixel? (offset images index + x) y = some (image.pixel x y)
  /-- All other pixels are transparent. -/
  clear (x y : Nat) : x < canvas.width → y < canvas.height →
    (∀ index, ¬ Covers images index x y) → canvas.pixel? x y = some .transparent

/-- Images of one size that show the same everywhere are the same. -/
theorem eq_of_pixel_eq {a b : Image} (hwidth : a.width = b.width) (hheight : a.height = b.height)
    (h : ∀ x y, x < a.width → y < a.height → a.pixel x y = b.pixel x y) : a = b := by
  have hpixels := (pixels_eq_iff (by rw [size, size, hwidth, hheight])).2 h
  exact Image.ext hwidth hheight hpixels

namespace LaysOut

variable {canvas canvas' : Image} {images : List Image}

theorem height_unique (h : canvas.LaysOut images) (h' : canvas'.LaysOut images) :
    canvas.height ≤ canvas'.height := by
  rcases h.height_eq with ⟨-, hzero⟩ | ⟨image, hmem, heq⟩
  · omega
  · rw [← heq]
    exact h'.height_le image hmem

/-- There is one way to lay out images. -/
theorem unique (h : canvas.LaysOut images) (h' : canvas'.LaysOut images) : canvas = canvas' := by
  have hwidth : canvas.width = canvas'.width := h.width_eq.trans h'.width_eq.symm
  have hheight : canvas.height = canvas'.height :=
    Nat.le_antisymm (h.height_unique h') (h'.height_unique h)
  refine eq_of_pixel_eq hwidth hheight fun x y hx hy => ?_
  have hsame : canvas.pixel? x y = canvas'.pixel? x y := by
    -- a place is covered by some image, which both show, or by none
    by_cases hcovered : ∃ index, Covers images index x y
    · obtain ⟨index, image, himage, hcolumn, hrow⟩ := hcovered
      have hplace : offset images index + (x - offset images index) = x := by omega
      have hinside : x - offset images index < image.width := by omega
      have hshown := h.shows index image himage _ y hinside hrow
      have hshown' := h'.shows index image himage _ y hinside hrow
      rw [hplace] at hshown hshown'
      rw [hshown, hshown']
    · rw [not_exists] at hcovered
      rw [h.clear x y hx hy hcovered, h'.clear x y (hwidth ▸ hx) (hheight ▸ hy) hcovered]
  rw [pixel, pixel, hsame]

end LaysOut

/-! ## Strips -/

/-- The strip is wide enough for each of its images. -/
theorem offset_add_le (images : List Image) {index : Nat} {image : Image}
    (himage : images[index]? = some image) :
    offset images index + image.width ≤ (images.map width).foldr (· + ·) 0 := by
  induction images generalizing index with
  | nil => cases himage
  | cons first images ih =>
    rw [List.map_cons, List.foldr_cons]
    cases index with
    | zero =>
      obtain rfl : first = image := Option.some.inj himage
      simp
    | succ index =>
      have hrest := ih himage
      simp only [offset_cons_succ]
      omega

/-- The highest image reaches as far down as the strip. -/
theorem le_foldl_max (heights : List Nat) (start : Nat) :
    start ≤ heights.foldl max start ∧ ∀ height ∈ heights, height ≤ heights.foldl max start := by
  induction heights generalizing start with
  | nil => exact ⟨Nat.le_refl _, fun _ hmem => nomatch hmem⟩
  | cons first heights ih =>
    obtain ⟨hstart, hrest⟩ := ih (max start first)
    rw [List.foldl_cons]
    refine ⟨by omega, fun height hmem => ?_⟩
    rcases List.mem_cons.1 hmem with rfl | hmem
    · omega
    · exact hrest height hmem

/-- And no further. -/
theorem foldl_max_mem (heights : List Nat) (start : Nat) :
    heights.foldl max start = start ∨ heights.foldl max start ∈ heights := by
  induction heights generalizing start with
  | nil => exact .inl rfl
  | cons first heights ih =>
    rw [List.foldl_cons, List.mem_cons]
    rcases ih (max start first) with hstart | hmem
    · rw [hstart]
      omega
    · exact .inr (.inr hmem)

@[simp] theorem width_strip (images : List Image) :
    (strip images).width = (images.map width).foldr (· + ·) 0 := by
  simp [strip, blank]

@[simp] theorem height_strip (images : List Image) :
    (strip images).height = (images.map height).foldl max 0 := by
  simp [strip, blank]

theorem height_le_strip {images : List Image} {image : Image} (h : image ∈ images) :
    image.height ≤ (strip images).height := by
  rw [height_strip]
  exact (le_foldl_max (images.map height) 0).2 image.height (List.mem_map_of_mem h)

theorem laysOut_strip (images : List Image) : (strip images).LaysOut images where
  width_eq := width_strip images
  height_le _ h := height_le_strip h
  height_eq := by
    cases images with
    | nil => exact .inl ⟨rfl, rfl⟩
    | cons first images =>
      refine .inr ?_
      rw [height_strip]
      rcases foldl_max_mem ((first :: images).map height) 0 with hzero | hmem
      · -- if the highest has no rows, the first has none either
        have hfirst := (le_foldl_max ((first :: images).map height) 0).2 first.height (by simp)
        exact ⟨first, List.mem_cons_self, by omega⟩
      · exact List.mem_map.1 hmem
  shows index image himage x y hx hy := by
    have hwide := offset_add_le images himage
    have hhigh := height_le_strip (List.mem_of_getElem? himage)
    rw [height_strip] at hhigh
    have hshown : (strip images).pixel? (0 + (offset images index + x)) y = image.pixel? x y :=
      pixel?_putAlong_covered himage hx hy
        (show _ < (images.map width).foldr (· + ·) 0 by omega)
        (show y < (images.map height).foldl max 0 by omega)
    rwa [Nat.zero_add, pixel?_of_lt hx hy] at hshown
  clear x y hx hy h := by
    rw [width_strip] at hx
    rw [height_strip] at hy
    rw [strip, pixel?_putAlong_uncovered (Nat.zero_le x) h, blank, pixel?_ofFn, if_pos ⟨hx, hy⟩]

/-- An image without rows takes its columns, and one without columns its rows. -/
example : (strip [.ofFn 1 0 fun _ _ => ⟨1, 1, 1, 1⟩, .ofFn 1 1 fun _ _ => ⟨2, 2, 2, 2⟩,
      .ofFn 0 2 fun _ _ => ⟨3, 3, 3, 3⟩]).pixels.toList
    = [.transparent, ⟨2, 2, 2, 2⟩, .transparent, .transparent] := by
  decide +kernel

/-! ## Strips of three -/

/-- Every pixel of an image is found on the strip. -/
theorem pixel_strip (before : List Image) (image : Image) (after : List Image) {x y : Nat}
    (hx : x < image.width) (hy : y < image.height) :
    (strip (before ++ image :: after)).pixel ((before.map width).foldr (· + ·) 0 + x) y
      = image.pixel x y := by
  have hshown := (laysOut_strip (before ++ image :: after)).shows before.length image (by simp)
    x y hx hy
  rw [offset, List.take_left] at hshown
  rw [pixel, hshown, Option.getD_some]

section ThreeImages

variable {a b : Image} (hsize : a.size = b.size)

include hsize

/-- The strip of a pair is three times as wide as its images, and as high. -/
theorem size_stripOf : (Backend.stripOf a b).size = (3 * a.width, a.height) := by
  have hwidth : a.width = b.width := congrArg Prod.fst hsize
  have hheight : a.height = b.height := congrArg Prod.snd hsize
  have hwide : (differenceImage a b).width = a.width := rfl
  have hhigh : (differenceImage a b).height = a.height := rfl
  rw [Backend.stripOf, size, width_strip, height_strip]
  simp only [List.map_cons, List.map_nil, List.foldr_cons, List.foldr_nil, List.foldl_cons,
    List.foldl_nil, hwide, hhigh, ← hwidth, ← hheight, Prod.mk.injEq]
  omega

/-- Its thirds are the reference, the difference and the generated image. -/
theorem pixel_stripOf {x y : Nat} (hx : x < a.width) (hy : y < a.height) :
    (Backend.stripOf a b).pixel x y = a.pixel x y ∧
    (Backend.stripOf a b).pixel (a.width + x) y = (differenceImage a b).pixel x y ∧
    (Backend.stripOf a b).pixel (2 * a.width + x) y = b.pixel x y := by
  have hwidth : a.width = b.width := congrArg Prod.fst hsize
  have hheight : a.height = b.height := congrArg Prod.snd hsize
  have hleft := pixel_strip [] a [differenceImage a b, b] hx hy
  have hmiddle := pixel_strip [a] (differenceImage a b) [b] hx hy
  have hright := pixel_strip [a, differenceImage a b] b [] (hwidth ▸ hx) (hheight ▸ hy)
  have htwice : ([a, differenceImage a b].map width).foldr (· + ·) 0 = 2 * a.width := by
    have hdifference : (differenceImage a b).width = a.width := rfl
    simp only [List.map_cons, List.map_nil, List.foldr_cons, List.foldr_nil, hdifference]
    omega
  rw [htwice] at hright
  rw [List.map_nil, List.foldr_nil, Nat.zero_add] at hleft
  rw [List.map_singleton, List.foldr_cons, List.foldr_nil, Nat.add_zero] at hmiddle
  exact ⟨hleft, hmiddle, hright⟩

end ThreeImages

end RenderCheck.Image
