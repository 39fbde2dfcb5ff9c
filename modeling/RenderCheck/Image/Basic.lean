/-! # Images

    A rectangle of pixels with red, green, blue and alpha channels of eight
    bits, row by row from the top left. An image knows its size before it knows
    its pixels, as these may be many and may never be asked for. -/

namespace RenderCheck

/-- A pixel: its channels from 0 to 255. -/
structure Pixel where
  red : UInt8
  green : UInt8
  blue : UInt8
  alpha : UInt8
  deriving DecidableEq, Inhabited

namespace Pixel

/-- Black that lets everything through. -/
def transparent : Pixel := ⟨0, 0, 0, 0⟩

/-- The channels in order. -/
def channels (p : Pixel) : List UInt8 :=
  [p.red, p.green, p.blue, p.alpha]

end Pixel

/-- A rectangle of pixels. -/
structure Image where
  width : Nat
  height : Nat
  /-- The pixels, worked out when they are first asked for. -/
  store : Thunk (Array Pixel)
  size_store : store.get.size = width * height

namespace Image

/-- The pixels, row by row. -/
def pixels (image : Image) : Array Pixel :=
  image.store.get

theorem size_pixels (image : Image) : image.pixels.size = image.width * image.height :=
  image.size_store

@[ext] theorem ext {a b : Image} (hwidth : a.width = b.width) (hheight : a.height = b.height)
    (hpixels : a.pixels = b.pixels) : a = b := by
  cases a
  cases b
  cases hwidth
  cases hheight
  cases Thunk.ext hpixels
  rfl

instance : DecidableEq Image := fun a b =>
  decidable_of_iff (a.width = b.width ∧ a.height = b.height ∧ a.pixels = b.pixels)
    ⟨fun ⟨hwidth, hheight, hpixels⟩ => ext hwidth hheight hpixels, fun h => h ▸ ⟨rfl, rfl, rfl⟩⟩

/-- The place of a pixel inside the rectangle. -/
theorem index_lt {x y width height : Nat} (hx : x < width) (hy : y < height) :
    y * width + x < width * height := by
  calc y * width + x < y * width + width := by omega
    _ = (y + 1) * width := by rw [Nat.add_mul, Nat.one_mul]
    _ ≤ height * width := Nat.mul_le_mul_right _ hy
    _ = width * height := Nat.mul_comm _ _

/-- The image whose pixel at column `x` and row `y` is `color x y`. -/
def ofFn (width height : Nat) (color : Nat → Nat → Pixel) : Image where
  width := width
  height := height
  store := Thunk.mk fun _ =>
    Array.ofFn (n := width * height) fun i => color (i % width) (i / width)
  size_store := Array.size_ofFn

/-- The pixel at a column and a row, if the image reaches there. -/
def pixel? (image : Image) (x y : Nat) : Option Pixel :=
  if x < image.width ∧ y < image.height then image.pixels[y * image.width + x]? else none

/-- The pixel at a column and a row; outside the image it is transparent. -/
def pixel (image : Image) (x y : Nat) : Pixel :=
  (image.pixel? x y).getD .transparent

/-- Width and height. -/
def size (image : Image) : Nat × Nat :=
  (image.width, image.height)

/-- All channels of all pixels in order. -/
def samples (image : Image) : List UInt8 :=
  image.pixels.toList.flatMap Pixel.channels

/-! ## Laws -/

section OfFn

variable (width height : Nat) (color : Nat → Nat → Pixel)

@[simp] theorem width_ofFn : (ofFn width height color).width = width := rfl

@[simp] theorem height_ofFn : (ofFn width height color).height = height := rfl

@[simp] theorem size_ofFn : (ofFn width height color).size = (width, height) := rfl

@[simp] theorem pixels_ofFn :
    (ofFn width height color).pixels
      = Array.ofFn (n := width * height) fun i => color (i % width) (i / width) := rfl

/-- The pixels of an image given by a function are the values of the
    function. -/
@[simp] theorem pixel?_ofFn (x y : Nat) :
    (ofFn width height color).pixel? x y
      = if x < width ∧ y < height then some (color x y) else none := by
  rw [pixel?, pixels_ofFn, width_ofFn, height_ofFn]
  by_cases h : x < width ∧ y < height
  · have hi := index_lt h.1 h.2
    have hmod : (y * width + x) % width = x := by
      rw [Nat.mul_comm, Nat.mul_add_mod, Nat.mod_eq_of_lt h.1]
    have hdiv : (y * width + x) / width = y := by
      rw [Nat.mul_comm, Nat.mul_add_div (by omega), Nat.div_eq_of_lt h.1, Nat.add_zero]
    simp [h, hi, hmod, hdiv]
  · simp [h]

end OfFn

/-- Images of one size are alike if they are so at every place. -/
theorem pixels_eq_iff {a b : Image} (hsize : a.size = b.size) :
    a.pixels = b.pixels ↔ ∀ x y, x < a.width → y < a.height → a.pixel x y = b.pixel x y := by
  have hwidth : a.width = b.width := congrArg Prod.fst hsize
  have hheight : a.height = b.height := congrArg Prod.snd hsize
  constructor
  · intro hsame x y _ _
    rw [pixel, pixel, pixel?, pixel?, hsame, hwidth, hheight]
  · intro hsame
    refine Array.ext (by rw [a.size_pixels, b.size_pixels, hwidth, hheight]) fun i hi hi' => ?_
    -- each index is that of a place: its row and its column
    have hcount : i < a.width * a.height := a.size_pixels ▸ hi
    have hpositive : 0 < a.width := Nat.pos_of_mul_pos_right (Nat.zero_lt_of_lt hcount)
    have hx : i % a.width < a.width := Nat.mod_lt _ hpositive
    have hy : i / a.width < a.height := Nat.div_lt_of_lt_mul hcount
    have hplace : i / a.width * a.width + i % a.width = i := by
      rw [Nat.mul_comm]
      exact Nat.div_add_mod i a.width
    have hpixel := hsame (i % a.width) (i / a.width) hx hy
    rw [pixel, pixel, pixel?, pixel?, if_pos ⟨hx, hy⟩, if_pos ⟨hwidth ▸ hx, hheight ▸ hy⟩, ← hwidth,
      hplace] at hpixel
    simpa [hi, hi'] using hpixel

end Image

end RenderCheck
