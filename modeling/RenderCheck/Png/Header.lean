import RenderCheck.Png.Chunk

/-! # Image headers

    The header tells the size of an image, what its samples mean and how many
    bits they have, and whether its rows are interlaced. -/

namespace RenderCheck.Png

/-- What the samples of a pixel are. -/
inductive ColorType where
  | gray
  | rgb
  | indexed
  | grayAlpha
  | rgba
  deriving DecidableEq

namespace ColorType

/-- The number that stands for the color type in a header. -/
def code : ColorType → Nat
  | gray => 0
  | rgb => 2
  | indexed => 3
  | grayAlpha => 4
  | rgba => 6

/-- The color type of a number. -/
def ofCode? : Nat → Option ColorType
  | 0 => some gray
  | 2 => some rgb
  | 3 => some indexed
  | 4 => some grayAlpha
  | 6 => some rgba
  | _ => none

/-- The samples of one pixel. -/
def channels : ColorType → Nat
  | gray => 1
  | rgb => 3
  | indexed => 1
  | grayAlpha => 2
  | rgba => 4

/-- The bits a sample may have. -/
def depths : ColorType → List Nat
  | gray => [1, 2, 4, 8, 16]
  | indexed => [1, 2, 4, 8]
  | _ => [8, 16]

end ColorType

/-- What the header of an image says. -/
structure Header where
  width : Nat
  height : Nat
  /-- The bits of a sample. -/
  depth : Nat
  colorType : ColorType
  interlaced : Bool
  deriving DecidableEq

namespace Header

/-- The bits of a pixel. -/
def pixelBits (h : Header) : Nat :=
  h.colorType.channels * h.depth

/-- The bytes of a row of the given width. -/
def rowBytes (h : Header) (width : Nat) : Nat :=
  (width * h.pixelBits + 7) / 8

/-- The distance in bytes from a pixel to the one before it, at least one. -/
def pixelBytes (h : Header) : Nat :=
  max 1 (h.pixelBits / 8)

/-- The header as the data of its chunk. -/
def encode (h : Header) : List UInt8 :=
  Deflate.bigEndian32 h.width ++ Deflate.bigEndian32 h.height
    ++ [h.depth.toUInt8, h.colorType.code.toUInt8, 0, 0, if h.interlaced then 1 else 0]

/-- Reads the data of the header's chunk. -/
def decode (data : List UInt8) : Except Fault Header :=
  match data with
  | [w₀, w₁, w₂, w₃, h₀, h₁, h₂, h₃, depth, color, compression, filter, interlace] =>
    let width := ofBigEndian [w₀, w₁, w₂, w₃]
    let height := ofBigEndian [h₀, h₁, h₂, h₃]
    match ColorType.ofCode? color.toNat with
    | none => .error .colorType
    | some colorType =>
      if !colorType.depths.contains depth.toNat then .error .colorType
      else if width = 0 ∨ height = 0 then .error .dimensions
      else if compression ≠ 0 ∨ filter ≠ 0 ∨ 1 < interlace.toNat then .error .header
      else .ok ⟨width, height, depth.toNat, colorType, interlace.toNat = 1⟩
  | _ => .error .header

end Header

end RenderCheck.Png
