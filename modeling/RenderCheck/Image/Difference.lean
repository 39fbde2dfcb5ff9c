import RenderCheck.Binary32
import RenderCheck.Binary64.Arithmetic
import RenderCheck.Image.Basic
import RenderCheck.Metric

/-! # Differences of images

    The normalized mean squared error of two images, and the picture that
    shows where they differ: highlighted where they do, and a faded reference
    where they do not.

    The error is a sum of fractions; it is defined for any numbers with the
    four operations, so that it can be computed in floating point and reasoned
    about with exact fractions. -/

namespace RenderCheck

/-! ## Mean squared error -/

section MeanSquaredError

variable {α : Type} [Add α] [Sub α] [Mul α] [Div α] [NatCast α]

/-- The squared distance of two samples, with the full range as unit. -/
def squaredError (α : Type) [Sub α] [Mul α] [Div α] [NatCast α] (a b : UInt8) : α :=
  let distance := ((a.toNat : α) - (b.toNat : α)) / ((255 : Nat) : α)
  distance * distance

/-- The mean squared error over the samples that both images have, relative to
    the number of samples of the reference; zero for an empty reference. The
    sum is taken from the first sample on. -/
def meanSquaredError (α : Type) [Add α] [Sub α] [Mul α] [Div α] [NatCast α]
    (reference generated : Image) : α :=
  let count := reference.samples.length
  if count = 0 then ((0 : Nat) : α)
  else
    (List.zipWith (squaredError α) reference.samples generated.samples).foldl (· + ·)
      ((0 : Nat) : α) / (count : α)

end MeanSquaredError

/-- The metric of two images: their mean squared error in floating point. -/
def Metric.ofImages (reference generated : Image) : Metric :=
  ⟨meanSquaredError Binary64 reference generated⟩

/-! ## The picture of the differences -/

/-- The color of a pixel that differs. -/
def highlight : Pixel := ⟨241, 0, 30, 255⟩

/-- The share of the reference that is kept where nothing differs. -/
def lowlightKeep : Binary32 := .ofRatio 2 10

/-- A channel faded to the kept share of it and white for the rest. The light
    is computed in single precision, and its fraction dropped. -/
def fade (channel : UInt8) : UInt8 :=
  ((channel.toNat : Binary32) * lowlightKeep
    + ((255 : Nat) : Binary32) * (((1 : Nat) : Binary32) - lowlightKeep)).toUInt8

theorem lowlightKeep_eq : lowlightKeep = ⟨0x3E4CCCCD⟩ := by
  decide +kernel

/-- The share of white is four fifths of the range, exactly. -/
theorem white_share_eq :
    ((255 : Nat) : Binary32) * (((1 : Nat) : Binary32) - lowlightKeep)
      = Binary32.ofRatio 204 1 := by
  decide +kernel

/-- What single precision makes of a channel: a fifth of it, rounded down, above
    four fifths of the range. Whether the product with the kept share is rounded
    up or down changes from channel to channel, so all of them are gone
    through. -/
theorem fade_eq (channel : UInt8) : fade channel = 204 + channel / 5 := by
  have hall : ∀ n : Fin 256,
      (((UInt8.ofFin n).toNat : Binary32) * ⟨0x3E4CCCCD⟩ + Binary32.ofRatio 204 1).toUInt8
        = 204 + UInt8.ofFin n / 5 := by
    decide +kernel
  rw [fade, white_share_eq, lowlightKeep_eq]
  exact hall channel.toFin

/-- An opaque, faded pixel. -/
def Pixel.faded (p : Pixel) : Pixel :=
  ⟨fade p.red, fade p.green, fade p.blue, 255⟩

/-- The reference with every pixel that differs highlighted and every other
    one faded. -/
def differenceImage (reference generated : Image) : Image :=
  .ofFn reference.width reference.height fun x y =>
    if reference.pixel x y = generated.pixel x y then (reference.pixel x y).faded else highlight

end RenderCheck
