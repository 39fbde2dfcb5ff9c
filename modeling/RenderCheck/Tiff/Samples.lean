import RenderCheck.Image.Basic
import RenderCheck.Tiff.Description

/-! # Samples of TIFF images

    The bytes of a row are samples of some bits. What was subtracted from them
    is added again, and those of each pixel make up its color. -/

namespace RenderCheck.Tiff

/-! ## Rows of samples -/

/-- The bits of a byte, the highest first. -/
def bitsOf (byte : UInt8) : List Nat :=
  (List.range 8).map fun i => byte.toNat / Nat.pow 2 (7 - i) % 2

/-- The samples in the bytes of a row. -/
def rowSamples (s : Source) (bits : Nat) (row : List UInt8) : List Nat :=
  if bits = 1 then row.flatMap bitsOf
  else s.numbers (bits / 8) (row.length / (bits / 8)) row

/-- Adds to each sample the one `step` before it; `sums` are the last `step`
    results, the oldest first. -/
def addBefore (bound : Nat) : (sums : List Nat) → List Nat → List Nat
  | _, [] => []
  | [], samples => samples
  | before :: sums, sample :: samples =>
    let sum := (before + sample) % bound
    sum :: addBefore bound (sums ++ [sum]) samples

/-- Numbers of four bytes, of which first all highest bytes are given, then all
    bytes below them, and so on. -/
def gatherBytes (bytes : Array Nat) : List Nat :=
  let count := bytes.size / 4
  (List.range count).map fun i =>
    (List.range 4).foldl (fun n k => n * 256 + bytes.getD (k * count + i) 0) 0

namespace Description

/-- The bytes of a row of so many pixels. -/
def rowBytes (x : Description) (width : Nat) : Nat :=
  (width * x.bits * x.together + 7) / 8

/-- The samples in the bytes of a row of a block. -/
def samplesOf (x : Description) (s : Source) (row : List UInt8) : List Nat :=
  let zeros := List.replicate x.together 0
  match x.predictor with
  | .none => rowSamples s x.bits row
  | .before => addBefore (Nat.pow 2 x.bits) zeros (rowSamples s x.bits row)
  | .beforeByBytes => gatherBytes (addBefore 256 zeros (row.map UInt8.toNat)).toArray

end Description

/-! ## Colors -/

/-- A number with a fraction from 0 to 1 as a level of eight bits. What is below
    counts as 0, what is above or no number as 1. -/
def levelOf (number : Float32) : UInt8 :=
  let number := if number < 1.0 then (if number < 0.0 then 0.0 else number) else 1.0
  (number * 255.0).round.toUInt8

/-- A sample of so many bits as one of eight. -/
def scaleSample (bits value : Nat) : UInt8 :=
  if bits = 1 then (value * 255).toUInt8
  else if bits = 16 then ((value + 128) / 257).toUInt8
  else if bits = 32 then levelOf (.ofBits value.toUInt32)
  else value.toUInt8

/-- A level of ink and of black as a level of light, out of `top`. -/
def lightOf (top ink black : Nat) : Nat :=
  ((top.toFloat32 - ink.toFloat32) * (1.0 - black.toFloat32 / top.toFloat32)).toUInt16.toNat

/-- The color that samples of so many bits make up. -/
def pixelOf (kind : ColorKind) (whiteIsZero : Bool) (bits : Nat) (samples : List Nat) : Pixel :=
  let scale := scaleSample bits
  match kind, samples with
  | .gray, gray :: _ =>
    let gray := if whiteIsZero then 255 - scale gray else scale gray
    ⟨gray, gray, gray, 255⟩
  | .rgb, red :: green :: blue :: _ => ⟨scale red, scale green, scale blue, 255⟩
  | .rgba, red :: green :: blue :: alpha :: _ =>
    ⟨scale red, scale green, scale blue, scale alpha⟩
  | .cmyk, cyan :: magenta :: yellow :: black :: _ =>
    let light (ink : Nat) : UInt8 := scale (lightOf (Nat.pow 2 bits - 1) ink black)
    ⟨light cyan, light magenta, light yellow, 255⟩
  | _, _ => .transparent

end RenderCheck.Tiff
