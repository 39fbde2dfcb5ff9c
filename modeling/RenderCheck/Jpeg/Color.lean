import RenderCheck.Image.Basic
import RenderCheck.Jpeg.Header
import RenderCheck.Jpeg.Transform

/-! # Colors of JPEG images

    Samples of the components at a point make up a color. Differences to
    brightness are turned into red, green and blue with factors scaled by
    16384. Inks are the light that they leave, and black leaves a part of that
    light. -/

namespace RenderCheck.Jpeg

/-- Red, green and blue out of brightness and the differences of blue and of
    red to it. -/
def rgbOf (y cb cr : Nat) : Nat × Nat × Nat :=
  let y : Int := y * 16384 + 8192
  let cb : Int := cb - 128
  let cr : Int := cr - 128
  (clampSample ((y + 22970 * cr) / 16384),
   clampSample ((y - 5638 * cb - 11700 * cr) / 16384),
   clampSample ((y + 29032 * cb) / 16384))

/-- The part of a light that another one leaves, both out of 255. -/
def lightOf (a b : Nat) : Nat :=
  let product := a * b + 128
  (product + product / 256) / 256

/-- What is shown of an image. -/
inductive Aim where
  /-- Its light: gray alone, or red, green and blue. -/
  | light
  /-- Its components as they were sent. -/
  | components
  deriving DecidableEq

/-- The samples of the components of a row of points, one after the other. -/
def componentsOf (colors : ColorSpace) (width : Nat) (samples : List (Array Nat)) :
    Except Fault (List Nat) :=
  let count := if samples.length = 1 then 1 else colors.size
  if samples.length < count then .error .colors
  else
    .ok ((List.range width).flatMap fun x =>
      (samples.take count).map fun samples => samples.getD x 0)

/-- The light of a row of points, channel by channel, out of the samples of the
    components; there are `width` points. -/
def lightsOf (colors : ColorSpace) (width : Nat) (samples : List (Array Nat)) :
    Except Fault (List Nat) :=
  let points := List.range width
  match colors, samples with
  | .gray, [a] | .differences, [a] => .ok (points.map fun x => a.getD x 0)
  | .pair, [a, b] => .ok (points.flatMap fun x => [a.getD x 0, b.getD x 0])
  | .plain, a :: b :: c :: _ =>
    .ok (points.flatMap fun x => [a.getD x 0, b.getD x 0, c.getD x 0])
  | .differences, a :: b :: c :: _ =>
    .ok (points.flatMap fun x =>
      let (red, green, blue) := rgbOf (a.getD x 0) (b.getD x 0) (c.getD x 0)
      [red, green, blue])
  | .inks, [a, b, c, black] =>
    .ok (points.flatMap fun x =>
      let black := black.getD x 0
      [lightOf (a.getD x 0) black, lightOf (b.getD x 0) black, lightOf (c.getD x 0) black])
  | .inkDifferences, [a, b, c, black] =>
    .ok (points.flatMap fun x =>
      let (red, green, blue) := rgbOf (a.getD x 0) (b.getD x 0) (c.getD x 0)
      let black := black.getD x 0
      [lightOf (255 - red) black, lightOf (255 - green) black, lightOf (255 - blue) black])
  | _, _ => .error .colors

/-- The channels of a row of points, one after the other. -/
def channelsOf (aim : Aim) (colors : ColorSpace) (width : Nat) (samples : List (Array Nat)) :
    Except Fault (List Nat) :=
  match aim with
  | .light => lightsOf colors width samples
  | .components => componentsOf colors width samples

/-- The pixel of a point, out of its one or three channels. -/
def pixelOf : List Nat → Pixel
  | [gray] => ⟨gray.toUInt8, gray.toUInt8, gray.toUInt8, 255⟩
  | red :: green :: blue :: _ => ⟨red.toUInt8, green.toUInt8, blue.toUInt8, 255⟩
  | _ => .transparent

end RenderCheck.Jpeg
