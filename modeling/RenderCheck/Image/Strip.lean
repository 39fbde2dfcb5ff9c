import RenderCheck.Image.Basic

/-! # Strips

    Images side by side on one canvas, from left to right and aligned at the
    top. The canvas is transparent at first, and the images are put on it one
    after the other, over what is there. -/

namespace RenderCheck.Image

/-- A canvas with nothing on it. -/
def blank (width height : Nat) : Image :=
  .ofFn width height fun _ _ => .transparent

/-- Puts an image on a canvas, its top left corner at a column and a row. It
    takes the place of what was there; what would reach beyond the canvas is cut
    off. -/
def put (canvas image : Image) (left top : Nat) : Image :=
  .ofFn canvas.width canvas.height fun x y =>
    if left ≤ x ∧ top ≤ y then
      (image.pixel? (x - left) (y - top)).getD (canvas.pixel x y)
    else canvas.pixel x y

/-- Puts images on a canvas from a column on, each to the right of the one
    before it. -/
def putAlong (canvas : Image) (left : Nat) : List Image → Image
  | [] => canvas
  | image :: images => (canvas.put image left 0).putAlong (left + image.width) images

/-- Images side by side. -/
def strip (images : List Image) : Image :=
  (blank ((images.map width).foldr (· + ·) 0) ((images.map height).foldl max 0)).putAlong 0 images

end RenderCheck.Image
