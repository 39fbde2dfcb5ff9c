import RenderCheck.Jpeg.Progressive

/-! # Reading JPEG images

    The headers tell which scheme the pixels are sent in. -/

namespace RenderCheck.Jpeg

/-- What is shown of the image in a JPEG file. -/
def raster (aim : Aim) (bytes : List UInt8) : Except Fault Raster := do
  let (header, bytes) ← Header.read bytes
  let header := header.fitted.completed.leveled
  if header.progressive then decodeProgressive aim header bytes
  else decodeSequential aim header bytes

/-- The image in a JPEG file. -/
def decode (bytes : List UInt8) : Except Fault Image :=
  (raster .light bytes).map Raster.image

/-- The samples of all components in a JPEG file, point by point. -/
def decodeComponents (bytes : List UInt8) : Except Fault (List UInt8) :=
  (raster .components bytes).map Raster.bytes

end RenderCheck.Jpeg
