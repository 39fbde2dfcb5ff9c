/-! # Markers of JPEG files

    A marker is the byte 255 and another byte that is neither zero nor 255. It
    may have more bytes 255 before it. Markers cut a file into segments. -/

namespace RenderCheck.Jpeg

/-- The second byte of a marker. -/
abbrev Marker : Type := UInt8

namespace Marker

/-- The image ends here. -/
def endOfImage : Marker := 0xD9

/-- A scan starts here. -/
def startOfScan : Marker := 0xDA

/-- Reading starts anew here. There are eight such markers. -/
def isRestart (marker : Marker) : Bool :=
  0xD0 ≤ marker && marker ≤ 0xD7

/-- The marker has a meaning. -/
def isKnown (marker : Marker) : Bool :=
  marker = 0xFE || 0xC0 ≤ marker && marker ≠ 0xC8 && marker ≤ 0xDD
    || 0xE0 ≤ marker && marker ≤ 0xEF

/-- The first marker and what stands behind it; `opened` says that there was a
    byte 255 just before. -/
def findFrom : (opened : Bool) → List UInt8 → Option (Marker × List UInt8)
  | _, [] => none
  | false, byte :: rest => findFrom (byte = 0xFF) rest
  | true, byte :: rest =>
    if byte = 0xFF then findFrom true rest
    else if byte = 0 then findFrom false rest
    else some (byte, rest)

/-- The first marker and what stands behind it. -/
def find (bytes : List UInt8) : Option (Marker × List UInt8) :=
  findFrom false bytes

end Marker

end RenderCheck.Jpeg
