import RenderCheck.Jpeg.Marker

/-! # The bits of a scan

    The bytes of a scan are read bit by bit, the highest bit of each first,
    through a window of 64 bits that is filled up whenever fewer than 32 of
    its bits are known. A byte 255 is followed by a zero, which is no part of
    the bits; followed by anything else it is a marker, at which filling stops.
    Behind a marker there are zeros. At the end of the file the bits run out. -/

namespace RenderCheck.Jpeg

/-- Where the bits of a scan are being read. -/
structure ScanBits where
  /-- The bytes that the window has not taken in. -/
  bytes : List UInt8
  /-- The next bits, from the highest one down. -/
  window : UInt64 := 0
  /-- How many bits of the window are known. -/
  known : UInt8 := 0
  /-- The marker at which the bytes stopped. -/
  marker : Option Marker := none
  /-- The last byte of the file has been taken in. -/
  spent : Bool := false
  /-- The end of the image has been met. -/
  closed : Bool := false
  deriving DecidableEq

namespace ScanBits

/-- The window with the bits that are not known cleared. -/
def settled (s : ScanBits) : UInt64 :=
  if s.known = 0 then 0
  else (s.window >>> (64 - s.known.toUInt64)) <<< (64 - s.known.toUInt64)

/-- Takes a byte in. -/
def append (s : ScanBits) (byte : UInt8) (bytes : List UInt8) : ScanBits :=
  { s with
    bytes
    window := s.settled ||| (byte.toUInt64 <<< (56 - s.known.toUInt64))
    known := s.known + 8 }

/-- Takes in bytes one by one, up to a marker. Zeros stand behind the end of
    the file. A marker without a meaning is a fault. -/
def appendBytes : (count : Nat) → ScanBits → Option ScanBits
  | 0, s => some s
  | count + 1, s =>
    let byte := s.bytes.headD 0
    let bytes := s.bytes.tail
    let s := { s with spent := s.spent || bytes.isEmpty }
    if byte ≠ 0xFF then appendBytes count (s.append byte bytes)
    else
      match bytes.dropWhile (· = 0xFF) with
      | [] => appendBytes count (s.append byte [])
      | next :: bytes =>
        if next = 0 then appendBytes count (s.append byte bytes)
        else if Marker.isKnown next then
          some { s with
            bytes
            window := if s.known = 0 then s.window else s.settled
            marker := some next }
        else none

/-- Fills the window up, so that at least 32 bits are known as long as there
    are any. It is a fault when none is left in the file. -/
def fill (s : ScanBits) : Option ScanBits :=
  if 32 ≤ s.known then some s
  else if s.marker.isSome || s.closed then
    some { s with window := s.settled, known := s.known + 32 }
  else if s.spent then
    if s.known = 0 then none else some s
  else
    match s.bytes with
    | a :: b :: c :: d :: bytes =>
      if [a, b, c, d].contains 0xFF then appendBytes 4 s
      else some ((((s.append a []).append b []).append c []).append d bytes)
    | _ => appendBytes 4 s

/-- The number made of the next bits, which stay. -/
def peek (s : ScanBits) (count : Nat) : Nat :=
  (s.window >>> (64 - count.toUInt64)).toNat

/-- Passes over bits. -/
def skip (s : ScanBits) (count : Nat) : ScanBits :=
  let count := count.toUInt8
  { s with
    window := s.window <<< count.toUInt64
    known := if s.known < count then 0 else s.known - count }

/-- Takes one bit. -/
def bit (s : ScanBits) : Bool × ScanBits :=
  (s.peek 1 = 1, s.skip 1)

/-- Takes a number of so many bits. The window turns: the bits come in again
    at its lower end, where filling clears them. -/
def number (count : Nat) (s : ScanBits) : Nat × ScanBits :=
  if count = 0 then (0, s)
  else
    let value := s.peek count
    (value, { s with
      window := (s.window <<< count.toUInt64) ||| value.toUInt64
      known := s.known - count.toUInt8 })

/-- Takes a number of so many bits. Numbers that begin with a zero are
    negative. -/
def signed (count : Nat) (s : ScanBits) : Int × ScanBits :=
  let (value, s) := s.number count
  (if count = 0 then 0
    else if value < Nat.pow 2 (count - 1) then (value : Int) - (Nat.pow 2 count - 1 : Nat)
    else value, s)

/-- Drops all bits of the window and the marker, to go on behind it. -/
def restart (s : ScanBits) : ScanBits :=
  { s with window := 0, known := 0, marker := none }

/-- Passes over bytes to the next marker. A marker without a meaning is passed
    over too, and none is found. -/
def seekMarker (s : ScanBits) : Option Marker × ScanBits :=
  match Marker.find s.bytes with
  | none => (none, { s with bytes := [] })
  | some (marker, bytes) =>
    (if Marker.isKnown marker then some marker else none, { s with bytes })

end ScanBits

end RenderCheck.Jpeg
