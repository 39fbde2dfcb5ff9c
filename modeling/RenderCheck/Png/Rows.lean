import RenderCheck.Png.Header

/-! # Rows of samples

    Each row of an image is a filter and filtered bytes: what is stored is
    the difference to a prediction from the bytes before and above. Interlaced
    images come in seven passes of ever finer grids. -/

namespace RenderCheck.Png

/-! ## Filters -/

/-- Of three predictions the one nearest to left + above − upper left. -/
def paeth (left above corner : UInt8) : UInt8 :=
  let estimate : Int := left.toNat + above.toNat - corner.toNat
  let toLeft := (estimate - left.toNat).natAbs
  let toAbove := (estimate - above.toNat).natAbs
  let toCorner := (estimate - corner.toNat).natAbs
  if toLeft ≤ toAbove ∧ toLeft ≤ toCorner then left
  else if toAbove ≤ toCorner then above
  else corner

/-- Undoes a filter that predicts a byte from the ones to the left, above and
    at the upper left, `step` bytes before. -/
def unpredict (step : Nat) (predict : UInt8 → UInt8 → UInt8 → UInt8)
    (above row : List UInt8) : List UInt8 :=
  let aboveBytes := above.toArray
  let undo (done : Array UInt8) (byte : UInt8) : Array UInt8 :=
    let place := done.size
    let before (bytes : Array UInt8) : UInt8 :=
      if place < step then 0 else bytes.getD (place - step) 0
    done.push (byte + predict (before done) (aboveBytes.getD place 0) (before aboveBytes))
  (row.foldl undo #[]).toList

/-- Undoes the filter of a row, given the row above it. -/
def unfilter (step : Nat) (filter : UInt8) (above row : List UInt8) : Except Fault (List UInt8) :=
  match filter.toNat with
  | 0 => .ok row
  | 1 => .ok (unpredict step (fun left _ _ => left) above row)
  | 2 => .ok (unpredict step (fun _ above _ => above) above row)
  | 3 => .ok (unpredict step
      (fun left above _ => ((left.toNat + above.toNat) / 2).toUInt8) above row)
  | 4 => .ok (unpredict step paeth above row)
  | _ => .error .filter

/-- Reads rows of `length` bytes and the filter before each: the rows, and the
    data after them. -/
def readRows (step length : Nat) : (count : Nat) → (above data : List UInt8) →
    Except Fault (List (List UInt8) × List UInt8)
  | 0, _, data => .ok ([], data)
  | count + 1, above, data =>
    match data with
    | [] => .error .shortPixels
    | filter :: rest => do
      let row := rest.take length
      if row.length < length then throw .shortPixels
      let row ← unfilter step filter above row
      let (rows, after) ← readRows step length count row (rest.drop length)
      return (row :: rows, after)

/-! ## Samples -/

/-- The samples of a byte with less than eight bits each, the highest first. -/
def splitByte (depth : Nat) (byte : UInt8) : List Nat :=
  (List.range (8 / depth)).map fun i => byte.toNat / Nat.pow 2 (8 - depth * (i + 1)) % Nat.pow 2 depth

/-- The samples of a row. -/
def rowSamples (depth : Nat) (row : List UInt8) : List Nat :=
  if depth = 8 then row.map UInt8.toNat
  else if depth = 16 then pairs row
  else row.flatMap (splitByte depth)
where
  /-- Numbers of two bytes, the higher first. -/
  pairs : List UInt8 → List Nat
    | high :: low :: rest => (high.toNat * 256 + low.toNat) :: pairs rest
    | _ => []

/-! ## Passes -/

/-- The grid of a pass: where it starts and how far its points are apart. -/
structure Pass where
  x : Nat
  y : Nat
  stepX : Nat
  stepY : Nat
  deriving DecidableEq

/-- The passes of an interlaced image. -/
def interlacedPasses : List Pass :=
  [⟨0, 0, 8, 8⟩, ⟨4, 0, 8, 8⟩, ⟨0, 4, 4, 8⟩, ⟨2, 0, 4, 4⟩, ⟨0, 2, 2, 4⟩, ⟨1, 0, 2, 2⟩,
   ⟨0, 1, 1, 2⟩]

/-- The passes of an image. -/
def Header.passes (h : Header) : List Pass :=
  if h.interlaced then interlacedPasses else [⟨0, 0, 1, 1⟩]

/-- How many points of a grid lie below a bound. -/
def gridCount (bound start step : Nat) : Nat :=
  (bound - start + step - 1) / step

end RenderCheck.Png
