import RenderCheck.Tiff.Samples

/-! # Reading TIFF images

    The blocks of an image are expanded and put side by side. If the samples of
    a pixel stand apart, there is a plane of blocks for each of them. Of a file
    with several images the first one is read. -/

namespace RenderCheck.Tiff

/-! ## Blocks -/

/-- Cuts a list into parts of a length; the last one may be shorter. -/
def cutParts {α : Type} (length : Nat) : (count : Nat) → List α → List (List α)
  | 0, _ => []
  | count + 1, items => items.take length :: cutParts length count (items.drop length)

/-- Puts items into an array from a place on, as far as it goes. -/
def writeFrom {α : Type} (place : Nat) (items : List α) (all : Array α) : Array α :=
  items.zipIdx.foldl (fun all (item, i) => all.setIfInBounds (place + i) item) all

namespace Description

/-- The compressed bytes of a block. Those of a method for which the size does
    not count go on to the end of the file. -/
def blockBytes (x : Description) (s : Source) (needed : Nat) (block : Block) : List UInt8 :=
  s.upTo block.place
    (if x.compression = .plain then needed
      else if x.compression = .deflate then s.bytes.size
      else block.size)

/-- Some samples of each pixel are left out. -/
def leavesOut (x : Description) (kind : ColorKind) : Bool :=
  !x.apart && kind.channels < x.samples

/-- The rows of the block at a column and a row of blocks, as far as they lie
    inside the image: the samples of their pixels. If samples are left out, the
    rows go on as wide as the block is, but not wider than the image. -/
def readBlock (x : Description) (s : Source) (kind : ColorKind) (column row : Nat)
    (block : Block) : Except Fault (List (List (List Nat))) :=
  let inside := min x.blockWidth (x.width - column * x.blockWidth)
  let height := min x.blockHeight (x.height - row * x.blockHeight)
  let length := x.rowBytes x.blockWidth
  let whole := x.leavesOut kind || x.predictor = .beforeByBytes
  let used := if whole then length else x.rowBytes inside
  let needed := length * (height - 1) + used
  let width := if x.leavesOut kind then min x.blockWidth x.width else inside
  match x.compression.expand? x.blockWidth x.blockHeight needed (x.blockBytes s needed block) with
  | none => .error .compression
  | some bytes =>
    .ok ((cutParts length height bytes).map fun row =>
      cutParts x.together width (x.samplesOf s (row.take used)))

/-- The pixels of a plane, row by row. Each row of a block is written from its
    place on; where it goes on behind the end of the row of the image, it covers
    the beginning of the next one. -/
def readPlane (x : Description) (s : Source) (kind : ColorKind) (blocks : List Block) :
    Except Fault (Array (List Nat)) :=
  let across := blocksFor x.width x.blockWidth
  blocks.zipIdx.foldlM (fun pixels (block, i) => do
    let rows ← x.readBlock s kind (i % across) (i / across) block
    let place (y : Nat) : Nat :=
      (i / across * x.blockHeight + y) * x.width + i % across * x.blockWidth
    return rows.zipIdx.foldl (fun pixels (row, y) => writeFrom (place y) row pixels) pixels)
    (Array.replicate (x.width * x.height) [])

/-- The samples of all pixels, row by row. If they stand apart, only the planes
    of the color are read. -/
def readPixels (x : Description) (s : Source) (kind : ColorKind) :
    Except Fault (Array (List Nat)) := do
  if !x.apart then x.readPlane s kind x.blocks
  else
    let perPlane := x.blocks.length / x.samples
    let planes ← (cutParts perPlane kind.channels x.blocks).mapM (x.readPlane s kind)
    return planes.foldr (Array.zipWith (· ++ ·)) (Array.replicate (x.width * x.height) [])

end Description

/-! ## Images -/

/-- The image in a TIFF file. Inks that stand apart are not mixed. -/
def decode (bytes : List UInt8) : Except Fault Image := do
  let directory ← Directory.read bytes.toArray
  let x ← Description.read directory
  let kind ← x.check
  let pixels ← x.readPixels directory.source kind
  if x.apart ∧ kind = .cmyk then
    throw (.unsupported "Planar TIFF with CMYK color type is not supported")
  let whiteIsZero : Bool := x.interpretation = .whiteIsZero
  let pixels := pixels.map (pixelOf kind whiteIsZero x.bits)
  return .ofFn x.width x.height fun column row =>
    pixels.getD (row * x.width + column) .transparent

end RenderCheck.Tiff
