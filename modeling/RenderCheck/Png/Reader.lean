import RenderCheck.FileTree.Content
import RenderCheck.Image.Basic
import RenderCheck.Png.Rows

/-! # Reading PNG images

    Every kind of image becomes red, green, blue and alpha of eight bits.
    Samples of fewer bits are spread over the whole range, samples of more are
    rounded, a palette is looked up, and a transparent color gets alpha 0. An
    image that is too large is refused before any of its pixels is read. -/

namespace RenderCheck.Png

/-! ## Chunks of a file -/

/-- What the chunks of a file say before those with pixels. -/
structure Contents where
  header : Header
  /-- The bytes of the palette. -/
  palette : Option (List UInt8) := none
  /-- Which color is transparent, sample by sample, or the alphas of the
      palette. -/
  transparency : Option (List Nat) := none
  /-- There was a chunk that says what the colors are. -/
  describesColors : Bool := false
  /-- The number of the last frame of an animation. -/
  sequence : Option Nat := none
  deriving DecidableEq

namespace Contents

/-- The most bytes a palette has. -/
def paletteLimit : Nat := 3 * 256

/-- Takes in a palette. There is one at most, with at least one color. -/
def addPalette (contents : Contents) (data : List UInt8) : Except Fault Contents :=
  if contents.palette.isSome ∨ data = [] ∨ data.length % 3 ≠ 0 ∨ paletteLimit < data.length then
    .error .palette
  else .ok { contents with palette := some data }

/-- What the data of a chunk says to be transparent: a color, of which only as
    many bits of each two bytes count as a sample has, or the alphas of a
    palette seen before. A color of sixteen bits with bytes too many is none
    that occurs. -/
def readTransparency? (contents : Contents) (data : List UInt8) : Option (List Nat) :=
  let header := contents.header
  let samples := header.colorType.channels
  let values := rowSamples.pairs (data.take (2 * samples))
  let color :=
    if header.depth < 16 then values.map (· % 256)
    else if data.length = 2 * samples then values
    else []
  if 256 < data.length then none
  else
    match header.colorType with
    | .gray | .rgb => if data.length < 2 * samples then none else some color
    | .indexed => if contents.palette.isNone then none else some (data.map UInt8.toNat)
    | .grayAlpha | .rgba => none

/-- Takes in what is transparent; only the first such chunk that makes sense
    counts. -/
def addTransparency (contents : Contents) (data : List UInt8) : Contents :=
  if contents.transparency.isSome then contents
  else { contents with transparency := contents.readTransparency? data }

/-- Takes in what the colors are. It counts before the palette and for the
    first time, if it is long enough. The colors have to be red, green and blue
    as they are, and to fill their range or not. -/
def addColors (contents : Contents) (data : List UInt8) : Except Fault Contents :=
  match data with
  | _primaries :: _transfer :: mixing :: range :: rest =>
    if contents.palette.isSome ∨ contents.describesColors then .ok contents
    else if mixing ≠ 0 ∨ 1 < range.toNat then .error .colorDescription
    else .ok { contents with describesColors := rest = [] }
  | _ => .ok contents

/-- The number that comes next in an animation. -/
def nextNumber (contents : Contents) : Nat :=
  match contents.sequence with
  | none => 0
  | some number => number + 1

/-- Takes in a frame that the image itself is part of: it has the next number,
    covers the whole image, and says in a known way how to go on. -/
def addFrame (contents : Contents) (data : List UInt8) : Except Fault Contents :=
  let number (place : Nat) : Nat := ofBigEndian ((data.drop place).take 4)
  let header := contents.header
  if data.length < 26 ∨ number 0 ≠ contents.nextNumber
      ∨ number 4 ≠ header.width ∨ number 8 ≠ header.height ∨ number 12 ≠ 0 ∨ number 16 ≠ 0
      ∨ 2 < (data.getD 24 0).toNat ∨ 1 < (data.getD 25 0).toNat then
    .error .frame
  else .ok { contents with sequence := some contents.nextNumber }

/-- Takes in a chunk before those with pixels. -/
def add (contents : Contents) (chunk : Chunk) : Except Fault Contents :=
  if chunk.kind = Chunk.ending then .error .noPixels
  else if chunk.kind = Chunk.header then .error .header
  else if chunk.kind = Chunk.palette then contents.addPalette chunk.data
  else if chunk.kind = Chunk.transparency then .ok (contents.addTransparency chunk.data)
  else if chunk.kind = Chunk.colors then contents.addColors chunk.data
  else if chunk.kind = Chunk.frame then contents.addFrame chunk.data
  else .ok contents

end Contents

/-- Reads the chunks after the header up to those with pixels: what they say,
    and the bytes from there on. The pixels of further frames must not come
    before them. A chunk that the image can do without is passed over if its
    checksum is wrong. -/
def readContents : (fuel : Nat) → Contents → List UInt8 → Except Fault (Contents × List UInt8)
  | 0, _, _ => .error .endOfData
  | fuel + 1, contents, bytes =>
    match readChunkHead? bytes with
    | none => .error .endOfData
    | some (length, kind, body) =>
      if kind = Chunk.pixels then .ok (contents, bytes)
      else if kind = Chunk.framePixels then .error .frame
      else if Chunk.isCritical kind ∧ kind ∉ Chunk.criticalKinds then .error .unknownChunk
      else
        match readChunkBody? length kind body with
        | none => .error .endOfData
        | some (chunk, sound, after) =>
          if sound then do
            let contents ← contents.add chunk
            readContents fuel contents after
          else if Chunk.isCritical kind then .error .checksum
          else readContents fuel contents after

/-- Reads the signature, the header and what follows it up to the pixels. -/
def readHead (bytes : List UInt8) : Except Fault (Contents × List UInt8) := do
  if bytes.length < 8 then throw .endOfData
  if bytes.take 8 ≠ signature then throw .signature
  let some (length, kind, body) := readChunkHead? (bytes.drop 8) | throw .endOfData
  if kind ≠ Chunk.header then throw .header
  let some (chunk, sound, after) := readChunkBody? length kind body | throw .endOfData
  if !sound then throw .checksum
  let header ← Header.decode chunk.data
  readContents (after.length + 1) { header := header } after

/-! ## Colors -/

/-- A sample of `depth` bits as one of eight: spread evenly, or rounded. -/
def scaleSample (depth value : Nat) : UInt8 :=
  if depth = 16 then ((value + 128) / 257).toUInt8
  else (value * 255 / (Nat.pow 2 depth - 1)).toUInt8

/-- The color of an entry of the palette. Entries beyond its end are black; a
    list of alphas longer than the palette counts for nothing. -/
def paletteColor (palette : List UInt8) (alphas : List Nat) (index : Nat) : Pixel :=
  let alphas := if alphas.length ≤ palette.length / 3 then alphas else []
  let alpha := (alphas[index]?.getD 255).toUInt8
  match palette.drop (3 * index) with
  | red :: green :: blue :: _ => ⟨red, green, blue, alpha⟩
  | _ => ⟨0, 0, 0, alpha⟩

/-- The colors that samples stand for, pixel by pixel. -/
def colors (contents : Contents) : List Nat → List Pixel :=
  let depth := contents.header.depth
  let scale := scaleSample depth
  let transparent := contents.transparency
  match contents.header.colorType with
  | .gray => fun samples => samples.map fun gray =>
    let alpha := if transparent = some [gray] then 0 else 255
    ⟨scale gray, scale gray, scale gray, alpha⟩
  | .indexed =>
    let palette := contents.palette.getD []
    let alphas := contents.transparency.getD []
    fun samples => samples.map (paletteColor palette alphas)
  | .rgb => triples scale transparent
  | .grayAlpha => twos scale
  | .rgba => fours scale
where
  /-- Pixels of red, green and blue. -/
  triples (scale : Nat → UInt8) (transparent : Option (List Nat)) : List Nat → List Pixel
    | red :: green :: blue :: rest =>
      let alpha := if transparent = some [red, green, blue] then 0 else 255
      ⟨scale red, scale green, scale blue, alpha⟩ :: triples scale transparent rest
    | _ => []
  /-- Pixels of gray and alpha. -/
  twos (scale : Nat → UInt8) : List Nat → List Pixel
    | gray :: alpha :: rest =>
      ⟨scale gray, scale gray, scale gray, scale alpha⟩ :: twos scale rest
    | _ => []
  /-- Pixels of red, green, blue and alpha. -/
  fours (scale : Nat → UInt8) : List Nat → List Pixel
    | red :: green :: blue :: alpha :: rest =>
      ⟨scale red, scale green, scale blue, scale alpha⟩ :: fours scale rest
    | _ => []

/-! ## Pixels -/

/-- Puts the pixels of one row of a pass into their places. -/
def placeRow (width : Nat) (pass : Pass) (row : Nat) (pixels : Array Pixel)
    (colors : List Pixel) : Array Pixel :=
  colors.zipIdx.foldl (fun pixels (color, column) =>
    pixels.setIfInBounds
      ((pass.y + row * pass.stepY) * width + (pass.x + column * pass.stepX)) color) pixels

/-- Puts the pixels of the rows of a pass into their places. -/
def placeRows (contents : Contents) (pixels : Array Pixel) (pass : Pass)
    (rows : List (List UInt8)) : Array Pixel :=
  let header := contents.header
  let count := gridCount header.width pass.x pass.stepX * header.colorType.channels
  rows.zipIdx.foldl (fun pixels (row, index) =>
    placeRow header.width pass index pixels
      (colors contents ((rowSamples header.depth row).take count))) pixels

/-- The pixels of all passes in their places. -/
def placePasses (contents : Contents) (passes : List (Pass × List (List UInt8))) : Array Pixel :=
  let header := contents.header
  passes.foldl (fun pixels (pass, rows) => placeRows contents pixels pass rows)
    (Array.replicate (header.width * header.height) .transparent)

/-- Reads the rows of the passes that have any. -/
def readPasses (header : Header) : List Pass → (data : List UInt8) →
    Except Fault (List (Pass × List (List UInt8)))
  | [], _ => .ok []
  | pass :: passes, data => do
    let width := gridCount header.width pass.x pass.stepX
    let height := gridCount header.height pass.y pass.stepY
    if width = 0 ∨ height = 0 then readPasses header passes data
    else
      let length := header.rowBytes width
      let (rows, data) ←
        readRows header.pixelBytes length height (List.replicate length 0) data
      return (pass, rows) :: (← readPasses header passes data)

/-! ## Compressed pixels -/

/-- Reads chunks with pixels up to the head of the first other one. -/
def readPixels : (fuel : Nat) → List UInt8 → Except Fault (List (List UInt8))
  | 0, _ => .error .endOfData
  | fuel + 1, bytes =>
    match readChunkHead? bytes with
    | none => .error .endOfData
    | some (length, kind, body) =>
      if kind ≠ Chunk.pixels then .ok []
      else
        match readChunkBody? length kind body with
        | none => .error .endOfData
        | some (chunk, sound, after) => do
          if !sound then throw .checksum
          return chunk.data :: (← readPixels fuel after)

/-- The bytes of all rows of the passes, each with its filter. -/
def Header.dataLength (header : Header) : Nat :=
  (header.passes.map fun pass =>
    let width := gridCount header.width pass.x pass.stepX
    let height := gridCount header.height pass.y pass.stepY
    if width = 0 then 0 else height * (1 + header.rowBytes width)).foldr (· + ·) 0

/-- The most bytes that are decompressed: those of the rows, or a generous
    estimate if they are interlaced. -/
def Header.dataLimit (header : Header) : Nat :=
  header.height * (1 + header.rowBytes header.width) * (if header.interlaced then 2 else 1)

/-- Decompresses chunk after chunk until there is enough for all rows. `fed`
    is what came before. -/
def inflateChunks (limit needed : Nat) : (fed : List UInt8) → List (List UInt8) →
    Except Fault (List UInt8)
  | _, [] => .error .shortPixels
  | fed, chunk :: chunks =>
    match Deflate.zlibInflate .sparing limit (fed ++ chunk) with
    | (_, .error .malformed) => .error .compression
    | (data, _) =>
      if needed ≤ data.size then .ok data.toList
      else inflateChunks limit needed (fed ++ chunk) chunks

/-- Decompresses the pixels. Only if all chunks together make no sense does it
    matter where the first of them end. -/
def inflatePixels (header : Header) (compressed : List (List UInt8)) :
    Except Fault (List UInt8) :=
  let limit := header.dataLimit
  let needed := header.dataLength
  match Deflate.zlibInflate .sparing limit compressed.flatten with
  | (_, .error .malformed) => inflateChunks limit needed [] compressed
  | (data, _) => if needed ≤ data.size then .ok data.toList else .error .shortPixels

/-! ## Images -/

/-- The bytes of the image as it is read, with whatever channels it needs. -/
def Contents.outputLength (contents : Contents) : Nat :=
  let header := contents.header
  let alpha := if contents.transparency.isSome then 1 else 0
  let channels :=
    match header.colorType with
    | .gray => 1 + alpha
    | .rgb | .indexed => 3 + alpha
    | .grayAlpha => 2
    | .rgba => 4
  header.width * header.height * channels * (if header.depth = 16 then 2 else 1)

/-- There is no palette where one is needed. -/
def Contents.lacksPalette (contents : Contents) : Bool :=
  contents.header.colorType = .indexed && contents.palette = none

/-- The most bytes an image may have. -/
def outputLimit : Nat := 512 * 1024 * 1024

/-- The image in a PNG file, if it has no more than so many bytes. The pixels are
    put into their places when they are asked for; that there are enough of them
    is seen before. -/
def decodeWithin (limit : Nat) (bytes : List UInt8) : Except Fault Image := do
  let (contents, bytes) ← readHead bytes
  let header := contents.header
  if contents.lacksPalette then throw .noPalette
  if limit < contents.outputLength then throw .tooLarge
  let compressed ← readPixels (bytes.length + 1) bytes
  let data ← inflatePixels header compressed
  let passes ← readPasses header header.passes data
  let pixels := Thunk.mk fun _ => placePasses contents passes
  return .ofFn header.width header.height fun x y =>
    pixels.get.getD (y * header.width + x) .transparent

/-- The image in a PNG file. -/
def decode (bytes : List UInt8) : Except Fault Image :=
  decodeWithin outputLimit bytes

/-- Some bytes say what a file says before its pixels, and that its image has
    more bytes than allowed. -/
def saysTooLarge (limit : Nat) (bytes : List UInt8) : Bool :=
  match readHead bytes with
  | .ok (contents, _) => !contents.lacksPalette && limit < contents.outputLength
  | .error _ => false

/-- The image that a file holds. If its first bytes say that it is too large,
    the others are not asked for. -/
def decodeContent (content : Content) : Except Fault Image :=
  if saysTooLarge outputLimit content.head then .error .tooLarge else decode content.bytes

end RenderCheck.Png
