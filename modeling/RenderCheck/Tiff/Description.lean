import RenderCheck.Tiff.Compression
import RenderCheck.Tiff.Directory

/-! # Descriptions of TIFF images

    The tags of the directory tell the size of the image, what its samples
    mean, how they are compressed, and where they stand: in strips of rows or
    in tiles, each compressed by itself. -/

namespace RenderCheck.Tiff

/-! ## Tags -/

/-- The numbers of the tags. -/
def Tag.width : Nat := 256
/-- The number of rows. -/
def Tag.height : Nat := 257
/-- The bits of each sample. -/
def Tag.bits : Nat := 258
/-- The method of compression. -/
def Tag.compression : Nat := 259
/-- What the samples mean. -/
def Tag.interpretation : Nat := 262
/-- The places of the strips. -/
def Tag.stripPlaces : Nat := 273
/-- The samples of a pixel. -/
def Tag.samples : Nat := 277
/-- The rows of a strip. -/
def Tag.stripRows : Nat := 278
/-- The bytes of each strip. -/
def Tag.stripSizes : Nat := 279
/-- Whether the samples of a pixel stand together. -/
def Tag.arrangement : Nat := 284
/-- What was subtracted from the samples. -/
def Tag.predictor : Nat := 317
/-- The columns of a tile. -/
def Tag.tileWidth : Nat := 322
/-- The rows of a tile. -/
def Tag.tileHeight : Nat := 323
/-- The places of the tiles. -/
def Tag.tilePlaces : Nat := 324
/-- The bytes of each tile. -/
def Tag.tileSizes : Nat := 325
/-- What the samples are that do not make up the color. -/
def Tag.extraSamples : Nat := 338
/-- What kind of numbers the samples are. -/
def Tag.sampleFormat : Nat := 339
/-- The tables that all JPEG files share. -/
def Tag.sharedTables : Nat := 347
/-- How much coarser differences of color are than brightness, across and
    down. -/
def Tag.coarseness : Nat := 530

/-! ## Samples -/

/-- What the samples of a pixel mean. -/
inductive Interpretation where
  | whiteIsZero
  | blackIsZero
  | rgb
  | palette
  | mask
  | cmyk
  | yCbCr
  | lab
  | iccLab
  deriving DecidableEq

namespace Interpretation

/-- The meaning of a number. -/
def ofNumber? : Nat → Option Interpretation
  | 0 => some whiteIsZero
  | 1 => some blackIsZero
  | 2 => some rgb
  | 3 => some palette
  | 4 => some mask
  | 5 => some cmyk
  | 6 => some yCbCr
  | 8 => some lab
  | 9 => some iccLab
  | 10 => some lab
  | _ => none

/-- The meaning as it stands in messages. -/
def name : Interpretation → String
  | whiteIsZero => "WhiteIsZero"
  | blackIsZero => "BlackIsZero"
  | rgb => "RGB"
  | palette => "RGBPalette"
  | mask => "TransparencyMask"
  | cmyk => "CMYK"
  | yCbCr => "YCbCr"
  | lab => "CIELab"
  | iccLab => "IccLab"

end Interpretation

/-- What was subtracted from the samples. -/
inductive Predictor where
  | none
  /-- The samples of the pixel before. -/
  | before
  /-- The samples are numbers with a fraction; their first bytes come first,
      then their second ones and so on, and from each byte one before was
      subtracted. -/
  | beforeByBytes
  deriving DecidableEq

/-- The predictor of a number. -/
def Predictor.ofNumber? : Nat → Option Predictor
  | 1 => some none
  | 2 => some before
  | 3 => some beforeByBytes
  | _ => Option.none

/-- The samples of a pixel that are read, by what they make up. -/
inductive ColorKind where
  | gray
  /-- Any samples. -/
  | bands
  | rgb
  | rgba
  | cmyk
  | cmyka
  | yCbCr
  | lab
  deriving DecidableEq

namespace ColorKind

/-- The number of samples that make up a color. -/
def channels : ColorKind → Nat
  | gray | bands => 1
  | rgb | yCbCr | lab => 3
  | rgba | cmyk => 4
  | cmyka => 5

/-- The kind as it stands in messages, for samples of so many bits. -/
def name (bits samples : Nat) : ColorKind → String
  | gray => "Gray(" ++ toString bits ++ ")"
  | bands =>
    "Multiband \x7b bit_depth: " ++ toString bits ++ ", num_samples: " ++ toString samples
      ++ " \x7d"
  | rgb => "RGB(" ++ toString bits ++ ")"
  | rgba => "RGBA(" ++ toString bits ++ ")"
  | cmyk => "CMYK(" ++ toString bits ++ ")"
  | cmyka => "CMYKA(" ++ toString bits ++ ")"
  | yCbCr => "YCbCr(" ++ toString bits ++ ")"
  | lab => "Lab(" ++ toString bits ++ ")"

/-- How many bits a sample may have. -/
def depths : ColorKind → List Nat
  | gray => [1, 8, 16]
  | rgb | rgba => [8, 16, 32]
  | cmyk => [8, 16]
  | _ => []

/-- The bits of a pixel as they stand in messages; there are none for kinds that
    have no colors. -/
def messageBits (bits samples : Nat) : ColorKind → Nat
  | gray => bits
  | bands => min 255 (bits * samples)
  | rgb | yCbCr => min 255 (3 * bits)
  | rgba | cmyk => min 255 (4 * bits)
  | cmyka | lab => 0

end ColorKind

/-! ## Descriptions -/

/-- The part of an image that is compressed by itself: a strip or a tile. -/
structure Block where
  /-- Where it stands in the file. -/
  place : Nat
  /-- The bytes that it takes there. -/
  size : Nat
  deriving DecidableEq

/-- What a directory says about an image. -/
structure Description where
  width : Nat
  height : Nat
  interpretation : Interpretation
  compression : Compression
  /-- The samples of a pixel. -/
  samples : Nat
  /-- The last samples of a pixel, which do not make up the color: 1 and 2 stand
      for alpha. -/
  extra : List Nat
  /-- The bits of a sample. -/
  bits : Nat
  predictor : Predictor
  /-- The samples are the numbers that this tag says. -/
  sampleFormat : Option Nat
  /-- The samples of a pixel stand apart. -/
  apart : Bool
  blockWidth : Nat
  blockHeight : Nat
  blocks : List Block
  deriving DecidableEq

namespace Description

/-- The largest number of four bytes and one more. -/
def bound32 : Nat := 4294967296

/-- The name of a kind of samples. -/
def formatName : Nat → String
  | 1 => "Uint"
  | 2 => "Int"
  | 3 => "IEEEFP"
  | 4 => "Void"
  | number => "Unknown(" ++ toString number ++ ")"

/-- A list as it stands in messages. -/
def listText (items : List String) : String :=
  "[" ++ ", ".intercalate items ++ "]"

/-- The kind of the samples, which has to be one for all. -/
def readSampleFormat (d : Directory) : Except Fault (Option Nat) := do
  match ← d.shorts? Tag.sampleFormat with
  | none => return none
  | some [] => throw .inconsistent
  | some (format :: formats) =>
    if formats.all (· = format) then return some format
    else
      throw (.unsupported
        ("sample format " ++ listText ((format :: formats).map formatName) ++ " is unsupported"))

/-- The bits of each sample, which have to be the same for all. -/
def readBits (d : Directory) (samples : Nat) : Except Fault Nat := do
  match (← d.numbers? Tag.bits).getD [1] with
  | [] => throw .inconsistent
  | bits :: others =>
    if 255 < (bits :: others).foldl max 0 then throw .notANumber
    if others ≠ [] ∧ others.length + 1 ≠ samples then throw .inconsistent
    if bits = 0 ∨ others.any (· ≠ bits) then
      throw (.unsupported
        ("inconsistent bits per sample: " ++ listText ((bits :: others).map toString)))
    return bits

/-- The tables that JPEG files share, if the pixels are compressed that way. -/
def readTables (d : Directory) (compression : Nat) : Except Fault (Option (List UInt8)) := do
  if compression ≠ Compression.jpegNumber then return none
  match ← d.numbers? Tag.sharedTables with
  | none => return none
  | some numbers =>
    if 255 < numbers.foldl max 0 then throw .notANumber
    if numbers.length < 2 then throw .inconsistent
    return some (numbers.map Nat.toUInt8)

/-- The samples that do not make up the color. There are no more of them than
    samples. -/
def readExtra (d : Directory) (samples : Nat) : Except Fault (List Nat) := do
  let extra := (← d.shorts? Tag.extraSamples).getD []
  if samples < extra.length then throw .inconsistent
  return extra

/-- Where the blocks of an image stand. -/
structure Layout where
  blockWidth : Nat
  blockHeight : Nat
  blocks : List Block

/-- Pairs places with sizes; there must be so many of both. -/
def pairBlocks (places sizes : List Nat) (count : Nat) : Except Fault (List Block) :=
  if places.length = sizes.length ∧ places.length = count then
    .ok ((places.zip sizes).map fun (place, size) => ⟨place, size⟩)
  else .error .inconsistent

/-- How many blocks it takes to cover a length. -/
def blocksFor (length block : Nat) : Nat :=
  (length + block - 1) / block

/-- The strips or tiles of an image. -/
def readLayout (d : Directory) (width height planes : Nat) : Except Fault Layout := do
  match d.has Tag.stripSizes, d.has Tag.stripPlaces, d.has Tag.tileSizes,
    d.has Tag.tilePlaces with
  | true, true, false, false =>
    let places := (← d.numbers? Tag.stripPlaces).getD []
    let sizes := (← d.numbers? Tag.stripSizes).getD []
    let rows := (← d.number? Tag.stripRows bound32).getD height
    if rows = 0 then throw .inconsistent
    return ⟨width, min rows height, ← pairBlocks places sizes (blocksFor height rows * planes)⟩
  | false, false, true, true =>
    let tileWidth ← d.number Tag.tileWidth bound32 "TileWidth"
    let tileHeight ← d.number Tag.tileHeight bound32 "TileLength"
    if tileWidth = 0 ∨ tileHeight = 0 then throw .inconsistent
    let places := (← d.numbers? Tag.tilePlaces).getD []
    let sizes := (← d.numbers? Tag.tileSizes).getD []
    let count := blocksFor width tileWidth * blocksFor height tileHeight * planes
    return ⟨tileWidth, tileHeight, ← pairBlocks places sizes count⟩
  | _, _, _, _ => throw .layout

/-- Reads what a directory says about its image. -/
def read (d : Directory) : Except Fault Description := do
  let width ← d.number Tag.width bound32 "ImageWidth"
  let height ← d.number Tag.height bound32 "ImageLength"
  if width = 0 ∨ height = 0 then throw (.dimensions width height)
  let some interpretation := (← d.short? Tag.interpretation).bind Interpretation.ofNumber?
    | throw (.unsupported "unknown photometric interpretation")
  let compression := (← d.short? Tag.compression).getD 1
  let tables ← readTables d compression
  let samples := (← d.short? Tag.samples).getD 1
  if samples = 0 then throw .noSamples
  let extra ← readExtra d samples
  let sampleFormat ← readSampleFormat d
  let bits ← readBits d samples
  let number := (← d.short? Tag.predictor).getD 1
  let some predictor := Predictor.ofNumber? number | throw (.predictor number)
  let arrangement := (← d.short? Tag.arrangement).getD 1
  if arrangement = 0 ∨ 2 < arrangement then throw (.arrangement arrangement)
  if (← d.shorts? Tag.coarseness).any (·.length ≠ 2) then throw .inconsistent
  let apart : Bool := arrangement = 2
  let layout ← readLayout d width height (if apart then samples else 1)
  return { width, height, interpretation, samples, extra, bits, predictor, sampleFormat, apart,
           compression := .ofNumber tables compression,
           blockWidth := layout.blockWidth, blockHeight := layout.blockHeight,
           blocks := layout.blocks }

/-! ## What can be read -/

/-- The number of samples that make up the color. -/
def colorSamples (x : Description) : Nat :=
  x.samples - x.extra.length

/-- The first sample behind the color is alpha. -/
def hasAlpha (x : Description) : Bool :=
  x.extra.head?.any fun meaning => meaning = 1 || meaning = 2

/-- The samples that are read, if there are as many as their meaning takes. A
    fourth sample of a color of three is alpha. -/
def kind? (x : Description) : Option ColorKind :=
  match x.interpretation, x.colorSamples with
  | .whiteIsZero, _ | .blackIsZero, _ => some (if x.samples = 1 then .gray else .bands)
  | .rgb, 3 => some (if x.hasAlpha then .rgba else .rgb)
  | .rgb, 4 => some .rgba
  | .cmyk, 4 => some (if x.hasAlpha then .cmyka else .cmyk)
  | .yCbCr, 3 => some .yCbCr
  | .iccLab, 3 => some .lab
  | _, _ => none

/-- The samples that are read. -/
def kind (x : Description) : Except Fault ColorKind :=
  match x.kind? with
  | some kind => .ok kind
  | none =>
    .error (.unsupported ("Photometric interpretation " ++ x.interpretation.name
      ++ " with bits per sample " ++ listText (List.replicate x.samples (toString x.bits))
      ++ " is unsupported"))

/-- If it is said what kind of numbers the samples are, they are whole numbers
    without a sign, or numbers of 32 bits with a fraction. -/
def checkFormat (x : Description) (kind : ColorKind) : Except Fault Unit :=
  let name := kind.name x.bits x.samples
  match x.sampleFormat, kind with
  | none, _ => .ok ()
  | some _, .yCbCr =>
    .error (.unsupported ("Unhandled TIFF color type " ++ name ++ " for " ++ toString x.bits
      ++ " bits"))
  | some _, .bands | some _, .cmyka | some _, .lab =>
    .error (.unsupported ("Unhandled TIFF color type " ++ name))
  | some format, _ =>
    if format = 1 && x.bits ≤ 16 || format = 3 && x.bits = 32 then .ok ()
    else
      .error (.unsupported ("Unhandled TIFF sample format " ++ toString format ++ " for "
        ++ toString x.bits ++ " bits"))

/-- The samples have a number of bits that can be read. -/
def checkBits (x : Description) (kind : ColorKind) : Except Fault Unit :=
  if kind.depths.contains x.bits then .ok ()
  else .error (.unsupportedColor (kind.messageBits x.bits x.samples))

/-- The samples of a pixel that stand together. -/
def together (x : Description) : Nat :=
  if x.apart then 1 else x.samples

/-- Rows of blocks side by side are whole bytes. -/
def checkAlignment (x : Description) : Except Fault Unit :=
  if 1 < blocksFor x.width x.blockWidth && x.blockWidth * x.bits * x.together % 8 ≠ 0 then
    .error (.unsupported "tile rows are not aligned to byte boundaries")
  else .ok ()

/-- What was subtracted from the samples can be added to them. -/
def checkPredictor (x : Description) (kind : ColorKind) : Except Fault Unit :=
  let name := kind.name x.bits x.samples
  match x.predictor with
  | .before =>
    if x.bits < 8 then
      .error (.unsupported ("horizontal predictor for " ++ name ++ " is unsupported"))
    else .ok ()
  | .beforeByBytes =>
    if x.bits < 8 ∨ x.sampleFormat ≠ some 3 then
      .error (.unsupported ("floating point predictor for " ++ name ++ " is unsupported"))
    else .ok ()
  | .none => .ok ()

/-- The pixels can be expanded. -/
def checkCompression (x : Description) : Except Fault Unit :=
  match x.compression with
  | .unsupported name =>
    .error (.unsupported ("compression method " ++ name ++ " is unsupported"))
  | _ => .ok ()

/-- The most bytes that an image and what it takes to read it may have. -/
def sizeLimit : Nat := 512 * 1024 * 1024

/-- The bytes of all samples. -/
def size (x : Description) : Nat :=
  x.width * x.height * x.samples * (x.bits / 8)

/-- The image is not too large. -/
def checkSize (x : Description) : Except Fault Unit :=
  if sizeLimit < x.size then .error .tooLarge else .ok ()

/-- No block is too large for what the image leaves. -/
def checkBlocks (x : Description) : Except Fault Unit :=
  if x.blocks.any fun block => sizeLimit < block.size + 2 * x.size then .error .tooLarge
  else .ok ()

/-- The image can be read, and the samples make up a color of this kind. -/
def check (x : Description) : Except Fault ColorKind := do
  let kind ← x.kind
  x.checkFormat kind
  x.checkBits kind
  x.checkSize
  x.checkAlignment
  x.checkPredictor kind
  x.checkBlocks
  x.checkCompression
  return kind

end Description

end RenderCheck.Tiff
