import RenderCheck.Deflate.Zlib

/-! # Chunks

    A PNG file is a signature and a sequence of chunks: the length of the
    data, four letters that name the kind, the data, and a checksum of both. -/

namespace RenderCheck.Png

/-- The bytes every file begins with. -/
def signature : List UInt8 :=
  [0x89, 0x50, 0x4E, 0x47, 0x0D, 0x0A, 0x1A, 0x0A]

/-- A chunk: its kind, as four letters, and its data. -/
structure Chunk where
  kind : List UInt8
  data : List UInt8
  deriving DecidableEq

namespace Chunk

/-- The header of the image. -/
def header : List UInt8 := [0x49, 0x48, 0x44, 0x52]
/-- The palette. -/
def palette : List UInt8 := [0x50, 0x4C, 0x54, 0x45]
/-- Which colors are transparent. -/
def transparency : List UInt8 := [0x74, 0x52, 0x4E, 0x53]
/-- What the colors are. -/
def colors : List UInt8 := [0x63, 0x49, 0x43, 0x50]
/-- Compressed pixels. -/
def pixels : List UInt8 := [0x49, 0x44, 0x41, 0x54]
/-- What a frame of an animation covers, before its pixels. -/
def frame : List UInt8 := [0x66, 0x63, 0x54, 0x4C]
/-- Compressed pixels of a frame, behind a number. -/
def framePixels : List UInt8 := [0x66, 0x64, 0x41, 0x54]
/-- The end of the file. -/
def ending : List UInt8 := [0x49, 0x45, 0x4E, 0x44]

/-- A chunk that the image cannot do without: its kind begins with a capital. -/
def isCritical (kind : List UInt8) : Bool :=
  match kind with
  | first :: _ => first.toNat / 32 % 2 = 0
  | [] => false

/-- The kinds of chunks that are critical and known. -/
def criticalKinds : List (List UInt8) :=
  [header, palette, pixels, ending]

end Chunk

/-! ## Checksum -/

/-- One step of the checksum: a division by the polynomial, bit by bit. -/
def crcShift (word : UInt32) : UInt32 :=
  if word &&& 1 = 1 then (word >>> 1) ^^^ 0xEDB88320 else word >>> 1

/-- The checksum with one more byte. -/
def crcByte (word : UInt32) (byte : UInt8) : UInt32 :=
  (crcShift ∘ crcShift ∘ crcShift ∘ crcShift ∘ crcShift ∘ crcShift ∘ crcShift ∘ crcShift)
    (word ^^^ byte.toUInt32)

/-- The checksum of some bytes. -/
def crc32 (bytes : List UInt8) : Nat :=
  ((bytes.foldl crcByte 0xFFFFFFFF) ^^^ 0xFFFFFFFF).toNat

/-! ## Reading and writing -/

/-- The number in four bytes, the highest first. -/
def ofBigEndian (bytes : List UInt8) : Nat :=
  bytes.foldl (fun n byte => n * 256 + byte.toNat) 0

/-- A chunk as bytes. -/
def Chunk.encode (chunk : Chunk) : List UInt8 :=
  Deflate.bigEndian32 chunk.data.length ++ chunk.kind ++ chunk.data
    ++ Deflate.bigEndian32 (crc32 (chunk.kind ++ chunk.data))

/-- Why a file is no PNG image. -/
inductive Fault where
  /-- The file ends too early. -/
  | endOfData
  /-- The file does not begin with the signature. -/
  | signature
  /-- A chunk's checksum is wrong. -/
  | checksum
  /-- The first chunk is not the header, or there is another header. -/
  | header
  /-- The header describes no image. -/
  | dimensions
  /-- The header names a kind of image that does not exist. -/
  | colorType
  /-- A chunk is critical and unknown. -/
  | unknownChunk
  /-- The palette is no list of colors, or not the first one. -/
  | palette
  /-- The colors are not described in a way that can be read. -/
  | colorDescription
  /-- The frames of an animation are out of order or outside the image. -/
  | frame
  /-- There are no pixels. -/
  | noPixels
  /-- The palette of an indexed image is missing. -/
  | noPalette
  /-- The pixels cannot be decompressed. -/
  | compression
  /-- There is not enough data for all pixels. -/
  | shortPixels
  /-- A row names a filter that does not exist. -/
  | filter
  /-- The image is too large. -/
  | tooLarge
  deriving DecidableEq

/-- What a message says about the fault. -/
def Fault.text : Fault → String
  | endOfData => "unexpected end of file"
  | signature => "Invalid PNG signature."
  | checksum => "CRC error."
  | header => "IHDR chunk missing"
  | dimensions => "Invalid image dimensions"
  | colorType => "Invalid color/depth combination in header."
  | unknownChunk => "Unrecognized critical chunk."
  | palette => "Invalid palette."
  | colorDescription => "invalid data"
  | frame => "Invalid frame."
  | noPixels => "IDAT or fdAT chunk is missing."
  | noPalette => "Missing palette of indexed image."
  | compression => "Corrupt deflate stream."
  | shortPixels => "IDAT or fDAT chunk does not have enough data for image."
  | filter => "Unknown filter method."
  | tooLarge => "Memory limit exceeded"

/-- Reads the length and the kind of a chunk. -/
def readChunkHead? : List UInt8 → Option (Nat × List UInt8 × List UInt8)
  | a :: b :: c :: d :: k₀ :: k₁ :: k₂ :: k₃ :: rest =>
    some (ofBigEndian [a, b, c, d], [k₀, k₁, k₂, k₃], rest)
  | _ => none

/-- Reads the data and the checksum of a chunk whose head has been read: the
    chunk, whether the checksum is right, and the bytes after it. -/
def readChunkBody? (length : Nat) (kind bytes : List UInt8) :
    Option (Chunk × Bool × List UInt8) :=
  let data := bytes.take length
  let after := bytes.drop length
  if data.length = length ∧ 4 ≤ after.length then
    some (⟨kind, data⟩, ofBigEndian (after.take 4) = crc32 (kind ++ data), after.drop 4)
  else none

end RenderCheck.Png
