import RenderCheck.FileTree.Content
import RenderCheck.Image.Basic
import RenderCheck.Png.Header

/-! # Writing PNG images

    An image is written with all four channels, unfiltered and stored without
    compression, its data cut into pieces that fit into chunks. The first bytes
    of the file are written before the pixels are looked at. -/

namespace RenderCheck.Png

/-- Cuts bytes into rows and puts the filter that changes nothing before each;
    `length` is that of a row. -/
def unfilteredRows (length : Nat) : (count : Nat) → List UInt8 → List UInt8
  | 0, _ => []
  | count + 1, bytes => 0 :: bytes.take length ++ unfilteredRows length count (bytes.drop length)

/-- The most data in one chunk of pixels. -/
def pieceLimit : Nat := Nat.pow 2 20

/-- The chunks of pixels that hold some bytes; the fuel is their number. -/
def pixelChunks : (fuel : Nat) → List UInt8 → List Chunk
  | 0, bytes => [⟨Chunk.pixels, bytes⟩]
  | fuel + 1, bytes =>
    if bytes.length ≤ pieceLimit then [⟨Chunk.pixels, bytes⟩]
    else ⟨Chunk.pixels, bytes.take pieceLimit⟩ :: pixelChunks fuel (bytes.drop pieceLimit)

/-- The chunk of a header. -/
def Header.chunk (header : Header) : Chunk :=
  ⟨Chunk.header, header.encode⟩

/-- The chunk that ends a file. -/
def Chunk.last : Chunk :=
  ⟨Chunk.ending, []⟩

/-- The bytes of the frame around compressed data that come in a chunk of their
    own, so that a file begins in the same way whatever its pixels are. -/
def frameLength : Nat := 2

/-- The file of a header and the bytes of all rows, one after the other. -/
def encodeRows (header : Header) (rows : List UInt8) : List UInt8 :=
  let data := Deflate.zlibStore
    (unfilteredRows (header.rowBytes header.width) header.height rows)
  let chunks := header.chunk :: ⟨Chunk.pixels, data.take frameLength⟩
    :: pixelChunks data.length (data.drop frameLength) ++ [Chunk.last]
  signature ++ chunks.flatMap Chunk.encode

/-- The header of an image with all channels. -/
def Header.ofImage (image : Image) : Header :=
  ⟨image.width, image.height, 8, .rgba, false⟩

/-- The file of an image. -/
def encode (image : Image) : List UInt8 :=
  encodeRows (.ofImage image) image.samples

/-! ## The beginning of a file -/

/-- The signature, the header, and the head of the first chunk of pixels. -/
def headOf (header : Header) : List UInt8 :=
  signature ++ header.chunk.encode ++ Deflate.bigEndian32 frameLength ++ Chunk.pixels

theorem length_headOf (header : Header) : (headOf header).length = Content.headLength := rfl

/-- Every file begins with what its header says. -/
theorem take_encodeRows (header : Header) (rows : List UInt8) :
    (encodeRows header rows).take Content.headLength = headOf header := by
  have hframe (bytes : List UInt8) :
      (Chunk.mk Chunk.pixels ((Deflate.zlibStore bytes).take frameLength)).encode
        = Deflate.bigEndian32 frameLength ++ Chunk.pixels
          ++ ([0x78, 0x01] ++ Deflate.bigEndian32 (crc32 (Chunk.pixels ++ [0x78, 0x01]))) := rfl
  have hbegins : headOf header <+: encodeRows header rows := by
    simp only [encodeRows, headOf, List.cons_append, List.flatMap_cons, hframe, List.append_assoc,
      List.prefix_append_right_inj, List.prefix_append]
  rw [← length_headOf header, ← List.prefix_iff_eq_take.1 hbegins]

/-- The file of an image, of which the pixels are written when they are asked
    for. -/
def contentOf (image : Image) : Content where
  head := headOf (.ofImage image)
  store := Thunk.mk fun _ => encode image
  head_eq := (take_encodeRows _ _).symm

/-- It is no other file for that. -/
@[simp] theorem contentOf_eq (image : Image) : contentOf image = .ofBytes (encode image) :=
  Content.ext rfl

end RenderCheck.Png
