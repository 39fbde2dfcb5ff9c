import RenderCheck.Jpeg.Marker
import RenderCheck.Jpeg.Progression
import RenderCheck.Jpeg.StandardCodes

/-! # Headers of JPEG files

    A JPEG file is a sequence of segments, each of which begins with a marker
    and mostly tells its length. Segments hold the factors and the codes of the
    blocks, the size of the image, its components, and heads of scans. Between
    scans there may be more segments, which change what is known so far. -/

namespace RenderCheck.Jpeg

/-! ## Faults -/

/-- Why a file holds no image that can be read. -/
inductive Fault where
  /-- The file ends too early. -/
  | endOfData
  /-- The file does not begin as it should. -/
  | signature
  /-- A segment is malformed. -/
  | segment
  /-- The image has no rows or no columns. -/
  | noPixels
  /-- A component lacks its factors or a code. -/
  | missingTable
  /-- The scans do not make up an image. -/
  | scan
  /-- The components do not make up colors. -/
  | colors
  /-- The way in which the pixels are encoded cannot be read. -/
  | unsupported (scheme : String)
  deriving DecidableEq

/-- What a message says about the fault. -/
def Fault.text : Fault → String
  | endOfData => "No more bytes"
  | signature => "Error parsing image. Illegal start bytes"
  | segment => "Error parsing image. Malformed segment"
  | noPixels => "Image width or height is set to zero, cannot continue"
  | missingTable => "Error parsing image. Missing table"
  | scan => "Error parsing image. Marker missing where expected"
  | colors => "Error parsing image. Unimplemented colorspace mapping"
  | unsupported scheme => scheme

/-! ## What headers say -/

/-- What the components of an image are. -/
inductive ColorSpace where
  /-- Gray alone. -/
  | gray
  /-- Two components that are taken for channels one after the other. -/
  | pair
  /-- Red, green and blue. -/
  | plain
  /-- Brightness, and the differences of blue and of red to it. -/
  | differences
  /-- Cyan, magenta, yellow and black, each as the light that it leaves. -/
  | inks
  /-- Brightness and differences for three inks, and black. -/
  | inkDifferences
  deriving DecidableEq

/-- The number of components that a color is made of. -/
def ColorSpace.size : ColorSpace → Nat
  | gray => 1
  | pair => 2
  | plain | differences => 3
  | inks | inkDifferences => 4

/-- A component of an image. -/
structure Component where
  id : Nat
  /-- How many blocks stand side by side in a group. -/
  across : Nat
  /-- How many rows of blocks there are in a group. -/
  down : Nat
  /-- The number of its table of factors. -/
  factors : Nat
  /-- The numbers of its codes. -/
  first : Nat := 0
  rest : Nat := 0
  deriving DecidableEq

/-- What the segments read so far say. -/
structure Header where
  /-- Tables of 64 factors by number, in the order of the block. -/
  factors : List (Nat × Array Nat) := []
  /-- The codes of the first numbers of blocks. -/
  firstCodes : List (Nat × Code) := []
  /-- The codes of the other numbers of blocks. -/
  restCodes : List (Nat × Code) := []
  /-- The pixels are sent in scans that make them better and better. -/
  progressive : Bool := false
  width : Nat := 0
  height : Nat := 0
  components : List Component := []
  colors : ColorSpace := .differences
  /-- The image is a frame of moving pictures, which may leave codes out. -/
  moving : Bool := false
  /-- The groups between two restarts; none if it is zero. -/
  interval : Nat := 0
  /-- The components of the scan, by position. -/
  parts : List Nat := []
  /-- What the scan holds of each block. -/
  range : ScanRange := {}

/-- A number of two bytes, the higher first. -/
def wordOf (high low : UInt8) : Nat :=
  high.toNat * 256 + low.toNat

/-- Splits bytes in two parts, the first of a given length. -/
def splitBytes (count : Nat) (bytes : List UInt8) : Except Fault (List UInt8 × List UInt8) :=
  let head := bytes.take count
  if head.length < count then .error .endOfData else .ok (head, bytes.drop count)

/-- Takes a number of two bytes. -/
def takeWord : List UInt8 → Except Fault (Nat × List UInt8)
  | high :: low :: rest => .ok (wordOf high low, rest)
  | _ => .error .endOfData

/-! ## Segments -/

namespace Header

/-- Reads tables of factors. -/
def readFactors (h : Header) : (fuel : Nat) → List UInt8 → Except Fault Header
  | 0, _ => .ok h
  | _, [] => .ok h
  | fuel + 1, head :: data => do
    let wide := head.toNat / 16
    let number := head.toNat % 16
    if 1 < wide ∨ 3 < number then throw .segment
    let length := 64 * (wide + 1)
    if data.length < length then throw .segment
    let values := data.take length
    let values := if wide = 0 then values.map UInt8.toNat else words values
    let table := (values.zip diagonalOrder).foldl
      (fun table (value, place) => table.setIfInBounds place value) (Array.replicate 64 0)
    readFactors { h with factors := (number, table) :: h.factors } fuel (data.drop length)
where
  /-- Numbers of two bytes each. -/
  words : List UInt8 → List Nat
    | high :: low :: rest => wordOf high low :: words rest
    | _ => []

/-- Reads codes. -/
def readCodes (h : Header) : (fuel : Nat) → List UInt8 → Except Fault Header
  | 0, _ => .ok h
  | _, [] => .ok h
  | fuel + 1, head :: data => do
    let kind := head.toNat / 16
    let number := head.toNat % 16
    if 1 < kind ∨ 3 < number ∨ data.length < 16 then throw .segment
    let counts := (data.take 16).map UInt8.toNat
    let total := counts.foldl (· + ·) 0
    let data := data.drop 16
    if 256 < total ∨ data.length < total then throw .segment
    let symbols := (data.take total).map UInt8.toNat
    let code : Code := ⟨counts, symbols.toArray⟩
    if !Code.hasRoom 0 1 counts then throw .segment
    if kind = 0 ∧ symbols.any (15 < ·) then throw .segment
    let h :=
      if kind = 0 then { h with firstCodes := (number, code) :: h.firstCodes }
      else { h with restCodes := (number, code) :: h.restCodes }
    readCodes h fuel (data.drop total)

/-- Reads the components of an image. -/
def readComponents : List UInt8 → Except Fault (List Component)
  | id :: fineness :: factors :: rest => do
    let across := fineness.toNat / 16
    let down := fineness.toNat % 16
    if 3 < factors.toNat ∨ across = 0 ∨ down = 0 then throw .segment
    return { id := id.toNat, across, down, factors := factors.toNat } :: (← readComponents rest)
  | _ => .ok []

/-- Reads the size of an image and its components. -/
def readFrame (h : Header) (progressive : Bool) (data : List UInt8) : Except Fault Header := do
  if h.components ≠ [] then throw .segment
  match data with
  | precision :: h₁ :: h₀ :: w₁ :: w₀ :: count :: data =>
    if precision ≠ 8 then throw .segment
    let height := wordOf h₁ h₀
    let width := wordOf w₁ w₀
    if width = 0 ∨ height = 0 then throw .noPixels
    if count = 0 ∨ 4 < count.toNat ∨ data.length ≠ 3 * count.toNat then throw .segment
    let colors :=
      if count = 1 then .gray
      else if count = 4 ∧ h.colors = .differences then .inks
      else h.colors
    return { h with progressive, width, height, colors, components := ← readComponents data }
  | _ => throw .segment

/-- Gives the components of a scan their codes; `seen` are the identifiers
    that were there before. -/
def readParts (h : Header) (seen : List UInt8) : List UInt8 → Except Fault Header
  | id :: codes :: rest => do
    if seen.contains id then throw .segment
    match h.components.findIdx? (·.id = id.toNat) with
    | none => throw .segment
    | some part =>
      let components := h.components.modify part fun c =>
        { c with first := codes.toNat / 16, rest := codes.toNat % 16 }
      readParts { h with components, parts := h.parts ++ [part] } (id :: seen) rest
  | _ => .ok h

/-- Reads the head of a scan. -/
def readScan (h : Header) (data : List UInt8) : Except Fault Header := do
  match data with
  | [] => throw .segment
  | count :: data =>
    let count := count.toNat
    if count = 0 ∨ 4 < count ∨ data.length ≠ 2 * count + 3 then throw .segment
    if h.components.isEmpty then throw .segment
    match data.drop (2 * count) with
    | [first, last, bits] =>
      let range : ScanRange :=
        ⟨first.toNat, last.toNat, bits.toNat / 16, bits.toNat % 16⟩
      let h ← readParts { h with parts := [] } [] (data.take (2 * count))
      if 63 < range.last ∨ 63 < range.first ∨ 13 < range.high ∨ 13 < range.low then
        throw .segment
      return { h with range }
    | _ => throw .segment

/-- What the components are, told by the twelfth byte behind the name of a
    vendor. Other texts tell nothing. -/
def readVendor (h : Header) (data : List UInt8) : Except Fault Header :=
  if data.length < 12 then .error .segment
  else if data.take 5 = [0x41, 0x64, 0x6F, 0x62, 0x65] then
    match (data.getD 11 0).toNat with
    | 0 => .ok { h with colors := .inks }
    | 1 => .ok { h with colors := .differences }
    | 2 => .ok { h with colors := .inkDifferences }
    | _ => .error .segment
  else .ok h

/-- The ways to encode pixels that cannot be read, by their markers. -/
def otherSchemes : List (Nat × String) :=
  [(0xC3, "The library cannot yet decode images encoded with Lossless Huffman encoding scheme"),
   (0xC9, "The library cannot yet decode Images Encoded with Extended Sequential DCT Arithmetic "
     ++ "scheme"),
   (0xCA, "The library cannot yet decode images encoded with Progressive DCT Arithmetic scheme"),
   (0xCB, "The library cannot yet decode images encoded with Lossless Arithmetic encoding scheme")]

/-- Reads the data of a segment. -/
def readData (h : Header) (marker : Marker) (data : List UInt8) : Except Fault Header :=
  match marker.toNat with
  | 0xDB => h.readFactors data.length data
  | 0xC4 => h.readCodes data.length data
  | 0xC0 | 0xC1 => h.readFrame false data
  | 0xC2 => h.readFrame true data
  | 0xDA => h.readScan data
  | 0xDD =>
    match data with
    | [high, low] => .ok { h with interval := wordOf high low }
    | _ => .error .segment
  | 0xEE => h.readVendor data
  | marker =>
    if [0xC5, 0xC6, 0xC7, 0xCD, 0xCE, 0xCF].contains marker then .error .segment else .ok h

/-- The data of segments with such a marker is read. -/
def isRead (marker : Marker) : Bool :=
  0xC0 ≤ marker && marker ≤ 0xCF && marker ≠ 0xC8
    || [0xDA, 0xDB, 0xDD, 0xEE].contains marker

/-- Reads a segment from behind its marker: what is known then, and the bytes
    behind the segment. -/
def readSegment (h : Header) (marker : Marker) (bytes : List UInt8) :
    Except Fault (Header × List UInt8) := do
  if let some scheme := otherSchemes.lookup marker.toNat then throw (.unsupported scheme)
  if marker = .endOfImage ∨ marker = 0xCC ∨ marker = 0xDC then throw .segment
  let (length, bytes) ← takeWord bytes
  if length < 2 then throw .segment
  if marker = 0xE0 ∧ 5 < length then
    let (name, bytes) ← splitBytes 5 bytes
    return ({ h with moving := h.moving || name = [0x41, 0x56, 0x49, 0x31, 0] },
      bytes.drop (length - 7))
  else if isRead marker then
    let (data, bytes) ← splitBytes (length - 2) bytes
    return (← h.readData marker data, bytes)
  else return (h, bytes.drop (length - 2))

/-- Reads segments up to the head of the first scan: what they say, and the
    bytes behind them. Bytes between segments are passed over. -/
def readSegments : (fuel : Nat) → Header → List UInt8 → Except Fault (Header × List UInt8)
  | 0, _, _ => .error .endOfData
  | fuel + 1, h, bytes => do
    match Marker.find bytes with
    | none => throw .endOfData
    | some (marker, bytes) =>
      let (h, bytes) ← h.readSegment marker bytes
      if marker = .startOfScan then return (h, bytes) else readSegments fuel h bytes

/-! ## Whole headers -/

/-- The components are red, green and blue if that is what their identifiers
    say. -/
def named (h : Header) : Header :=
  if h.components.map (·.id) = [82, 71, 66] then { h with colors := .plain } else h

/-- The colors that fit the number of components. -/
def fitted (h : Header) : Header :=
  let count := h.components.length
  let colors :=
    if count = 2 then .pair
    else if count = 3 ∧ h.colors = .inks then .plain
    else if count < 4 ∧ h.colors = .inkDifferences then .differences
    else h.colors
  { h with colors }

/-- A frame of moving pictures has the standard codes where it has none of its
    own. -/
def completed (h : Header) : Header :=
  if h.moving then
    { h with
      firstCodes := h.firstCodes ++ [(0, .brightFirst), (1, .colorFirst)]
      restCodes := h.restCodes ++ [(0, .brightRest), (1, .colorRest)] }
  else h

/-- The greatest of some numbers of blocks; groups have at least one. -/
def finest (counts : List Nat) : Nat :=
  counts.foldl max 1

/-- How many blocks of the finest component stand side by side in a group. -/
def finestAcross (h : Header) : Nat :=
  finest (h.components.map (·.across))

/-- How many rows of blocks of the finest component there are in a group. -/
def finestDown (h : Header) : Nat :=
  finest (h.components.map (·.down))

/-- How many parts of a size it takes to cover a length. -/
def partsOf (size length : Nat) : Nat :=
  (length + size - 1) / size

/-- How many groups stand side by side. -/
def groupsAcross (h : Header) : Nat :=
  partsOf (8 * h.finestAcross) h.width

/-- How many rows of groups there are. -/
def groupsDown (h : Header) : Nat :=
  partsOf (8 * h.finestDown) h.height

/-- Images of one component have one block to a group, whatever they say. -/
def leveled (h : Header) : Header :=
  if h.components.length = 1 then
    { h with components := h.components.map fun c => { c with across := 1, down := 1 } }
  else h

/-- Reads the headers of a file: what they say, and the bytes of the first
    scan. -/
def read (bytes : List UInt8) : Except Fault (Header × List UInt8) :=
  match bytes with
  | first :: second :: rest => do
    if first ≠ 0xFF ∨ second ≠ 0xD8 then throw .signature
    let (h, bytes) ← readSegments (rest.length + 1) {} rest
    return (h.named, bytes)
  | _ => .error .endOfData

end Header

end RenderCheck.Jpeg
