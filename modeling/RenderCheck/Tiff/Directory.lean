/-! # Directories of TIFF files

    A TIFF file tells the order of bytes in its numbers and where its
    directory stands. The directory lists entries: a tag, the kind and the
    number of the values, and the values themselves, or their place if they
    are too long to stand in the entry. -/

namespace RenderCheck.Tiff

/-! ## Faults -/

/-- Why a file holds no image that can be read. -/
inductive Fault where
  /-- The file ends too early. -/
  | endOfData
  /-- The file begins with no order of bytes. -/
  | byteOrder
  /-- The number behind the order of bytes is not that of the format. -/
  | version
  /-- A tag that has to be there is not. -/
  | missingTag (name : String)
  /-- A value that should be a number is none. -/
  | notANumber
  /-- The image has no rows or no columns. -/
  | dimensions (width height : Nat)
  /-- A pixel has no samples. -/
  | noSamples
  /-- Numbers that belong together do not fit. -/
  | inconsistent
  /-- The predictor is not known. -/
  | predictor (number : Nat)
  /-- The arrangement of the samples is not known. -/
  | arrangement (number : Nat)
  /-- The pixels stand neither in strips nor in tiles, or in both. -/
  | layout
  /-- The image is too large. -/
  | tooLarge
  /-- The pixels are not well compressed. -/
  | compression
  /-- The format has the feature, but it cannot be read. -/
  | unsupported (feature : String)
  /-- Pixels of so many bits cannot be read. -/
  | unsupportedColor (bits : Nat)
  deriving DecidableEq

/-- What a message says about the fault. -/
def Fault.text : Fault → String
  | endOfData => "failed to fill whole buffer"
  | byteOrder => "TIFF signature not found."
  | version => "TIFF signature invalid."
  | missingTag name => "Required tag \x60" ++ name ++ "\x60 not found."
  | notANumber => "Expected unsigned integer."
  | dimensions width height =>
    "Invalid dimensions: " ++ toString width ++ "x" ++ toString height ++ "."
  | noSamples => "Samples per pixel is zero"
  | inconsistent => "Inconsistent sizes encountered."
  | predictor number => "Unknown predictor “" ++ toString number ++ "” encountered"
  | arrangement number =>
    "Unknown planar configuration “" ++ toString number ++ "” encountered"
  | layout => "File should contain either (StripByteCounts and StripOffsets) or "
      ++ "(TileByteCounts and TileOffsets), other combination was found."
  | tooLarge => "The Decoder's memory limits exceeded"
  | compression => "corrupt compressed data"
  | unsupported feature => feature
  | unsupportedColor bits => "Unknown(" ++ toString bits ++ ")"

/-! ## Numbers -/

/-- The bytes of a file and the order in which they make numbers. -/
structure Source where
  bytes : Array UInt8
  /-- The lowest byte of a number comes first. -/
  lowFirst : Bool
  /-- Places and counts have eight bytes and not four. -/
  wide : Bool := false

namespace Source

/-- Some bytes from a place on, if they are there. -/
def slice (s : Source) (place count : Nat) : Except Fault (List UInt8) :=
  if place + count ≤ s.bytes.size then .ok (s.bytes.extract place (place + count)).toList
  else .error .endOfData

/-- All bytes from a place on, but no more than so many. -/
def upTo (s : Source) (place count : Nat) : List UInt8 :=
  (s.bytes.extract place (min s.bytes.size (place + count))).toList

/-- The number that some bytes make. -/
def number (s : Source) (bytes : List UInt8) : Nat :=
  (if s.lowFirst then bytes.reverse else bytes).foldl (fun n byte => n * 256 + byte.toNat) 0

/-- The number in some bytes from a place on. -/
def numberAt (s : Source) (place count : Nat) : Except Fault Nat := do
  return s.number (← s.slice place count)

/-- Bytes taken as numbers of so many bytes each. -/
def numbers (s : Source) (size : Nat) : (count : Nat) → List UInt8 → List Nat
  | 0, _ => []
  | count + 1, bytes => s.number (bytes.take size) :: s.numbers size count (bytes.drop size)

/-- The bytes of a place or a count. -/
def width (s : Source) : Nat :=
  if s.wide then 8 else 4

end Source

/-! ## Entries -/

/-- The bytes of a value of each kind; other kinds are passed over. -/
def kindSizes : List (Nat × Nat) :=
  [(1, 1), (2, 1), (3, 2), (4, 4), (5, 8), (6, 1), (7, 1), (8, 2), (9, 4), (10, 8), (11, 4),
   (12, 8), (13, 4), (16, 8), (17, 8), (18, 8)]

/-- The kinds whose values are numbers without a sign. -/
def numberKinds : List Nat := [1, 3, 4, 7, 13, 16, 18]

/-- The kinds of numbers that are places of directories. -/
def placeKinds : List Nat := [13, 18]

/-- An entry of a directory. -/
structure Entry where
  tag : Nat
  kind : Nat
  /-- How many values there are. -/
  count : Nat
  /-- Where the values stand, or their place. -/
  place : Nat
  deriving DecidableEq

/-- The directory of a file. -/
structure Directory where
  source : Source
  entries : List Entry

namespace Directory

/-- Reads so many entries from a place on. -/
def readEntries (s : Source) : (count place : Nat) → Except Fault (List Entry)
  | 0, _ => .ok []
  | count + 1, place => do
    let width := s.width
    let tag ← s.numberAt place 2
    let kind ← s.numberAt (place + 2) 2
    let values ← s.numberAt (place + 4) width
    let _ ← s.slice (place + 4 + width) width
    let entries ← readEntries s count (place + 4 + 2 * width)
    if (kindSizes.lookup kind).isSome then
      return ⟨tag, kind, values, place + 4 + width⟩ :: entries
    else return entries

/-- Reads the order of bytes, the version and the place of the directory. -/
def readHead (bytes : Array UInt8) : Except Fault (Source × Nat) := do
  let lowFirst ←
    match (bytes.extract 0 2).toList with
    | [0x49, 0x49] => pure true
    | [0x4D, 0x4D] => pure false
    | _ => throw .byteOrder
  let s : Source := { bytes := bytes, lowFirst := lowFirst }
  let version ← s.numberAt 2 2
  if version = 42 then return (s, ← s.numberAt 4 4)
  else if version = 43 then
    if (← s.numberAt 4 2) ≠ 8 then throw .byteOrder
    if (← s.numberAt 6 2) ≠ 0 then throw .byteOrder
    return ({ s with wide := true }, ← s.numberAt 8 8)
  else throw .version

/-- Reads the directory of the first image. What follows its entries, the
    place of the next directory, has to be there. -/
def read (bytes : Array UInt8) : Except Fault Directory := do
  let (s, place) ← readHead bytes
  let countWidth := if s.wide then 8 else 2
  let count ← s.numberAt place countWidth
  let entryWidth := 4 + 2 * s.width
  let _ ← s.slice (place + countWidth) (count * entryWidth + s.width)
  return ⟨s, ← readEntries s count (place + countWidth)⟩

/-- The entry of a tag; of several the last one counts. -/
def entry? (d : Directory) (tag : Nat) : Option Entry :=
  d.entries.reverse.find? (·.tag = tag)

/-- The tag is there. -/
def has (d : Directory) (tag : Nat) : Bool :=
  (d.entry? tag).isSome

/-- The numbers of an entry. -/
def entryNumbers (d : Directory) (entry : Entry) : Except Fault (List Nat) := do
  let size := (kindSizes.lookup entry.kind).getD 1
  let length := size * entry.count
  let place ←
    if length ≤ d.source.width then pure entry.place
    else d.source.numberAt entry.place d.source.width
  let bytes ← d.source.slice place length
  if entry.count ≠ 0 ∧ !numberKinds.contains entry.kind then throw .notANumber
  return d.source.numbers size entry.count bytes

/-- The numbers of a tag, if it is there. -/
def numbers? (d : Directory) (tag : Nat) : Except Fault (Option (List Nat)) :=
  match d.entry? tag with
  | none => .ok none
  | some entry => (d.entryNumbers entry).map some

/-- The number of a tag, if it is there. It must be alone, and below a bound. -/
def number? (d : Directory) (tag bound : Nat) : Except Fault (Option Nat) := do
  match ← d.numbers? tag with
  | none => return none
  | some [number] => if number < bound then return some number else throw .notANumber
  | some _ => throw .notANumber

/-- The numbers of two bytes of a tag, if it is there. -/
def shorts? (d : Directory) (tag : Nat) : Except Fault (Option (List Nat)) := do
  let numbers ← d.numbers? tag
  if numbers.any fun numbers => numbers.any (65536 ≤ ·) then throw .notANumber
  return numbers

/-- The number of two bytes of a tag, if it is there. It is no place. -/
def short? (d : Directory) (tag : Nat) : Except Fault (Option Nat) :=
  if (d.entry? tag).any fun entry => placeKinds.contains entry.kind then .error .notANumber
  else d.number? tag 65536

/-- The number of a tag that has to be there. -/
def number (d : Directory) (tag bound : Nat) (name : String) : Except Fault Nat := do
  match ← d.number? tag bound with
  | some number => return number
  | none => throw (.missingTag name)

end Directory

end RenderCheck.Tiff
