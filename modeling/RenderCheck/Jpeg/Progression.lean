import RenderCheck.Jpeg.Block

/-! # Blocks that get better scan by scan

    Progressive images are sent in several scans. A scan holds a range of the
    positions of each block, without the lowest bits of the numbers; later
    scans add one bit each. Zeros to the end of many blocks are written once,
    as a run. -/

namespace RenderCheck.Jpeg

/-- What a scan holds of each block. -/
structure ScanRange where
  /-- The first position. -/
  first : Nat := 0
  /-- The last position. -/
  last : Nat := 0
  /-- How many of the lowest bits were still missing before; zero if these are
      the first bits of the numbers. -/
  high : Nat := 0
  /-- How many of the lowest bits are missing from now on. -/
  low : Nat := 0
  deriving DecidableEq

namespace ScanRange

/-- The scan adds a bit to numbers that are known so far. -/
def refines (range : ScanRange) : Bool :=
  range.high ≠ 0

/-- The value of the lowest bit that the scan holds. -/
def unit (range : ScanRange) : Int :=
  (Nat.pow 2 range.low : Nat)

end ScanRange

/-- The range of stored numbers: they have sixteen bits, and greater ones lose
    the bits above. -/
def wrapStored (n : Int) : Int := n.bmod 65536

/-! ## First numbers -/

/-- Adds a bit to the first number of a block. -/
def refineFirst (range : ScanRange) (value : Int) (bits : ScanBits) :
    Option (Int × ScanBits) :=
  let filled := if bits.known < 1 then bits.fill else some bits
  match filled with
  | none => none
  | some bits =>
    if bits.known < 1 then none
    else
      let (bit, bits) := bits.bit
      some (if bit then wrapStored (value + range.unit) else value, bits)

/-! ## The other numbers -/

/-- A block on the way: its numbers, the blocks that a run of zeros has still
    to cover, and the bits behind; none of them if there was a fault. -/
structure BlockProgress where
  block : Array Int
  run : Nat
  bits : Option ScanBits

/-- Reads the first bits of the numbers of a block, from a position on. -/
def readRange (code : Code) (range : ScanRange) : (fuel position : Nat) → Array Int →
    ScanBits → BlockProgress
  | 0, _, block, bits => ⟨block, 0, some bits⟩
  | fuel + 1, position, block, bits =>
    match bits.fill with
    | none => ⟨block, 0, none⟩
    | some bits =>
      match readToken code position bits with
      | none => ⟨block, 0, none⟩
      | some (.number place skipped value, bits) =>
        let block := block.setIfInBounds place (wrapStored (value * range.unit))
        if range.last < position + skipped + 1 then ⟨block, 0, some bits⟩
        else readRange code range fuel (position + skipped + 1) block bits
      | some (.zeros, bits) =>
        if range.last < position + 16 then ⟨block, 0, some bits⟩
        else readRange code range fuel (position + 16) block bits
      | some (.stop count, bits) =>
        let (more, bits) := bits.number count
        ⟨block, Nat.pow 2 count + more - 1, some bits⟩

/-- Adds a bit to a number that is not zero, unless it has that bit. -/
def refineNumber (range : ScanRange) (value : Int) : Int :=
  if value / range.unit % 2 ≠ 0 then value
  else if 0 ≤ value then wrapStored (value + range.unit)
  else wrapStored (value - range.unit)

/-- Passes over zeros, and over numbers that are not zero, each of which may
    get another bit. Ends at the zero behind the last one to be passed over. -/
def refineBefore (range : ScanRange) : (fuel position zeros : Nat) → Array Int → ScanBits →
    Nat × Array Int × Option ScanBits
  | 0, position, _, block, bits => (position, block, some bits)
  | fuel + 1, position, zeros, block, bits =>
    if range.last < position then (position, block, some bits)
    else
      let place := placeOf (position % 64)
      let value := block.getD place 0
      if value = 0 then
        if zeros = 0 then (position, block, some bits)
        else refineBefore range fuel (position + 1) (zeros - 1) block bits
      else
        let filled := if bits.known < 1 then bits.fill else some bits
        match filled with
        | none => (position, block, none)
        | some bits =>
          let (bit, bits) := bits.bit
          let block :=
            if bit then block.setIfInBounds place (refineNumber range value) else block
          refineBefore range fuel (position + 1) zeros block bits

/-- Adds bits to the numbers from a position on that are not zero. -/
def refineAfter (range : ScanRange) : (fuel position : Nat) → Array Int → ScanBits →
    Array Int × Option ScanBits
  | 0, _, block, bits => (block, some bits)
  | fuel + 1, position, block, bits =>
    if range.last < position then (block, some bits)
    else
      let place := placeOf (position % 64)
      let value := block.getD place 0
      let (block, bits) :=
        if value = 0 then (block, bits)
        else
          let (bit, bits) := bits.bit
          (if bit then block.setIfInBounds place (refineNumber range value) else block, bits)
      let filled := if bits.known < 1 then bits.fill else some bits
      match filled with
      | none => (block, none)
      | some bits => refineAfter range fuel (position + 1) block bits

/-- Adds bits to a block that is covered by a run of zeros: only numbers that
    are not zero get one. -/
def refineCovered (range : ScanRange) (position run : Nat) (block : Array Int)
    (bits : ScanBits) : BlockProgress :=
  if (block.toList.drop 1).all (· = 0) then ⟨block, run - 1, some bits⟩
  else
    match bits.fill with
    | none => ⟨block, run - 1, none⟩
    | some bits =>
      let (block, bits) := refineAfter range 64 position block bits
      ⟨block, run - 1, bits⟩

/-- Adds bits to the numbers of a block, and new numbers between them. A symbol
    tells how many zeros come before a new number; a bit behind it gives the
    sign. -/
def refineRange (code : Code) (range : ScanRange) : (fuel position : Nat) → Array Int →
    ScanBits → BlockProgress
  | 0, _, block, bits => ⟨block, 0, some bits⟩
  | fuel + 1, position, block, bits =>
    match bits.fill with
    | none => ⟨block, 0, none⟩
    | some bits =>
      match readSymbol code bits with
      | none => ⟨block, 0, none⟩
      | some (symbol, bits) =>
        let zeros := symbol / 16
        if symbol % 16 = 0 && zeros ≠ 15 then
          let (more, bits) := bits.number zeros
          refineCovered range position (Nat.pow 2 zeros + more) block bits
        else
          let (value, bits) :=
            if symbol % 16 = 0 then (0, bits)
            else
              let (bit, bits) := bits.bit
              (if bit then range.unit else -range.unit, bits)
          match refineBefore range 64 position zeros block bits with
          | (_, block, none) => ⟨block, 0, none⟩
          | (position, block, some bits) =>
            let block :=
              if value = 0 then block
              else block.setIfInBounds (placeOf (position % 64)) value
            if range.last < position + 1 then ⟨block, 0, some bits⟩
            else refineRange code range fuel (position + 1) block bits

/-- Reads what a scan holds of the numbers of a block behind the first one;
    `run` blocks from this one on are covered by a run of zeros. -/
def progressBlock (code : Code) (range : ScanRange) (run : Nat) (block : Array Int)
    (bits : ScanBits) : BlockProgress :=
  if range.refines then
    if run = 0 then refineRange code range 64 range.first block bits
    else refineCovered range range.first run block bits
  else if run = 0 then readRange code range 64 range.first block bits
  else ⟨block, run - 1, some bits⟩

end RenderCheck.Jpeg
