import RenderCheck.Jpeg.Code
import RenderCheck.Jpeg.ScanBits

/-! # Blocks of numbers

    A block is 64 numbers, written diagonal by diagonal. The first number is
    written as the difference to that of the block before. The others are
    written as tokens: a symbol tells how many zeros come before a number and
    how many bits the number has. -/

namespace RenderCheck.Jpeg

/-! ## Places -/

/-- The places of the numbers of a block in the order in which they are
    written: diagonal by diagonal. -/
def diagonalOrder : List Nat :=
  [0, 1, 8, 16, 9, 2, 3, 10, 17, 24, 32, 25, 18, 11, 4, 5, 12, 19, 26, 33, 40, 48, 41, 34, 27,
   20, 13, 6, 7, 14, 21, 28, 35, 42, 49, 56, 57, 50, 43, 36, 29, 22, 15, 23, 30, 37, 44, 51, 58,
   59, 52, 45, 38, 31, 39, 46, 53, 60, 61, 54, 47, 55, 62, 63]

/-- The places of the numbers of a block, to be looked up. -/
def diagonalPlaces : Array Nat := diagonalOrder.toArray

/-- The place of the number written at a position. -/
def placeOf (position : Nat) : Nat :=
  diagonalPlaces.getD position 63

/-! ## Symbols -/

/-- Takes the word of a symbol. It is a fault when fewer bits are known than
    the word has. -/
def readSymbol (code : Code) (bits : ScanBits) : Option (Nat × ScanBits) :=
  match code.find? (bits.peek 16) with
  | none => none
  | some (symbol, length) =>
    if bits.known.toNat < length then none else some (symbol, bits.skip length)

/-- Takes the difference of the first number of a block to that of the block
    before. -/
def readDifference (code : Code) (bits : ScanBits) : Option (Int × ScanBits) :=
  match bits.fill with
  | none => none
  | some bits =>
    match readSymbol code bits with
    | none => none
    | some (symbol, bits) => some (bits.signed symbol)

/-! ## Tokens -/

/-- What stands next in a block behind its first number. -/
inductive Token where
  /-- A number at a position, so many positions further on. -/
  | number (place : Nat) (skipped : Nat) (value : Int)
  /-- Sixteen zeros. -/
  | zeros
  /-- Zeros to the end of the block, and of further blocks: their number is
      told by so many bits. -/
  | stop (bits : Nat)

/-- A word and its number are short: together they have at most nine bits, and
    the number fits into a byte. -/
def isShort (length size : Nat) (value : Int) : Bool :=
  length + size ≤ 9 && -128 ≤ value && value ≤ 127

/-- Takes a token at a position. Numbers behind the last position go to the
    last place if they are short, and else begin anew with the first one. -/
def readToken (code : Code) (position : Nat) (bits : ScanBits) : Option (Token × ScanBits) :=
  match code.find? (bits.peek 16) with
  | none => none
  | some (symbol, length) =>
    let skipped := symbol / 16
    let size := symbol % 16
    let (value, after) := (bits.skip length).signed size
    if 0 < size && isShort length size value then
      some (.number (placeOf (min (position + skipped) 63)) skipped value,
        bits.skip (length + size))
    else if bits.known.toNat < length then none
    else if 0 < size then
      some (.number (placeOf ((position + skipped) % 64)) skipped value, after)
    else some (if skipped = 15 then .zeros else .stop skipped, bits.skip length)

/-! ## Whole blocks -/

/-- The range of the numbers of blocks: they have 32 bits, and greater ones
    lose the bits above. -/
def wrapNumber (n : Int) : Int := n.bmod 4294967296

/-- Reads the numbers of a block behind the first one. -/
def readRest (code : Code) (factors : Array Nat) : (fuel position : Nat) → Array Int →
    ScanBits → Option (Array Int × ScanBits)
  | 0, _, block, bits => some (block, bits)
  | fuel + 1, position, block, bits =>
    if 63 < position then some (block, bits)
    else
      match bits.fill with
      | none => none
      | some bits =>
        match readToken code position bits with
        | none => none
        | some (.number place skipped value, bits) =>
          readRest code factors fuel (position + skipped + 1)
            (block.setIfInBounds place (wrapNumber (value * (factors.getD place 0 : Nat)))) bits
        | some (.zeros, bits) => readRest code factors fuel (position + 16) block bits
        | some (.stop _, bits) => some (block, bits)

/-- Reads a block of 64 numbers, each times its factor. Beside the block comes
    its first number without the factor. -/
def readBlock (first rest : Code) (factors : Array Nat) (before : Int) (bits : ScanBits) :
    Option (Array Int × Int × ScanBits) :=
  match readDifference first bits with
  | none => none
  | some (difference, bits) =>
    let value := before + difference
    let block := (Array.replicate 64 0).setIfInBounds 0
      (wrapNumber (value * (factors.getD 0 0 : Nat)))
    match readRest rest factors 64 1 block bits with
    | none => none
    | some (block, bits) => some (block, value, bits)

end RenderCheck.Jpeg
