import RenderCheck.HighBits

/-! # Words of facsimile codes

    Rows of two colors are written in words of bits. Some words tell how a row
    goes on in view of the row above it, the others how long a run of a color
    is: any number of words for multiples of 64, and one for what is left. -/

namespace RenderCheck.Facsimile

/-! ## Words -/

/-- A word and its meaning: its length in bits, and the bits as a number. -/
structure Word (α : Type) where
  length : Nat
  number : Nat
  meaning : α

/-- Reads bits up to the end of a word; `length` of them have been read and
    make `number`. -/
def readWordFrom {α : Type} (words : List (Word α)) : (fuel length number : Nat) → HighBits →
    Option (α × HighBits)
  | 0, _, _, _ => none
  | fuel + 1, length, number, bits =>
    match bits.bit? with
    | none => none
    | some (bit, bits) =>
      let number := 2 * number + bit
      match words.find? fun word => word.length = length + 1 ∧ word.number = number with
      | some word => some (word.meaning, bits)
      | none => readWordFrom words fuel (length + 1) number bits

/-- The longest word, in bits. -/
def longestWord : Nat := 13

/-- Reads a word. -/
def readWord {α : Type} (words : List (Word α)) (bits : HighBits) : Option (α × HighBits) :=
  readWordFrom words longestWord 0 0 bits

/-! ## Modes -/

/-- How a row goes on. -/
inductive Mode where
  /-- The run goes on below a run of the other color. -/
  | pass
  /-- The lengths of two runs follow. -/
  | runs
  /-- The run ends so far behind a change of the row above. -/
  | vertical (shift : Int)
  /-- The rows are written otherwise from here on. -/
  | extension
  /-- There are no more rows. -/
  | ending
  deriving DecidableEq

/-- The words of the modes. -/
def modeWords : List (Word Mode) :=
  [⟨1, 1, .vertical 0⟩, ⟨3, 3, .vertical 1⟩, ⟨3, 2, .vertical (-1)⟩, ⟨3, 1, .runs⟩, ⟨4, 1, .pass⟩,
   ⟨6, 3, .vertical 2⟩, ⟨6, 2, .vertical (-2)⟩, ⟨7, 3, .vertical 3⟩, ⟨7, 2, .vertical (-3)⟩,
   ⟨7, 1, .extension⟩, ⟨12, 1, .ending⟩]

/-! ## Runs -/

/-- The words of the white runs from 0 to 63, by length and number. -/
def whiteShort : List (Nat × Nat) :=
  [(8, 53), (6, 7), (4, 7), (4, 8), (4, 11), (4, 12), (4, 14), (4, 15), (5, 19), (5, 20), (5, 7),
   (5, 8), (6, 8), (6, 3), (6, 52), (6, 53), (6, 42), (6, 43), (7, 39), (7, 12), (7, 8), (7, 23),
   (7, 3), (7, 4), (7, 40), (7, 43), (7, 19), (7, 36), (7, 24), (8, 2), (8, 3), (8, 26), (8, 27),
   (8, 18), (8, 19), (8, 20), (8, 21), (8, 22), (8, 23), (8, 40), (8, 41), (8, 42), (8, 43),
   (8, 44), (8, 45), (8, 4), (8, 5), (8, 10), (8, 11), (8, 82), (8, 83), (8, 84), (8, 85), (8, 36),
   (8, 37), (8, 88), (8, 89), (8, 90), (8, 91), (8, 74), (8, 75), (8, 50), (8, 51), (8, 52)]

/-- The words of the black runs from 0 to 63. -/
def blackShort : List (Nat × Nat) :=
  [(10, 55), (3, 2), (2, 3), (2, 2), (3, 3), (4, 3), (4, 2), (5, 3), (6, 5), (6, 4), (7, 4),
   (7, 5), (7, 7), (8, 4), (8, 7), (9, 24), (10, 23), (10, 24), (10, 8), (11, 103), (11, 104),
   (11, 108), (11, 55), (11, 40), (11, 23), (11, 24), (12, 202), (12, 203), (12, 204), (12, 205),
   (12, 104), (12, 105), (12, 106), (12, 107), (12, 210), (12, 211), (12, 212), (12, 213),
   (12, 214), (12, 215), (12, 108), (12, 109), (12, 218), (12, 219), (12, 84), (12, 85), (12, 86),
   (12, 87), (12, 100), (12, 101), (12, 82), (12, 83), (12, 36), (12, 55), (12, 56), (12, 39),
   (12, 40), (12, 88), (12, 89), (12, 43), (12, 44), (12, 90), (12, 102), (12, 103)]

/-- The words of the white runs of 64, 128 and so on up to 1728. -/
def whiteLong : List (Nat × Nat) :=
  [(5, 27), (5, 18), (6, 23), (7, 55), (8, 54), (8, 55), (8, 100), (8, 101), (8, 104), (8, 103),
   (9, 204), (9, 205), (9, 210), (9, 211), (9, 212), (9, 213), (9, 214), (9, 215), (9, 216),
   (9, 217), (9, 218), (9, 219), (9, 152), (9, 153), (9, 154), (6, 24), (9, 155)]

/-- The words of the black runs of 64, 128 and so on up to 1728. -/
def blackLong : List (Nat × Nat) :=
  [(10, 15), (12, 200), (12, 201), (12, 91), (12, 51), (12, 52), (12, 53), (13, 108), (13, 109),
   (13, 74), (13, 75), (13, 76), (13, 77), (13, 114), (13, 115), (13, 116), (13, 117), (13, 118),
   (13, 119), (13, 82), (13, 83), (13, 84), (13, 85), (13, 90), (13, 91), (13, 100), (13, 101)]

/-- The words of the runs of 1792, 1856 and so on up to 2560 of either color. -/
def anyLong : List (Nat × Nat) :=
  [(11, 8), (11, 12), (11, 13), (12, 18), (12, 19), (12, 20), (12, 21), (12, 22), (12, 23),
   (12, 28), (12, 29), (12, 30), (12, 31)]

/-- The words of a table whose runs grow by a step. -/
def wordsFrom (first step : Nat) (table : List (Nat × Nat)) : List (Word Nat) :=
  table.zipIdx.map fun ((length, number), i) => ⟨length, number, first + i * step⟩

/-- The words of white runs. -/
def whiteWords : List (Word Nat) :=
  wordsFrom 0 1 whiteShort ++ wordsFrom 64 64 whiteLong ++ wordsFrom 1792 64 anyLong

/-- The words of black runs. -/
def blackWords : List (Word Nat) :=
  wordsFrom 0 1 blackShort ++ wordsFrom 64 64 blackLong ++ wordsFrom 1792 64 anyLong

/-- Reads the length of a run: words up to the first one below 64. -/
def readRunWithin (words : List (Word Nat)) : (fuel : Nat) → HighBits → Option (Nat × HighBits)
  | 0, _ => none
  | fuel + 1, bits =>
    match readWord words bits with
    | none => none
    | some (length, bits) =>
      if length < 64 then some (length, bits)
      else
        match readRunWithin words fuel bits with
        | none => none
        | some (rest, bits) => some (length + rest, bits)

/-- Reads the length of a run of a color. Each word takes at least two bits, so
    their number is fuel enough. -/
def readRun (black : Bool) (bits : HighBits) : Option (Nat × HighBits) :=
  readRunWithin (if black then blackWords else whiteWords) (8 * bits.bytes.length + 1) bits

end RenderCheck.Facsimile
