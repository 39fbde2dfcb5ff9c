import RenderCheck.Deflate.Bits

/-! # Prefix codes

    A code is given by the length of each symbol's word. Words of one length
    are consecutive numbers in the order of the symbols, and the words of each
    length begin where those of the length before leave off. -/

namespace RenderCheck.Deflate

/-- A prefix code, arranged for reading bit by bit. -/
structure Code where
  /-- How many words there are of each length, from one bit up. -/
  counts : List Nat
  /-- The symbols in the order of their words. -/
  symbols : Array Nat
  deriving DecidableEq

namespace Code

/-- The longest word, in bits. -/
def maxLength : Nat := 15

/-- How many words there are of each length. -/
def countLengths (lengths : List Nat) : List Nat :=
  (List.range maxLength).map fun n => lengths.count (n + 1)

/-- The words of the given lengths left over when those of each length are
    taken out, or `none` if there are not so many. -/
def spare? : (free : Nat) → (counts : List Nat) → Option Nat
  | free, [] => some free
  | free, count :: counts => if 2 * free < count then none else spare? (2 * free - count) counts

/-- The words of the given lengths in their order, one for each symbol; a
    symbol of length zero has no word. -/
def arrange (lengths : List Nat) : Code :=
  let numbered := lengths.zipIdx
  let symbols := (List.range maxLength).flatMap fun n =>
    (numbered.filter (·.1 = n + 1)).map Prod.snd
  ⟨countLengths lengths, symbols.toArray⟩

/-- The code with the given word lengths. There must be room for all words,
    and none left over. -/
def ofLengths? (lengths : List Nat) : Option Code :=
  if spare? 1 (countLengths lengths) = some 0 then some (arrange lengths) else none

/-- The code with the given word lengths, which may also be none at all or a
    single one of one bit. -/
def ofFewLengths? (lengths : List Nat) : Option Code :=
  let counts := countLengths lengths
  if counts.all (· = 0) || counts.head? = some 1 && (counts.drop 1).all (· = 0) then
    some (arrange lengths)
  else ofLengths? lengths

/-- Reads one word: `word` is the number read so far with room for the next
    bit, `first` the first word of the next length, and `index` the number of
    shorter words. -/
def readWord (symbols : Array Nat) : (counts : List Nat) → (word first index : Nat) →
    BitSource → Except Stop (Nat × BitSource)
  | [], _, _, _, _ => .error .malformed
  | count :: counts, word, first, index, source => do
    let (bit, source) ← source.bit
    let word := word + bit
    if word < first + count then
      match symbols[index + (word - first)]? with
      | some symbol => return (symbol, source)
      | none => .error .malformed
    else readWord symbols counts (2 * word) (2 * (first + count)) (index + count) source

/-- Reads the symbol of one word. -/
def read (code : Code) (source : BitSource) : Except Stop (Nat × BitSource) :=
  readWord code.symbols code.counts 0 0 0 source

end Code

end RenderCheck.Deflate
