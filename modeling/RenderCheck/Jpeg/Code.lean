/-! # Codes of JPEG files

    The pixels of a JPEG image are written in prefix codes with words of up to
    sixteen bits. A code is given by the number of its words of each length
    and by their symbols in order. A symbol tells how many bits of a number
    follow it. -/

namespace RenderCheck.Jpeg

/-- A prefix code. -/
structure Code where
  /-- How many words there are of each length, from one bit up. -/
  counts : List Nat
  /-- The symbols in the order of their words. -/
  symbols : Array Nat
  deriving DecidableEq

namespace Code

/-- The words have room: the first word of each length follows the words
    before it, and no word is all ones. -/
def hasRoom : (first : Nat) → (length : Nat) → (counts : List Nat) → Bool
  | _, _, [] => true
  | first, length, count :: counts =>
    first + count < Nat.pow 2 length && hasRoom (2 * (first + count)) (length + 1) counts

/-- The symbol of the word that sixteen bits begin with, and the length of the
    word. `first` is the first word of the length `length`, and `index` the
    number of shorter words. -/
def findWord (symbols : Array Nat) (ahead : Nat) : (counts : List Nat) →
    (length first index : Nat) → Option (Nat × Nat)
  | [], _, _, _ => none
  | count :: counts, length, first, index =>
    let word := ahead >>> (16 - length)
    if word < first + count then some (symbols.getD (index + (word - first)) 0, length)
    else findWord symbols ahead counts (length + 1) (2 * (first + count)) (index + count)

/-- The symbol of the word that sixteen bits begin with, and the length of the
    word. -/
def find? (code : Code) (ahead : Nat) : Option (Nat × Nat) :=
  findWord code.symbols ahead code.counts 1 0 0

end Code

end RenderCheck.Jpeg
