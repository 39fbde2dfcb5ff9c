/-! # Bits from the high end

    Bytes read bit by bit, the highest bit of each first, and numbers made of
    such bits. -/

namespace RenderCheck

/-- Bytes still to be read; of the first one some bits have been. -/
structure HighBits where
  /-- The bytes left. -/
  bytes : List UInt8
  /-- How many bits of the first byte have been read. -/
  used : Nat
  deriving DecidableEq

namespace HighBits

/-- All bits of some bytes. -/
def ofBytes (bytes : List UInt8) : HighBits := ⟨bytes, 0⟩

/-- Takes one bit. -/
def bit? (s : HighBits) : Option (Nat × HighBits) :=
  match s.bytes with
  | [] => none
  | byte :: rest =>
    let value := byte.toNat / Nat.pow 2 (7 - s.used) % 2
    some (value, if s.used < 7 then ⟨byte :: rest, s.used + 1⟩ else ⟨rest, 0⟩)

/-- Takes a number of so many bits; `high` is what stands before them. -/
def bitsAfter? (high : Nat) : (count : Nat) → HighBits → Option (Nat × HighBits)
  | 0, s => some (high, s)
  | count + 1, s =>
    match s.bit? with
    | none => none
    | some (bit, s) => bitsAfter? (2 * high + bit) count s

/-- Takes a number of so many bits. -/
def bits? (count : Nat) (s : HighBits) : Option (Nat × HighBits) :=
  bitsAfter? 0 count s

end HighBits

end RenderCheck
