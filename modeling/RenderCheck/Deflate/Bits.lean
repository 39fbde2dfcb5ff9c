/-! # Bits of a byte sequence

    Bytes read bit by bit, the lowest bit of each first. Whole bytes can be
    taken once the rest of a byte begun is passed over. -/

namespace RenderCheck.Deflate

/-- Why reading compressed data goes no further. -/
inductive Stop where
  /-- There is as much output as is wanted. -/
  | full
  /-- The data ends too early. -/
  | exhausted
  /-- The data means nothing. -/
  | malformed
  deriving DecidableEq

/-- Bytes still to be read; of the first one some bits have been. -/
structure BitSource where
  /-- The bytes left. -/
  bytes : List UInt8
  /-- How many bits of the first byte have been read. -/
  used : Nat
  deriving DecidableEq

namespace BitSource

/-- All bits of some bytes. -/
def ofBytes (bytes : List UInt8) : BitSource := ⟨bytes, 0⟩

/-- Takes one bit. -/
def bit (s : BitSource) : Except Stop (Nat × BitSource) :=
  match s.bytes with
  | [] => .error .exhausted
  | byte :: rest =>
    let value := byte.toNat / Nat.pow 2 s.used % 2
    .ok (value, if s.used < 7 then ⟨byte :: rest, s.used + 1⟩ else ⟨rest, 0⟩)

/-- Takes a number of the given count of bits, the lowest first. -/
def bits : Nat → BitSource → Except Stop (Nat × BitSource)
  | 0, s => .ok (0, s)
  | count + 1, s => do
    let (low, s) ← s.bit
    let (high, s) ← bits count s
    return (low + 2 * high, s)

/-- The whole bytes left after the one begun. -/
def align (s : BitSource) : List UInt8 :=
  if s.used = 0 then s.bytes else s.bytes.drop 1

end BitSource

end RenderCheck.Deflate
