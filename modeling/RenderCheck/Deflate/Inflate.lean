import RenderCheck.Deflate.Code

/-! # Reading compressed data

    Compressed data is a sequence of blocks. A block is stored as it is, or it
    is a sequence of literal bytes and copies of earlier output, written in
    two prefix codes: the fixed ones, or ones that the block begins with.

    A reader says how much output it wants, and in which manner it reads. What
    comes after the symbol that brings the last byte of the output is not
    looked at, or only up to the next symbol that brings a byte, so that it may
    be malformed or missing. -/

namespace RenderCheck.Deflate

/-! ## Manners -/

/-- How a reader takes what the format leaves open. -/
inductive Manner where
  /-- Reads no symbol after the last byte that it wants. A code of literals and
      lengths has no words to spare and one for the end of the block. The two
      words of the fixed code beyond the lengths end a block. -/
  | sparing
  /-- Reads on to the symbol that would bring a byte too many. A code of
      literals and lengths may be a single word of one bit, and need not have one
      for the end of the block. The two words of the fixed code beyond the lengths
      mean nothing. -/
  | thorough
  deriving DecidableEq

/-! ## Tables of the format -/

/-- The least length and the number of extra bits of each length symbol, from
    257 on. -/
def lengthTable : List (Nat × Nat) :=
  [(3, 0), (4, 0), (5, 0), (6, 0), (7, 0), (8, 0), (9, 0), (10, 0), (11, 1), (13, 1), (15, 1),
   (17, 1), (19, 2), (23, 2), (27, 2), (31, 2), (35, 3), (43, 3), (51, 3), (59, 3), (67, 4),
   (83, 4), (99, 4), (115, 4), (131, 5), (163, 5), (195, 5), (227, 5), (258, 0)]

/-- The least distance and the number of extra bits of each distance symbol. -/
def distanceTable : List (Nat × Nat) :=
  [(1, 0), (2, 0), (3, 0), (4, 0), (5, 1), (7, 1), (9, 2), (13, 2), (17, 3), (25, 3), (33, 4),
   (49, 4), (65, 5), (97, 5), (129, 6), (193, 6), (257, 7), (385, 7), (513, 8), (769, 8),
   (1025, 9), (1537, 9), (2049, 10), (3073, 10), (4097, 11), (6145, 11), (8193, 12),
   (12289, 12), (16385, 13), (24577, 13)]

/-- The order in which the lengths of the code for lengths are written. -/
def lengthOrder : List Nat :=
  [16, 17, 18, 0, 8, 7, 9, 6, 10, 5, 11, 4, 12, 3, 13, 2, 14, 1, 15]

/-- The word lengths of the fixed code for literals and lengths. -/
def fixedLiteralLengths : List Nat :=
  List.replicate 144 8 ++ List.replicate 112 9 ++ List.replicate 24 7 ++ List.replicate 8 8

/-- The fixed code for distances: thirty words of five bits, though there is
    room for two more. -/
def fixedDistances : Code :=
  ⟨[0, 0, 0, 0, 30], (List.range 30).toArray⟩

/-! ## Symbols -/

/-- What a block of symbols is made of. -/
inductive Symbol where
  /-- A byte. -/
  | literal (byte : UInt8)
  /-- So many bytes again that came so far back. -/
  | copy (length distance : Nat)
  /-- The end of the block. -/
  | ending
  deriving DecidableEq

/-- Reads a length or a distance: its symbol gives the least value and the
    number of bits to be added. -/
def readExtended (table : List (Nat × Nat)) (symbol : Nat) (source : BitSource) :
    Except Stop (Nat × BitSource) :=
  match table[symbol]? with
  | none => .error .malformed
  | some (least, extra) => do
    let (more, source) ← source.bits extra
    return (least + more, source)

/-- Reads a symbol. -/
def readSymbol (manner : Manner) (literals distances : Code) (source : BitSource) :
    Except Stop (Symbol × BitSource) := do
  let (symbol, source) ← literals.read source
  if symbol < 256 then return (.literal symbol.toUInt8, source)
  else if symbol = 256 ∨ (manner = .sparing ∧ 257 + lengthTable.length ≤ symbol) then
    return (.ending, source)
  else
    let (length, source) ← readExtended lengthTable (symbol - 257) source
    let (symbol, source) ← distances.read source
    let (distance, source) ← readExtended distanceTable symbol source
    return (.copy length distance, source)

/-- Appends a copy of earlier output, byte by byte, so that a copy may run
    into itself. -/
def copyBack (distance : Nat) : (length : Nat) → Array UInt8 → Array UInt8
  | 0, out => out
  | length + 1, out => copyBack distance length (out.push (out.getD (out.size - distance) 0))

/-- Reads symbols up to the end of the block, for `limit` bytes of output at
    most. Each symbol takes at least one bit, so the number of bits is fuel
    enough. -/
def readSymbols (manner : Manner) (limit : Nat) (literals distances : Code) :
    (fuel : Nat) → BitSource → Array UInt8 → Array UInt8 × Except Stop BitSource
  | 0, _, out => (out, .error .exhausted)
  | fuel + 1, source, out =>
    if manner = .sparing ∧ limit ≤ out.size then (out, .error .full)
    else
      match readSymbol manner literals distances source with
      | .error stop => (out, .error stop)
      | .ok (.ending, source) => (out, .ok source)
      | .ok (.literal byte, source) =>
        if limit ≤ out.size then (out, .error .full)
        else readSymbols manner limit literals distances fuel source (out.push byte)
      | .ok (.copy length distance, source) =>
        if out.size < distance then (out, .error .malformed)
        else if limit < out.size + length then
          (copyBack distance (limit - out.size) out, .error .full)
        else
          readSymbols manner limit literals distances fuel source
            (copyBack distance length out)

/-! ## Blocks -/

/-- Reads a stored block: its length, the complement of it, and the bytes. -/
def readStored (limit : Nat) (source : BitSource) (out : Array UInt8) :
    Array UInt8 × Except Stop BitSource :=
  match source.align with
  | l₀ :: l₁ :: n₀ :: n₁ :: bytes =>
    let length := l₀.toNat + 256 * l₁.toNat
    if length + (n₀.toNat + 256 * n₁.toNat) ≠ 65535 then (out, .error .malformed)
    else
      let taken := bytes.take (min length (limit - out.size))
      let out := out ++ taken
      if taken.length = length then (out, .ok (.ofBytes (bytes.drop length)))
      else (out, .error (if limit ≤ out.size then .full else .exhausted))
  | _ => (out, .error .exhausted)

/-- Reads three-bit word lengths into their places. -/
def readLengthLengths : (order : List Nat) → BitSource → List Nat →
    Except Stop (List Nat × BitSource)
  | [], source, lengths => .ok (lengths, source)
  | place :: order, source, lengths => do
    let (length, source) ← source.bits 3
    readLengthLengths order source (lengths.set place length)

/-- Reads word lengths, which are themselves written in a code: 16 repeats the
    length before, 17 and 18 repeat zero. The lengths read stand last first;
    exactly `count` of them must come out. -/
def readLengths (code : Code) (count : Nat) : (fuel : Nat) → BitSource → List Nat →
    Except Stop (List Nat × BitSource)
  | 0, _, _ => .error .malformed
  | fuel + 1, source, lengths =>
    if count ≤ lengths.length then
      if count = lengths.length then .ok (lengths.reverse, source) else .error .malformed
    else do
      let (symbol, source) ← code.read source
      if symbol < 16 then readLengths code count fuel source (symbol :: lengths)
      else if symbol = 16 then
        match lengths with
        | [] => .error .malformed
        | last :: _ =>
          let (more, source) ← source.bits 2
          readLengths code count fuel source (List.replicate (3 + more) last ++ lengths)
      else if symbol = 17 then
        let (more, source) ← source.bits 3
        readLengths code count fuel source (List.replicate (3 + more) 0 ++ lengths)
      else
        let (more, source) ← source.bits 7
        readLengths code count fuel source (List.replicate (11 + more) 0 ++ lengths)

/-- A value that has to be there. -/
def required {α : Type} : Option α → Except Stop α
  | some a => .ok a
  | none => .error .malformed

/-- The codes for literals and for distances with the given word lengths. The
    symbol 256 ends a block. -/
def blockCodes? (manner : Manner) (literalLengths distanceLengths : List Nat) :
    Option (Code × Code) :=
  match manner with
  | .sparing => do
    if literalLengths[256]?.getD 0 = 0 then none
    return (← Code.ofLengths? literalLengths, ← Code.ofFewLengths? distanceLengths)
  | .thorough => do
    return (← Code.ofFewLengths? literalLengths, ← Code.ofFewLengths? distanceLengths)

/-- Reads the two codes that a block begins with. -/
def readCodes (manner : Manner) (source : BitSource) :
    Except Stop (Code × Code × BitSource) := do
  let (literalCount, source) ← source.bits 5
  let (distanceCount, source) ← source.bits 5
  let (lengthCount, source) ← source.bits 4
  if 29 < literalCount ∨ 29 < distanceCount then throw .malformed
  let (lengthLengths, source) ←
    readLengthLengths (lengthOrder.take (lengthCount + 4)) source (List.replicate 19 0)
  let code ← required (Code.ofLengths? lengthLengths)
  let total := literalCount + 257 + (distanceCount + 1)
  let (lengths, source) ← readLengths code total (total + 1) source []
  let (literals, distances) ← required
    (blockCodes? manner (lengths.take (literalCount + 257)) (lengths.drop (literalCount + 257)))
  return (literals, distances, source)

/-- Reads a block of symbols in the fixed codes. One that begins with its end
    is over even if no more output is wanted. -/
def readFixed (manner : Manner) (limit fuel : Nat) (source : BitSource) (out : Array UInt8) :
    Array UInt8 × Except Stop BitSource :=
  match source.bits 7 with
  | .ok (0, source) => (out, .ok source)
  | _ => readSymbols manner limit (.arrange fixedLiteralLengths) fixedDistances fuel source out

/-- Reads one block: the output with it, and whether it is the last and what
    follows it. -/
def readBlock (manner : Manner) (limit : Nat) (source : BitSource) (out : Array UInt8) :
    Array UInt8 × Except Stop (Bool × BitSource) :=
  match source.bits 3 with
  | .error stop => (out, .error stop)
  | .ok (head, source) =>
    let final := head % 2 = 1
    let fuel := 8 * source.bytes.length + 1
    let (out, rest) :=
      match head / 2 with
      | 0 => readStored limit source out
      | 1 => readFixed manner limit fuel source out
      | 2 =>
        match readCodes manner source with
        | .error stop => (out, .error stop)
        | .ok (literals, distances, source) =>
          readSymbols manner limit literals distances fuel source out
      | _ => (out, .error .malformed)
    (out, rest.map (final, ·))

/-- Reads blocks up to the last: the output, and what follows the last block.
    Each block takes at least three bits, so the number of bits is fuel
    enough. -/
def readBlocks (manner : Manner) (limit : Nat) : (fuel : Nat) → BitSource → Array UInt8 →
    Array UInt8 × Except Stop (List UInt8)
  | 0, _, out => (out, .error .exhausted)
  | fuel + 1, source, out =>
    match readBlock manner limit source out with
    | (out, .error stop) => (out, .error stop)
    | (out, .ok (true, source)) => (out, .ok source.align)
    | (out, .ok (false, source)) => readBlocks manner limit fuel source out

/-- Decompresses data: at most `limit` bytes of output, and what follows the
    last block, or why it was not reached. -/
def inflate (manner : Manner) (limit : Nat) (bytes : List UInt8) :
    Array UInt8 × Except Stop (List UInt8) :=
  readBlocks manner limit (8 * bytes.length + 1) (.ofBytes bytes) #[]

end RenderCheck.Deflate
