import RenderCheck.Deflate.Inflate

/-! # Framed compressed data

    Two bytes before compressed data tell the method, four bytes after it are
    a checksum of what was compressed. Reading may stop before the checksum,
    which then is not looked at. Writing stores the data as it is. -/

namespace RenderCheck.Deflate

/-- A number as four bytes, the highest first. -/
def bigEndian32 (n : Nat) : List UInt8 :=
  [(n / 0x1000000).toUInt8, (n / 0x10000).toUInt8, (n / 0x100).toUInt8, n.toUInt8]

/-- The checksum of the frame: the sum of the bytes and the sum of those sums,
    both modulo 65521. -/
def adler32 (bytes : List UInt8) : Nat :=
  let (low, high) := bytes.foldl
    (fun (low, high) byte =>
      let low := (low + byte.toNat) % 65521
      (low, (high + low) % 65521)) (1, 0)
  high * 65536 + low

/-- The longest stored block. -/
def storedLimit : Nat := 65535

/-- A stored block. -/
def storedBlock (final : Bool) (bytes : List UInt8) : List UInt8 :=
  let length := bytes.length
  let complement := 65535 - length
  [if final then 1 else 0, length.toUInt8, (length / 256).toUInt8,
    complement.toUInt8, (complement / 256).toUInt8] ++ bytes

/-- Stores data in as many blocks as it takes; the fuel is its length. -/
def storeWithin : (fuel : Nat) → List UInt8 → List UInt8
  | 0, bytes => storedBlock true bytes
  | fuel + 1, bytes =>
    if bytes.length ≤ storedLimit then storedBlock true bytes
    else storedBlock false (bytes.take storedLimit) ++ storeWithin fuel (bytes.drop storedLimit)

/-- Stores data in blocks. -/
def store (bytes : List UInt8) : List UInt8 :=
  storeWithin bytes.length bytes

/-- Stores data in a frame. -/
def zlibStore (bytes : List UInt8) : List UInt8 :=
  [0x78, 0x01] ++ store bytes ++ bigEndian32 (adler32 bytes)

/-- The frame begins as it should: it names the method and a window of at
    most 32768 bytes, asks for no dictionary, and is a multiple of 31. -/
def isFrameHead (method flags : UInt8) : Bool :=
  method.toNat % 16 = 8 && method.toNat / 16 ≤ 7 && flags.toNat / 32 % 2 = 0
    && (256 * method.toNat + flags.toNat) % 31 = 0

/-- Reads framed data: at most `limit` bytes of output, and what follows the
    last block, or why it was not reached. -/
def zlibInflate (manner : Manner) (limit : Nat) (bytes : List UInt8) :
    Array UInt8 × Except Stop (List UInt8) :=
  match bytes with
  | method :: flags :: rest =>
    if isFrameHead method flags then inflate manner limit rest else (#[], .error .malformed)
  | _ => (#[], .error .exhausted)

/-- Output is handed over in pieces of this size. -/
def windowSize : Nat := 32768

/-- Reads `count` bytes of framed data. Whole pieces are decompressed, and if
    the last block ends in one of them, the checksum behind it, as far as it is
    there, must be right. -/
def zlibTake? (count : Nat) (bytes : List UInt8) : Option (List UInt8) :=
  let pieces := (count + windowSize - 1) / windowSize
  let (out, rest) := zlibInflate .thorough (pieces * windowSize) bytes
  let sound : Bool :=
    match rest with
    | .error .malformed => false
    | .error _ => true
    | .ok rest => rest.length < 4 || rest.take 4 == bigEndian32 (adler32 out.toList)
  if sound && count ≤ out.size then some (out.toList.take count) else none

end RenderCheck.Deflate
