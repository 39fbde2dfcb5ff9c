import RenderCheck.Deflate.Zlib
import RenderCheck.Facsimile.Row
import RenderCheck.Jpeg.Reader

/-! # Compressed pixels of TIFF files

    Pixels stand as they are, as runs and literal stretches, as codes for
    strings that came before, framed and deflated, as rows of two colors in
    facsimile code, or as a JPEG file of their own. A reader takes the bytes
    that it needs; what follows them is not looked at. -/

namespace RenderCheck.Tiff

/-! ## Runs -/

/-- Expands runs up to a number of bytes. A head below 128 announces so many
    literal bytes and one more, a head above it a byte that comes again and
    again; 128 means nothing. The fuel is the number of bytes. -/
def expandRuns : (fuel needed : Nat) → List UInt8 → List UInt8
  | 0, _, _ => []
  | _, _, [] => []
  | fuel + 1, needed, head :: rest =>
    if needed = 0 then []
    else
      let head := head.toNat
      if head < 128 then
        let literal := rest.take (head + 1)
        literal ++ expandRuns fuel (needed - literal.length) (rest.drop (head + 1))
      else if head = 128 then expandRuns fuel needed rest
      else
        match rest with
        | [] => []
        | byte :: rest =>
          List.replicate (257 - head) byte ++ expandRuns fuel (needed - (257 - head)) rest

/-! ## Strings -/

/-- The code that forgets all strings. -/
def clearCode : Nat := 256

/-- The code that ends the data. -/
def endCode : Nat := 257

/-- The strings that every table begins with: the single bytes, and nothing
    for the two codes behind them. -/
def firstStrings : Array (List UInt8) :=
  ((List.range 256).map fun n => [n.toUInt8]).toArray ++ #[[], []]

/-- The most strings there are. -/
def stringLimit : Nat := 4096

/-- The bits of a code when there are so many strings. Codes grow one string
    early. -/
def codeWidth (strings : Nat) : Nat :=
  if strings < 511 then 9 else if strings < 1023 then 10 else if strings < 2047 then 11 else 12

/-- Expands codes up to a number of bytes. Each code stands for a string; that
    string with the first byte of the next one becomes a string of its own.
    The strings of the output stand last first. -/
def expandCodes : (fuel needed : Nat) → (strings : Array (List UInt8)) →
    (last : Option (List UInt8)) → HighBits → List (List UInt8) → Option (List (List UInt8))
  | 0, _, _, _, _, out => some out
  | fuel + 1, needed, strings, last, source, out =>
    if needed = 0 then some out
    else
      match source.bits? (codeWidth strings.size) with
      | none => some out
      | some (code, source) =>
        if code = clearCode then expandCodes fuel needed firstStrings none source out
        else if code = endCode then some out
        else
          match last with
          | none =>
            match strings[code]? with
            | none => none
            | some text =>
              expandCodes fuel (needed - text.length) strings (some text) source (text :: out)
          | some before =>
            let text? :=
              if code = strings.size then some (before ++ before.take 1) else strings[code]?
            match text? with
            | none => none
            | some text =>
              let strings :=
                if strings.size < stringLimit then strings.push (before ++ text.take 1)
                else strings
              expandCodes fuel (needed - text.length) strings (some text) source (text :: out)

/-! ## Rows of two colors -/

/-- The byte of up to eight bits, the highest first. -/
def byteOf (bits : List Bool) : UInt8 :=
  ((bits ++ List.replicate (8 - bits.length) false).foldl
    (fun n (bit : Bool) => 2 * n + bit.toNat) 0).toUInt8

/-- The bytes of a row of bits. -/
def packBits : (bytes : Nat) → List Bool → List UInt8
  | 0, _ => []
  | bytes + 1, bits => byteOf (bits.take 8) :: packBits bytes (bits.drop 8)

/-- The most columns and rows that a facsimile has. -/
def facsimileLimit : Nat := 65535

/-- Expands rows in facsimile code, as many as it takes for `needed` bytes but
    no more than there are. -/
def expandFacsimile? (width height needed : Nat) (bytes : List UInt8) : Option (List UInt8) :=
  let rowBytes := (width + 7) / 8
  if facsimileLimit < width then none
  else
    (Facsimile.readRows width (min height ((needed + rowBytes - 1) / rowBytes)) #[]
      (.ofBytes bytes)).map fun rows => rows.flatMap (packBits rowBytes)

/-! ## JPEG files -/

/-- The JPEG file in a block. Tables that several blocks share stand apart, as a
    file of their own: its end and the beginning of the block are left out where
    they meet. -/
def jpegFile? (tables : Option (List UInt8)) (bytes : List UInt8) : Option (List UInt8) :=
  match tables with
  | none => some bytes
  | some tables =>
    if bytes.length < 2 then none
    else some (tables.take (tables.length - 2) ++ bytes.drop 2)

/-- Expands a JPEG file: the samples as they were sent, point by point. -/
def expandJpeg? (tables : Option (List UInt8)) (bytes : List UInt8) : Option (List UInt8) :=
  (jpegFile? tables bytes).bind fun file => (Jpeg.decodeComponents file).toOption

/-! ## Methods -/

/-- A method of compression. -/
inductive Compression where
  | plain
  | strings
  | deflate
  | runs
  | facsimile
  /-- A JPEG file for each block, with the tables that they share. -/
  | jpeg (tables : Option (List UInt8))
  /-- A method that cannot be read, by its name. -/
  | unsupported (name : String)
  deriving DecidableEq

namespace Compression

/-- The number of the method with JPEG files. -/
def jpegNumber : Nat := 7

/-- The method of a number; `tables` are those that JPEG files share. -/
def ofNumber (tables : Option (List UInt8)) : Nat → Compression
  | 1 => plain
  | 2 => unsupported "Huffman"
  | 3 => unsupported "Fax3"
  | 4 => facsimile
  | 5 => strings
  | 6 => unsupported "JPEG"
  | 7 => jpeg tables
  | 8 => deflate
  | 32773 => runs
  | 32946 => deflate
  | 50000 => unsupported "ZSTD"
  | 50001 => unsupported "WebP"
  | number => unsupported ("Unknown(" ++ toString number ++ ")")

/-- Expands `needed` bytes of a block of so many columns and rows. -/
def expand? (method : Compression) (width height needed : Nat) (bytes : List UInt8) :
    Option (List UInt8) :=
  let expanded : Option (List UInt8) :=
    match method with
    | plain => some bytes
    | runs => some (expandRuns bytes.length needed bytes)
    | strings =>
      (expandCodes (8 * bytes.length + 1) needed firstStrings none (.ofBytes bytes) []).map
        fun parts => parts.reverse.flatten
    | deflate => Deflate.zlibTake? needed bytes
    | facsimile => expandFacsimile? width height needed bytes
    | jpeg tables => expandJpeg? tables bytes
    | unsupported _ => none
  expanded.bind fun bytes => if needed ≤ bytes.length then some (bytes.take needed) else none

end Compression

end RenderCheck.Tiff
