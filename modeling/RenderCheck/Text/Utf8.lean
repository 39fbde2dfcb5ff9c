/-! # UTF-8

    Texts as bytes. `encode` writes a text, `decodeLossy` reads any bytes: a
    malformed sequence becomes one replacement character, and only the bytes
    that a valid sequence could have begun with are taken for it. Reading goes
    on, as `length_decodeOne` says, with what is left after each sequence. -/

namespace RenderCheck.Text

/-- The character that stands for malformed bytes. -/
def replacement : Char := '\uFFFD'

/-! ## Writing -/

/-- The bytes of one character: one to four, by its code point. -/
def encodeChar (c : Char) : List UInt8 :=
  let n := c.toNat
  if n < 0x80 then [n.toUInt8]
  else if n < 0x800 then [(0xC0 + n / 0x40).toUInt8, (0x80 + n % 0x40).toUInt8]
  else if n < 0x10000 then
    [(0xE0 + n / 0x1000).toUInt8, (0x80 + n / 0x40 % 0x40).toUInt8, (0x80 + n % 0x40).toUInt8]
  else
    [(0xF0 + n / 0x40000).toUInt8, (0x80 + n / 0x1000 % 0x40).toUInt8,
     (0x80 + n / 0x40 % 0x40).toUInt8, (0x80 + n % 0x40).toUInt8]

/-- The bytes of a text. -/
def encode (text : List Char) : List UInt8 :=
  text.flatMap encodeChar

/-! ## Reading -/

/-- A byte that continues a sequence. -/
def isContinuation (b : UInt8) : Bool :=
  0x80 ≤ b && b ≤ 0xBF

/-- The second bytes that may follow a lead byte of a longer sequence: the
    ranges leave out overlong forms, surrogates and what lies above the last
    code point. -/
def mayFollow (lead second : UInt8) : Bool :=
  if lead = 0xE0 then 0xA0 ≤ second && second ≤ 0xBF
  else if lead = 0xED then 0x80 ≤ second && second ≤ 0x9F
  else if lead = 0xF0 then 0x90 ≤ second && second ≤ 0xBF
  else if lead = 0xF4 then 0x80 ≤ second && second ≤ 0x8F
  else isContinuation second

/-- How many bytes the sequence of a lead byte has; 0 for a byte that leads
    none. -/
def sequenceLength (lead : UInt8) : Nat :=
  if lead < 0x80 then 1
  else if lead < 0xC2 then 0
  else if lead < 0xE0 then 2
  else if lead < 0xF0 then 3
  else if lead < 0xF5 then 4
  else 0

/-- The six payload bits of a continuation byte. -/
def payload (b : UInt8) : Nat :=
  b.toNat % 0x40

/-- Reads one sequence: its character, or `none` when it is malformed, and
    the bytes after it. A malformed sequence ends before the first byte that
    cannot continue it. -/
def decodeOne (lead : UInt8) (rest : List UInt8) : Option Char × List UInt8 :=
  match sequenceLength lead with
  | 1 => (some (Char.ofNat lead.toNat), rest)
  | 2 =>
    match rest with
    | b :: rest₁ =>
      if isContinuation b then
        (some (Char.ofNat (lead.toNat % 0x20 * 0x40 + payload b)), rest₁)
      else (none, rest)
    | [] => (none, [])
  | 3 =>
    match rest with
    | b :: rest₁ =>
      if mayFollow lead b then
        match rest₁ with
        | c :: rest₂ =>
          if isContinuation c then
            (some (Char.ofNat (lead.toNat % 0x10 * 0x1000 + payload b * 0x40 + payload c)), rest₂)
          else (none, rest₁)
        | [] => (none, [])
      else (none, rest)
    | [] => (none, [])
  | 4 =>
    match rest with
    | b :: rest₁ =>
      if mayFollow lead b then
        match rest₁ with
        | c :: rest₂ =>
          if isContinuation c then
            match rest₂ with
            | d :: rest₃ =>
              if isContinuation d then
                (some (Char.ofNat (lead.toNat % 0x08 * 0x40000 + payload b * 0x1000
                  + payload c * 0x40 + payload d)), rest₃)
              else (none, rest₂)
            | [] => (none, [])
          else (none, rest₁)
        | [] => (none, [])
      else (none, rest)
    | [] => (none, [])
  | _ => (none, rest)

/-- Reading a sequence never gives bytes back. -/
theorem length_decodeOne (lead : UInt8) (rest : List UInt8) :
    (decodeOne lead rest).2.length ≤ rest.length := by
  unfold decodeOne
  repeat' split
  all_goals simp_all <;> omega

/-- The characters of some bytes in order, `none` for each malformed
    sequence. -/
def decodeSequences : List UInt8 → List (Option Char)
  | [] => []
  | lead :: rest =>
    (decodeOne lead rest).1 :: decodeSequences (decodeOne lead rest).2
termination_by bytes => bytes.length
decreasing_by
  have := length_decodeOne lead rest
  simp only [List.length_cons]
  omega

/-- The text of some bytes, with the replacement character for each malformed
    sequence. -/
def decodeLossy (bytes : List UInt8) : List Char :=
  (decodeSequences bytes).map (·.getD replacement)

/-- The text of some bytes, if no sequence among them is malformed. -/
def decode? (bytes : List UInt8) : Option (List Char) :=
  (decodeSequences bytes).mapM id

end RenderCheck.Text
