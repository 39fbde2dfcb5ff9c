import RenderCheck.Text.Utf8

/-! # Control sequences

    What a terminal shows of a text. Besides characters a text may hold
    control sequences: the escape character and what belongs to it, up to an
    end that depends on the kind of sequence. They steer the terminal and are
    not shown; nor are control characters other than the blank ones. The
    terminal looks at bytes, so a character may be taken for a part of a
    sequence byte by byte. -/

namespace RenderCheck.Text.Terminal

/-- Where in a sequence a terminal stands. -/
inductive State where
  /-- In none. -/
  | ground
  /-- Behind an escape character. -/
  | escape
  /-- Behind an escape character and bytes that announce one more. -/
  | escapeIntermediate
  /-- At the beginning of a control sequence. -/
  | control
  /-- In the parameters of a control sequence. -/
  | controlParameter
  /-- Behind the parameters of a control sequence. -/
  | controlIntermediate
  /-- In a control sequence that is malformed. -/
  | controlIgnored
  /-- At the beginning of a device control string. -/
  | device
  /-- In the parameters of a device control string. -/
  | deviceParameter
  /-- Behind the parameters of a device control string. -/
  | deviceIntermediate
  /-- In the text of a device control string, or in one that is malformed. -/
  | deviceText
  /-- In a command for the operating system. -/
  | command
  /-- In a string that is addressed to something else. -/
  | message
  deriving DecidableEq, Inhabited

/-- The byte is a control character that is a blank. -/
def isBlankControl (b : UInt8) : Bool :=
  b = 0x09 || b = 0x0A || b = 0x0C || b = 0x0D

/-- The byte goes on with a character that takes several bytes. -/
def isContinuation (b : UInt8) : Bool :=
  0x80 ≤ b && b ≤ 0xBF

/-- Outside of sequences the byte is shown. -/
def isShown (b : UInt8) : Bool :=
  0x20 ≤ b && b ≤ 0x7E || 0xC2 ≤ b && b ≤ 0xF4 || isBlankControl b

namespace State

/-- Where the terminal stands behind a byte that belongs to the sequence. -/
def next (s : State) (b : UInt8) : State :=
  if b = 0x18 || b = 0x1A then .ground
  else if b = 0x1B then .escape
  else
    let final : Bool := 0x40 ≤ b && b ≤ 0x7E
    let intermediate : Bool := 0x20 ≤ b && b ≤ 0x2F
    let parameter : Bool := 0x30 ≤ b && b ≤ 0x3F
    match s with
    | ground => ground
    | escape =>
      if intermediate then escapeIntermediate
      else if b = 0x5B then control
      else if b = 0x5D then command
      else if b = 0x50 then device
      else if b = 0x58 || b = 0x5E || b = 0x5F then message
      else if parameter || final then ground
      else escape
    | escapeIntermediate => if parameter || final then ground else escapeIntermediate
    | control =>
      if intermediate then controlIntermediate
      else if parameter then controlParameter
      else if final then ground
      else control
    | controlParameter =>
      if intermediate then controlIntermediate
      else if 0x3C ≤ b && b ≤ 0x3F then controlIgnored
      else if final then ground
      else controlParameter
    | controlIntermediate =>
      if parameter then controlIgnored
      else if final then ground
      else controlIntermediate
    | controlIgnored => if final then ground else controlIgnored
    | device =>
      if intermediate then deviceIntermediate
      else if parameter then deviceParameter
      else if final then deviceText
      else device
    | deviceParameter =>
      if intermediate then deviceIntermediate
      else if 0x3C ≤ b && b ≤ 0x3F then deviceText
      else if final then deviceText
      else deviceParameter
    | deviceIntermediate => if parameter || final then deviceText else deviceIntermediate
    | deviceText => if b = 0x9C then ground else deviceText
    | command => if b = 0x07 then ground else command
    | message => if b = 0x9C then ground else message

/-- The byte ends the sequence and is shown. Blank control characters do so in
    a sequence that has no text of its own. -/
def releases (s : State) (b : UInt8) : Bool :=
  match s with
  | ground => isShown b
  | escape | escapeIntermediate | control | controlParameter | controlIntermediate
  | controlIgnored => isBlankControl b
  | _ => false

end State

/-- What is shown of bytes from inside a sequence on, or from inside a text. -/
def visibleFrom : Option State → List UInt8 → List UInt8
  | _, [] => []
  | none, b :: rest =>
    if isShown b || isContinuation b then b :: visibleFrom none rest
    else visibleFrom (some (State.next .ground b)) rest
  | some s, b :: rest =>
    if s.releases b then b :: visibleFrom none rest else visibleFrom (some (s.next b)) rest

/-- The bytes that are shown. -/
def visibleBytes (bytes : List UInt8) : List UInt8 :=
  visibleFrom (some .ground) bytes

/-- The text that is shown. -/
def visible (text : String) : String :=
  String.ofList (decodeLossy (visibleBytes (encode text.toList)))

/-- The text in a style that ends where the text ends. -/
def styled (text : String) : String :=
  "\x1b[33m" ++ text ++ "\x1b[0m"

end RenderCheck.Text.Terminal
