import RenderCheck.Regex.Ast
import RenderCheck.Regex.Scanner

/-! # Escapes

    What a backslash and the characters behind it stand for: a character that
    would mean something else by itself, a character by its number, a class,
    or a condition on the place. -/

namespace RenderCheck.Regex

open Scanner

/-- Characters that mean something in a pattern. -/
def metaChars : List Char :=
  ['\\', '.', '+', '*', '?', '(', ')', '|', '[', ']', '\x7b', '\x7d', '^', '$', '#', '&', '-', '~']

/-- A backslash before the character only takes its meaning away: so it is for
    the characters that mean something and for the ASCII signs and controls. -/
def isPlainEscape (c : Char) : Bool :=
  metaChars.contains c
    || c.toNat < 128 && !c.isAlphanum && c ≠ '<' && c ≠ '>'

/-- The characters that stand for controls behind a backslash. -/
def controlEscapes : List (Char × Char) :=
  [('a', '\x07'), ('f', '\x0c'), ('t', '\t'), ('n', '\n'), ('r', '\r'), ('v', '\x0b')]

/-- The conditions that are written with a backslash and one character. -/
def markEscapes : List (Char × Mark) :=
  [('A', .textStart), ('z', .textEnd), ('b', .word .boundary), ('B', .word .inside),
   ('<', .word .start), ('>', .word .stop)]

/-- The classes that are written with a backslash and one character. -/
def shortEscapes : List (Char × ShortClass × Bool) :=
  [('d', .digit, false), ('D', .digit, true), ('s', .blank, false), ('S', .blank, true),
   ('w', .word, false), ('W', .word, true)]

/-- The value of a hexadecimal digit. -/
def hexValue? (c : Char) : Option Nat :=
  if c.isDigit then some (c.toNat - 48)
  else if 'a' ≤ c && c ≤ 'f' then some (c.toNat - 87)
  else if 'A' ≤ c && c ≤ 'F' then some (c.toNat - 55)
  else none

/-- The character of a number, unless it is none. -/
def scalar? (n : Nat) : Option Char :=
  if h : n.isValidChar then some (Char.ofNatAux n h) else none

/-- Reads so many hexadecimal digits; the last one is passed over with what
    means nothing behind it. -/
def readHexDigits : (count value : Nat) → Scanner → Except SyntaxError (Nat × Scanner)
  | 0, value, s => .ok (value, s)
  | count + 1, value, s =>
    match s.peek? with
    | none => fail .escapeEnd s.here
    | some c =>
      match hexValue? c with
      | none => fail .hexDigit s.char
      | some digit => readHexDigits count (16 * value + digit) s.nextSkip

/-- Reads hexadecimal digits up to a closing brace: their number and value. -/
def readHexUntilBrace : (fuel count value : Nat) → Scanner →
    Except SyntaxError (Nat × Nat × Scanner)
  | 0, count, value, s => .ok (count, value, s)
  | fuel + 1, count, value, s =>
    match s.peek? with
    | none => .ok (count, value, s)
    | some c =>
      if c = '\x7d' then .ok (count, value, s)
      else
        match hexValue? c with
        | none => fail .hexDigit s.char
        | some digit => readHexUntilBrace fuel (count + 1) (16 * value + digit) s.nextSkip

/-- Reads a character by its number; the letter before it tells how many digits
    there are unless they stand in braces. -/
def readHex (start : Nat) (letter : Char) (s : Scanner) :
    Except SyntaxError (Primitive × Scanner) := do
  let s := s.nextSkip
  match s.peek? with
  | none => fail .escapeEnd s.here
  | some '\x7b' =>
    let brace := s.index
    let (count, value, s) ← readHexUntilBrace s.rest.length 0 0 s.nextSkip
    if s.atEnd then fail .escapeEnd (s.since brace)
    let digits : Extent := ⟨brace + 1, s.index⟩
    let s := s.nextSkip
    if count = 0 then fail .emptyHex (s.since brace)
    match scalar? value with
    | none => fail .hexScalar digits
    | some c => return (.literal (s.since start) c false, s)
  | some _ =>
    let first := s.index
    let count := if letter = 'x' then 2 else if letter = 'u' then 4 else 8
    let (value, s) ← readHexDigits count 0 s
    match scalar? value with
    | none => fail .hexScalar (s.since first)
    | some c => return (.literal (s.since start) c (letter = 'x'), s)

/-- Reads the name of a property: one character, or what stands in braces. -/
def readProperty (start : Nat) (negated : Bool) (s : Scanner) :
    Except SyntaxError (Primitive × Scanner) := do
  let s := s.nextSkip
  match s.peek? with
  | none => fail .escapeEnd s.here
  | some '\x7b' =>
    let name := (s.rest.drop 1).takeWhile (· ≠ '\x7d')
    let s := s.advance (1 + name.length)
    if s.atEnd then fail .escapeEnd s.here
    let s := s.next
    return (.property (s.since start) (String.ofList name) negated, s)
  | some '\\' => fail .invalidClass s.char
  | some c =>
    let s := s.nextSkip
    return (.property (s.since start) c.toString negated, s)

/-- The words for special conditions on words. -/
def boundaryWords : List (String × WordPlace) :=
  [("start", .start), ("end", .stop), ("start-half", .halfStart), ("end-half", .halfStop)]

/-- A character of the words for special conditions. -/
def isBoundaryChar (c : Char) : Bool := c.isAlpha || c = '-'

/-- Reads characters of a word for a special condition. -/
def readBoundaryWord : (fuel : Nat) → Scanner → List Char × Scanner
  | 0, s => ([], s)
  | fuel + 1, s =>
    match s.peek? with
    | none => ([], s)
    | some c =>
      if isBoundaryChar c then
        let (word, s) := readBoundaryWord fuel s.nextSkip
        (c :: word, s)
      else ([], s)

/-- Reads a special condition on words in braces, if there is one and no
    number of repetitions. -/
def readBoundary (start : Nat) (s : Scanner) :
    Except SyntaxError (Option WordPlace × Scanner) := do
  let inner := s.nextSkip
  match inner.peek? with
  | none => fail .boundaryEnd (inner.since start)
  | some c =>
    if !isBoundaryChar c then return (none, s)
    let (word, after) := readBoundaryWord inner.rest.length inner
    if after.peek? ≠ some '\x7d' then fail .unclosedBoundary (after.since s.index)
    match boundaryWords.lookup (String.ofList word) with
    | none => fail .unknownBoundary ⟨inner.index, after.index⟩
    | some place => return (some place, after.next)

/-- Reads an escape from its backslash on. -/
def readEscape (s : Scanner) : Except SyntaxError (Primitive × Scanner) := do
  let start := s.index
  let s := s.next
  match s.peek? with
  | none => fail .escapeEnd (s.since start)
  | some c =>
    if c.isDigit then fail .backreference ⟨start, s.index + 1⟩
    else if c = 'x' || c = 'u' || c = 'U' then readHex start c s
    else if c = 'p' || c = 'P' then readProperty start (c = 'P') s
    else
      let s := s.next
      let extent := s.since start
      match shortEscapes.lookup c, controlEscapes.lookup c, markEscapes.lookup c with
      | some (kind, negated), _, _ => return (.short extent kind negated, s)
      | _, some control, _ => return (.literal extent control false, s)
      | _, _, some mark =>
        if c = 'b' ∧ s.peek? = some '\x7b' then
          match ← readBoundary start s with
          | (some place, s) => return (.mark (s.since start) (.word place), s)
          | (none, s) => return (.mark extent mark, s)
        else return (.mark extent mark, s)
      | _, _, _ =>
        if isPlainEscape c then return (.literal extent c false, s)
        else fail .unknownEscape extent

end RenderCheck.Regex
