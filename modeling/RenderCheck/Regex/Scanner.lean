import RenderCheck.Regex.Fault
import RenderCheck.Text.Blank

/-! # Reading a pattern from left to right

    What is left of a pattern, how far it has been read, and what has to be
    remembered on the way. A pattern may be written with blanks and comments
    that mean nothing. -/

namespace RenderCheck.Regex

/-- The state of reading a pattern. -/
structure Scanner where
  rest : List Char
  /-- The position of the next character. -/
  index : Nat := 0
  /-- Blanks and comments mean nothing. -/
  verbose : Bool := false
  /-- The names of groups so far, and where they stand. -/
  names : List (String × Extent) := []
  /-- How many groups so far have a number. -/
  groups : Nat := 0

namespace Scanner

/-- Nothing is left. -/
def atEnd (s : Scanner) : Bool := s.rest.isEmpty

/-- The next character, if any. -/
def peek? (s : Scanner) : Option Char := s.rest.head?

/-- Passes over the next character. -/
def next (s : Scanner) : Scanner :=
  match s.rest with
  | [] => s
  | _ :: rest => { s with rest := rest, index := s.index + 1 }

/-- Passes over so many characters. -/
def advance (s : Scanner) (count : Nat) : Scanner :=
  { s with rest := s.rest.drop count, index := s.index + min count s.rest.length }

/-- How many characters at the beginning of a text mean nothing; a comment goes
    up to the end of its line. The fuel is the length of the text. -/
def idleLength : (fuel : Nat) → List Char → Nat
  | 0, _ => 0
  | _, [] => 0
  | fuel + 1, c :: rest =>
    if Text.isBlank c then 1 + idleLength fuel rest
    else if c = '#' then
      let comment := (rest.takeWhile (· ≠ '\n')).length
      let length := min (comment + 1) rest.length
      1 + length + idleLength fuel (rest.drop length)
    else 0

/-- Passes over what means nothing. -/
def skip (s : Scanner) : Scanner :=
  if s.verbose then s.advance (idleLength s.rest.length s.rest) else s

/-- Passes over the next character and what means nothing behind it. -/
def nextSkip (s : Scanner) : Scanner := s.next.skip

/-- The character behind the next one and what means nothing there. -/
def peekBehind? (s : Scanner) : Option Char := s.nextSkip.peek?

/-- Passes over a text, if it stands there. -/
def accept? (s : Scanner) (text : String) : Option Scanner :=
  if text.toList.isPrefixOf s.rest then some (s.advance text.length) else none

/-- The place of the next character. -/
def here (s : Scanner) : Extent := ⟨s.index, s.index⟩

/-- The next character as a part of the pattern. -/
def char (s : Scanner) : Extent := ⟨s.index, s.index + 1⟩

/-- From a position up to the next character. -/
def since (s : Scanner) (start : Nat) : Extent := ⟨start, s.index⟩

/-- An error at a place. -/
def fail (fault : Fault) (extent : Extent) (other : Option Extent := none) : Except SyntaxError α :=
  .error ⟨fault, extent, other⟩

end Scanner

end RenderCheck.Regex
