import RenderCheck.Regex.CharSet

/-! # Patterns

    A pattern stands for texts: one character out of a set, a condition on the
    place in the text, patterns one after the other, one of two patterns, or a
    pattern again and again. Of several ways to match, the first one counts:
    the left one of two patterns, and more repetitions before fewer, or the
    other way around. What a group of a pattern matches is kept under its
    number. -/

namespace RenderCheck.Regex

/-- Which places a condition on words is about. -/
inductive WordPlace where
  /-- Between a character of a word and another one. -/
  | boundary
  /-- Anywhere else. -/
  | inside
  /-- Where a word begins. -/
  | start
  /-- Where a word ends. -/
  | stop
  /-- Where no word has begun. -/
  | halfStart
  /-- Where no word goes on. -/
  | halfStop
  deriving DecidableEq

/-- A condition on a place in a text. -/
inductive Condition where
  | textStart
  | textEnd
  | lineStart
  | lineEnd
  /-- As the one before, but a carriage return ends a line too. -/
  | anyLineStart
  | anyLineEnd
  /-- A condition on words, which are words of Unicode or of ASCII. -/
  | word (place : WordPlace) (unicode : Bool)
  deriving DecidableEq

/-- A pattern. -/
inductive Pattern where
  | empty
  | set (set : CharSet)
  | condition (condition : Condition)
  | concat (a b : Pattern)
  | alternation (a b : Pattern)
  /-- A pattern so many times at least and, if there is a limit, at most. -/
  | repetition (least : Nat) (most : Option Nat) (greedy : Bool) (sub : Pattern)
  /-- A pattern whose match is kept. -/
  | group (number : Nat) (sub : Pattern)
  deriving DecidableEq

namespace Pattern

/-- The pattern stands for the empty text, at some place at least. -/
def isNullable : Pattern → Bool
  | empty => true
  | set _ => false
  | condition _ => true
  | concat a b => a.isNullable && b.isNullable
  | alternation a b => a.isNullable || b.isNullable
  | repetition least _ _ sub => least = 0 || sub.isNullable
  | group _ sub => sub.isNullable

/-- A condition on words of Unicode occurs in the pattern. -/
def asksForUnicodeWords : Pattern → Bool
  | empty => false
  | set _ => false
  | condition (.word _ unicode) => unicode
  | condition _ => false
  | concat a b => a.asksForUnicodeWords || b.asksForUnicodeWords
  | alternation a b => a.asksForUnicodeWords || b.asksForUnicodeWords
  | repetition _ most _ sub => most ≠ some 0 && sub.asksForUnicodeWords
  | group _ sub => sub.asksForUnicodeWords

end Pattern

/-! ## Conditions -/

/-- The character is one of ASCII words. -/
def isAsciiWordChar (c : Char) : Bool :=
  CharSet.asciiWord.has c.toNat

namespace Condition

/-- The condition holds between two characters, or at an end of the text. -/
def holds (condition : Condition) (before after : Option Char) : Bool :=
  match condition with
  | textStart => before.isNone
  | textEnd => after.isNone
  | lineStart => before.all (· = '\n')
  | lineEnd => after.all (· = '\n')
  | anyLineStart =>
    before.all fun c => c = '\n' || c = '\r' && after ≠ some '\n'
  | anyLineEnd =>
    after.all fun c => c = '\r' || c = '\n' && before ≠ some '\r'
  | word place unicode =>
    let isWord (c : Char) : Bool := if unicode then Text.isWordChar c else isAsciiWordChar c
    let left := before.any isWord
    let right := after.any isWord
    match place with
    | .boundary => left != right
    | .inside => left == right
    | .start => !left && right
    | .stop => left && !right
    | .halfStart => !left
    | .halfStop => !right

end Condition

end RenderCheck.Regex
