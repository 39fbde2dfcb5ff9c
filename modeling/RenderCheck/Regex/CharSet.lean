import RenderCheck.Text.Blank
import RenderCheck.Text.Folding
import RenderCheck.Text.Newcomer

/-! # Sets of characters

    What one place of a pattern stands for: a set of code points, built from
    ranges and classes by the operations on sets. Membership is decided by the
    way in which a set is built. -/

namespace RenderCheck.Regex

/-- A set of code points. -/
inductive CharSet where
  | nothing
  /-- From one code point to another, both included. -/
  | range (low high : Nat)
  /-- Decimal digits. -/
  | digit
  /-- White space. -/
  | blank
  /-- Characters of words. -/
  | word
  /-- Characters whose category begins with a letter. -/
  | category (initial : Char)
  | union (a b : CharSet)
  | intersection (a b : CharSet)
  | difference (a b : CharSet)
  | complement (a : CharSet)
  /-- With each letter also the others that differ in case only. -/
  | anyCase (a : CharSet)
  /-- With each ASCII letter also the one that differs in case only. -/
  | anyAsciiCase (a : CharSet)
  deriving DecidableEq

namespace CharSet

/-- The code point is in the set. -/
def has : CharSet → Nat → Bool
  | nothing, _ => false
  | range low high, n => low ≤ n && n ≤ high
  | digit, n => Text.formerCategory (Char.ofNat n) = .digit
  | blank, n => Text.isBlank (Char.ofNat n)
  | word, n => Text.isWordChar (Char.ofNat n)
  | category initial, n => (Text.formerCategory (Char.ofNat n)).initial = initial
  | union a b, n => a.has n || b.has n
  | intersection a b, n => a.has n && b.has n
  | difference a b, n => a.has n && !b.has n
  | complement a, n => !a.has n
  | anyCase a, n => (Text.caseVariants n).any a.has
  | anyAsciiCase a, n => (Text.asciiCaseVariants n).any a.has

/-- One code point. -/
def single (n : Nat) : CharSet := range n n

/-- Some ranges. -/
def ofRanges (ranges : List (Nat × Nat)) : CharSet :=
  ranges.foldr (fun r set => union (range r.1 r.2) set) nothing

/-- The code points of either set, but not of both. -/
def symmetricDifference (a b : CharSet) : CharSet :=
  union (difference a b) (difference b a)

/-- Of the numbers of one byte the set has none above ASCII. -/
def isAscii (a : CharSet) : Bool :=
  (List.range 128).all fun n => !a.has (128 + n)

/-! ## Classes -/

/-- The ASCII classes by name. -/
def asciiClasses : List (String × CharSet) :=
  [("alnum", ofRanges [(48, 57), (65, 90), (97, 122)]), ("alpha", ofRanges [(65, 90), (97, 122)]),
   ("ascii", range 0 127), ("blank", ofRanges [(9, 9), (32, 32)]),
   ("cntrl", ofRanges [(0, 31), (127, 127)]), ("digit", range 48 57), ("graph", range 33 126),
   ("lower", range 97 122), ("print", range 32 126),
   ("punct", ofRanges [(33, 47), (58, 64), (91, 96), (123, 126)]),
   ("space", ofRanges [(9, 13), (32, 32)]), ("upper", range 65 90),
   ("word", ofRanges [(48, 57), (65, 90), (95, 95), (97, 122)]),
   ("xdigit", ofRanges [(48, 57), (65, 70), (97, 102)])]

/-- The ASCII characters of words. -/
def asciiWord : CharSet := ofRanges [(48, 57), (65, 90), (95, 95), (97, 122)]

/-- ASCII white space. -/
def asciiBlank : CharSet := ofRanges [(9, 13), (32, 32)]

/-- ASCII digits. -/
def asciiDigit : CharSet := range 48 57

/-! ## Laws -/

/-- A single code point is the only one in its set. -/
@[simp] theorem has_single (m n : Nat) : (single m).has n = decide (n = m) := by
  simp only [single, has]
  by_cases h : n = m
  · simp [h]
  · rw [decide_eq_false h]
    simp only [Bool.and_eq_false_iff, decide_eq_false_iff_not]
    omega

end CharSet

end RenderCheck.Regex
