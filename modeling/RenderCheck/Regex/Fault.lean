/-! # Faults of patterns

    What is wrong with a pattern, and where. A message shows the pattern with
    marks under the places that it is about. -/

namespace RenderCheck.Regex

/-- A part of a pattern, by the positions of its characters. -/
structure Extent where
  start : Nat
  /-- The position behind the last character. -/
  stop : Nat
  deriving DecidableEq

/-- What can be wrong with a pattern. -/
inductive Fault where
  | escapeInSet
  | rangeOrder
  | rangeBoundary
  | unclosedSet
  | emptyHex
  | hexScalar
  | hexDigit
  | escapeEnd
  | unknownEscape
  | danglingNegation
  | repeatedFlag
  | repeatedNegation
  | flagEnd
  | unknownFlag
  | repeatedName
  | emptyName
  | invalidName
  | unclosedName
  | unclosedGroup
  | unopenedGroup
  | invalidNumber
  | countOrder
  | missingCount
  | unclosedCount
  | missingOperand
  | unclosedBoundary
  | unknownBoundary
  | boundaryEnd
  | invalidClass
  | backreference
  | lookAround
  /-- Without Unicode there are only bytes. -/
  | unicodeNotAllowed
  /-- The pattern could match half a character. -/
  | invalidUtf8
  | unknownProperty
  deriving DecidableEq

/-- What a message says about the fault. -/
def Fault.text : Fault → String
  | escapeInSet => "invalid escape sequence found in character class"
  | rangeOrder => "invalid character class range, the start must be <= the end"
  | rangeBoundary => "invalid range boundary, must be a literal"
  | unclosedSet => "unclosed character class"
  | emptyHex => "hexadecimal literal empty"
  | hexScalar => "hexadecimal literal is not a Unicode scalar value"
  | hexDigit => "invalid hexadecimal digit"
  | escapeEnd => "incomplete escape sequence, reached end of pattern prematurely"
  | unknownEscape => "unrecognized escape sequence"
  | danglingNegation => "dangling flag negation operator"
  | repeatedFlag => "duplicate flag"
  | repeatedNegation => "flag negation operator repeated"
  | flagEnd => "expected flag but got end of regex"
  | unknownFlag => "unrecognized flag"
  | repeatedName => "duplicate capture group name"
  | emptyName => "empty capture group name"
  | invalidName => "invalid capture group character"
  | unclosedName => "unclosed capture group name"
  | unclosedGroup => "unclosed group"
  | unopenedGroup => "unopened group"
  | invalidNumber => "decimal literal invalid"
  | countOrder => "invalid repetition count range, the start must be <= the end"
  | missingCount => "repetition quantifier expects a valid decimal"
  | unclosedCount => "unclosed counted repetition"
  | missingOperand => "repetition operator missing expression"
  | unclosedBoundary =>
    "special word boundary assertion is either unclosed or contains an invalid character"
  | unknownBoundary => "unrecognized special word boundary assertion, valid choices are: "
      ++ "start, end, start-half or end-half"
  | boundaryEnd => "found either the beginning of a special word boundary or a bounded "
      ++ "repetition on a \\b with an opening brace, but no closing brace"
  | invalidClass => "invalid Unicode character class"
  | backreference => "backreferences are not supported"
  | lookAround => "look-around, including look-ahead and look-behind, is not supported"
  | unicodeNotAllowed => "Unicode not allowed here"
  | invalidUtf8 => "pattern can match invalid UTF-8"
  | unknownProperty => "Unicode property not found"

/-- A fault and its place. -/
structure SyntaxError where
  fault : Fault
  extent : Extent
  /-- Another place that the fault has to do with. -/
  other : Option Extent := none
  deriving DecidableEq

/-! ## Places -/

/-- The lines of a text. A line end closes a line; what follows the last one
    is a line only if there is something. -/
def linesOf : List Char → List (List Char)
  | [] => []
  | '\n' :: rest => [] :: linesOf rest
  | c :: rest =>
    match rest, linesOf rest with
    | '\n' :: _, line :: lines => (c :: line) :: lines
    | [], _ => [[c]]
    | _, line :: lines => (c :: line) :: lines
    | _, [] => [[c]]

/-- The line and the column of a position, both from zero on. -/
def placeOf : (position : Nat) → List Char → (line column : Nat) → Nat × Nat
  | 0, _, line, column => (line, column)
  | _, [], line, column => (line, column)
  | n + 1, c :: rest, line, column =>
    if c = '\n' then placeOf n rest (line + 1) 0 else placeOf n rest line (column + 1)

/-- A part of a pattern by lines and columns. -/
structure Stretch where
  start : Nat × Nat
  stop : Nat × Nat
  deriving DecidableEq

/-- The part of a pattern by lines and columns. -/
def Extent.stretch (e : Extent) (pattern : List Char) : Stretch :=
  ⟨placeOf e.start pattern 0 0, placeOf e.stop pattern 0 0⟩

/-- Stretches on one line begin before others. -/
def Stretch.before (a b : Stretch) : Bool :=
  a.start.2 < b.start.2 || a.start.2 = b.start.2 && a.stop.2 ≤ b.stop.2

/-- Spaces. -/
def spaces (count : Nat) : List Char :=
  List.replicate count ' '

/-- Marks under stretches of one line, from a column on. Under a stretch of
    no characters stands one mark. -/
def marks : (column : Nat) → List Stretch → List Char
  | _, [] => []
  | column, s :: rest =>
    let width := max 1 (s.stop.2 - s.start.2)
    spaces (s.start.2 - column) ++ List.replicate width '^'
      ++ marks (max column s.start.2 + width) rest

/-! ## Messages -/

namespace SyntaxError

/-- The parts of the pattern that the error is about, in order. -/
def stretches (e : SyntaxError) (pattern : List Char) : List Stretch :=
  let main := e.extent.stretch pattern
  match e.other with
  | none => [main]
  | some other =>
    let other := other.stretch pattern
    if other.before main then [other, main] else [main, other]

/-- A line of the pattern with its number, and the marks under it. -/
def lineText (width number : Nat) (line : List Char) (stretches : List Stretch) : List Char :=
  let digits := (toString (number + 1)).toList
  let head := if width = 0 then spaces 4 else spaces (width - digits.length) ++ digits ++ [':', ' ']
  let own := stretches.filter fun s => s.start.1 = number && s.stop.1 = number
  head ++ line ++ ['\n']
    ++ if own = [] then []
      else spaces (if width = 0 then 4 else 2 + width) ++ marks 0 own ++ ['\n']

/-- What is said of a stretch over several lines. -/
def acrossText (s : Stretch) : String :=
  "on line " ++ toString (s.start.1 + 1) ++ " (column " ++ toString (s.start.2 + 1)
    ++ ") through line " ++ toString (s.stop.1 + 1) ++ " (column " ++ toString s.stop.2 ++ ")"

/-- The text of the error. A pattern of several lines stands between rules. -/
def text (e : SyntaxError) (pattern : List Char) : String :=
  let lines := linesOf pattern
  let count := lines.length + if pattern.getLast? = some '\n' then 1 else 0
  let width := if count ≤ 1 then 0 else (toString count).length
  let stretches := e.stretches pattern
  let shown := String.ofList
    (lines.zipIdx.flatMap fun (line, number) => lineText width number line stretches)
  if pattern.contains '\n' then
    let rule := String.ofList (List.replicate 79 '~') ++ "\n"
    let across := stretches.filter fun s => s.start.1 ≠ s.stop.1
    "regex parse error:\n" ++ rule ++ shown ++ rule
      ++ (if across = [] then "" else "\n".intercalate (across.map acrossText) ++ "\n")
      ++ "error: " ++ e.fault.text
  else "regex parse error:\n" ++ shown ++ "error: " ++ e.fault.text

end SyntaxError

end RenderCheck.Regex
