import RenderCheck.Glob.Basic

/-! # Reading patterns

    A run of stars has at most two; two stand alone between separators or at
    an end of the pattern and take the separator after them along. A set has
    at least one member, so a `]` right after its opening is a member; it ends
    at the next `]`. In a set three characters with a `-` in the middle are a
    range, read from the left. -/

namespace RenderCheck.Glob

/-- Why a text is no pattern. -/
inductive Fault where
  /-- More than two stars in a row. -/
  | longStars
  /-- Two stars that share a path component with something else. -/
  | partialComponent
  /-- A set that does not close. -/
  | openSet
  deriving DecidableEq

/-- A fault and the number of characters before the place it is reported at. -/
structure SyntaxError where
  position : Nat
  fault : Fault
  deriving DecidableEq

/-- What a message says about the fault. -/
def Fault.text : Fault → String
  | longStars => "wildcards are either regular `*` or recursive `**`"
  | partialComponent => "recursive wildcards must form a single path component"
  | openSet => "invalid range pattern"

/-- The message for the error. -/
def SyntaxError.message (e : SyntaxError) : String :=
  "Pattern syntax error near position " ++ toString e.position ++ ": " ++ e.fault.text

/-- The ranges of a set: three characters with a `-` in the middle make one,
    any other character is alone. -/
def readRanges : List Char → List Range
  | a :: '-' :: b :: rest => ⟨a, b⟩ :: readRanges rest
  | a :: rest => ⟨a, a⟩ :: readRanges rest
  | [] => []

/-- Splits what follows an opening bracket into the members of the set and
    the text after its closing bracket. -/
def splitSet? : List Char → Option (List Char × List Char)
  | first :: rest =>
    match rest.dropWhile (· ≠ ']') with
    | _ :: after => some (first :: rest.takeWhile (· ≠ ']'), after)
    | [] => none
  | [] => none

/-- Reads a set after its opening bracket: its token, the number of characters
    read, and the text after it. -/
def readSet? : List Char → Option (Token × Nat × List Char)
  | '!' :: rest =>
    (splitSet? rest).map fun (members, after) =>
      (.noneOf (readRanges members), members.length + 2, after)
  | text =>
    (splitSet? text).map fun (members, after) =>
      (.oneOf (readRanges members), members.length + 1, after)

/-- Reads the tokens of a text, character by character; `position` counts the
    characters before it and `atStart` says that a separator or the beginning
    stands directly before it. The fuel is the length of the text. -/
def readTokens : (fuel : Nat) → (position : Nat) → (atStart : Bool) → List Char →
    Except SyntaxError (List Token)
  | 0, _, _, _ => .ok []
  | _ + 1, _, _, [] => .ok []
  | fuel + 1, position, atStart, c :: rest =>
    if c = '?' then (readTokens fuel (position + 1) false rest).map (.anyChar :: ·)
    else if c = '*' then
      match rest with
      | '*' :: '*' :: _ => .error ⟨position + 2, .longStars⟩
      | '*' :: after =>
        if !atStart then .error ⟨position - 1, .partialComponent⟩
        else
          match after with
          | [] => .ok [.anyDirectories]
          | '/' :: more =>
            (readTokens fuel (position + 3) true more).map (.anyDirectories :: ·)
          | _ => .error ⟨position + 2, .partialComponent⟩
      | _ => (readTokens fuel (position + 1) false rest).map (.anyText :: ·)
    else if c = '[' then
      match readSet? rest with
      | none => .error ⟨position, .openSet⟩
      | some (token, size, after) =>
        (readTokens fuel (position + 1 + size) false after).map (token :: ·)
    else (readTokens fuel (position + 1) (c = '/') rest).map (.literal c :: ·)

/-- The pattern a text says. -/
def Pattern.parse (text : String) : Except SyntaxError Pattern :=
  (readTokens text.toList.length 0 true text.toList).map Pattern.mk

end RenderCheck.Glob
