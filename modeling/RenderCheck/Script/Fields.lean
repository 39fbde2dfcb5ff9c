import RenderCheck.FileTree.Operations
import RenderCheck.Glob.Basic
import RenderCheck.Script.ByteText

/-! # Words filled in

    A word becomes any number of words: values in it are cut at separators,
    and what is not quoted can be a pattern for paths. -/

namespace RenderCheck.Script

/-- A byte of a word, and whether it is quoted. -/
structure Glyph where
  char : Char
  quoted : Bool
  deriving DecidableEq

/-- The glyphs of a text. -/
def glyphs (text : String) (quoted : Bool) : List Glyph :=
  text.toList.map (⟨·, quoted⟩)

/-- The text of some glyphs. -/
def textOf (glyphs : List Glyph) : String :=
  String.ofList (glyphs.map (·.char))

/-- A part of a word whose parameters are filled in. -/
inductive Segment where
  /-- Text that belongs together. -/
  | whole (glyphs : List Glyph)
  /-- Text that separators cut. -/
  | loose (text : String)
  /-- The end of one word and the beginning of another. -/
  | gap
  deriving DecidableEq

/-! ## Cutting -/

/-- Words being put together. -/
structure Fields where
  complete : List (List Glyph) := []
  /-- The word that is begun. -/
  begun : Option (List Glyph) := none
  /-- The last word ended at a blank, and a separator may still follow. -/
  blankBefore : Bool := false

namespace Fields

/-- Goes on with the word begun. -/
def extend (f : Fields) (glyphs : List Glyph) : Fields :=
  { f with begun := some (f.begun.getD [] ++ glyphs), blankBefore := false }

/-- Completes the word begun. -/
def close (f : Fields) : Fields :=
  { f with complete := f.complete ++ f.begun.toList, begun := none }

/-- Goes on with a character of a text that is cut. Blanks next to each other
    cut once; any other separator ends a word, even one that is empty. -/
def addLoose (separators : List Char) (f : Fields) (c : Char) : Fields :=
  if !separators.contains c then f.extend [⟨c, false⟩]
  else if c = ' ' || c = '\t' || c = '\n' then
    if f.begun.isSome then { f.close with blankBefore := true } else f
  else if f.begun.isSome then f.close
  else if f.blankBefore then { f with blankBefore := false }
  else (f.extend []).close

/-- Goes on with a part of a word. -/
def add (separators : List Char) (f : Fields) : Segment → Fields
  | .whole glyphs => f.extend glyphs
  | .loose text => text.toList.foldl (addLoose separators) f
  | .gap => f.close

end Fields

/-- The words that the parts of a word become. -/
def cutSegments (separators : List Char) (segments : List Segment) : List (List Glyph) :=
  (segments.foldl (Fields.add separators) {}).close.complete

/-- The glyphs of the parts of a word that stays one; the joint stands between
    what would be different words. -/
def joinSegments (joint : String) (segments : List Segment) : List Glyph :=
  segments.flatMap fun
    | .whole glyphs => glyphs
    | .loose text => glyphs text false
    | .gap => glyphs joint true

/-! ## Patterns -/

/-- The classes of characters by name. -/
def characterClasses : List (String × List Glob.Range) :=
  [("alnum", [⟨'0', '9'⟩, ⟨'A', 'Z'⟩, ⟨'a', 'z'⟩]), ("alpha", [⟨'A', 'Z'⟩, ⟨'a', 'z'⟩]),
   ("blank", [⟨' ', ' '⟩, ⟨'\t', '\t'⟩]), ("cntrl", [⟨'\x00', '\x1f'⟩, ⟨'\x7f', '\x7f'⟩]),
   ("digit", [⟨'0', '9'⟩]), ("graph", [⟨'!', '~'⟩]), ("lower", [⟨'a', 'z'⟩]),
   ("print", [⟨' ', '~'⟩]),
   ("punct", [⟨'!', '/'⟩, ⟨':', '@'⟩, ⟨'[', '\x60'⟩, ⟨'\x7b', '~'⟩]),
   ("space", [⟨' ', ' '⟩, ⟨'\t', '\r'⟩]), ("upper", [⟨'A', 'Z'⟩]),
   ("xdigit", [⟨'0', '9'⟩, ⟨'A', 'F'⟩, ⟨'a', 'f'⟩])]

/-- Reads the items of a set up to its closing bracket; the first of them may
    be a bracket. The fuel is the number of glyphs. -/
def readSet : (fuel : Nat) → (first : Bool) → List Glyph →
    Option (List Glob.Range × List Glyph)
  | 0, _, _ => none
  | fuel + 1, first, text =>
    match text with
    | [] => none
    | ⟨'[', false⟩ :: ⟨':', false⟩ :: rest =>
      let name := textOf (rest.takeWhile (·.char ≠ ':'))
      match characterClasses.lookup name, rest.drop name.length with
      | some ranges, ⟨':', _⟩ :: ⟨']', _⟩ :: rest =>
        (readSet fuel false rest).map fun (set, rest) => (ranges ++ set, rest)
      | _, _ => (readSet fuel false (⟨':', true⟩ :: rest)).map fun (set, rest) =>
        (⟨'[', '['⟩ :: set, rest)
    | ⟨']', false⟩ :: rest =>
      if first then (readSet fuel false rest).map fun (set, rest) => (⟨']', ']'⟩ :: set, rest)
      else some ([], rest)
    | low :: ⟨'-', false⟩ :: high :: rest =>
      if high = ⟨']', false⟩ then some ([⟨low.char, low.char⟩, ⟨'-', '-'⟩], rest)
      else (readSet fuel false rest).map fun (set, rest) => (⟨low.char, high.char⟩ :: set, rest)
    | c :: rest => (readSet fuel false rest).map fun (set, rest) => (⟨c.char, c.char⟩ :: set, rest)

/-- The tokens of a pattern; the fuel is the number of glyphs. -/
def patternTokens : (fuel : Nat) → List Glyph → List Glob.Token
  | 0, _ => []
  | _, [] => []
  | fuel + 1, ⟨c, quoted⟩ :: rest =>
    if quoted then .literal c :: patternTokens fuel rest
    else if c = '*' then .anyText :: patternTokens fuel rest
    else if c = '?' then .anyChar :: patternTokens fuel rest
    else if c = '[' then
      let inverted := rest.head?.any fun glyph =>
        !glyph.quoted && (glyph.char = '!' || glyph.char = '^')
      match readSet (rest.length + 1) true (if inverted then rest.drop 1 else rest) with
      | some (set, rest) =>
        (if inverted then .noneOf set else .oneOf set) :: patternTokens fuel rest
      | none => .literal c :: patternTokens fuel rest
    else .literal c :: patternTokens fuel rest

/-- The pattern that glyphs write. -/
def patternOf (glyphs : List Glyph) : Glob.Pattern :=
  ⟨patternTokens glyphs.length glyphs⟩

/-- A text without what a pattern matches at its front, the longest such or the
    shortest. -/
def withoutFront (longest : Bool) (pattern : Glob.Pattern) (text : List Char) : List Char :=
  let lengths := List.range (text.length + 1)
  match (if longest then lengths.reverse else lengths).find? fun n =>
      pattern.accepts (text.take n) with
  | some n => text.drop n
  | none => text

/-- A text without what a pattern matches at its end, the longest such or the
    shortest. -/
def withoutEnd (longest : Bool) (pattern : Glob.Pattern) (text : List Char) : List Char :=
  let lengths := List.range (text.length + 1)
  match (if longest then lengths else lengths.reverse).find? fun n =>
      pattern.accepts (text.drop n) with
  | some n => text.take n
  | none => text

/-! ## Paths -/

/-- The glyphs ask for paths that match. -/
def asksForPaths (glyphs : List Glyph) : Bool :=
  glyphs.any fun glyph => !glyph.quoted && ['*', '?', '['].contains glyph.char

/-- The paths that go on behind one with names that match, one after the
    other. -/
def matchingPaths (files : FileTree) : (base : String) → List (List Glyph) → List String
  | base, [] => if files.pathExists (toPath base) then [base] else []
  | base, glyphs :: others =>
    let goOn (name : String) : List String :=
      match others with
      | [] => matchingPaths files (base ++ name) []
      | others => matchingPaths files (base ++ name ++ "/") others
    if asksForPaths glyphs then
      let directory := if base = "" then "." else base
      let names := ((files.listDir (toPath directory)).toOption.getD []).map fun entry =>
        ofCharacters entry.1
      let hidden := glyphs.head?.any (·.char = '.')
      let found := names.filter fun name =>
        (hidden || name.toList.head? ≠ some '.') && (patternOf glyphs).accepts name.toList
      found.flatMap goOn
    else goOn (textOf glyphs)

/-- The parts of a path between its separators. -/
def splitGlyphs (glyphs : List Glyph) : List (List Glyph) :=
  glyphs.foldr (fun glyph parts =>
    if glyph.char = '/' then [] :: parts
    else
      match parts with
      | part :: parts => (glyph :: part) :: parts
      | [] => [[glyph]]) [[]]

/-- The texts that glyphs become: the paths that match if they are a pattern
    and some do. -/
def expandPaths (files : FileTree) (glyphs : List Glyph) : List String :=
  if asksForPaths glyphs then
    match (matchingPaths files "" (splitGlyphs glyphs)).mergeSort (· ≤ ·) with
    | [] => [textOf glyphs]
    | paths => paths
  else [textOf glyphs]

end RenderCheck.Script
