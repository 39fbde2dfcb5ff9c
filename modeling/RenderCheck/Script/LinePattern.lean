import RenderCheck.Script.Fields

/-! # Patterns of lines

    Patterns that programs look for in the lines of a text. There are two ways
    to write them: in the basic one most signs need a backslash to mean
    something, in the extended one to mean nothing. Of all places where a
    pattern matches, the first counts, and there the longest text. -/

namespace RenderCheck.Script

/-- A pattern. -/
inductive LinePattern where
  | empty
  /-- A character in some ranges, or in none of them. -/
  | one (inverted : Bool) (ranges : List Glob.Range)
  | lineStart
  | lineEnd
  | concat (first second : LinePattern)
  | either (first second : LinePattern)
  /-- A pattern so many times at least and, if there is a limit, at most. -/
  | repeated (least : Nat) (most : Option Nat) (sub : LinePattern)
  /-- A pattern whose text is kept by number. -/
  | group (number : Nat) (sub : LinePattern)
  /-- The text kept by number. -/
  | again (number : Nat)
  deriving DecidableEq

namespace LinePattern

/-- A character that stands for itself. -/
def char (c : Char) : LinePattern :=
  one false [⟨c, c⟩]

/-! ## Reading -/

/-- What a pattern is read with. -/
structure Style where
  /-- Signs mean something without a backslash. -/
  extended : Bool
  deriving DecidableEq

/-- The sign that stands in front of a text, after a backslash or without one as
    the style has it, and what follows. -/
def Style.signAt? (style : Style) : List Char → Option (Char × List Char)
  | '\\' :: c :: rest =>
    if !style.extended && ['(', ')', '\x7b', '\x7d', '|', '+', '?'].contains c then some (c, rest)
    else none
  | c :: rest =>
    if style.extended && ['(', ')', '\x7b', '|', '+', '?'].contains c then some (c, rest)
    else if c = '*' then some (c, rest)
    else none
  | [] => none

/-- Reads the limits of a repetition up to its closing brace. -/
def readLimits (style : Style) (text : List Char) : Option (Nat × Option Nat × List Char) :=
  let least := text.takeWhile Char.isDigit
  let rest := text.dropWhile Char.isDigit
  let (most, rest) : Option Nat × List Char := match rest with
    | ',' :: rest =>
      let digits := rest.takeWhile Char.isDigit
      (if digits = [] then none else some (Nat.ofDigitChars 10 digits 0), rest.dropWhile Char.isDigit)
    | rest => (some (Nat.ofDigitChars 10 least 0), rest)
  match style.extended, rest with
  | true, '\x7d' :: rest => some (Nat.ofDigitChars 10 least 0, most, rest)
  | false, '\\' :: '\x7d' :: rest => some (Nat.ofDigitChars 10 least 0, most, rest)
  | _, _ => none

mutual

/-- Reads patterns between bars: the pattern, the number of groups so far, and
    what follows. -/
def readEither (style : Style) : (fuel groups : Nat) → List Char →
    Option (LinePattern × Nat × List Char)
  | 0, _, _ => none
  | fuel + 1, groups, text => do
    let (first, groups, rest) ← readConcat style fuel groups true text
    match style.signAt? rest with
    | some ('|', rest) =>
      let (second, groups, rest) ← readEither style fuel groups rest
      return (.either first second, groups, rest)
    | _ => return (first, groups, rest)

/-- Reads patterns one after the other, with what repeats them. -/
def readConcat (style : Style) : (fuel groups : Nat) → (atStart : Bool) → List Char →
    Option (LinePattern × Nat × List Char)
  | 0, _, _, _ => none
  | fuel + 1, groups, atStart, text => do
    match text, style.signAt? text with
    | [], _ => return (.empty, groups, [])
    | _, some ('|', _) => return (.empty, groups, text)
    | _, some (')', _) => return (.empty, groups, text)
    | _, _ =>
      let (atom, groups, rest) ← readAtom style fuel groups atStart text
      let (atom, rest) ← readRepetitions style fuel atom rest
      let (others, groups, rest) ← readConcat style fuel groups false rest
      return (.concat atom others, groups, rest)

/-- Reads the signs that repeat a pattern. -/
def readRepetitions (style : Style) : (fuel : Nat) → LinePattern → List Char →
    Option (LinePattern × List Char)
  | 0, _, _ => none
  | fuel + 1, atom, text => do
    match style.signAt? text with
    | some ('*', rest) => readRepetitions style fuel (.repeated 0 none atom) rest
    | some ('+', rest) => readRepetitions style fuel (.repeated 1 none atom) rest
    | some ('?', rest) => readRepetitions style fuel (.repeated 0 (some 1) atom) rest
    | some ('\x7b', rest) =>
      let (least, most, rest) ← readLimits style rest
      readRepetitions style fuel (.repeated least most atom) rest
    | _ => return (atom, text)

/-- Reads one pattern. A star where nothing stands before it is a character. -/
def readAtom (style : Style) : (fuel groups : Nat) → (atStart : Bool) → List Char →
    Option (LinePattern × Nat × List Char)
  | 0, _, _, _ => none
  | fuel + 1, groups, atStart, text => do
    match style.signAt? text, text with
    | some ('(', rest), _ =>
      let number := groups + 1
      let (sub, groups, rest) ← readEither style fuel number rest
      match style.signAt? rest with
      | some (')', rest) => return (.group number sub, groups, rest)
      | _ => none
    | some (sign, rest), _ =>
      if sign = '*' || atStart then return (.char sign, groups, rest) else none
    | none, '.' :: rest => return (.one true [], groups, rest)
    | none, '^' :: rest =>
      return (if atStart || style.extended then .lineStart else .char '^', groups, rest)
    | none, '$' :: rest =>
      let closes := match style.signAt? rest with
        | some (sign, _) => sign = '|' || sign = ')'
        | none => rest = []
      return (if closes || style.extended then .lineEnd else .char '$', groups, rest)
    | none, '[' :: rest =>
      let inverted := rest.head? = some '^'
      let inner := if inverted then rest.drop 1 else rest
      let (set, rest) ← readSet (inner.length + 1) true (inner.map (⟨·, false⟩))
      return (.one inverted set, groups, rest.map (·.char))
    | none, '\\' :: c :: rest =>
      let word : List Glob.Range := [⟨'0', '9'⟩, ⟨'A', 'Z'⟩, ⟨'_', '_'⟩, ⟨'a', 'z'⟩]
      let blank : List Glob.Range := [⟨' ', ' '⟩, ⟨'\t', '\r'⟩]
      let atom : LinePattern :=
        if '1' ≤ c && c ≤ '9' then .again (c.toNat - 48)
        else
          match c with
          | 'n' => .char '\n'
          | 't' => .char '\t'
          | 'w' => .one false word
          | 'W' => .one true word
          | 's' => .one false blank
          | 'S' => .one true blank
          | c => .char c
      return (atom, groups, rest)
    | none, c :: rest => return (.char c, groups, rest)
    | none, [] => none

end

/-- Reads a pattern. -/
def read? (extended : Bool) (text : String) : Option LinePattern :=
  match readEither ⟨extended⟩ (8 * text.length + 8) 0 text.toList with
  | some (pattern, _, []) => some pattern
  | _ => none

/-! ## Matching -/

/-- A place in a line, and the texts kept so far, by where they begin and
    end. -/
structure Place where
  position : Nat
  kept : List (Nat × Nat × Nat) := []

/-- Places without those that stand at the same position as one before. -/
def distinct (places : List Place) : List Place :=
  places.foldr (fun place others =>
    place :: others.filter (·.position ≠ place.position)) []

/-- The places where a pattern may end that begins at some place. A
    repetition without a limit goes on once more than there are letters. -/
def ends (anyCase : Bool) (letters : Array Char) : LinePattern → Place → List Place
  | empty, place => [place]
  | one inverted ranges, place =>
    match letters[place.position]? with
    | none => []
    | some c =>
      let isIn (c : Char) : Bool := ranges.any (·.contains c)
      let found := isIn c || (anyCase && (isIn c.toLower || isIn c.toUpper))
      if found != inverted then [{ place with position := place.position + 1 }] else []
  | lineStart, place => if place.position = 0 then [place] else []
  | lineEnd, place => if place.position = letters.size then [place] else []
  | concat first second, place =>
    distinct ((first.ends anyCase letters place).flatMap (second.ends anyCase letters))
  | either first second, place =>
    distinct (first.ends anyCase letters place ++ second.ends anyCase letters place)
  | group number sub, place =>
    (sub.ends anyCase letters place).map fun stop =>
      { stop with kept := (number, place.position, stop.position) :: stop.kept }
  | again number, place =>
    match place.kept.lookup number with
    | none => []
    | some (start, stop) =>
      let text := letters.extract start stop
      if letters.extract place.position (place.position + text.size) = text then
        [{ place with position := place.position + text.size }]
      else []
  | repeated least most sub, place =>
    let once (places : List Place) : List Place :=
      distinct (places.flatMap (sub.ends anyCase letters))
    let first := (List.range least).foldl (fun places _ => once places) [place]
    let rounds := match most with
      | some most => most - least
      | none => letters.size + 1
    let (all, _) := (List.range rounds).foldl (fun (all, last) _ =>
      let next := (once last).filter fun place =>
        !all.any fun other => other.position = place.position
      (distinct (all ++ next), next)) (first, first)
    all

/-- The first place from a position on where the pattern matches, and where the
    longest match there ends. -/
def find? (pattern : LinePattern) (anyCase : Bool) (line : Array Char) (start : Nat) :
    Option (Nat × Place) :=
  (List.range (line.size + 1 - start)).findSome? fun n =>
    match pattern.ends anyCase line { position := start + n } with
    | [] => none
    | first :: others =>
      some (start + n, others.foldl (fun best place =>
        if best.position < place.position then place else best) first)

end LinePattern

end RenderCheck.Script
