import RenderCheck.Regex.SetReader

/-! # Reading patterns

    A pattern is read from left to right. Groups may lie in each other; each
    has alternatives, and each alternative has parts one after the other. -/

namespace RenderCheck.Regex

open Scanner

/-! ## Repetitions -/

/-- Takes the last part read, to repeat it. -/
def takeOperand (items : List Ast) (s : Scanner) : Except SyntaxError (Ast × List Ast) :=
  match items with
  | [] => fail .missingOperand s.here
  | item :: items => if item.isOperand then .ok (item, items) else fail .missingOperand s.here

/-- Passes over a question mark behind a repetition, which makes it short. -/
def readGreed (s : Scanner) : Bool × Scanner :=
  if s.peek? = some '?' then (false, s.next) else (true, s)

/-- Passes over blanks. -/
def passBlanks : (fuel : Nat) → Scanner → Scanner
  | 0, s => s
  | fuel + 1, s => if s.peek?.any Text.isBlank then passBlanks fuel s.nextSkip else s

/-- Reads decimal digits. -/
def readDigits : (fuel : Nat) → Scanner → List Char × Scanner
  | 0, s => ([], s)
  | fuel + 1, s =>
    match s.peek? with
    | none => ([], s)
    | some c =>
      if c.isDigit then
        let (digits, s) := readDigits fuel s.nextSkip
        (c :: digits, s)
      else ([], s)

/-- The largest number of repetitions and one more. -/
def countBound : Nat := 4294967296

/-- Reads a number of repetitions with the blanks around it. That it is missing
    may be told later. -/
def readCount (s : Scanner) : Except SyntaxError Nat × Scanner :=
  let s := passBlanks s.rest.length s
  let start := s.index
  let (digits, s) := readDigits s.rest.length s
  let extent := s.since start
  let s := passBlanks s.rest.length s
  if digits = [] then (fail .missingCount extent, s)
  else
    let value := Nat.ofDigitChars 10 digits 0
    if value < countBound then (.ok value, s) else (fail .invalidNumber extent, s)

/-- Reads the numbers of repetitions from the brace on: the least one, and the
    most if there is a limit. -/
def readCounts (s : Scanner) : Except SyntaxError (Nat × Option Nat × Scanner) := do
  let start := s.index
  let s := s.nextSkip
  if s.atEnd then fail .unclosedCount (s.since start)
  let (least, s) := readCount s
  match s.peek? with
  | none => fail .unclosedCount (s.since start)
  | some ',' =>
    let s := s.nextSkip
    match s.peek? with
    | none => fail .unclosedCount (s.since start)
    | some '\x7d' => return (← least, none, s)
    | some _ =>
      let least ← least
      let (most, s) := readCount s
      let most ← most
      if s.peek? ≠ some '\x7d' then fail .unclosedCount (s.since start)
      if most < least then fail .countOrder ⟨start, s.index + 1⟩
      return (least, some most, s)
  | some c =>
    let least ← least
    if c ≠ '\x7d' then fail .unclosedCount (s.since start)
    return (least, some least, s)

/-! ## Groups -/

/-- A character of the name of a group. -/
def isNameChar (isFirst : Bool) (c : Char) : Bool :=
  c = '_' || if isFirst then (Text.category c).isAlphabetic
    else c = '.' || c = '[' || c = ']' || Text.isAlphanumeric c

/-- Reads the characters of a name up to its end. -/
def readNameChars (start : Nat) : (fuel : Nat) → Scanner → Except SyntaxError Scanner
  | 0, s => .ok s
  | fuel + 1, s =>
    match s.peek? with
    | none => .ok s
    | some c =>
      if c = '>' then .ok s
      else if isNameChar (s.index = start) c then readNameChars start fuel s.next
      else fail .invalidName s.char

/-- Reads the name of a group, which must be a new one. -/
def readName (s : Scanner) : Except SyntaxError Scanner := do
  if s.atEnd then fail .unclosedName s.here
  let start := s
  let s ← readNameChars start.index s.rest.length s
  if s.atEnd then fail .unclosedName s.here
  let name := String.ofList (start.rest.take (s.index - start.index))
  let extent := s.since start.index
  if name = "" then fail .emptyName ⟨start.index, start.index⟩
  match s.names.lookup name with
  | some earlier => fail .repeatedName extent (some earlier)
  | none => return { s.next with names := s.names ++ [(name, extent)] }

/-- Flags that are being read: where each stands, and whether it is on. -/
structure FlagDraft where
  /-- The flags so far, the last one first. -/
  settings : List (Flag × Bool × Extent) := []
  /-- Where the sign stands that turns flags off. -/
  negation : Option Extent := none
  /-- The sign was the last thing read. -/
  isDangling : Bool := false

/-- Takes in the next character among flags. -/
def FlagDraft.take (d : FlagDraft) (c : Char) (s : Scanner) : Except SyntaxError FlagDraft :=
  if c = '-' then
    match d.negation with
    | some earlier => fail .repeatedNegation s.char (some earlier)
    | none => .ok { d with negation := some s.char, isDangling := true }
  else
    match Flag.letters.lookup c with
    | none => fail .unknownFlag s.char
    | some flag =>
      match d.settings.lookup flag with
      | some (_, earlier) => fail .repeatedFlag s.char (some earlier)
      | none =>
        .ok { d with settings := (flag, d.negation.isNone, s.char) :: d.settings,
                     isDangling := false }

/-- Reads flags up to a colon or a closing parenthesis. -/
def readFlags : (fuel : Nat) → FlagDraft → Scanner → Except SyntaxError (FlagDraft × Scanner)
  | 0, _, s => fail .flagEnd s.here
  | fuel + 1, d, s => do
    match s.peek? with
    | none => fail .flagEnd s.here
    | some c =>
      if c = ':' ∨ c = ')' then
        match d.isDangling, d.negation with
        | true, some extent => fail .danglingNegation extent
        | _, _ => return (d, s)
      else readFlags fuel (← d.take c s) s.next

/-- What stands behind the opening of a group. -/
inductive GroupHead where
  /-- Parts, with flags that hold among them, and the number of the group if it
      has one. -/
  | parts (number : Option Nat) (settings : FlagSettings)
  /-- Nothing but flags. -/
  | flags (settings : FlagSettings)

/-- What looks ahead or behind. -/
def lookAroundSigns : List String := ["?=", "?!", "?<=", "?<!"]

/-- Gives the next number to a group. Groups are numbered in the order in which
    they open, from one on. -/
def numbered (s : Scanner) : GroupHead × Scanner :=
  (.parts (some (s.groups + 1)) [], { s with groups := s.groups + 1 })

/-- Reads the opening of a group from its parenthesis on. -/
def readGroupHead (s : Scanner) : Except SyntaxError (GroupHead × Scanner) := do
  let start := s.index
  let s := s.nextSkip
  match lookAroundSigns.findSome? s.accept? with
  | some after => fail .lookAround (after.since start)
  | none =>
    match (s.accept? "?P<").or (s.accept? "?<") with
    | some inner => return numbered (← readName inner)
    | none =>
      match s.accept? "?" with
      | none => return numbered s
      | some inner =>
        if inner.atEnd then fail .unclosedGroup ⟨start, start + 1⟩
        let (draft, after) ← readFlags (inner.rest.length + 1) {} inner
        let settings := draft.settings.reverse.map fun (flag, on, _) => (flag, on)
        if after.peek? = some ')' then
          if settings = [] ∧ draft.negation.isNone then fail .missingOperand s.here
          return (.flags settings, after.next)
        else return (.parts none settings, after.next)

/-! ## The whole pattern -/

/-- What has been read of a group. -/
structure Level where
  /-- The alternatives before the one being read, the last one first. -/
  done : List Ast := []
  /-- The parts of the alternative being read, the last one first. -/
  items : List Ast := []

namespace Level

/-- Adds a part. -/
def add (l : Level) (item : Ast) : Level := { l with items := item :: l.items }

/-- All that has been read. -/
def ast (l : Level) : Ast :=
  .ofAlternatives (l.done.reverse ++ [.ofItems l.items.reverse])

end Level

/-- A group that is still open. -/
structure OpenGroup where
  /-- What was read before it. -/
  outer : Level
  extent : Extent
  number : Option Nat
  settings : FlagSettings
  /-- Whether blanks meant nothing before it. -/
  verbose : Bool

/-- Turns the reading of blanks on or off. -/
def Scanner.withSettings (s : Scanner) (settings : FlagSettings) : Scanner :=
  { s with verbose := (settings.lookup .verbose).getD s.verbose }

/-- Reads a pattern; `outer` are the groups around the innermost open one. Each
    round takes a character. -/
def readFrom : (fuel : Nat) → (level : Level) → (outer : List OpenGroup) → Scanner →
    Except SyntaxError Ast
  | 0, level, _, _ => .ok level.ast
  | fuel + 1, level, outer, s => do
    let s := s.skip
    match s.peek? with
    | none =>
      match outer with
      | [] => return level.ast
      | group :: _ => fail .unclosedGroup group.extent
    | some '(' =>
      let extent := s.char
      let (head, after) ← readGroupHead s
      match head with
      | .flags settings =>
        readFrom fuel (level.add (.flags settings)) outer (after.withSettings settings)
      | .parts number settings =>
        readFrom fuel {} (⟨level, extent, number, settings, s.verbose⟩ :: outer)
          (after.withSettings settings)
    | some ')' =>
      match outer with
      | [] => fail .unopenedGroup s.char
      | group :: outer =>
        readFrom fuel (group.outer.add (.group group.number group.settings level.ast)) outer
          { s with verbose := group.verbose }.next
    | some '|' =>
      readFrom fuel ⟨.ofItems level.items.reverse :: level.done, []⟩ outer s.next
    | some '[' =>
      let (set, s) ← readSet s
      readFrom fuel (level.add set) outer s
    | some '\x7b' =>
      let (operand, items) ← takeOperand level.items s
      let (least, most, s) ← readCounts s
      let (greedy, s) := readGreed s.nextSkip
      readFrom fuel { level with items := .repetition least most greedy operand :: items } outer s
    | some '\\' =>
      let (primitive, s) ← readEscape s
      readFrom fuel (level.add (.primitive primitive)) outer s
    | some c =>
      match repetitionOf? c with
      | some (least, most) =>
        let (operand, items) ← takeOperand level.items s
        let (greedy, s) := readGreed s.next
        readFrom fuel { level with items := .repetition least most greedy operand :: items }
          outer s
      | none => readFrom fuel (level.add (.primitive (primitiveOf s.char c))) outer s.next
where
  /-- How often the sign repeats a part. -/
  repetitionOf? : Char → Option (Nat × Option Nat)
    | '?' => some (0, some 1)
    | '*' => some (0, none)
    | '+' => some (1, none)
    | _ => none
  /-- What the character stands for by itself. -/
  primitiveOf (extent : Extent) : Char → Primitive
    | '.' => .dot extent
    | '^' => .mark extent .lineStart
    | '$' => .mark extent .lineEnd
    | c => .literal extent c false

/-- Reads a pattern. -/
def Ast.read (text : List Char) : Except SyntaxError Ast :=
  readFrom (text.length + 1) {} [] { rest := text }

end RenderCheck.Regex
