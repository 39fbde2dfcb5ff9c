import RenderCheck.Regex.Escape

/-! # Reading sets of characters

    A set in brackets lists characters, ranges, classes and further sets, and
    may combine what it lists by operators. Operators bind from left to
    right. -/

namespace RenderCheck.Regex

open Scanner

/-- A bracket that is still open. -/
structure OpenSet where
  /-- The bracket and what belongs to the opening of the set. -/
  extent : Extent
  negated : Bool
  /-- What was listed before the last operator, and that operator. -/
  before : Option (SetAst × SetOperator)
  /-- What is listed behind it. -/
  listed : SetAst

namespace OpenSet

/-- All that stands in the bracket so far. -/
def inner (o : OpenSet) : SetAst :=
  match o.before with
  | none => o.listed
  | some (before, operator) => .operation operator before o.listed

/-- Lists one thing more. -/
def list (o : OpenSet) (item : SetAst) : OpenSet :=
  { o with listed := .union o.listed item }

/-- Begins anew behind an operator. -/
def operate (o : OpenSet) (operator : SetOperator) : OpenSet :=
  { o with before := some (o.inner, operator), listed := .nothing }

end OpenSet

/-- Reads dashes at the beginning of a set, which stand for themselves. -/
def readDashes (start : Nat) : (fuel : Nat) → SetAst → Scanner →
    Except SyntaxError (SetAst × Scanner)
  | 0, listed, s => .ok (listed, s)
  | fuel + 1, listed, s =>
    if s.peek? = some '-' then
      let listed := .union listed (.literal s.char '-' false)
      let s := s.nextSkip
      if s.atEnd then fail .unclosedSet ⟨start, start⟩ else readDashes start fuel listed s
    else .ok (listed, s)

/-- Reads the opening of a set: the bracket, a sign for the complement, dashes,
    and a bracket that stands for itself if nothing comes before it. -/
def readOpening (s : Scanner) : Except SyntaxError (OpenSet × Scanner) := do
  let start := s.index
  let s := s.nextSkip
  if s.atEnd then fail .unclosedSet (s.since start)
  let negated : Bool := s.peek? = some '^'
  let s := if negated then s.nextSkip else s
  if s.atEnd then fail .unclosedSet (s.since start)
  let (listed, s) ← readDashes start s.rest.length .nothing s
  if listed = .nothing ∧ s.peek? = some ']' then
    let listed := SetAst.union listed (.literal s.char ']' false)
    let s := s.nextSkip
    if s.atEnd then fail .unclosedSet (s.since start)
    return (⟨s.since start, negated, none, listed⟩, s)
  else return (⟨s.since start, negated, none, listed⟩, s)

/-- Reads an ASCII class, if there is one. -/
def readNamed? (s : Scanner) : Option (SetAst × Scanner) :=
  match s.accept? "[:" with
  | none => none
  | some inner =>
    let negated : Bool := inner.peek? = some '^'
    let inner := if negated then inner.next else inner
    let name := inner.rest.takeWhile (· ≠ ':')
    match (inner.advance name.length).accept? ":]" with
    | none => none
    | some after =>
      (CharSet.asciiClasses.lookup (String.ofList name)).map fun set =>
        (.named set negated, after)

/-- Reads a character or an escape in a set. -/
def readSetItem (s : Scanner) : Except SyntaxError (Primitive × Scanner) :=
  match s.peek? with
  | some '\\' => readEscape s
  | some c => .ok (.literal s.char c false, s.next)
  | none => fail .unclosedSet s.here

/-- An escape as something that a set lists. -/
def Primitive.asListed : Primitive → Except SyntaxError SetAst
  | literal extent c isByte => .ok (.literal extent c isByte)
  | short extent kind negated => .ok (.short extent kind negated)
  | property extent name negated => .ok (.property extent name negated)
  | other => fail .escapeInSet other.extent

/-- Reads a range, or one thing that a set lists. `opening` is what to point at
    if the set does not end. -/
def readRange (opening : Extent) (s : Scanner) : Except SyntaxError (SetAst × Scanner) := do
  let (low, s) ← readSetItem s
  let s := s.skip
  if s.atEnd then fail .unclosedSet opening
  if s.peek? ≠ some '-' ∨ s.peekBehind? = some ']' ∨ s.peekBehind? = some '-' then
    return (← low.asListed, s)
  let s := s.nextSkip
  if s.atEnd then fail .unclosedSet opening
  let (high, s) ← readSetItem s
  match low, high with
  | .literal lowExtent a lowIsByte, .literal highExtent b highIsByte =>
    if b < a then fail .rangeOrder ⟨lowExtent.start, highExtent.stop⟩
    return (.range lowExtent highExtent a b lowIsByte highIsByte, s)
  | .literal _ _ _, other => fail .rangeBoundary other.extent
  | other, _ => fail .rangeBoundary other.extent

/-- The operators by their signs. -/
def setOperators : List (String × SetOperator) :=
  [("&&", .intersection), ("--", .difference), ("~~", .symmetricDifference)]

/-- Reads an operator, if there is one. -/
def readOperator? (s : Scanner) : Option (SetOperator × Scanner) :=
  setOperators.findSome? fun (sign, operator) => (s.accept? sign).map fun s => (operator, s)

/-- Reads a set from behind its opening; `outer` are the brackets around the
    innermost open one. Each round takes a character. -/
def readSetFrom : (fuel : Nat) → (current : OpenSet) → (outer : List OpenSet) → Scanner →
    Except SyntaxError (Ast × Scanner)
  | 0, current, _, _ => fail .unclosedSet current.extent
  | fuel + 1, current, outer, s => do
    let s := s.skip
    match s.peek? with
    | none => fail .unclosedSet current.extent
    | some '[' =>
      match readNamed? s with
      | some (item, s) => readSetFrom fuel (current.list item) outer s
      | none =>
        let (inner, s) ← readOpening s
        readSetFrom fuel inner (current :: outer) s
    | some ']' =>
      let s := s.next
      let extent := s.since current.extent.start
      match outer with
      | [] => return (.set extent current.negated current.inner, s)
      | parent :: outer =>
        readSetFrom fuel (parent.list (.bracketed extent current.negated current.inner)) outer s
    | some _ =>
      match readOperator? s with
      | some (operator, s) => readSetFrom fuel (current.operate operator) outer s
      | none =>
        let (item, s) ← readRange current.extent s
        readSetFrom fuel (current.list item) outer s

/-- Reads a set from its bracket on. -/
def readSet (s : Scanner) : Except SyntaxError (Ast × Scanner) := do
  let (opening, s) ← readOpening s
  readSetFrom (s.rest.length + 1) opening [] s

end RenderCheck.Regex
