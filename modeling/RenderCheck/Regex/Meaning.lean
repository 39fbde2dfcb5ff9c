import RenderCheck.Regex.Reader

/-! # What a written pattern stands for

    Flags decide what the parts of a written pattern stand for: whether letters
    stand for both cases, where lines begin and end, and whether characters are
    those of Unicode or bytes. A pattern of bytes must not match half a
    character, so its parts stay in ASCII. -/

namespace RenderCheck.Regex

open Scanner

/-- The flags that hold at a place. -/
structure Flags where
  anyCase : Bool := false
  manyLines : Bool := false
  dotAll : Bool := false
  swapGreed : Bool := false
  unicode : Bool := true
  anyLineEnd : Bool := false

namespace Flags

/-- Turns one flag on or off. -/
def turn (f : Flags) : Flag × Bool → Flags
  | (.anyCase, on) => { f with anyCase := on }
  | (.manyLines, on) => { f with manyLines := on }
  | (.dotAll, on) => { f with dotAll := on }
  | (.swapGreed, on) => { f with swapGreed := on }
  | (.unicode, on) => { f with unicode := on }
  | (.anyLineEnd, on) => { f with anyLineEnd := on }
  | (.verbose, _) => f

/-- Turns flags on and off. -/
def apply (f : Flags) (settings : FlagSettings) : Flags :=
  settings.foldl turn f

/-- The set, in both cases if the flag holds. -/
def fold (f : Flags) (set : CharSet) : CharSet :=
  if !f.anyCase then set else if f.unicode then .anyCase set else .anyAsciiCase set

/-- The condition that a mark stands for. -/
def condition (f : Flags) : Mark → Condition
  | .textStart => .textStart
  | .textEnd => .textEnd
  | .lineStart =>
    if !f.manyLines then .textStart else if f.anyLineEnd then .anyLineStart else .lineStart
  | .lineEnd =>
    if !f.manyLines then .textEnd else if f.anyLineEnd then .anyLineEnd else .lineEnd
  | .word place => .word place f.unicode

/-- The characters that the dot stands for. -/
def dotSet (f : Flags) : CharSet :=
  if f.dotAll then .complement .nothing
  else if f.anyLineEnd then .complement (.union (.single 10) (.single 13))
  else .complement (.single 10)

/-- The set of a short class. -/
def shortSet (f : Flags) : ShortClass → CharSet
  | .digit => if f.unicode then .digit else CharSet.asciiDigit
  | .blank => if f.unicode then .blank else CharSet.asciiBlank
  | .word => if f.unicode then .word else CharSet.asciiWord

end Flags

/-- The complement of a set, or the set itself. -/
def negateIf (negated : Bool) (set : CharSet) : CharSet :=
  if negated then .complement set else set

/-- Lets a set of bytes through if it stays in ASCII. -/
def checkSet (f : Flags) (extent : Extent) (set : CharSet) : Except SyntaxError CharSet :=
  if f.unicode then .ok set
  else if set.isAscii then .ok (.intersection set (.range 0 127))
  else fail .invalidUtf8 extent

/-- The letters that general categories begin with. -/
def categoryInitials : List Char := ['L', 'M', 'N', 'P', 'S', 'Z', 'C']

/-- The set of a short class, perhaps its complement. -/
def meaningOfShort (f : Flags) (extent : Extent) (kind : ShortClass) (negated : Bool) :
    Except SyntaxError CharSet :=
  checkSet f extent (negateIf negated (f.shortSet kind))

/-- The set of a property. Of the properties those are known that are the
    first letters of general categories. -/
def meaningOfProperty (f : Flags) (extent : Extent) (name : String) (negated : Bool) :
    Except SyntaxError CharSet :=
  if !f.unicode then fail .unicodeNotAllowed extent
  else
    match name.toList with
    | [c] =>
      if categoryInitials.contains c.toUpper then
        .ok (negateIf negated (f.fold (.category c.toUpper)))
      else fail .unknownProperty extent
    | _ => fail .unknownProperty extent

/-- A character listed in a set. In a set of bytes it has to be one. -/
def meaningOfListed (f : Flags) (extent : Extent) (c : Char) (isByte : Bool) :
    Except SyntaxError Nat :=
  if f.unicode || c.toNat < 128 || isByte then .ok c.toNat else fail .unicodeNotAllowed extent

/-- The set that a written set stands for. -/
def SetAst.meaning (f : Flags) : SetAst → Except SyntaxError CharSet
  | nothing => .ok .nothing
  | literal extent c isByte => do return .single (← meaningOfListed f extent c isByte)
  | range lowExtent highExtent low high lowIsByte highIsByte => do
    return .range (← meaningOfListed f lowExtent low lowIsByte)
      (← meaningOfListed f highExtent high highIsByte)
  | named set negated => .ok (negateIf negated set)
  | short extent kind negated => meaningOfShort f extent kind negated
  | property extent name negated => meaningOfProperty f extent name negated
  | union a b => do return .union (← a.meaning f) (← b.meaning f)
  | operation operator a b => do
    let a := f.fold (← a.meaning f)
    let b := f.fold (← b.meaning f)
    match operator with
    | .intersection => return .intersection a b
    | .difference => return .difference a b
    | .symmetricDifference => return .symmetricDifference a b
  | bracketed extent negated inner => do
    checkSet f extent (negateIf negated (f.fold (← inner.meaning f)))

/-- The pattern that a primitive stands for. -/
def Primitive.meaning (f : Flags) : Primitive → Except SyntaxError Pattern
  | literal extent c isByte =>
    if !f.unicode && isByte && 127 < c.toNat then fail .invalidUtf8 extent
    else .ok (.set (f.fold (.single c.toNat)))
  | dot extent => if f.unicode then .ok (.set f.dotSet) else fail .invalidUtf8 extent
  | mark _ written => .ok (.condition (f.condition written))
  | short extent kind negated => do return .set (← meaningOfShort f extent kind negated)
  | property extent name negated => do return .set (← meaningOfProperty f extent name negated)

/-- The pattern that a written pattern stands for, and the flags that hold
    behind it. -/
def Ast.meaningWith (f : Flags) : Ast → Except SyntaxError (Pattern × Flags)
  | empty => .ok (.empty, f)
  | primitive p => do return (← p.meaning f, f)
  | set extent negated inner => do
    return (.set (← checkSet f extent (negateIf negated (f.fold (← inner.meaning f)))), f)
  | flags settings => .ok (.empty, f.apply settings)
  | repetition least most greedy sub => do
    let (pattern, after) ← sub.meaningWith f
    return (.repetition least most (greedy != f.swapGreed) pattern, after)
  | group number settings sub => do
    let (pattern, _) ← sub.meaningWith (f.apply settings)
    return (number.elim pattern (.group · pattern), f)
  | concat a b => do
    let (a, f) ← a.meaningWith f
    let (b, f) ← b.meaningWith f
    return (.concat a b, f)
  | alternation a b => do
    let (a, f) ← a.meaningWith f
    let (b, f) ← b.meaningWith f
    return (.alternation a b, f)

/-- Why there is no pattern. -/
inductive PatternError where
  /-- It is wrongly written. -/
  | malformed (text : String)
  /-- It asks where words of Unicode begin or end. -/
  | unicodeWords
  deriving DecidableEq

/-- Reads a pattern. -/
def Pattern.read (text : List Char) : Except PatternError Pattern :=
  match do (← Ast.read text).meaningWith {} with
  | .error error => .error (.malformed (error.text text))
  | .ok (pattern, _) =>
    if pattern.asksForUnicodeWords then .error .unicodeWords else .ok pattern

end RenderCheck.Regex
