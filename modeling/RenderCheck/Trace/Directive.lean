import RenderCheck.Binary64.Numeral
import RenderCheck.Regex.Meaning
import RenderCheck.Regex.Program
import RenderCheck.Trace.Event

/-! # Directives of log filters

    A directive lets events through up to a limit: events of a part of the
    program (`comparator=debug`), all events (`info`), or what happens inside
    of a span (`[compare]=trace`), perhaps only of one with certain fields
    (`[compare{reference=pages.*}]=debug`). The text of a field is given
    by a pattern. -/

namespace RenderCheck.Trace

/-! ## Limits -/

/-- How far down the levels events are let through. -/
inductive Limit where
  /-- Nothing. -/
  | off
  /-- Events of this level and of more important ones. -/
  | upTo (level : Level)
  deriving DecidableEq, Inhabited

namespace Limit

/-- The number of levels let through. -/
def rank : Limit → Nat
  | off => 0
  | upTo level => level.rank

/-- Lets a level through. -/
def admits (limit : Limit) (level : Level) : Bool :=
  level.rank ≤ limit.rank

/-- The wider one of two limits. -/
def max (a b : Limit) : Limit :=
  if a.rank < b.rank then b else a

/-- The limits in the order of their ranks, with the words for them. -/
def table : List (String × Limit) :=
  [("off", .off), ("error", .upTo .error), ("warn", .upTo .warn), ("info", .upTo .info),
   ("debug", .upTo .debug), ("trace", .upTo .trace)]

/-- Reads a limit: a rank in decimal digits after an optional plus sign, or a
    word in any case. -/
def parse? (text : List Char) : Option Limit :=
  let digits := if text.head? = some '+' then text.drop 1 else text
  if digits ≠ [] ∧ digits.all Char.isDigit then
    (table[Nat.ofDigitChars 10 digits 0]?).map Prod.snd
  else table.lookup (String.ofList (text.map Char.toLower))

end Limit

/-! ## Directives -/

/-- What the text of a field has to be. -/
inductive ValueFilter where
  /-- A number or a truth value, which no text is. -/
  | constant (text : String)
  /-- A text that a pattern matches up to its end. -/
  | pattern (text : String) (pattern : Regex.Pattern)
  deriving DecidableEq

namespace ValueFilter

/-- The words for truth values. -/
def truthWords : List String := ["true", "false"]

/-- Reads what the text of a field has to be. -/
def read (text : List Char) : Except Regex.PatternError ValueFilter :=
  if truthWords.contains (String.ofList text) || (Binary64.read? text).isSome then
    .ok (.constant (String.ofList text))
  else (Regex.Pattern.read text).map (.pattern (String.ofList text))

/-- The text is as it has to be. -/
def holds (value : ValueFilter) (text : String) : Bool :=
  match value with
  | constant _ => false
  | pattern _ wanted => wanted.accepts text.toList

end ValueFilter

/-- A field that a directive asks for, and what its text has to be if
    anything. -/
structure FieldFilter where
  name : String
  value : Option ValueFilter
  deriving DecidableEq

/-- The text is what the field has to hold. -/
def FieldFilter.holds (f : FieldFilter) (text : String) : Bool :=
  f.value.all (·.holds text)

/-- One rule of a filter. -/
structure Directive where
  /-- How much is let through. -/
  limit : Limit
  /-- The beginning of the names of the parts it is for; without it, all. -/
  target : Option String := none
  /-- The name of the span it is for. -/
  span : Option String := none
  /-- The fields that the span or the event must have. -/
  fields : List FieldFilter := []
  deriving DecidableEq

/-- Why a text is no filter. -/
inductive FilterError where
  /-- A directive is malformed. -/
  | directive
  /-- A limit is neither a rank nor a word for one. -/
  | limit
  /-- What stands for the text of a field is no pattern. -/
  | field (error : Regex.PatternError)
  deriving DecidableEq

/-- What a message says about a pattern, and the causes behind it. -/
def patternCauses : Regex.PatternError → String × List String
  | .malformed text => ("error building NFA", ["error parsing regex", text])
  | .unicodeWords =>
    ("unsupported regex feature for DFAs: cannot build DFAs for regexes with Unicode word "
      ++ "boundaries; switch to ASCII word boundaries, or heuristically enable Unicode word "
      ++ "boundaries or use a different regex engine", [])

/-- The text of the error. -/
def FilterError.message : FilterError → String
  | directive => "invalid filter directive"
  | limit => "error parsing level filter: expected one of \"off\", \"error\", \"warn\", "
      ++ "\"info\", \"debug\", \"trace\", or a number 0-5"
  | field error => "invalid field filter: " ++ (patternCauses error).1

/-- The causes behind the error. -/
def FilterError.causes : FilterError → List String
  | directive => []
  | limit => [message .limit]
  | field error => (patternCauses error).1 :: (patternCauses error).2

namespace Directive

/-- A directive may begin with it: a letter, a number, or a sign of names. -/
def isFirst (c : Char) : Bool :=
  ['-', ':', '_'].contains c || Text.isAlphanumeric c

/-- A part of a text by position. -/
def cut (text : List Char) (start length : Nat) : String :=
  String.ofList ((text.drop start).take length)

/-- Reads the limit after an equals sign; nothing stands for everything. -/
def readLimit : List Char → Except FilterError Limit
  | [] => .ok (.upTo .trace)
  | text =>
    match Limit.parse? text with
    | some limit => .ok limit
    | none => .error .limit

/-- Reads a directive that is nothing but a limit or a target. -/
def ofWord (text : List Char) : Directive :=
  match Limit.parse? text with
  | some limit => { limit := limit }
  | none => { limit := .upTo .trace, target := some (String.ofList text) }

/-- Reads a field: its name and, after an equals sign, what its text has to be,
    up to the next one. -/
def readField (text : List Char) : Except FilterError FieldFilter :=
  match text.dropWhile (· ≠ '=') with
  | [] => .ok ⟨String.ofList text, none⟩
  | _ :: value =>
    match ValueFilter.read (value.takeWhile (· ≠ '=')) with
    | .ok value => .ok ⟨String.ofList (text.takeWhile (· ≠ '=')), some value⟩
    | .error error => .error (.field error)

/-- Reads the rest of a directive after what it is for: an equals sign and a
    limit, or nothing. The position is where the rest begins. -/
def readEnd (text inner : List Char) (position : Nat) : Except FilterError Limit :=
  match inner.drop position with
  | [] => .ok (.upTo .trace)
  | '=' :: _ => readLimit (text.drop (position + 1))
  | _ => .error .directive

/-- Reads a directive for a span from behind its opening bracket. -/
def readSpan (text inner : List Char) (target : Option String) (start : Nat) :
    Except FilterError Directive := do
  let length := (inner.drop start).findIdx fun c => c = ']' || c = '\x7b'
  let stop := start + length
  match inner.drop stop with
  | ']' :: _ =>
    return ⟨← readEnd text inner (stop + 1), target, some (cut text start length), []⟩
  | '\x7b' :: rest =>
    let width := rest.findIdx (· = '\x7d')
    if width = 0 ∨ width = rest.length then throw .directive
    let field ← readField ((text.drop (stop + 1)).take width)
    if (rest.drop width).take 2 ≠ ['\x7d', ']'] then throw .directive
    let limit ← readEnd text inner (stop + 1 + width + 2)
    return ⟨limit, target, if length = 0 then none else some (cut text start length), [field]⟩
  | _ => throw .directive

/-- Reads a directive. Positions are those in the text without the blanks
    around it; what lies between them is cut from the text with its blanks. -/
def parse (text : List Char) : Except FilterError Directive := do
  let inner := Text.trim text
  match inner with
  | [] => throw .directive
  | '[' :: _ => readSpan text inner none 1
  | first :: _ =>
    if !isFirst first then throw .directive
    let stop := inner.findIdx fun c => c = '=' || c = '['
    match inner.drop stop with
    | [] => return ofWord text
    | '=' :: _ =>
      return { limit := ← readLimit (text.drop (stop + 1)), target := some (cut text 0 stop) }
    | _ => readSpan text inner (some (cut text 0 stop)) (stop + 1)

/-- The directive is for the parts with such a name. -/
def coversTarget (d : Directive) (origin : Origin) : Bool :=
  match d.target with
  | none => true
  | some target => target.toList.isPrefixOf origin.target.toList

/-- The directive is for what happens inside of a span. -/
def isDynamic (d : Directive) : Bool :=
  d.span.isSome || d.fields ≠ []

/-- The directive decides about events by themselves. -/
def isStatic (d : Directive) : Bool :=
  d.span.isNone && d.fields.all (·.value.isNone)

/-- The directives are for the same, so that the later one counts. -/
def sameScope (d e : Directive) : Bool :=
  d.target = e.target && d.span = e.span && d.fields = e.fields

/-- The length of the target; any target is more than none. -/
def weight (d : Directive) : Nat :=
  match d.target with
  | none => 0
  | some target => target.utf8ByteSize + 1

/-- The names of the fields that the directive asks for. -/
def fieldNames (d : Directive) : List String :=
  d.fields.map (·.name)

/-- One directive is at least as specific as another for the same part of the
    program: its target is longer, it asks for more fields, or for fields whose
    names come later. -/
def atLeastAsSpecific (d e : Directive) : Bool :=
  if d.weight ≠ e.weight then e.weight < d.weight
  else if d.fields.length ≠ e.fields.length then e.fields.length < d.fields.length
  else !decide (d.fieldNames < e.fieldNames)

end Directive

end RenderCheck.Trace
