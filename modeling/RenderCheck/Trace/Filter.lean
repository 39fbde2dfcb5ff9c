import RenderCheck.Text.Quoted
import RenderCheck.Trace.Directive

/-! # Log filters

    A filter lets events through by their level and by where they come from.
    Of the directives that apply to an event the most specific one decides; a
    directive for a span can only let more through. -/

namespace RenderCheck.Trace

/-! ## Filters -/

/-- A filter: directives in the order in which they were given. Of those for
    the same the last one counts. -/
structure Filter where
  directives : List Directive
  deriving DecidableEq

namespace Filter

/-- The filter of some directives; if there are none, it is one that lets only
    errors through. -/
def ofDirectives : List Directive → Filter
  | [] => ⟨[{ limit := .upTo .error }]⟩
  | directives => ⟨directives⟩

/-- Cuts a text at commas. -/
def splitCommas : List Char → List (List Char)
  | [] => [[]]
  | ',' :: rest => [] :: splitCommas rest
  | c :: rest =>
    match splitCommas rest with
    | [] => [[c]]
    | part :: parts => (c :: part) :: parts

/-- Reads a filter: directives with commas between them. -/
def parse (text : String) : Except FilterError Filter := do
  return ofDirectives (← ((splitCommas text.toList).filter (· ≠ [])).mapM Directive.parse)

/-- The directives that decide about events by themselves. Those that are for
    the fields of spans as well come last. -/
def statics (f : Filter) : List Directive :=
  f.directives.filter (fun d => d.isStatic && !d.isDynamic)
    ++ f.directives.filter fun d => d.isStatic && d.isDynamic

/-- The directives without those that a later one replaces. -/
def latest : List Directive → List Directive
  | [] => []
  | d :: rest => if rest.any d.sameScope then latest rest else d :: latest rest

/-- The directives for what happens inside of spans. -/
def dynamics (f : Filter) : List Directive :=
  latest (f.directives.filter (·.isDynamic))

/-- The widest limit of some directives. -/
def widest (directives : List Directive) : Limit :=
  (directives.map (·.limit)).foldl Limit.max .off

/-- The widest limit of all directives, also of those that are replaced; one
    that asks for the text of a field could ask for anything. -/
def ceiling (f : Filter) : Limit :=
  if f.directives.any fun d => d.fields.any (·.value.isSome) then .upTo .trace
  else widest f.directives

/-- The widest limit of the directives for what happens inside of spans. -/
def dynamicCeiling (f : Filter) : Limit :=
  widest (f.directives.filter (·.isDynamic))

/-- Whether a level from a part of the program, with fields of these names, is
    let through whatever the span. -/
def admitsPlain (f : Filter) (origin : Origin) (level : Level) (fields : Option (List String)) :
    Bool :=
  let applies (d : Directive) : Bool :=
    d.coversTarget origin
      && (fields.all fun names => d.fields.all fun field => names.contains field.name)
  let decisive := (f.statics.filter applies).foldl (fun best d =>
    match best with
    | none => some d
    | some e => if d.atLeastAsSpecific e then some d else some e) none
  decisive.any (·.limit.admits level)

/-- How much a span lets through, if a directive is for that span. -/
def limitInside (f : Filter) (span : Span) : Option Limit :=
  let hasField (field : FieldFilter) : Bool := span.fields.any (·.name = field.name)
  let holds (field : FieldFilter) : Bool :=
    span.fields.any fun own => own.name = field.name && field.holds own.value
  let concerned := f.dynamics.filter fun d =>
    d.coversTarget span.origin && d.span.all (· = span.name) && d.fields.all hasField
  if concerned = [] then none else some (widest (concerned.filter (·.fields.all holds)))

/-- The span is seen at all. -/
def admitsSpan (f : Filter) (span : Span) : Bool :=
  f.ceiling.admits span.level
    && ((f.limitInside span).isSome || f.admitsPlain span.origin span.level none)

/-- The event is let through. -/
def admits (f : Filter) (record : Record) : Bool :=
  let event := record.event
  let inside := match record.span with
    | none => false
    | some span => f.admitsSpan span && f.dynamicCeiling.admits event.level
        && (f.limitInside span).any (·.admits event.level)
  f.ceiling.admits event.level
    && (inside || f.admitsPlain event.origin event.level
          (some ("message" :: event.fields.map (·.name))))

/-! ## Log lines -/

/-- A log line: its level and what stands behind it. -/
structure Line where
  level : Level
  text : String
  deriving DecidableEq

/-- How a character of a message is shown in a log line. Those that could
    steer a terminal are shown by their code points. -/
def messageChar (c : Char) : List Char :=
  if ['\x07', '\x08', '\x0c', '\x1b', '\x7f'].contains c then
    ['\\', 'x'] ++ (if c.toNat < 16 then ['0'] else []) ++ Text.hexDigits c.toNat
  else if 0x80 ≤ c.toNat && c.toNat ≤ 0x9F then
    ['\\', 'u', '\x7b'] ++ Text.hexDigits c.toNat ++ ['\x7d']
  else [c]

/-- A message as a log line shows it. -/
def messageText (message : String) : String :=
  String.ofList (message.toList.flatMap messageChar)

/-- The line of an event: the span it lies in, the message, the fields of the
    event and those of the span. -/
def line (event : Event) (span : Option Span) : Line :=
  let fieldsText (fields : List Field) : String :=
    String.join (fields.map fun field => " " ++ field.text)
  match span with
  | none => ⟨event.level, messageText event.message ++ fieldsText event.fields⟩
  | some span =>
    ⟨event.level, span.name ++ ": " ++ messageText event.message ++ fieldsText event.fields
      ++ fieldsText span.fields⟩

/-- The lines of the events that are let through, in the order in which they
    were said. -/
def lines (f : Filter) (records : List Record) : List Line :=
  (records.filter f.admits).map fun record => line record.event (record.span.filter f.admitsSpan)

end Filter

end RenderCheck.Trace
