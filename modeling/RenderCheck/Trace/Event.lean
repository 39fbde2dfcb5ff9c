import RenderCheck.Binary64.Printer
import RenderCheck.Path.Basic

/-! # Log events

    What a run says about itself, apart from its report. An event has a level,
    the part of the program it comes from, a message and fields; events of a
    run lie inside a span that names the trees compared. Events are recorded
    whether anyone wants to see them or not. -/

namespace RenderCheck.Trace

/-- How important an event is, the most important first. -/
inductive Level where
  | error
  | warn
  | info
  | debug
  | trace
  deriving DecidableEq, Inhabited

/-- The number of a level, from 1 for the most important. -/
def Level.rank : Level → Nat
  | error => 1
  | warn => 2
  | info => 3
  | debug => 4
  | trace => 5

/-- The level as it stands in a log line. -/
def Level.text : Level → String
  | error => "ERROR"
  | warn => "WARN"
  | info => "INFO"
  | debug => "DEBUG"
  | trace => "TRACE"

/-- A part of the program that events come from. -/
inductive Origin where
  | commandLine
  | comparator
  | native
  | externalTools
  | textDiff
  deriving DecidableEq

/-- The name by which a filter knows a part of the program. -/
def Origin.target : Origin → String
  | commandLine => "refpng_compare::cli::main_impl"
  | comparator => "refpng_compare::comparator"
  | native => "refpng_compare::backends::native"
  | externalTools => "refpng_compare::backends::imagemagick"
  | textDiff => "refpng_compare::services::text_diff"

/-- A field of an event or a span: its name, and its value as text. -/
structure Field where
  name : String
  value : String
  deriving DecidableEq

namespace Field

/-- A field that holds a path. -/
def path (name : String) (p : Path) : Field := ⟨name, p.text⟩

/-- A field that holds a text as it is. -/
def plain (name value : String) : Field := ⟨name, value⟩

/-- A field that holds a word between quotation marks. -/
def word (name value : String) : Field := ⟨name, "\"" ++ value ++ "\""⟩

/-- A field that holds a count. -/
def count (name : String) (n : Nat) : Field := ⟨name, toString n⟩

/-- A field that holds a floating point number. -/
def number (name : String) (x : Binary64) : Field := ⟨name, String.ofList x.renderLogged⟩

/-- The field as it stands in a log line. -/
def text (f : Field) : String := f.name ++ "=" ++ f.value

end Field

/-- One thing said. -/
structure Event where
  level : Level
  origin : Origin
  message : String
  fields : List Field := []
  deriving DecidableEq

/-- A stretch of a run that events lie in. -/
structure Span where
  name : String
  level : Level
  origin : Origin
  fields : List Field
  deriving DecidableEq

/-- An event and the span it lies in. -/
structure Record where
  event : Event
  span : Option Span
  deriving DecidableEq

end RenderCheck.Trace
