import RenderCheck.Trace.Filter

/-! # Log settings

    How much is logged is given by a verbosity, or by filter directives, which
    then count alone. -/

namespace RenderCheck.Trace

/-- How log lines look. -/
inductive Format where
  /-- Lines in colour. -/
  | console
  /-- Plain lines. -/
  | compact
  deriving DecidableEq, Inhabited

/-- How much is logged, and how it looks. -/
structure Settings where
  /-- How many times more was asked for. -/
  verbosity : Nat := 0
  format : Format := .console
  /-- Filter directives in place of the verbosity. -/
  directives : Option String := none
  deriving DecidableEq, Inhabited

namespace Settings

/-- The word for the limit that a verbosity stands for. -/
def verbosityWord (s : Settings) : String :=
  match s.verbosity with
  | 0 => "warn"
  | 1 => "info"
  | 2 => "debug"
  | _ => "trace"

/-- Takes the directives from an environment variable, unless it is not set or
    blank. -/
def withVariable (s : Settings) (setting : Option String) : Settings :=
  match setting with
  | none => s
  | some text =>
    if Text.trim text.toList = [] then s else { s with directives := some text }

/-- The filter that the settings describe. -/
def filter (s : Settings) : Except FilterError Filter :=
  Filter.parse (s.directives.getD s.verbosityWord)

end Settings

end RenderCheck.Trace
