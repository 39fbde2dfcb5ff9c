import RenderCheck.Binary64.Numeral
import RenderCheck.CommandLine.Item
import RenderCheck.Config
import RenderCheck.Trace.Settings

/-! # Arguments

    The items of a command line are taken in one by one. Each option counts
    once, but for the verbosity, which grows with each time it is given. An
    item that may still go on with the next argument is looked at after that
    argument has been read; so an unknown argument is told before what is
    wrong with the item before it. -/

namespace RenderCheck.CommandLine

/-- What a command line says. -/
structure Arguments where
  refDir : Path
  renderDir : Path
  diffDir : Option Path := none
  threshold : Binary64 := defaultThreshold
  pattern : String := defaultImagePattern
  backend : BackendKind := .imageMagick
  programs : Programs := {}
  textDiff : Bool := false
  verbosity : Nat := 0
  logFormat : Trace.Format := .console
  deriving DecidableEq

/-- What was taken in so far. -/
structure Draft where
  refDir : Option Path := none
  renderDir : Option Path := none
  diffDir : Option Path := none
  threshold : Option Binary64 := none
  pattern : Option String := none
  backend : Option BackendKind := none
  compareBin : Option String := none
  montageBin : Option String := none
  diffBin : Option String := none
  logFormat : Option Trace.Format := none
  textDiff : Bool := false
  verbosity : Nat := 0
  deriving DecidableEq

/-! ## Values -/

/-- The words for backends. -/
def backendWords : List (String × BackendKind) :=
  [("imagemagick", .imageMagick), ("native", .native)]

/-- The words for log formats. -/
def formatWords : List (String × Trace.Format) :=
  [("console", .console), ("compact", .compact)]

/-- A path, which must not be empty. -/
def readPath (usage value : String) : Except UsageError Path :=
  if value = "" then .error (.missingValue usage) else .ok ⟨value⟩

/-- One of some words, of which none is empty. -/
def readWord (words : List (String × α)) (option : ValueOption) (value : String) :
    Except UsageError α :=
  match words.lookup value with
  | some meaning => .ok meaning
  | none =>
    .error (if value = "" then .missingValue option.usage else .invalidChoice value option)

/-- A number. -/
def readNumber (option : ValueOption) (value : String) : Except UsageError Binary64 :=
  match Binary64.read? value.toList with
  | some number => .ok number
  | none => .error (.invalidNumber value option)

namespace Draft

/-! ## Taking in -/

/-- The option was given. -/
def has (d : Draft) : ValueOption → Bool
  | .diffDir => d.diffDir.isSome
  | .threshold => d.threshold.isSome
  | .pattern => d.pattern.isSome
  | .backend => d.backend.isSome
  | .compareBin => d.compareBin.isSome
  | .montageBin => d.montageBin.isSome
  | .diffBin => d.diffBin.isSome
  | .logFormat => d.logFormat.isSome

/-- Sets an option to a value. -/
def put (d : Draft) (option : ValueOption) (value : String) : Except UsageError Draft := do
  match option with
  | .diffDir => return { d with diffDir := some (← readPath option.usage value) }
  | .threshold => return { d with threshold := some (← readNumber option value) }
  | .pattern => return { d with pattern := some value }
  | .backend => return { d with backend := some (← readWord backendWords option value) }
  | .compareBin => return { d with compareBin := some value }
  | .montageBin => return { d with montageBin := some value }
  | .diffBin => return { d with diffBin := some value }
  | .logFormat => return { d with logFormat := some (← readWord formatWords option value) }

/-- Takes in an option with its value. -/
def give (d : Draft) (option : ValueOption) (value : Option String) : Except UsageError Draft :=
  match value with
  | none => .error (.missingValue option.usage)
  | some value => if d.has option then .error (.repeated option.usage) else d.put option value

/-- The largest verbosity. -/
def verbosityLimit : Nat := 255

/-- Takes in an option that stands for itself. -/
def turnOn (d : Draft) : Switch → Except Halt Draft
  | .textDiff =>
    if d.textDiff then .error (.usage (.repeated Switch.textDiff.usage))
    else .ok { d with textDiff := true }
  | .verbose => .ok { d with verbosity := min (d.verbosity + 1) verbosityLimit }
  | .help => .error .help
  | .version => .error .version

/-- Takes in a directory. -/
def putDirectory (d : Draft) (place : Place) (text : String) : Except UsageError Draft := do
  let path ← readPath place.usage text
  match place with
  | .reference => return { d with refDir := some path }
  | .render => return { d with renderDir := some path }

/-- Takes in an item. -/
def take (d : Draft) : Item → Except Halt Draft
  | .switch switch => d.turnOn switch
  | .attached option value => (d.give option (some value)).mapError .usage
  | .detached option value => (d.give option value).mapError .usage
  | .directory place text => (d.putDirectory place text).mapError .usage
  | .refused error => .error (.usage error)

/-- Takes in items one after the other. -/
def takeAll : Draft → List Item → Except Halt Draft
  | d, [] => .ok d
  | d, item :: items =>
    match item.waits, items with
    | true, .refused error :: _ => .error (.usage error)
    | _, items =>
      match d.take item with
      | .error halt => .error halt
      | .ok d => takeAll d items

/-- What is said in all, with what was left open filled in. Both directories
    must have been given. -/
def finish (d : Draft) : Except Halt Arguments :=
  match d.refDir, d.renderDir with
  | some refDir, some renderDir =>
    let blank : Arguments := { refDir := refDir, renderDir := renderDir }
    .ok { blank with
      diffDir := d.diffDir
      threshold := d.threshold.getD blank.threshold
      pattern := d.pattern.getD blank.pattern
      backend := d.backend.getD blank.backend
      programs :=
        { compare := d.compareBin.getD blank.programs.compare
          montage := d.montageBin.getD blank.programs.montage
          diff := d.diffBin.getD blank.programs.diff }
      textDiff := d.textDiff
      verbosity := d.verbosity
      logFormat := d.logFormat.getD blank.logFormat }
  | _, _ => .error (.usage .missingArguments)

end Draft

namespace Arguments

/-- Reads a command line, given without the name of the program. -/
def parse (arguments : List String) : Except Halt Arguments := do
  (← Draft.takeAll {} (Item.ofArguments arguments)).finish

/-- What is told to the configuration. -/
def settings (a : Arguments) : List Setting :=
  [.referenceDir a.refDir, .renderDir a.renderDir, .diffDir a.diffDir, .threshold a.threshold,
   .imagePattern a.pattern, .backend a.backend, .compareProgram a.programs.compare,
   .montageProgram a.programs.montage, .diffProgram a.programs.diff, .textDiff a.textDiff]

/-- What is told to the log, with the directives from the environment. -/
def logSettings (a : Arguments) (setting : Option String) : Trace.Settings :=
  Trace.Settings.withVariable { verbosity := a.verbosity, format := a.logFormat } setting

end Arguments

end RenderCheck.CommandLine
