import RenderCheck.CommandLine.Arguments
import RenderCheck.Run

/-! # Running the command line

    A command line is read and checked, a run is done, and what is left of it
    is an exit code, a report, log lines and perhaps the failure that ended
    it. Files that are missing or differ are no failure. -/

namespace RenderCheck.CommandLine

/-! ## Failures -/

/-- A failure: what could not be done, and the causes, the nearest first. -/
structure Failure where
  message : String
  causes : List String
  deriving DecidableEq

namespace Failure

/-- Something failed because of an error. -/
def ofError (message : String) (error : CompareError) : Failure :=
  ⟨message, error.message :: error.causes⟩

/-- Spaces to the left of a text up to a width. -/
def padLeft (width : Nat) (text : String) : String :=
  String.ofList (List.replicate (width - text.length) ' ') ++ text

/-- A text with something before its first line and something before each of
    the others. -/
def indent (first others text : String) : String :=
  first ++ String.ofList (text.toList.flatMap fun c =>
    if c = '\n' then '\n' :: others.toList else [c])

/-- The causes, each on lines of its own; two and more are numbered. -/
def causeTexts : List String → List String
  | [cause] => [indent "    " "    " cause]
  | causes => causes.mapIdx fun n cause =>
    indent (padLeft 5 (toString n) ++ ": ") "       " cause

/-- The failure as it is told. -/
def text (f : Failure) : String :=
  "Error: " ++ f.message
    ++ if f.causes = [] then "" else "\n\nCaused by:\n" ++ "\n".intercalate (causeTexts f.causes)

end Failure

/-! ## Doing a run -/

/-- A step of a command. -/
abbrev Step := ExceptT Failure (StateM (RunState Unit))

namespace Step

/-- Does a step of a run; `message` says what could not be done if it fails. -/
def ofRun (message : String) (run : Run Unit α) : Step α :=
  ExceptT.mk do return (← run.run).mapError (.ofError message)

/-- The result of a computation that may fail. -/
def ofExcept (result : Except Failure α) : Step α :=
  ExceptT.mk (pure result)

/-- Says something. -/
def say (level : Trace.Level) (message : String) (fields : List Trace.Field := []) : Step Unit :=
  modify fun state =>
    let record : Trace.Record := ⟨⟨level, .commandLine, message, fields⟩, state.machine.span⟩
    { state with machine := { state.machine with records := state.machine.records ++ [record] } }

end Step

/-- What is wrong with the directories given, if anything. -/
def Arguments.directoryFault? (a : Arguments) (files : FileTree) : Option String :=
  if !files.pathExists a.refDir then
    some ("Reference directory does not exist: " ++ a.refDir.text)
  else if !files.isDir a.refDir then
    some ("Reference path is not a directory: " ++ a.refDir.text)
  else
    match a.diffDir with
    | none => none
    | some diffDir =>
      if files.isFile diffDir then
        some ("Diff output path exists and is a file, not a directory: " ++ diffDir.text)
      else none

/-- Lets arguments through whose directories can be used. -/
def Arguments.checkDirectories (a : Arguments) (files : FileTree) : Except Failure Unit :=
  match a.directoryFault? files with
  | none => .ok ()
  | some fault => .error ⟨"Invalid CLI arguments", [fault]⟩

/-- The configuration that the arguments describe. -/
def Arguments.config (a : Arguments) : Except Failure Config :=
  match Config.build a.settings with
  | .ok config => .ok config
  | .error error =>
    .error ⟨"Failed to build configuration",
      "Invalid configuration" :: error.message :: error.causes⟩

/-- The comparator of a configuration. -/
def comparatorOf (toolbox : Tool.Toolbox) (config : Config) : Except Failure (Comparator Unit) :=
  (Comparator.ofConfig config toolbox).mapError (.ofError "Failed to create comparator")

/-- Stands in the last log line for the seconds that a run took. -/
def elapsedMark : String := "T"

/-- What is said at the end of a run. -/
def closing (summary : Summary) : String :=
  "Checked " ++ toString summary.filesChecked ++ " file(s) in " ++ elapsedMark ++ "s: "
    ++ if summary.hasFailures then
        toString summary.missing ++ " missing, " ++ toString summary.mismatched
          ++ " above threshold, " ++ toString summary.textDifferences ++ " text difference(s)"
      else "all match the reference"

/-- Does what the arguments ask for. -/
def perform (toolbox : Tool.Toolbox) (a : Arguments) : Step Unit := do
  Step.say .debug "Tracing initialized" [.count "verbosity" a.verbosity]
  Step.ofExcept (a.checkDirectories (← get).machine.files)
  let config ← Step.ofExcept a.config
  Step.say .info ("Reference: " ++ config.referenceDir.text)
  Step.say .info ("Render: " ++ config.renderDir.text)
  if let some diffDir := config.diffDir then
    Step.say .info ("Diff images: " ++ diffDir.text)
  let comparator ← Step.ofExcept (comparatorOf toolbox config)
  let summary ← Step.ofRun "Comparison aborted" comparator.run
  Step.say .info (closing summary)

/-! ## Commands -/

/-- What is left of a command. -/
structure Ending where
  /-- The exit code. -/
  code : Nat
  /-- The bytes on the standard output. -/
  output : List UInt8
  log : List Trace.Filter.Line := []
  /-- What is told about a failure. -/
  complaint : String := ""
  files : FileTree
  deriving DecidableEq

/-- The bytes of a line. -/
def lineBytes (text : String) : List UInt8 :=
  Text.encode (text ++ "\n").toList

/-- The ending of a command that has nothing to act on. -/
def Halt.ending (halt : Halt) (files : FileTree) : Ending :=
  match halt with
  | .usage _ => { code := 2, output := [], complaint := halt.message, files := files }
  | _ => { code := 0, output := lineBytes halt.message, files := files }

/-- The failure of a log filter that cannot be read. -/
def filterFailure (error : Trace.FilterError) : Failure :=
  ⟨"Failed to initialize tracing",
    "Failed to initialize tracing subscriber" :: error.message :: error.causes⟩

/-- Does a run with the log lines that a filter lets through. -/
def performLogged (toolbox : Tool.Toolbox) (a : Arguments) (filter : Trace.Filter)
    (files : FileTree) : Ending :=
  let (result, state) := (perform toolbox a).run.run
    { machine := { files := files, memory := () }, sink := {} }
  let ending : Ending :=
    { code := 0, output := state.sink.written, log := filter.lines state.machine.records,
      files := state.machine.files }
  match result with
  | .ok () => ending
  | .error failure => { ending with code := 1, complaint := failure.text }

/-- Runs a command line, given without the name of the program, with the log
    directives from the environment. -/
def run (toolbox : Tool.Toolbox) (setting : Option String) (arguments : List String)
    (files : FileTree) : Ending :=
  match Arguments.parse arguments with
  | .error halt => halt.ending files
  | .ok a =>
    match (a.logSettings setting).filter with
    | .error error =>
      { code := 1, output := [], complaint := (filterFailure error).text, files := files }
    | .ok filter => performLogged toolbox a filter files

end RenderCheck.CommandLine
