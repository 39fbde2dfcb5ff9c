import RenderCheck.Comparator
import RenderCheck.Sink
import RenderCheck.Walk

/-! # Runs

    A run walks the reference tree, compares every pair it meets, counts the
    outcomes and writes a line for each that is reported. It ends at the first
    error: a directory that cannot be read, a comparison that fails, or a line
    that cannot be written. -/

namespace RenderCheck

/-- The state of a run. -/
structure RunState (μ : Type) where
  machine : Machine μ
  /-- Where the report goes. -/
  sink : Sink
  /-- What was counted so far. -/
  summary : Summary := {}

/-- A step of a run. -/
abbrev Run (μ α : Type) := ExceptT CompareError (StateM (RunState μ)) α

namespace Run

variable {μ α : Type}

/-- Does an action. -/
def act (action : Action μ α) : Run μ α :=
  ExceptT.mk fun state =>
    let (result, machine) := action.run state.machine
    (result, { state with machine := machine })

/-- Writes to the sink. -/
def write (text : String) : Run μ Unit :=
  ExceptT.mk fun state =>
    let (result, sink) := state.sink.write (Text.encode text.toList)
    (result.mapError .io, { state with sink := sink })

/-- Flushes the sink. -/
def flush : Run μ Unit :=
  ExceptT.mk fun state => (state.sink.flush.mapError .io, state)

/-- Does something inside a span, which closes again even after an error. -/
def inSpan (span : Trace.Span) (body : Run μ α) : Run μ α :=
  ExceptT.mk do
    let outer := (← get).machine.span
    modify fun state => { state with machine := { state.machine with span := some span } }
    let result ← body.run
    modify fun state => { state with machine := { state.machine with span := outer } }
    return result

end Run

/-- Lets a configuration through whose reference root is a directory and whose
    diff path is not a file. -/
def Config.validateDirs (c : Config) (files : FileTree) : Except CompareError Unit := do
  if !files.isDir c.referenceDir then
    throw (.invalidConfig (.noReferenceDir c.referenceDir))
  match c.diffDir with
  | none => return ()
  | some diffDir =>
    if files.isFile diffDir then throw (.invalidConfig (.diffDirIsFile diffDir))

namespace Comparator

variable {μ : Type}

/-- Compares what a walk met, counts the outcome and reports it. -/
def report (c : Comparator μ) (item : WalkItem) : Run μ Unit := do
  let pair ← Run.act (Action.ofExcept item)
  let outcome ← Run.act (c.comparePair pair)
  modify fun state => { state with summary := state.summary.record outcome }
  match outcome.reportLine? with
  | none => return ()
  | some line => Run.write (line ++ "\n")

/-- The span that the events of a run lie in. -/
def span (c : Comparator μ) : Trace.Span :=
  ⟨"compare", .info, .comparator,
    [.path "reference" c.config.referenceDir, .path "render" c.config.renderDir]⟩

/-- Says that a run begins. -/
def emitStart (c : Comparator μ) : Action μ Unit :=
  Action.emit ⟨.info, .comparator, "Comparing reference tree",
    [.word "backend" c.backend.name, .number "threshold" c.config.threshold]⟩

/-- Says what a run counted. -/
def emitFinish (summary : Summary) : Action μ Unit :=
  Action.emit ⟨.info, .comparator, "Comparison finished",
    [.count "files" summary.filesChecked, .count "images" summary.imagesCompared,
     .count "missing" summary.missing, .count "mismatched" summary.mismatched,
     .count "diffs" summary.diffsWritten]⟩

/-- A run over whatever `traverse` gives to its visitor. -/
def runOver (c : Comparator μ) (traverse : (WalkItem → Run μ Unit) → Run μ Unit) :
    Run μ Summary := do
  Run.act do Action.ofExcept (c.config.validateDirs (← Action.files))
  Run.inSpan c.span do
    Run.act c.emitStart
    modify fun state => { state with summary := {} }
    traverse c.report
    Run.flush
    let summary := (← get).summary
    Run.act (emitFinish summary)
    return summary

/-- A run over the reference tree. -/
def run (c : Comparator μ) : Run μ Summary :=
  c.runOver fun visit =>
    Walk.visit (Run.act Action.files) visit c.config.referenceDir c.config.renderDir

/-! ## Surveys -/

/-- What became of one item of a walk. -/
structure Finding (μ : Type) where
  item : WalkItem
  /-- The outcome of comparing it, or the error. -/
  outcome : Except CompareError Outcome
  /-- What was counted so far, this one included. -/
  summary : Summary
  /-- What the backend remembered so far. -/
  memory : μ

/-- Compares every pair of a walk and goes on after errors; only outcomes are
    counted. -/
def survey (c : Comparator μ) : StateM (RunState μ × List (Finding μ)) Unit :=
  Walk.visit (return (← get).1.machine.files) visit c.config.referenceDir c.config.renderDir
where
  /-- Compares what the walk met. -/
  visit (item : WalkItem) : StateM (RunState μ × List (Finding μ)) Unit :=
    modify fun (state, findings) =>
      let compare : Action μ Outcome := do c.comparePair (← Action.ofExcept item)
      let (outcome, machine) := compare.run.run state.machine
      let summary := match outcome with
        | .ok outcome => state.summary.record outcome
        | .error _ => state.summary
      ({ state with machine := machine, summary := summary },
        findings ++ [⟨item, outcome, summary, machine.memory⟩])

end Comparator

end RenderCheck
