import RenderCheck.Error
import RenderCheck.FileTree.Operations
import RenderCheck.Trace.Event

/-! # Actions

    What a comparison does to the world: it changes files, it says things to
    the log, and a backend may keep a memory of its own. An action goes from
    one state of all this to the next and may end in an error; what was done
    before the error stays done. -/

namespace RenderCheck

/-- The state an action works on. -/
structure Machine (μ : Type) where
  /-- The files. -/
  files : FileTree
  /-- What the backend remembers. -/
  memory : μ
  /-- What was said so far. -/
  records : List Trace.Record := []
  /-- The span that is open. -/
  span : Option Trace.Span := none

/-- A step of a comparison. -/
abbrev Action (μ α : Type) := ExceptT CompareError (StateM (Machine μ)) α

namespace Action

variable {μ α : Type}

/-- Says something. -/
def emit (event : Trace.Event) : Action μ Unit :=
  modify fun machine => { machine with records := machine.records ++ [⟨event, machine.span⟩] }

/-- The files as they are now. -/
def files : Action μ FileTree :=
  return (← get).files

/-- Replaces the files. -/
def setFiles (files : FileTree) : Action μ Unit :=
  modify fun machine => { machine with files := files }

/-- The result of a computation that reads nothing but may fail. -/
def ofExcept (result : Except CompareError α) : Action μ α :=
  ExceptT.mk (pure result)

/-- The result of a computation on the files that may fail; `wrap` says what a
    failure means. -/
def ofFiles (wrap : IoError → CompareError) (compute : FileTree → Except IoError α) :
    Action μ α := do
  match compute (← files) with
  | .ok result => return result
  | .error error => throw (wrap error)

/-- Changes the files by an operation that may fail. -/
def changeFiles (wrap : IoError → CompareError) (change : FileTree → Except IoError FileTree) :
    Action μ Unit := do
  setFiles (← ofFiles wrap change)

end Action

end RenderCheck
