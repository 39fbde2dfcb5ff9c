import RenderCheck.Backend.Basic

/-! # A backend that follows a script

    Answers from a table of metrics and remembers every call, in order. It
    measures nothing and draws nothing, and serves to watch what a comparison
    asks of its backend. -/

namespace RenderCheck.Backend

/-- A call to the backend. -/
inductive Call where
  | measure (reference generated : Path)
  | renderDiff (reference generated output : Path)
  deriving DecidableEq

/-- What a scripted backend answers. -/
structure Script where
  /-- Metrics by the text of the reference path. -/
  metrics : List (String × Binary64)
  /-- References whose differences cannot be drawn. -/
  renderFailures : List String := []

/-- The bytes written in place of a picture. -/
def placeholder : List UInt8 := [0x64, 0x69, 0x66, 0x66]

/-- Puts a call down. -/
def noteCall (call : Call) : Action (List Call) Unit :=
  modify fun machine => { machine with memory := machine.memory ++ [call] }

/-- The backend that follows a script. -/
def scripted (script : Script) : Backend (List Call) where
  name := "scripted"
  measure reference generated := do
    noteCall (.measure reference generated)
    match script.metrics.lookup reference.text with
    | some value => return ⟨value⟩
    | none => throw (.metricParse ("no metric for " ++ reference.text))
  renderDiff reference generated output := do
    noteCall (.renderDiff reference generated output)
    if script.renderFailures.contains reference.text then
      throw (.invalidConfig (.custom "scripted render failure"))
    Action.changeFiles .io (·.writeFile output placeholder)

end RenderCheck.Backend
