import RenderCheck.Proofs.Run.Sequence

/-! # The phases of a run

    A run checks its configuration, says that it begins, walks, flushes what it
    reported and says what it counted. What it does before and after the walk
    is the same whatever the walk meets, so a run comes down to its walk
    (`run_runOver_of_valid`).

    * **Sinks that never fail**: writing to one adds the text, whatever it is.
    * **Single steps** of a run: actions, writing, flushing, spans.
    * **Before and after the walk**: `begun` and `concluded`. -/

namespace RenderCheck

variable {μ α : Type}

/-! ## Sinks that never fail -/

/-- The sink takes everything. -/
structure Sink.NeverFails (s : Sink) : Prop where
  /-- It takes any number of bytes. -/
  unlimited : s.capacity = none
  /-- Flushing it works. -/
  flushes : s.flushFails = false

/-- The sink with more bytes in it. -/
def Sink.add (s : Sink) (bytes : List UInt8) : Sink :=
  { s with written := s.written ++ bytes }

@[simp] theorem Sink.add_nil (s : Sink) : s.add [] = s := by
  simp [Sink.add]

@[simp] theorem Sink.add_add (s : Sink) (first second : List UInt8) :
    (s.add first).add second = s.add (first ++ second) := by
  simp [Sink.add]

theorem Sink.NeverFails.add {s : Sink} (h : s.NeverFails) (bytes : List UInt8) :
    (s.add bytes).NeverFails :=
  ⟨h.unlimited, h.flushes⟩

theorem Sink.NeverFails.write_eq {s : Sink} (h : s.NeverFails) (bytes : List UInt8) :
    s.write bytes = (.ok (), s.add bytes) := by
  simp [Sink.write, Sink.add, h.unlimited]

theorem Sink.NeverFails.flush_eq {s : Sink} (h : s.NeverFails) : s.flush = .ok () := by
  simp [Sink.flush, h.flushes]

/-! ## Single steps -/

/-- The state with another span. -/
def RunState.inSpan (state : RunState μ) (span : Option Trace.Span) : RunState μ :=
  { state with machine := { state.machine with span := span } }

namespace Run

/-- An action does to the machine what it does, and nothing to the rest. -/
theorem run_act {action : Action μ α} {state : RunState μ} {result : Except CompareError α}
    {machine : Machine μ} (h : action.run.run state.machine = (result, machine)) :
    (act action).run.run state = (result, { state with machine := machine }) := by
  show ((action.run.run state.machine).1, { state with machine := (action.run.run state.machine).2 })
    = _
  rw [h]

/-- Writing to a sink that never fails adds the text. -/
theorem run_write {state : RunState μ} (h : state.sink.NeverFails) (text : String) :
    (write text : Run μ Unit).run.run state
      = (.ok (), { state with sink := state.sink.add (Text.encode text.toList) }) := by
  show ((state.sink.write (Text.encode text.toList)).1.mapError CompareError.io,
    { state with sink := (state.sink.write (Text.encode text.toList)).2 }) = _
  rw [h.write_eq]
  rfl

theorem run_flush (state : RunState μ) :
    (flush : Run μ Unit).run.run state = (state.sink.flush.mapError .io, state) := rfl

theorem run_inSpan (span : Trace.Span) (body : Run μ α) (state : RunState μ) :
    (inSpan span body).run.run state =
      ((body.run.run (state.inSpan (some span))).1,
        (body.run.run (state.inSpan (some span))).2.inSpan state.machine.span) := rfl

end Run

/-! ## Before and after the walk -/

namespace Comparator

/-- The machine of a run when its walk begins. -/
def opened (c : Comparator μ) (machine : Machine μ) : Machine μ :=
  (c.emitStart.run.run { machine with span := some c.span }).2

/-- The state of a run when its walk begins. -/
def begun (c : Comparator μ) (state : RunState μ) : RunState μ :=
  { state with machine := c.opened state.machine, summary := {} }

/-- The machine of a run that has said what it counted; `outer` is the span
    around the run. -/
def closed (outer : Option Trace.Span) (summary : Summary) (machine : Machine μ) : Machine μ :=
  { ((emitFinish summary).run.run machine).2 with span := outer }

/-- What a run makes of the end of its walk. -/
def concluded (outer : Option Trace.Span) :
    Except CompareError Unit × RunState μ → Except CompareError Summary × RunState μ
  | (.error error, state) => (.error error, state.inSpan outer)
  | (.ok (), state) =>
    match state.sink.flush with
    | .error error => (.error (.io error), state.inSpan outer)
    | .ok () => (.ok state.summary, { state with machine := closed outer state.summary state.machine })

/-- Concluding a run changes no files. -/
@[simp] theorem files_concluded (outer : Option Trace.Span)
    (walked : Except CompareError Unit × RunState μ) :
    (concluded outer walked).2.machine.files = walked.2.machine.files := by
  obtain ⟨_ | _, after⟩ := walked
  · rfl
  · simp only [concluded]
    cases after.sink.flush <;> rfl

/-- A run that succeeds returns what it counted on its walk. -/
theorem concluded_eq_ok {outer : Option Trace.Span} {result : Except CompareError Unit}
    {after : RunState μ} {summary : Summary}
    (h : (concluded outer (result, after)).1 = .ok summary) :
    result = .ok () ∧ summary = after.summary := by
  cases result with
  | error error => cases h
  | ok _ =>
    simp only [concluded] at h
    cases hflush : after.sink.flush with
    | error error =>
      rw [hflush] at h
      cases h
    | ok _ =>
      rw [hflush] at h
      cases h
      exact ⟨rfl, rfl⟩

theorem run_validate (c : Comparator μ) (state : RunState μ) :
    (Run.act do Action.ofExcept (c.config.validateDirs (← Action.files)) : Run μ Unit).run.run state
      = (c.config.validateDirs state.machine.files, state) := rfl

/-- Nothing is done for directories that are refused. -/
theorem run_runOver_of_invalid (c : Comparator μ) {state : RunState μ} {error : CompareError}
    (h : c.config.validateDirs state.machine.files = .error error)
    (traverse : (WalkItem → Run μ Unit) → Run μ Unit) :
    (c.runOver traverse).run.run state = (.error error, state) := by
  have hcheck := c.run_validate state
  rw [h] at hcheck
  exact run_bind_of_error hcheck _

/-- A run that succeeds has directories that are let through. -/
theorem valid_of_run_ok {c : Comparator μ} {state : RunState μ}
    {traverse : (WalkItem → Run μ Unit) → Run μ Unit} {summary : Summary}
    (h : ((c.runOver traverse).run.run state).1 = .ok summary) :
    c.config.validateDirs state.machine.files = .ok () := by
  cases hcheck : c.config.validateDirs state.machine.files with
  | ok _ => rfl
  | error error =>
    rw [c.run_runOver_of_invalid hcheck] at h
    cases h

/-- With directories that are let through a run is its walk and what it makes
    of its end. -/
theorem run_runOver_of_valid (c : Comparator μ) {state : RunState μ}
    (h : c.config.validateDirs state.machine.files = .ok ())
    (traverse : (WalkItem → Run μ Unit) → Run μ Unit) :
    (c.runOver traverse).run.run state
      = concluded state.machine.span ((traverse c.report).run.run (c.begun state)) := by
  have hcheck := c.run_validate state
  rw [h] at hcheck
  have hstart : (Run.act c.emitStart : Run μ Unit).run.run (state.inSpan (some c.span))
      = (.ok (), { state with machine := c.opened state.machine }) := rfl
  have hreset : (modify fun state => { state with summary := {} } : Run μ Unit).run.run
      { state with machine := c.opened state.machine } = (.ok (), c.begun state) := rfl
  unfold runOver
  rw [run_bind_of_ok hcheck, Run.run_inSpan, run_bind_of_ok hstart, run_bind_of_ok hreset]
  -- an error of the walk, or of the flush after it, skips what the run says at its end
  rcases hwalk : (traverse c.report).run.run (c.begun state) with ⟨result, after⟩
  cases result with
  | error error =>
    rw [run_bind_of_error hwalk]
    rfl
  | ok _ =>
    have hend := Run.run_flush after
    rw [run_bind_of_ok hwalk]
    unfold concluded
    cases hflush : after.sink.flush with
    | error error =>
      rw [hflush] at hend
      rw [run_bind_of_error hend]
      simp only [hflush]
    | ok _ =>
      rw [hflush] at hend
      rw [run_bind_of_ok hend]
      simp only [hflush]
      rfl

end Comparator

end RenderCheck
