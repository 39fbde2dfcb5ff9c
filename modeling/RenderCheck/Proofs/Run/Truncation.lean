import RenderCheck.Proofs.Run.Requests

/-! # Runs whose report cannot be written

    A sink that fails does nothing to a run but end it. With a sink that takes
    only so many bytes a run does what it does with one that never fails, up to
    the write that does not fit: what fits of the report is written, and nothing
    is asked of others after that.

    * **Capacities**: what a sink keeps of some bytes, and when they fit.
    * **Truncating**: how a computation with a limited sink relates to the same
      one with a sink that never fails (`Truncates`); this is kept by doing one
      thing after the other.
    * **Whole runs**: `run_truncates`. -/

namespace RenderCheck

variable {μ α β : Type}

/-! ## Capacities -/

namespace Sink

/-- A sink of that capacity has room for the bytes. -/
def Fits (capacity : Option Nat) (bytes : List UInt8) : Prop :=
  ∀ limit, capacity = some limit → bytes.length ≤ limit

/-- Those of the bytes that a sink of that capacity has room for. -/
def kept : Option Nat → List UInt8 → List UInt8
  | none, bytes => bytes
  | some limit, bytes => bytes.take limit

/-- The sink with a capacity, and with what fits of what was written. -/
def limited (s : Sink) (capacity : Option Nat) (flushFails : Bool) : Sink :=
  ⟨capacity, flushFails, kept capacity s.written⟩

section Capacity

variable {capacity : Option Nat} {bytes more : List UInt8}

@[simp] theorem fits_nil (capacity : Option Nat) : Fits capacity [] :=
  fun limit _ => Nat.zero_le limit

theorem fits_some_iff {limit : Nat} : Fits (some limit) bytes ↔ bytes.length ≤ limit := by
  simp [Fits]

@[simp] theorem kept_nil (capacity : Option Nat) : kept capacity [] = [] := by
  cases capacity <;> simp [kept]

theorem Fits.kept_eq (h : Fits capacity bytes) : kept capacity bytes = bytes := by
  cases capacity with
  | none => rfl
  | some limit => exact List.take_of_length_le (h limit rfl)

/-- What fits with more after it fits. -/
theorem Fits.of_append (h : Fits capacity (bytes ++ more)) : Fits capacity bytes := by
  intro limit hlimit
  have hall := h limit hlimit
  rw [List.length_append] at hall
  omega

/-- What comes after more than fits is not kept. -/
theorem kept_append_of_not_fits (h : ¬Fits capacity bytes) :
    kept capacity (bytes ++ more) = kept capacity bytes := by
  cases capacity with
  | none => exact absurd (fun limit hlimit => nomatch hlimit) h
  | some limit =>
    rw [fits_some_iff, Nat.not_le] at h
    exact List.take_append_of_le_length (Nat.le_of_lt h)

end Capacity

section Writing

variable {s : Sink} {capacity : Option Nat} {flushFails : Bool} (h : Fits capacity s.written)
  (bytes : List UInt8)

include h

/-- A limited sink takes what fits as any sink does. -/
theorem write_limited_of_fits (hfits : Fits capacity (s.written ++ bytes)) :
    (s.limited capacity flushFails).write bytes
      = (.ok (), (s.add bytes).limited capacity flushFails) := by
  unfold limited write add
  rw [h.kept_eq, hfits.kept_eq]
  cases capacity with
  | none => rfl
  | some limit =>
    have hroom : bytes.length ≤ limit - s.written.length := by
      have hall := fits_some_iff.1 hfits
      rw [List.length_append] at hall
      omega
    simp only [if_pos hroom, List.take_of_length_le hroom]

/-- Of what does not fit it takes a part, and fails. -/
theorem write_limited_of_not_fits (hfits : ¬Fits capacity (s.written ++ bytes)) :
    (s.limited capacity flushFails).write bytes
      = (.error full, (s.add bytes).limited capacity flushFails) := by
  unfold limited write add
  rw [h.kept_eq]
  cases capacity with
  | none => exact absurd (fun limit hlimit => nomatch hlimit) hfits
  | some limit =>
    have hwritten := fits_some_iff.1 h
    have hroom : ¬bytes.length ≤ limit - s.written.length := by
      rw [fits_some_iff, List.length_append] at hfits
      omega
    simp only [if_neg hroom, kept, List.take_append, List.take_of_length_le hwritten]

end Writing

end Sink

/-- The state with a limited sink. -/
def RunState.limited (state : RunState μ) (capacity : Option Nat) (flushFails : Bool) :
    RunState μ :=
  { state with sink := state.sink.limited capacity flushFails }

/-! ## Truncating -/

namespace Run

/-- What a watched computation does from a state with a sink that never fails,
    and what it does if there is less room in the sink. -/
structure TruncatesFrom (x : Run (μ × List Request) α) (state : RunState (μ × List Request)) :
    Prop where
  /-- It adds to what was written. -/
  adds : ∃ bytes, (x.run.run state).2.sink = state.sink.add bytes
  /-- It adds to what was asked for. -/
  asks : state.machine.memory.2 <+: (x.run.run state).2.machine.memory.2
  /-- With room for all that it writes it does the same. -/
  whole : ∀ capacity flushFails, Sink.Fits capacity (x.run.run state).2.sink.written →
    x.run.run (state.limited capacity flushFails)
      = ((x.run.run state).1, (x.run.run state).2.limited capacity flushFails)
  /-- With less room it fills the sink and ends, and has not asked for anything
      else. -/
  cut : ∀ capacity flushFails, Sink.Fits capacity state.sink.written →
    ¬Sink.Fits capacity (x.run.run state).2.sink.written →
    ∃ after, x.run.run (state.limited capacity flushFails) = (.error (.io Sink.full), after) ∧
      after.sink = (x.run.run state).2.sink.limited capacity flushFails ∧
      after.machine.memory.2 <+: (x.run.run state).2.machine.memory.2

/-- The computation is the same up to the write that does not fit. -/
def Truncates (x : Run (μ × List Request) α) : Prop :=
  ∀ state, state.sink.NeverFails → TruncatesFrom x state

/-- What writes nothing is the same with any sink, if it does not depend on the
    sink. -/
theorem truncates_of_silent {x : Run (μ × List Request) α}
    (hsink : ∀ state, (x.run.run state).2.sink = state.sink)
    (hasks : ∀ state, state.machine.memory.2 <+: (x.run.run state).2.machine.memory.2)
    (hwhole : ∀ state sink, x.run.run { state with sink := sink }
      = ((x.run.run state).1, { (x.run.run state).2 with sink := sink })) :
    Truncates x := by
  intro state _
  constructor
  · exact ⟨[], by rw [hsink, Sink.add_nil]⟩
  · exact hasks state
  · intro capacity flushFails _
    unfold RunState.limited
    rw [hwhole, hsink]
  · intro capacity flushFails hfits hnot
    rw [hsink] at hnot
    exact absurd hfits hnot

theorem truncates_pure (a : α) : Truncates (pure a : Run (μ × List Request) α) :=
  truncates_of_silent (fun _ => rfl) (fun _ => List.prefix_rfl) fun _ _ => rfl

/-- An action plays no part in what is written. -/
theorem truncates_act {action : Action (μ × List Request) α}
    (hasks : ∀ machine, machine.memory.2 <+: (action.run.run machine).2.memory.2) :
    Truncates (act action) :=
  truncates_of_silent (fun _ => rfl) (fun state => hasks state.machine) fun _ _ => rfl

/-- Writing is what may not fit. -/
theorem truncates_write (text : String) : Truncates (write text : Run (μ × List Request) Unit) := by
  intro state hsink
  have hrun := run_write hsink text
  have hlimited (capacity : Option Nat) (flushFails : Bool) :
      (write text : Run (μ × List Request) Unit).run.run (state.limited capacity flushFails)
        = (((state.sink.limited capacity flushFails).write (Text.encode text.toList)).1.mapError .io,
            { state with sink :=
              ((state.sink.limited capacity flushFails).write (Text.encode text.toList)).2 }) := rfl
  constructor
  · rw [hrun]
    exact ⟨_, rfl⟩
  · have hmachine : ((write text : Run (μ × List Request) Unit).run.run state).2.machine
        = state.machine := by rw [hrun]
    exact hmachine ▸ List.prefix_rfl
  · intro capacity flushFails hfits
    rw [hrun] at hfits ⊢
    rw [hlimited, Sink.write_limited_of_fits hfits.of_append _ hfits]
    rfl
  · intro capacity flushFails hbefore hnot
    rw [hrun] at hnot ⊢
    rw [hlimited, Sink.write_limited_of_not_fits hbefore _ hnot]
    exact ⟨_, rfl, rfl, List.prefix_rfl⟩

/-- What goes on after a computation is cut where the whole is. -/
theorem Truncates.bind {x : Run (μ × List Request) α} {f : α → Run (μ × List Request) β}
    (hx : Truncates x) (hf : ∀ a, Truncates (f a)) : Truncates (x >>= f) := by
  intro state hsink
  have hfirst := hx state hsink
  rcases hrun : x.run.run state with ⟨result, between⟩
  obtain ⟨⟨bytes, hadds⟩, hasks, hwhole, hcut⟩ := hfirst
  simp only [hrun] at hadds hasks hwhole hcut
  cases result with
  | error error =>
    -- nothing goes on after a failure
    have hall := run_bind_of_error hrun f
    refine ⟨?_, ?_, ?_, ?_⟩
    · rw [hall]
      exact ⟨bytes, hadds⟩
    · rw [hall]
      exact hasks
    · intro capacity flushFails hfits
      rw [hall] at hfits ⊢
      exact run_bind_of_error (hwhole capacity flushFails hfits) f
    · intro capacity flushFails hbefore hnot
      rw [hall] at hnot ⊢
      obtain ⟨after, hafter, hrest⟩ := hcut capacity flushFails hbefore hnot
      exact ⟨after, run_bind_of_error hafter f, hrest⟩
  | ok a =>
    have hbetween : between.sink.NeverFails := hadds ▸ hsink.add bytes
    obtain ⟨⟨more, hadds'⟩, hasks', hwhole', hcut'⟩ := hf a between hbetween
    have hall := run_bind_of_ok hrun f
    have hwritten : ((f a).run.run between).2.sink.written = between.sink.written ++ more := by
      rw [hadds']
      rfl
    refine ⟨?_, ?_, ?_, ?_⟩
    · rw [hall, hadds', hadds, Sink.add_add]
      exact ⟨_, rfl⟩
    · rw [hall]
      exact hasks.trans hasks'
    · intro capacity flushFails hfits
      rw [hall] at hfits ⊢
      have hpart : Sink.Fits capacity between.sink.written := (hwritten ▸ hfits).of_append
      rw [run_bind_of_ok (hwhole capacity flushFails hpart), hwhole' capacity flushFails hfits]
    · intro capacity flushFails hbefore hnot
      rw [hall] at hnot ⊢
      -- the sink is full in the second part, or was in the first
      by_cases hpart : Sink.Fits capacity between.sink.written
      · rw [run_bind_of_ok (hwhole capacity flushFails hpart)]
        exact hcut' capacity flushFails hpart hnot
      · obtain ⟨after, hafter, hsame, hfewer⟩ := hcut capacity flushFails hbefore hpart
        refine ⟨after, run_bind_of_error hafter f, ?_, hfewer.trans hasks'⟩
        rw [hsame]
        unfold Sink.limited
        rw [hwritten, Sink.kept_append_of_not_fits hpart]

/-- Truncating is kept by doing one thing after the other. -/
def truncating (μ : Type) : Simulation (Run (μ × List Request)) Id where
  Related x _ := Truncates x
  pure a := truncates_pure a
  bind hx hf := hx.bind hf

end Run

/-! ## Whole runs -/

namespace Comparator

open Run

/-- What was asked for stays noted while a pair is compared. -/
theorem prefix_comparePair (c : Comparator μ) (pair : FilePair)
    (machine : Machine (μ × List Request)) :
    machine.memory.2 <+: ((c.watched.comparePair pair).run.run machine).2.memory.2 := by
  obtain ⟨requests, hasks⟩ := c.exists_asks machine.unwatched (.ok pair)
  have hnotes := hasks.notes machine.memory.2
  have hmachine : machine.unwatched.watched machine.memory.2 = machine := rfl
  rw [hmachine] at hnotes
  rw [hnotes]
  exact List.prefix_append _ _

theorem truncates_report (c : Comparator μ) (item : WalkItem) : Truncates (c.watched.report item) := by
  unfold report
  refine (truncates_act fun machine => List.prefix_rfl).bind fun pair => ?_
  refine (truncates_act (c.prefix_comparePair pair)).bind fun outcome => ?_
  refine (truncates_of_silent (fun _ => rfl) (fun _ => List.prefix_rfl) fun _ _ => rfl).bind
    fun _ => ?_
  cases outcome.reportLine? with
  | none => exact truncates_pure ()
  | some line => exact truncates_write (line ++ "\n")

theorem truncates_visit (c : Comparator μ) (referenceRoot renderRoot : Path) :
    Truncates (Walk.visit (Run.act Action.files) c.watched.report referenceRoot renderRoot) := by
  -- what goes on beside the walk plays no part
  show (truncating μ).Related _
    (Walk.visit (pure ⟨[], []⟩ : Id FileTree) (fun _ => pure ()) referenceRoot renderRoot)
  refine (truncating μ).visit_all (fun hf => ?_) c.truncates_report referenceRoot renderRoot
  exact (truncates_act fun _ => List.prefix_rfl).bind hf

/-- Concluding a run writes nothing and asks for nothing. -/
theorem concluded_keeps (outer : Option Trace.Span)
    (walked : Except CompareError Unit × RunState μ) :
    (concluded outer walked).2.sink = walked.2.sink ∧
      (concluded outer walked).2.machine.memory = walked.2.machine.memory := by
  obtain ⟨_ | _, after⟩ := walked
  · exact ⟨rfl, rfl⟩
  · simp only [concluded]
    cases after.sink.flush <;> exact ⟨rfl, rfl⟩

/-- With a limited sink a run that has walked is concluded alike, unless
    flushing fails. -/
theorem concluded_limited (outer : Option Trace.Span) (result : Except CompareError Unit)
    {after : RunState μ} (hsink : after.sink.NeverFails) (capacity : Option Nat)
    (flushFails : Bool) :
    (concluded outer (result, after.limited capacity flushFails)).1
      = if flushFails then
          (concluded outer (result, after)).1.bind fun _ => .error (.io Sink.notFlushed)
        else (concluded outer (result, after)).1 := by
  cases result with
  | error error => cases flushFails <;> rfl
  | ok _ =>
    simp only [concluded, hsink.flush_eq]
    cases flushFails <;> rfl

/-- A watched run with a limited sink, beside one with a sink that never
    fails. -/
theorem run_watched_limited (c : Comparator μ) {state : RunState (μ × List Request)}
    (hsink : state.sink.NeverFails) {capacity : Option Nat}
    (hfits : Sink.Fits capacity state.sink.written) (flushFails : Bool) :
    let full := c.watched.run.run.run state
    let cut := c.watched.run.run.run (state.limited capacity flushFails)
    cut.2.sink = full.2.sink.limited capacity flushFails ∧
    (Sink.Fits capacity full.2.sink.written → cut.1 =
      if flushFails then full.1.bind fun _ => .error (.io Sink.notFlushed) else full.1) ∧
    (¬Sink.Fits capacity full.2.sink.written →
      cut.1 = .error (.io Sink.full) ∧ cut.2.machine.memory.2 <+: full.2.machine.memory.2) := by
  intro full cut
  cases hcheck : c.watched.config.validateDirs state.machine.files with
  | error error =>
    -- nothing is written at all
    have hlimited : c.watched.config.validateDirs
        (state.limited capacity flushFails).machine.files = .error error := hcheck
    have hfull : full = (.error error, state) := c.watched.run_runOver_of_invalid hcheck _
    have hcut : cut = (.error error, state.limited capacity flushFails) :=
      c.watched.run_runOver_of_invalid hlimited _
    rw [hfull, hcut]
    refine ⟨rfl, ?_, ?_⟩
    · intro _
      cases flushFails <;> rfl
    · intro hnot
      exact absurd hfits hnot
  | ok _ =>
    have hlimited : c.watched.config.validateDirs
        (state.limited capacity flushFails).machine.files = .ok () := hcheck
    let walk : Run (μ × List Request) Unit := Walk.visit (Run.act Action.files) c.watched.report
      c.config.referenceDir c.config.renderDir
    have hfull : full = concluded state.machine.span (walk.run.run (c.watched.begun state)) :=
      c.watched.run_runOver_of_valid hcheck _
    have hcut : cut = concluded state.machine.span
        (walk.run.run ((c.watched.begun state).limited capacity flushFails)) :=
      c.watched.run_runOver_of_valid hlimited _
    have hwalk : TruncatesFrom walk (c.watched.begun state) := c.truncates_visit _ _ _ hsink
    obtain ⟨⟨bytes, hadds⟩, -, hwhole, hshort⟩ := hwalk
    obtain ⟨hwritten, hasked⟩ := concluded_keeps state.machine.span
      (walk.run.run (c.watched.begun state))
    rw [hcut, hfull, hwritten, hasked]
    by_cases hall : Sink.Fits capacity (walk.run.run (c.watched.begun state)).2.sink.written
    · have hnever : (walk.run.run (c.watched.begun state)).2.sink.NeverFails :=
        hadds ▸ hsink.add bytes
      rw [hwhole capacity flushFails hall]
      refine ⟨(concluded_keeps _ _).1, ?_, fun hnot => absurd hall hnot⟩
      intro _
      exact concluded_limited _ _ hnever capacity flushFails
    · obtain ⟨after, hafter, hsame, hfewer⟩ := hshort capacity flushFails hfits hall
      rw [hafter]
      exact ⟨hsame, fun h => absurd h hall, fun _ => ⟨rfl, hfewer⟩⟩

/-- A run with a limited sink, beside one with a sink that never fails. -/
theorem run_limited (c : Comparator μ) (machine : Machine μ) (capacity : Option Nat)
    (flushFails : Bool) :
    let full := c.run.run.run { machine := machine, sink := {} }
    let limited : RunState μ :=
      { machine := machine, sink := { capacity := capacity, flushFails := flushFails } }
    let cut := c.run.run.run limited
    cut.2.sink.written = Sink.kept capacity full.2.sink.written ∧
    (Sink.Fits capacity full.2.sink.written → cut.1 =
      if flushFails then full.1.bind fun _ => .error (.io Sink.notFlushed) else full.1) ∧
    (¬Sink.Fits capacity full.2.sink.written → cut.1 = .error (.io Sink.full) ∧
      ∃ requests requests',
        NotesFrom c.run c.watched.run { machine := machine, sink := {} } requests ∧
        NotesFrom c.run c.watched.run limited requests' ∧ requests' <+: requests) := by
  intro full limited cut
  let state : RunState μ := { machine := machine, sink := {} }
  have hsink : (state.watched []).sink.NeverFails := ⟨rfl, rfl⟩
  obtain ⟨requests, hrequests⟩ := c.exists_notesFrom_run state
  obtain ⟨requests', hrequests'⟩ := c.exists_notesFrom_run limited
  -- the watched runs do what these runs do
  have hwatched := c.run_watched_limited hsink (Sink.fits_nil capacity) flushFails
  have hstate : (state.watched []).limited capacity flushFails = limited.watched [] := by
    unfold RunState.limited Sink.limited
    simp only [RunState.watched, Sink.kept_nil, limited, state]
  rw [hstate, hrequests [], hrequests' []] at hwatched
  obtain ⟨hwritten, hfits, hnot⟩ := hwatched
  refine ⟨congrArg Sink.written hwritten, hfits, ?_⟩
  intro hless
  obtain ⟨hresult, hprefix⟩ := hnot hless
  exact ⟨hresult, requests, requests', hrequests, hrequests', hprefix⟩

/-- With a sink that takes only so many bytes, what is written are as many of
    those that would be. If that is less, the run ends with the error of the
    sink and has asked for nothing that it would not ask for; otherwise it
    returns the same. A sink that cannot be flushed takes everything, and a run
    that would succeed fails. -/
theorem run_truncates (c : Comparator μ) (machine : Machine μ) :
    let state (sink : Sink) : RunState μ := { machine := machine, sink := sink }
    let full := c.run.run.run (state {})
    (∀ limit, let cut := c.run.run.run (state { capacity := some limit })
      cut.2.sink.written = full.2.sink.written.take limit ∧
      (limit < full.2.sink.written.length → cut.1 = .error (.io Sink.full) ∧
        ∃ requests requests', NotesFrom c.run c.watched.run (state {}) requests ∧
          NotesFrom c.run c.watched.run (state { capacity := some limit }) requests' ∧
          requests' <+: requests) ∧
      (full.2.sink.written.length ≤ limit → cut.1 = full.1)) ∧
    let unflushed := c.run.run.run (state { flushFails := true })
    unflushed.2.sink.written = full.2.sink.written ∧
    unflushed.1 = match full.1 with
      | .ok _ => .error (.io Sink.notFlushed)
      | .error error => .error error := by
  intro state full
  constructor
  · intro limit cut
    obtain ⟨hwritten, hfits, hnot⟩ := c.run_limited machine (some limit) false
    refine ⟨hwritten, ?_, ?_⟩
    · intro hless
      -- what does not fit is lost, so the text was longer than there was room
      exact hnot fun h => Nat.not_lt.2 (Sink.fits_some_iff.1 h) hless
    · intro hroom
      exact hfits (Sink.fits_some_iff.2 hroom)
  · intro unflushed
    obtain ⟨hwritten, hfits, -⟩ := c.run_limited machine none true
    refine ⟨hwritten, ?_⟩
    -- flushing comes last, so an earlier error is told first
    have hresult : unflushed.1 = full.1.bind fun _ => .error (.io Sink.notFlushed) :=
      hfits fun limit hlimit => nomatch hlimit
    rw [hresult]
    cases full.1 <;> rfl

end Comparator

end RenderCheck
