import RenderCheck.Proofs.Run.Phases

/-! # Chains of comparisons

    A run compares one pair after the other, and each comparison starts in the
    machine that the one before it left. What is reported is what the outcomes
    have to say, a line each, and what is counted are the outcomes.

    * **Reports**: the text that some outcomes add up to.
    * **Chains**: steps that succeed one after the other.
    * **Stops**: items that end a run, because the walk failed there or the
      comparison does.
    * Visiting the items of a chain (`run_forM_report`), and visiting an item
      that stops (`run_report_of_stops`). -/

namespace RenderCheck

variable {μ : Type}

/-! ## The report of some outcomes -/

/-- What is reported for an outcome: its line, if it has one. -/
def Outcome.report (outcome : Outcome) : String :=
  match outcome.reportLine? with
  | none => ""
  | some line => line ++ "\n"

/-- The lines of those outcomes that have one, in order, each ended. -/
def reportText (outcomes : List Outcome) : String :=
  String.join ((outcomes.filterMap Outcome.reportLine?).map (· ++ "\n"))

@[simp] theorem reportText_nil : reportText [] = "" := rfl

@[simp] theorem reportText_cons (outcome : Outcome) (outcomes : List Outcome) :
    reportText (outcome :: outcomes) = outcome.report ++ reportText outcomes := by
  unfold reportText Outcome.report
  rw [List.filterMap_cons]
  cases outcome.reportLine? with
  | none => simp
  | some line => simp [String.append_assoc]

@[simp] theorem Text.encode_nil : Text.encode [] = [] := rfl

/-- The bytes of two texts one after the other. -/
@[simp] theorem Text.encode_append (first second : List Char) :
    Text.encode (first ++ second) = Text.encode first ++ Text.encode second := by
  simp [Text.encode]

/-! ## Chains and stops -/

/-- One comparison of a run. -/
structure Step (μ : Type) where
  /-- What was compared. -/
  pair : FilePair
  /-- What was found. -/
  outcome : Outcome
  /-- The machine the comparison started in. -/
  before : Machine μ
  /-- The machine it left. -/
  after : Machine μ

/-- The item of the walk that led to the step. -/
def Step.item (step : Step μ) : WalkItem :=
  .ok step.pair

namespace Comparator

/-- Comparisons that succeed one after the other, from a first machine to a
    last one. -/
inductive Chain (c : Comparator μ) : Machine μ → List (Step μ) → Machine μ → Prop where
  | nil (machine : Machine μ) : Chain c machine [] machine
  | cons (step : Step μ) {steps : List (Step μ)} {last : Machine μ} :
      (c.comparePair step.pair).run.run step.before = (.ok step.outcome, step.after) →
      Chain c step.after steps last → Chain c step.before (step :: steps) last

theorem Chain.append {c : Comparator μ} {first between last : Machine μ}
    {steps more : List (Step μ)} (h : c.Chain first steps between)
    (hmore : c.Chain between more last) : c.Chain first (steps ++ more) last := by
  induction h with
  | nil => exact hmore
  | cons step hstep _ ih => exact .cons step hstep (ih hmore)

/-- An item that ends a run, with the error and the machine it leaves. -/
inductive Stops (c : Comparator μ) (machine : Machine μ) :
    WalkItem → CompareError → Machine μ → Prop where
  /-- The walk failed; nothing is compared. -/
  | walk (error : CompareError) : Stops c machine (.error error) error machine
  /-- The comparison fails. -/
  | comparison {pair : FilePair} {error : CompareError} {left : Machine μ} :
      (c.comparePair pair).run.run machine = (.error error, left) →
      Stops c machine (.ok pair) error left

/-- The state of a run after some more steps. -/
def advance (state : RunState μ) (steps : List (Step μ)) (last : Machine μ) : RunState μ where
  machine := last
  sink := state.sink.add (Text.encode (reportText (steps.map Step.outcome)).toList)
  summary := (steps.map Step.outcome).foldl Summary.record state.summary

/-- A comparison that succeeds is counted, and its line is written if it has
    one. -/
theorem run_report_compared (c : Comparator μ) {state : RunState μ} {pair : FilePair}
    {outcome : Outcome} {after : Machine μ}
    (h : (c.comparePair pair).run.run state.machine = (.ok outcome, after)) :
    (c.report (.ok pair)).run.run state =
      match outcome.reportLine? with
      | none => (.ok (), { state with machine := after, summary := state.summary.record outcome })
      | some line => (Run.write (line ++ "\n")).run.run
          { state with machine := after, summary := state.summary.record outcome } := by
  have hitem : (Run.act (Action.ofExcept (.ok pair)) : Run μ FilePair).run.run state
      = (.ok pair, state) := rfl
  unfold report
  rw [run_bind_of_ok hitem, run_bind_of_ok (Run.run_act h)]
  cases outcome.reportLine? <;> rfl

/-- A comparison that succeeds is counted and reported. -/
theorem run_report_of_ok (c : Comparator μ) {state : RunState μ} (hsink : state.sink.NeverFails)
    {pair : FilePair} {outcome : Outcome} {after : Machine μ}
    (h : (c.comparePair pair).run.run state.machine = (.ok outcome, after)) :
    (c.report (.ok pair)).run.run state
      = (.ok (), { machine := after
                   sink := state.sink.add (Text.encode outcome.report.toList)
                   summary := state.summary.record outcome }) := by
  rw [c.run_report_compared h]
  unfold Outcome.report
  cases outcome.reportLine? with
  | none => simp
  | some line =>
    exact @Run.run_write μ { state with
      machine := after, summary := state.summary.record outcome } hsink (line ++ "\n")

/-- An item that stops is neither counted nor reported. -/
theorem run_report_of_stops (c : Comparator μ) (state : RunState μ) {item : WalkItem}
    {error : CompareError} {left : Machine μ} (h : c.Stops state.machine item error left) :
    (c.report item).run.run state = (.error error, { state with machine := left }) := by
  unfold report
  cases h with
  | walk =>
    have hitem : (Run.act (Action.ofExcept (.error error)) : Run μ FilePair).run.run state
        = (.error error, state) := rfl
    exact run_bind_of_error hitem _
  | comparison hcompare =>
    rename_i pair
    have hitem : (Run.act (Action.ofExcept (.ok pair)) : Run μ FilePair).run.run state
        = (.ok pair, state) := rfl
    rw [run_bind_of_ok hitem]
    exact run_bind_of_error (Run.run_act hcompare) _

/-- Visiting the items of a chain counts and reports all its outcomes. -/
theorem run_forM_report (c : Comparator μ) {steps : List (Step μ)} {first last : Machine μ}
    (h : c.Chain first steps last) (state : RunState μ) (hfirst : state.machine = first)
    (hsink : state.sink.NeverFails) :
    (forM (steps.map Step.item) c.report).run.run state = (.ok (), advance state steps last) := by
  induction h generalizing state with
  | nil machine =>
    subst hfirst
    show ((.ok (), state) : Except CompareError Unit × RunState μ) = _
    simp [advance]
  | @cons step steps last hstep hrest ih =>
    -- the first item leaves the state in which the others are visited
    rw [← hfirst] at hstep
    have hreport := c.run_report_of_ok hsink hstep
    rw [List.map_cons, List.forM_cons]
    show ((c.report (.ok step.pair)) >>= fun _ => _).run.run state = _
    rw [run_bind_of_ok hreport, ih _ rfl (hsink.add _)]
    simp [advance]

/-- Every sequence of items is a chain, or is one up to an item that stops. -/
theorem chain_or_stops (c : Comparator μ) (items : List WalkItem) (first : Machine μ) :
    (∃ steps last, items = steps.map Step.item ∧ c.Chain first steps last) ∨
    ∃ steps machine item rest error left, items = steps.map Step.item ++ item :: rest ∧
      c.Chain first steps machine ∧ c.Stops machine item error left := by
  induction items generalizing first with
  | nil => exact .inl ⟨[], first, rfl, .nil first⟩
  | cons item items ih =>
    cases item with
    | error error =>
      exact .inr ⟨[], first, .error error, items, error, first, rfl, .nil first, .walk error⟩
    | ok pair =>
      rcases hpair : (c.comparePair pair).run.run first with ⟨result, after⟩
      -- a comparison that succeeds goes in front of what becomes of the rest
      cases result with
      | error error =>
        exact .inr ⟨[], first, .ok pair, items, error, after, rfl, .nil first, .comparison hpair⟩
      | ok outcome =>
        have hcons {steps last} (h : c.Chain after steps last) :
            c.Chain first (⟨pair, outcome, first, after⟩ :: steps) last :=
          .cons ⟨pair, outcome, first, after⟩ hpair h
        rcases ih after with ⟨steps, last, rfl, hsteps⟩ | hstop
        · exact .inl ⟨_, last, rfl, hcons hsteps⟩
        · obtain ⟨steps, machine, item, rest, error, left, rfl, hsteps, hitem⟩ := hstop
          exact .inr ⟨_, machine, item, rest, error, left, rfl, hcons hsteps, hitem⟩

end Comparator

end RenderCheck
