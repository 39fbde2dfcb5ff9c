import RenderCheck.Proofs.Run.Noted

/-! # What a run reports

    A run goes through the items it meets until one stops it. What it has
    written by then are the lines of the outcomes so far, what it has counted
    are these outcomes, and what comes after an item that stops plays no part.

    * **Counting**: `Summary.tally` says what each counter counts.
    * **Going through items**: the relation `Goes` and what it does to a run.
    * **The walk** goes through what it meets, and the steps are its history
      (`goes_met`).
    * **Reports** (`run_reports_outcomes`). -/

namespace RenderCheck

variable {μ : Type}

/-! ## Counting -/

namespace Outcome

/-- There was no counterpart. -/
def isMissing : Outcome → Bool
  | missing _ => true
  | _ => false

/-- The images were measured and lie within the threshold. -/
def isPassed : Outcome → Bool
  | passed _ => true
  | _ => false

/-- The images were measured and lie above the threshold. -/
def isMismatch : Outcome → Bool
  | mismatch _ _ _ => true
  | _ => false

/-- The texts differ. -/
def isTextDifference : Outcome → Bool
  | textDiffers _ => true
  | _ => false

/-- The diff image that was written. -/
def diffImage? : Outcome → Option Path
  | mismatch _ _ diffImage => diffImage
  | _ => none

end Outcome

/-- The counters that some outcomes add up to. -/
def Summary.tally (outcomes : List Outcome) : Summary where
  filesChecked := outcomes.length
  imagesCompared := outcomes.countP fun outcome => outcome.isPassed || outcome.isMismatch
  missing := outcomes.countP Outcome.isMissing
  mismatched := outcomes.countP Outcome.isMismatch
  textDifferences := outcomes.countP Outcome.isTextDifference
  diffsWritten := outcomes.countP fun outcome => outcome.diffImage?.isSome

/-- Recording an outcome adds one to each counter that it belongs to. -/
theorem Summary.record_eq (s : Summary) (outcome : Outcome) :
    s.record outcome =
      { filesChecked := s.filesChecked + 1
        imagesCompared := s.imagesCompared + (outcome.isPassed || outcome.isMismatch).toNat
        missing := s.missing + outcome.isMissing.toNat
        mismatched := s.mismatched + outcome.isMismatch.toNat
        textDifferences := s.textDifferences + outcome.isTextDifference.toNat
        diffsWritten := s.diffsWritten + outcome.diffImage?.isSome.toNat } := by
  cases outcome with
  | mismatch reference metric diffImage => cases diffImage <;> rfl
  | _ => rfl

theorem countP_concat {α : Type} (keep : α → Bool) (items : List α) (item : α) :
    (items ++ [item]).countP keep = items.countP keep + (keep item).toNat := by
  rw [List.countP_append, List.countP_singleton]
  cases keep item <;> rfl

/-- Recording one more outcome counts it. -/
theorem Summary.record_tally (outcomes : List Outcome) (outcome : Outcome) :
    (tally outcomes).record outcome = tally (outcomes ++ [outcome]) := by
  rw [record_eq]
  simp only [tally, countP_concat, List.length_append, List.length_singleton]

/-- Recording outcomes one after the other counts them all. -/
theorem Summary.foldl_record (outcomes : List Outcome) :
    outcomes.foldl record {} = tally outcomes := by
  induction outcomes using List.reverseRecOn with
  | nil => rfl
  | append_singleton outcomes outcome ih =>
    rw [List.foldl_concat, ih, record_tally]

/-- An outcome has a line if it is counted as a failure. -/
theorem Outcome.reportLine?_isSome (outcome : Outcome) :
    outcome.reportLine?.isSome
      = (outcome.isMissing || outcome.isMismatch || outcome.isTextDifference) := by
  cases outcome <;> rfl

/-- There are failures if something is reported. -/
theorem Summary.hasFailures_tally (outcomes : List Outcome) :
    (tally outcomes).hasFailures = true ↔ reportText outcomes ≠ "" := by
  induction outcomes with
  | nil => simp [tally, hasFailures, reportText]
  | cons outcome outcomes ih =>
    have hcount : (tally (outcome :: outcomes)).hasFailures = true ↔
        outcome.reportLine?.isSome = true ∨ (tally outcomes).hasFailures = true := by
      rw [outcome.reportLine?_isSome]
      unfold tally hasFailures
      simp only [List.countP_cons, decide_eq_true_iff]
      -- a failure adds one to one of the counters, anything else adds nothing
      cases outcome <;>
        simp only [Outcome.isMissing, Outcome.isMismatch, Outcome.isTextDifference, if_true,
          Bool.false_eq_true, if_false, Bool.or_false, Bool.or_true, Bool.or_self, eq_self,
          true_or, false_or, iff_true] <;>
        omega
    rw [hcount, ih, reportText_cons, Outcome.report]
    cases outcome.reportLine? with
    | none => simp
    | some line => simp [String.append_eq_empty_iff]

/-! ## Going through items -/

namespace Comparator

/-- How a run goes through some items: by which steps and to which machine,
    and the error it ends in if an item stops it. -/
inductive Goes (c : Comparator μ) (first : Machine μ) :
    List WalkItem → List (Step μ) → Machine μ → Option CompareError → Prop where
  /-- Every item is a pair whose comparison succeeds. -/
  | through {steps : List (Step μ)} {last : Machine μ} : c.Chain first steps last →
      Goes c first (steps.map Step.item) steps last none
  /-- An item stops the run, whatever comes after it. -/
  | stopped {steps : List (Step μ)} {machine left : Machine μ} {item : WalkItem}
      {error : CompareError} (rest : List WalkItem) : c.Chain first steps machine →
      c.Stops machine item error left →
      Goes c first (steps.map Step.item ++ item :: rest) steps left (some error)

/-- A run goes through any items in some way. -/
theorem exists_goes (c : Comparator μ) (items : List WalkItem) (first : Machine μ) :
    ∃ steps last error?, c.Goes first items steps last error? := by
  rcases c.chain_or_stops items first with ⟨steps, last, rfl, hchain⟩ | hstop
  · exact ⟨steps, last, none, .through hchain⟩
  · obtain ⟨steps, machine, item, rest, error, left, rfl, hchain, hitem⟩ := hstop
    exact ⟨steps, left, some error, .stopped rest hchain hitem⟩

/-- What a run that began in a state returns and leaves when it has gone
    through its items. -/
def ending (state : RunState μ) (steps : List (Step μ)) (last : Machine μ) :
    Option CompareError → Except CompareError Summary × RunState μ :=
  let outcomes := steps.map Step.outcome
  let summary := Summary.tally outcomes
  let sink := state.sink.add (Text.encode (reportText outcomes).toList)
  fun
  | none => (.ok summary, ⟨closed state.machine.span summary last, sink, summary⟩)
  | some error => (.error error, ⟨{ last with span := state.machine.span }, sink, summary⟩)

/-- What going through some items makes of a run. -/
theorem Goes.run_runOver {c : Comparator μ} {state : RunState μ} (hsink : state.sink.NeverFails)
    (hvalid : c.config.validateDirs state.machine.files = .ok ()) {items : List WalkItem}
    {steps : List (Step μ)} {last : Machine μ} {error? : Option CompareError}
    (h : c.Goes (c.opened state.machine) items steps last error?) :
    (c.runOver (forM items)).run.run state = ending state steps last error? := by
  have hadvance (machine : Machine μ) : advance (c.begun state) steps machine
      = ⟨machine, state.sink.add (Text.encode (reportText (steps.map Step.outcome)).toList),
          Summary.tally (steps.map Step.outcome)⟩ := by
    unfold advance begun
    rw [Summary.foldl_record]
  rw [c.run_runOver_of_valid hvalid]
  cases h with
  | through hchain =>
    rw [c.run_forM_report hchain (c.begun state) rfl hsink, hadvance]
    unfold concluded
    simp only [(hsink.add _).flush_eq]
    rfl
  | @stopped _ machine _ item error rest hchain hstop =>
    have hsteps := c.run_forM_report hchain (c.begun state) rfl hsink
    have hitem := c.run_report_of_stops (advance (c.begun state) steps machine) hstop
    -- the error leaves nothing to do for the rest
    rw [List.forM_append, run_bind_of_ok hsteps, List.forM_cons, run_bind_of_error hitem, hadvance]
    rfl

/-! ## The walk -/

/-- What goes on after a chain goes through the items of both. -/
theorem Chain.goes {c : Comparator μ} {first between last : Machine μ} {steps more : List (Step μ)}
    {items : List WalkItem} {error? : Option CompareError} (h : c.Chain first steps between)
    (hmore : c.Goes between items more last error?) :
    c.Goes first (steps.map Step.item ++ items) (steps ++ more) last error? := by
  cases hmore with
  | through hchain =>
    rw [← List.map_append]
    exact .through (h.append hchain)
  | stopped rest hchain hstops =>
    rw [← List.append_assoc, ← List.map_append]
    exact .stopped rest (h.append hchain) hstops

/-- The error that ended a computation. -/
def endedBy {α : Type} : Except CompareError α → Option CompareError
  | .ok _ => none
  | .error error => some error

/-- Two computations that do the same and take notes: the items that are gone
    through are noted by one, the steps by the other. -/
def GoesAlong (c : Comparator μ) {α : Type} (y : Noted μ WalkItem α) (z : Noted μ (Step μ) α) :
    Prop :=
  ∀ state, state.sink.NeverFails → ∃ items steps result after,
    (∀ earlier, y.run.run (state, earlier) = (result, after, earlier ++ items)) ∧
    (∀ earlier, z.run.run (state, earlier) = (result, after, earlier ++ steps)) ∧
    c.Goes state.machine items steps after.machine (endedBy result) ∧ after.sink.NeverFails

/-- Going through items is kept by doing one thing after the other. -/
def goingAlong (c : Comparator μ) : Simulation (Noted μ WalkItem) (Noted μ (Step μ)) where
  Related y z := c.GoesAlong y z
  pure a := by
    intro state hsink
    refine ⟨[], [], .ok a, state, fun earlier => ?_, fun earlier => ?_, .through (.nil _),
      hsink⟩ <;>
      · rw [List.append_nil]
        rfl
  bind := by
    intro α β y z f g hy hf state hsink
    obtain ⟨items, steps, result, between, hitems, hsteps, hgoes, hbetween⟩ := hy state hsink
    cases result with
    -- a failure ends both, and what went well so far is a chain
    | error error =>
      exact ⟨items, steps, .error error, between,
        fun earlier => run_bind_of_error (hitems earlier) f,
        fun earlier => run_bind_of_error (hsteps earlier) g, hgoes, hbetween⟩
    | ok a =>
      obtain ⟨items', steps', result, after, hitems', hsteps', hgoes', hafter⟩ :=
        hf a between hbetween
      refine ⟨items ++ items', steps ++ steps', result, after, fun earlier => ?_, fun earlier => ?_,
        ?_, hafter⟩
      · rw [run_bind_of_ok (hitems earlier), hitems', List.append_assoc]
      · rw [run_bind_of_ok (hsteps earlier), hsteps', List.append_assoc]
      · cases hgoes with
        | through hchain => exact hchain.goes hgoes'

/-- Reporting an item goes through it. -/
theorem goesAlong_meet (c : Comparator μ) (item : WalkItem) :
    c.GoesAlong (c.meet item) (c.note item) := by
  intro state hsink
  refine ⟨[item], (c.stepOf? state.machine item).toList, ((c.report item).run.run state).1,
    ((c.report item).run.run state).2, fun _ => rfl, fun _ => rfl, ?_⟩
  have hstopped {error : CompareError} {left : Machine μ}
      (hstops : c.Stops state.machine item error left) :
      c.Goes state.machine [item] [] left (some error) :=
    .stopped [] (.nil _) hstops
  cases item with
  | error error =>
    rw [c.run_report_of_stops state (.walk error)]
    exact ⟨hstopped (.walk error), hsink⟩
  | ok pair =>
    rcases hpair : (c.comparePair pair).run.run state.machine with ⟨result, after⟩
    rw [stepOf?, hpair]
    cases result with
    | error error =>
      rw [c.run_report_of_stops state (.comparison hpair)]
      exact ⟨hstopped (.comparison hpair), hsink⟩
    | ok outcome =>
      rw [c.run_report_of_ok hsink hpair]
      exact ⟨.through (.cons ⟨pair, outcome, state.machine, after⟩ hpair (.nil after)), hsink.add _⟩

/-- A run goes through what it meets, and its steps are its history. -/
theorem goes_met {c : Comparator μ} {state : RunState μ} (hsink : state.sink.NeverFails)
    (hvalid : c.config.validateDirs state.machine.files = .ok ()) :
    ∃ last error?, c.Goes (c.opened state.machine) (c.met state) (c.history state) last error? := by
  have halong : c.GoesAlong
      (Walk.visit (Run.act Action.files).unnoted c.meet c.config.referenceDir c.config.renderDir)
      (Walk.visit (Run.act Action.files).unnoted c.note c.config.referenceDir
        c.config.renderDir) := by
    refine c.goingAlong.visit_all (fun hf state hsink => ?_) c.goesAlong_meet _ _
    obtain ⟨items, steps, result, after, hitems, hsteps, hgoes⟩ :=
      hf state.machine.files state hsink
    refine ⟨items, steps, result, after, fun earlier => ?_, fun earlier => ?_, hgoes⟩
    · rw [run_bind_of_ok (Run.run_unnoted_files state earlier), hitems]
    · rw [run_bind_of_ok (Run.run_unnoted_files state earlier), hsteps]
  obtain ⟨items, steps, result, after, hitems, hsteps, hgoes, -⟩ := halong (c.begun state) hsink
  have hmet : c.met state = items := by
    rw [met, noted_of_valid hvalid, hitems, List.nil_append]
  have hhistory : c.history state = steps := by
    rw [history, noted_of_valid hvalid, hsteps, List.nil_append]
  rw [hmet, hhistory]
  exact ⟨_, _, hgoes⟩

/-! ## Reports -/

/-- Directories that are refused end a run before it does anything. Otherwise a
    run goes through what its walk meets, by the steps of its history; through
    any items it returns, writes and counts what its steps found, and an item
    that stops it leaves no trace in what is written or counted. Something is
    written if failures are counted. -/
theorem run_reports_outcomes (c : Comparator μ) (state : RunState μ)
    (hsink : state.sink.NeverFails) :
    (∀ error, c.config.validateDirs state.machine.files = .error error →
      c.run.run.run state = (.error error, state) ∧
      ∀ items : List WalkItem, (c.runOver (forM items)).run.run state = (.error error, state)) ∧
    (c.config.validateDirs state.machine.files = .ok () →
      c.run.run.run state = (c.runOver (forM (c.met state))).run.run state ∧
      (∃ last error?, c.Goes (c.opened state.machine) (c.met state) (c.history state) last error? ∧
        c.run.run.run state = ending state (c.history state) last error?) ∧
      ∀ items : List WalkItem,
        (∃ steps last error?, c.Goes (c.opened state.machine) items steps last error?) ∧
        ∀ steps last error?, c.Goes (c.opened state.machine) items steps last error? →
          (c.runOver (forM items)).run.run state = ending state steps last error?) ∧
    ∀ outcomes, (Summary.tally outcomes).hasFailures = true ↔ reportText outcomes ≠ "" := by
  refine ⟨?_, ?_, Summary.hasFailures_tally⟩
  · intro error herror
    refine ⟨c.run_runOver_of_invalid herror _, ?_⟩
    intro items
    exact c.run_runOver_of_invalid herror _
  intro hvalid
  have hrun := run_eq_runOver_met hvalid
  refine ⟨hrun, ?_, ?_⟩
  -- the walk gives some items, and the run is one over these
  · obtain ⟨last, error?, hgoes⟩ := goes_met hsink hvalid
    exact ⟨last, error?, hgoes, hrun.trans (hgoes.run_runOver hsink hvalid)⟩
  · intro items
    refine ⟨c.exists_goes items _, ?_⟩
    intro steps last error? hgoes
    exact hgoes.run_runOver hsink hvalid

/-! ## A run over one file -/

namespace LoneFile

/-- Compares the trees `ref` and `out`. -/
def comparator : Comparator Unit :=
  ⟨{ referenceDir := ⟨"ref"⟩, renderDir := ⟨"out"⟩ }, .native, ⟨[.anyText]⟩, none⟩

/-- There is a file in one tree and no other tree. -/
def state : RunState Unit where
  machine := ⟨⟨[], [(["ref"], .directory), (["ref", "a"], .file .empty false)]⟩, (), [], none⟩
  sink := {}

/-- The comparison of that file with what is not there. -/
def step : Step Unit where
  pair := ⟨⟨"ref/a"⟩, ⟨"out/a"⟩, ⟨"a"⟩⟩
  outcome := .missing ⟨"out/a"⟩
  before := comparator.opened state.machine
  after := { comparator.opened state.machine with
    records := (comparator.opened state.machine).records ++ [⟨⟨.debug, .comparator,
      "Counterpart missing", [.path "generated" ⟨"out/a"⟩]⟩, some comparator.span⟩] }

/-- The file is counted and reported. -/
theorem run_reports_missing : state.sink.NeverFails ∧
    comparator.config.validateDirs state.machine.files = .ok () ∧
    comparator.Goes (comparator.opened state.machine) [step.item] [step] step.after none ∧
    ((comparator.runOver (forM [step.item])).run.run state).1
      = .ok { filesChecked := 1, missing := 1 } ∧
    ((comparator.runOver (forM [step.item])).run.run state).2.sink.written
      = Text.encode "File out/a does not exist\n".toList := by
  have hsink : state.sink.NeverFails := ⟨rfl, rfl⟩
  have hvalid : comparator.config.validateDirs state.machine.files = .ok () := rfl
  have hgoes : comparator.Goes (comparator.opened state.machine) [step.item] [step] step.after none :=
    .through (.cons step rfl (.nil _))
  have hrun := (((run_reports_outcomes comparator state hsink).2.1 hvalid).2.2 _).2 _ _ _ hgoes
  rw [hrun]
  exact ⟨hsink, hvalid, hgoes, rfl, rfl⟩

end LoneFile

end Comparator

end RenderCheck
