import RenderCheck.Proofs.Run.Report

/-! # The history of a run

    The visitor that notes every comparison down does what the run does, and
    what it notes are comparisons that follow one another, of pairs below the
    roots. This holds whether or not the sink takes every line.

    * **Walking alike** with and without notes (`Follows`).
    * **The course of a run** (`exists_course`): its history is a chain from
      the machine it began in, and only a comparison that failed may come
      after it. -/

namespace RenderCheck

variable {μ α : Type}

namespace Comparator

/-! ## Walking alike -/

/-- Where a computation ends whose last comparison that succeeded left some
    machine: there, or in what a comparison that failed made of it. -/
def EndsAfter (c : Comparator μ) (last : Machine μ) :
    Except CompareError α × RunState μ → Prop
  | (.ok _, after) => after.machine = last
  | (.error _, after) => after.machine = last ∨
      ∃ pair error, (c.comparePair pair).run.run last = (.error error, after.machine)

/-- A computation with notes does what one without notes does, and its notes
    make a chain. -/
def Follows (c : Comparator μ) (x : Run μ α) (y : Noted μ (Step μ) α) : Prop :=
  ∀ state, state.machine.files.Sound → ∃ steps last,
    (∀ earlier, y.run.run (state, earlier)
      = ((x.run.run state).1, (x.run.run state).2, earlier ++ steps)) ∧
    c.Chain state.machine steps last ∧
    c.EndsAfter last (x.run.run state) ∧
    (x.run.run state).2.summary = (steps.map Step.outcome).foldl Summary.record state.summary ∧
    (x.run.run state).2.machine.files.Sound ∧
    ∀ step ∈ steps,
      Walk.Met IsName c.config.referenceDir c.config.renderDir step.item

/-- Comparisons keep a tree a tree. -/
def KeepsSound (c : Comparator μ) : Prop :=
  ∀ pair machine, machine.files.Sound →
    ((c.comparePair pair).run.run machine).2.files.Sound

/-- Following is kept by doing one thing after the other. -/
def following (c : Comparator μ) : Simulation (Run μ) (Noted μ (Step μ)) where
  Related x y := c.Follows x y
  pure a := fun state hsound =>
    ⟨[], state.machine, fun earlier => by rw [List.append_nil]; rfl, .nil _, rfl, rfl, hsound,
      fun _ h => nomatch h⟩
  bind := by
    intro α β x y f g hx hf state hsound
    obtain ⟨steps, last, hnotes, hchain, hends, hsummary, hafter, hmet⟩ := hx state hsound
    rcases hrun : x.run.run state with ⟨result, after⟩
    rw [hrun] at hnotes hends hsummary hafter
    cases result with
    | error error =>
      rw [run_bind_of_error hrun]
      exact ⟨steps, last, fun earlier => run_bind_of_error (hnotes earlier) g, hchain, hends,
        hsummary, hafter, hmet⟩
    | ok a =>
      -- the second part starts where the chain of the first ends
      obtain ⟨more, last', hnotes', hchain', hends', hsummary', hafter', hmet'⟩ := hf a after hafter
      rw [run_bind_of_ok hrun]
      replace hends : after.machine = last := hends
      rw [hends] at hchain'
      refine ⟨steps ++ more, last', fun earlier => ?_, hchain.append hchain', hends', ?_, hafter',
        fun step hstep => ?_⟩
      · rw [run_bind_of_ok (hnotes earlier), hnotes', List.append_assoc]
      · rw [hsummary', hsummary, List.map_append, List.foldl_append]
      · rcases List.mem_append.1 hstep with hstep | hstep
        · exact hmet step hstep
        · exact hmet' step hstep

/-- Reporting a comparison leaves its machine and its count, whether its line
    can be written or not. -/
theorem run_report_leaves (c : Comparator μ) {state : RunState μ} {pair : FilePair}
    {outcome : Outcome} {after : Machine μ}
    (h : (c.comparePair pair).run.run state.machine = (.ok outcome, after)) :
    ((c.report (.ok pair)).run.run state).2.machine = after ∧
      ((c.report (.ok pair)).run.run state).2.summary = state.summary.record outcome := by
  rw [c.run_report_compared h]
  cases outcome.reportLine? <;> exact ⟨rfl, rfl⟩

/-- Noting an item follows reporting it. -/
theorem follows_note {c : Comparator μ} (hkeeps : c.KeepsSound) {item : WalkItem}
    (hitem : Walk.Met IsName c.config.referenceDir c.config.renderDir item) :
    c.Follows (c.report item) (c.note item) := by
  intro state hsound
  cases item with
  | error error =>
    have hreport := c.run_report_of_stops state (.walk error)
    rw [hreport]
    refine ⟨[], state.machine, fun earlier => ?_, .nil _, .inl rfl, rfl, hsound,
      fun _ h => nomatch h⟩
    show (((c.report _).run.run state).1, ((c.report _).run.run state).2, earlier ++ []) = _
    rw [hreport]
  | ok pair =>
    rcases hpair : (c.comparePair pair).run.run state.machine with ⟨result, after⟩
    have hafter := hkeeps pair state.machine hsound
    rw [hpair] at hafter
    cases result with
    | error error =>
      have hreport := c.run_report_of_stops state (.comparison hpair)
      rw [hreport]
      refine ⟨[], state.machine, fun earlier => ?_, .nil _, .inr ⟨pair, error, hpair⟩, rfl, hafter,
        fun _ h => nomatch h⟩
      show (((c.report _).run.run state).1, ((c.report _).run.run state).2,
        earlier ++ (c.stepOf? state.machine (.ok pair)).toList) = _
      rw [hreport, stepOf?, hpair]
      rfl
    | ok outcome =>
      -- the step is noted even if its line cannot be written
      obtain ⟨hmachine, hsummary⟩ := c.run_report_leaves hpair
      have hends : c.EndsAfter after ((c.report (.ok pair)).run.run state) := by
        rcases hreport : (c.report (.ok pair)).run.run state with ⟨_ | _, reported⟩
        · rw [hreport] at hmachine
          exact .inl hmachine
        · rw [hreport] at hmachine
          exact hmachine
      refine ⟨[⟨pair, outcome, state.machine, after⟩], after, fun earlier => ?_,
        .cons ⟨pair, outcome, state.machine, after⟩ hpair (.nil after), hends, hsummary,
        ?_, fun step hstep => ?_⟩
      · show (((c.report _).run.run state).1, ((c.report _).run.run state).2,
          earlier ++ (c.stepOf? state.machine (.ok pair)).toList) = _
        rw [stepOf?, hpair]
        rfl
      · rw [hmachine]
        exact hafter
      · rw [List.mem_singleton.1 hstep]
        exact hitem

/-- Walking with notes through what lies in the reference root follows walking
    there without. -/
theorem follows_visitDir {c : Comparator μ} (hkeeps : c.KeepsSound) :
    c.Follows
      (Walk.visitDir (Run.act Action.files) c.report c.config.referenceDir c.config.renderDir
        Walk.depthLimit c.config.referenceDir)
      (Walk.visitDir (Run.act Action.files).unnoted c.note c.config.referenceDir c.config.renderDir
        Walk.depthLimit c.config.referenceDir) := by
  -- looking at the files is the one thing to check by hand: it notes nothing
  refine @Simulation.visitDir _ _ _ _ c.following IsName _ _ _ _ _ _ (fun hf state hsound => ?_)
    (fun item hitem => follows_note hkeeps hitem) Walk.depthLimit [] (by simp)
  obtain ⟨steps, last, hnotes, hrest⟩ := hf state.machine.files hsound.named state hsound
  have hlook : (Run.act Action.files : Run μ FileTree).run.run state
      = (.ok state.machine.files, state) := rfl
  rw [run_bind_of_ok hlook]
  refine ⟨steps, last, fun earlier => ?_, hrest⟩
  rw [run_bind_of_ok (Run.run_unnoted_files state earlier)]
  exact hnotes earlier

/-- A walk from a path that leads to a directory goes through what lies in it. -/
theorem run_visit_of_leads {ε σ : Type} {look : ExceptT ε (StateM σ) FileTree}
    (visitor : WalkItem → ExceptT ε (StateM σ) Unit) {s : σ} {files : FileTree}
    (hlook : look.run.run s = (.ok files, s)) {referenceRoot : Path} (renderRoot : Path)
    {location : Location} (h : files.locate true referenceRoot = .ok ⟨location, some .directory⟩) :
    (Walk.visit look visitor referenceRoot renderRoot).run.run s
      = (Walk.visitDir look visitor referenceRoot renderRoot Walk.depthLimit referenceRoot).run.run
          s := by
  obtain ⟨hfollowed, hfound⟩ := FileTree.inspect_false_of_locate h
  unfold Walk.visit
  rw [run_bind_of_ok hlook]
  rcases hfound with hdir | ⟨target, hlink⟩
  · rw [hdir]
  · rw [hlink]
    simp only [hfollowed]

/-- Directories that are let through begin with a reference root that leads to
    a directory. -/
theorem leads_of_valid {c : Comparator μ} {files : FileTree}
    (hvalid : c.config.validateDirs files = .ok ()) :
    c.config.referenceDir.text ≠ "" ∧
      ∃ location, files.locate true c.config.referenceDir = .ok ⟨location, some .directory⟩ := by
  have hdir : files.isDir c.config.referenceDir = true := by
    by_contra hnone
    unfold Config.validateDirs at hvalid
    rw [Bool.eq_false_iff.2 hnone] at hvalid
    cases hvalid
  obtain ⟨location, hlocation⟩ := FileTree.isDir_iff.1 hdir
  exact ⟨FileTree.ne_empty_of_locate hlocation, location, hlocation⟩

/-! ## The course of a run -/

/-- How the walk of a run through the reference root ends. -/
def walked (c : Comparator μ) (state : RunState μ) : Except CompareError Unit × RunState μ :=
  (Walk.visitDir (Run.act Action.files) c.report c.config.referenceDir c.config.renderDir
    Walk.depthLimit c.config.referenceDir).run.run (c.begun state)

/-- A run whose directories are let through is its walk, and what it makes of
    its end. -/
theorem run_eq_concluded {c : Comparator μ} {state : RunState μ}
    (hvalid : c.config.validateDirs state.machine.files = .ok ()) :
    c.run.run.run state = concluded state.machine.span (c.walked state) := by
  obtain ⟨-, location, hlocation⟩ := leads_of_valid hvalid
  have hlook : (Run.act Action.files : Run μ FileTree).run.run (c.begun state)
      = (.ok state.machine.files, c.begun state) := rfl
  have hrun : c.run.run.run state = concluded state.machine.span _ :=
    c.run_runOver_of_valid hvalid _
  rw [hrun, run_visit_of_leads _ hlook _ hlocation, walked]

/-- Walking with notes ends alike, and the notes are the history. -/
theorem run_noted {c : Comparator μ} (hkeeps : c.KeepsSound) {state : RunState μ}
    (hsound : state.machine.files.Sound)
    (hvalid : c.config.validateDirs state.machine.files = .ok ()) :
    (Walk.visitDir (Run.act Action.files).unnoted c.note c.config.referenceDir c.config.renderDir
      Walk.depthLimit c.config.referenceDir).run.run (c.begun state, [])
        = ((c.walked state).1, (c.walked state).2, c.history state) := by
  obtain ⟨-, location, hlocation⟩ := leads_of_valid hvalid
  obtain ⟨steps, last, hnotes, -⟩ := follows_visitDir hkeeps (c.begun state) hsound
  have hlook := Run.run_unnoted_files (c.begun state) ([] : List (Step μ))
  have hhistory : c.history state = steps := by
    rw [history, noted_of_valid hvalid, run_visit_of_leads _ hlook _ hlocation, hnotes]
    rfl
  rw [hnotes, hhistory]
  rfl

/-- What the history of a run says about it; `last` is the machine that the
    last comparison that succeeded left. -/
structure Course (c : Comparator μ) (state : RunState μ) (last : Machine μ) : Prop where
  /-- The comparisons follow one another. -/
  chain : c.Chain (c.opened state.machine) (c.history state) last
  /-- What was compared are pairs below the roots. -/
  pairs : ∀ step ∈ c.history state, ∃ names ≠ [], (∀ name ∈ names, IsName name) ∧
    step.pair = FilePair.below c.config.referenceDir c.config.renderDir names
  /-- A run that succeeds counts its comparisons, and ends after the last. -/
  succeeded : ∀ summary, (c.run.run.run state).1 = .ok summary →
    summary = Summary.tally ((c.history state).map Step.outcome) ∧
      (c.run.run.run state).2.machine.files = last.files
  /-- After the last a comparison may have failed. -/
  ended : (c.run.run.run state).2.machine.files = last.files ∨
    ∃ pair error after, (c.comparePair pair).run.run last = (.error error, after) ∧
      (c.run.run.run state).2.machine.files = after.files

/-- A run that is refused has no history. -/
theorem course_of_invalid {c : Comparator μ} {state : RunState μ} {error : CompareError}
    (hvalid : c.config.validateDirs state.machine.files = .error error) :
    c.Course state (c.opened state.machine) := by
  have hhistory : c.history state = [] := by rw [history, noted, hvalid]
  have hrun : c.run.run.run state = (.error error, state) := c.run_runOver_of_invalid hvalid _
  refine ⟨?_, ?_, ?_, ?_⟩
  · rw [hhistory]
    exact .nil _
  · rw [hhistory]
    intro step hstep
    cases hstep
  · rw [hrun]
    intro summary h
    cases h
  · rw [hrun]
    exact .inl rfl

/-- Every run takes such a course. -/
theorem exists_course {c : Comparator μ} (hkeeps : c.KeepsSound) {state : RunState μ}
    (hsound : state.machine.files.Sound) : ∃ last, c.Course state last := by
  cases hvalid : c.config.validateDirs state.machine.files with
  | error error => exact ⟨_, course_of_invalid hvalid⟩
  | ok _ =>
    obtain ⟨hroot, -⟩ := leads_of_valid hvalid
    obtain ⟨steps, last, hnotes, hchain, hends, hsummary, -, hmet⟩ :=
      follows_visitDir hkeeps (c.begun state) hsound
    have hrun := run_eq_concluded hvalid
    have hhistory : c.history state = steps := by
      have hnoted := run_noted hkeeps hsound hvalid
      rw [hnotes] at hnoted
      exact (congrArg (·.2.2) hnoted).symm
    change c.EndsAfter last (c.walked state) at hends
    change (c.walked state).2.summary = _ at hsummary
    rcases hwalk : c.walked state with ⟨result, after⟩
    rw [hwalk] at hends hsummary hrun
    refine ⟨last, hhistory ▸ hchain, ?_, ?_, ?_⟩
    · intro step hstep
      rw [hhistory] at hstep
      exact (hmet step hstep).eq_below hroot
    · intro summary h
      rw [hrun] at h
      obtain ⟨rfl, rfl⟩ := concluded_eq_ok h
      replace hends : after.machine = last := hends
      rw [hrun, hhistory, files_concluded, ← hends]
      exact ⟨by rw [← Summary.foldl_record]; exact hsummary, rfl⟩
    · rw [hrun, files_concluded]
      -- only a comparison that fails can have changed files after the last step
      cases result with
      | ok _ =>
        replace hends : after.machine = last := hends
        exact .inl (congrArg Machine.files hends)
      | error error =>
        rcases hends with hends | ⟨pair, error, hpair⟩
        · exact .inl (congrArg Machine.files hends)
        · exact .inr ⟨pair, error, after.machine, hpair, rfl⟩

end Comparator

end RenderCheck
