import Mathlib.Data.List.Forall2
import RenderCheck.Proofs.Run.Effects
import RenderCheck.Proofs.Run.Report

/-! # Runs over files at rest

    Without a directory for diff images a run writes no files. If measuring and
    comparing texts leave files alone too, the whole walk sees the same files,
    and if they find the same whenever they are given the same two paths, what
    is found of a pair does not depend on what was compared before it.

    * **Settled actions** have one result for some files, and leave them.
    * **Pairs**: what is found of a pair is decided by its two files.
    * **Runs**: a run goes through the items of the tree (`run_at_rest`,
      `met_at_rest`), and returns and reports what they are found to be. -/

namespace RenderCheck

variable {μ α β : Type}

/-! ## Settled actions -/

/-- Whenever the files are these ones, the action has this result and leaves the
    files as they are. -/
def Action.Settled (files : FileTree) (action : Action μ α) (result : Except CompareError α) :
    Prop :=
  ∀ machine, machine.files = files →
    ∃ after, action.run.run machine = (result, after) ∧ after.files = files

namespace Action

variable {files : FileTree}

theorem settled_ofExcept (result : Except CompareError α) :
    Settled files (ofExcept result : Action μ α) result :=
  fun machine hmachine => ⟨machine, rfl, hmachine⟩

theorem settled_pure (a : α) : Settled files (pure a : Action μ α) (.ok a) :=
  settled_ofExcept (.ok a)

theorem settled_files : Settled files (Action.files : Action μ FileTree) (.ok files) :=
  fun machine hmachine => ⟨machine, by rw [run_files, hmachine], hmachine⟩

theorem settled_emit (event : Trace.Event) : Settled files (emit event : Action μ Unit) (.ok ()) :=
  fun machine hmachine => ⟨said machine event, run_emit event machine, hmachine⟩

section Bind

variable {x : Action μ α} {f : α → Action μ β} {result : Except CompareError β}

/-- What goes on after a settled action is settled if it is itself. -/
theorem Settled.bind {a : α} (hx : Settled files x (.ok a)) (hf : Settled files (f a) result) :
    Settled files (x >>= f) result := by
  intro machine hmachine
  obtain ⟨between, hrun, hbetween⟩ := hx machine hmachine
  rw [run_bind_of_ok hrun]
  exact hf between hbetween

theorem Settled.bind_error {error : CompareError} (hx : Settled files x (.error error)) :
    Settled files (x >>= f) (.error error) := by
  intro machine hmachine
  obtain ⟨after, hrun, hafter⟩ := hx machine hmachine
  exact ⟨after, run_bind_of_error hrun f, hafter⟩

end Bind

/-- An action that is settled has but one result. -/
theorem Settled.eq_of_run {x : Action μ α} {result result' : Except CompareError α}
    (h : Settled files x result) {machine after : Machine μ} (hmachine : machine.files = files)
    (hrun : x.run.run machine = (result', after)) : result' = result ∧ after.files = files := by
  obtain ⟨after', hrun', hafter⟩ := h machine hmachine
  rw [hrun] at hrun'
  cases hrun'
  exact ⟨rfl, hafter⟩

end Action

/-! ## Pairs -/

namespace Comparator

/-- What measuring and comparing texts find depends on nothing but the two paths
    they get while the files are these ones, and they leave the files as they
    are. -/
structure Settled (c : Comparator μ) (files : FileTree) : Prop where
  measure : ∀ reference generated, ∃ result,
    Action.Settled files (c.backend.measure reference generated) result
  texts : ∀ differ, c.textDiffer = some differ → ∀ reference generated, ∃ result,
    Action.Settled files (differ reference generated) result

/-- What an item is found to be. -/
def Finds (c : Comparator μ) (files : FileTree) (item : WalkItem) (outcome : Outcome) : Prop :=
  ∃ pair, item = .ok pair ∧ Action.Settled files (c.comparePair pair) (.ok outcome)

section Pairs

variable {c : Comparator μ} {files : FileTree}

/-- What comparing images finds is decided by the two files, if no difference is
    drawn. -/
theorem Settled.compareImages (h : c.Settled files) (hdiff : c.config.diffDir = none)
    (reference generated : Path) : ∃ result, ∀ relative,
      Action.Settled files (c.compareImages ⟨reference, generated, relative⟩) result := by
  obtain ⟨measured, hmeasured⟩ := h.measure reference generated
  cases measured with
  | error error => exact ⟨.error error, fun relative => hmeasured.bind_error⟩
  | ok metric =>
    refine ⟨.ok (if metric.exceeds c.config.threshold then .mismatch reference metric none
      else .passed metric), ?_⟩
    intro relative
    refine hmeasured.bind ((Action.settled_emit _).bind ?_)
    rw [hdiff]
    cases metric.exceeds c.config.threshold <;> exact Action.settled_pure _

/-- What comparing texts finds is decided by the two files. -/
theorem Settled.compareTexts (h : c.Settled files) (reference generated : Path) :
    ∃ result, ∀ relative,
      Action.Settled files (c.compareTexts ⟨reference, generated, relative⟩) result := by
  cases hdiffer : c.textDiffer with
  | none =>
    refine ⟨.ok .skipped, ?_⟩
    intro relative
    unfold Comparator.compareTexts
    rw [hdiffer]
    exact Action.settled_pure _
  | some differ =>
    obtain ⟨compared, hcompared⟩ := h.texts differ hdiffer reference generated
    by_cases hexcluded : reference.fileName?.any TextDiffer.isExcluded = true
    · refine ⟨.ok .skipped, ?_⟩
      intro relative
      unfold Comparator.compareTexts FilePair.fileName?
      rw [hdiffer]
      simp only [if_pos hexcluded]
      exact Action.settled_pure _
    · have hcompare (relative : Path) : c.compareTexts ⟨reference, generated, relative⟩
          = differ reference generated >>= fun output? =>
              pure (output?.elim .skipped .textDiffers) := by
        unfold Comparator.compareTexts FilePair.fileName?
        rw [hdiffer]
        simp only [if_neg hexcluded]
        congr 1
        funext output?
        cases output? <;> rfl
      cases compared with
      | error error =>
        refine ⟨.error error, ?_⟩
        intro relative
        rw [hcompare]
        exact hcompared.bind_error
      | ok output? =>
        refine ⟨.ok (output?.elim .skipped .textDiffers), ?_⟩
        intro relative
        rw [hcompare]
        exact hcompared.bind (Action.settled_pure _)

/-- What is found of a pair is decided by its two files. -/
theorem Settled.comparePair (h : c.Settled files) (hdiff : c.config.diffDir = none)
    (reference generated : Path) : ∃ result, ∀ relative,
      Action.Settled files (c.comparePair ⟨reference, generated, relative⟩) result := by
  obtain ⟨images, himages⟩ := h.compareImages hdiff reference generated
  obtain ⟨texts, htexts⟩ := h.compareTexts reference generated
  unfold Comparator.comparePair
  by_cases hthere : files.pathExists generated = true
  swap
  · refine ⟨.ok (.missing generated), ?_⟩
    intro relative
    refine Action.settled_files.bind ?_
    rw [Bool.eq_false_iff.2 hthere]
    exact (Action.settled_emit _).bind (Action.settled_pure _)
  -- the name of the reference says which comparison it is
  by_cases himage : c.isImage ⟨reference, generated, default⟩ = true
  · refine ⟨images, ?_⟩
    intro relative
    have himage' : c.isImage ⟨reference, generated, relative⟩ = true := himage
    refine Action.settled_files.bind ?_
    rw [hthere, himage']
    exact himages relative
  · refine ⟨texts, ?_⟩
    intro relative
    have himage' : c.isImage ⟨reference, generated, relative⟩ = false :=
      Bool.eq_false_iff.2 himage
    refine Action.settled_files.bind ?_
    rw [hthere, himage']
    exact htexts relative

/-- Every pair is found to be one thing. -/
theorem Settled.exists_result (h : c.Settled files) (hdiff : c.config.diffDir = none)
    (pair : FilePair) : ∃ result, Action.Settled files (c.comparePair pair) result := by
  obtain ⟨result, hresult⟩ := h.comparePair hdiff pair.reference pair.generated
  exact ⟨result, hresult pair.relative⟩

/-- Where a pair lies under the roots plays no part in what is found of it. -/
theorem Finds.of_same_files (h : c.Settled files) (hdiff : c.config.diffDir = none)
    (machine : Machine μ) (hmachine : machine.files = files) {pair : FilePair} {outcome : Outcome}
    (hfinds : c.Finds files (.ok pair) outcome) (relative : Path) :
    c.Finds files (.ok { pair with relative := relative }) outcome := by
  obtain ⟨_, hpair, houtcome⟩ := hfinds
  cases hpair
  obtain ⟨result, hresult⟩ := h.comparePair hdiff pair.reference pair.generated
  obtain ⟨after, hrun, -⟩ := houtcome machine hmachine
  obtain ⟨rfl, -⟩ := (hresult pair.relative).eq_of_run hmachine hrun
  exact ⟨_, rfl, hresult relative⟩

end Pairs

/-! ## Runs -/

section Runs

variable {c : Comparator μ} {files : FileTree} (h : c.Settled files)
  (hdiff : c.config.diffDir = none)

include h hdiff

/-- A report leaves the files as they are. -/
theorem Settled.files_report {state : RunState μ} (hfiles : state.machine.files = files)
    (item : WalkItem) : ((c.report item).run.run state).2.machine.files = files := by
  cases item with
  | error error => rw [c.run_report_of_stops state (.walk error), ← hfiles]
  | ok pair =>
    obtain ⟨result, hresult⟩ := h.exists_result hdiff pair
    obtain ⟨after, hrun, hafter⟩ := hresult state.machine hfiles
    cases result with
    | error error => rw [c.run_report_of_stops state (.comparison hrun), ← hafter]
    | ok outcome =>
      rw [c.run_report_compared hrun, ← hafter]
      cases outcome.reportLine? <;> rfl

end Runs

/-- Two computations do the same in any state of a kind, and leave one of it. -/
def resting {ε σ : Type} (Kind : σ → Prop) :
    Simulation (ExceptT ε (StateM σ)) (ExceptT ε (StateM σ)) where
  Related x y := ∀ state, Kind state →
    x.run.run state = y.run.run state ∧ Kind (x.run.run state).2
  pure _ := fun _ hkind => ⟨rfl, hkind⟩
  bind := by
    intro α β x y f g hx hf state hkind
    obtain ⟨hsame, hkept⟩ := hx state hkind
    rcases hrun : x.run.run state with ⟨result, between⟩
    rw [hrun] at hsame hkept
    cases result with
    | error error =>
      rw [run_bind_of_error hrun, run_bind_of_error hsame.symm]
      exact ⟨rfl, hkept⟩
    | ok a =>
      rw [run_bind_of_ok hrun, run_bind_of_ok hsame.symm]
      exact hf a between hkept

/-- A walk that may look again and again visits what it sees at once, if it
    always sees the same. -/
theorem run_visit_at_rest {ε σ : Type} (Kind : σ → Prop) {files : FileTree}
    {look : ExceptT ε (StateM σ) FileTree} {visitor : WalkItem → ExceptT ε (StateM σ) Unit}
    (hlook : ∀ state, Kind state → look.run.run state = (.ok files, state))
    (hvisitor : ∀ item state, Kind state → Kind ((visitor item).run.run state).2)
    (referenceRoot renderRoot : Path) {state : σ} (hstate : Kind state) :
    (Walk.visit look visitor referenceRoot renderRoot).run.run state
      = (forM (Walk.items files referenceRoot renderRoot) visitor).run.run state := by
  have hrelated : (resting Kind).Related (Walk.visit look visitor referenceRoot renderRoot)
      (Walk.visit (pure files) visitor referenceRoot renderRoot) := by
    refine (resting Kind).visit_all (fun hf state hkind => ?_)
      (fun item state hkind => ⟨rfl, hvisitor item state hkind⟩) referenceRoot renderRoot
    rw [run_bind_of_ok (hlook state hkind)]
    exact hf files state hkind
  obtain ⟨hsame, -⟩ := hrelated state hstate
  rw [hsame, Walk.visit_pure]

/-- A run that looks at these files sees them. -/
theorem look_at_rest (files : FileTree) (state : RunState μ)
    (hfiles : state.machine.files = files) :
    (Run.act Action.files : Run μ FileTree).run.run state = (.ok files, state) := by
  rw [← hfiles]
  rfl

/-- Going through items notes the first of them: all, unless one stops. -/
theorem exists_notes_of_forM_meet (c : Comparator μ) (items : List WalkItem) (state : RunState μ)
    (earlier : List WalkItem) : ∃ front, front <+: items ∧
      ((forM items c.meet : Noted μ WalkItem Unit).run.run (state, earlier)).2.2
        = earlier ++ front := by
  induction items generalizing state earlier with
  | nil => exact ⟨[], List.nil_prefix, (List.append_nil earlier).symm⟩
  | cons item items ih =>
    rw [List.forM_cons]
    rcases hmeet : (c.meet item).run.run (state, earlier) with ⟨result, after, notes⟩
    have hnotes : notes = earlier ++ [item] := congrArg (fun ran => ran.2.2) hmeet.symm
    cases result with
    | error error =>
      rw [run_bind_of_error hmeet, hnotes]
      exact ⟨[item], List.prefix_append [item] items, rfl⟩
    | ok _ =>
      obtain ⟨front, hfront, hrest⟩ := ih after notes
      rw [run_bind_of_ok hmeet, hrest, hnotes, List.append_assoc]
      exact ⟨item :: front, List.prefix_cons_inj item |>.2 hfront, rfl⟩

/-- Items that are found to be something are those of a chain. -/
theorem exists_chain_of_finds {c : Comparator μ} {files : FileTree} {items : List WalkItem}
    {outcomes : List Outcome} {first : Machine μ} (hfirst : first.files = files)
    (h : List.Forall₂ (c.Finds files) items outcomes) : ∃ steps last,
      items = steps.map Step.item ∧ outcomes = steps.map Step.outcome ∧
        c.Chain first steps last := by
  induction h generalizing first with
  | nil => exact ⟨[], first, rfl, rfl, .nil first⟩
  | @cons item outcome items outcomes hitem _ ih =>
    obtain ⟨pair, rfl, hsettled⟩ := hitem
    obtain ⟨after, hrun, hafter⟩ := hsettled first hfirst
    obtain ⟨steps, last, rfl, rfl, hsteps⟩ := ih hafter
    let step : Step μ := ⟨pair, outcome, first, after⟩
    exact ⟨step :: steps, last, rfl, rfl, .cons step hrun hsteps⟩

/-- What a chain finds is what its items are found to be. -/
theorem Chain.finds {c : Comparator μ} {files : FileTree} {first last : Machine μ}
    {steps : List (Step μ)} (hchain : c.Chain first steps last) (h : c.Settled files)
    (hdiff : c.config.diffDir = none) (hfirst : first.files = files) :
    List.Forall₂ (c.Finds files) (steps.map Step.item) (steps.map Step.outcome) := by
  induction hchain with
  | nil => exact .nil
  | cons step hstep _ ih =>
    obtain ⟨result, hresult⟩ := h.exists_result hdiff step.pair
    obtain ⟨rfl, hafter⟩ := hresult.eq_of_run hfirst hstep
    exact .cons ⟨step.pair, rfl, hresult⟩ (ih hafter)

section Runs

variable {c : Comparator μ} (hdiff : c.config.diffDir = none) {state : RunState μ}
  (h : c.Settled state.machine.files)

include hdiff h

/-- A run over files at rest goes through what they are. -/
theorem run_at_rest (hvalid : c.config.validateDirs state.machine.files = .ok ()) :
    c.run.run.run state = (c.runOver (forM
      (Walk.items state.machine.files c.config.referenceDir c.config.renderDir))).run.run state := by
  have hwalk := run_visit_at_rest
    (fun between : RunState μ => between.machine.files = state.machine.files)
    (look_at_rest state.machine.files)
    (fun item between hbetween => h.files_report hdiff hbetween item)
    c.config.referenceDir c.config.renderDir (rfl : (c.begun state).machine.files = _)
  rw [run, c.run_runOver_of_valid hvalid, c.run_runOver_of_valid hvalid, hwalk]

/-- What it meets are the first of them: all, unless one stops it. -/
theorem met_at_rest (hvalid : c.config.validateDirs state.machine.files = .ok ()) :
    c.met state <+: Walk.items state.machine.files c.config.referenceDir c.config.renderDir := by
  have hlook (between : RunState μ × List WalkItem)
      (hbetween : between.1.machine.files = state.machine.files) :
      ((Run.act Action.files : Run μ FileTree).unnoted).run.run between
        = (.ok state.machine.files, between) := by
    rw [← hbetween]
    exact Run.run_unnoted_files between.1 between.2
  have hmeet (item : WalkItem) (between : RunState μ × List WalkItem)
      (hbetween : between.1.machine.files = state.machine.files) :
      ((c.meet item).run.run between).2.1.machine.files = state.machine.files :=
    h.files_report hdiff hbetween item
  have hwalk := run_visit_at_rest
    (fun between : RunState μ × List WalkItem => between.1.machine.files = state.machine.files)
    hlook hmeet c.config.referenceDir c.config.renderDir
    (rfl : (c.begun state, []).1.machine.files = _)
  obtain ⟨front, hfront, hnotes⟩ := c.exists_notes_of_forM_meet
    (Walk.items state.machine.files c.config.referenceDir c.config.renderDir) (c.begun state) []
  rw [met, noted_of_valid hvalid, hwalk, hnotes]
  exact hfront

/-- A run returns and reports what its items are found to be. -/
theorem run_of_finds (hvalid : c.config.validateDirs state.machine.files = .ok ())
    (hsink : state.sink.NeverFails) {outcomes : List Outcome}
    (hfinds : List.Forall₂ (c.Finds state.machine.files)
      (Walk.items state.machine.files c.config.referenceDir c.config.renderDir) outcomes) :
    (c.run.run.run state).1 = .ok (Summary.tally outcomes) ∧
      (c.run.run.run state).2.sink
        = state.sink.add (Text.encode (reportText outcomes).toList) := by
  have hfirst : (c.opened state.machine).files = state.machine.files := rfl
  obtain ⟨steps, last, hitems, rfl, hsteps⟩ := exists_chain_of_finds hfirst hfinds
  rw [run_at_rest hdiff h hvalid, hitems, (Goes.through hsteps).run_runOver hsink hvalid]
  exact ⟨rfl, rfl⟩

/-- A run that succeeds has found each of its items to be something. -/
theorem exists_finds_of_run (hsink : state.sink.NeverFails) {summary : Summary}
    (hrun : (c.run.run.run state).1 = .ok summary) :
    c.config.validateDirs state.machine.files = .ok () ∧
      ∃ outcomes, List.Forall₂ (c.Finds state.machine.files)
        (Walk.items state.machine.files c.config.referenceDir c.config.renderDir) outcomes := by
  have hvalid := valid_of_run_ok hrun
  refine ⟨hvalid, ?_⟩
  rw [run_at_rest hdiff h hvalid] at hrun
  obtain ⟨steps, last, error?, hgoes⟩ := c.exists_goes
    (Walk.items state.machine.files c.config.referenceDir c.config.renderDir)
    (c.opened state.machine)
  rw [hgoes.run_runOver hsink hvalid] at hrun
  generalize Walk.items state.machine.files c.config.referenceDir c.config.renderDir = items at hgoes
  cases hgoes with
  | through hchain => exact ⟨_, hchain.finds h hdiff rfl⟩
  | stopped => cases hrun

end Runs

end Comparator

end RenderCheck
