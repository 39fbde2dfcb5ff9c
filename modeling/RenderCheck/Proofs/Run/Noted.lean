import RenderCheck.Proofs.Run.Chain
import RenderCheck.Proofs.Walk.Simulation

/-! # What a run meets

    A run forgets what it came by; it keeps the sum of its comparisons and what
    they wrote. The same walk done by a visitor that notes something down about
    every item gives the items of the run and its history, and nothing else
    about the run is different.

    * **Walks that note**: `Noted` and `noted`, with what a run meets (`met`)
      and its comparisons (`history`).
    * **Coming by items** (`CameBy`): where a run gets by going through them.
    * **The walk** comes by what it meets, though it looks at files that change
      (`run_eq_runOver_met`). -/

namespace RenderCheck

variable {μ ν α : Type}

/-! ## Walks that note -/

/-- A step of a run that notes something down. -/
abbrev Noted (μ ν α : Type) := ExceptT CompareError (StateM (RunState μ × List ν)) α

/-- A step of a run, with nothing to note. -/
def Run.unnoted (x : Run μ α) : Noted μ ν α :=
  ExceptT.mk fun (state, notes) =>
    ((x.run.run state).1, (x.run.run state).2, notes)

/-- Looking at the files notes nothing. -/
@[simp] theorem Run.run_unnoted_files (state : RunState μ) (notes : List ν) :
    ((Run.act Action.files : Run μ FileTree).unnoted).run.run (state, notes)
      = (.ok state.machine.files, (state, notes)) :=
  rfl

namespace Comparator

/-- Compares and reports an item, and notes down what there is to note about
    it. -/
def noting (c : Comparator μ) (notes : Machine μ → WalkItem → List ν) (item : WalkItem) :
    Noted μ ν Unit :=
  ExceptT.mk fun (state, earlier) =>
    (((c.report item).run.run state).1, ((c.report item).run.run state).2,
      earlier ++ notes state.machine item)

/-- What a visitor notes on the walk of a run; one whose directories are refused
    does not walk. -/
def noted (c : Comparator μ) (visitor : WalkItem → Noted μ ν Unit) (state : RunState μ) : List ν :=
  match c.config.validateDirs state.machine.files with
  | .error _ => []
  | .ok () =>
    ((Walk.visit (Run.act Action.files).unnoted visitor c.config.referenceDir
      c.config.renderDir).run.run (c.begun state, [])).2.2

/-- Compares and reports an item, and notes the item down. -/
def meet (c : Comparator μ) : WalkItem → Noted μ WalkItem Unit :=
  c.noting fun _ item => [item]

/-- The items of a run in order, with the one that stopped it if one did. -/
def met (c : Comparator μ) (state : RunState μ) : List WalkItem :=
  c.noted c.meet state

/-- The step that comparing an item is, if it succeeds. -/
def stepOf? (c : Comparator μ) (machine : Machine μ) : WalkItem → Option (Step μ)
  | .error _ => none
  | .ok pair =>
    match (c.comparePair pair).run.run machine with
    | (.ok outcome, after) => some ⟨pair, outcome, machine, after⟩
    | (.error _, _) => none

/-- Compares and reports an item, and notes the step down. -/
def note (c : Comparator μ) : WalkItem → Noted μ (Step μ) Unit :=
  c.noting fun machine item => (c.stepOf? machine item).toList

/-- The comparisons of a run in order. -/
def history (c : Comparator μ) (state : RunState μ) : List (Step μ) :=
  c.noted c.note state

/-! ## Coming by items -/

/-- Where a run is now it has come from a state by going through some items. -/
def CameBy (c : Comparator μ) (state : RunState μ) (items : List WalkItem)
    (ran : Except CompareError α × RunState μ) : Prop :=
  (forM items c.report : Run μ Unit).run.run state = (ran.1.map fun _ => (), ran.2)

/-- What has come by some items and goes on by others has come by both. -/
theorem CameBy.append {c : Comparator μ} {β : Type} {state between : RunState μ}
    {items more : List WalkItem} {a : α} {ran : Except CompareError β × RunState μ}
    (h : c.CameBy state items ((.ok a : Except CompareError α), between))
    (hmore : c.CameBy between more ran) : c.CameBy state (items ++ more) ran := by
  have hitems : (forM items c.report : Run μ Unit).run.run state = (.ok (), between) := h
  unfold CameBy
  rw [List.forM_append, run_bind_of_ok hitems]
  exact hmore

/-- A report has gone through its item. -/
theorem cameBy_report (c : Comparator μ) (state : RunState μ) (item : WalkItem) :
    c.CameBy state [item] ((c.report item).run.run state) := by
  unfold CameBy
  rw [List.forM_cons, List.forM_nil]
  rcases hreport : (c.report item).run.run state with ⟨result, after⟩
  cases result with
  | error error => exact run_bind_of_error hreport _
  | ok _ => exact run_bind_of_ok hreport _

/-- A run whose walk has gone through some items is a run over these. -/
theorem run_eq_runOver {c : Comparator μ} {state : RunState μ} {items : List WalkItem}
    (hitems : c.CameBy (c.begun state) items ((Walk.visit (Run.act Action.files) c.report
      c.config.referenceDir c.config.renderDir).run.run (c.begun state)))
    (hvalid : c.config.validateDirs state.machine.files = .ok ()) :
    c.run.run.run state = (c.runOver (forM items)).run.run state := by
  rw [c.run_runOver_of_valid hvalid, hitems, run, c.run_runOver_of_valid hvalid]
  congr 1
  rcases (Walk.visit (Run.act Action.files) c.report c.config.referenceDir
    c.config.renderDir).run.run (c.begun state) with ⟨_ | _, after⟩ <;> rfl

/-! ## The walk -/

/-- A computation that comes down to going through some items, and the same
    with these noted down. -/
def Meets (c : Comparator μ) (x : Run μ α) (y : Noted μ WalkItem α) : Prop :=
  ∀ state, ∃ items, c.CameBy state items (x.run.run state) ∧ ∀ earlier,
    y.run.run (state, earlier) = ((x.run.run state).1, (x.run.run state).2, earlier ++ items)

/-- Meeting items is kept by doing one thing after the other. -/
def meeting (c : Comparator μ) : Simulation (Run μ) (Noted μ WalkItem) where
  Related x y := c.Meets x y
  pure a := fun state => ⟨[], rfl, fun earlier => by rw [List.append_nil]; rfl⟩
  bind := by
    intro α β x y f g hx hf state
    obtain ⟨items, hitems, hnotes⟩ := hx state
    rcases hrun : x.run.run state with ⟨result, between⟩
    rw [hrun] at hitems hnotes
    -- after a failure the items so far are all, else those of the second part follow
    cases result with
    | error error =>
      rw [run_bind_of_error hrun]
      exact ⟨items, hitems, fun earlier => run_bind_of_error (hnotes earlier) g⟩
    | ok a =>
      obtain ⟨more, hmore, hnotes'⟩ := hf a between
      rw [run_bind_of_ok hrun]
      refine ⟨items ++ more, hitems.append hmore, fun earlier => ?_⟩
      rw [run_bind_of_ok (hnotes earlier), hnotes', List.append_assoc]

/-- A walk meets some items, though it looks at files that change. -/
theorem meets_visit (c : Comparator μ) (referenceRoot renderRoot : Path) :
    c.Meets (Walk.visit (Run.act Action.files) c.report referenceRoot renderRoot)
      (Walk.visit (Run.act Action.files).unnoted c.meet referenceRoot renderRoot) := by
  refine c.meeting.visit_all (fun hf state => ?_)
    (fun item state => ⟨[item], c.cameBy_report state item, fun _ => rfl⟩) referenceRoot renderRoot
  obtain ⟨items, hitems, hnotes⟩ := hf state.machine.files state
  have hlook : (Run.act Action.files : Run μ FileTree).run.run state
      = (.ok state.machine.files, state) := rfl
  rw [run_bind_of_ok hlook]
  refine ⟨items, hitems, fun earlier => ?_⟩
  rw [run_bind_of_ok (Run.run_unnoted_files state earlier)]
  exact hnotes earlier

/-- What is noted by a run whose directories are let through. -/
theorem noted_of_valid {c : Comparator μ} {state : RunState μ}
    (hvalid : c.config.validateDirs state.machine.files = .ok ())
    (visitor : WalkItem → Noted μ ν Unit) :
    c.noted visitor state = ((Walk.visit (Run.act Action.files).unnoted visitor
      c.config.referenceDir c.config.renderDir).run.run (c.begun state, [])).2.2 := by
  rw [noted, hvalid]

/-- A run is one over what it meets. -/
theorem run_eq_runOver_met {c : Comparator μ} {state : RunState μ}
    (hvalid : c.config.validateDirs state.machine.files = .ok ()) :
    c.run.run.run state = (c.runOver (forM (c.met state))).run.run state := by
  obtain ⟨items, hitems, hnotes⟩ :=
    c.meets_visit c.config.referenceDir c.config.renderDir (c.begun state)
  have hmet : c.met state = items := by
    rw [met, noted_of_valid hvalid]
    exact congrArg (fun ran => ran.2.2) (hnotes [])
  rw [hmet]
  exact run_eq_runOver hitems hvalid

end Comparator

end RenderCheck
