import Mathlib.Data.List.Forall2
import RenderCheck.Proofs.Run.Effects

/-! # Runs side by side

    Two runs may differ in what their backends remember and in what they say.
    As long as neither is looked at, what counts are the files: if every pair is
    found to be alike by both comparators whenever the files are the same, then
    runs that begin with the same files meet the same items and end alike.

    * **Actions side by side**: `Action.Alike`, kept by doing one thing after
      the other.
    * **Backends and programs** that depend on the files only.
    * **Comparators side by side** (`Comparator.Beside`) and their runs
      (`Beside.exists_goes`). -/

namespace RenderCheck

variable {μ ν α β α' β' : Type}

/-! ## Actions side by side -/

/-- The same error, or values that belong together. -/
inductive Agree {ε : Type} (kin : α → β → Prop) : Except ε α → Except ε β → Prop where
  | error (error : ε) : Agree kin (.error error) (.error error)
  | ok {a : α} {b : β} : kin a b → Agree kin (.ok a) (.ok b)

/-- A result agrees with itself. -/
theorem Agree.refl {ε : Type} (result : Except ε α) : Agree Eq result result := by
  cases result with
  | error error => exact .error error
  | ok a => exact .ok rfl

namespace Action

/-- From machines with the same files both actions have results that agree, and
    leave the same files. -/
def Alike (kin : α → β → Prop) (x : Action μ α) (y : Action ν β) : Prop :=
  ∀ machine machine', machine.files = machine'.files →
    Agree kin (x.run.run machine).1 (y.run.run machine').1 ∧
      (x.run.run machine).2.files = (y.run.run machine').2.files

theorem alike_ofExcept {kin : α → β → Prop} {result : Except CompareError α}
    {result' : Except CompareError β} (h : Agree kin result result') :
    Alike kin (ofExcept result : Action μ α) (ofExcept result' : Action ν β) :=
  fun _ _ hfiles => ⟨h, hfiles⟩

theorem alike_pure {kin : α → β → Prop} {a : α} {b : β} (h : kin a b) :
    Alike kin (pure a : Action μ α) (pure b : Action ν β) :=
  alike_ofExcept (.ok h)

theorem alike_throw (kin : α → β → Prop) (error : CompareError) :
    Alike kin (throw error : Action μ α) (throw error : Action ν β) :=
  alike_ofExcept (.error error)

theorem alike_files : Alike Eq (files : Action μ FileTree) (files : Action ν FileTree) :=
  fun _ _ hfiles => ⟨.ok hfiles, hfiles⟩

theorem alike_setFiles (files : FileTree) :
    Alike Eq (setFiles files : Action μ Unit) (setFiles files : Action ν Unit) :=
  fun _ _ _ => ⟨.ok rfl, rfl⟩

/-- It does not matter what is said. -/
theorem alike_emit (event event' : Trace.Event) :
    Alike Eq (emit event : Action μ Unit) (emit event' : Action ν Unit) :=
  fun _ _ hfiles => ⟨.ok rfl, hfiles⟩

/-- What goes on alike from actions that are alike is alike. -/
theorem Alike.bind {kin : α → β → Prop} {kin' : α' → β' → Prop} {x : Action μ α}
    {y : Action ν β} {f : α → Action μ α'} {g : β → Action ν β'} (h : Alike kin x y)
    (hf : ∀ a b, kin a b → Alike kin' (f a) (g b)) : Alike kin' (x >>= f) (y >>= g) := by
  intro machine machine' hfiles
  obtain ⟨hresult, hafter⟩ := h machine machine' hfiles
  rcases hx : x.run.run machine with ⟨result, after⟩
  rcases hy : y.run.run machine' with ⟨result', after'⟩
  rw [hx, hy] at hresult hafter
  -- after an error neither goes on, after values that belong together both do
  cases hresult with
  | error error =>
    rw [run_bind_of_error hx, run_bind_of_error hy]
    exact ⟨.error error, hafter⟩
  | ok hkin =>
    rw [run_bind_of_ok hx, run_bind_of_ok hy]
    exact hf _ _ hkin after after' hafter

/-- What goes on alike from the same value is alike. -/
theorem Alike.andThen {kin : α' → β' → Prop} {x : Action μ α} {y : Action ν α}
    {f : α → Action μ α'} {g : α → Action ν β'} (h : Alike Eq x y)
    (hf : ∀ a, Alike kin (f a) (g a)) : Alike kin (x >>= f) (y >>= g) := by
  refine h.bind ?_
  rintro a _ rfl
  exact hf a

theorem alike_ofFiles (wrap : IoError → CompareError) (compute : FileTree → Except IoError α) :
    Alike Eq (ofFiles wrap compute : Action μ α) (ofFiles wrap compute : Action ν α) := by
  refine alike_files.andThen fun files => ?_
  cases compute files with
  | ok result => exact alike_pure rfl
  | error error => exact alike_throw Eq (wrap error)

theorem alike_changeFiles (wrap : IoError → CompareError)
    (change : FileTree → Except IoError FileTree) :
    Alike Eq (changeFiles wrap change : Action μ Unit) (changeFiles wrap change : Action ν Unit) :=
  (alike_ofFiles wrap change).andThen alike_setFiles

/-- A program sees the files and nothing else of the machine. -/
theorem alike_launch (toolbox : Tool.Toolbox) (launch : Tool.Launch) :
    Alike Eq (Backend.launch toolbox launch : Action μ Tool.Finished)
      (Backend.launch toolbox launch : Action ν Tool.Finished) := by
  refine (alike_ofFiles _ _).andThen fun _ => alike_files.andThen fun files => ?_
  exact (alike_setFiles _).andThen fun _ => alike_pure rfl

end Action

/-! ## Backends and programs -/

/-- What measuring finds, and what it does to the files, is decided by the pair
    and by the files as they are. -/
def Backend.MeasuresByFiles (b : Backend μ) : Prop :=
  ∀ reference generated,
    Action.Alike Eq (b.measure reference generated) (b.measure reference generated)

/-- Drawing is decided by the pair, the place for the picture, and the files as
    they are. -/
def Backend.DrawsByFiles (b : Backend μ) : Prop :=
  ∀ reference generated output,
    Action.Alike Eq (b.renderDiff reference generated output) (b.renderDiff reference generated output)

namespace Backend

theorem native_measuresByFiles : (native : Backend μ).MeasuresByFiles := by
  intro reference generated
  refine Action.alike_files.andThen fun files => ?_
  refine (Action.alike_ofExcept (.refl (loadPair reference generated files))).andThen fun images => ?_
  exact (Action.alike_emit _ _).andThen fun _ => Action.alike_pure rfl

theorem native_drawsByFiles : (native : Backend μ).DrawsByFiles := by
  intro reference generated output
  refine Action.alike_files.andThen fun files => ?_
  refine (Action.alike_ofExcept (.refl (loadPair reference generated files))).andThen fun images => ?_
  exact (Action.alike_emit _ _).andThen fun _ => Action.alike_changeFiles _ _

theorem externalTools_measuresByFiles (toolbox : Tool.Toolbox) (programs : Programs) :
    (externalTools toolbox programs : Backend μ).MeasuresByFiles := by
  intro reference generated
  refine (Action.alike_emit _ _).andThen fun _ => ?_
  refine (Action.alike_launch toolbox _).andThen fun finished => ?_
  exact Action.alike_ofExcept (.refl _)

theorem externalTools_drawsByFiles (toolbox : Tool.Toolbox) (programs : Programs) :
    (externalTools toolbox programs : Backend μ).DrawsByFiles := by
  intro reference generated output
  refine (Action.alike_emit _ _).andThen fun _ => ?_
  refine (Action.alike_ofFiles _ _).andThen fun _ => (Action.alike_ofFiles _ _).andThen fun _ => ?_
  refine Action.alike_files.andThen fun files => ?_
  exact (Action.alike_setFiles _).andThen fun _ => Action.alike_ofExcept (.refl _)

/-- A script answers by the reference alone. -/
theorem scripted_measuresByFiles (script : Script) : (scripted script).MeasuresByFiles := by
  intro reference generated
  have hnote : Action.Alike Eq (noteCall (.measure reference generated))
      (noteCall (.measure reference generated)) := fun _ _ hfiles => ⟨.ok rfl, hfiles⟩
  refine hnote.andThen fun _ => ?_
  cases script.metrics.lookup reference.text with
  | some value => exact Action.alike_pure rfl
  | none => exact Action.alike_throw Eq _

/-- The backend that a configuration names sees the files only. -/
theorem backendOf_measuresByFiles (config : Config) (toolbox : Tool.Toolbox) :
    (Comparator.backendOf config toolbox : Backend μ).MeasuresByFiles := by
  unfold Comparator.backendOf
  cases config.backend with
  | imageMagick => exact externalTools_measuresByFiles toolbox config.programs
  | native => exact native_measuresByFiles

theorem backendOf_drawsByFiles (config : Config) (toolbox : Tool.Toolbox) :
    (Comparator.backendOf config toolbox : Backend μ).DrawsByFiles := by
  unfold Comparator.backendOf
  cases config.backend with
  | imageMagick => exact externalTools_drawsByFiles toolbox config.programs
  | native => exact native_drawsByFiles

end Backend

theorem TextDiffer.alike_external (toolbox : Tool.Toolbox) (program : String)
    (reference generated : Path) :
    Action.Alike Eq (external toolbox program reference generated : Action μ (Option String))
      (external toolbox program reference generated : Action ν (Option String)) := by
  refine (Action.alike_emit _ _).andThen fun _ => ?_
  exact (Action.alike_launch toolbox _).andThen fun finished => Action.alike_ofExcept (.refl _)

/-! ## Comparators side by side -/

namespace Comparator

/-- Two comparators of the same trees find every pair to be alike. -/
structure Beside (c : Comparator μ) (c' : Comparator ν) (kin : Outcome → Outcome → Prop) :
    Prop where
  /-- They compare the same trees. -/
  roots : c'.config.referenceDir = c.config.referenceDir ∧
    c'.config.renderDir = c.config.renderDir
  /-- They put diff images into the same directory. -/
  diffDir : c'.config.diffDir = c.config.diffDir
  /-- What one finds of a pair belongs to what the other finds. -/
  compare : ∀ pair, Action.Alike kin (c.comparePair pair) (c'.comparePair pair)

/-- Comparing texts depends on the files only. -/
def TextsByFiles (c : Comparator μ) : Prop :=
  ∀ differ, c.textDiffer = some differ → ∀ reference generated,
    Action.Alike Eq (differ reference generated) (differ reference generated)

/-- A program that compares texts sees the files only. -/
theorem textsByFiles_withBackend {config : Config} {toolbox : Tool.Toolbox} {backend : Backend μ}
    {c : Comparator μ} (h : withBackend config toolbox backend = .ok c) : c.TextsByFiles := by
  obtain ⟨-, -, hdiffer⟩ := withBackend_eq_ok h
  intro differ hsome reference generated
  rw [hdiffer] at hsome
  split at hsome
  · cases hsome
    exact TextDiffer.alike_external toolbox _ reference generated
  · cases hsome

section Pairs

variable {c c' : Comparator μ} {kin : Outcome → Outcome → Prop}

/-- Writing a diff image depends on the files only, if drawing does. -/
theorem alike_writeDiffImage (hdraws : c.backend.DrawsByFiles) (pair : FilePair) (dir : Path) :
    Action.Alike Eq (c.writeDiffImage pair dir) (c.writeDiffImage pair dir) := by
  have hover (output : Path) :
      Action.Alike Eq (c.drawOver pair output) (c.drawOver pair output) := by
    have hdraw := (hdraws pair.reference pair.generated output).andThen
      fun _ => (Action.alike_pure rfl : Action.Alike Eq (pure output) (pure output))
    refine Action.alike_files.andThen fun files => ?_
    split
    · exact (Action.alike_emit _ _).andThen fun _ => hdraw
    · exact hdraw
  refine Action.alike_files.andThen fun files => ?_
  split
  · refine Action.alike_files.andThen fun files => ?_
    refine (Action.alike_setFiles _).andThen fun _ => ?_
    split
    · exact (Action.alike_throw Eq _).andThen fun _ => hover _
    · exact hover _
  · exact hover _

/-- Two comparators with the same names for images and the same way to compare
    texts find every pair to be alike, if they find every image to be. -/
theorem alike_comparePair (hpattern : c'.imagePattern = c.imagePattern)
    (hdiffer : c'.textDiffer = c.textDiffer)
    (htexts : c.TextsByFiles)
    (hkin : ∀ outcome : Outcome, outcome.isMismatch = false → kin outcome outcome) (pair : FilePair)
    (himages : Action.Alike kin (c.compareImages pair) (c'.compareImages pair)) :
    Action.Alike kin (c.comparePair pair) (c'.comparePair pair) := by
  have hcompare : Action.Alike kin (c.compareTexts pair) (c'.compareTexts pair) := by
    unfold compareTexts
    rw [hdiffer]
    cases htext : c.textDiffer with
    | none => exact Action.alike_pure (hkin _ rfl)
    | some differ =>
      dsimp only
      split
      · exact Action.alike_pure (hkin _ rfl)
      · refine (htexts differ htext _ _).andThen fun output? => ?_
        cases output? <;> exact Action.alike_pure (hkin _ rfl)
  -- which comparison it is depends on the name and the pattern alone
  have hselects : c'.isImage pair = c.isImage pair := by
    unfold isImage
    rw [hpattern]
  unfold comparePair
  refine Action.alike_files.andThen fun files => ?_
  rw [hselects]
  split
  · exact (Action.alike_emit _ _).andThen fun _ => Action.alike_pure (hkin _ rfl)
  split
  · exact himages
  · exact hcompare

end Pairs

/-! ## Runs side by side -/

/-- Two comparisons of the same pair, with outcomes that belong together. -/
def Matched (kin : Outcome → Outcome → Prop) (step : Step μ) (step' : Step ν) : Prop :=
  step'.pair = step.pair ∧ kin step.outcome step'.outcome

section Runs

variable {c : Comparator μ} {c' : Comparator ν} {kin : Outcome → Outcome → Prop}

/-- The directories are let through for both or for neither. -/
theorem Beside.validateDirs_eq (h : c.Beside c' kin) (files : FileTree) :
    c'.config.validateDirs files = c.config.validateDirs files := by
  unfold Config.validateDirs
  rw [h.roots.1, h.diffDir]

/-- What one chain compares is compared in a chain by the other. -/
theorem Beside.chain (h : c.Beside c' kin) {first last : Machine μ} {first' : Machine ν}
    {steps : List (Step μ)} (hfiles : first.files = first'.files) (hchain : c.Chain first steps last) :
    ∃ steps' last', c'.Chain first' steps' last' ∧ steps'.map Step.item = steps.map Step.item ∧
      List.Forall₂ (Matched kin) steps steps' ∧ last.files = last'.files := by
  induction hchain generalizing first' with
  | nil machine => exact ⟨[], first', .nil first', rfl, .nil, hfiles⟩
  | cons step hstep _ ih =>
    -- the machines need not be the same, but their files are, and stay so
    obtain ⟨hresult, hafter⟩ := h.compare step.pair step.before first' hfiles
    rcases hpair : (c'.comparePair step.pair).run.run first' with ⟨result', after'⟩
    rw [hstep, hpair] at hresult hafter
    cases hresult with
    | @ok _ outcome' hkin =>
      obtain ⟨steps', last', hchain', hitems, hmatched, hlast⟩ := ih hafter
      let step' : Step ν := ⟨step.pair, outcome', first', after'⟩
      refine ⟨step' :: steps', last', .cons step' hpair hchain', ?_, .cons ⟨rfl, hkin⟩ hmatched, hlast⟩
      rw [List.map_cons, List.map_cons, hitems]
      rfl

/-- An item that stops one run stops the other, with the same error. -/
theorem Beside.stops (h : c.Beside c' kin) {machine left : Machine μ} {machine' : Machine ν}
    {item : WalkItem} {error : CompareError} (hfiles : machine.files = machine'.files)
    (hstops : c.Stops machine item error left) :
    ∃ left', c'.Stops machine' item error left' ∧ left.files = left'.files := by
  cases hstops with
  | walk => exact ⟨machine', .walk error, hfiles⟩
  | @comparison pair _ _ hrun =>
    obtain ⟨hresult, hafter⟩ := h.compare pair machine machine' hfiles
    rcases hpair : (c'.comparePair pair).run.run machine' with ⟨result', left'⟩
    rw [hrun, hpair] at hresult hafter
    cases hresult with
    | error => exact ⟨left', .comparison hpair, hafter⟩

/-- Both go through the same items alike. -/
theorem Beside.goes (h : c.Beside c' kin) {first last : Machine μ} {first' : Machine ν}
    (hfiles : first.files = first'.files) {items : List WalkItem} {steps : List (Step μ)}
    {error? : Option CompareError} (hgoes : c.Goes first items steps last error?) :
    ∃ steps' last', c'.Goes first' items steps' last' error? ∧
      List.Forall₂ (Matched kin) steps steps' ∧ last.files = last'.files := by
  cases hgoes with
  | through hchain =>
    obtain ⟨steps', last', hchain', hitems, hmatched, hlast⟩ := h.chain hfiles hchain
    rw [← hitems]
    exact ⟨steps', last', .through hchain', hmatched, hlast⟩
  | stopped rest hchain hstops =>
    obtain ⟨steps', between', hchain', hitems, hmatched, hbetween⟩ := h.chain hfiles hchain
    obtain ⟨left', hstops', hleft⟩ := h.stops hbetween hstops
    rw [← hitems]
    exact ⟨steps', left', .stopped rest hchain' hstops', hmatched, hleft⟩

/-- Two runs are alike where they are now. -/
structure InStep (ran : Except CompareError α × RunState μ)
    (ran' : Except CompareError α × RunState ν) : Prop where
  /-- They have the same result. -/
  result : ran'.1 = ran.1
  /-- The files are the same. -/
  files : ran.2.machine.files = ran'.2.machine.files
  /-- The sinks never fail. -/
  sinks : ran.2.sink.NeverFails ∧ ran'.2.sink.NeverFails

/-- Going through the same items and being alike is kept by doing one thing after
    the other. -/
def inStep (c : Comparator μ) (c' : Comparator ν) : Simulation (Run μ) (Run ν) where
  Related x y := ∀ state state', state.machine.files = state'.machine.files →
    state.sink.NeverFails → state'.sink.NeverFails →
    InStep (x.run.run state) (y.run.run state') ∧
    ∃ items, c.CameBy state items (x.run.run state) ∧ c'.CameBy state' items (y.run.run state')
  pure _ := fun _ _ hfiles hsink hsink' => ⟨⟨rfl, hfiles, hsink, hsink'⟩, [], rfl, rfl⟩
  bind := by
    intro α β x y f g hx hf state state' hfiles hsink hsink'
    obtain ⟨halike, items, hitems, hitems'⟩ := hx state state' hfiles hsink hsink'
    rcases hrun : x.run.run state with ⟨result, between⟩
    rcases hrun' : y.run.run state' with ⟨result', between'⟩
    rw [hrun] at halike hitems
    rw [hrun'] at halike hitems'
    obtain ⟨hresult, hbetween, hsinks⟩ := halike
    cases hresult
    -- after a failure the items so far are all, else those of the second part follow
    cases result with
    | error error =>
      rw [run_bind_of_error hrun, run_bind_of_error hrun']
      exact ⟨⟨rfl, hbetween, hsinks⟩, items, hitems, hitems'⟩
    | ok a =>
      obtain ⟨hrest, more, hmore, hmore'⟩ := hf a between between' hbetween hsinks.1 hsinks.2
      rw [run_bind_of_ok hrun, run_bind_of_ok hrun']
      exact ⟨hrest, items ++ more, hitems.append hmore, hitems'.append hmore'⟩

/-- Reports of an item are in step. -/
theorem Beside.inStep_report (h : c.Beside c' kin) (item : WalkItem) :
    (inStep c c').Related (c.report item) (c'.report item) := by
  intro state state' hfiles hsink hsink'
  refine ⟨?_, [item], c.cameBy_report state item, c'.cameBy_report state' item⟩
  have hstopped {error : CompareError} {left : Machine μ}
      (hstops : c.Stops state.machine item error left) :
      InStep ((c.report item).run.run state) ((c'.report item).run.run state') := by
    obtain ⟨left', hstops', hleft⟩ := h.stops hfiles hstops
    rw [c.run_report_of_stops state hstops, c'.run_report_of_stops state' hstops']
    exact ⟨rfl, hleft, hsink, hsink'⟩
  cases item with
  | error error => exact hstopped (.walk error)
  | ok pair =>
    obtain ⟨hresult, hafter⟩ := h.compare pair state.machine state'.machine hfiles
    rcases hpair : (c.comparePair pair).run.run state.machine with ⟨result, after⟩
    rcases hpair' : (c'.comparePair pair).run.run state'.machine with ⟨result', after'⟩
    rw [hpair, hpair'] at hresult hafter
    cases hresult with
    | error => exact hstopped (.comparison hpair)
    -- the lines may differ, and the sinks take either
    | ok =>
      rw [c.run_report_of_ok hsink hpair, c'.run_report_of_ok hsink' hpair']
      exact ⟨rfl, hafter, hsink.add _, hsink'.add _⟩

/-- Walks of the same trees are in step. -/
theorem Beside.inStep_visit (h : c.Beside c' kin) (referenceRoot renderRoot : Path) :
    (inStep c c').Related
      (Walk.visit (Run.act Action.files) c.report referenceRoot renderRoot)
      (Walk.visit (Run.act Action.files) c'.report referenceRoot renderRoot) := by
  refine (inStep c c').visit_all (fun hf => ?_) h.inStep_report referenceRoot renderRoot
  intro state state' hfiles hsink hsink'
  have hlook : (Run.act Action.files : Run μ FileTree).run.run state
      = (.ok state.machine.files, state) := rfl
  have hlook' : (Run.act Action.files : Run ν FileTree).run.run state'
      = (.ok state.machine.files, state') := by
    rw [hfiles]
    rfl
  rw [run_bind_of_ok hlook, run_bind_of_ok hlook']
  exact hf state.machine.files state state' hfiles hsink hsink'

/-- Runs that begin with the same files go through the same items, one
    comparison of one beside one of the other, and end alike. -/
theorem Beside.exists_goes (h : c.Beside c' kin) {state : RunState μ} {state' : RunState ν}
    (hfiles : state.machine.files = state'.machine.files) (hsink : state.sink.NeverFails)
    (hsink' : state'.sink.NeverFails)
    (hvalid : c.config.validateDirs state.machine.files = .ok ()) :
    ∃ items steps steps' last last' error?,
      c.Goes (c.opened state.machine) items steps last error? ∧
      c'.Goes (c'.opened state'.machine) items steps' last' error? ∧
      List.Forall₂ (Matched kin) steps steps' ∧ last.files = last'.files ∧
      c.run.run.run state = ending state steps last error? ∧
      c'.run.run.run state' = ending state' steps' last' error? := by
  have hvalid' : c'.config.validateDirs state'.machine.files = .ok () := by
    rw [h.validateDirs_eq, ← hfiles, hvalid]
  -- the walks meet the same items, and these are gone through alike
  obtain ⟨-, items, hitems, hitems'⟩ := h.inStep_visit c.config.referenceDir c.config.renderDir
    (c.begun state) (c'.begun state') hfiles hsink hsink'
  rw [← h.roots.1, ← h.roots.2] at hitems'
  obtain ⟨steps, last, error?, hgoes⟩ := c.exists_goes items (c.opened state.machine)
  have hopened : (c.opened state.machine).files = (c'.opened state'.machine).files := hfiles
  obtain ⟨steps', last', hgoes', hmatched, hlast⟩ := h.goes hopened hgoes
  refine ⟨items, steps, steps', last, last', error?, hgoes, hgoes', hmatched, hlast, ?_, ?_⟩
  · rw [run_eq_runOver hitems hvalid, hgoes.run_runOver hsink hvalid]
  · rw [run_eq_runOver hitems' hvalid', hgoes'.run_runOver hsink' hvalid']

/-- Runs whose pairs are found to be the same, and that begin with the same files
    and write to the same sink, have the same result, write the same and leave
    the same files. -/
theorem Beside.run_same (h : c.Beside c' Eq) {state : RunState μ} {state' : RunState ν}
    (hfiles : state.machine.files = state'.machine.files) (hsinks : state.sink = state'.sink)
    (hsink : state.sink.NeverFails) :
    (c'.run.run.run state').1 = (c.run.run.run state).1 ∧
      (c'.run.run.run state').2.sink = (c.run.run.run state).2.sink ∧
      (c'.run.run.run state').2.machine.files = (c.run.run.run state).2.machine.files := by
  have hsink' : state'.sink.NeverFails := hsinks ▸ hsink
  cases hvalid : c.config.validateDirs state.machine.files with
  | error error =>
    have hvalid' : c'.config.validateDirs state'.machine.files = .error error := by
      rw [h.validateDirs_eq, ← hfiles, hvalid]
    have hrun : c.run.run.run state = (.error error, state) := c.run_runOver_of_invalid hvalid _
    have hrun' : c'.run.run.run state' = (.error error, state') :=
      c'.run_runOver_of_invalid hvalid' _
    rw [hrun, hrun']
    exact ⟨rfl, hsinks.symm, hfiles.symm⟩
  | ok _ =>
    obtain ⟨-, steps, steps', last, last', error?, -, -, hmatched, hlast, hrun, hrun'⟩ :=
      h.exists_goes hfiles hsink hsink' hvalid
    -- the machines may differ, but the steps find the same one by one
    have houtcomes : steps'.map Step.outcome = steps.map Step.outcome := by
      clear hrun hrun'
      induction hmatched with
      | nil => rfl
      | cons hstep _ ih => rw [List.map_cons, List.map_cons, ih, hstep.2]
    rw [hrun, hrun']
    unfold ending
    rw [houtcomes, hsinks]
    cases error? <;> exact ⟨rfl, rfl, hlast.symm⟩

end Runs

/-- A comparator whose backend and whose way to compare texts depend on the
    files only finds the same of the same files. -/
theorem beside_self {c : Comparator μ} (hmeasures : c.backend.MeasuresByFiles)
    (hdraws : c.backend.DrawsByFiles) (htexts : c.TextsByFiles) : c.Beside c Eq := by
  refine ⟨⟨rfl, rfl⟩, rfl, fun pair => ?_⟩
  refine alike_comparePair rfl rfl htexts (fun _ _ => rfl) pair ?_
  unfold compareImages
  refine (hmeasures pair.reference pair.generated).andThen fun metric => ?_
  refine (Action.alike_emit _ _).andThen fun _ => ?_
  split
  · exact Action.alike_pure rfl
  cases c.config.diffDir with
  | none => exact Action.alike_pure rfl
  | some dir =>
    exact (alike_writeDiffImage hdraws pair dir).andThen fun output => Action.alike_pure rfl

end Comparator

end RenderCheck
