import RenderCheck.Backend.Scripted
import RenderCheck.Proofs.Run.Effects

/-! # What a run asks of others

    A run has images measured and drawn by its backend, and texts compared by a
    program. Watching it notes each such request down before it is done, and
    changes nothing else about the run. What is noted is decided item by item,
    in the order of the walk (`Asks`), and ends with the first error
    (`AsksAlong`).

    * **Watching** actions, backends and comparators.
    * **One item**: what is asked for it, by one rule for each case.
    * **Whole runs** ask for what their items ask for
      (`run_asks_along`). -/

namespace RenderCheck

variable {μ α β : Type}

/-! ## Watching -/

/-- Something that a comparison has others do. -/
inductive Request where
  /-- The backend measures a pair. -/
  | measure (reference generated : Path)
  /-- The backend draws the difference of a pair. -/
  | renderDiff (reference generated output : Path)
  /-- The texts of a pair are compared. -/
  | compareTexts (reference generated : Path)
  deriving DecidableEq

/-- The machine with requests noted beside what its backend remembers. -/
def Machine.watched (machine : Machine μ) (requests : List Request) :
    Machine (μ × List Request) where
  files := machine.files
  memory := (machine.memory, requests)
  records := machine.records
  span := machine.span

/-- The machine without the notes. -/
def Machine.unwatched (machine : Machine (μ × List Request)) : Machine μ where
  files := machine.files
  memory := machine.memory.1
  records := machine.records
  span := machine.span

/-- The state with requests noted. -/
def RunState.watched (state : RunState μ) (requests : List Request) :
    RunState (μ × List Request) where
  machine := state.machine.watched requests
  sink := state.sink
  summary := state.summary

/-- Notes the request and does the action. -/
def Action.watched (request : Request) (action : Action μ α) : Action (μ × List Request) α :=
  ExceptT.mk fun machine =>
    let (result, after) := action.run.run machine.unwatched
    (result, after.watched (machine.memory.2 ++ [request]))

/-- The backend with every request to it noted. -/
def Backend.watched (b : Backend μ) : Backend (μ × List Request) where
  name := b.name
  measure reference generated := (b.measure reference generated).watched (.measure reference generated)
  renderDiff reference generated output :=
    (b.renderDiff reference generated output).watched (.renderDiff reference generated output)

/-- The comparator with every request of it noted. -/
def Comparator.watched (c : Comparator μ) : Comparator (μ × List Request) where
  config := c.config
  backend := c.backend.watched
  imagePattern := c.imagePattern
  textDiffer := c.textDiffer.map fun differ reference generated =>
    (differ reference generated).watched (.compareTexts reference generated)

/-- From this machine both actions do the same, and the second one notes some
    requests. -/
def Action.Notes (x : Action μ α) (y : Action (μ × List Request) α) (machine : Machine μ)
    (requests : List Request) : Prop :=
  ∀ earlier, y.run.run (machine.watched earlier)
    = ((x.run.run machine).1, (x.run.run machine).2.watched (earlier ++ requests))

namespace Action

theorem notes_watched (request : Request) (action : Action μ α) (machine : Machine μ) :
    Notes action (action.watched request) machine [request] :=
  fun _ => rfl

theorem notes_pure (a : α) (machine : Machine μ) :
    Notes (pure a) (pure a) machine [] := by
  intro earlier
  rw [List.append_nil]
  rfl

theorem notes_throw (error : CompareError) (machine : Machine μ) :
    Notes (throw error : Action μ α) (throw error) machine [] := by
  intro earlier
  rw [List.append_nil]
  rfl

section Bind

variable {x : Action μ α} {y : Action (μ × List Request) α} {f : α → Action μ β}
  {g : α → Action (μ × List Request) β} {machine after : Machine μ}
  {first second : List Request}

/-- What goes on notes its requests after those before it. -/
theorem Notes.bind (h : Notes x y machine first) {a : α}
    (hx : x.run.run machine = (.ok a, after)) (hf : Notes (f a) (g a) after second) :
    Notes (x >>= f) (y >>= g) machine (first ++ second) := by
  intro earlier
  have hy := h earlier
  rw [hx] at hy
  rw [run_bind_of_ok hx, run_bind_of_ok hy, hf, List.append_assoc]

/-- A failure is the last to note anything. -/
theorem Notes.bind_error (h : Notes x y machine first) {error : CompareError}
    (hx : x.run.run machine = (.error error, after)) :
    Notes (x >>= f) (y >>= g) machine first := by
  intro earlier
  have hy := h earlier
  rw [hx] at hy
  rw [run_bind_of_error hx, run_bind_of_error hy]

/-- An action that is done either way and notes nothing goes before. -/
theorem Notes.after_silent {a : α} (hx : x.run.run machine = (.ok a, after))
    (hy : ∀ earlier, y.run.run (machine.watched earlier) = (.ok a, after.watched earlier))
    (hf : Notes (f a) (g a) after second) : Notes (x >>= f) (y >>= g) machine second := by
  intro earlier
  rw [run_bind_of_ok hx, run_bind_of_ok (hy earlier), hf]

end Bind

end Action

namespace Comparator

/-! ## One item -/

/-- The pair's difference is to be drawn into a file: it was measured above the
    threshold, and there is a directory for diff images or can be. -/
def DrawsInto (c : Comparator μ) (machine : Machine μ) (pair : FilePair) (output : Path) : Prop :=
  ∃ metric measured dir,
    (c.backend.measure pair.reference pair.generated).run.run machine = (.ok metric, measured) ∧
    c.config.threshold.lt metric.value = true ∧ c.config.diffDir = some dir ∧
    (measured.files.pathExists dir = true ∨ (measured.files.makeDirs dir).1 = .ok ()) ∧
    output = dir.join ⟨pair.diffFileName⟩

/-- What is asked for an item that is met while the machine is in some state. -/
inductive Asks (c : Comparator μ) (machine : Machine μ) : WalkItem → List Request → Prop where
  /-- Nothing for an error of the walk. -/
  | unread (error : CompareError) : Asks c machine (.error error) []
  /-- Nothing without a counterpart. -/
  | missing {pair : FilePair} : machine.files.pathExists pair.generated = false →
      Asks c machine (.ok pair) []
  /-- An image is measured. -/
  | measured {pair : FilePair} : machine.files.pathExists pair.generated = true →
      c.isImage pair = true → (∀ output, ¬c.DrawsInto machine pair output) →
      Asks c machine (.ok pair) [.measure pair.reference pair.generated]
  /-- An image is measured and then drawn. -/
  | drawn {pair : FilePair} {output : Path} : machine.files.pathExists pair.generated = true →
      c.isImage pair = true → c.DrawsInto machine pair output →
      Asks c machine (.ok pair) [.measure pair.reference pair.generated,
        .renderDiff pair.reference pair.generated output]
  /-- Other files are compared as texts if that is asked for. -/
  | texts {pair : FilePair} : machine.files.pathExists pair.generated = true →
      c.isImage pair = false → c.textDiffer.isSome = true →
      pair.fileName? ≠ some "manifest.json" →
      Asks c machine (.ok pair) [.compareTexts pair.reference pair.generated]
  /-- Otherwise nothing is done about them. -/
  | skipped {pair : FilePair} : machine.files.pathExists pair.generated = true →
      c.isImage pair = false →
      c.textDiffer.isSome = false ∨ pair.fileName? = some "manifest.json" →
      Asks c machine (.ok pair) []

section Items

variable (c : Comparator μ) (pair : FilePair)

/-- Something is asked for every item. -/
theorem exists_asks (machine : Machine μ) (item : WalkItem) :
    ∃ requests, c.Asks machine item requests := by
  cases item with
  | error error => exact ⟨_, .unread error⟩
  | ok pair =>
    by_cases hthere : machine.files.pathExists pair.generated = true
    swap
    · exact ⟨_, .missing (Bool.eq_false_iff.2 hthere)⟩
    by_cases himage : c.isImage pair = true
    · by_cases hdraws : ∃ output, c.DrawsInto machine pair output
      · obtain ⟨output, houtput⟩ := hdraws
        exact ⟨_, .drawn hthere himage houtput⟩
      · exact ⟨_, .measured hthere himage (not_exists.1 hdraws)⟩
    · rw [Bool.not_eq_true] at himage
      by_cases hskip : c.textDiffer.isSome = false ∨ pair.fileName? = some "manifest.json"
      · exact ⟨_, .skipped hthere himage hskip⟩
      · rw [not_or, Bool.not_eq_false] at hskip
        exact ⟨_, .texts hthere himage hskip.1 hskip.2⟩

theorem notes_drawOver (output : Path) (machine : Machine μ) :
    Action.Notes (c.drawOver pair output) (c.watched.drawOver pair output) machine
      [.renderDiff pair.reference pair.generated output] := by
  have hdraw (machine : Machine μ) :
      Action.Notes (c.backend.renderDiff pair.reference pair.generated output >>= fun _ => pure output)
        (c.watched.backend.renderDiff pair.reference pair.generated output >>= fun _ => pure output)
        machine [.renderDiff pair.reference pair.generated output] := by
    have hnotes := Action.notes_watched (.renderDiff pair.reference pair.generated output)
      (c.backend.renderDiff pair.reference pair.generated output) machine
    rcases hrun : (c.backend.renderDiff pair.reference pair.generated output).run.run machine
      with ⟨result, after⟩
    cases result with
    | error error => exact hnotes.bind_error hrun
    | ok _ => exact hnotes.bind hrun (Action.notes_pure output after)
  unfold drawOver
  refine Action.Notes.after_silent (Action.run_files machine) (fun _ => rfl) ?_
  split
  · exact Action.Notes.after_silent (Action.run_emit _ machine) (fun _ => rfl) (hdraw _)
  · exact hdraw machine

/-- Drawing into a directory is asked for if it exists or can be made. -/
theorem notes_writeDiffImage {dir : Path} {machine : Machine μ}
    (h : machine.files.pathExists dir = true ∨ (machine.files.makeDirs dir).1 = .ok ()) :
    Action.Notes (c.writeDiffImage pair dir) (c.watched.writeDiffImage pair dir) machine
      [.renderDiff pair.reference pair.generated (dir.join ⟨pair.diffFileName⟩)] := by
  have hdraw (files : FileTree) := c.notes_drawOver pair (dir.join ⟨pair.diffFileName⟩)
    { machine with files := files }
  unfold writeDiffImage
  refine Action.Notes.after_silent (Action.run_files machine) (fun _ => rfl) ?_
  by_cases hthere : machine.files.pathExists dir = true
  · rw [hthere]
    exact hdraw machine.files
  · have hmade := h.resolve_left hthere
    rw [Bool.eq_false_iff.2 hthere]
    simp only [Bool.not_false, if_true]
    refine Action.Notes.after_silent (Action.run_files machine) (fun _ => rfl) ?_
    rcases hdirs : machine.files.makeDirs dir with ⟨made, files⟩
    rw [hdirs] at hmade
    cases hmade
    refine Action.Notes.after_silent (Action.run_setFiles _ machine) (fun _ => rfl) ?_
    exact hdraw files

/-- Otherwise it is not asked for. -/
theorem notes_writeDiffImage_nothing {dir : Path} {machine : Machine μ}
    (h : ¬(machine.files.pathExists dir = true ∨ (machine.files.makeDirs dir).1 = .ok ())) :
    Action.Notes (c.writeDiffImage pair dir) (c.watched.writeDiffImage pair dir) machine [] := by
  obtain ⟨hthere, hmade⟩ := not_or.1 h
  unfold writeDiffImage
  refine Action.Notes.after_silent (Action.run_files machine) (fun _ => rfl) ?_
  rw [Bool.eq_false_iff.2 hthere]
  simp only [Bool.not_false, if_true]
  refine Action.Notes.after_silent (Action.run_files machine) (fun _ => rfl) ?_
  rcases hdirs : machine.files.makeDirs dir with ⟨made, files⟩
  rw [hdirs] at hmade
  refine Action.Notes.after_silent (Action.run_setFiles _ machine) (fun _ => rfl) ?_
  cases made with
  | error error => exact Action.notes_throw _ _
  | ok _ => exact absurd rfl hmade

/-- An image that is to be drawn is measured first. -/
theorem notes_compareImages_of_draws {machine : Machine μ} {output : Path}
    (h : c.DrawsInto machine pair output) :
    Action.Notes (c.compareImages pair) (c.watched.compareImages pair) machine
      [.measure pair.reference pair.generated,
        .renderDiff pair.reference pair.generated output] := by
  obtain ⟨metric, measured, dir, hmeasure, hexceeds, hdir, hplace, rfl⟩ := h
  have hmeasures := Action.notes_watched (.measure pair.reference pair.generated)
    (c.backend.measure pair.reference pair.generated) machine
  -- what is told of the measurement changes no file
  let told : Machine μ := Action.said measured ⟨.debug, .comparator, "Measured image pair",
    [.path "reference" pair.relative, .number "mse" metric.value]⟩
  have htold : told.files.pathExists dir = true ∨ (told.files.makeDirs dir).1 = .ok () := hplace
  have hwrites := c.notes_writeDiffImage pair htold
  unfold compareImages
  refine hmeasures.bind hmeasure ?_
  refine Action.Notes.after_silent (Action.run_emit _ measured) (fun _ => rfl) ?_
  have hwatched : c.watched.config = c.config := rfl
  have habove : (!metric.exceeds c.config.threshold) = false := by
    rw [Metric.exceeds, hexceeds]
    rfl
  rw [hwatched, habove, hdir]
  simp only [Bool.false_eq_true, if_false]
  rcases hwrite : (c.writeDiffImage pair dir).run.run told with ⟨result, after⟩
  cases result with
  | error error => exact hwrites.bind_error hwrite
  | ok written => exact hwrites.bind hwrite (Action.notes_pure _ after)

/-- An image that is not to be drawn is only measured. -/
theorem notes_compareImages_of_not_draws {machine : Machine μ}
    (h : ∀ output, ¬c.DrawsInto machine pair output) :
    Action.Notes (c.compareImages pair) (c.watched.compareImages pair) machine
      [.measure pair.reference pair.generated] := by
  have hmeasures := Action.notes_watched (.measure pair.reference pair.generated)
    (c.backend.measure pair.reference pair.generated) machine
  have hwatched : c.watched.config = c.config := rfl
  unfold compareImages
  rcases hmeasure : (c.backend.measure pair.reference pair.generated).run.run machine
    with ⟨result, measured⟩
  cases result with
  | error error => exact hmeasures.bind_error hmeasure
  | ok metric =>
    -- whatever comes after measuring asks for nothing
    rw [← List.append_nil [_]]
    refine hmeasures.bind hmeasure ?_
    refine Action.Notes.after_silent (Action.run_emit _ measured) (fun _ => rfl) ?_
    rw [hwatched]
    by_cases habove : metric.exceeds c.config.threshold = true
    swap
    · rw [Bool.eq_false_iff.2 habove]
      exact Action.notes_pure _ _
    rw [habove]
    simp only [Bool.not_true, Bool.false_eq_true, if_false]
    cases hdir : c.config.diffDir with
    | none => exact Action.notes_pure _ _
    | some dir =>
      let told : Machine μ := Action.said measured ⟨.debug, .comparator, "Measured image pair",
        [.path "reference" pair.relative, .number "mse" metric.value]⟩
      have hplace : ¬(told.files.pathExists dir = true ∨ (told.files.makeDirs dir).1 = .ok ()) :=
        fun hplace => h _ ⟨metric, measured, dir, hmeasure, habove, hdir, hplace, rfl⟩
      have hwrites := c.notes_writeDiffImage_nothing pair hplace
      dsimp only
      rcases hwrite : (c.writeDiffImage pair dir).run.run told with ⟨result, after⟩
      cases result with
      | error error => exact hwrites.bind_error hwrite
      | ok written => exact hwrites.bind hwrite (Action.notes_pure _ after)

/-- What comparing texts asks for. -/
theorem notes_compareTexts (machine : Machine μ) :
    (c.textDiffer.isSome = true → pair.fileName? ≠ some "manifest.json" →
      Action.Notes (c.compareTexts pair) (c.watched.compareTexts pair) machine
        [.compareTexts pair.reference pair.generated]) ∧
    (c.textDiffer.isSome = false ∨ pair.fileName? = some "manifest.json" →
      Action.Notes (c.compareTexts pair) (c.watched.compareTexts pair) machine []) := by
  have hexcluded : pair.fileName?.any TextDiffer.isExcluded = true ↔
      pair.fileName? = some "manifest.json" := by
    cases pair.fileName? <;> simp [TextDiffer.isExcluded, TextDiffer.excludedNames]
  unfold compareTexts watched
  cases c.textDiffer with
  | none =>
    refine ⟨?_, fun _ => Action.notes_pure _ _⟩
    intro h
    cases h
  | some differ =>
    constructor
    · intro _ hname
      -- the one request is noted, and what follows it asks for nothing
      have hincluded : pair.fileName?.any TextDiffer.isExcluded = false :=
        Bool.eq_false_iff.2 fun h => hname (hexcluded.1 h)
      dsimp only [Option.map_some]
      rw [hincluded]
      have hnotes := Action.notes_watched (.compareTexts pair.reference pair.generated)
        (differ pair.reference pair.generated) machine
      rcases hdiffer : (differ pair.reference pair.generated).run.run machine with ⟨result, after⟩
      cases result with
      | error error => exact hnotes.bind_error hdiffer
      | ok output? =>
        refine hnotes.bind hdiffer ?_
        cases output? <;> exact Action.notes_pure _ after
    · intro hskip
      have hname := hexcluded.2 (hskip.resolve_left fun h => nomatch h)
      dsimp only [Option.map_some]
      rw [hname]
      exact Action.notes_pure _ _

/-- Comparing a pair asks for just what there is to ask for. -/
theorem Asks.notes {c : Comparator μ} {pair : FilePair} {machine : Machine μ}
    {requests : List Request} (h : c.Asks machine (.ok pair) requests) :
    Action.Notes (c.comparePair pair) (c.watched.comparePair pair) machine requests := by
  have hisImage : c.watched.isImage pair = c.isImage pair := rfl
  unfold comparePair
  refine Action.Notes.after_silent (Action.run_files machine) (fun _ => rfl) ?_
  rw [hisImage]
  cases h with
  | missing hthere =>
    rw [hthere]
    exact Action.Notes.after_silent (Action.run_emit _ machine) (fun _ => rfl)
      (Action.notes_pure _ _)
  | measured hthere himage hdraws =>
    rw [hthere, himage]
    exact c.notes_compareImages_of_not_draws pair hdraws
  | drawn hthere himage hdraws =>
    rw [hthere, himage]
    exact c.notes_compareImages_of_draws pair hdraws
  | texts hthere himage hdiffer hname =>
    rw [hthere, himage]
    exact (c.notes_compareTexts pair machine).1 hdiffer hname
  | skipped hthere himage hskip =>
    rw [hthere, himage]
    exact (c.notes_compareTexts pair machine).2 hskip

end Items

/-! ## Whole runs -/

/-- What is asked for along some items: what each asks for, up to and including
    the first that ends in an error. -/
inductive AsksAlong (c : Comparator μ) : RunState μ → List WalkItem → List Request → Prop where
  | nil (state : RunState μ) : AsksAlong c state [] []
  /-- An item that is dealt with goes before the others. -/
  | cons {state after : RunState μ} {item : WalkItem} {items : List WalkItem}
      {requests more : List Request} : c.Asks state.machine item requests →
      (c.report item).run.run state = (.ok (), after) → AsksAlong c after items more →
      AsksAlong c state (item :: items) (requests ++ more)
  /-- Nothing is asked for after an error. -/
  | stop {state after : RunState μ} {item : WalkItem} (items : List WalkItem)
      {requests : List Request} {error : CompareError} : c.Asks state.machine item requests →
      (c.report item).run.run state = (.error error, after) →
      AsksAlong c state (item :: items) requests

/-- A watched run over something does what the run does, and notes some
    requests. -/
def NotesFrom (x : Run μ α) (y : Run (μ × List Request) α) (state : RunState μ)
    (requests : List Request) : Prop :=
  ∀ earlier, y.run.run (state.watched earlier)
    = ((x.run.run state).1, (x.run.run state).2.watched (earlier ++ requests))

section Runs

variable {c : Comparator μ}

/-- Reporting an item asks for what comparing it does. -/
theorem Asks.notesFrom {state : RunState μ} {item : WalkItem} {requests : List Request}
    (h : c.Asks state.machine item requests) :
    NotesFrom (c.report item) (c.watched.report item) state requests := by
  intro earlier
  cases item with
  | error error =>
    cases h
    rw [c.run_report_of_stops state (.walk error), List.append_nil]
    exact c.watched.run_report_of_stops (state.watched earlier) (.walk error)
  | ok pair =>
    have hnotes := h.notes earlier
    rcases hpair : (c.comparePair pair).run.run state.machine with ⟨result, after⟩
    rw [hpair] at hnotes
    cases result with
    | error error =>
      rw [c.run_report_of_stops state (.comparison hpair)]
      exact c.watched.run_report_of_stops (state.watched earlier) (.comparison hnotes)
    | ok outcome =>
      have hwatched : (c.watched.comparePair pair).run.run (state.watched earlier).machine
          = (.ok outcome, after.watched (earlier ++ requests)) := hnotes
      rw [c.run_report_compared hpair, c.watched.run_report_compared hwatched]
      cases outcome.reportLine? <;> rfl

/-- Something is asked for along any items. -/
theorem exists_asksAlong (c : Comparator μ) (items : List WalkItem) (state : RunState μ) :
    ∃ requests, c.AsksAlong state items requests := by
  induction items generalizing state with
  | nil => exact ⟨[], .nil state⟩
  | cons item items ih =>
    obtain ⟨requests, hrequests⟩ := c.exists_asks state.machine item
    rcases hreport : (c.report item).run.run state with ⟨result, after⟩
    cases result with
    | error error => exact ⟨_, .stop items hrequests hreport⟩
    | ok _ =>
      obtain ⟨more, hmore⟩ := ih after
      exact ⟨_, .cons hrequests hreport hmore⟩

/-- Going through items asks for what there is to ask for along them. -/
theorem AsksAlong.notesFrom {state : RunState μ} {items : List WalkItem} {requests : List Request}
    (h : c.AsksAlong state items requests) :
    NotesFrom (forM items c.report) (forM items c.watched.report) state requests := by
  intro earlier
  induction h generalizing earlier with
  | nil state =>
    rw [List.append_nil]
    rfl
  | cons hasks hreport _ ih =>
    have hwatched := hasks.notesFrom earlier
    rw [hreport] at hwatched
    rw [List.forM_cons, List.forM_cons, run_bind_of_ok hreport, run_bind_of_ok hwatched, ih,
      List.append_assoc]
  | stop items hasks hreport =>
    have hwatched := hasks.notesFrom earlier
    rw [hreport] at hwatched
    rw [List.forM_cons, List.forM_cons, run_bind_of_error hreport, run_bind_of_error hwatched]

/-- After items that are all dealt with, more is asked for along more of them. -/
theorem AsksAlong.append {state after : RunState μ} {items items' : List WalkItem}
    {requests requests' : List Request} (h : c.AsksAlong state items requests)
    (hrun : (forM items c.report : Run μ Unit).run.run state = (.ok (), after))
    (h' : c.AsksAlong after items' requests') :
    c.AsksAlong state (items ++ items') (requests ++ requests') := by
  induction h with
  | nil state =>
    cases hrun
    exact h'
  | cons hasks hreport _ ih =>
    rw [List.forM_cons, run_bind_of_ok hreport] at hrun
    rw [List.append_assoc]
    exact .cons hasks hreport (ih hrun)
  | stop items hasks hreport =>
    rw [List.forM_cons, run_bind_of_error hreport] at hrun
    cases hrun

/-- A computation that notes the items it goes through, and one that does the
    same while it is watched. -/
def GoesWatched (c : Comparator μ) (y : Noted μ WalkItem α) (z : Run (μ × List Request) α) : Prop :=
  ∀ state, ∃ items requests result after, c.AsksAlong state items requests ∧
    c.CameBy state items ((result, after) : Except CompareError α × RunState μ) ∧
    (∀ earlier, y.run.run (state, earlier) = (result, after, earlier ++ items)) ∧
    ∀ earlier, z.run.run (state.watched earlier) = (result, after.watched (earlier ++ requests))

/-- Going through items and being watched is kept by doing one thing after the
    other. -/
def goingWatched (c : Comparator μ) : Simulation (Noted μ WalkItem) (Run (μ × List Request)) where
  Related y z := c.GoesWatched y z
  pure a := by
    intro state
    refine ⟨[], [], .ok a, state, .nil state, rfl, fun earlier => ?_, fun earlier => ?_⟩ <;>
      · rw [List.append_nil]
        rfl
  bind := by
    intro α β y z f g hy hf state
    obtain ⟨items, requests, result, between, hasks, hcame, hitems, hwatched⟩ := hy state
    cases result with
    | error error =>
      exact ⟨items, requests, .error error, between, hasks, hcame,
        fun earlier => run_bind_of_error (hitems earlier) f,
        fun earlier => run_bind_of_error (hwatched earlier) g⟩
    | ok a =>
      obtain ⟨more, requests', result, after, hasks', hcame', hitems', hwatched'⟩ := hf a between
      refine ⟨items ++ more, requests ++ requests', result, after, hasks.append hcame hasks',
        hcame.append hcame', fun earlier => ?_, fun earlier => ?_⟩
      · rw [run_bind_of_ok (hitems earlier), hitems', List.append_assoc]
      · rw [run_bind_of_ok (hwatched earlier), hwatched', List.append_assoc]

theorem goesWatched_meet (c : Comparator μ) (item : WalkItem) :
    c.GoesWatched (c.meet item) (c.watched.report item) := by
  intro state
  obtain ⟨requests, hrequests⟩ := c.exists_asks state.machine item
  have halong : c.AsksAlong state [item] requests := by
    rcases hrun : (c.report item).run.run state with ⟨result, after⟩
    cases result with
    | error error => exact .stop [] hrequests hrun
    | ok _ => simpa using AsksAlong.cons hrequests hrun (.nil after)
  exact ⟨[item], requests, ((c.report item).run.run state).1, ((c.report item).run.run state).2,
    halong, c.cameBy_report state item, fun _ => rfl, hrequests.notesFrom⟩

/-- A walk goes through the same items while it is watched. -/
theorem goesWatched_visit (c : Comparator μ) (referenceRoot renderRoot : Path) :
    c.GoesWatched (Walk.visit (Run.act Action.files).unnoted c.meet referenceRoot renderRoot)
      (Walk.visit (Run.act Action.files) c.watched.report referenceRoot renderRoot) := by
  refine c.goingWatched.visit_all (fun hf state => ?_) c.goesWatched_meet referenceRoot renderRoot
  obtain ⟨items, requests, result, after, hasks, hcame, hitems, hwatched⟩ :=
    hf state.machine.files state
  have hlook (earlier : List Request) :
      (Run.act Action.files : Run (μ × List Request) FileTree).run.run (state.watched earlier)
        = (.ok state.machine.files, state.watched earlier) := rfl
  refine ⟨items, requests, result, after, hasks, hcame, fun earlier => ?_, fun earlier => ?_⟩
  · rw [run_bind_of_ok (Run.run_unnoted_files state earlier), hitems]
  · rw [run_bind_of_ok (hlook earlier), hwatched]

/-- A run is concluded alike while it is watched. -/
theorem concluded_watched (outer : Option Trace.Span) (result : Except CompareError Unit)
    (after : RunState μ) (requests : List Request) :
    concluded outer (result, after.watched requests)
      = ((concluded outer (result, after)).1,
          (concluded outer (result, after)).2.watched requests) := by
  have hflush : (after.watched requests).sink.flush = after.sink.flush := rfl
  cases result with
  | error error => rfl
  | ok _ =>
    simp only [concluded]
    rw [hflush]
    cases after.sink.flush <;> rfl

/-- Before and after its walk a run asks for nothing. -/
theorem notesFrom_runOver {state : RunState μ}
    (hvalid : c.config.validateDirs state.machine.files = .ok ())
    {traverse : (WalkItem → Run μ Unit) → Run μ Unit}
    {traverse' : (WalkItem → Run (μ × List Request) Unit) → Run (μ × List Request) Unit}
    {requests : List Request}
    (h : NotesFrom (traverse c.report) (traverse' c.watched.report) (c.begun state) requests) :
    NotesFrom (c.runOver traverse) (c.watched.runOver traverse') state requests := by
  intro earlier
  have hbegun : c.watched.begun (state.watched earlier) = (c.begun state).watched earlier := rfl
  have hwatched : c.watched.config.validateDirs (state.watched earlier).machine.files = .ok () :=
    hvalid
  rw [c.run_runOver_of_valid hvalid, c.watched.run_runOver_of_valid hwatched, hbegun, h earlier]
  exact concluded_watched _ _ _ _

/-- A run whose directories are refused asks for nothing. -/
theorem notesFrom_runOver_of_invalid {state : RunState μ} {error : CompareError}
    (h : c.config.validateDirs state.machine.files = .error error)
    (traverse : (WalkItem → Run μ Unit) → Run μ Unit)
    (traverse' : (WalkItem → Run (μ × List Request) Unit) → Run (μ × List Request) Unit) :
    NotesFrom (c.runOver traverse) (c.watched.runOver traverse') state [] := by
  intro earlier
  have hwatched : c.watched.config.validateDirs (state.watched earlier).machine.files
      = .error error := h
  rw [c.run_runOver_of_invalid h, List.append_nil]
  exact c.watched.run_runOver_of_invalid hwatched _

/-- A run asks for what is asked for along the items it meets. -/
theorem exists_asksAlong_met {state : RunState μ}
    (hvalid : c.config.validateDirs state.machine.files = .ok ()) :
    ∃ requests, c.AsksAlong (c.begun state) (c.met state) requests ∧
      NotesFrom c.run c.watched.run state requests := by
  obtain ⟨items, requests, result, after, hasks, hcame, hitems, hwatched⟩ :=
    c.goesWatched_visit c.config.referenceDir c.config.renderDir (c.begun state)
  have hmet : c.met state = items := by
    rw [met, noted_of_valid hvalid, hitems, List.nil_append]
  -- the walk ends as the one that notes the items does
  obtain ⟨_, -, hnotes⟩ :=
    c.meets_visit c.config.referenceDir c.config.renderDir (c.begun state)
  obtain ⟨hresult, hends⟩ := Prod.mk.inj ((hnotes []).symm.trans (hitems []))
  obtain ⟨hafter, -⟩ := Prod.mk.inj hends
  rw [hmet]
  refine ⟨requests, hasks, notesFrom_runOver hvalid ?_⟩
  intro earlier
  rw [hresult, hafter]
  exact hwatched earlier

/-- Every run asks for something or for nothing, and watching it changes
    nothing else. -/
theorem exists_notesFrom_run (c : Comparator μ) (state : RunState μ) :
    ∃ requests, NotesFrom c.run c.watched.run state requests := by
  cases hcheck : c.config.validateDirs state.machine.files with
  | error error => exact ⟨[], notesFrom_runOver_of_invalid hcheck _ _⟩
  | ok _ =>
    obtain ⟨requests, -, hnotes⟩ := exists_asksAlong_met hcheck
    exact ⟨requests, hnotes⟩

end Runs

/-- A run asks for what the items it meets ask for, in their order and until an
    error ends it, and so does a run over any items; watching it shows all this
    and changes nothing else. A run whose directories are refused asks for
    nothing. -/
theorem run_asks_along {config : Config} {toolbox : Tool.Toolbox} {backend : Backend μ}
    {c : Comparator μ} (hc : withBackend config toolbox backend = .ok c) (state : RunState μ) :
    (c.config = config ∧ c.backend = backend ∧ c.textDiffer =
      if config.textDiff then some (.external toolbox config.programs.diff) else none) ∧
    (∀ error, config.validateDirs state.machine.files = .error error →
      NotesFrom c.run c.watched.run state [] ∧
      ∀ items : List WalkItem,
        NotesFrom (c.runOver (forM items)) (c.watched.runOver (forM items)) state []) ∧
    (config.validateDirs state.machine.files = .ok () →
      c.run.run.run state = (c.runOver (forM (c.met state))).run.run state ∧
      (∃ requests, c.AsksAlong (c.begun state) (c.met state) requests ∧
        NotesFrom c.run c.watched.run state requests) ∧
      ∀ items : List WalkItem,
        (∃ requests, c.AsksAlong (c.begun state) items requests) ∧
        ∀ requests, c.AsksAlong (c.begun state) items requests →
          NotesFrom (c.runOver (forM items)) (c.watched.runOver (forM items)) state requests) := by
  have hmade := withBackend_eq_ok hc
  obtain rfl := hmade.1
  refine ⟨hmade, ?_, ?_⟩
  · intro error herror
    refine ⟨notesFrom_runOver_of_invalid herror _ _, ?_⟩
    intro items
    exact notesFrom_runOver_of_invalid herror _ _
  · intro hvalid
    -- what the walk meets are items like any others
    refine ⟨run_eq_runOver_met hvalid, exists_asksAlong_met hvalid, ?_⟩
    intro items
    refine ⟨c.exists_asksAlong items _, ?_⟩
    intro requests hasks
    exact notesFrom_runOver hvalid hasks.notesFrom

/-! ## A run that ends early -/

namespace Broken

/-- Compares the trees `ref` and `out`, other files as texts. -/
def config : Config :=
  { referenceDir := ⟨"ref"⟩, renderDir := ⟨"out"⟩, diffDir := some ⟨"diffs"⟩, textDiff := true }

/-- No program finds differences between texts. -/
def toolbox : Tool.Toolbox where
  start _ _ := .ok ()
  perform files _ := (⟨.exited 0, [], []⟩, files)

/-- One image is unlike its counterpart, and another cannot be measured. -/
def script : Backend.Script :=
  { metrics := [("ref/a.png", Binary64.ofMagnitude false (Binary64.nearestDecimal 1 0))] }

/-- The comparator for that configuration. -/
def comparator : Comparator (List Backend.Call) where
  config := config
  backend := .scripted script
  imagePattern := ⟨[.anyText, .literal '.', .literal 'p', .literal 'n', .literal 'g']⟩
  textDiffer := some (.external toolbox "diff")

/-- Both trees have the same files but one. -/
def state : RunState (List Backend.Call) where
  machine := {
    files := {
      workingDir := []
      entries := [(["ref"], .directory), (["out"], .directory), (["out", "a.png"], .file .empty false),
        (["out", "b.txt"], .file .empty false), (["out", "manifest.json"], .file .empty false),
        (["out", "x.png"], .file .empty false), (["out", "y.png"], .file .empty false)] }
    memory := [] }
  sink := {}

/-- The pairs of some names. -/
def items : List WalkItem :=
  ["a.png", "b.txt", "c.png", "manifest.json", "x.png", "y.png"].map fun name =>
    .ok (FilePair.below ⟨"ref"⟩ ⟨"out"⟩ [name])

/-- The image that cannot be measured is the last thing asked for. -/
theorem asks_until_error :
    withBackend config toolbox (.scripted script) = .ok comparator ∧
    config.validateDirs state.machine.files = .ok () ∧
    comparator.AsksAlong (comparator.begun state) items
      [.measure ⟨"ref/a.png"⟩ ⟨"out/a.png"⟩,
        .renderDiff ⟨"ref/a.png"⟩ ⟨"out/a.png"⟩ ⟨"diffs/a.png"⟩,
        .compareTexts ⟨"ref/b.txt"⟩ ⟨"out/b.txt"⟩, .measure ⟨"ref/x.png"⟩ ⟨"out/x.png"⟩] ∧
    ((comparator.runOver (forM items)).run.run state).2.machine.memory
      = [.measure ⟨"ref/a.png"⟩ ⟨"out/a.png"⟩,
        .renderDiff ⟨"ref/a.png"⟩ ⟨"out/a.png"⟩ ⟨"diffs/a.png"⟩,
        .measure ⟨"ref/x.png"⟩ ⟨"out/x.png"⟩] := by
  have hmade : withBackend config toolbox (.scripted script) = .ok comparator := by
    have hpattern : config.readPattern = .ok comparator.imagePattern := by decide +kernel
    unfold withBackend
    rw [hpattern]
    rfl
  have hvalid : config.validateDirs state.machine.files = .ok () := by decide +kernel
  obtain ⟨-, -, hruns⟩ := run_asks_along hmade state
  obtain ⟨-, -, hitems⟩ := hruns hvalid
  obtain ⟨⟨requests, hasks⟩, hnotes⟩ := hitems items
  -- what is noted when the run is watched is what is asked for
  have hnoted := congrArg (fun ran => ran.2.machine.memory) (hnotes requests hasks [])
  have hcomputed :
      ((comparator.watched.runOver (forM items)).run.run (state.watched [])).2.machine.memory
      = ([.measure ⟨"ref/a.png"⟩ ⟨"out/a.png"⟩,
          .renderDiff ⟨"ref/a.png"⟩ ⟨"out/a.png"⟩ ⟨"diffs/a.png"⟩,
          .measure ⟨"ref/x.png"⟩ ⟨"out/x.png"⟩],
        [.measure ⟨"ref/a.png"⟩ ⟨"out/a.png"⟩,
          .renderDiff ⟨"ref/a.png"⟩ ⟨"out/a.png"⟩ ⟨"diffs/a.png"⟩,
          .compareTexts ⟨"ref/b.txt"⟩ ⟨"out/b.txt"⟩, .measure ⟨"ref/x.png"⟩ ⟨"out/x.png"⟩]) := by
    decide +kernel
  dsimp only at hnoted
  rw [hcomputed] at hnoted
  obtain ⟨hmemory, hrequests⟩ := Prod.mk.inj hnoted
  refine ⟨hmade, hvalid, ?_, hmemory.symm⟩
  rw [List.nil_append] at hrequests
  rw [hrequests]
  exact hasks

end Broken

end Comparator

end RenderCheck
