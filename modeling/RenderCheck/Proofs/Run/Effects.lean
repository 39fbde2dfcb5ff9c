import RenderCheck.Backend.Scripted
import RenderCheck.Proofs.Config
import RenderCheck.Proofs.FileTree.Growth
import RenderCheck.Proofs.Run.Report

/-! # What a comparison does to files

    A comparison writes at most one file, the diff image of its pair, and
    creates the directories that it goes into. Which bytes it writes is up to
    the backend; the built-in comparison and a scripted one differ in nothing
    else (`Backend.Draws`).

    * **Backends that draw** and their pictures.
    * **Effects**: either nothing was written, or the diff image was
      (`Comparator.comparePair_effect`). -/

namespace RenderCheck

variable {μ : Type}

/-! ## Single actions -/

namespace Action

variable {α : Type}

@[simp] theorem run_files (machine : Machine μ) :
    (files : Action μ FileTree).run.run machine = (.ok machine.files, machine) := rfl

@[simp] theorem run_setFiles (files : FileTree) (machine : Machine μ) :
    (setFiles files : Action μ Unit).run.run machine
      = (.ok (), { machine with files := files }) := rfl

/-- The machine with one more thing said. -/
def said (machine : Machine μ) (event : Trace.Event) : Machine μ :=
  { machine with records := machine.records ++ [⟨event, machine.span⟩] }

@[simp] theorem run_emit (event : Trace.Event) (machine : Machine μ) :
    (emit event : Action μ Unit).run.run machine = (.ok (), said machine event) := rfl

@[simp] theorem run_ofExcept (result : Except CompareError α) (machine : Machine μ) :
    (ofExcept result : Action μ α).run.run machine = (result, machine) := rfl

/-- What is computed from the files changes nothing. -/
theorem run_ofFiles (wrap : IoError → CompareError) (compute : FileTree → Except IoError α)
    (machine : Machine μ) : (ofFiles wrap compute : Action μ α).run.run machine
      = ((compute machine.files).mapError wrap, machine) := by
  unfold ofFiles
  rw [run_bind_of_ok (run_files machine)]
  cases compute machine.files <;> rfl

section Launched

variable (toolbox : Tool.Toolbox) {launch : Tool.Launch} {machine : Machine μ}

/-- A program that cannot be started does nothing. -/
theorem run_launch_of_error {error : IoError} (h : toolbox.start machine.files launch = .error error) :
    (Backend.launch toolbox launch : Action μ Tool.Finished).run.run machine
      = (.error (.spawn launch.program error), machine) := by
  have hstart := run_ofFiles (.spawn launch.program) (toolbox.start · launch) machine
  rw [h] at hstart
  unfold Backend.launch
  rw [run_bind_of_error hstart]

/-- A program that can be started runs to its end. -/
theorem run_launch_of_ok (h : toolbox.start machine.files launch = .ok ()) :
    (Backend.launch toolbox launch : Action μ Tool.Finished).run.run machine
      = (.ok (toolbox.perform machine.files launch).1,
          { machine with files := (toolbox.perform machine.files launch).2 }) := by
  have hstart := run_ofFiles (.spawn launch.program) (toolbox.start · launch) machine
  rw [h] at hstart
  unfold Backend.launch
  rw [run_bind_of_ok hstart, run_bind_of_ok (run_files machine)]
  rfl

/-- A program that leaves the files alone does so when it is launched, whether
    it starts or not. -/
theorem files_launch (h : (toolbox.perform machine.files launch).2 = machine.files) :
    ((Backend.launch toolbox launch : Action μ Tool.Finished).run.run machine).2.files
      = machine.files := by
  cases hstarted : toolbox.start machine.files launch with
  | error error => rw [run_launch_of_error toolbox hstarted]
  | ok _ =>
    rw [run_launch_of_ok toolbox hstarted]
    exact h

end Launched

/-- Files are changed if that works. -/
theorem run_changeFiles_of_ok (wrap : IoError → CompareError)
    {change : FileTree → Except IoError FileTree} {machine : Machine μ} {files : FileTree}
    (h : change machine.files = .ok files) :
    (changeFiles wrap change : Action μ Unit).run.run machine
      = (.ok (), { machine with files := files }) := by
  have hread := run_ofFiles wrap change machine
  rw [h] at hread
  unfold changeFiles
  rw [run_bind_of_ok hread]
  rfl

/-- Files are changed if that works, and stay as they are if it does not. -/
theorem run_changeFiles (wrap : IoError → CompareError)
    (change : FileTree → Except IoError FileTree) (machine : Machine μ) :
    (∃ error, (changeFiles wrap change : Action μ Unit).run.run machine = (.error error, machine)) ∨
    ∃ files, change machine.files = .ok files ∧
      (changeFiles wrap change : Action μ Unit).run.run machine
        = (.ok (), { machine with files := files }) := by
  cases hchange : change machine.files with
  | ok files => exact .inr ⟨files, rfl, run_changeFiles_of_ok wrap hchange⟩
  | error error =>
    have hread := run_ofFiles wrap change machine
    rw [hchange] at hread
    unfold changeFiles
    rw [run_bind_of_error hread]
    exact .inl ⟨wrap error, rfl⟩

end Action

/-! ## Backends that draw -/

/-- What a backend draws for a pair, from the files as they are. -/
abbrev Picture : Type :=
  FileTree → (reference generated : Path) → Except CompareError (List UInt8)

/-- A backend that changes no file but the one it draws into. -/
structure Backend.Draws (b : Backend μ) (picture : Picture) : Prop where
  /-- Measuring changes no files, and a pair that was measured can be drawn. -/
  measure (reference generated : Path) (machine : Machine μ) :
    ((b.measure reference generated).run.run machine).2.files = machine.files ∧
    ∀ metric, ((b.measure reference generated).run.run machine).1 = .ok metric →
      ∃ bytes, picture machine.files reference generated = .ok bytes
  /-- More directories do not change a picture. -/
  stable {t t' : FileTree} {reference generated : Path} {bytes : List UInt8} : t.Sound →
    t.AddsDirectories t' → picture t reference generated = .ok bytes →
      picture t' reference generated = .ok bytes
  /-- Drawing writes the picture, or fails and changes no files. -/
  renderDiff (reference generated output : Path) (machine : Machine μ) :
    (∃ error after, (b.renderDiff reference generated output).run.run machine = (.error error, after) ∧
      after.files = machine.files) ∨
    ∃ bytes after, (b.renderDiff reference generated output).run.run machine = (.ok (), after) ∧
      picture machine.files reference generated = .ok bytes ∧
      machine.files.writeFile output bytes = .ok after.files

/-- What the built-in comparison draws. -/
def nativePicture : Picture := fun files reference generated =>
  (Backend.loadPair reference generated files).map fun (a, b) => Png.encode (Backend.stripOf a b)

/-- What a scripted backend draws. -/
def scriptedPicture : Picture := fun _ _ _ => .ok Backend.placeholder

namespace FileTree

theorem readContent_eq_ok_iff {t : FileTree} {p : Path} {content : Content} :
    t.readContent p = .ok content ↔
      ∃ location executable, t.locate true p = .ok ⟨location, some (.file content executable)⟩ := by
  unfold readContent
  rw [inspect_eq]
  rcases hplace : t.locate true p with error | ⟨location, - | node⟩
  · simp [Except.bind, bind]
  · simp [Except.bind, bind]
  · cases node <;> simp [Except.bind, bind, pure, Except.pure, throw, throwThe,
      MonadExceptOf.throw]

theorem readFile_eq_ok_iff_readContent {t : FileTree} {p : Path} {bytes : List UInt8} :
    t.readFile p = .ok bytes ↔ t.readContent p = .ok (.ofBytes bytes) := by
  unfold readFile
  cases t.readContent p with
  | error error => simp [Except.map]
  | ok content => simp [Except.map, Content.ext_iff]

theorem readFile_eq_ok_iff {t : FileTree} {p : Path} {bytes : List UInt8} :
    t.readFile p = .ok bytes ↔
      ∃ location executable, t.locate true p = .ok ⟨location, some (.file bytes executable)⟩ :=
  readFile_eq_ok_iff_readContent.trans readContent_eq_ok_iff

/-- A file is still read where only directories are new. -/
theorem AddsDirectories.readContent {t t' : FileTree} (h : t.AddsDirectories t') (ht : t.Sound)
    {p : Path} {content : Content} (hread : t.readContent p = .ok content) :
    t'.readContent p = .ok content := by
  obtain ⟨location, executable, hplace⟩ := readContent_eq_ok_iff.1 hread
  refine readContent_eq_ok_iff.2 ⟨location, executable, ?_⟩
  have hnode : some (.file content executable) = t.node? location :=
    (ht.fits_of_locate hplace).node_eq
  rw [h.grows.locate ht hplace, h.node?_of_some hnode.symm]

/-- An image that was read is in a file. -/
theorem exists_readContent_of_readImage {t : FileTree} {p : Path} {image : Image}
    (h : t.readImage p = .ok image) : ∃ content, t.readContent p = .ok content := by
  unfold readImage at h
  split at h
  · cases h
  split at h
  · cases h
  · cases h
  split at h
  · cases h
  · next content hcontent => exact ⟨content, hcontent⟩

/-- The image in a file depends on what it holds and on its path. -/
theorem readImage_congr {t t' : FileTree} {p : Path} {content : Content}
    (h : t.readContent p = .ok content) (h' : t'.readContent p = .ok content) :
    t.readImage p = t'.readImage p := by
  have hinspect {t : FileTree} (h : t.readContent p = .ok content) :
      ∃ node, t.inspect true p = .ok node := by
    cases hnode : t.inspect true p with
    | error error =>
      unfold FileTree.readContent at h
      rw [hnode] at h
      cases h
    | ok node => exact ⟨node, rfl⟩
  obtain ⟨node, hnode⟩ := hinspect h
  obtain ⟨node', hnode'⟩ := hinspect h'
  unfold readImage
  rw [hnode, hnode', h, h']

/-- So is an image. -/
theorem AddsDirectories.readImage {t t' : FileTree} (h : t.AddsDirectories t') (ht : t.Sound)
    {p : Path} {image : Image} (hread : t.readImage p = .ok image) :
    t'.readImage p = .ok image := by
  obtain ⟨content, hcontent⟩ := exists_readContent_of_readImage hread
  rw [← readImage_congr hcontent (h.readContent ht hcontent), hread]

end FileTree

namespace Backend

theorem loadPair_eq (reference generated : Path) (files : FileTree) :
    loadPair reference generated files =
      match files.readImage reference with
      | .error fault => .error (.image fault)
      | .ok a =>
        match files.readImage generated with
        | .error fault => .error (.image fault)
        | .ok b =>
          if a.size = b.size then .ok (a, b) else .error (.sizeMismatch generated a.size b.size) := by
  unfold loadPair
  dsimp only
  cases files.readImage reference with
  | error fault => rfl
  | ok a =>
    cases files.readImage generated with
    | error fault => rfl
    | ok b =>
      show (if a.size ≠ b.size then _ else _) = if a.size = b.size then _ else _
      by_cases hsize : a.size = b.size
      · rw [if_neg (not_not.2 hsize), if_pos hsize]
        rfl
      · rw [if_pos hsize, if_neg hsize]
        rfl

/-- The images of a pair are both read. -/
theorem loadPair_eq_ok_iff {reference generated : Path} {files : FileTree} {a b : Image} :
    loadPair reference generated files = .ok (a, b) ↔
      files.readImage reference = .ok a ∧ files.readImage generated = .ok b ∧ a.size = b.size := by
  rw [loadPair_eq]
  cases files.readImage reference with
  | error fault => simp
  | ok image =>
    cases files.readImage generated with
    | error fault => simp
    | ok image' =>
      by_cases hsize : image.size = image'.size
      · simp only [hsize, if_true, Except.ok.injEq, Prod.mk.injEq]
        constructor
        · rintro ⟨rfl, rfl⟩
          exact ⟨rfl, rfl, hsize⟩
        · rintro ⟨rfl, rfl, -⟩
          exact ⟨rfl, rfl⟩
      · simp only [hsize, if_false, reduceCtorEq, Except.ok.injEq, false_iff]
        rintro ⟨rfl, rfl, heq⟩
        exact hsize heq

section Pair

variable {reference generated : Path} {machine : Machine μ}

theorem run_load_pair {result : Except CompareError (Image × Image)}
    (h : loadPair reference generated machine.files = result) :
    (Action.ofExcept (loadPair reference generated machine.files) :
      Action μ (Image × Image)).run.run machine = (result, machine) := by
  rw [Action.run_ofExcept, h]

section Refused

variable {error : CompareError} (h : loadPair reference generated machine.files = .error error)

include h

/-- A pair that is not loaded is not measured. -/
theorem run_measure_of_error :
    (native.measure reference generated).run.run machine = (.error error, machine) := by
  show (Action.files >>= _ : Action μ Metric).run.run machine = _
  rw [run_bind_of_ok (Action.run_files machine), run_bind_of_error (run_load_pair h)]

/-- Nor is it drawn. -/
theorem run_renderDiff_of_error (output : Path) :
    (native.renderDiff reference generated output).run.run machine = (.error error, machine) := by
  show (Action.files >>= _ : Action μ Unit).run.run machine = _
  rw [run_bind_of_ok (Action.run_files machine), run_bind_of_error (run_load_pair h)]

end Refused

section Loaded

variable {a b : Image} (h : loadPair reference generated machine.files = .ok (a, b))

include h

/-- A pair that is loaded is measured by its images. -/
theorem run_measure_of_ok : ∃ event, (native.measure reference generated).run.run machine
    = (.ok (Metric.ofImages a b), Action.said machine event) := by
  show ∃ event, (Action.files >>= _ : Action μ Metric).run.run machine = (_, Action.said _ event)
  rw [run_bind_of_ok (Action.run_files machine), run_bind_of_ok (run_load_pair h)]
  exact ⟨_, run_bind_of_ok (Action.run_emit _ machine) _⟩

/-- Its strip is written. -/
theorem run_renderDiff_of_ok (output : Path) : ∃ event,
    (native.renderDiff reference generated output).run.run machine
      = (Action.changeFiles (fun error => .image (.io error))
          (·.writeFile output (Png.encode (stripOf a b))) : Action μ Unit).run.run
          (Action.said machine event) := by
  rw [← Png.contentOf_eq]
  show ∃ event, (Action.files >>= _ : Action μ Unit).run.run machine
    = (Action.changeFiles _ _ : Action μ Unit).run.run (Action.said _ event)
  rw [run_bind_of_ok (Action.run_files machine), run_bind_of_ok (run_load_pair h)]
  exact ⟨_, run_bind_of_ok (Action.run_emit _ machine) _⟩

end Loaded

end Pair

/-- The built-in comparison draws strips. -/
theorem native_draws : (native : Backend μ).Draws nativePicture where
  measure reference generated machine := by
    cases hpair : loadPair reference generated machine.files with
    | error error =>
      rw [run_measure_of_error hpair]
      exact ⟨rfl, fun _ h => nomatch h⟩
    | ok images =>
      obtain ⟨event, hmeasure⟩ := run_measure_of_ok hpair
      rw [hmeasure]
      refine ⟨rfl, fun _ _ => ⟨Png.encode (stripOf images.1 images.2), ?_⟩⟩
      unfold nativePicture
      rw [hpair]
      rfl
  stable := by
    intro t t' reference generated bytes ht hadds h
    unfold nativePicture at h ⊢
    cases hpair : loadPair reference generated t with
    | error error =>
      rw [hpair] at h
      cases h
    | ok images =>
      -- both images are read from files that are still there
      obtain ⟨a, b⟩ := images
      obtain ⟨ha, hb, hsize⟩ := loadPair_eq_ok_iff.1 hpair
      have hpair' := loadPair_eq_ok_iff.2 ⟨hadds.readImage ht ha, hadds.readImage ht hb, hsize⟩
      rw [hpair', ← h, hpair]
  renderDiff reference generated output machine := by
    cases hpair : loadPair reference generated machine.files with
    | error error => exact .inl ⟨error, machine, run_renderDiff_of_error hpair output, rfl⟩
    | ok images =>
      obtain ⟨a, b⟩ := images
      obtain ⟨event, hdraw⟩ := run_renderDiff_of_ok hpair output
      rw [hdraw]
      rcases Action.run_changeFiles (fun error => .image (.io error))
          (·.writeFile output (Png.encode (stripOf a b))) (Action.said machine event)
        with ⟨error, hfailed⟩ | ⟨files, hwrite, hdone⟩
      · exact .inl ⟨error, _, hfailed, rfl⟩
      · refine .inr ⟨_, _, hdone, ?_, hwrite⟩
        unfold nativePicture
        rw [hpair]
        rfl

/-- A scripted backend draws the same for all pairs. -/
theorem scripted_draws (script : Script) : (scripted script).Draws scriptedPicture where
  measure reference generated machine := by
    refine ⟨?_, fun _ _ => ⟨_, rfl⟩⟩
    show ((noteCall _ >>= _ : Action _ _).run.run machine).2.files = _
    have hnote : (noteCall (.measure reference generated)).run.run machine
      = (.ok (), { machine with memory := machine.memory ++ [.measure reference generated] }) := rfl
    rw [run_bind_of_ok hnote]
    cases script.metrics.lookup reference.text <;> rfl
  stable _ _ h := h
  renderDiff reference generated output machine := by
    show (∃ error after, (noteCall _ >>= _ : Action _ _).run.run machine = (.error error, after) ∧
      _) ∨ ∃ bytes after, (noteCall _ >>= _ : Action _ _).run.run machine = (.ok (), after) ∧ _
    have hnote : (noteCall (.renderDiff reference generated output)).run.run machine
      = (.ok (), { machine with
          memory := machine.memory ++ [.renderDiff reference generated output] }) := rfl
    rw [run_bind_of_ok hnote]
    by_cases hfails : script.renderFailures.contains reference.text = true
    · rw [if_pos hfails]
      exact .inl ⟨_, _, rfl, rfl⟩
    · rw [if_neg hfails]
      rcases Action.run_changeFiles .io (·.writeFile output placeholder)
          { machine with memory := machine.memory ++ [.renderDiff reference generated output] }
        with ⟨error, hfailed⟩ | ⟨files, hwrite, hdone⟩
      · exact .inl ⟨error, _, hfailed, rfl⟩
      · exact .inr ⟨placeholder, _, hdone, rfl, hwrite⟩

end Backend

/-! ## Effects -/

namespace Comparator

/-- Comparing texts changes no files. -/
def TextsLeaveFiles (c : Comparator μ) : Prop :=
  ∀ differ, c.textDiffer = some differ → ∀ reference generated machine,
    ((differ reference generated).run.run machine).2.files = machine.files

/-- A comparator with a backend of one's own is made of what its configuration
    says. -/
theorem withBackend_eq_ok {config : Config} {toolbox : Tool.Toolbox} {backend : Backend μ}
    {c : Comparator μ} (h : withBackend config toolbox backend = .ok c) :
    c.config = config ∧ c.backend = backend ∧ c.textDiffer =
      if config.textDiff then some (.external toolbox config.programs.diff) else none := by
  obtain ⟨pattern, -, rfl⟩ := withBackend_eq_ok_iff.1 h
  exact ⟨rfl, rfl, rfl⟩

/-- A comparator for a configuration is made of what that says. -/
theorem ofConfig_eq_ok {config : Config} {toolbox : Tool.Toolbox} {c : Comparator μ}
    (h : ofConfig config toolbox = .ok c) : c.config = config ∧ c.backend = backendOf config toolbox ∧
      c.textDiffer =
        if config.textDiff then some (.external toolbox config.programs.diff) else none :=
  withBackend_eq_ok h

/-- A program that changes no files is good for comparing texts. -/
theorem textsLeaveFiles_of_ofConfig {config : Config} {toolbox : Tool.Toolbox} {c : Comparator μ}
    (h : ofConfig config toolbox = .ok c) (hdiff : ∀ files reference generated,
      (toolbox.perform files ⟨config.programs.diff, ["-w", reference, generated], []⟩).2 = files) :
    c.TextsLeaveFiles := by
  intro differ hdiffer reference generated machine
  obtain ⟨-, -, htexts⟩ := ofConfig_eq_ok h
  rw [hdiffer] at htexts
  split at htexts
  swap
  · cases htexts
  cases htexts
  -- saying something first does not touch the files either
  have hread (told : Machine μ) :
      ((Backend.launch toolbox ⟨config.programs.diff, ["-w", reference.text, generated.text], []⟩ >>=
        fun finished => Action.ofExcept (TextDiffer.readDiff config.programs.diff finished) :
          Action μ (Option String)).run.run told).2.files = told.files := by
    have hfiles := Action.files_launch toolbox (hdiff told.files reference.text generated.text)
    rcases hlaunch : (Backend.launch toolbox
      ⟨config.programs.diff, ["-w", reference.text, generated.text], []⟩ :
        Action μ Tool.Finished).run.run told with ⟨result, after⟩
    rw [hlaunch] at hfiles
    cases result with
    | error error =>
      rw [run_bind_of_error hlaunch]
      exact hfiles
    | ok finished =>
      rw [run_bind_of_ok hlaunch]
      exact hfiles
  unfold TextDiffer.external
  rw [run_bind_of_ok (Action.run_emit _ machine)]
  exact hread _

/-- What a comparison does to the files. -/
inductive Effect (c : Comparator μ) (picture : Picture) (pair : FilePair) (before : FileTree) :
    Except CompareError Outcome → FileTree → Prop where
  /-- It failed, and directories may be new. -/
  | failed {error : CompareError} {after : FileTree} : before.AddsDirectories after →
      after.Sound → Effect c picture pair before (.error error) after
  /-- Nothing was written; a mismatch has an image if there is a place for
      them. -/
  | compared {outcome : Outcome} : outcome.diffImage? = none →
      (outcome.isMismatch = true → c.config.diffDir = none) →
      Effect c picture pair before (.ok outcome) before
  /-- The pair's picture was written into the diff directory. -/
  | drawn {dir : Path} {metric : Metric} {bytes : List UInt8} {between after : FileTree} :
      c.config.diffDir = some dir → before.AddsDirectories between →
      picture before pair.reference pair.generated = .ok bytes →
      between.Written (dir.join ⟨pair.diffFileName⟩) bytes after →
      Effect c picture pair before
        (.ok (.mismatch pair.reference metric (some (dir.join ⟨pair.diffFileName⟩)))) after

section Effects

variable {c : Comparator μ} {picture : Picture}

/-- A comparison takes nothing away. -/
theorem Effect.grows {pair : FilePair} {before after : FileTree}
    {result : Except CompareError Outcome} (h : c.Effect picture pair before result after)
    (hbefore : before.Sound) : before.Grows after ∧ after.Sound := by
  cases h with
  | failed hadds hsound => exact ⟨hadds.grows, hsound⟩
  | compared => exact ⟨.refl before, hbefore⟩
  | drawn _ hadds _ hwritten => exact ⟨hadds.grows.trans hwritten.grows, hwritten.sound⟩

/-- Draws a pair, with a warning if there is something already. -/
def drawOver (c : Comparator μ) (pair : FilePair) (output : Path) : Action μ Path := do
  if (← Action.files).pathExists output then
    Action.emit ⟨.warn, .comparator, "Overwriting existing diff image",
      [.path "output" output]⟩
  c.backend.renderDiff pair.reference pair.generated output
  return output

variable (hdraws : c.backend.Draws picture)

include hdraws

/-- Drawing writes the picture, or fails and changes no files. -/
theorem run_drawOver (pair : FilePair) (output : Path) (machine : Machine μ) :
    (∃ error after, (c.drawOver pair output).run.run machine = (.error error, after) ∧
      after.files = machine.files) ∨
    ∃ bytes after, (c.drawOver pair output).run.run machine = (.ok output, after) ∧
      picture machine.files pair.reference pair.generated = .ok bytes ∧
      machine.files.writeFile output bytes = .ok after.files := by
  have hdrawn (machine : Machine μ) :
      let draw : Action μ Path :=
        c.backend.renderDiff pair.reference pair.generated output >>= fun _ => pure output
      (∃ error after, draw.run.run machine = (.error error, after) ∧
        after.files = machine.files) ∨
      ∃ bytes after, draw.run.run machine = (.ok output, after) ∧
        picture machine.files pair.reference pair.generated = .ok bytes ∧
        machine.files.writeFile output bytes = .ok after.files := by
    rcases hdraws.renderDiff pair.reference pair.generated output machine with
      ⟨error, after, hrun, hfiles⟩ | ⟨bytes, after, hrun, hpicture, hwrite⟩
    · exact .inl ⟨error, after, run_bind_of_error hrun _, hfiles⟩
    · exact .inr ⟨bytes, after, run_bind_of_ok hrun _, hpicture, hwrite⟩
  unfold drawOver
  rw [run_bind_of_ok (Action.run_files machine)]
  split
  -- a file that is there is warned about, and drawn over all the same
  · rw [run_bind_of_ok (Action.run_emit _ machine)]
    exact hdrawn (Action.said machine _)
  · exact hdrawn machine

/-- Writing a diff image creates directories and draws, as far as it comes. -/
theorem run_writeDiffImage (pair : FilePair) (dir : Path) (machine : Machine μ)
    (hsound : machine.files.Sound) :
    (∃ error after, (c.writeDiffImage pair dir).run.run machine = (.error error, after) ∧
      machine.files.AddsDirectories after.files ∧ after.files.Sound) ∨
    ∃ between bytes after, (c.writeDiffImage pair dir).run.run machine
        = (.ok (dir.join ⟨pair.diffFileName⟩), after) ∧
      machine.files.AddsDirectories between ∧ between.Sound ∧
      picture between pair.reference pair.generated = .ok bytes ∧
      between.writeFile (dir.join ⟨pair.diffFileName⟩) bytes = .ok after.files := by
  -- drawing once the directory is there
  have hdrawn (files : FileTree) (hadds : machine.files.AddsDirectories files)
      (hfiles : files.Sound) : (∃ error after,
        (c.drawOver pair (dir.join ⟨pair.diffFileName⟩)).run.run { machine with files := files }
          = (.error error, after) ∧
        machine.files.AddsDirectories after.files ∧ after.files.Sound) ∨
      ∃ between bytes after,
        (c.drawOver pair (dir.join ⟨pair.diffFileName⟩)).run.run { machine with files := files }
          = (.ok (dir.join ⟨pair.diffFileName⟩), after) ∧
        machine.files.AddsDirectories between ∧ between.Sound ∧
        picture between pair.reference pair.generated = .ok bytes ∧
        between.writeFile (dir.join ⟨pair.diffFileName⟩) bytes = .ok after.files := by
    rcases run_drawOver hdraws pair (dir.join ⟨pair.diffFileName⟩) { machine with files := files }
      with ⟨error, after, hrun, hsame⟩ | ⟨bytes, after, hrun, hpicture, hwrite⟩
    · exact .inl ⟨error, after, hrun, hsame ▸ hadds, hsame ▸ hfiles⟩
    · exact .inr ⟨files, bytes, after, hrun, hadds, hfiles, hpicture, hwrite⟩
  unfold writeDiffImage
  rw [run_bind_of_ok (Action.run_files machine)]
  -- a directory that exists is taken as it is
  by_cases hthere : machine.files.pathExists dir = true
  · rw [hthere]
    exact hdrawn machine.files (.refl _) hsound
  · rw [Bool.eq_false_iff.2 hthere]
    obtain ⟨hadds, hmade⟩ := hsound.makeDirs dir
    simp only [Bool.not_false, if_true]
    rw [run_bind_of_ok (Action.run_files machine)]
    rcases hdirs : machine.files.makeDirs dir with ⟨made, files⟩
    rw [hdirs] at hadds hmade
    dsimp only
    rw [run_bind_of_ok (Action.run_setFiles files machine)]
    cases made with
    | error error => exact .inl ⟨_, _, rfl, hadds, hmade⟩
    | ok _ => exact hdrawn files hadds hmade

/-- What comparing images does to the files. -/
theorem compareImages_effect (pair : FilePair) (machine : Machine μ)
    (hsound : machine.files.Sound) :
    c.Effect picture pair machine.files ((c.compareImages pair).run.run machine).1
      ((c.compareImages pair).run.run machine).2.files := by
  obtain ⟨hkept, hdrawable⟩ := hdraws.measure pair.reference pair.generated machine
  unfold compareImages
  rcases hmeasure : (c.backend.measure pair.reference pair.generated).run.run machine
    with ⟨result, measured⟩
  rw [hmeasure] at hkept hdrawable
  replace hkept : measured.files = machine.files := hkept
  cases result with
  | error error =>
    rw [run_bind_of_error hmeasure]
    exact .failed (hkept ▸ .refl _) (hkept ▸ hsound)
  | ok metric =>
    rw [run_bind_of_ok hmeasure, run_bind_of_ok (Action.run_emit _ measured), ← hkept]
    split
    · exact .compared rfl (fun h => nomatch h)
    cases hdir : c.config.diffDir with
    | none => exact .compared rfl fun _ => hdir
    | some dir =>
      obtain ⟨bytes, hbytes⟩ := hdrawable metric rfl
      rw [← hkept] at hbytes hsound
      rcases run_writeDiffImage hdraws pair dir (Action.said measured ⟨.debug, .comparator,
          "Measured image pair", [.path "reference" pair.relative, .number "mse" metric.value]⟩)
          hsound with ⟨error, after, hrun, hadds, hafter⟩ | hwritten
      · dsimp only
        rw [run_bind_of_error hrun]
        exact .failed hadds hafter
      · obtain ⟨between, bytes', after, hrun, hadds, hbetween, hpicture, hwrite⟩ := hwritten
        -- what is drawn among new directories is what there was to draw
        have hsame := hdraws.stable hsound hadds hbytes
        rw [hpicture] at hsame
        cases hsame
        dsimp only
        rw [run_bind_of_ok hrun]
        exact .drawn hdir hadds hbytes (hbetween.written hwrite)

omit hdraws in
/-- Comparing texts does nothing to the files. -/
theorem compareTexts_effect (htexts : c.TextsLeaveFiles) (pair : FilePair) (machine : Machine μ)
    (hsound : machine.files.Sound) :
    c.Effect picture pair machine.files ((c.compareTexts pair).run.run machine).1
      ((c.compareTexts pair).run.run machine).2.files := by
  unfold compareTexts
  cases hdiffer : c.textDiffer with
  | none => exact .compared rfl (fun h => nomatch h)
  | some differ =>
    dsimp only
    split
    · exact .compared rfl (fun h => nomatch h)
    have hkept := htexts differ hdiffer pair.reference pair.generated machine
    rcases hdiff : (differ pair.reference pair.generated).run.run machine with ⟨result, after⟩
    rw [hdiff] at hkept
    replace hkept : after.files = machine.files := hkept
    cases result with
    | error error =>
      rw [run_bind_of_error hdiff]
      exact .failed (hkept ▸ .refl _) (hkept ▸ hsound)
    | ok output? =>
      rw [run_bind_of_ok hdiff, ← hkept]
      cases output? with
      | none => exact .compared rfl (fun h => nomatch h)
      | some output => exact .compared rfl (fun h => nomatch h)

/-- What a comparison does to the files. -/
theorem comparePair_effect (htexts : c.TextsLeaveFiles) (pair : FilePair) (machine : Machine μ)
    (hsound : machine.files.Sound) :
    c.Effect picture pair machine.files ((c.comparePair pair).run.run machine).1
      ((c.comparePair pair).run.run machine).2.files := by
  unfold comparePair
  rw [run_bind_of_ok (Action.run_files machine)]
  split
  · rw [run_bind_of_ok (Action.run_emit _ machine)]
    exact .compared rfl (fun h => nomatch h)
  split
  · exact compareImages_effect hdraws pair machine hsound
  · exact compareTexts_effect htexts pair machine hsound

end Effects

end Comparator

end RenderCheck
