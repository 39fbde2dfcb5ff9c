import RenderCheck.Proofs.Run.Effects
import RenderCheck.Proofs.Run.History

/-! # What a run leaves alone

    The comparisons of a run only ever add directories and write diff images.
    So a file has the bytes it had, unless a diff image was written where it
    lies; and a diff image is what was drawn, unless a later one was.

    * **Chains grow trees** (`Chain.grows`).
    * **What is new** along a chain (`Chain.keepsAt`), and files that are kept.
    * **Diff images are kept** until the end of a chain (`Chain.drawn`).
    * **Whole runs** do what their chains do, and make directories at most
      (`Course.keepsAt`). -/

namespace RenderCheck

variable {μ : Type}

namespace FileTree

/-- Where a path leads. -/
def destination? (t : FileTree) (p : Path) : Option Location :=
  match t.locate true p with
  | .ok place => some place.location
  | .error _ => none

theorem destination?_of_locate {t : FileTree} {p : Path} {place : Place}
    (h : t.locate true p = .ok place) : t.destination? p = some place.location := by
  rw [destination?, h]

/-- A path leads where it led. -/
theorem Grows.destination? {t t' : FileTree} (h : t.Grows t') (ht : t.Sound) {p : Path}
    {location : Location} (hplace : t.destination? p = some location) :
    t'.destination? p = some location := by
  unfold FileTree.destination? at hplace
  cases hfound : t.locate true p with
  | error error =>
    rw [hfound] at hplace
    cases hplace
  | ok place =>
    rw [hfound] at hplace
    cases hplace
    rw [FileTree.destination?, h.locate ht hfound]

end FileTree

/-- The path of the step's diff image in a directory. -/
def Step.diffPath (step : Step μ) (dir : Path) : Path :=
  dir.join ⟨step.pair.diffFileName⟩

/-- The step's diff image lies at a location. -/
def Step.DrawsAt (step : Step μ) (files : FileTree) (location : Location) : Prop :=
  ∃ output, step.outcome.diffImage? = some output ∧ files.destination? output = some location

namespace Comparator

/-- The mismatches of a run in order. -/
def mismatches (c : Comparator μ) (state : RunState μ) : List (Step μ) :=
  (c.history state).filter (·.outcome.isMismatch)

/-- A diff image of the run lies at a location. -/
def DrawsAt (c : Comparator μ) (state : RunState μ) (files : FileTree) (location : Location) :
    Prop :=
  ∃ dir, c.config.diffDir = some dir ∧
    ∃ step ∈ c.mismatches state, files.destination? (step.diffPath dir) = some location

section Chains

variable {c : Comparator μ} {picture : Picture} (hdraws : c.backend.Draws picture)
  (htexts : c.TextsLeaveFiles)

include hdraws htexts

theorem keepsSound : c.KeepsSound :=
  fun pair machine hsound => ((comparePair_effect hdraws htexts pair machine hsound).grows hsound).2

/-- A step of a chain leaves the files alone, or writes a diff image. -/
theorem effect_of_step {step : Step μ} (hsound : step.before.files.Sound)
    (hstep : (c.comparePair step.pair).run.run step.before = (.ok step.outcome, step.after)) :
    step.outcome.diffImage? = none ∧ (step.outcome.isMismatch = true → c.config.diffDir = none) ∧
        step.after.files = step.before.files ∨
    ∃ dir bytes between, c.config.diffDir = some dir ∧ step.outcome.isMismatch = true ∧
      step.outcome.diffImage? = some (dir.join ⟨step.pair.diffFileName⟩) ∧
      step.before.files.AddsDirectories between ∧
      picture step.before.files step.pair.reference step.pair.generated = .ok bytes ∧
      between.Written (dir.join ⟨step.pair.diffFileName⟩) bytes step.after.files := by
  have heffect := comparePair_effect hdraws htexts step.pair step.before hsound
  rw [hstep] at heffect
  obtain ⟨pair, outcome, before, after⟩ := step
  obtain ⟨files, memory, records, span⟩ := after
  replace heffect : c.Effect picture pair before.files (.ok outcome) files := heffect
  cases heffect with
  | compared himage hnone => exact .inl ⟨himage, hnone, rfl⟩
  | @drawn dir metric bytes between _ hdir hadds hpicture hwritten =>
    exact .inr ⟨dir, bytes, between, hdir, rfl, rfl, hadds, hpicture, hwritten⟩

theorem grows_of_step {step : Step μ} (hsound : step.before.files.Sound)
    (hstep : (c.comparePair step.pair).run.run step.before = (.ok step.outcome, step.after)) :
    step.before.files.Grows step.after.files ∧ step.after.files.Sound := by
  have heffect := comparePair_effect hdraws htexts step.pair step.before hsound
  rw [hstep] at heffect
  exact heffect.grows hsound

/-- A chain takes nothing away. -/
theorem Chain.grows {first last : Machine μ} {steps : List (Step μ)}
    (h : c.Chain first steps last) (hsound : first.files.Sound) :
    first.files.Grows last.files ∧ last.files.Sound := by
  induction h with
  | nil machine => exact ⟨.refl _, hsound⟩
  | cons step hstep _ ih =>
    obtain ⟨hgrows, hafter⟩ := grows_of_step hdraws htexts hsound hstep
    obtain ⟨hrest, hlast⟩ := ih hafter
    exact ⟨hgrows.trans hrest, hlast⟩

/-- At each location a chain leaves what there was, or makes a directory, or
    draws a diff image. -/
theorem Chain.keepsAt {first last : Machine μ} {steps : List (Step μ)}
    (h : c.Chain first steps last) (hsound : first.files.Sound) (location : Location) :
    FileTree.KeepsAt location first.files last.files ∨
      ∃ step ∈ steps, step.DrawsAt last.files location := by
  induction h with
  | nil machine => exact .inl (.inl rfl)
  | @cons step steps last hstep hrest ih =>
    obtain ⟨-, hafter⟩ := grows_of_step hdraws htexts hsound hstep
    have hlater (hdrawn : ∃ later ∈ steps, later.DrawsAt last.files location) :
        ∃ later ∈ step :: steps, later.DrawsAt last.files location := by
      obtain ⟨later, hmem, hthere⟩ := hdrawn
      exact ⟨later, List.mem_cons_of_mem step hmem, hthere⟩
    rcases effect_of_step hdraws htexts hsound hstep with
      ⟨-, -, hsame⟩ | ⟨dir, bytes, between, -, -, himage, hadds, -, hwritten⟩
    · rw [← hsame]
      exact (ih hafter).imp id hlater
    · obtain ⟨drawnAt, executable, hplace, -, helsewhere⟩ := hwritten.file
      by_cases hhere : location = drawnAt
      · subst hhere
        -- the path of the image leads to it to the end, whatever comes later
        have hgrows := (hrest.grows hdraws htexts hafter).1
        exact .inr ⟨step, List.mem_cons_self, _, himage,
          hgrows.destination? hafter (FileTree.destination?_of_locate hplace)⟩
      · have hstep : FileTree.KeepsAt location between step.after.files :=
          .inl (helsewhere location hhere)
        exact (ih hafter).imp ((hadds.keeps location).trans hstep).trans hlater

/-- A file has the bytes it had, or a diff image of the chain lies there. -/
theorem Chain.kept {first last : Machine μ} {steps : List (Step μ)}
    (h : c.Chain first steps last) (hsound : first.files.Sound) {location : Location}
    {content : List UInt8} {executable : Bool}
    (hfile : first.files.node? location = some (.file content executable)) :
    last.files.node? location = some (.file content executable) ∨
      ∃ step ∈ steps, step.DrawsAt last.files location :=
  (h.keepsAt hdraws htexts hsound location).imp (fun hkeeps => hkeeps.node?_of_some hfile) id

/-- A diff image has its path in the diff directory, and is that of a
    mismatch. -/
theorem Chain.diffImage?_eq_some {first last : Machine μ} {steps : List (Step μ)}
    (h : c.Chain first steps last) (hsound : first.files.Sound) {step : Step μ}
    (hmem : step ∈ steps) {output : Path} (himage : step.outcome.diffImage? = some output) :
    ∃ dir, c.config.diffDir = some dir ∧ step.outcome.isMismatch = true ∧
      output = step.diffPath dir := by
  induction h with
  | nil => cases hmem
  | cons first hstep _ ih =>
    obtain ⟨-, hafter⟩ := grows_of_step hdraws htexts hsound hstep
    rcases List.mem_cons.1 hmem with rfl | hmem
    · rcases effect_of_step hdraws htexts hsound hstep with
        ⟨hnone, -⟩ | ⟨dir, -, -, hdir, hmismatch, hsome, -⟩
      · rw [hnone] at himage
        cases himage
      · rw [hsome] at himage
        cases himage
        exact ⟨dir, hdir, hmismatch, rfl⟩
    · exact ih hafter hmem

/-- A mismatch has a diff image if there is a place for them, and it is drawn
    from the files as they were. At the end of the chain it is still what was
    drawn, or a later one lies in its place. -/
theorem Chain.drawn {first last : Machine μ} {front back : List (Step μ)} {step : Step μ}
    (h : c.Chain first (front ++ step :: back) last) (hsound : first.files.Sound) {dir : Path}
    (hdir : c.config.diffDir = some dir) (hmismatch : step.outcome.isMismatch = true) :
    step.outcome.diffImage? = some (dir.join ⟨step.pair.diffFileName⟩) ∧
    ∃ location bytes, picture step.before.files step.pair.reference step.pair.generated = .ok bytes ∧
      last.files.locate true (dir.join ⟨step.pair.diffFileName⟩)
        = .ok ⟨location, last.files.node? location⟩ ∧
      ((∃ executable, last.files.node? location = some (.file bytes executable)) ∨
        ∃ later ∈ back, later.DrawsAt last.files location) := by
  induction front generalizing first with
  | nil =>
    cases h with
    | cons _ hstep hrest =>
      obtain ⟨-, hafter⟩ := grows_of_step hdraws htexts hsound hstep
      rcases effect_of_step hdraws htexts hsound hstep with
        ⟨-, hnone, -⟩ | ⟨dir', bytes, between, hdir', -, himage, -, hpicture, hwritten⟩
      -- without a place for diff images none would have been asked for
      · rw [hnone hmismatch] at hdir
        cases hdir
      · rw [hdir'] at hdir
        cases hdir
        obtain ⟨location, executable, hplace, hnode, -⟩ := hwritten.file
        refine ⟨himage, location, bytes, hpicture, ?_, ?_⟩
        · exact (hrest.grows hdraws htexts hafter).1.locate hafter hplace
        · exact (hrest.kept hdraws htexts hafter hnode).imp (fun hkept => ⟨executable, hkept⟩) id
  | cons earlier front ih =>
    cases h with
    | cons _ hstep hrest =>
      exact ih hrest (grows_of_step hdraws htexts hsound hstep).2

/-! ## Whole runs -/

section Runs

variable {state : RunState μ} (hsound : state.machine.files.Sound) {last : Machine μ}
  (course : c.Course state last)

include hsound course

/-- After the last comparison that succeeded a run makes some directories at
    most. -/
theorem Course.addsDirectories : last.files.Sound ∧
    last.files.AddsDirectories (c.run.run.run state).2.machine.files ∧
      (c.run.run.run state).2.machine.files.Sound := by
  obtain ⟨-, hlast⟩ := course.chain.grows hdraws htexts hsound
  -- a comparison that fails has no effect but directories
  rcases course.ended with hends | ⟨pair, error, after, hpair, hends⟩
  · rw [hends]
    exact ⟨hlast, .refl _, hlast⟩
  · have heffect := comparePair_effect hdraws htexts pair last hlast
    rw [hpair] at heffect
    rw [hends]
    cases heffect with
    | failed hadds hafter => exact ⟨hlast, hadds, hafter⟩

/-- A run takes nothing away. -/
theorem Course.grows : state.machine.files.Grows (c.run.run.run state).2.machine.files ∧
    (c.run.run.run state).2.machine.files.Sound := by
  obtain ⟨-, hadds, hafter⟩ := course.addsDirectories hdraws htexts hsound
  exact ⟨(course.chain.grows hdraws htexts hsound).1.trans hadds.grows, hafter⟩

/-- At each location a run leaves what there was, or makes a directory, or draws
    a diff image. -/
theorem Course.keepsAt (location : Location) :
    FileTree.KeepsAt location state.machine.files (c.run.run.run state).2.machine.files ∨
      c.DrawsAt state (c.run.run.run state).2.machine.files location := by
  obtain ⟨hlast, hadds, -⟩ := course.addsDirectories hdraws htexts hsound
  refine (course.chain.keepsAt hdraws htexts hsound location).imp
    (fun hkeeps => hkeeps.trans (hadds.keeps location)) ?_
  rintro ⟨step, hstep, output, houtput, hplace⟩
  obtain ⟨dir, hdir, hmismatch, rfl⟩ :=
    course.chain.diffImage?_eq_some hdraws htexts hsound hstep houtput
  exact ⟨dir, hdir, step, List.mem_filter.2 ⟨hstep, hmismatch⟩,
    hadds.grows.destination? hlast hplace⟩

end Runs

end Chains

end Comparator

end RenderCheck
