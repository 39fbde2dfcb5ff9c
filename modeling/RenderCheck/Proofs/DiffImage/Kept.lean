import Mathlib.Data.List.Dedup
import RenderCheck.Proofs.DiffImage.Names
import RenderCheck.Proofs.Run.Frame

/-! # Which diff images are kept

    A run draws the images of all mismatches into one directory. Two of them
    can get the same name, and then the later one takes the place of the
    earlier. No image is lost if and only if no two mismatches have relative
    paths that are alike when they are cut at all dashes, and no two of the
    paths of diff images are links to one file.

    * **Mismatches** of a run, their paths and where these lead.
    * **Distinct places** are what decides (`nodup_destinations_iff`).
    * **Nothing lost** (`diff_images_kept_iff`), and a run that loses an image. -/

namespace RenderCheck

variable {μ : Type}

/-- What draws: the built-in comparison, or a script. -/
inductive Painter where
  | native
  | scripted (script : Backend.Script)

namespace Painter

/-- The backend that draws. -/
def backend : Painter → Backend (List Backend.Call)
  | native => .native
  | scripted script => .scripted script

/-- What it draws. -/
def picture : Painter → Picture
  | native => nativePicture
  | scripted _ => scriptedPicture

theorem draws (painter : Painter) : painter.backend.Draws painter.picture :=
  match painter with
  | native => Backend.native_draws
  | scripted script => Backend.scripted_draws script

end Painter

namespace DiffImage

/-- No diff image is lost: mismatches have different paths, as many files were
    written as were counted, and each mismatch finds its own image at its
    path. -/
structure Kept (picture : Picture) (dir : Path) (mismatches : List (Step μ)) (final : FileTree)
    (diffsWritten : Nat) : Prop where
  /-- The paths are different. -/
  distinct : (mismatches.map (·.diffPath dir)).Nodup
  /-- As many different files were written as were counted. -/
  counted : (mismatches.map fun step => final.destination? (step.diffPath dir)).dedup.length
    = diffsWritten
  /-- What lies at a path is what was drawn for it. -/
  found : ∀ step ∈ mismatches, ∃ bytes,
    picture step.before.files step.pair.reference step.pair.generated = .ok bytes ∧
      final.readFile (step.diffPath dir) = .ok bytes

/-! ## Distinct places -/

theorem nodup_map_iff {α β : Type} (f : α → β) (items : List α) :
    (items.map f).Nodup ↔ items.Pairwise fun a b => f a ≠ f b := by
  rw [List.Nodup, List.pairwise_map]

/-- Destinations are different if the paths are, and different paths lead to
    different places. -/
theorem nodup_destinations_iff (final : FileTree) (dir : Path) (mismatches : List (Step μ)) :
    (mismatches.map fun step => final.destination? (step.diffPath dir)).Nodup ↔
      (mismatches.map (·.diffPath dir)).Nodup ∧
      mismatches.Pairwise fun a b => a.diffPath dir ≠ b.diffPath dir →
        final.destination? (a.diffPath dir) ≠ final.destination? (b.diffPath dir) := by
  rw [nodup_map_iff, nodup_map_iff, ← List.pairwise_and_iff]
  refine List.Pairwise.iff fun a b => ⟨fun hne => ⟨fun heq => hne (by rw [heq]), fun _ => hne⟩, ?_⟩
  exact fun ⟨hne, hplaces⟩ => hplaces hne

/-- Paths are different if the relative paths are, cut at all dashes. -/
theorem nodup_paths_iff {referenceRoot renderRoot : Path} (dir : Path)
    {mismatches : List (Step μ)}
    (h : ∀ step ∈ mismatches, ∃ names ≠ [], (∀ name ∈ names, IsName name) ∧
      step.pair = FilePair.below referenceRoot renderRoot names) :
    (mismatches.map (·.diffPath dir)).Nodup ↔ (mismatches.map (·.pair.dashParts)).Nodup := by
  rw [nodup_map_iff, nodup_map_iff]
  refine List.Pairwise.iff_of_mem fun {a b} ha hb => not_congr ?_
  obtain ⟨names, hsome, hnames, hpair⟩ := h a ha
  obtain ⟨names', hsome', hnames', hpair'⟩ := h b hb
  have hname : IsName a.pair.diffFileName := by
    rw [hpair, diffFileName_below hsome hnames]
    exact isName_intercalate hsome hnames
  have hname' : IsName b.pair.diffFileName := by
    rw [hpair', diffFileName_below hsome' hnames']
    exact isName_intercalate hsome' hnames'
  -- both are names in the directory, so the paths differ where these do
  rw [Step.diffPath, Step.diffPath, join_inj dir hname hname', hpair, hpair',
    diffFileName_eq_iff hsome hnames hsome' hnames']

/-- As many different items as there are items are all different. -/
theorem nodup_of_length_dedup {α : Type} [DecidableEq α] {items : List α}
    (h : items.dedup.length = items.length) : items.Nodup := by
  rw [← (List.dedup_sublist items).eq_of_length h]
  exact List.nodup_dedup items

/-! ## Nothing lost -/

/-- Only a mismatch has a diff image. -/
theorem isMismatch_of_diffImage? {outcome : Outcome} {output : Path}
    (h : outcome.diffImage? = some output) : outcome.isMismatch = true := by
  cases outcome with
  | mismatch => rfl
  | _ => cases h

section Run

variable {c : Comparator μ} {picture : Picture} (hdraws : c.backend.Draws picture)
  (htexts : c.TextsLeaveFiles) {dir : Path} (hdir : c.config.diffDir = some dir)
  {state : RunState μ} (hsound : state.machine.files.Sound) {last : Machine μ}
  (course : c.Course state last)

include hdraws htexts hdir hsound course

/-- The image of every mismatch is drawn, and unless a later one lies in its
    place it is there in the end. -/
theorem exists_destination {front back : List (Step μ)} {step : Step μ}
    (hhistory : c.history state = front ++ step :: back)
    (hmismatch : step.outcome.isMismatch = true) :
    step.outcome.diffImage? = some (step.diffPath dir) ∧
    ∃ location bytes, picture step.before.files step.pair.reference step.pair.generated = .ok bytes ∧
      last.files.destination? (step.diffPath dir) = some location ∧
      (last.files.readFile (step.diffPath dir) = .ok bytes ∨
        ∃ later ∈ back, later.outcome.isMismatch = true ∧
          last.files.destination? (later.diffPath dir) = some location) := by
  have hchain := course.chain
  rw [hhistory] at hchain
  obtain ⟨himage, location, bytes, hpicture, hplace, hkept⟩ :=
    hchain.drawn hdraws htexts hsound hdir hmismatch
  refine ⟨himage, location, bytes, hpicture, ?_, hkept.imp ?_ ?_⟩
  · exact FileTree.destination?_of_locate hplace
  · rintro ⟨executable, hfile⟩
    refine FileTree.readFile_eq_ok_iff.2 ⟨location, executable, ?_⟩
    rw [Step.diffPath, hplace, hfile]
  · rintro ⟨later, hlater, output, houtput, hthere⟩
    have hlaterMismatch := isMismatch_of_diffImage? houtput
    refine ⟨later, hlater, hlaterMismatch, ?_⟩
    obtain ⟨between, rest, rfl⟩ := List.append_of_mem hlater
    -- the later mismatch divides the history in its own way
    have hsplit : front ++ step :: (between ++ later :: rest)
        = (front ++ step :: between) ++ later :: rest := by simp
    rw [hsplit] at hchain
    obtain ⟨himage', -⟩ := hchain.drawn hdraws htexts hsound hdir hlaterMismatch
    rw [himage'] at houtput
    cases houtput
    exact hthere

/-- Every mismatch has a diff image at its path. -/
theorem diffImage?_of_mem {step : Step μ} (hstep : step ∈ c.mismatches state) :
    step.outcome.diffImage? = some (step.diffPath dir) := by
  obtain ⟨hmem, hmismatch⟩ := List.mem_filter.1 hstep
  obtain ⟨front, back, hhistory⟩ := List.append_of_mem hmem
  exact (exists_destination hdraws htexts hdir hsound course hhistory hmismatch).1

/-- As many diff images are counted as there are mismatches. -/
theorem diffsWritten_eq :
    (Summary.tally ((c.history state).map Step.outcome)).diffsWritten
      = (c.mismatches state).length := by
  show ((c.history state).map Step.outcome).countP _ = _
  rw [List.countP_map, List.countP_eq_length_filter, Comparator.mismatches]
  congr 1
  apply List.filter_congr
  intro step hstep
  show step.outcome.diffImage?.isSome = step.outcome.isMismatch
  by_cases hmismatch : step.outcome.isMismatch = true
  · have himage := diffImage?_of_mem hdraws htexts hdir hsound course
      (List.mem_filter.2 ⟨hstep, hmismatch⟩)
    rw [himage, hmismatch]
    rfl
  · have hnone : step.outcome.diffImage? = none :=
      Option.eq_none_iff_forall_ne_some.2 fun output houtput =>
        hmismatch (isMismatch_of_diffImage? houtput)
    rw [hnone, Bool.eq_false_iff.2 hmismatch]
    rfl

/-- Where all images lie in different places each is what was drawn. -/
theorem readFile_of_nodup
    (hplaces : ((c.mismatches state).map fun step =>
      last.files.destination? (step.diffPath dir)).Nodup) {step : Step μ}
    (hstep : step ∈ c.mismatches state) :
    ∃ bytes, picture step.before.files step.pair.reference step.pair.generated = .ok bytes ∧
      last.files.readFile (step.diffPath dir) = .ok bytes := by
  obtain ⟨hmem, hmismatch⟩ := List.mem_filter.1 hstep
  obtain ⟨front, back, hhistory⟩ := List.append_of_mem hmem
  obtain ⟨-, location, bytes, hpicture, hplace, hread⟩ :=
    exists_destination hdraws htexts hdir hsound course hhistory hmismatch
  refine ⟨bytes, hpicture, hread.resolve_right ?_⟩
  rintro ⟨later, hlater, hlaterMismatch, hsame⟩
  -- the later image would lie in the same place
  rw [Comparator.mismatches, hhistory, List.filter_append,
    List.filter_cons_of_pos (by simpa using hmismatch), List.map_append, List.map_cons,
    List.nodup_append, List.nodup_cons] at hplaces
  refine hplaces.2.1.1 (List.mem_map.2 ⟨later, List.mem_filter.2 ⟨hlater, hlaterMismatch⟩, ?_⟩)
  rw [hplace, hsame]

end Run

/-- Every mismatch of a run that succeeds has a diff image, and these are all
    kept if and only if the relative paths of mismatches are different when
    they are cut at all dashes, and different paths lead to different
    places. -/
theorem diff_images_kept_iff (painter : Painter) (c : Comparator (List Backend.Call))
    (hbackend : c.backend = painter.backend) (htexts : c.TextsLeaveFiles) (dir : Path)
    (hdir : c.config.diffDir = some dir) (state : RunState (List Backend.Call))
    (hsound : state.machine.files.Sound) (summary : Summary)
    (hrun : (c.run.run.run state).1 = .ok summary) :
    let final := (c.run.run.run state).2.machine.files
    (∀ step ∈ c.mismatches state, step.outcome.diffImage? = some (step.diffPath dir)) ∧
    (Kept painter.picture dir (c.mismatches state) final summary.diffsWritten ↔
      ((c.mismatches state).map (·.pair.dashParts)).Nodup ∧
      (c.mismatches state).Pairwise fun a b => a.diffPath dir ≠ b.diffPath dir →
        final.destination? (a.diffPath dir) ≠ final.destination? (b.diffPath dir)) := by
  intro final
  have hdraws : c.backend.Draws painter.picture := hbackend ▸ painter.draws
  obtain ⟨last, course⟩ := Comparator.exists_course (Comparator.keepsSound hdraws htexts) hsound
  obtain ⟨hsummary, hfinal⟩ := course.succeeded summary hrun
  have hcount : summary.diffsWritten = (c.mismatches state).length := by
    rw [hsummary]
    exact diffsWritten_eq hdraws htexts hdir hsound course
  have hpairs : ∀ step ∈ c.mismatches state, ∃ names ≠ [], (∀ name ∈ names, IsName name) ∧
      step.pair = FilePair.below c.config.referenceDir c.config.renderDir names :=
    fun step hstep => course.pairs step (List.mem_filter.1 hstep).1
  have hpaths := nodup_paths_iff dir hpairs
  refine ⟨fun step => diffImage?_of_mem hdraws htexts hdir hsound course, ?_⟩
  rw [← hpaths, ← nodup_destinations_iff]
  constructor
  -- fewer places than counted images would mean that two share one
  · intro hkept
    refine nodup_of_length_dedup ?_
    rw [hkept.counted, hcount, List.length_map]
  · intro hplaces
    refine ⟨((nodup_destinations_iff _ _ _).1 hplaces).1, ?_, ?_⟩
    · rw [hplaces.dedup, hcount, List.length_map]
    · intro step hstep
      show ∃ bytes, _ ∧ (c.run.run.run state).2.machine.files.readFile _ = _
      rw [hfinal]
      refine readFile_of_nodup hdraws htexts hdir hsound course ?_ hstep
      rw [← hfinal]
      exact hplaces

/-! ## Runs with dashes in names -/

namespace Dashes

/-- Compares the trees `ref` and `out` by a script that finds some images
    unlike. -/
def comparator (images : List (String × String)) : Comparator (List Backend.Call) where
  config := { referenceDir := ⟨"ref"⟩, renderDir := ⟨"out"⟩, diffDir := some ⟨"diffs"⟩ }
  backend := .scripted ⟨images.map fun (dir, name) =>
    ("ref/" ++ dir ++ "/" ++ name, ⟨0x3FF0000000000000⟩), []⟩
  imagePattern := ⟨[.anyText]⟩
  textDiffer := none

/-- Images in directories of their own, in both trees. -/
def state (images : List (String × String)) : RunState (List Backend.Call) where
  machine := {
    files := {
      workingDir := []
      entries := ["ref", "out"].flatMap fun root =>
        ([root], .directory) :: images.flatMap fun (dir, name) =>
          [([root, dir], .directory), ([root, dir, name], .file .empty false)] }
    memory := [] }
  sink := {}

/-- Two images whose diff images have different names. -/
def apart : List (String × String) :=
  [("a", "b.png"), ("a-b", "c.png")]

/-- Both are kept. -/
theorem images_kept_apart :
    (state apart).machine.files.Sound ∧
    ((comparator apart).run.run.run (state apart)).1
      = .ok { filesChecked := 2, imagesCompared := 2, mismatched := 2, diffsWritten := 2 } ∧
    Kept scriptedPicture ⟨"diffs"⟩ ((comparator apart).mismatches (state apart))
      ((comparator apart).run.run.run (state apart)).2.machine.files 2 := by
  -- what the run does is computed once for all that is asked of it
  obtain ⟨hsound, hrun, hparts, hplaces⟩ : (state apart).machine.files.Sound ∧
      ((comparator apart).run.run.run (state apart)).1
        = .ok { filesChecked := 2, imagesCompared := 2, mismatched := 2, diffsWritten := 2 } ∧
      (((comparator apart).mismatches (state apart)).map (·.pair.dashParts)).Nodup ∧
      ((comparator apart).mismatches (state apart)).Pairwise fun a b =>
        a.diffPath ⟨"diffs"⟩ ≠ b.diffPath ⟨"diffs"⟩ →
          ((comparator apart).run.run.run (state apart)).2.machine.files.destination?
              (a.diffPath ⟨"diffs"⟩)
            ≠ ((comparator apart).run.run.run (state apart)).2.machine.files.destination?
              (b.diffPath ⟨"diffs"⟩) := by
    decide +kernel
  refine ⟨hsound, hrun, ?_⟩
  exact (diff_images_kept_iff (.scripted _) (comparator apart) rfl (fun _ h => nomatch h)
    ⟨"diffs"⟩ rfl (state apart) hsound _ hrun).2.2 ⟨hparts, hplaces⟩

/-- Two images whose diff images have one name. -/
def together : List (String × String) :=
  [("a", "b-c.png"), ("a-b", "c.png")]

/-- One of them is lost, though the run counts both. -/
theorem image_lost_together :
    ((comparator together).run.run.run (state together)).1
      = .ok { filesChecked := 2, imagesCompared := 2, mismatched := 2, diffsWritten := 2 } ∧
    ((comparator together).mismatches (state together)).map (·.pair.relative)
      = [⟨"a/b-c.png"⟩, ⟨"a-b/c.png"⟩] ∧
    ((comparator together).mismatches (state together)).map (·.outcome.diffImage?)
      = [some ⟨"diffs/a-b-c.png"⟩, some ⟨"diffs/a-b-c.png"⟩] ∧
    ¬Kept scriptedPicture ⟨"diffs"⟩ ((comparator together).mismatches (state together))
      ((comparator together).run.run.run (state together)).2.machine.files 2 := by
  obtain ⟨hrun, hpairs, himages, hsame⟩ :
      ((comparator together).run.run.run (state together)).1
        = .ok { filesChecked := 2, imagesCompared := 2, mismatched := 2, diffsWritten := 2 } ∧
      ((comparator together).mismatches (state together)).map (·.pair.relative)
        = [⟨"a/b-c.png"⟩, ⟨"a-b/c.png"⟩] ∧
      ((comparator together).mismatches (state together)).map (·.outcome.diffImage?)
        = [some ⟨"diffs/a-b-c.png"⟩, some ⟨"diffs/a-b-c.png"⟩] ∧
      ¬(((comparator together).mismatches (state together)).map (·.diffPath ⟨"diffs"⟩)).Nodup := by
    decide +kernel
  exact ⟨hrun, hpairs, himages, fun hkept => hsame hkept.distinct⟩

end Dashes

end DiffImage

end RenderCheck
