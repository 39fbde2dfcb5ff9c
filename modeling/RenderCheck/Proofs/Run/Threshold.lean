import RenderCheck.Proofs.Run.Beside

/-! # Runs with a higher threshold

    With a higher threshold some mismatches pass, and nothing else about a run
    changes: it reads, measures and compares the same, and its report is the
    same without the lines of those mismatches.

    * **Outcomes** with a higher threshold: `Outcome.under`.
    * **Comparators** with two thresholds lie side by side (`beside_withBackend`).
    * **Runs**: `run_under_higher_threshold`. -/

namespace RenderCheck

variable {μ : Type}

/-! ## Outcomes -/

namespace Outcome

/-- A mismatch that passes with this threshold. -/
def isWithin (threshold : Binary64) : Outcome → Bool
  | mismatch _ metric _ => !metric.exceeds threshold
  | _ => false

/-- The outcome with a threshold that is at least as high. -/
def under (threshold : Binary64) : Outcome → Outcome
  | mismatch reference metric diffImage =>
    if metric.exceeds threshold then mismatch reference metric diffImage else passed metric
  | outcome => outcome

/-- What is a mismatch that passes is passed, and all else stays. -/
theorem under_eq (threshold : Binary64) (outcome : Outcome) :
    (∃ reference metric diffImage, outcome = mismatch reference metric diffImage ∧
      outcome.isWithin threshold = true ∧ outcome.under threshold = passed metric) ∨
    (outcome.isWithin threshold = false ∧ outcome.under threshold = outcome) := by
  cases outcome with
  | mismatch reference metric diffImage =>
    cases hexceeds : metric.exceeds threshold with
    | false =>
      refine .inl ⟨reference, metric, diffImage, rfl, ?_, ?_⟩
      · simp [isWithin, hexceeds]
      · simp [under, hexceeds]
    | true => exact .inr ⟨by simp [isWithin, hexceeds], by simp [under, hexceeds]⟩
  | _ => exact .inr ⟨rfl, rfl⟩

/-- Only mismatches pass with a higher threshold. -/
theorem isMismatch_of_isWithin {threshold : Binary64} {outcome : Outcome}
    (h : outcome.isWithin threshold = true) : outcome.isMismatch = true := by
  rcases outcome.under_eq threshold with ⟨reference, metric, diffImage, rfl, -⟩ | ⟨hfalse, -⟩
  · rfl
  · rw [hfalse] at h
    cases h

end Outcome

/-- The lines of what has passed are gone from the report, and nothing else is. -/
theorem reportText_map_under (threshold : Binary64) (outcomes : List Outcome) :
    reportText (outcomes.map (Outcome.under threshold))
      = reportText (outcomes.filter fun outcome => !outcome.isWithin threshold) := by
  induction outcomes with
  | nil => rfl
  | cons outcome outcomes ih =>
    rw [List.map_cons, reportText_cons, ih, List.filter_cons]
    rcases outcome.under_eq threshold with ⟨_, metric, _, -, hwithin, hunder⟩ | ⟨hwithin, hunder⟩
    -- what has passed has no line
    · rw [hwithin, hunder]
      exact String.empty_append
    · rw [hwithin, hunder]
      exact (reportText_cons outcome _).symm

/-- The counters of two runs of which the second has the higher threshold. -/
structure Summary.Relaxed (s s' : Summary) : Prop where
  filesChecked : s'.filesChecked = s.filesChecked
  imagesCompared : s'.imagesCompared = s.imagesCompared
  missing : s'.missing = s.missing
  textDifferences : s'.textDifferences = s.textDifferences
  mismatched : s'.mismatched ≤ s.mismatched

/-- Of the counters that of mismatches may fall, and no other changes. -/
theorem Summary.relaxed_tally (threshold : Binary64) (outcomes : List Outcome) :
    (tally outcomes).Relaxed (tally (outcomes.map (Outcome.under threshold))) := by
  have hcount {keep : Outcome → Bool}
      (hkeep : ∀ outcome : Outcome, keep (outcome.under threshold) = keep outcome) :
      (outcomes.map (Outcome.under threshold)).countP keep = outcomes.countP keep := by
    rw [List.countP_map]
    exact List.countP_congr fun outcome _ => by rw [Function.comp_apply, hkeep]
  have hmismatched : (outcomes.map (Outcome.under threshold)).countP Outcome.isMismatch
      ≤ outcomes.countP Outcome.isMismatch := by
    rw [List.countP_map]
    refine List.countP_mono_left fun outcome _ hmismatch => ?_
    rcases outcome.under_eq threshold with ⟨_, _, _, rfl, -, -⟩ | ⟨-, hunder⟩
    · rfl
    · rwa [Function.comp_apply, hunder] at hmismatch
  refine ⟨List.length_map _, hcount fun outcome => ?_, hcount fun outcome => ?_,
    hcount fun outcome => ?_, hmismatched⟩
  all_goals
    rcases outcome.under_eq threshold with ⟨_, _, _, rfl, -, hunder⟩ | ⟨-, hunder⟩
    all_goals
      rw [hunder]
      try rfl

/-! ## Comparators -/

namespace Comparator

/-- An image is found to be what it was found to be, but for the threshold. -/
theorem alike_compareImages {c c' : Comparator μ} (hbackend : c'.backend = c.backend)
    (hmeasures : c.backend.MeasuresByFiles) (hdiff : c.config.diffDir = none)
    (hdiff' : c'.config.diffDir = none) (hle : c.config.threshold.le c'.config.threshold = true)
    (pair : FilePair) : Action.Alike
      (fun outcome outcome' => outcome' = outcome.under c'.config.threshold)
      (c.compareImages pair) (c'.compareImages pair) := by
  unfold compareImages
  rw [hbackend, hdiff, hdiff']
  refine (hmeasures pair.reference pair.generated).andThen fun metric => ?_
  refine (Action.alike_emit _ _).andThen fun _ => ?_
  -- what exceeds the higher threshold exceeds the lower one
  cases hhigh : metric.exceeds c'.config.threshold with
  | true =>
    have hlow : metric.exceeds c.config.threshold = true := Binary64.lt_of_le_of_lt hle hhigh
    rw [hlow]
    refine Action.alike_pure ?_
    simp [Outcome.under, hhigh]
  | false =>
    cases metric.exceeds c.config.threshold with
    | true =>
      refine Action.alike_pure ?_
      simp [Outcome.under, hhigh]
    | false => exact Action.alike_pure rfl

section Thresholds

variable {config : Config} {toolbox : Tool.Toolbox} {backend : Backend μ} {low high : Binary64}
  {c c' : Comparator μ} (hc : withBackend { config with threshold := low } toolbox backend = .ok c)
  (hc' : withBackend { config with threshold := high } toolbox backend = .ok c')

include hc hc'

/-- Which names are those of images does not depend on the threshold. -/
theorem imagePattern_withBackend : c'.imagePattern = c.imagePattern := by
  obtain ⟨pattern, hpattern, rfl⟩ := withBackend_eq_ok_iff.1 hc
  obtain ⟨pattern', hpattern', rfl⟩ := withBackend_eq_ok_iff.1 hc'
  -- both read the same text
  have hsame : ({ config with threshold := high } : Config).readPattern
      = ({ config with threshold := low } : Config).readPattern := rfl
  rw [hsame, hpattern] at hpattern'
  exact (Except.ok.inj hpattern').symm

/-- Comparators that differ in the threshold lie side by side. -/
theorem beside_withBackend (hmeasures : backend.MeasuresByFiles) (hdiff : config.diffDir = none)
    (hle : low.le high = true) :
    c.Beside c' fun outcome outcome' => outcome' = outcome.under high := by
  obtain ⟨hconfig, rfl, hdiffer⟩ := withBackend_eq_ok hc
  obtain ⟨hconfig', hbackend, hdiffer'⟩ := withBackend_eq_ok hc'
  have hlow : c.config.threshold = low := by rw [hconfig]
  have hhigh : c'.config.threshold = high := by rw [hconfig']
  have hnone : c.config.diffDir = none := by rw [hconfig, ← hdiff]
  have hnone' : c'.config.diffDir = none := by rw [hconfig', ← hdiff]
  refine ⟨?_, hnone'.trans hnone.symm, fun pair => ?_⟩
  · rw [hconfig, hconfig']
    exact ⟨rfl, rfl⟩
  · refine alike_comparePair (imagePattern_withBackend hc hc') (hdiffer'.trans hdiffer.symm)
      (textsByFiles_withBackend hc) ?_ pair ?_
    -- only mismatches depend on the threshold
    · intro outcome hmismatch
      cases outcome with
      | mismatch => cases hmismatch
      | _ => rfl
    · rw [← hhigh]
      refine alike_compareImages hbackend hmeasures hnone hnone' ?_ pair
      rw [hlow, hhigh, hle]

end Thresholds

/-! ## Runs -/

/-- What is found with the higher threshold is what is found with the lower one,
    under the higher. -/
theorem map_outcome_of_matched {high : Binary64} {steps steps' : List (Step μ)}
    (h : List.Forall₂ (Matched fun outcome outcome' => outcome' = outcome.under high) steps steps') :
    steps'.map Step.outcome = (steps.map Step.outcome).map (Outcome.under high) := by
  induction h with
  | nil => rfl
  | cons hstep _ ih => rw [List.map_cons, ih, hstep.2, List.map_cons, List.map_cons]

/-- With a higher threshold a run meets the same items and ends with the same
    error, or succeeds as well. What it writes is what it wrote before without
    the lines of some mismatches, those within the higher threshold; and it
    counts the same, but for mismatches, of which it counts no more. -/
theorem run_under_higher_threshold {config : Config} {toolbox : Tool.Toolbox}
    {backend : Backend μ} {low high : Binary64} {c c' : Comparator μ}
    (hmeasures : backend.MeasuresByFiles) (hdiff : config.diffDir = none)
    (hle : low.le high = true)
    (hc : withBackend { config with threshold := low } toolbox backend = .ok c)
    (hc' : withBackend { config with threshold := high } toolbox backend = .ok c')
    (state : RunState μ) (hsink : state.sink.NeverFails) :
    (∃ error, c.run.run.run state = (.error error, state) ∧
      c'.run.run.run state = (.error error, state)) ∨
    ∃ items steps last error?, c.Goes (c.opened state.machine) items steps last error? ∧
      let found := steps.map Step.outcome
      let reported := found.filter fun outcome => !outcome.isWithin high
      (∀ outcome ∈ found, outcome ∉ reported → outcome.isMismatch = true) ∧
      (c.run.run.run state).2.sink = state.sink.add (Text.encode (reportText found).toList) ∧
      (c'.run.run.run state).2.sink = state.sink.add (Text.encode (reportText reported).toList) ∧
      match error? with
      | some error => (c.run.run.run state).1 = .error error ∧ (c'.run.run.run state).1 = .error error
      | none => ∃ summary summary', (c.run.run.run state).1 = .ok summary ∧
        (c'.run.run.run state).1 = .ok summary' ∧ summary.Relaxed summary' := by
  have hbeside := beside_withBackend hc hc' hmeasures hdiff hle
  cases hvalid : c.config.validateDirs state.machine.files with
  -- directories that are refused are refused whatever the threshold
  | error error =>
    have hvalid' := (hbeside.validateDirs_eq state.machine.files).trans hvalid
    exact .inl ⟨error, c.run_runOver_of_invalid hvalid _, c'.run_runOver_of_invalid hvalid' _⟩
  | ok _ =>
    obtain ⟨items, steps, steps', last, last', error?, hgoes, -, hmatched, -, hrun, hrun'⟩ :=
      hbeside.exists_goes rfl hsink hsink hvalid
    have houtcomes := map_outcome_of_matched hmatched
    refine .inr ⟨items, steps, last, error?, hgoes, ?_, ?_, ?_, ?_⟩
    · intro outcome hfound hleft
      have hwithin : outcome.isWithin high = true := by
        by_contra habove
        exact hleft (List.mem_filter.2 ⟨hfound, by simpa using habove⟩)
      exact Outcome.isMismatch_of_isWithin hwithin
    · rw [hrun]
      cases error? <;> rfl
    · rw [hrun', ← reportText_map_under, ← houtcomes]
      cases error? <;> rfl
    · rw [hrun, hrun']
      cases error? with
      | some error => exact ⟨rfl, rfl⟩
      | none =>
        refine ⟨_, _, rfl, rfl, ?_⟩
        rw [houtcomes]
        exact Summary.relaxed_tally high _

/-! ## A run with two thresholds -/

namespace Raised

/-- Compares the trees `ref` and `out`. -/
def config : Config :=
  { referenceDir := ⟨"ref"⟩, renderDir := ⟨"out"⟩ }

/-- A number written with one digit and a power of ten. -/
def number (digit : Nat) (exponent : Int) : Binary64 :=
  .ofMagnitude false (Binary64.nearestDecimal digit exponent)

/-- One image is a little unlike its counterpart, and another one more so. -/
def script : Backend.Script :=
  { metrics := [("ref/a.png", number 5 (-1)), ("ref/b.png", number 2 0)] }

/-- No program is there to be run. -/
def toolbox : Tool.Toolbox where
  start _ _ := .error .notFound
  perform files _ := (⟨.exited 0, [], []⟩, files)

/-- The names of images. -/
def imagePattern : Glob.Pattern :=
  ⟨[.anyText, .literal '.', .literal 'p', .literal 'n', .literal 'g']⟩

/-- The comparator with a threshold. -/
def comparator (threshold : Binary64) : Comparator (List Backend.Call) where
  config := { config with threshold := threshold }
  backend := .scripted script
  imagePattern := imagePattern
  textDiffer := none

/-- Both trees have these images, and there is one more in the first. -/
def state : RunState (List Backend.Call) where
  machine := {
    files := {
      workingDir := []
      entries := [(["ref"], .directory), (["ref", "a.png"], .file .empty false),
        (["ref", "b.png"], .file .empty false), (["ref", "c.png"], .file .empty false),
        (["out"], .directory), (["out", "a.png"], .file .empty false),
        (["out", "b.png"], .file .empty false)] }
    memory := [] }
  sink := {}

/-- With the higher threshold the first image is not reported any more. -/
theorem reports_fewer :
    (Backend.scripted script).MeasuresByFiles ∧ config.diffDir = none ∧
    (number 1 (-1)).le (number 1 0) = true ∧
    withBackend { config with threshold := number 1 (-1) } toolbox (.scripted script)
      = .ok (comparator (number 1 (-1))) ∧
    withBackend { config with threshold := number 1 0 } toolbox (.scripted script)
      = .ok (comparator (number 1 0)) ∧
    state.sink.NeverFails ∧
    ∃ (found : List Outcome) (summary summary' : Summary),
      let reported := found.filter fun outcome => !outcome.isWithin (number 1 0)
      (∀ outcome ∈ found, outcome ∉ reported → outcome.isMismatch = true) ∧
      Text.encode "ref/a.png: 0.5\nref/b.png: 2\nFile out/c.png does not exist\n".toList
        = Text.encode (reportText found).toList ∧
      Text.encode "ref/b.png: 2\nFile out/c.png does not exist\n".toList
        = Text.encode (reportText reported).toList ∧
      ((comparator (number 1 (-1))).run.run.run state).1 = .ok summary ∧
      ((comparator (number 1 0)).run.run.run state).1 = .ok summary' ∧
      summary.Relaxed summary' := by
  have hmade (threshold : Binary64) :
      withBackend { config with threshold := threshold } toolbox (.scripted script)
        = .ok (comparator threshold) := by
    have hpattern : Glob.Pattern.parse config.imagePattern = .ok imagePattern := by decide +kernel
    unfold withBackend Config.readPattern
    rw [hpattern]
    rfl
  have hle : (number 1 (-1)).le (number 1 0) = true := by decide +kernel
  have hsink : state.sink.NeverFails := ⟨rfl, rfl⟩
  have hmeasures := Backend.scripted_measuresByFiles script
  have hlow : ((comparator (number 1 (-1))).run.run.run state).1
      = .ok { filesChecked := 3, imagesCompared := 2, missing := 1, mismatched := 2 } := by
    decide +kernel
  have hwritten : ((comparator (number 1 (-1))).run.run.run state).2.sink.written = Text.encode
      "ref/a.png: 0.5\nref/b.png: 2\nFile out/c.png does not exist\n".toList := by decide +kernel
  have hwritten' : ((comparator (number 1 0)).run.run.run state).2.sink.written = Text.encode
      "ref/b.png: 2\nFile out/c.png does not exist\n".toList := by decide +kernel
  refine ⟨hmeasures, rfl, hle, hmade _, hmade _, hsink, ?_⟩
  -- both runs succeed, so the last of the cases is the one that applies
  rcases run_under_higher_threshold hmeasures rfl hle (hmade _) (hmade _) state hsink with
    ⟨error, hrefused, -⟩ | ⟨-, steps, -, error?, -, hdropped, hfound, hreported, hresult⟩
  · rw [hrefused] at hlow
    cases hlow
  · cases error? with
    | some error =>
      rw [hresult.1] at hlow
      cases hlow
    | none =>
      obtain ⟨summary, summary', hsummary, hsummary', hrelaxed⟩ := hresult
      rw [hfound] at hwritten
      rw [hreported] at hwritten'
      exact ⟨steps.map Step.outcome, summary, summary', hdropped, hwritten.symm, hwritten'.symm,
        hsummary, hsummary', hrelaxed⟩

end Raised

end Comparator

end RenderCheck
