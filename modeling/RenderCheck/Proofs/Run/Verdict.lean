import RenderCheck.Proofs.Config
import RenderCheck.Proofs.Image.Metric
import RenderCheck.Proofs.Metric.Reading
import RenderCheck.Proofs.Tool.Answers

/-! # Verdicts on image pairs

    A pair of images passes unless its metric is above the threshold. Numbers
    are ordered, so that a metric that is a number passes within the threshold
    only; but a metric that is no number is not above anything, and passes.

    * **Verdicts** come from what was measured (`judged_of_comparePair`).
    * **Metrics** that are no numbers: the built-in comparison measures none
      (`isNaN_of_native`), and an external program has to say so
      (`isNaN_iff_of_externalTools`).
    * **Passing**: `comparePair_within_threshold`. -/

namespace RenderCheck

variable {μ : Type}

/-! ## Verdicts -/

/-- The verdict on a pair with a metric. -/
inductive Judged (reference : Path) (metric : Metric) (threshold : Binary64) : Outcome → Prop where
  | passed : metric.exceeds threshold = false → Judged reference metric threshold (.passed metric)
  | mismatch {diffImage : Option Path} : metric.exceeds threshold = true →
    Judged reference metric threshold (.mismatch reference metric diffImage)

namespace Comparator

variable {c : Comparator μ} {pair : FilePair} {machine after : Machine μ} {outcome : Outcome}

/-- Images are judged by what was measured. -/
theorem judged_of_compareImages
    (hrun : (c.compareImages pair).run.run machine = (.ok outcome, after)) :
    ∃ metric, ((c.backend.measure pair.reference pair.generated).run.run machine).1 = .ok metric ∧
      Judged pair.reference metric c.config.threshold outcome := by
  unfold compareImages at hrun
  rcases hmeasure : (c.backend.measure pair.reference pair.generated).run.run machine
    with ⟨result, measured⟩
  cases result with
  | error error =>
    rw [run_bind_of_error hmeasure] at hrun
    cases hrun
  | ok metric =>
    rw [run_bind_of_ok hmeasure, run_bind_of_ok (Action.run_emit _ measured)] at hrun
    refine ⟨metric, rfl, ?_⟩
    split at hrun
    · next hwithin =>
      cases hrun
      exact .passed (by simpa using hwithin)
    · next habove =>
      have hexceeds : metric.exceeds c.config.threshold = true := by simpa using habove
      split at hrun
      · cases hrun
        exact .mismatch hexceeds
      · next dir _ =>
        exact Action.yields_bind (c.writeDiffImage pair dir)
          (fun _ => Action.yields_pure (.mismatch hexceeds)) _ _ _ hrun

/-- Texts are not judged by a metric. -/
theorem yields_compareTexts (pair : FilePair) :
    Action.Yields (fun outcome => outcome.isPassed = false ∧ outcome.isMismatch = false)
      (c.compareTexts pair) := by
  unfold compareTexts
  split
  · exact Action.yields_pure ⟨rfl, rfl⟩
  split
  · exact Action.yields_pure ⟨rfl, rfl⟩
  refine Action.yields_bind _ fun output? => ?_
  split
  · exact Action.yields_pure ⟨rfl, rfl⟩
  · exact Action.yields_pure ⟨rfl, rfl⟩

/-- A pair that passed or is a mismatch was judged by what was measured. -/
theorem judged_of_comparePair (hrun : (c.comparePair pair).run.run machine = (.ok outcome, after))
    (h : outcome.isPassed = true ∨ outcome.isMismatch = true) :
    ∃ metric, ((c.backend.measure pair.reference pair.generated).run.run machine).1 = .ok metric ∧
      Judged pair.reference metric c.config.threshold outcome := by
  unfold comparePair at hrun
  rw [run_bind_of_ok (Action.run_files machine)] at hrun
  split at hrun
  · rw [run_bind_of_ok (Action.run_emit _ machine)] at hrun
    cases hrun
    rcases h with h | h <;> cases h
  split at hrun
  · exact judged_of_compareImages hrun
  · obtain ⟨hpassed, hmismatch⟩ := yields_compareTexts pair machine outcome after hrun
    rw [hpassed, hmismatch] at h
    rcases h with h | h <;> cases h

end Comparator

/-! ## Metrics that are no numbers -/

/-- A program that exited as one does that found a difference, and called it no
    number. -/
def Tool.Finished.SaysNaN (finished : Tool.Finished) : Prop :=
  finished.status.code? = some 1 ∧ Metric.SaysNaN finished.combinedOutput

namespace Backend

variable {reference generated : Path} {machine : Machine μ} {metric : Metric}

/-- What the built-in comparison measures is a number. -/
theorem isNaN_of_native
    (h : ((native.measure reference generated).run.run machine).1 = .ok metric) :
    metric.value.isNaN = false := by
  cases hpair : loadPair reference generated machine.files with
  | error error =>
    rw [run_measure_of_error hpair] at h
    cases h
  | ok images =>
    obtain ⟨a, b⟩ := images
    obtain ⟨event, hmeasure⟩ := run_measure_of_ok hpair
    rw [hmeasure] at h
    cases h
    exact Metric.isNaN_ofImages
      (machine.files.gives_readImage reference a (loadPair_eq_ok_iff.1 hpair).1) b

/-- What is left of the comparing program once it has measured a pair. -/
def measured (toolbox : Tool.Toolbox) (programs : Programs) (reference generated : Path)
    (files : FileTree) : Tool.Finished :=
  (toolbox.perform files (measuring programs reference generated)).1

/-- A program that measured something has been run. -/
theorem readMeasure_of_externalTools {toolbox : Tool.Toolbox} {programs : Programs}
    (h : (((externalTools toolbox programs).measure reference generated).run.run machine).1
      = .ok metric) :
    readMeasure programs.compare (measured toolbox programs reference generated machine.files)
      = .ok metric := by
  rw [result_measure] at h
  unfold Tool.Toolbox.launched at h
  unfold measured
  cases hstart : toolbox.start machine.files (measuring programs reference generated) with
  | error cause =>
    rw [hstart] at h
    cases h
  | ok _ =>
    rw [hstart] at h
    exact h

/-- An external program measures no number only if it says so. -/
theorem isNaN_iff_of_externalTools {toolbox : Tool.Toolbox} {programs : Programs}
    (h : (((externalTools toolbox programs).measure reference generated).run.run machine).1
      = .ok metric) :
    metric.value.isNaN = true ↔
      (measured toolbox programs reference generated machine.files).SaysNaN := by
  have hread := readMeasure_of_externalTools h
  generalize measured toolbox programs reference generated machine.files = finished at hread ⊢
  unfold Tool.Finished.SaysNaN
  unfold readMeasure at hread
  split at hread
  · next hcode =>
    cases hread
    have hnumber : Metric.identical.value.isNaN = false := by decide
    rw [hcode, hnumber]
    simp
  · next hcode =>
    rw [Metric.isNaN_iff_saysNaN hread]
    exact ⟨fun hsays => ⟨hcode, hsays⟩, And.right⟩
  · cases hread

end Backend

/-! ## Passing -/

namespace Comparator

/-- A number passes within the threshold, and what is no number passes as well. -/
theorem le_iff_of_not_exceeds {metric : Metric} {threshold : Binary64}
    (hthreshold : threshold.isFinite = true) (h : metric.exceeds threshold = false) :
    metric.value.le threshold = true ↔ metric.value.isNaN = false := by
  have hnumber : threshold.isNaN = false := Binary64.isNaN_of_isFinite hthreshold
  constructor
  · intro hle
    rw [Binary64.le, Bool.and_eq_true, Bool.and_eq_true, Bool.not_eq_true'] at hle
    exact hle.1.1
  · exact fun hmetric => (Binary64.le_iff_not_lt hmetric hnumber).2 h

/-- An image pair that passes has the metric that was measured, and is within
    the threshold just if that is a number; a mismatch is above the threshold.
    Pairs that the built-in comparison measured always pass within the threshold,
    and pairs that an external program measured do unless it exited with 1 and
    said that the metric is no number. -/
theorem comparePair_within_threshold {settings : List Setting} {config : Config}
    (hbuild : Config.build settings = .ok config) {toolbox : Tool.Toolbox} {backend : Backend μ}
    {c : Comparator μ} (hc : withBackend config toolbox backend = .ok c) {pair : FilePair}
    {machine after : Machine μ} {outcome : Outcome}
    (hrun : (c.comparePair pair).run.run machine = (.ok outcome, after)) (metric : Metric) :
    let measured := ((backend.measure pair.reference pair.generated).run.run machine).1
    (outcome = .passed metric → measured = .ok metric ∧
      (metric.value.le config.threshold = true ↔ metric.value.isNaN = false)) ∧
    (∀ reference diffImage, outcome = .mismatch reference metric diffImage →
      measured = .ok metric ∧ config.threshold.lt metric.value = true) ∧
    (backend = .native → outcome = .passed metric → metric.value.le config.threshold = true) ∧
    ∀ tools programs, backend = .externalTools tools programs → outcome = .passed metric →
      (metric.value.le config.threshold = true ↔
        ¬ (Backend.measured tools programs pair.reference pair.generated machine.files).SaysNaN) := by
  obtain ⟨hconfig, hbackend, -⟩ := withBackend_eq_ok hc
  have hfinite := (Config.build_eq_ok_iff.1 hbuild).2.finite
  -- a verdict was passed on what the backend measured
  have hjudged (h : outcome.isPassed = true ∨ outcome.isMismatch = true) := by
    have hjudged := judged_of_comparePair hrun h
    rwa [hconfig, hbackend] at hjudged
  have hpassed (h : outcome = .passed metric) :
      ((backend.measure pair.reference pair.generated).run.run machine).1 = .ok metric ∧
        (metric.value.le config.threshold = true ↔ metric.value.isNaN = false) := by
    subst h
    obtain ⟨measured, hmeasured, hjudged⟩ := hjudged (.inl rfl)
    cases hjudged with
    | passed hexceeds => exact ⟨hmeasured, le_iff_of_not_exceeds hfinite hexceeds⟩
  refine ⟨hpassed, ?_, ?_, ?_⟩
  · rintro reference diffImage rfl
    obtain ⟨measured, hmeasured, hjudged⟩ := hjudged (.inr rfl)
    cases hjudged with
    | mismatch hexceeds => exact ⟨hmeasured, hexceeds⟩
  -- the built-in comparison measures numbers only
  · rintro rfl h
    obtain ⟨hmeasured, hiff⟩ := hpassed h
    exact hiff.2 (Backend.isNaN_of_native hmeasured)
  · rintro tools programs rfl h
    obtain ⟨hmeasured, hiff⟩ := hpassed h
    rw [hiff, ← Backend.isNaN_iff_of_externalTools hmeasured, Bool.not_eq_true]

/-! ## A program that says what it likes -/

namespace Saying

/-- The comparing program finds a difference and says a text. -/
def toolbox (text : String) : Tool.Toolbox where
  start _ _ := .ok ()
  perform files _ := (⟨.exited 1, [], Text.encode text.toList⟩, files)

/-- The trees that are compared. -/
def settings : List Setting := [.referenceDir ⟨"ref"⟩, .renderDir ⟨"out"⟩]

def config : Config := { referenceDir := ⟨"ref"⟩, renderDir := ⟨"out"⟩ }

/-- The names of images. -/
def imagePattern : Glob.Pattern :=
  ⟨[.anyText, .literal '.', .literal 'p', .literal 'n', .literal 'g']⟩

/-- The comparator for that configuration. -/
def comparator (text : String) : Comparator Unit where
  config := config
  backend := .externalTools (toolbox text) config.programs
  imagePattern := imagePattern
  textDiffer := none

/-- An image and its counterpart. -/
def machine : Machine Unit where
  files := {
    workingDir := []
    entries := [(["ref"], .directory), (["ref", "a.png"], .file (.ofBytes [1]) false),
      (["out"], .directory), (["out", "a.png"], .file (.ofBytes [2]) false)] }
  memory := ()

def pair : FilePair := ⟨⟨"ref/a.png"⟩, ⟨"out/a.png"⟩, ⟨"a.png"⟩⟩

theorem parse_imagePattern : Glob.Pattern.parse config.imagePattern = .ok imagePattern := by
  show Glob.Pattern.parse defaultImagePattern = _
  decide +kernel

theorem build_settings : Config.build settings = .ok config :=
  Config.build_eq_ok_iff.2 ⟨rfl, by decide +kernel, by decide +kernel, ⟨_, parse_imagePattern⟩,
    by decide +kernel⟩

theorem withBackend_config (text : String) :
    withBackend config (toolbox text) (.externalTools (toolbox text) config.programs)
      = .ok (comparator text) := by
  unfold withBackend
  rw [Config.readPattern_eq_ok_iff.2 parse_imagePattern]
  rfl

/-- What is said to be a small number passes within the threshold, and what is
    said to be a large one is above it. -/
theorem numbers_judged :
    Config.build settings = .ok config ∧
    (∃ metric after, ((comparator "12 (0.0005)").comparePair pair).run.run machine
      = (.ok (.passed metric), after) ∧ metric.value.le config.threshold = true) ∧
    ∃ metric after, ((comparator "12 (0.5)").comparePair pair).run.run machine
      = (.ok (.mismatch pair.reference metric none), after) ∧
      config.threshold.lt metric.value = true := by
  let small : Metric := ⟨.ofMagnitude false (Binary64.nearestDecimal 5 (-4))⟩
  let large : Metric := ⟨.ofMagnitude false (Binary64.nearestDecimal 5 (-1))⟩
  refine ⟨build_settings, ?_, ?_⟩
  · have hpassed : (((comparator "12 (0.0005)").comparePair pair).run.run machine).1
        = .ok (.passed small) := by decide +kernel
    obtain ⟨after, hrun⟩ := exists_run hpassed
    have hjudged :=
      (comparePair_within_threshold build_settings (withBackend_config _) hrun small).1 rfl
    exact ⟨small, after, hrun, hjudged.2.2 (by decide +kernel)⟩
  · have hmismatch : (((comparator "12 (0.5)").comparePair pair).run.run machine).1
        = .ok (.mismatch pair.reference large none) := by decide +kernel
    obtain ⟨after, hrun⟩ := exists_run hmismatch
    have hjudged :=
      (comparePair_within_threshold build_settings (withBackend_config _) hrun large).2.1 _ _ rfl
    exact ⟨large, after, hrun, hjudged.2⟩

/-- What is no number passes, though it is not within the threshold, and nothing
    is said about it. -/
theorem nan_passes :
    Config.build settings = .ok config ∧
    ofConfig config (toolbox "1 (nan)") = .ok (comparator "1 (nan)") ∧
    (comparator "1 (nan)").isImage pair = true ∧
    ∃ metric after, ((comparator "1 (nan)").comparePair pair).run.run machine
      = (.ok (.passed metric), after) ∧ metric.value.le config.threshold = false ∧
      (Outcome.passed metric).reportLine? = none := by
  refine ⟨build_settings, withBackend_config _, by decide +kernel, ?_⟩
  have hpassed : (((comparator "1 (nan)").comparePair pair).run.run machine).1
      = .ok (.passed ⟨.nan false⟩) := by decide +kernel
  obtain ⟨after, hrun⟩ := exists_run hpassed
  exact ⟨_, after, hrun, by decide +kernel, rfl⟩

end Saying

end Comparator

end RenderCheck
