import RenderCheck.Comparator

/-! # Usable configurations

    A configuration is let through if its threshold is a finite number that is
    not below zero, its image pattern is a pattern and no program is without a
    name. What is let through is what the settings say, and there is a
    comparator for it whatever the backend. -/

namespace RenderCheck

namespace Config

/-- What lets a configuration through. -/
structure Usable (c : Config) : Prop where
  finite : c.threshold.isFinite = true
  nonnegative : c.threshold.lt .zero = false
  /-- The image pattern is one. -/
  pattern : ∃ pattern, Glob.Pattern.parse c.imagePattern = .ok pattern
  /-- Every program has a name. -/
  programs : c.programs.compare ≠ "" ∧ c.programs.montage ≠ "" ∧ c.programs.diff ≠ ""

theorem readPattern_eq_ok_iff {c : Config} {pattern : Glob.Pattern} :
    c.readPattern = .ok pattern ↔ Glob.Pattern.parse c.imagePattern = .ok pattern := by
  unfold readPattern
  cases Glob.Pattern.parse c.imagePattern <;> simp

/-- What is checked, one thing after the other. -/
theorem check_eq (c : Config) :
    c.check =
      if !c.threshold.isFinite || c.threshold.lt .zero then
        .error (.invalidConfig (.threshold c.threshold))
      else
        match c.readPattern with
        | .error error => .error error
        | .ok _ =>
          if c.programs.compare = "" ∨ c.programs.montage = "" ∨ c.programs.diff = "" then
            .error (.invalidConfig .emptyProgram)
          else .ok c := by
  -- in the order of the checks, of which the first that fails decides
  unfold check
  by_cases hthreshold : (!c.threshold.isFinite || c.threshold.lt .zero) = true
  · rw [if_pos hthreshold, if_pos hthreshold]
    rfl
  · rw [if_neg hthreshold, if_neg hthreshold]
    cases c.readPattern with
    | error error => rfl
    | ok pattern =>
      by_cases hprograms :
        c.programs.compare = "" ∨ c.programs.montage = "" ∨ c.programs.diff = ""
      · simp only [if_pos hprograms]
        rfl
      · simp only [if_neg hprograms]
        rfl

/-- A configuration is let through as it is, if it can be used. -/
theorem check_eq_ok_iff {c c' : Config} : c.check = .ok c' ↔ c' = c ∧ c.Usable := by
  rw [check_eq]
  constructor
  · intro h
    split at h
    · cases h
    next hthreshold =>
    split at h
    · cases h
    next pattern hpattern =>
    split at h
    · cases h
    next hprograms =>
    cases h
    simp only [Bool.or_eq_true, Bool.not_eq_true', not_or, Bool.not_eq_false,
      Bool.not_eq_true] at hthreshold
    rw [not_or, not_or] at hprograms
    exact ⟨rfl, hthreshold.1, hthreshold.2, ⟨pattern, readPattern_eq_ok_iff.1 hpattern⟩, hprograms⟩
  · rintro ⟨rfl, hfinite, hnonnegative, ⟨pattern, hpattern⟩, hcompare, hmontage, hdiff⟩
    rw [readPattern_eq_ok_iff.2 hpattern]
    simp [hfinite, hnonnegative, hcompare, hmontage, hdiff]

/-- What is built is what the settings say, if that can be used. -/
theorem build_eq_ok_iff {settings : List Setting} {config : Config} :
    build settings = .ok config ↔ config = ofSettings settings ∧ config.Usable := by
  unfold build
  rw [check_eq_ok_iff]
  constructor
  · rintro ⟨rfl, h⟩
    exact ⟨rfl, h⟩
  · rintro ⟨rfl, h⟩
    exact ⟨rfl, h⟩

/-- A configuration that can be used has a pattern. -/
theorem exists_pattern_of_build {settings : List Setting} {config : Config}
    (h : build settings = .ok config) :
    ∃ pattern, Glob.Pattern.parse config.imagePattern = .ok pattern ∧
      config.readPattern = .ok pattern := by
  obtain ⟨pattern, hpattern⟩ := (build_eq_ok_iff.1 h).2.pattern
  exact ⟨pattern, hpattern, readPattern_eq_ok_iff.2 hpattern⟩

end Config

/-! ## Comparators -/

namespace Comparator

variable {μ : Type} {config : Config} {toolbox : Tool.Toolbox} {backend : Backend μ}
  {c : Comparator μ}

/-- A comparator is made of what its configuration says, if the image pattern can
    be read. -/
theorem withBackend_eq_ok_iff :
    withBackend config toolbox backend = .ok c ↔
      ∃ pattern, config.readPattern = .ok pattern ∧ c = ⟨config, backend, pattern,
        if config.textDiff then some (.external toolbox config.programs.diff) else none⟩ := by
  unfold withBackend
  cases config.readPattern with
  | error error =>
    constructor
    · intro h
      cases h
    · rintro ⟨pattern, hpattern, -⟩
      cases hpattern
  | ok pattern =>
    constructor
    · intro h
      cases h
      exact ⟨pattern, rfl, rfl⟩
    · rintro ⟨other, hother, rfl⟩
      cases hother
      rfl

/-- Otherwise there is none, for the same reason. -/
theorem withBackend_eq_error_iff {error : CompareError} :
    withBackend config toolbox backend = .error error ↔ config.readPattern = .error error := by
  unfold withBackend
  cases config.readPattern with
  | error other =>
    constructor <;>
    · intro h
      cases h
      rfl
  | ok pattern => constructor <;> intro h <;> cases h

/-- There is a comparator for a configuration that can be used. -/
theorem exists_withBackend (h : config.Usable) (toolbox : Tool.Toolbox) (backend : Backend μ) :
    ∃ c, withBackend config toolbox backend = .ok c := by
  obtain ⟨pattern, hpattern⟩ := h.pattern
  exact ⟨_, withBackend_eq_ok_iff.2 ⟨pattern, Config.readPattern_eq_ok_iff.2 hpattern, rfl⟩⟩

end Comparator

end RenderCheck
