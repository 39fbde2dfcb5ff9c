import RenderCheck.Proofs.Binary64.Nearest
import RenderCheck.Proofs.Config
import RenderCheck.Proofs.Glob.Pieces

/-! # What settings come to

    Settings are told one after the other, and of those that go to the same place
    the last one counts. So each field of a configuration can be read off the
    settings by itself, and settings of different kinds can be told in any order.
    What is wrong with the settings is wrong with these fields: the threshold is
    no number from zero on, the image pattern is outside of the grammar, or a
    program has no name.

    * **Thresholds** from zero on (`Binary64.lt_zero_iff`).
    * **Last settings**: a field has the last value told (`field_foldl_set`), so
      that a configuration is what was told of it last (`ofSettings_eq_told`).
    * **What is wrong** with a configuration is named by the first check that fails
      (`check_eq_error_iff`), and comparators ask for the pattern once more
      (`withBackend_refuses_iff`).
    * **Settings**: `Config.build_settles`. -/

namespace RenderCheck

/-! ## Thresholds -/

/-- Numbers are ordered like their values: a zero with a sign is not below zero. -/
theorem Binary64.lt_zero_iff {x : Binary64} (h : x.isFinite = true) :
    x.lt .zero = true ↔ x.value < 0 := by
  have hzero : zero.isNaN = false := by decide
  have hrank : zero.rank = 0 := by decide
  -- a magnitude and its steps are zero together
  have hsteps : x.magnitude = 0 ∧ steps x.magnitude = 0 ∨ 0 < x.magnitude ∧ 0 < steps x.magnitude := by
    rcases Nat.eq_zero_or_pos x.magnitude with hnone | hsome
    · exact .inl ⟨hnone, by rw [hnone, steps_zero]⟩
    · exact .inr ⟨hsome, steps_pos hsome⟩
  simp only [lt, isNaN_of_isFinite h, hzero, hrank, Bool.not_false, Bool.true_and,
    decide_eq_true_eq]
  unfold rank value size
  split <;> omega

/-! ## Last settings -/

namespace Config

/-- The last value that settings give, or the default. -/
def lastOf {α : Type} (value? : Setting → Option α) (settings : List Setting) (default : α) : α :=
  (settings.filterMap value?).getLastD default

section LastOf

variable {α : Type} {value? : Setting → Option α}

/-- What is told first is the default of all that follows. -/
@[simp] theorem lastOf_cons (setting : Setting) (settings : List Setting) (default : α) :
    lastOf value? (setting :: settings) default
      = lastOf value? settings ((value? setting).getD default) := by
  unfold lastOf
  rw [List.filterMap_cons]
  cases value? setting with
  | none => rfl
  | some value => exact List.getLastD_cons

/-- A field has the last value told, if every setting either leaves it or gives it
    a value. -/
theorem field_foldl_set (field : Config → α)
    (hset : ∀ c setting, field (set c setting) = (value? setting).getD (field c))
    (settings : List Setting) (c : Config) :
    field (settings.foldl set c) = lastOf value? settings (field c) := by
  -- from the first setting on, as each is the default of those that follow
  induction settings generalizing c with
  | nil => rfl
  | cons setting settings ih => simp [ih, hset]

end LastOf

/-- The configuration that was told, field by field: the last value given or the
    default. -/
def told (settings : List Setting) : Config where
  referenceDir := lastOf (fun | .referenceDir dir => some dir | _ => none) settings ⟨"."⟩
  renderDir := lastOf (fun | .renderDir dir => some dir | _ => none) settings ⟨"."⟩
  diffDir := lastOf (fun | .diffDir dir => some dir | _ => none) settings none
  threshold :=
    lastOf (fun | .threshold value => some value | _ => none) settings defaultThreshold
  imagePattern :=
    lastOf (fun | .imagePattern pattern => some pattern | _ => none) settings defaultImagePattern
  backend := lastOf (fun | .backend kind => some kind | _ => none) settings .imageMagick
  programs := {
    compare := lastOf (fun | .compareProgram name => some name | _ => none) settings "compare"
    montage := lastOf (fun | .montageProgram name => some name | _ => none) settings "montage"
    diff := lastOf (fun | .diffProgram name => some name | _ => none) settings "diff" }
  textDiff := lastOf (fun | .textDiff enabled => some enabled | _ => none) settings false

attribute [ext] Programs Config

/-- Settings describe what was told last. -/
theorem ofSettings_eq_told (settings : List Setting) : ofSettings settings = told settings := by
  -- each field by itself; the other settings leave it as it is
  refine Config.ext (field_foldl_set referenceDir ?_ settings {})
    (field_foldl_set renderDir ?_ settings {}) (field_foldl_set diffDir ?_ settings {})
    (field_foldl_set threshold ?_ settings {}) (field_foldl_set imagePattern ?_ settings {})
    (field_foldl_set backend ?_ settings {})
    (Programs.ext (field_foldl_set (·.programs.compare) ?_ settings {})
      (field_foldl_set (·.programs.montage) ?_ settings {})
      (field_foldl_set (·.programs.diff) ?_ settings {}))
    (field_foldl_set textDiff ?_ settings {})
  all_goals
    intro c setting
    cases setting <;> rfl

end Config

/-- Both settings go to the same place. -/
def Setting.SameKind (a b : Setting) : Prop :=
  a.ctorIdx = b.ctorIdx

instance (a b : Setting) : Decidable (a.SameKind b) :=
  inferInstanceAs (Decidable (a.ctorIdx = b.ctorIdx))

namespace Config

theorem set_comm (c : Config) {a b : Setting} (h : ¬a.SameKind b) :
    (c.set a).set b = (c.set b).set a := by
  cases a <;> cases b <;> first | rfl | exact absurd rfl h

/-- Two settings of different kinds can be told in either order. -/
theorem ofSettings_swap (before after : List Setting) {a b : Setting} (h : ¬a.SameKind b) :
    ofSettings (before ++ b :: a :: after) = ofSettings (before ++ a :: b :: after) := by
  unfold ofSettings
  rw [List.foldl_append, List.foldl_append]
  simp only [List.foldl_cons]
  rw [set_comm _ h]

/-! ## What is wrong -/

/-- The threshold is a number that is not below zero. -/
def HasThreshold (c : Config) : Prop :=
  c.threshold.isFinite = true ∧ 0 ≤ c.threshold.value

/-- The image pattern is in the grammar. -/
def HasPattern (c : Config) : Prop :=
  Glob.InGrammar c.imagePattern.toList

/-- Every program has a name. -/
def HasPrograms (c : Config) : Prop :=
  c.programs.compare ≠ "" ∧ c.programs.montage ≠ "" ∧ c.programs.diff ≠ ""

/-- The error of the first check that fails: of the threshold, of the pattern, and
    of the programs. -/
inductive FirstFault (c : Config) : CompareError → Prop where
  | threshold : ¬c.HasThreshold → FirstFault c (.invalidConfig (.threshold c.threshold))
  | imagePattern {fault : Glob.SyntaxError} : c.HasThreshold → ¬c.HasPattern →
    Glob.Pattern.parse c.imagePattern = .error fault →
    FirstFault c (.invalidConfig (.imagePattern c.imagePattern fault))
  | programs : c.HasThreshold → c.HasPattern → ¬c.HasPrograms →
    FirstFault c (.invalidConfig .emptyProgram)

/-- The first check is for such a threshold. -/
theorem hasThreshold_iff {c : Config} :
    c.HasThreshold ↔ (!c.threshold.isFinite || c.threshold.lt .zero) = false := by
  rw [Bool.or_eq_false_iff, Bool.not_eq_false']
  refine and_congr_right fun hfinite => ?_
  rw [← not_lt, ← Binary64.lt_zero_iff hfinite, Bool.not_eq_true]

theorem hasPattern_iff {c : Config} :
    c.HasPattern ↔ ∃ pattern, c.readPattern = .ok pattern := by
  unfold HasPattern
  rw [← Glob.exists_parse_iff]
  exact exists_congr fun pattern => readPattern_eq_ok_iff.symm

/-- A pattern cannot be read if it is outside of the grammar. -/
theorem readPattern_fails_iff {c : Config} :
    (∃ error, c.readPattern = .error error) ↔ ¬c.HasPattern := by
  rw [hasPattern_iff]
  cases c.readPattern <;> simp

/-- What is wrong with it is found by the reader. -/
theorem readPattern_eq_error_iff {c : Config} {error : CompareError} :
    c.readPattern = .error error ↔ ¬c.HasPattern ∧ ∃ fault,
      Glob.Pattern.parse c.imagePattern = .error fault ∧
      error = .invalidConfig (.imagePattern c.imagePattern fault) := by
  unfold HasPattern
  rw [← Glob.exists_parse_iff, readPattern]
  cases Glob.Pattern.parse c.imagePattern with
  | ok pattern => simp
  | error fault => simp [eq_comm]

theorem usable_iff {c : Config} : c.Usable ↔ c.HasThreshold ∧ c.HasPattern ∧ c.HasPrograms := by
  rw [hasThreshold_iff, Bool.or_eq_false_iff, Bool.not_eq_false']
  constructor
  · rintro ⟨hfinite, hnonnegative, hpattern, hprograms⟩
    exact ⟨⟨hfinite, hnonnegative⟩, Glob.exists_parse_iff.1 hpattern, hprograms⟩
  · rintro ⟨⟨hfinite, hnonnegative⟩, hpattern, hprograms⟩
    exact ⟨hfinite, hnonnegative, Glob.exists_parse_iff.2 hpattern, hprograms⟩

/-- Something is wrong with what cannot be used. -/
theorem exists_firstFault {c : Config} (h : ¬c.Usable) : ∃ error, c.FirstFault error := by
  rw [usable_iff] at h
  by_cases hthreshold : c.HasThreshold
  · by_cases hpattern : c.HasPattern
    · exact ⟨_, .programs hthreshold hpattern fun hprograms => h ⟨hthreshold, hpattern, hprograms⟩⟩
    · obtain ⟨error, herror⟩ := readPattern_fails_iff.2 hpattern
      obtain ⟨-, fault, hfault, -⟩ := readPattern_eq_error_iff.1 herror
      exact ⟨_, .imagePattern hthreshold hpattern hfault⟩
  · exact ⟨_, .threshold hthreshold⟩

/-- What is wrong is reported. -/
theorem check_of_firstFault {c : Config} {error : CompareError} (h : c.FirstFault error) :
    c.check = .error error := by
  rw [check_eq]
  -- the checks before the one that fails let the configuration through
  cases h with
  | threshold hthreshold =>
    rw [hasThreshold_iff, Bool.not_eq_false] at hthreshold
    rw [if_pos hthreshold]
  | imagePattern hthreshold hpattern hfault =>
    rw [hasThreshold_iff.1 hthreshold, if_neg Bool.false_ne_true,
      readPattern_eq_error_iff.2 ⟨hpattern, _, hfault, rfl⟩]
  | programs hthreshold hpattern hprograms =>
    obtain ⟨pattern, hread⟩ := hasPattern_iff.1 hpattern
    rw [hasThreshold_iff.1 hthreshold, if_neg Bool.false_ne_true, hread]
    refine if_pos ?_
    by_contra hnone
    rw [not_or, not_or] at hnone
    exact hprograms hnone

/-- A configuration is let through, or the first thing wrong with it is reported. -/
theorem check_eq_error_iff {c : Config} {error : CompareError} :
    c.check = .error error ↔ c.FirstFault error := by
  refine ⟨fun h => ?_, check_of_firstFault⟩
  -- something is wrong if the check fails, and then it is this that was reported
  obtain ⟨fault, hfault⟩ := exists_firstFault (c := c) fun husable => by
    rw [check_eq_ok_iff.2 ⟨rfl, husable⟩] at h
    cases h
  rw [check_of_firstFault hfault] at h
  cases h
  exact hfault

end Config

/-! ## Comparators -/

namespace Comparator

variable {μ : Type}

/-- The comparator for a configuration that has a pattern keeps it. -/
theorem withBackend_of_hasPattern {config : Config} (h : config.HasPattern)
    (toolbox : Tool.Toolbox) (backend : Backend μ) :
    ∃ c, withBackend config toolbox backend = .ok c ∧ c.config = config := by
  obtain ⟨pattern, hpattern⟩ := Config.hasPattern_iff.1 h
  exact ⟨_, withBackend_eq_ok_iff.2 ⟨pattern, hpattern, rfl⟩, rfl⟩

/-- There is none for a configuration without. -/
theorem withBackend_refuses_iff {config : Config} {toolbox : Tool.Toolbox} {backend : Backend μ} :
    (∃ error, withBackend config toolbox backend = .error error) ↔ ¬config.HasPattern := by
  rw [← Config.readPattern_fails_iff]
  exact exists_congr fun error => withBackend_eq_error_iff

end Comparator

/-! ## Settings -/

namespace Config

/-- Settings come to what was told last in each field, and this is built if the
    threshold is a number from zero on, the image pattern is in the grammar and all
    programs have names. If not, the first of these that fails is reported. Settings
    of different kinds can change places. There are comparators for all that is
    built, and for any other configuration as well unless its pattern is outside of
    the grammar. -/
theorem build_settles (settings : List Setting) :
    (∀ config, build settings = .ok config ↔
      config = told settings ∧ config.HasThreshold ∧ config.HasPattern ∧ config.HasPrograms) ∧
    (∀ error, build settings = .error error ↔ (told settings).FirstFault error) ∧
    (∀ (before : List Setting) (a b : Setting) (after : List Setting),
      settings = before ++ a :: b :: after → ¬a.SameKind b →
      build (before ++ b :: a :: after) = build settings) ∧
    (∀ config, build settings = .ok config →
      ∀ (μ : Type) (toolbox : Tool.Toolbox) (backend : Backend μ),
        (∃ c, Comparator.withBackend config toolbox backend = .ok c ∧ c.config = config) ∧
        (∃ c : Comparator μ, Comparator.ofConfig config toolbox = .ok c ∧ c.config = config)) ∧
    (∀ (stored : Config) (μ : Type) (toolbox : Tool.Toolbox) (backend : Backend μ),
      ((∃ error, Comparator.withBackend stored toolbox backend = .error error) ↔
        ¬stored.HasPattern) ∧
      ((∃ error, (Comparator.ofConfig stored toolbox : Except CompareError (Comparator μ))
        = .error error) ↔ ¬stored.HasPattern)) := by
  have hbuilt (config : Config) : build settings = .ok config ↔
      config = told settings ∧ config.HasThreshold ∧ config.HasPattern ∧ config.HasPrograms := by
    rw [build_eq_ok_iff, ofSettings_eq_told, usable_iff]
  refine ⟨hbuilt, fun error => ?_, ?_, fun config h μ toolbox backend => ?_,
    fun stored μ toolbox backend => ?_⟩
  · rw [build, ofSettings_eq_told]
    exact check_eq_error_iff
  · rintro before a b after rfl hkind
    rw [build, ofSettings_swap before after hkind, build]
  · obtain ⟨-, -, hpattern, -⟩ := (hbuilt config).1 h
    exact ⟨Comparator.withBackend_of_hasPattern hpattern toolbox backend,
      Comparator.withBackend_of_hasPattern hpattern toolbox _⟩
  · exact ⟨Comparator.withBackend_refuses_iff, Comparator.withBackend_refuses_iff⟩

/-! A pattern that is none, a program without a name and a threshold that is no
    number count for nothing if others are told later. -/
namespace Retold

/-- What is wrong is told first, and some of it is told once more. -/
def retold : List Setting :=
  [.imagePattern "[!]", .montageProgram "", .threshold (.nan false), .textDiff true,
    .imagePattern "**/[!]]*"]

def config : Config :=
  { threshold := -Binary64.zero, imagePattern := "**/[!]]*"
    programs := { montage := "mount" }, textDiff := true }

def toolbox : Tool.Toolbox where
  start _ _ := .ok ()
  perform files _ := (⟨.exited 0, [], []⟩, files)

/-- The last settings are built, a zero with a sign included, in either order. With
    the first pattern told last, it is the error, whatever the programs are called,
    and a comparator does not take it either. -/
theorem last_settings_built :
    build (retold ++ [Setting.montageProgram "mount", .threshold (-Binary64.zero)]) = .ok config ∧
    build (retold ++ [Setting.threshold (-Binary64.zero), .montageProgram "mount"]) = .ok config ∧
    (∃ c : Comparator Unit, Comparator.ofConfig config toolbox = .ok c ∧ c.config = config) ∧
    build [.threshold (-Binary64.zero), .montageProgram "", .imagePattern "[!]"]
      = .error (.invalidConfig (.imagePattern "[!]" ⟨0, .openSet⟩)) ∧
    ∃ error, (Comparator.ofConfig { imagePattern := "[!]" } toolbox :
      Except CompareError (Comparator Unit)) = .error error := by
  obtain ⟨hok, -, hswap, hcomparator, -⟩ := build_settles
    (retold ++ [Setting.montageProgram "mount", .threshold (-Binary64.zero)])
  obtain ⟨-, herror, -, -, hstored⟩ := build_settles
    [.threshold (-Binary64.zero), .montageProgram "", .imagePattern "[!]"]
  have hbuilt : build (retold ++ [Setting.montageProgram "mount", .threshold (-Binary64.zero)])
      = .ok config := by
    refine (hok config).2 ⟨rfl, ⟨by decide, by decide⟩, ?_, by decide, by decide, by decide⟩
    exact Glob.exists_parse_iff.1 ⟨_, rfl⟩
  have hpattern : ¬Glob.InGrammar "[!]".toList := by
    rw [← Glob.exists_parse_iff]
    rintro ⟨pattern, h⟩
    cases h
  refine ⟨hbuilt, ?_, (hcomparator config hbuilt Unit toolbox .native).2,
    (herror _).2 (.imagePattern ⟨by decide, by decide⟩ hpattern rfl),
    (hstored _ Unit toolbox .native).2.2 hpattern⟩
  rw [← hbuilt]
  exact hswap retold _ _ [] rfl (by decide)

end Retold

end Config

end RenderCheck
