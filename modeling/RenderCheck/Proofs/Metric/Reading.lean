import RenderCheck.Proofs.Binary64.Bounds
import RenderCheck.Proofs.Binary64.Numeral
import RenderCheck.Proofs.Metric.Search

/-! # Which parenthesis holds the metric

    A tool's output may have any number of parentheses, and only one of them
    counts: the first that has something other than another opening one before
    it and something other than a closing one behind it. What it holds is the
    metric if it is a numeral; no later parenthesis takes its place if it is not.

    * **Places**: `IsOpening` says where a metric could stand, and the search
      stops at the first such place (`parenthesized?_of_none`,
      `parenthesized?_of_first`).
    * **Reading**: `read_first_opening` tells the metric or the error of every
      output.
    * **No number** is among the numerals, and can be what an output says
      (`isNaN_iff_saysNaN`). -/

namespace RenderCheck

namespace Metric

/-! ## Places -/

/-- The parenthesis that opens behind the place `i` can hold a metric. -/
structure IsOpening (text : List Char) (i : Nat) : Prop where
  before : ∃ c ∈ text[i]?, c ≠ '('
  opens : text[i + 1]? = some '('
  behind : ∃ c ∈ text[i + 2]?, c ≠ ')'

instance (text : List Char) (i : Nat) : Decidable (IsOpening text i) :=
  decidable_of_iff
    (text[i]?.any (· ≠ '(') = true ∧ text[i + 1]? = some '(' ∧ text[i + 2]?.any (· ≠ ')') = true)
    (by simp only [Option.any_eq_true, decide_eq_true_eq]
        exact ⟨fun ⟨before, opens, behind⟩ => ⟨before, opens, behind⟩,
          fun h => ⟨h.before, h.opens, h.behind⟩⟩)

/-- No parenthesis further left can hold a metric. -/
structure IsFirstOpening (text : List Char) (i : Nat) : Prop extends IsOpening text i where
  first : ∀ j < i, ¬ IsOpening text j

/-- What stands in the parenthesis behind a place: all up to the next closing
    one, or to the end, without the blanks on either side. -/
def inside (text : List Char) (i : Nat) : List Char :=
  Text.trim ((text.drop (i + 2)).takeWhile (· ≠ ')'))

@[simp] theorem not_isOpening_nil (i : Nat) : ¬ IsOpening [] i :=
  fun h => absurd h.opens (by simp)

@[simp] theorem isOpening_cons_succ {c : Char} {rest : List Char} {i : Nat} :
    IsOpening (c :: rest) (i + 1) ↔ IsOpening rest i :=
  ⟨fun h => ⟨h.before, h.opens, h.behind⟩, fun h => ⟨h.before, h.opens, h.behind⟩⟩

@[simp] theorem isOpening_zero {before first : Char} {rest : List Char} :
    IsOpening (before :: '(' :: first :: rest) 0 ↔ before ≠ '(' ∧ first ≠ ')' := by
  constructor
  · rintro ⟨⟨_, hbefore, hopen⟩, -, ⟨_, hbehind, hclose⟩⟩
    exact ⟨Option.some.inj hbefore ▸ hopen, Option.some.inj hbehind ▸ hclose⟩
  · exact fun ⟨hopen, hclose⟩ => ⟨⟨_, rfl, hopen⟩, rfl, ⟨_, rfl, hclose⟩⟩

/-- One step of the search: it ends where a metric could stand, and else goes on
    without the first character. -/
theorem parenthesized?_cons (c : Char) (rest : List Char) :
    (IsOpening (c :: rest) 0 ∧
      parenthesized? (c :: rest) = some ((rest.drop 1).takeWhile (· ≠ ')'))) ∨
    (¬ IsOpening (c :: rest) 0 ∧ parenthesized? (c :: rest) = parenthesized? rest) := by
  by_cases hopening : IsOpening (c :: rest) 0
  · left
    refine ⟨hopening, ?_⟩
    obtain ⟨after, rfl⟩ := List.head?_eq_some_iff.1 (List.head?_eq_getElem? ▸ hopening.opens)
    obtain ⟨first, hfirst, -⟩ := hopening.behind
    obtain ⟨others, rfl⟩ := List.head?_eq_some_iff.1 (List.head?_eq_getElem? ▸ hfirst)
    rw [parenthesized?, if_pos (isOpening_zero.1 hopening)]
    rfl
  · right
    refine ⟨hopening, ?_⟩
    conv_lhs => unfold parenthesized?
    split
    · next hcons =>
      obtain ⟨rfl, rfl⟩ := List.cons_eq_cons.1 hcons
      rw [if_neg (mt isOpening_zero.2 hopening)]
    · next hcons =>
      obtain ⟨-, rfl⟩ := List.cons_eq_cons.1 hcons
      rfl
    · next hcons => exact absurd hcons (List.cons_ne_nil _ _)

/-- The search fails if there is no place for a metric. -/
theorem parenthesized?_of_none {text : List Char} (h : ∀ i, ¬ IsOpening text i) :
    parenthesized? text = none := by
  induction text with
  | nil => rfl
  | cons c rest ih =>
    rcases parenthesized?_cons c rest with ⟨hopening, -⟩ | ⟨-, hstep⟩
    · exact absurd hopening (h 0)
    · rw [hstep]
      exact ih fun i hi => h (i + 1) (isOpening_cons_succ.2 hi)

/-- The search ends at the first place for a metric. -/
theorem parenthesized?_of_first {text : List Char} {i : Nat} (h : IsFirstOpening text i) :
    parenthesized? text = some ((text.drop (i + 2)).takeWhile (· ≠ ')')) := by
  induction text generalizing i with
  | nil => exact absurd h.toIsOpening (not_isOpening_nil i)
  | cons c rest ih =>
    rcases parenthesized?_cons c rest with ⟨hopening, hfound⟩ | ⟨hopening, hstep⟩
    · obtain rfl : i = 0 := by
        by_contra hpos
        exact h.first 0 (Nat.pos_of_ne_zero hpos) hopening
      exact hfound
    · cases i with
      | zero => exact absurd h.toIsOpening hopening
      | succ i =>
        rw [hstep]
        exact ih ⟨isOpening_cons_succ.1 h.toIsOpening,
          fun j hj hopening => h.first (j + 1) (by omega) (isOpening_cons_succ.2 hopening)⟩

/-! ## Reading -/

theorem read_eq_ok_iff {output : String} {metric : Metric} :
    read output = .ok metric ↔ parse? output = some metric := by
  rw [read]
  cases parse? output with
  | none => simp
  | some _ => simp

theorem read_eq_error_iff {output : String} {error : CompareError} :
    read output = .error error ↔ parse? output = none ∧ error = .metricParse output := by
  rw [read]
  cases parse? output with
  | none => simp [eq_comm]
  | some _ => simp

section FirstOpening

variable {output : String} {i : Nat} (hfirst : IsFirstOpening output.toList i)

include hfirst

theorem parse?_of_first :
    parse? output = (Binary64.read? (inside output.toList i)).map Metric.mk := by
  rw [parse?, captured?_eq, parenthesized?_of_first hfirst, Option.bind_eq_bind,
    Option.bind_some, inside]
  cases Binary64.read? (Text.trim ((output.toList.drop (i + 2)).takeWhile (· ≠ ')'))) with
  | none => rfl
  | some _ => rfl

/-- The metric is what the first parenthesis with a place for it says. -/
theorem read_ok_of_first {metric : Metric} :
    read output = .ok metric ↔ metric.value.IsSaidBy (inside output.toList i) := by
  rw [read_eq_ok_iff, parse?_of_first hfirst, ← Binary64.read?_eq_some_iff, Option.map_eq_some_iff]
  constructor
  · rintro ⟨value, hread, rfl⟩
    exact hread
  · exact fun hread => ⟨_, hread, rfl⟩

/-- No other parenthesis is asked if it says no number. -/
theorem read_error_of_first
    (hnone : ∀ numeral, ¬ Numeral.Spells (inside output.toList i) numeral) :
    read output = .error (.metricParse output) := by
  rw [read_eq_error_iff, parse?_of_first hfirst, Binary64.read?_eq_none_iff.2 hnone]
  exact ⟨rfl, rfl⟩

end FirstOpening

/-- The metric in an output is the number that the first parenthesis with a
    place for it says, blanks aside; without such a parenthesis, or if it says no
    number, the output as a whole is the error. -/
theorem read_first_opening (output : String) :
    ((∀ i, ¬ IsOpening output.toList i) → read output = .error (.metricParse output)) ∧
    ∀ i, IsFirstOpening output.toList i →
      (∀ metric, read output = .ok metric ↔ metric.value.IsSaidBy (inside output.toList i)) ∧
      ((∃ metric, read output = .ok metric) ↔
        ∃ numeral, Numeral.Spells (inside output.toList i) numeral) ∧
      ((∀ numeral, ¬ Numeral.Spells (inside output.toList i) numeral) →
        read output = .error (.metricParse output)) := by
  refine ⟨fun hnone => ?_, fun i hfirst => ⟨fun _ => read_ok_of_first hfirst, ?_,
    read_error_of_first hfirst⟩⟩
  · rw [read_eq_error_iff, parse?, captured?_eq, parenthesized?_of_none hnone]
    exact ⟨rfl, rfl⟩
  · constructor
    · rintro ⟨metric, hread⟩
      obtain ⟨numeral, hspells, -⟩ := (read_ok_of_first hfirst).1 hread
      exact ⟨numeral, hspells⟩
    · rintro ⟨numeral, hspells⟩
      have hdenotes := Numeral.denotes_iff.2 (Eq.refl numeral.value)
      exact ⟨⟨numeral.value⟩, (read_ok_of_first hfirst).2 ⟨numeral, hspells, hdenotes⟩⟩

/-- An empty parenthesis is passed over, and what follows the first place does
    not count. -/
theorem read_past_decoys :
    IsFirstOpening "a() b( 0.5\n) c(7)".toList 4 ∧
      read "a() b( 0.5\n) c(7)" = .ok ⟨⟨0x3FE0000000000000⟩⟩ := by
  have hfirst : IsFirstOpening "a() b( 0.5\n) c(7)".toList 4 :=
    { toIsOpening := by decide, first := by decide }
  refine ⟨hfirst, ?_⟩
  rw [((read_first_opening "a() b( 0.5\n) c(7)").2 4 hfirst).1, ← Binary64.read?_eq_some_iff]
  decide +kernel

end Metric

/-! ## No number -/

/-- A numeral stands for no number only if it is the word for that. -/
theorem Numeral.Denotes.isNaN_iff {numeral : Numeral} {x : Binary64} (h : numeral.Denotes x) :
    x.isNaN = true ↔ ∃ negative, numeral = .nan negative := by
  cases h with
  | @nan negative => exact ⟨fun _ => ⟨negative, rfl⟩, fun _ => by cases negative <;> decide +kernel⟩
  | @infinity negative =>
    have hnumber : (Binary64.infinity negative).isNaN = false := by
      cases negative <;> decide +kernel
    simp [hnumber]
  | @decimal negative whole fraction exponent m hnearest =>
    have hnumber : (Binary64.ofMagnitude negative m).isNaN = false := by
      rw [Binary64.isNaN, Binary64.magnitude_ofMagnitude _ hnearest.le_infinity,
        decide_eq_false_iff_not]
      exact not_lt.2 hnearest.le_infinity
    simp [hnumber]

namespace Metric

/-- The parenthesis that counts holds the word for no number. -/
def SaysNaN (output : String) : Prop :=
  ∃ i negative, IsFirstOpening output.toList i ∧
    Numeral.Spells (inside output.toList i) (.nan negative)

/-- An output without a place for a metric has none. -/
theorem exists_isFirstOpening {output : String} {metric : Metric} (h : read output = .ok metric) :
    ∃ i, IsFirstOpening output.toList i := by
  by_contra hnone
  have hnowhere (i : Nat) : ¬ IsOpening output.toList i := by
    induction i using Nat.strong_induction_on with
    | _ i ih => exact fun hopening => hnone ⟨i, hopening, ih⟩
  rw [read_eq_ok_iff, parse?, captured?_eq, parenthesized?_of_none hnowhere] at h
  cases h

/-- The metric that was read is no number if that is what the output says. -/
theorem isNaN_iff_saysNaN {output : String} {metric : Metric} (h : read output = .ok metric) :
    metric.value.isNaN = true ↔ SaysNaN output := by
  constructor
  · intro hnan
    obtain ⟨i, hfirst⟩ := exists_isFirstOpening h
    obtain ⟨numeral, hspells, hdenotes⟩ := (read_ok_of_first hfirst).1 h
    obtain ⟨negative, rfl⟩ := hdenotes.isNaN_iff.1 hnan
    exact ⟨i, negative, hfirst, hspells⟩
  · rintro ⟨i, negative, hfirst, hspells⟩
    have hread : read output = .ok ⟨.nan negative⟩ :=
      (read_ok_of_first hfirst).2 ⟨_, hspells, .nan⟩
    rw [h] at hread
    cases hread
    exact Numeral.Denotes.nan.isNaN_iff.2 ⟨negative, rfl⟩

end Metric

end RenderCheck
