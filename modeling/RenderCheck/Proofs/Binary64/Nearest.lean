import Mathlib.Algebra.Order.Field.Power
import Mathlib.Data.Rat.Cast.Order
import Mathlib.Tactic.FieldSimp
import Mathlib.Tactic.Linarith
import Mathlib.Tactic.NormNum
import Mathlib.Tactic.Positivity
import Mathlib.Tactic.Ring
import RenderCheck.Binary64.Nearest

/-! # What rounding finds

    The magnitude nearest to a positive fraction, as arithmetic on whole numbers
    finds it, is the one that the standard of binary floating point numbers asks
    for: no other magnitude is nearer, and of two that are as near it is the even
    one. Infinity takes part in this with the value that would come next after
    the finite magnitudes.

    * **Steps** grow with the magnitude (`strictMono_steps`).
    * **Nearest magnitudes**: there is one at most (`IsNearest.eq`), between two
      neighbours it is one of these (`IsNearest.of_between`).
    * **Rounding** finds it, for fractions (`nearestSteps_isNearest`) and for
      decimals of any size (`nearestDecimal_isNearest`). -/

namespace RenderCheck.Binary64

/-! ## Steps -/

theorem exponentUnit_eq : exponentUnit = 4503599627370496 := rfl

theorem exponentUnit_eq_pow : exponentUnit = 2 ^ 52 := by decide

theorem stepsPerUnit_eq_pow : stepsPerUnit = 2 ^ 1074 := by decide +kernel

theorem stepsPerUnit_pos : 0 < stepsPerUnit := by decide +kernel

/-- Magnitudes whose distance is `2 ^ shift` steps are the multiples of it. -/
theorem steps_add {shift r : Nat} (hlow : exponentUnit ≤ r ∨ shift = 0)
    (hhigh : r ≤ 2 * exponentUnit) : steps (shift * exponentUnit + r) = r * 2 ^ shift := by
  unfold steps
  rw [Nat.pow_eq]
  split
  -- the smallest magnitudes are their own values
  · next hfraction =>
    simp only [exponentUnit_eq] at hlow hfraction
    obtain rfl : shift = 0 := by omega
    rw [Nat.zero_mul, Nat.zero_add, pow_zero, Nat.mul_one]
  next hfraction =>
  simp only [exponentUnit_eq] at hlow hhigh hfraction ⊢
  by_cases hcarry : r = 2 * 4503599627370496
  · have hdiv : (shift * 4503599627370496 + r) / 4503599627370496 - 1 = shift + 1 := by omega
    have hmod : (shift * 4503599627370496 + r) % 4503599627370496 = 0 := by omega
    rw [hdiv, hmod, hcarry, pow_succ]
    ring
  · have hdiv : (shift * 4503599627370496 + r) / 4503599627370496 - 1 = shift := by omega
    have hmod : 4503599627370496 + (shift * 4503599627370496 + r) % 4503599627370496 = r := by omega
    rw [hdiv, hmod]

/-- Every magnitude lies among those that are equally far apart. -/
theorem exists_shift (m : Nat) : ∃ shift r, m = shift * exponentUnit + r ∧
    (exponentUnit ≤ r ∨ shift = 0) ∧ r < 2 * exponentUnit := by
  simp only [exponentUnit_eq]
  by_cases hfraction : m < 4503599627370496
  · exact ⟨0, m, by omega, .inr rfl, by omega⟩
  · exact ⟨m / 4503599627370496 - 1, 4503599627370496 + m % 4503599627370496, by omega,
      .inl (by omega), by omega⟩

theorem strictMono_steps : StrictMono steps := by
  refine strictMono_nat_of_lt_succ fun m => ?_
  obtain ⟨shift, r, rfl, hlow, hhigh⟩ := exists_shift m
  rw [Nat.add_assoc, steps_add hlow hhigh.le, steps_add (by omega) (by omega)]
  exact Nat.mul_lt_mul_of_pos_right (Nat.lt_succ_self r) (Nat.two_pow_pos shift)

@[simp] theorem steps_zero : steps 0 = 0 := by decide

theorem steps_pos {m : Nat} (hm : 0 < m) : 0 < steps m := by
  have h := strictMono_steps hm
  rwa [steps_zero] at h

/-- Infinity takes the place of the power of two after the finite magnitudes. -/
theorem steps_infinityMagnitude : steps infinityMagnitude = 2 ^ 1024 * stepsPerUnit := by
  have hparts : infinityMagnitude = 2046 * exponentUnit + exponentUnit := by decide
  rw [hparts, steps_add (.inl le_rfl) (by omega), exponentUnit_eq_pow, stepsPerUnit_eq_pow,
    ← pow_add, ← pow_add]

/-! ## Nearest magnitudes -/

/-- Of all magnitudes up to infinity the one whose value is nearest to so many
    steps, and of two that are equally near the even one. -/
structure IsNearest (x : ℚ) (m : Nat) : Prop where
  le_infinity : m ≤ infinityMagnitude
  nearer (other : Nat) : other ≤ infinityMagnitude → other ≠ m →
    |(steps m : ℚ) - x| < |(steps other : ℚ) - x| ∨
    (|(steps m : ℚ) - x| = |(steps other : ℚ) - x| ∧ m % 2 = 0)

theorem cast_steps_lt {m m' : Nat} (h : m < m') : (steps m : ℚ) < steps m' :=
  Nat.cast_lt.2 (strictMono_steps h)

theorem cast_steps_le {m m' : Nat} (h : m ≤ m') : (steps m : ℚ) ≤ steps m' :=
  Nat.cast_le.2 (strictMono_steps.monotone h)

namespace IsNearest

variable {x : ℚ} {m m' : Nat}

/-- One of two magnitudes side by side is even, so that only one of them is
    nearest. -/
theorem not_below (h : IsNearest x m) (h' : IsNearest x m') : ¬ m < m' := by
  intro hlt
  have hnear := h.nearer _ h'.le_infinity hlt.ne'
  have hnear' := h'.nearer _ h.le_infinity hlt.ne
  -- both are equally near and even
  have htie : |(steps m : ℚ) - x| = |(steps m' : ℚ) - x| := by
    rcases hnear with hless | ⟨hsame, -⟩
    · rcases hnear' with hless' | ⟨hsame', -⟩
      · exact absurd hless (not_lt.2 hless'.le)
      · exact absurd hsame' hless.ne'
    · exact hsame
  have heven : m % 2 = 0 := (hnear.resolve_left htie.not_lt).2
  have heven' : m' % 2 = 0 := (hnear'.resolve_left htie.symm.not_lt).2
  -- so there is a magnitude between them, which is nearer
  have hbetween := h.nearer (m + 1) (by have := h'.le_infinity; omega) (by omega)
  have hsteps : (steps m : ℚ) < steps (m + 1) := cast_steps_lt (by omega)
  have hsteps' : (steps (m + 1) : ℚ) < steps m' := cast_steps_lt (by omega)
  rcases abs_cases ((steps m : ℚ) - x) with ⟨ha, hx⟩ | ⟨ha, hx⟩ <;>
    rcases abs_cases ((steps m' : ℚ) - x) with ⟨hb, hx'⟩ | ⟨hb, hx'⟩ <;>
    rcases abs_cases ((steps (m + 1) : ℚ) - x) with ⟨hc, hx''⟩ | ⟨hc, hx''⟩ <;>
    rcases hbetween with hless | ⟨hsame, -⟩ <;> linarith

/-- There is only one nearest magnitude. -/
theorem eq (h : IsNearest x m) (h' : IsNearest x m') : m = m' :=
  Nat.le_antisymm (not_lt.1 (h'.not_below h)) (not_lt.1 (h.not_below h'))

/-- Between two neighbours the nearer one is nearest, and in the middle the even
    one. -/
theorem of_between (low : Nat) (hinfinity : low + 1 ≤ infinityMagnitude)
    (hlow : (steps low : ℚ) ≤ x) (hhigh : x < steps (low + 1))
    (hm : (m = low ∧ (x - steps low < steps (low + 1) - x ∨
        (x - steps low = steps (low + 1) - x ∧ low % 2 = 0))) ∨
      (m = low + 1 ∧ (steps (low + 1) - x < x - steps low ∨
        (steps (low + 1) - x = x - steps low ∧ low % 2 = 1)))) : IsNearest x m where
  le_infinity := by omega
  nearer other _ hne := by
    have habs : |(steps low : ℚ) - x| = x - steps low := by
      rw [abs_sub_comm, abs_of_nonneg (by linarith)]
    have habs' : |(steps (low + 1) : ℚ) - x| = steps (low + 1) - x := abs_of_nonneg (by linarith)
    rcases lt_trichotomy other low with hbelow | rfl | habove
    -- what lies below the lower neighbour is farther away
    · have hsteps := cast_steps_lt hbelow
      have hother : |(steps other : ℚ) - x| = x - steps other := by
        rw [abs_sub_comm, abs_of_nonneg (by linarith)]
      left
      rcases hm with ⟨rfl, hnear⟩ | ⟨rfl, hnear⟩
      · rw [habs, hother]
        linarith
      · rw [habs', hother]
        rcases hnear with hless | ⟨hsame, -⟩ <;> linarith
    · rcases hm with ⟨rfl, -⟩ | ⟨rfl, hnear⟩
      · exact absurd rfl hne
      · rw [habs, habs']
        exact hnear.imp_right fun ⟨hsame, hodd⟩ => ⟨hsame, by omega⟩
    rcases Nat.eq_or_lt_of_le (Nat.succ_le_of_lt habove) with rfl | hbeyond
    · rcases hm with ⟨rfl, hnear⟩ | ⟨rfl, -⟩
      · rw [Nat.succ_eq_add_one, habs, habs']
        exact hnear
      · exact absurd rfl hne
    -- and so is what lies above the upper one
    · have hsteps := cast_steps_lt hbeyond
      have hother : |(steps other : ℚ) - x| = steps other - x := abs_of_nonneg (by
        rw [Nat.succ_eq_add_one] at hsteps
        linarith)
      rw [Nat.succ_eq_add_one] at hsteps
      left
      rcases hm with ⟨rfl, hnear⟩ | ⟨rfl, hnear⟩
      · rw [habs, hother]
        rcases hnear with hless | ⟨hsame, -⟩ <;> linarith
      · rw [habs', hother]
        linarith

/-- Beyond the finite magnitudes there is infinity. -/
theorem of_infinity_le (h : (steps infinityMagnitude : ℚ) ≤ x) : IsNearest x infinityMagnitude where
  le_infinity := le_rfl
  nearer other hle hne := by
    have hsteps := cast_steps_lt (lt_of_le_of_ne hle hne)
    left
    rw [abs_sub_comm, abs_of_nonneg (by linarith), abs_sub_comm, abs_of_nonneg (by linarith)]
    linarith

/-- What lies nearer to zero than half a step is zero. -/
theorem zero_of_lt (hx : 0 ≤ x) (hlt : x < 1 / 2) : IsNearest x 0 := by
  have hone : steps (0 + 1) = 1 := by decide
  refine of_between 0 (by decide) ?_ ?_ (.inl ⟨rfl, .inl ?_⟩)
  all_goals
    simp only [hone, steps_zero, Nat.cast_zero, Nat.cast_one]
    linarith

/-- The value of a magnitude is nearest to this magnitude. -/
theorem of_steps (h : m ≤ infinityMagnitude) : IsNearest (steps m) m where
  le_infinity := h
  nearer other _ hne := by
    left
    rw [sub_self, abs_zero, abs_pos, sub_ne_zero]
    exact fun hsame => hne (strictMono_steps.injective (Nat.cast_injective hsame))

end IsNearest

/-! ## Rounding -/

/-- The first 53 bits of a number, or all if it has fewer. -/
theorem div_shift_lt (n : Nat) : n / 2 ^ (n.log2 - 52) < 2 * exponentUnit := by
  rw [exponentUnit_eq_pow, Nat.div_lt_iff_lt_mul (Nat.two_pow_pos _), ← pow_succ', ← pow_add]
  exact Nat.lt_log2_self.trans_le (Nat.pow_le_pow_right (by decide) (by omega))

theorem le_div_shift (n : Nat) : exponentUnit ≤ n / 2 ^ (n.log2 - 52) ∨ n.log2 - 52 = 0 := by
  rcases Nat.eq_zero_or_pos (n.log2 - 52) with hzero | hpos
  · exact .inr hzero
  · have hne : n ≠ 0 := by
      rintro rfl
      have hlog : Nat.log2 0 = 0 := by decide
      omega
    left
    rw [exponentUnit_eq_pow, Nat.le_div_iff_mul_le (Nat.two_pow_pos _), ← pow_add]
    exact le_trans (Nat.pow_le_pow_right (by decide) (by omega)) (Nat.log2_self_le hne)

section Rounding

variable (num : Nat) {den : Nat} (hden : 0 < den)

include hden

/-- A fraction is its whole part and the rest. -/
theorem cast_div_eq : (num : ℚ) / den = (num / den : Nat) + (num % den : Nat) / (den : ℚ) := by
  have hcast : (num : ℚ) = den * (num / den : Nat) + (num % den : Nat) := by
    exact_mod_cast (Nat.div_add_mod num den).symm
  have hne : (den : ℚ) ≠ 0 := by positivity
  rw [hcast]
  field_simp

/-- Half of one and more is rounded up, and exactly half to the even number. -/
theorem roundDiv_cases :
    (roundDiv num den = num / den ∧ (2 * ((num % den : Nat) / (den : ℚ)) < 1 ∨
      (2 * ((num % den : Nat) / (den : ℚ)) = 1 ∧ num / den % 2 = 0))) ∨
    (roundDiv num den = num / den + 1 ∧ (1 < 2 * ((num % den : Nat) / (den : ℚ)) ∨
      (2 * ((num % den : Nat) / (den : ℚ)) = 1 ∧ num / den % 2 = 1))) := by
  have hpos : (0 : ℚ) < den := by exact_mod_cast hden
  have hless : 2 * ((num % den : Nat) / (den : ℚ)) < 1 ↔ 2 * (num % den) < den := by
    rw [← mul_div_assoc, div_lt_one hpos]
    norm_cast
  have hsame : 2 * ((num % den : Nat) / (den : ℚ)) = 1 ↔ 2 * (num % den) = den := by
    rw [← mul_div_assoc, div_eq_one_iff_eq hpos.ne']
    norm_cast
  have hmore : 1 < 2 * ((num % den : Nat) / (den : ℚ)) ↔ den < 2 * (num % den) := by
    rw [← mul_div_assoc, one_lt_div hpos]
    norm_cast
  rw [hless, hsame, hmore]
  unfold roundDiv
  dsimp only
  split <;> omega

/-- Rounding finds the magnitude nearest to a number of steps. -/
theorem nearestSteps_isNearest : IsNearest ((num : ℚ) / den) (nearestSteps num den) := by
  set shift := (num / den).log2 - 52 with hshift
  set scale := den * 2 ^ shift with hscale
  set low := num / scale with hlow
  have hscale_pos : 0 < scale := Nat.mul_pos hden (Nat.two_pow_pos shift)
  have hfraction : low = num / den / 2 ^ shift := by rw [hlow, hscale, Nat.div_div_eq_div_mul]
  have hroom : low < 2 * exponentUnit := hfraction ▸ div_shift_lt _
  have hfull : exponentUnit ≤ low ∨ shift = 0 := hfraction ▸ le_div_shift _
  -- the two magnitudes on either side are `low` and `low + 1` units of the last place
  have hsteps : (steps (shift * exponentUnit + low) : ℚ) = low * 2 ^ shift := by
    rw [steps_add hfull hroom.le]
    push_cast
    rfl
  have hsteps' : (steps (shift * exponentUnit + low + 1) : ℚ) = (low + 1) * 2 ^ shift := by
    rw [Nat.add_assoc, steps_add (by omega) hroom]
    push_cast
    rfl
  have hround := roundDiv_cases num hscale_pos
  have hvalue : (num : ℚ) / den = (low + (num % scale : Nat) / (scale : ℚ)) * 2 ^ shift := by
    rw [hlow, ← cast_div_eq num hscale_pos, hscale]
    push_cast
    field_simp
  have hrest : (0 : ℚ) ≤ (num % scale : Nat) / (scale : ℚ) := by positivity
  have hrest' : (num % scale : Nat) / (scale : ℚ) < 1 := by
    rw [div_lt_one (by exact_mod_cast hscale_pos)]
    exact_mod_cast Nat.mod_lt num hscale_pos
  rw [← hlow] at hround
  generalize (num % scale : Nat) / (scale : ℚ) = rest at hround hvalue hrest hrest'
  have hpow : (0 : ℚ) < 2 ^ shift := by positivity
  have hresult : nearestSteps num den
      = min infinityMagnitude (shift * exponentUnit + roundDiv num scale) := rfl
  rw [hresult]
  by_cases hfinite : shift * exponentUnit + low + 1 ≤ infinityMagnitude
  · have hunit_even : exponentUnit % 2 = 0 := by decide
    have hparity : (shift * exponentUnit + low) % 2 = low % 2 := by
      rw [Nat.add_mod, Nat.mul_mod, hunit_even]
      simp
    rw [Nat.min_eq_right (by omega)]
    refine .of_between _ hfinite ?_ ?_ ?_
    · rw [hsteps, hvalue]
      exact mul_le_mul_of_nonneg_right (by linarith only [hrest]) hpow.le
    · rw [hsteps', hvalue]
      exact mul_lt_mul_of_pos_right (by linarith only [hrest']) hpow
    · have hbelow : (num : ℚ) / den - low * 2 ^ shift = rest * 2 ^ shift := by
        rw [hvalue]
        ring
      have habove : (low + 1) * 2 ^ shift - (num : ℚ) / den = (1 - rest) * 2 ^ shift := by
        rw [hvalue]
        ring
      rw [hsteps, hsteps', hbelow, habove, hparity, mul_lt_mul_iff_left₀ hpow,
        mul_lt_mul_iff_left₀ hpow, mul_left_inj' hpow.ne', mul_left_inj' hpow.ne']
      rcases hround with ⟨hr, hless | ⟨hsame, heven⟩⟩ | ⟨hr, hmore | ⟨hsame, hodd⟩⟩
      · exact .inl ⟨by omega, .inl (by linarith only [hless])⟩
      · exact .inl ⟨by omega, .inr ⟨by linarith only [hsame], heven⟩⟩
      · exact .inr ⟨by omega, .inl (by linarith only [hmore])⟩
      · exact .inr ⟨by omega, .inr ⟨by linarith only [hsame], hodd⟩⟩
  · rw [Nat.min_eq_left (by omega)]
    have hbeyond : (steps infinityMagnitude : ℚ) ≤ steps (shift * exponentUnit + low) :=
      cast_steps_le (by omega)
    refine .of_infinity_le (hbeyond.trans ?_)
    rw [hsteps, hvalue]
    exact mul_le_mul_of_nonneg_right (by linarith only [hrest]) hpow.le

/-- Rounding finds the magnitude nearest to a fraction. -/
theorem nearest_isNearest :
    IsNearest ((num : ℚ) / den * stepsPerUnit) (nearest num den) := by
  have h := nearestSteps_isNearest (num * stepsPerUnit) hden
  rw [Nat.cast_mul] at h
  rw [div_mul_eq_mul_div]
  exact h

end Rounding

/-! ## Decimals -/

/-- The number of digits tells the power of ten. -/
theorem pow_length_le {n : Nat} (hn : n ≠ 0) : 10 ^ ((Nat.toDigits 10 n).length - 1) ≤ n := by
  by_contra hlt
  rcases Nat.eq_zero_or_pos ((Nat.toDigits 10 n).length - 1) with hzero | hpos
  · rw [hzero] at hlt
    omega
  · have := (Nat.length_toDigits_le_iff (by decide) hpos).2 (not_le.1 hlt)
    omega

theorem lt_pow_length (n : Nat) : n < 10 ^ (Nat.toDigits 10 n).length :=
  (Nat.length_toDigits_le_iff (by decide) Nat.length_toDigits_pos).1 le_rfl

/-- The value of a decimal in steps. -/
def stepsOfDecimal (digits : Nat) (exponent : Int) : ℚ :=
  digits * 10 ^ exponent * stepsPerUnit

theorem stepsOfDecimal_nonneg (digits : Nat) (exponent : Int) : 0 ≤ stepsOfDecimal digits exponent := by
  unfold stepsOfDecimal
  positivity

/-- Zeros at the end of the digits are the same as a higher power of ten. -/
theorem stepsOfDecimal_mul_pow (digits zeros : Nat) (exponent : Int) :
    stepsOfDecimal (digits * 10 ^ zeros) exponent = stepsOfDecimal digits (exponent + zeros) := by
  unfold stepsOfDecimal
  rw [zpow_add₀ (by norm_num), zpow_natCast]
  push_cast
  ring

/-- A decimal of many digits before the point lies beyond all magnitudes. -/
theorem infinity_le_stepsOfDecimal {digits : Nat} {exponent : Int} (hdigits : digits ≠ 0)
    (hsize : 310 < ((Nat.toDigits 10 digits).length : Int) + exponent) :
    (steps infinityMagnitude : ℚ) ≤ stepsOfDecimal digits exponent := by
  set length := (Nat.toDigits 10 digits).length with hlength
  have hpos : 0 < length := Nat.length_toDigits_pos
  have hpow : (10 : ℚ) ^ (length - 1) ≤ digits := by exact_mod_cast pow_length_le hdigits
  have hten : 2 ^ 1024 ≤ 10 ^ 310 := by decide +kernel
  have hexponent : (10 : ℚ) ^ (310 : Int) ≤ 10 ^ (((length - 1 : Nat) : Int) + exponent) :=
    zpow_le_zpow_right₀ (by norm_num) (by omega)
  rw [steps_infinityMagnitude, Nat.cast_mul]
  refine mul_le_mul_of_nonneg_right ?_ (Nat.cast_nonneg _)
  calc ((2 ^ 1024 : Nat) : ℚ) ≤ ((10 ^ 310 : Nat) : ℚ) := Nat.cast_le.2 hten
    _ = 10 ^ (310 : Int) := by rw [Nat.cast_pow]; rfl
    _ ≤ 10 ^ (((length - 1 : Nat) : Int) + exponent) := hexponent
    _ = 10 ^ (length - 1) * 10 ^ exponent := by rw [zpow_add₀ (by norm_num), zpow_natCast]
    _ ≤ digits * 10 ^ exponent := mul_le_mul_of_nonneg_right hpow (by positivity)

theorem two_stepsPerUnit_lt : 2 * stepsPerUnit < 10 ^ 331 := by decide +kernel

/-- A decimal of many zeros behind the point is less than half a step. -/
theorem stepsOfDecimal_lt_half {digits : Nat} {exponent : Int}
    (hsize : ((Nat.toDigits 10 digits).length : Int) + exponent < -330) :
    stepsOfDecimal digits exponent < 1 / 2 := by
  have hpow : (digits : ℚ) < 10 ^ (Nat.toDigits 10 digits).length := by
    exact_mod_cast lt_pow_length digits
  have hexponent : (10 : ℚ) ^ (((Nat.toDigits 10 digits).length : Int) + exponent)
      ≤ 10 ^ (-331 : Int) := zpow_le_zpow_right₀ (by norm_num) (by omega)
  have hunit : ((2 * stepsPerUnit : Nat) : ℚ) < ((10 ^ 331 : Nat) : ℚ) :=
    Nat.cast_lt.2 two_stepsPerUnit_lt
  rw [Nat.cast_mul, Nat.cast_pow] at hunit
  unfold stepsOfDecimal
  calc (digits : ℚ) * 10 ^ exponent * stepsPerUnit
      ≤ 10 ^ (Nat.toDigits 10 digits).length * 10 ^ exponent * stepsPerUnit :=
        mul_le_mul_of_nonneg_right (mul_le_mul_of_nonneg_right hpow.le (by positivity))
          (Nat.cast_nonneg _)
    _ = 10 ^ (((Nat.toDigits 10 digits).length : Int) + exponent) * stepsPerUnit := by
        rw [zpow_add₀ (by norm_num), zpow_natCast]
    _ ≤ 10 ^ (-331 : Int) * stepsPerUnit := mul_le_mul_of_nonneg_right hexponent (Nat.cast_nonneg _)
    _ = stepsPerUnit / 10 ^ 331 := by rw [zpow_neg, div_eq_inv_mul]; rfl
    _ < 1 / 2 := by
        rw [div_lt_div_iff₀ (by positivity) (by norm_num), one_mul, mul_comm]
        exact hunit

/-- Rounding finds the magnitude nearest to a decimal, however many digits it
    has and however large its power of ten is. -/
theorem nearestDecimal_isNearest (digits : Nat) (exponent : Int) :
    IsNearest (stepsOfDecimal digits exponent) (nearestDecimal digits exponent) := by
  unfold nearestDecimal
  dsimp only
  split
  · next hzero =>
    refine .zero_of_lt (stepsOfDecimal_nonneg _ _) ?_
    rw [hzero, stepsOfDecimal, Nat.cast_zero, zero_mul, zero_mul]
    norm_num
  next hdigits =>
  split
  · next hsize => exact .of_infinity_le (infinity_le_stepsOfDecimal hdigits hsize)
  split
  · next hsize => exact .zero_of_lt (stepsOfDecimal_nonneg _ _) (stepsOfDecimal_lt_half hsize)
  split
  · next hsign =>
    -- a fraction over one, or over a power of ten
    have h := nearest_isNearest (digits * Nat.pow 10 exponent.toNat) Nat.one_pos
    have hpow : (10 : ℚ) ^ exponent = 10 ^ exponent.toNat := by
      rw [← zpow_natCast, Int.toNat_of_nonneg hsign]
    rw [Nat.pow_eq] at h ⊢
    unfold stepsOfDecimal
    rw [hpow]
    simpa only [Nat.cast_mul, Nat.cast_pow, Nat.cast_ofNat, Nat.cast_one, div_one] using h
  · next hsign =>
    have hpower : 0 < Nat.pow 10 (-exponent).toNat := Nat.pow_pos (by decide)
    have h := nearest_isNearest digits hpower
    have hpow : (10 : ℚ) ^ exponent = (10 ^ (-exponent).toNat)⁻¹ := by
      rw [← zpow_natCast, Int.toNat_of_nonneg (by omega), zpow_neg, inv_inv]
    rw [Nat.pow_eq] at h ⊢
    unfold stepsOfDecimal
    rw [hpow, ← div_eq_mul_inv]
    exact_mod_cast h

/-- Decimals of the same value are read alike. -/
theorem nearestDecimal_mul_pow (digits zeros : Nat) (exponent : Int) :
    nearestDecimal (digits * 10 ^ zeros) exponent = nearestDecimal digits (exponent + zeros) := by
  refine (nearestDecimal_isNearest _ _).eq ?_
  rw [stepsOfDecimal_mul_pow]
  exact nearestDecimal_isNearest _ _

end RenderCheck.Binary64
