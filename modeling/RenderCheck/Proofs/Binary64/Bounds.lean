import RenderCheck.Binary64.Arithmetic
import RenderCheck.Proofs.Binary64.Nearest

/-! # Arithmetic within bounds

    What is rounded stays on its side of every number there is. So operations on
    numbers within bounds give numbers within bounds, as long as the exact result
    does not pass a number that can be told; and they give a number at all as
    long as nothing is infinite.

    * **Rounding**: `nearestSteps_le`, `le_nearestSteps`.
    * **Numbers within bounds**: `IsUpTo`.
    * **Operations**: a bound for each of the four; adding one at most does not
      lead beyond `2⁵⁴` (`IsUpTo.add_one`). -/

namespace RenderCheck.Binary64

/-! ## Rounding -/

namespace IsNearest

variable {x : ℚ} {m bound : Nat}

/-- What lies up to a bound is not rounded beyond it. -/
theorem le_of_le (h : IsNearest x m) (hbound : bound ≤ infinityMagnitude)
    (hx : x ≤ steps bound) : m ≤ bound := by
  by_contra hbeyond
  have hsteps : (steps bound : ℚ) < steps m := cast_steps_lt (not_le.1 hbeyond)
  have hnear := h.nearer bound hbound (by omega)
  rw [abs_of_nonneg (by linarith), abs_of_nonneg (by linarith)] at hnear
  rcases hnear with hless | ⟨hsame, -⟩ <;> linarith

/-- What lies from a bound on is not rounded below it. -/
theorem ge_of_ge (h : IsNearest x m) (hbound : bound ≤ infinityMagnitude)
    (hx : steps bound ≤ x) : bound ≤ m := by
  by_contra hbelow
  have hsteps : (steps m : ℚ) < steps bound := cast_steps_lt (not_le.1 hbelow)
  have hnear := h.nearer bound hbound (by omega)
  rw [abs_of_nonpos (by linarith), abs_of_nonpos (by linarith)] at hnear
  rcases hnear with hless | ⟨hsame, -⟩ <;> linarith

end IsNearest

section Bounds

variable {num den bound : Nat} (hden : 0 < den) (hbound : bound ≤ infinityMagnitude)

include hden hbound

theorem nearestSteps_le (h : num ≤ steps bound * den) : nearestSteps num den ≤ bound := by
  refine (nearestSteps_isNearest num hden).le_of_le hbound ?_
  rw [div_le_iff₀ (by exact_mod_cast hden)]
  exact_mod_cast h

theorem le_nearestSteps (h : steps bound * den ≤ num) : bound ≤ nearestSteps num den := by
  refine (nearestSteps_isNearest num hden).ge_of_ge hbound ?_
  rw [le_div_iff₀ (by exact_mod_cast hden)]
  exact_mod_cast h

end Bounds

theorem nearestSteps_le_infinity (num den : Nat) : nearestSteps num den ≤ infinityMagnitude :=
  Nat.min_le_left _ _

/-! ## Signs and magnitudes -/

theorem magnitude_ofMagnitude (negative : Bool) {m : Nat} (h : m ≤ infinityMagnitude) :
    (ofMagnitude negative m).magnitude = m := by
  have hinfinity : infinityMagnitude < 0x8000000000000000 := by decide +kernel
  unfold ofMagnitude magnitude signUnit
  rw [UInt64.toNat_ofNat']
  cases negative <;> simp only [if_true, Bool.false_eq_true, if_false] <;> omega

@[simp] theorem isNegative_ofMagnitude (negative : Bool) (m : Nat) :
    (ofMagnitude negative m).isNegative = negative := by
  unfold ofMagnitude isNegative signUnit
  rw [UInt64.toNat_ofNat']
  cases negative <;> simp only [if_true, Bool.false_eq_true, if_false, decide_eq_true_eq,
    decide_eq_false_iff_not] <;> omega

theorem magnitude_ofSteps (negative : Bool) (num den : Nat) :
    (ofSteps negative num den).magnitude = nearestSteps num den :=
  magnitude_ofMagnitude negative (nearestSteps_le_infinity num den)

/-- Rounding gives a number. -/
theorem isNaN_ofSteps (negative : Bool) (num den : Nat) : (ofSteps negative num den).isNaN = false := by
  have hle := nearestSteps_le_infinity num den
  rw [isNaN, magnitude_ofSteps, decide_eq_false_iff_not]
  omega

/-! ## Numbers within bounds -/

/-- A number from zero up to the one with a magnitude. -/
structure IsUpTo (bound : Nat) (x : Binary64) : Prop where
  nonnegative : x.isNegative = false
  magnitude_le : x.magnitude ≤ bound

theorem isFinite_of_magnitude_le {x : Binary64} {bound : Nat} (h : x.magnitude ≤ bound)
    (hbound : bound < infinityMagnitude) : x.isFinite = true :=
  decide_eq_true (Nat.lt_of_le_of_lt h hbound)

theorem size_le_of_magnitude_le {x : Binary64} {bound : Nat} (h : x.magnitude ≤ bound) :
    x.size ≤ steps bound :=
  strictMono_steps.monotone h

theorem IsUpTo.value_eq {bound : Nat} {x : Binary64} (h : IsUpTo bound x) : x.value = x.size := by
  rw [value, h.nonnegative]
  rfl

/-- The magnitude of one. -/
def one : Nat := 1023 * exponentUnit

/-- The magnitude of `2⁵⁴`. -/
def top : Nat := 1077 * exponentUnit

@[simp] theorem steps_one : steps one = stepsPerUnit := by decide +kernel

theorem steps_top : steps top = 2 ^ 54 * stepsPerUnit := by decide +kernel

/-- The next number is four more. -/
theorem steps_top_succ : steps (top + 1) = (2 ^ 54 + 4) * stepsPerUnit := by decide +kernel

theorem one_lt_infinity : one < infinityMagnitude := by decide +kernel

theorem top_lt_infinity : top < infinityMagnitude := by decide +kernel

/-- The magnitude of `2⁶⁶`. -/
theorem steps_countLimit : steps (1089 * exponentUnit) = 2 ^ 66 * stepsPerUnit := by decide +kernel

theorem countLimit_lt_infinity : 1089 * exponentUnit < infinityMagnitude := by decide +kernel

/-- The magnitude of 255, which can be told exactly. -/
theorem steps_white : steps ((255 : Nat) : Binary64).magnitude = 255 * stepsPerUnit := by
  decide +kernel

theorem white_lt_infinity : ((255 : Nat) : Binary64).magnitude < infinityMagnitude := by
  decide +kernel

/-! ## Operations -/

/-- A sum that is up to one more than `2⁵⁴` is rounded to `2⁵⁴` at most, for the
    next number is further away. -/
theorem nearestSteps_le_top {n : Nat} (h : n ≤ (2 ^ 54 + 1) * stepsPerUnit) :
    nearestSteps n 1 ≤ top := by
  by_contra hbeyond
  have hnearest := nearestSteps_isNearest n Nat.one_pos
  have hbelow : steps (top + 1) ≤ steps (nearestSteps n 1) :=
    strictMono_steps.monotone (not_le.1 hbeyond)
  have htop : (steps top : ℚ) = 2 ^ 54 * stepsPerUnit := by
    rw [steps_top]
    push_cast
    ring
  have hnext : (2 ^ 54 + 4) * (stepsPerUnit : ℚ) ≤ steps (nearestSteps n 1) := by
    rw [steps_top_succ] at hbelow
    exact_mod_cast hbelow
  have hsum : (n : ℚ) ≤ (2 ^ 54 + 1) * stepsPerUnit := by exact_mod_cast h
  have hpos : (0 : ℚ) < stepsPerUnit := by exact_mod_cast stepsPerUnit_pos
  have hnear := hnearest.nearer top top_lt_infinity.le (by omega)
  rw [Nat.cast_one, div_one, htop, abs_of_nonneg (by linarith)] at hnear
  rcases abs_cases ((2 ^ 54 * stepsPerUnit : ℚ) - n) with ⟨habs, -⟩ | ⟨habs, -⟩ <;>
    rcases hnear with hless | ⟨hsame, -⟩ <;> linarith

section Operations

variable {x y : Binary64} {bound : Nat}

theorem areFinite_of_le {bound' : Nat} (hx : x.magnitude ≤ bound) (hbound : bound < infinityMagnitude)
    (hy : y.magnitude ≤ bound') (hbound' : bound' < infinityMagnitude) : areFinite x y = true := by
  rw [areFinite, isFinite_of_magnitude_le hx hbound, isFinite_of_magnitude_le hy hbound']
  rfl

theorem IsUpTo.add_one (hx : IsUpTo top x) (hy : IsUpTo one y) : IsUpTo top (x + y) := by
  have hsum : x + y = ofSteps false (x.size + y.size) 1 := by
    show (if areFinite x y then ofValue (x.value + y.value) (x.isNegative && y.isNegative)
      else nan false) = _
    rw [if_pos (areFinite_of_le hx.magnitude_le top_lt_infinity hy.magnitude_le one_lt_infinity),
      hx.value_eq, hy.value_eq, hx.nonnegative, ofValue]
    congr 1
    simp
    omega
  have hsize := size_le_of_magnitude_le hx.magnitude_le
  have hsize' := size_le_of_magnitude_le hy.magnitude_le
  rw [steps_top] at hsize
  rw [steps_one] at hsize'
  rw [hsum]
  refine ⟨isNegative_ofMagnitude _ _, ?_⟩
  rw [magnitude_ofSteps]
  exact nearestSteps_le_top (by rw [Nat.add_mul, Nat.one_mul]; exact Nat.add_le_add hsize hsize')

/-- The distance of two numbers from zero on is no greater than both of them. -/
theorem IsUpTo.magnitude_sub_le (hx : IsUpTo bound x) (hy : IsUpTo bound y)
    (hbound : bound < infinityMagnitude) : (x - y).magnitude ≤ bound := by
  have hminus : (-y).magnitude = y.magnitude :=
    magnitude_ofMagnitude _ (hy.magnitude_le.trans hbound.le)
  have hminus' : (-y).isNegative = true := by
    show (ofMagnitude (!y.isNegative) y.magnitude).isNegative = true
    rw [isNegative_ofMagnitude, hy.nonnegative]
    rfl
  have hvalue : (-y).value = -(y.size : Int) := by
    rw [value, hminus', if_pos rfl, size, hminus, size]
  have hdifference : (x - y).magnitude = nearestSteps (x.size - y.size : Int).natAbs 1 := by
    show (x + -y).magnitude = _
    show (if areFinite x (-y) then ofValue (x.value + (-y).value) (x.isNegative && (-y).isNegative)
      else nan false).magnitude = _
    rw [if_pos (areFinite_of_le hx.magnitude_le hbound (hminus ▸ hy.magnitude_le) hbound),
      hx.value_eq, hvalue, ofValue, magnitude_ofSteps, Int.sub_eq_add_neg]
  have hsize := size_le_of_magnitude_le hx.magnitude_le
  have hsize' := size_le_of_magnitude_le hy.magnitude_le
  rw [hdifference]
  exact nearestSteps_le Nat.one_pos hbound.le (by omega)

/-- A part of a number is at most one. -/
theorem magnitude_div_le_one (hx : x.magnitude ≤ y.magnitude) (hy : y.magnitude < infinityMagnitude)
    (hpos : 0 < y.size) : (x / y).magnitude ≤ one := by
  have hquotient : (x / y).magnitude = nearestSteps (x.size * stepsPerUnit) y.size := by
    show (if areFinite x y && y.size ≠ 0 then
      ofSteps (x.isNegative != y.isNegative) (x.size * stepsPerUnit) y.size
      else nan false).magnitude = _
    rw [if_pos (by simp [areFinite_of_le hx hy le_rfl hy, hpos.ne']), magnitude_ofSteps]
  rw [hquotient]
  refine nearestSteps_le hpos one_lt_infinity.le ?_
  rw [steps_one, Nat.mul_comm]
  exact Nat.mul_le_mul_left _ (size_le_of_magnitude_le hx)

/-- The square of what is at most one is at most one. -/
theorem IsUpTo.mul_self (hx : x.magnitude ≤ one) : IsUpTo one (x * x) := by
  have hsquare : x * x = ofSteps false (x.size * x.size) stepsPerUnit := by
    show (if areFinite x x then
      ofSteps (x.isNegative != x.isNegative) (x.size * x.size) stepsPerUnit else nan false) = _
    rw [if_pos (areFinite_of_le hx one_lt_infinity hx one_lt_infinity), bne_self_eq_false]
  have hsize := size_le_of_magnitude_le hx
  rw [hsquare]
  refine ⟨isNegative_ofMagnitude _ _, ?_⟩
  rw [magnitude_ofSteps]
  refine nearestSteps_le stepsPerUnit_pos one_lt_infinity.le ?_
  rw [steps_one] at hsize ⊢
  exact Nat.mul_le_mul hsize hsize

/-- A finite number divided by another one that is not zero is a number. -/
theorem isNaN_div (hx : x.magnitude < infinityMagnitude) (hy : y.magnitude < infinityMagnitude)
    (hpos : 0 < y.size) : (x / y).isNaN = false := by
  show (if areFinite x y && y.size ≠ 0 then
    ofSteps (x.isNegative != y.isNegative) (x.size * stepsPerUnit) y.size else nan false).isNaN = _
  rw [if_pos (by simp [areFinite_of_le le_rfl hx le_rfl hy, hpos.ne'])]
  exact isNaN_ofSteps _ _ _

end Operations

end RenderCheck.Binary64
