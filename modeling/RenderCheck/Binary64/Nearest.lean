import RenderCheck.Binary64.Basic

/-! # Rounding to the nearest number

    The magnitude nearest to a fraction of natural numbers. Of two equally
    near ones it is the even one, and what lies beyond the largest finite
    magnitude by half a step or more is infinite. -/

namespace RenderCheck.Binary64

/-- The whole number nearest to `num / den`, the even one of two. -/
def roundDiv (num den : Nat) : Nat :=
  let quotient := num / den
  let twice := 2 * (num % den)
  if den < twice ∨ (twice = den ∧ quotient % 2 = 1) then quotient + 1 else quotient

/-- The magnitude nearest to `num / den` steps. Magnitudes up to `2⁵³` lie one
    step apart; above, the distance doubles with every further bit, which
    `shift` counts. A carry out of the fraction lands in the exponent, as it
    should. -/
def nearestSteps (num den : Nat) : Nat :=
  let shift := (num / den).log2 - 52
  min infinityMagnitude (shift * exponentUnit + roundDiv num (den * Nat.pow 2 shift))

/-- The magnitude nearest to `num / den`. -/
def nearest (num den : Nat) : Nat :=
  nearestSteps (num * stepsPerUnit) den

/-- The magnitude nearest to `digits · 10 ^ exponent`. Exponents out of every
    proportion are settled by the number of digits alone, before any power is
    taken. -/
def nearestDecimal (digits : Nat) (exponent : Int) : Nat :=
  let size := (Nat.toDigits 10 digits).length
  if digits = 0 then 0
  else if 310 < size + exponent then infinityMagnitude
  else if size + exponent < -330 then 0
  else if 0 ≤ exponent then nearest (digits * Nat.pow 10 exponent.toNat) 1
  else nearest digits (Nat.pow 10 (-exponent).toNat)

end RenderCheck.Binary64
