/-! # Binary floating point numbers

    A number is its 64 bits: one for the sign, eleven for the exponent and 52
    for the fraction. Everything is said about the *magnitude*, the number the
    lower 63 bits spell. Magnitudes are in the order of the absolute values
    they stand for, with infinity after the finite ones and the NaNs last; and
    every finite one is a whole number of `2⁻¹⁰⁷⁴`, the smallest step there is.
    All arithmetic below is therefore exact arithmetic on natural numbers. -/

namespace RenderCheck

/-- A binary floating point number, given by its 64 bits. -/
structure Binary64 where
  /-- Sign, exponent and fraction, from the top bit down. -/
  bits : UInt64
  deriving DecidableEq, Inhabited

namespace Binary64

/-! ## Parts -/

/-- The weight of the sign bit. -/
def signUnit : Nat :=
  0x8000000000000000

/-- The weight of the lowest bit of the exponent. -/
def exponentUnit : Nat :=
  0x10000000000000

/-- The sign bit is set. -/
def isNegative (x : Binary64) : Bool :=
  signUnit ≤ x.bits.toNat

/-- Exponent and fraction read as one number. -/
def magnitude (x : Binary64) : Nat :=
  x.bits.toNat % signUnit

/-- The number of a sign and a magnitude. -/
def ofMagnitude (negative : Bool) (m : Nat) : Binary64 :=
  ⟨UInt64.ofNat (m % signUnit + if negative then signUnit else 0)⟩

/-- The magnitude of infinity: all exponent bits and no fraction. -/
def infinityMagnitude : Nat :=
  2047 * exponentUnit

/-- No number at all. -/
def isNaN (x : Binary64) : Bool :=
  infinityMagnitude < x.magnitude

/-- A number other than the infinities. -/
def isFinite (x : Binary64) : Bool :=
  x.magnitude < infinityMagnitude

/-- The number zero. -/
def zero : Binary64 := ⟨0⟩

/-- Infinity, with a sign. -/
def infinity (negative : Bool) : Binary64 :=
  ofMagnitude negative infinityMagnitude

/-- The quiet NaN, with a sign. -/
def nan (negative : Bool) : Binary64 :=
  ofMagnitude negative (infinityMagnitude + exponentUnit / 2)

/-! ## Value -/

/-- The absolute value of a finite magnitude, in steps of `2⁻¹⁰⁷⁴`. -/
def steps (m : Nat) : Nat :=
  if m < exponentUnit then m
  else (exponentUnit + m % exponentUnit) * Nat.pow 2 (m / exponentUnit - 1)

/-- The steps there are in one. -/
def stepsPerUnit : Nat :=
  Nat.pow 2 1074

/-! ## Order -/

/-- The place of a number in the order of all numbers that are not NaN; both
    zeros have the same place. -/
def rank (x : Binary64) : Int :=
  if x.isNegative then -(x.magnitude : Int) else x.magnitude

/-- Strictly below. A NaN is neither below nor above anything. -/
def lt (x y : Binary64) : Bool :=
  !x.isNaN && !y.isNaN && decide (x.rank < y.rank)

/-- Below or equal in value. A NaN is not even equal to itself. -/
def le (x y : Binary64) : Bool :=
  !x.isNaN && !y.isNaN && decide (x.rank ≤ y.rank)

theorem isNaN_of_isFinite {x : Binary64} (h : x.isFinite = true) : x.isNaN = false := by
  simp only [isFinite, isNaN, decide_eq_true_eq, decide_eq_false_iff_not] at h ⊢
  omega

/-- Two numbers that are not NaN are always ordered. -/
theorem le_iff_not_lt {x y : Binary64} (hx : x.isNaN = false) (hy : y.isNaN = false) :
    x.le y = true ↔ y.lt x = false := by
  simp [le, lt, hx, hy]

/-- What lies above the larger of two numbers lies above the smaller one. -/
theorem lt_of_le_of_lt {x y z : Binary64} (hxy : x.le y = true) (hyz : y.lt z = true) :
    x.lt z = true := by
  simp only [le, lt, Bool.and_eq_true, decide_eq_true_eq] at hxy hyz ⊢
  obtain ⟨⟨hx, -⟩, hle⟩ := hxy
  obtain ⟨⟨-, hz⟩, hlt⟩ := hyz
  exact ⟨⟨hx, hz⟩, by omega⟩

end Binary64

end RenderCheck
