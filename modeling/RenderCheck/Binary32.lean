import RenderCheck.Binary64.Nearest

/-! # Short floating point numbers

    Numbers of 32 bits: one for the sign, eight for the exponent and 23 for the
    fraction. They are told like the long ones: the magnitude is the number the
    lower 31 bits spell, and every finite number is a whole number of `2⁻¹⁴⁹`,
    so that all arithmetic is exact arithmetic on natural numbers that is
    rounded once, to the nearest number and of two equally near ones to the
    even one. -/

namespace RenderCheck

/-- A floating point number of single precision, given by its 32 bits. -/
structure Binary32 where
  /-- Sign, exponent and fraction, from the top bit down. -/
  bits : UInt32
  deriving DecidableEq, Inhabited

namespace Binary32

/-! ## Parts -/

/-- The weight of the sign bit. -/
def signUnit : Nat :=
  0x80000000

/-- The weight of the lowest bit of the exponent. -/
def exponentUnit : Nat :=
  0x800000

/-- The sign bit is set. -/
def isNegative (x : Binary32) : Bool :=
  signUnit ≤ x.bits.toNat

/-- Exponent and fraction read as one number. -/
def magnitude (x : Binary32) : Nat :=
  x.bits.toNat % signUnit

/-- The number of a sign and a magnitude. -/
def ofMagnitude (negative : Bool) (m : Nat) : Binary32 :=
  ⟨UInt32.ofNat (m % signUnit + if negative then signUnit else 0)⟩

/-- The magnitude of infinity: all exponent bits and no fraction. -/
def infinityMagnitude : Nat :=
  255 * exponentUnit

/-- No number at all. -/
def isNaN (x : Binary32) : Bool :=
  infinityMagnitude < x.magnitude

/-- A number other than the infinities. -/
def isFinite (x : Binary32) : Bool :=
  x.magnitude < infinityMagnitude

/-- The quiet NaN. -/
def nan : Binary32 :=
  ofMagnitude false (infinityMagnitude + exponentUnit / 2)

/-! ## Value -/

/-- The absolute value of a finite number, in steps of `2⁻¹⁴⁹`. -/
def size (x : Binary32) : Nat :=
  if x.magnitude < exponentUnit then x.magnitude
  else (exponentUnit + x.magnitude % exponentUnit) * Nat.pow 2 (x.magnitude / exponentUnit - 1)

/-- The value of a finite number, in steps. -/
def value (x : Binary32) : Int :=
  if x.isNegative then -(x.size : Int) else x.size

/-- The steps there are in one. -/
def stepsPerUnit : Nat :=
  Nat.pow 2 149

/-! ## Rounding -/

/-- The magnitude nearest to `num / den` steps. Magnitudes up to `2²⁴` lie one
    step apart; above, the distance doubles with every further bit, which
    `shift` counts. -/
def nearestSteps (num den : Nat) : Nat :=
  let shift := (num / den).log2 - 23
  min infinityMagnitude
    (shift * exponentUnit + Binary64.roundDiv num (den * Nat.pow 2 shift))

/-- The number nearest to `num / den` steps, with a sign. -/
def ofSteps (negative : Bool) (num den : Nat) : Binary32 :=
  ofMagnitude negative (nearestSteps num den)

/-- The number nearest to a whole number of steps. A sum of zeros is negative
    only if both are. -/
def ofValue (value : Int) (bothNegative : Bool) : Binary32 :=
  ofSteps (value < 0 || (value = 0 && bothNegative)) value.natAbs 1

/-- The number nearest to `num / den`. -/
def ofRatio (num den : Nat) : Binary32 :=
  ofSteps false (num * stepsPerUnit) den

/-! ## Arithmetic

As with the long numbers, the operations are those of finite ones: infinities
and NaNs never meet here, and an operation on one of them gives no number. -/

/-- Both numbers are finite. -/
def areFinite (x y : Binary32) : Bool :=
  x.isFinite && y.isFinite

instance : NatCast Binary32 where
  natCast n := ofRatio n 1

instance : Neg Binary32 where
  neg x := ofMagnitude (!x.isNegative) x.magnitude

instance : Add Binary32 where
  add x y :=
    if areFinite x y then ofValue (x.value + y.value) (x.isNegative && y.isNegative) else nan

instance : Sub Binary32 where
  sub x y := x + -y

instance : Mul Binary32 where
  mul x y :=
    if areFinite x y then
      ofSteps (x.isNegative != y.isNegative) (x.size * y.size) stepsPerUnit
    else nan

/-- The whole number below, for a byte: what lies outside of its range goes to
    the nearer end, and what is no number to zero. -/
def toUInt8 (x : Binary32) : UInt8 :=
  if x.isNaN || x.isNegative then 0 else UInt8.ofNat (min 255 (x.size / stepsPerUnit))

end Binary32

end RenderCheck
