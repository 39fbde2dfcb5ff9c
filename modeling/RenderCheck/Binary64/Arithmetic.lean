import RenderCheck.Binary64.Nearest

/-! # Arithmetic

    The four operations are done exactly and then rounded to the nearest
    number. They are those of finite numbers: infinities and NaNs never meet
    here, and an operation on one of them, or a division by zero, gives no
    number. -/

namespace RenderCheck.Binary64

/-- The absolute value of a finite number, in steps. -/
def size (x : Binary64) : Nat :=
  steps x.magnitude

/-- The value of a finite number, in steps. -/
def value (x : Binary64) : Int :=
  if x.isNegative then -(x.size : Int) else x.size

/-- The number nearest to `num / den` steps, with a sign. -/
def ofSteps (negative : Bool) (num den : Nat) : Binary64 :=
  ofMagnitude negative (nearestSteps num den)

/-- The number nearest to a whole number of steps. A sum of zeros is negative
    only if both are. -/
def ofValue (value : Int) (bothNegative : Bool) : Binary64 :=
  ofSteps (value < 0 || (value = 0 && bothNegative)) value.natAbs 1

/-- Both numbers are finite. -/
def areFinite (x y : Binary64) : Bool :=
  x.isFinite && y.isFinite

instance : Neg Binary64 where
  neg x := ofMagnitude (!x.isNegative) x.magnitude

instance : Add Binary64 where
  add x y :=
    if areFinite x y then ofValue (x.value + y.value) (x.isNegative && y.isNegative) else nan false

instance : Sub Binary64 where
  sub x y := x + -y

instance : Mul Binary64 where
  mul x y :=
    if areFinite x y then
      ofSteps (x.isNegative != y.isNegative) (x.size * y.size) stepsPerUnit
    else nan false

instance : Div Binary64 where
  div x y :=
    if areFinite x y && y.size ≠ 0 then
      ofSteps (x.isNegative != y.isNegative) (x.size * stepsPerUnit) y.size
    else nan false

instance : NatCast Binary64 where
  natCast n := ofMagnitude false (nearest n 1)

end RenderCheck.Binary64
