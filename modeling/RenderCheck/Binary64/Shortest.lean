import RenderCheck.Binary64.Nearest

/-! # Shortest decimals

    The decimal by which a number is shown: the fewest digits that read back
    as the number; of those the nearest, and of two equally near ones the
    larger. Each candidate is tested by reading it, so whatever is returned
    reads back. -/

namespace RenderCheck

/-- A decimal: the value `digits · 10 ^ exponent`. -/
structure Decimal where
  digits : Nat
  exponent : Int
  deriving DecidableEq, Inhabited

namespace Decimal

/-- The number of times ten divides the digits, each moved to the exponent;
    `fuel` bounds their count. -/
def stripZeros : (fuel : Nat) → Decimal → Decimal
  | 0, d => d
  | fuel + 1, d =>
    if d.digits % 10 = 0 then stripZeros fuel ⟨d.digits / 10, d.exponent + 1⟩ else d

/-- The same value with no zero at the end of its digits. -/
def normalize (d : Decimal) : Decimal :=
  if d.digits = 0 then d else stripZeros d.digits.log2 d

/-- The magnitude nearest to the decimal. -/
def nearest (d : Decimal) : Nat :=
  Binary64.nearestDecimal d.digits d.exponent

end Decimal

namespace Binary64

/-- The power of ten of the first digit of a positive magnitude. Times
    `10³²⁴` every positive magnitude is at least one, so its digits before the
    point can be counted. -/
def leadingExponent (m : Nat) : Int :=
  (Nat.toDigits 10 (steps m * Nat.pow 10 324 / stepsPerUnit)).length - 1 - 324

/-- The decimals with unit `10 ^ exponent` on either side of a magnitude, the
    nearer one first and of two equally near ones the larger. -/
def neighbours (m : Nat) (exponent : Int) : List Decimal :=
  let num := steps m * Nat.pow 10 (-exponent).toNat
  let den := stepsPerUnit * Nat.pow 10 exponent.toNat
  let below : Decimal := ⟨num / den, exponent⟩
  let above : Decimal := ⟨num / den + 1, exponent⟩
  if den ≤ 2 * (num % den) then [above, below] else [below, above]

/-- The digits of a magnitude to the last. -/
def exactDecimal (m : Nat) : Decimal :=
  (Decimal.mk (steps m * Nat.pow 5 1074) (-1074)).normalize

/-- The shortest decimal that reads back as a positive finite magnitude. With
    1 to 17 digits in turn the two neighbours are tried; the exact digits,
    which always read back, end the search. -/
def shortest (m : Nat) : Decimal :=
  let leading := leadingExponent m
  let candidates := (List.range 17).flatMap fun (more : Nat) =>
    (neighbours m (leading - more)).map Decimal.normalize
  (candidates.find? fun d => d.nearest = m).getD (exactDecimal m)

end Binary64

end RenderCheck
