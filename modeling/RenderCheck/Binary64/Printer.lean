import RenderCheck.Binary64.Shortest

/-! # Printing numbers

    Numbers are shown by their shortest decimal. In reports the form is
    positional whatever the size, without a point for whole numbers; in log
    lines a whole number ends in `.0`, and very large and very small numbers
    have an exponent. -/

namespace RenderCheck

namespace Decimal

/-- The digits before and after the point in positional form. -/
def positional (d : Decimal) : List Char × List Char :=
  let digits := Nat.toDigits 10 d.digits
  let places := (-d.exponent).toNat
  let padded := List.replicate (places + 1 - digits.length) '0' ++ digits
    ++ List.replicate d.exponent.toNat '0'
  (padded.take (padded.length - places), padded.drop (padded.length - places))

/-- Positional form; a whole number has no point. -/
def render (d : Decimal) : List Char :=
  match d.positional with
  | (whole, []) => whole
  | (whole, fraction) => whole ++ '.' :: fraction

/-- Positional form with at least one digit after the point. -/
def renderPointed (d : Decimal) : List Char :=
  match d.positional with
  | (whole, []) => whole ++ ['.', '0']
  | (whole, fraction) => whole ++ '.' :: fraction

/-- One digit, the others after a point, and the power of ten. -/
def renderScientific (d : Decimal) : List Char :=
  let digits := Nat.toDigits 10 d.digits
  let exponent := d.exponent + (digits.length - 1 : Nat)
  let mantissa := match digits with
    | [] => []
    | [first] => [first]
    | first :: others => first :: '.' :: others
  mantissa ++ 'e' :: (if exponent < 0 then '-' :: Nat.toDigits 10 exponent.natAbs
    else Nat.toDigits 10 exponent.natAbs)

end Decimal

namespace Binary64

/-- Puts the sign before the text of a magnitude. -/
def signed (x : Binary64) (text : List Char) : List Char :=
  if x.isNegative then '-' :: text else text

/-- The text of a number in reports and messages. -/
def render (x : Binary64) : List Char :=
  if x.isNaN then ['N', 'a', 'N']
  else x.signed <|
    if x.magnitude = infinityMagnitude then ['i', 'n', 'f']
    else if x.magnitude = 0 then ['0']
    else (shortest x.magnitude).render

/-- The number as a string. -/
def text (x : Binary64) : String :=
  String.ofList x.render

/-- The text of a number in log lines: positional from `10⁻⁴` up to below
    `10¹⁶`, else with an exponent. -/
def renderLogged (x : Binary64) : List Char :=
  if x.isNaN then ['N', 'a', 'N']
  else x.signed <|
    if x.magnitude = infinityMagnitude then ['i', 'n', 'f']
    else if x.magnitude = 0 then ['0', '.', '0']
    else if nearestDecimal 1 (-4) ≤ x.magnitude ∧ x.magnitude < nearestDecimal 1 16 then
      (shortest x.magnitude).renderPointed
    else (shortest x.magnitude).renderScientific

end Binary64

end RenderCheck
