import RenderCheck.Binary64.Nearest

/-! # Reading numbers

    The written form of a number: an optional sign, then `inf`, `infinity` or
    `nan` in any case, or decimal digits with an optional point and at least
    one digit in all, and an optional exponent with at least one digit. The
    number read is the one nearest to the written value. -/

namespace RenderCheck

/-- What a numeral says, before it is rounded. -/
inductive Numeral where
  /-- The word `nan`. -/
  | nan (negative : Bool)
  /-- The word `inf` or `infinity`. -/
  | infinity (negative : Bool)
  /-- The digits before and after the point, and the power of ten. -/
  | decimal (negative : Bool) (whole fraction : List Char) (exponent : Int)
  deriving DecidableEq

namespace Numeral

/-- Takes an optional sign off: whether it was a minus, and the rest. -/
def splitSign : List Char → Bool × List Char
  | '-' :: rest => (true, rest)
  | '+' :: rest => (false, rest)
  | text => (false, text)

/-- Takes the digits off the front. -/
def splitDigits (text : List Char) : List Char × List Char :=
  (text.takeWhile Char.isDigit, text.dropWhile Char.isDigit)

/-- Takes a point and the digits after it off the front, if there is one. -/
def splitFraction : List Char → List Char × List Char
  | '.' :: rest => splitDigits rest
  | text => ([], text)

/-- Reads the exponent that ends a numeral: nothing, or an `e` in either case
    with an optional sign and digits up to the end. -/
def readExponent? : List Char → Option Int
  | [] => some 0
  | c :: rest =>
    if c = 'e' ∨ c = 'E' then
      let (negative, digits) := splitSign rest
      if digits ≠ [] ∧ digits.all Char.isDigit then
        let size : Int := Nat.ofDigitChars 10 digits 0
        some (if negative then -size else size)
      else none
    else none

/-- Reads what follows the sign. -/
def readBody? (negative : Bool) (text : List Char) : Option Numeral :=
  match String.ofList (text.map Char.toLower) with
  | "nan" => some (.nan negative)
  | "inf" => some (.infinity negative)
  | "infinity" => some (.infinity negative)
  | _ =>
    let (whole, afterWhole) := splitDigits text
    let (fraction, afterFraction) := splitFraction afterWhole
    if whole ++ fraction = [] then none
    else (readExponent? afterFraction).map (.decimal negative whole fraction)

/-- Reads a numeral that is the whole text. -/
def read? (text : List Char) : Option Numeral :=
  let (negative, body) := splitSign text
  readBody? negative body

/-- The number nearest to what the numeral says. -/
def value : Numeral → Binary64
  | .nan negative => .nan negative
  | .infinity negative => .infinity negative
  | .decimal negative whole fraction exponent =>
    .ofMagnitude negative (Binary64.nearestDecimal
      (Nat.ofDigitChars 10 (whole ++ fraction) 0) (exponent - fraction.length))

end Numeral

/-- The number a text says, if the text is a numeral. -/
def Binary64.read? (text : List Char) : Option Binary64 :=
  (Numeral.read? text).map Numeral.value

end RenderCheck
