import BestTimes.Binary64.Basic
import BestTimes.Decimal.Basic
import BestTimes.Decimal.Integer
set_option autoImplicit false

/-!
# Numbers with a count of places

A number can be written with a given count of places behind the point in two ways.
`fixed` writes all digits in front of the point and rounds to the grid of step
`10 ^ -places`.  The scientific form has one digit in front of the point and the
exponent of that digit beside it; it is rounded to the grid of `places + 1`
significant digits, and its exponent is that of the rounded number (`Scientific`).

Both round the exact value of the number once, to nearest and to the even digit
from the middle, and both write every place, the zeros at the end included.  With
no places there is no point.
-/

namespace BestTimes.Decimal

/-- Digits with a point in front of the last `places` of them. -/
def pointed (places : Nat) (digits : List Char) : List Char :=
  let whole := digits.length - places
  if places = 0 then digits else digits.take whole ++ '.' :: digits.drop whole

/-- Writes a number with `places` digits behind the point. -/
def fixed (places : Nat) (negative : Bool) (m : Magnitude) : List Char :=
  withSign negative
    (pointed places
      (padded (places + 1) (divNearest (m.units * Nat.pow 10 places) unitsPerOne)))

/-- A number in scientific form: the written mantissa, and the exponent of its first
digit. -/
structure Scientific where
  mantissa : List Char
  exponent : Int
  deriving DecidableEq, Repr

/-- A positive number in scientific form, with `places` digits behind the point of the
mantissa.  A coefficient that was carried to one digit more has a zero at its end,
which is not written. -/
def scientificForm (places : Nat) (negative : Bool) (m : Magnitude) : Scientific :=
  let d := roundTo (places + 1) m.units unitsPerOne
  let digits := Nat.toDigits 10 d.coefficient
  ⟨withSign negative (pointed places (digits.take (places + 1))),
    d.exponent + (digits.length - 1 : Nat)⟩

end BestTimes.Decimal
