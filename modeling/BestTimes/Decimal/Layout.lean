import BestTimes.Decimal.Basic
import BestTimes.Decimal.Integer
set_option autoImplicit false

/-!
# How a decimal is written

A positive decimal is written with its significant digits only: zeros at the end
of the coefficient are dropped.  In a range of exponents of the first digit it is
written *positionally*, with as many zeros as the point needs and at least one
digit behind it (`0.0025`, `20.0`); outside of it in *scientific* form, with one
digit in front of the point, no point if there is no other digit, and an exponent
that always has a sign (`1e+03`, `3.5e-7`).  A `Layout` holds what formats decide
differently: the range, and the least number of digits of an exponent.
-/

namespace BestTimes.Decimal

/-- What a format decides about writing decimals. -/
structure Layout where
  /-- The least exponent of the first digit that is written positionally. -/
  positionalFrom : Int
  /-- The least exponent above that range. -/
  positionalBelow : Int
  /-- The least number of digits of a written exponent. -/
  exponentDigits : Nat
  deriving DecidableEq, Repr

/-- A text without what there is of the given character at its end. -/
def trimEnd (c : Char) (text : List Char) : List Char :=
  (text.reverse.dropWhile (· == c)).reverse

/-- The digits without the zeros at their end. -/
def dropFinalZeros (digits : List Char) : List Char := trimEnd '0' digits

/-- Writes the fraction of a number: a point and at least one digit. -/
def pointAnd (digits : List Char) : List Char :=
  '.' :: (if digits.isEmpty then ['0'] else digits)

/-- Writes the digits with the first one at the power `exponent` of ten. -/
def positional (digits : List Char) (exponent : Int) : List Char :=
  if 0 ≤ exponent then
    let places := exponent.toNat + 1
    digits.take places ++ List.replicate (places - digits.length) '0' ++
      pointAnd (digits.drop places)
  else '0' :: pointAnd (List.replicate ((-exponent).toNat - 1) '0' ++ digits)

/-- Writes an exponent with its sign and at least `least` digits. -/
def exponentText (least : Nat) (exponent : Int) : List Char :=
  (if exponent < 0 then '-' else '+') :: padded least exponent.natAbs

/-- Writes the digits with a point behind the first, and the exponent. -/
def scientific (least : Nat) (digits : List Char) (exponent : Int) : List Char :=
  digits.take 1 ++ (if digits.length ≤ 1 then [] else '.' :: digits.drop 1) ++
    'e' :: exponentText least exponent

/-- Writes a positive decimal. -/
def write (layout : Layout) (d : Decimal) : List Char :=
  let digits := Nat.toDigits 10 d.coefficient
  let exponent := d.exponent + (digits.length - 1 : Nat)
  if layout.positionalFrom ≤ exponent ∧ exponent < layout.positionalBelow then
    positional (dropFinalZeros digits) exponent
  else scientific layout.exponentDigits (dropFinalZeros digits) exponent

end BestTimes.Decimal
