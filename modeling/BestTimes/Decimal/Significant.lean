import BestTimes.Decimal.Layout
import BestTimes.Decimal.Places
set_option autoImplicit false

/-!
# A number with a given count of significant digits

A binary64 number is first put into scientific form with the given number of
significant digits.  The exponent of that form, which is the exponent after
rounding, so that `9.9996` with four digits is `10.0`, chooses how the number is
written: in scientific form, or positionally.  For the positional form the number is
rounded again, from its exact value, to as many places as leave the number of
significant digits.  Either way the zeros at the end of the fraction are dropped, but
the positional form keeps one digit behind the point.  Zeros keep their sign, and
what is not finite is written as a word.

Only so many places behind the point can be written: `significant?` is the text if
there are no more of them.  Zeros at the end count as places, though they are not
part of the text.
-/

namespace BestTimes.Decimal

/-- The text without the zeros at the end of its fraction, and without a point that is
left at the end. -/
def trimFraction (text : List Char) : List Char :=
  if text.contains '.' then trimEnd '.' (trimEnd '0' text) else text

/-- Whether a number with this exponent is written positionally: from `0.0001` up to
the numbers whose digits leave one place behind the point. -/
def isPositional (digits : Nat) (exponent : Int) : Bool :=
  -4 ≤ exponent ∧ exponent < digits - 1

/-- The places behind the point that leave `digits` significant digits. -/
def placesFor (digits : Nat) (exponent : Int) : Nat := (digits - 1 - exponent).toNat

/-- Writes a fixed number, with at least one digit behind the point. -/
def withFraction (text : List Char) : List Char :=
  if text.contains '.' then text else text ++ ['.', '0']

/-- Writes a number other than zero with `digits` significant digits, of which there is
at least one. -/
def significantDigits (digits : Nat) (negative : Bool) (m : Magnitude) : List Char :=
  let form := scientificForm (digits - 1) negative m
  if isPositional digits form.exponent then
    withFraction (trimFraction (fixed (placesFor digits form.exponent) negative m))
  else
    -- the exponent has two digits at least
    trimFraction form.mantissa ++ 'e' :: exponentText 2 form.exponent

/-- Writes a number with `digits` significant digits; no digits count as one. -/
def significant (digits : Nat) : Binary64 → String
  | .nan => "nan"
  | .infinite negative => if negative then "-inf" else "inf"
  | .finite negative m =>
    String.ofList
      (if m.units = 0 then withSign negative ['0', '.', '0']
        else significantDigits (max digits 1) negative m)

/-- The most places behind a point that can be written. -/
def maxPlaces : Nat := 65535

/-- The places behind the point that a number with `digits` significant digits takes,
with the zeros at its end.  It is written in scientific form first, to see its
exponent, and then positionally if this is its form. -/
def significantPlaces (digits : Nat) : Binary64 → Nat
  | .nan | .infinite _ => 0
  | .finite negative m =>
    let digits := max digits 1
    if m.units = 0 then 0
    else if maxPlaces < digits - 1 then digits - 1
    else
      let exponent := (scientificForm (digits - 1) negative m).exponent
      if isPositional digits exponent then max (digits - 1) (placesFor digits exponent)
      else digits - 1

/-- Writes a number with `digits` significant digits, if its places can be written. -/
def significant? (digits : Nat) (x : Binary64) : Option String :=
  if significantPlaces digits x ≤ maxPlaces then some (significant digits x) else none

end BestTimes.Decimal
