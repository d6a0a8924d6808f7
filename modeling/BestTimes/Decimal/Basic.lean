import BestTimes.Rounding
set_option autoImplicit false

/-!
# Decimals

A decimal is `coefficient * 10 ^ exponent`, a point of the decimal grid of step
`10 ^ exponent`.  Binary64 numbers meet decimals in both directions: a numeral in
the input is a decimal to be rounded to binary64, and a printed number is a
binary64 number rounded to a decimal grid.

* `num` and `den` are the decimal as a quotient of natural numbers, without a case
  distinction on the sign of the exponent.
* `leadingExponent num den` is the exponent of the first significant digit of
  `num / den`; `floorTo` and `roundTo` are the grid points with a given number of
  significant digits at and around the quotient.
-/

namespace BestTimes

/-- The decimal `coefficient * 10 ^ exponent`. -/
structure Decimal where
  coefficient : Nat
  exponent : Int
  deriving DecidableEq, Repr, Inhabited

namespace Decimal

/-- The numerator of the decimal: the powers of ten of a positive exponent. -/
def num (d : Decimal) : Nat := d.coefficient * Nat.pow 10 d.exponent.toNat

/-- The denominator of the decimal: the powers of ten of a negative exponent. -/
def den (d : Decimal) : Nat := Nat.pow 10 (-d.exponent).toNat

theorem den_pos (d : Decimal) : 0 < d.den := Nat.pow_pos (by decide)

/-- The number of decimal digits of a natural number; zero has one. -/
def digitCount (n : Nat) : Nat := (Nat.toDigits 10 n).length

theorem digitCount_pos (n : Nat) : 0 < digitCount n := Nat.length_toDigits_pos

theorem digitCount_le_iff {n k : Nat} (h : 0 < k) : digitCount n ≤ k ↔ n < Nat.pow 10 k :=
  Nat.length_toDigits_le_iff (by decide) h

/-- The exponent of the first significant digit of the positive quotient
`num / den`: `10 ^ e ≤ num / den < 10 ^ (e + 1)`.  Below one, the count of digits
of the largest integer below `den / num` takes the place of that of the quotient. -/
def leadingExponent (num den : Nat) : Int :=
  if den ≤ num then (digitCount (num / den) : Int) - 1
  else -(digitCount ((den - 1) / num) : Int)

/-- The exponent of the last of `digits` significant digits of `num / den`. -/
def lastExponent (digits num den : Nat) : Int := leadingExponent num den - (digits - 1 : Nat)

/-- The greatest decimal with `digits` significant digits that is at most
`num / den`. -/
def floorTo (digits num den : Nat) : Decimal :=
  let last := lastExponent digits num den
  ⟨num * Nat.pow 10 (-last).toNat / (den * Nat.pow 10 last.toNat), last⟩

/-- The decimal with `digits` significant digits nearest to `num / den`; from the
middle between two of them, the one with the even coefficient.  Where all digits
are nines, rounding up carries into a coefficient of one digit more, a power of
ten. -/
def roundTo (digits num den : Nat) : Decimal :=
  let last := lastExponent digits num den
  ⟨divNearest (num * Nat.pow 10 (-last).toNat) (den * Nat.pow 10 last.toNat), last⟩

/-- The next decimal on the same grid. -/
def next (d : Decimal) : Decimal := ⟨d.coefficient + 1, d.exponent⟩

end Decimal

end BestTimes
