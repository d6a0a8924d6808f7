import BestTimes.Binary64.Basic
set_option autoImplicit false

/-!
# The interchange format of binary64 numbers

A binary64 number is kept in 64 bits: the sign in bit 63, an exponent field of
eleven bits, a fraction of fifty-two.  An exponent field of zero holds the numbers
below `2 ^ 52` units, subnormal numbers and zero; a field `e` from 1 to 2046 holds
`2 ^ 52 + fraction` steps of `2 ^ (e - 1)` units; the last field holds the
infinities and the numbers that are no number.
-/

namespace BestTimes.Binary64

/-- The number a word of 64 bits stands for. -/
def ofBits (word : UInt64) : Binary64 :=
  let negative := word.toNat / Nat.pow 2 63 % 2 = 1
  let field := word.toNat / Nat.pow 2 52 % Nat.pow 2 11
  let fraction := word.toNat % Nat.pow 2 52
  if field = 2047 then (if fraction = 0 then .infinite negative else .nan)
  else if field = 0 then ofQuotient negative fraction 1
  else ofQuotient negative ((Nat.pow 2 52 + fraction) * Nat.pow 2 (field - 1)) 1

/-- The exponent field and the fraction of a count of units. -/
private def fields (units : Nat) : Nat :=
  if units < Nat.pow 2 52 then units
  else (spacing units + 1) * Nat.pow 2 52 + (units / Nat.pow 2 (spacing units) - Nat.pow 2 52)

/-- The word of 64 bits that stands for a number; `nan` has many, and this is the
one that operations without a value give. -/
def toBits : Binary64 → UInt64
  | .nan => 0x7ff8000000000000
  | .infinite negative => (if negative then 0x8000000000000000 else 0) + 0x7ff0000000000000
  | .finite negative m =>
    (if negative then 0x8000000000000000 else 0) + UInt64.ofNat (fields m.units)

end BestTimes.Binary64
