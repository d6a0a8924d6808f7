import BestTimes.Binary64.Basic
set_option autoImplicit false

/-!
# Times in nanoseconds

A time is a whole number of nanoseconds, positive or negative, that fits 64 bits
with a sign.  Sums and differences that do not fit are no times (`add?`, `sub?`);
a magnitude that does not fit is the nearest time (`clamp`).  A share of a time
always fits (`share`).
-/

namespace BestTimes

/-- A whole number of nanoseconds between `-2 ^ 63` and `2 ^ 63 - 1`. -/
structure Nanos where
  toInt : Int
  least_le : -9223372036854775808 ≤ toInt
  le_greatest : toInt ≤ 9223372036854775807
  deriving DecidableEq, Repr

namespace Nanos

theorem ext_toInt {a b : Nanos} (h : a.toInt = b.toInt) : a = b := by
  cases a; cases b; simp_all

/-- The time of an integer, if it is in range. -/
def ofInt? (i : Int) : Option Nanos :=
  if h : -9223372036854775808 ≤ i ∧ i ≤ 9223372036854775807 then some ⟨i, h.1, h.2⟩ else none

theorem ofInt?_toInt (t : Nanos) : ofInt? t.toInt = some t := by
  simp [ofInt?, t.least_le, t.le_greatest]

/-- The time nearest to an integer. -/
def clamp (i : Int) : Nanos :=
  ⟨max (-9223372036854775808) (min i 9223372036854775807), by omega, by omega⟩

/-- No time at all. -/
def zero : Nanos := ⟨0, by decide, by decide⟩

instance : Inhabited Nanos := ⟨zero⟩

instance : LT Nanos := ⟨fun a b => a.toInt < b.toInt⟩
instance : LE Nanos := ⟨fun a b => a.toInt ≤ b.toInt⟩
instance (a b : Nanos) : Decidable (a < b) := inferInstanceAs (Decidable (a.toInt < b.toInt))
instance (a b : Nanos) : Decidable (a ≤ b) := inferInstanceAs (Decidable (a.toInt ≤ b.toInt))

/-- The sum, if it is in range. -/
def add? (a b : Nanos) : Option Nanos := ofInt? (a.toInt + b.toInt)

/-- The difference, if it is in range. -/
def sub? (a b : Nanos) : Option Nanos := ofInt? (a.toInt - b.toInt)

private theorem tdiv_in_range (t : Nanos) (parts : Nat) :
    -9223372036854775808 ≤ t.toInt.tdiv parts ∧ t.toInt.tdiv parts ≤ 9223372036854775807 := by
  have least := t.least_le
  have greatest := t.le_greatest
  have size := Int.natAbs_tdiv_le_natAbs t.toInt parts
  by_cases h : 0 ≤ t.toInt
  · have := Int.tdiv_nonneg h (Int.natCast_nonneg parts)
    omega
  · have opposite :=
      Int.tdiv_nonneg (a := -t.toInt) (b := parts) (by omega) (Int.natCast_nonneg parts)
    rw [Int.neg_tdiv] at opposite
    omega

/-- A time divided by a number of parts, toward zero. -/
def share (t : Nanos) (parts : Nat) : Nanos :=
  ⟨t.toInt.tdiv parts, (tdiv_in_range t parts).1, (tdiv_in_range t parts).2⟩

/-- The integer part of a number of nanoseconds, toward zero, or the nearest time
if it is out of range.  What has no value counts as zero. -/
def ofBinary64 (x : Binary64) : Nanos := clamp (x.truncate?.getD 0)

/-- The binary64 number nearest to a time. -/
def toBinary64 (t : Nanos) : Binary64 := .ofInt t.toInt

end Nanos

end BestTimes
