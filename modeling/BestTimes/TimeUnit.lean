import BestTimes.Error
import BestTimes.Nanos
set_option autoImplicit false

/-!
# Units of time

A measured time is a numeral and a unit.  The accepted units are nanoseconds,
microseconds (written with the micro sign, or with a `u` in its place) and
milliseconds; the names are matched exactly.
-/

namespace BestTimes

/-- A unit in which benchmark times are given. -/
inductive TimeUnit where
  | nanoseconds
  | microseconds
  | milliseconds
  deriving DecidableEq, Repr, Inhabited

namespace TimeUnit

/-- Reads the name of a unit. -/
def ofString (name : String) : Except Error TimeUnit :=
  if name = "ns" then .ok .nanoseconds
  else if name = "\u00b5s" ∨ name = "us" then .ok .microseconds
  else if name = "ms" then .ok .milliseconds
  else .error (.unsupportedUnit name)

/-- The number of nanoseconds in one of this unit. -/
def multiplier : TimeUnit → Binary64
  | .nanoseconds => 1
  | .microseconds => 1000
  | .milliseconds => 1000000

/-- A magnitude in this unit as whole nanoseconds: the product rounded to binary64,
then cut off toward zero. -/
def toNanos (unit : TimeUnit) (value : Binary64) : Nanos :=
  .ofBinary64 (value * unit.multiplier)

end TimeUnit

end BestTimes
