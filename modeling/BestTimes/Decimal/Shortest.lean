import BestTimes.Binary64.Basic
import BestTimes.Decimal.Layout
set_option autoImplicit false

/-!
# The shortest decimal that reads back

Among the decimals that round to a given binary64 number there are some with the
fewest significant digits; the shortest decimal is the nearest of these, an even
coefficient deciding a tie.

If any decimal with `n` significant digits reads back, then so does one of the two
neighbours of the number on that grid, because the numbers that round to it form
an interval around it.  So the two neighbours are tried for one digit, two, and so
on.  Seventeen digits tell all binary64 numbers apart.
-/

namespace BestTimes.Decimal

/-- Whether reading the decimal gives a number of this size again. -/
def readsBack (m : Magnitude) (d : Decimal) : Bool :=
  roundUnits (d.num * unitsPerOne) d.den == m.units

/-- The decimal with `digits` significant digits nearest to `m` among those that
read back. -/
def readBack? (m : Magnitude) (digits : Nat) : Option Decimal :=
  let below := floorTo digits m.units unitsPerOne
  if readsBack m below then
    if readsBack m below.next then some (roundTo digits m.units unitsPerOne) else some below
  else if readsBack m below.next then some below.next
  else none

/-- The shortest decimal that reads back as a positive number of this size. -/
def shortest (m : Magnitude) : Decimal :=
  ((List.range' 1 17).findSome? (readBack? m)).getD (roundTo 17 m.units unitsPerOne)

end BestTimes.Decimal
