set_option autoImplicit false

/-!
# Rounding a quotient to the nearest integer

Every number this library rounds, it rounds by one rule: to the nearest point of
a grid, and from the middle between two points to the even one.  A grid of step
`s` around `x` is the integers around `x / s`, so the rule is needed only for
quotients of natural numbers.  It serves the binary grid of binary64 numbers and
the decimal grid of printed numerals alike.

The result is the floor of the quotient or one more (`div_le_divNearest`,
`divNearest_le_div_add_one`).
-/

namespace BestTimes

/-- The natural number nearest to `num / den`; from the middle between two of
them, the even one. -/
def divNearest (num den : Nat) : Nat :=
  if 2 * (num % den) < den then num / den
  else if den < 2 * (num % den) then num / den + 1
  else if num / den % 2 = 0 then num / den else num / den + 1

theorem div_le_divNearest (num den : Nat) : num / den ≤ divNearest num den := by
  unfold divNearest
  repeat' split
  all_goals omega

theorem divNearest_le_div_add_one (num den : Nat) :
    divNearest num den ≤ num / den + 1 := by
  unfold divNearest
  repeat' split
  all_goals omega

end BestTimes
