set_option autoImplicit false

/-!
# Ranges of characters

A property of characters is kept as a table: closed ranges of code points in
ascending order, with a gap between each two of them.
-/

namespace BestTimes.Text

/-- Whether a character lies in one of some ranges of code points. -/
def inRanges (ranges : List (Nat × Nat)) (c : Char) : Bool :=
  ranges.any fun range => range.1 ≤ c.toNat && c.toNat ≤ range.2

end BestTimes.Text
