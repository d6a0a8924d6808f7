import BestTimes.Comparison
set_option autoImplicit false

/-!
# The report

A report holds the best time of every measured benchmark, the comparisons of the
fixed pairs, and the difference of the two plain benchmarks.  The best times are
those of the registry before times are derived: a derived time replaces a measured
one of the same name in the comparisons, but not in this list.
-/

namespace BestTimes

/-- All that is reported about a registry. -/
structure Report where
  /-- The measured benchmarks, in the order in which they were first measured. -/
  best : List (String × Timing)
  comparisons : List Comparison
  delta : Delta
  deriving DecidableEq, Repr

/-- Computes the report of a registry. -/
def Registry.report (r : Registry) : Progress Report :=
  r.compareAll.andThen fun compared comparisons =>
    ⟨compared, [], compared.delta.map fun delta => ⟨r.toList, comparisons, delta⟩⟩

end BestTimes
