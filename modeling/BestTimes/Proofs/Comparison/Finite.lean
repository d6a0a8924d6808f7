import BestTimes.Proofs.Binary64.Bounds
import BestTimes.Proofs.Comparison
set_option autoImplicit false

/-!
# Reported numbers are finite

Times fit 63 bits, and the time that another one is divided by is a whole number other than
zero.  So a ratio is at most `2 ^ 63`, a percentage at most `2 ^ 71`, and no operation on the
way to them overflows or has no value: all numbers of a report are finite
(`isFinite_of_report`).
-/

namespace BestTimes

theorem Nanos.atMost_toBinary64 (t : Nanos) : t.toBinary64.AtMost 63 := by
  refine Binary64.atMost_ofInt (by decide) ?_
  have least := t.least_le
  have greatest := t.le_greatest
  omega

namespace Comparison

open Binary64

/-- A quotient of times is at most `2 ^ 63`, since the time below is a whole number.  This is
so too where both are scaled first: then the scaled time below is at least one. -/
theorem atMost_quotient (a b : Nanos) (nonzero : b.toInt ≠ 0) : (quotient a b).AtMost 63 := by
  have above := a.atMost_toBinary64
  have below := b.atMost_toBinary64
  have least : b.toBinary64.AtLeastOne := atLeastOne_ofInt below nonzero
  have thousand : AtMost 10 1000 := atMost_ofNat (by decide) (by decide)
  unfold quotient
  simp only [Bool.and_eq_true]
  split_ifs with scaled
  · have divisor : AtLeastOne 1000 := atLeastOne_ofInt thousand (by decide)
    have scaledBelow := atLeastOne_div_of_le thousand (by decide) below (by decide) scaled.2
    exact (above.div divisor (by decide)).div scaledBelow (by decide)
  · exact above.div least (by decide)

/-- A percentage is at most `2 ^ 71`. -/
theorem atMost_change {ratio : Binary64} (h : ratio.AtMost 63) : (change ratio).AtMost 71 := by
  have one : AtMost 63 1 := atMost_ofNat (by decide) (by decide)
  have hundred : AtMost 7 100 := atMost_ofNat (by decide) (by decide)
  have below := (one.sub h (by decide)).mul hundred (by decide)
  have above := (h.sub one (by decide)).mul hundred (by decide)
  unfold change
  split_ifs
  · exact below.neg
  · exact above

theorem isFinite_ofNanos (numerator denominator : String) (a : Nanos) {b : Nanos}
    (nonzero : b.toInt ≠ 0) :
    (ofNanos numerator denominator a b).ratio.isFinite = true ∧
      (ofNanos numerator denominator a b).percent.isFinite = true := by
  have ratio := atMost_quotient a b nonzero
  dsimp only [ofNanos]
  exact ⟨ratio.isFinite, (atMost_change ratio).isFinite⟩

end Comparison

/-- **All numbers of a report are finite.** -/
theorem Registry.isFinite_of_report {r : Registry} {report : Report}
    (h : r.report.outcome = .ok report) {c : Comparison} (m : c ∈ report.comparisons) :
    c.ratio.isFinite = true ∧ c.percent.isFinite = true := by
  obtain ⟨numerator, denominator, s, t, -, -, nonzero, rfl⟩ := exists_timings_of_report h m
  exact Comparison.isFinite_ofNanos numerator denominator s.nanos nonzero

end BestTimes
