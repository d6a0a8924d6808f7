import BestTimes.Proofs.Comparison.Accuracy
import BestTimes.Proofs.Comparison.Overflow
import BestTimes.Reading
import Mathlib.Data.Int.ConditionallyCompleteOrder
set_option autoImplicit false

/-!
# Percentages say which time is the lesser

Times below `2 ^ 51` are converted without rounding, so their ratio takes three roundings, or
one.  Two different times of this size have a quotient that is more than this away from one, and
equal times are divided into exactly one.  So the ratio is on the same side of one as the
quotient, and the percentage has the sign of the difference (`sign_percent`).

For a report it follows that the two comparisons of the same two benchmarks have opposite signs,
and that adding the work to both times does not change the sign (`percent_sign`).
-/

namespace BestTimes

open Binary64

namespace Comparison

variable {a b : Nanos} {v : ℚ}

/-- Three roundings do not take the quotient of two times to one or beyond. -/
theorem sign_sub_one (positive : 0 < b.toInt) (few : b.toInt < 2 ^ 51)
    (near : Near 3 v (a.toInt / b.toInt)) (different : a ≠ b) :
    SignType.sign (v - 1) = SignType.sign (a.toInt - b.toInt) := by
  have size : (0 : ℚ) < b.toInt := by exact_mod_cast positive
  have few' : (b.toInt : ℚ) < 2 ^ 51 := by exact_mod_cast few
  have unequal : a.toInt ≠ b.toInt := fun same => different (Nanos.ext_toInt same)
  rcases lt_or_gt_of_ne unequal with less | greater
  · have apart : (a.toInt : ℚ) ≤ b.toInt - 1 := by exact_mod_cast Int.le_sub_one_of_lt less
    have below : (a.toInt / b.toInt : ℚ) ≤ 1 - 1 / 2 ^ 51 := by
      rw [div_le_iff₀ size]
      linarith
    have bound := near.le_mul below (by norm_num)
    have under : v < 1 := by
      refine bound.trans_lt ?_
      unfold roundingFactor
      norm_num
    rw [sign_neg (sub_neg.2 under), sign_neg (Int.sub_neg_of_lt less)]
  · have apart : (b.toInt : ℚ) + 1 ≤ a.toInt := by exact_mod_cast greater
    have above : 1 + 1 / 2 ^ 51 ≤ (a.toInt / b.toInt : ℚ) := by
      rw [le_div_iff₀ size]
      linarith
    have bound := near.le_mul_of_le above (by norm_num)
    have beyond : 1 < v := by
      unfold roundingFactor at bound
      norm_num at bound
      linarith
    rw [sign_pos (sub_pos.2 beyond), sign_pos (Int.sub_pos_of_lt greater)]

/-- The sign of a percentage is that of the difference of the times. -/
theorem sign_percent (numerator denominator : String) (positive : 0 < b.toInt)
    (few : b.toInt < 2 ^ 51) (few' : |a.toInt| < 2 ^ 51) :
    ∃ p, (ofNanos numerator denominator a b).percent.value? = some p ∧
      SignType.sign p = SignType.sign (a.toInt - b.toInt) := by
  have exact {i : ℤ} (few : |i| < 2 ^ 51) : Near 0 (rounded i) i := by
    rw [Int.abs_eq_natAbs] at few
    rw [rounded_intCast (by omega)]
    exact Near.refl _
  have whole : |b.toInt| < 2 ^ 51 := by rwa [abs_of_pos positive]
  obtain ⟨v, p, ratio, percent, near, near'⟩ :=
    exists_values numerator denominator positive.ne' (exact few') (exact whole)
  refine ⟨p, percent, ?_⟩
  rw [near'.sign_eq, sign_mul, sign_pos (by norm_num), one_mul]
  by_cases same : a = b
  · subst same
    dsimp only [ofNanos] at ratio
    rw [value?_quotient_self positive.ne'] at ratio
    rw [← Option.some.inj ratio, sub_self, sub_self, sign_zero, sign_zero]
  · exact sign_sub_one positive few near same

end Comparison

namespace Registry

open Comparison

/-- The sign of a percentage, for benchmarks of a registry. -/
theorem exists_sign_compare {r : Registry} {a b : String} {s t : Timing}
    (above : r.get? a = some s) (below : r.get? b = some t) (positive : 0 < t.nanos.toInt)
    (few : t.nanos.toInt < 2 ^ 51) (few' : |s.nanos.toInt| < 2 ^ 51) :
    ∃ c p, r.compare a b = .ok c ∧ c.percent.value? = some p ∧
      SignType.sign p = SignType.sign (s.nanos.toInt - t.nanos.toInt) := by
  obtain ⟨p, percent, sign⟩ := sign_percent a b positive few few'
  exact ⟨_, p, compare_of_get? above below positive.ne', percent, sign⟩

/-- The work is added to both bases if their times leave room for it. -/
theorem exists_get?_compareAll {r : Registry} {s t : Timing}
    (manual : r.get? "manual+syscalls" = some s) (nonbox : r.get? "nonbox+syscalls" = some t)
    (fits : Nanos.InRange (s.nanos.toInt + workNanos.toInt))
    (fits' : Nanos.InRange (t.nanos.toInt + workNanos.toInt)) :
    ∃ u w, r.compareAll.registry.get? "manual+work" = some u ∧
      r.compareAll.registry.get? "nonbox+work" = some w ∧
      u.nanos.toInt = s.nanos.toInt + workNanos.toInt ∧
      w.nanos.toInt = t.nanos.toInt + workNanos.toInt := by
  have done : r.deriveOutcome derivations = .ok () := by
    rw [deriveOutcome_eq_ok_iff]
    exact List.forall_mem_cons.2 ⟨⟨s, manual, fits⟩, List.forall_mem_singleton.2 ⟨t, nonbox, fits'⟩⟩
  have first : ("manual+work", "manual+syscalls") ∈ derivations := List.mem_cons_self
  have second : ("nonbox+work", "nonbox+syscalls") ∈ derivations :=
    List.mem_cons_of_mem _ List.mem_cons_self
  obtain ⟨best, nanos, found, sum, derived⟩ :=
    get?_derive_of_mem derivesApart_derivations done first
  obtain ⟨best', nanos', found', sum', derived'⟩ :=
    get?_derive_of_mem derivesApart_derivations done second
  rw [manual] at found
  rw [nonbox] at found'
  cases found
  cases found'
  rw [registry_compareAll]
  exact ⟨_, _, derived, derived', sum, sum'⟩

/-! ## Main result -/

/-- **Percentages never contradict the times they compare.**  For a time and a positive one, both
below `2 ^ 51` in size, the percentage is negative, zero or positive just if the first time is
less than, equal to or more than the second.  So where the two benchmarks that the work is added
to have positive times that leave room for it, the report compares them with opposite signs in
the two orders, or with zero both times, and with the same sign once the work is added. -/
theorem percent_sign (r : Registry) :
    (∀ (a b : String) (s t : Timing), r.get? a = some s → r.get? b = some t →
      0 < t.nanos.toInt → t.nanos.toInt < 2 ^ 51 → |s.nanos.toInt| < 2 ^ 51 →
      ∃ c p, r.compare a b = .ok c ∧ c.percent.value? = some p ∧
        (p < 0 ↔ s.nanos < t.nanos) ∧ (p = 0 ↔ s.nanos = t.nanos) ∧ (0 < p ↔ t.nanos < s.nanos)) ∧
      ∀ s t : Timing, r.get? "manual+syscalls" = some s → r.get? "nonbox+syscalls" = some t →
        0 < s.nanos.toInt → s.nanos.toInt < 2 ^ 51 - workNanos.toInt →
        0 < t.nanos.toInt → t.nanos.toInt < 2 ^ 51 - workNanos.toInt →
        let compared := r.compareAll.registry
        ∃ c p d q e w, compared.compare "manual+syscalls" "nonbox+syscalls" = .ok c ∧
          c.percent.value? = some p ∧
          compared.compare "nonbox+syscalls" "manual+syscalls" = .ok d ∧
          d.percent.value? = some q ∧
          compared.compare "manual+work" "nonbox+work" = .ok e ∧ e.percent.value? = some w ∧
          SignType.sign q = -SignType.sign p ∧ SignType.sign w = SignType.sign p ∧
          ∀ comparisons, r.compareAll.outcome = .ok comparisons →
            comparisons[1]? = some c ∧ comparisons[2]? = some d ∧ comparisons[5]? = some e := by
  constructor
  · intro a b s t above below positive few few'
    obtain ⟨c, p, own, percent, sign⟩ := exists_sign_compare above below positive few few'
    refine ⟨c, p, own, percent, ?_, ?_, ?_⟩
    · rw [← sign_eq_neg_one_iff, sign, sign_eq_neg_one_iff, sub_neg]
      exact Iff.rfl
    · rw [← sign_eq_zero_iff, sign, sign_eq_zero_iff, sub_eq_zero]
      exact ⟨Nanos.ext_toInt, congrArg _⟩
    · rw [← sign_eq_one_iff, sign, sign_eq_one_iff, sub_pos]
      exact Iff.rfl
  · intro s t manual nonbox positive few positive' few' compared
    have work : workNanos.toInt = 2560000 := rfl
    rw [work] at few few'
    obtain ⟨u, w, above, below, sum, sum'⟩ := exists_get?_compareAll manual nonbox
      (by unfold Nanos.InRange; omega) (by unfold Nanos.InRange; omega)
    rw [work] at sum sum'
    have left : compared.get? "manual+syscalls" = some s := by
      rw [r.get?_compareAll_of_notMem (by decide), manual]
    have right : compared.get? "nonbox+syscalls" = some t := by
      rw [r.get?_compareAll_of_notMem (by decide), nonbox]
    have small {i : ℤ} (least : 0 < i) (most : i < 2 ^ 51) : |i| < 2 ^ 51 := by
      rwa [abs_of_pos least]
    obtain ⟨c, p, own, percent, sign⟩ := exists_sign_compare left right positive' (by omega)
      (small positive (by omega))
    obtain ⟨d, q, own', percent', sign'⟩ := exists_sign_compare right left positive (by omega)
      (small positive' (by omega))
    obtain ⟨e, x, own'', percent'', sign''⟩ := exists_sign_compare above below (by omega) (by omega)
      (small (by omega) (by omega))
    refine ⟨c, p, d, q, e, x, own, percent, own', percent', own'', percent'', ?_, ?_, ?_⟩
    · rw [sign', sign, ← neg_sub s.nanos.toInt, Left.sign_neg]
    · rw [sign'', sign, sum, sum', add_sub_add_right_eq_sub]
    · intro comparisons done
      have listed := comparePairs_of_compareAll done
      exact ⟨getElem?_of_mapM listed rfl own, getElem?_of_mapM listed rfl own',
        getElem?_of_mapM listed rfl own''⟩

/-- Neighbours at the end of the range, and neighbours of which one is too short to be scaled. -/
theorem percent_sign_of_neighbours :
    let r := (ofText ("manual time: [1 ns 2251799813685247 ns 1 ns]\n" ++
      "nonbox time: [1 ns 2251799813685246 ns 1 ns]\n" ++
      "manual+syscalls time: [1 ns 999 ns 1 ns]\n" ++
      "nonbox+syscalls time: [1 ns 1000 ns 1 ns]\n")).registry
    (∃ c p, r.compare "manual" "nonbox" = .ok c ∧ c.percent.value? = some p ∧ 0 < p) ∧
      let compared := r.compareAll.registry
      ∃ c p d q e w, compared.compare "manual+syscalls" "nonbox+syscalls" = .ok c ∧
        c.percent.value? = some p ∧
        compared.compare "nonbox+syscalls" "manual+syscalls" = .ok d ∧
        d.percent.value? = some q ∧
        compared.compare "manual+work" "nonbox+work" = .ok e ∧ e.percent.value? = some w ∧
        SignType.sign q = -SignType.sign p ∧ SignType.sign w = SignType.sign p := by
  intro r
  have stored : r.get? "manual" = some
        ⟨⟨2251799813685247, by decide, by decide⟩, "manual time: [1 ns 2251799813685247 ns 1 ns]"⟩ ∧
      r.get? "nonbox" = some
        ⟨⟨2251799813685246, by decide, by decide⟩, "nonbox time: [1 ns 2251799813685246 ns 1 ns]"⟩ ∧
      r.get? "manual+syscalls" = some
        ⟨⟨999, by decide, by decide⟩, "manual+syscalls time: [1 ns 999 ns 1 ns]"⟩ ∧
      r.get? "nonbox+syscalls" = some
        ⟨⟨1000, by decide, by decide⟩, "nonbox+syscalls time: [1 ns 1000 ns 1 ns]"⟩ := by
    decide +kernel
  obtain ⟨manual, nonbox, first, second⟩ := stored
  obtain ⟨signs, report⟩ := percent_sign r
  obtain ⟨c, p, own, percent, -, -, positive⟩ := signs "manual" "nonbox" _ _ manual nonbox
    (by decide) (by decide) (by decide)
  obtain ⟨c', p', d, q, e, w, opposite⟩ := report _ _ first second (by decide) (by decide)
    (by decide) (by decide)
  obtain ⟨ours, value, theirs, value', work, value'', sign, sign', -⟩ := opposite
  exact ⟨⟨c, p, own, percent, positive.2 (by decide)⟩,
    c', p', d, q, e, w, ours, value, theirs, value', work, value'', sign, sign'⟩

end Registry

end BestTimes
