import BestTimes.Decimal.Shortest
import BestTimes.Proofs.Binary64
import BestTimes.Proofs.Decimal.Rounding
set_option autoImplicit false

/-!
# The shortest decimal reads back

`nearest` is the binary64 number nearest to a rational number.  The search for the shortest
decimal only stops at one that reads back, and if it finds none, seventeen digits do: the
decimal is then at most half a unit of the seventeenth digit away from the number, which is
less than half the spacing of binary64 numbers around it.  So the shortest decimal always
reads back as the number (`nearest_shortest`).
-/

namespace BestTimes

namespace Binary64

/-- The binary64 number nearest to the size of a rational number, with a sign. -/
def nearest (negative : Bool) (x : ℚ) : Binary64 :=
  ofQuotient negative (x.num.natAbs * unitsPerOne) x.den

theorem ofQuotient_congr {num den num' den' : ℕ} (negative : Bool)
    (same : roundUnits num den = roundUnits num' den') :
    ofQuotient negative num den = ofQuotient negative num' den' := by
  unfold ofQuotient
  simp only [same]

/-- The nearest number to a quotient does not depend on how it is written. -/
theorem nearest_div (negative : Bool) (num : ℕ) {den : ℕ} (positive : 0 < den) :
    nearest negative (num / den) = ofQuotient negative (num * unitsPerOne) den := by
  refine ofQuotient_congr negative (roundUnits_congr (num / den : ℚ).pos positive ?_)
  have nonneg : 0 ≤ (num / den : ℚ) := by positivity
  have top : (((num / den : ℚ).num.natAbs : ℕ) : ℚ) = (num / den : ℚ).num := by
    rw [← Int.cast_natCast, Int.natAbs_of_nonneg (Rat.num_nonneg.2 nonneg)]
  rw [Nat.cast_mul, Nat.cast_mul, top, mul_div_right_comm, Rat.num_div_den, mul_div_right_comm]

theorem ofQuotient_of_roundUnits {num den : ℕ} {m : Magnitude} (negative : Bool)
    (h : roundUnits num den = m.units) : ofQuotient negative num den = .finite negative m := by
  have small : roundUnits num den < unitLimit := h ▸ m.units_lt
  unfold ofQuotient
  rw [dif_pos small]
  congr 1
  exact Magnitude.ext_units h

end Binary64

namespace Decimal

variable {m : Magnitude} {d : Decimal}

theorem readsBack_iff :
    readsBack m d = true ↔ roundUnits (d.num * unitsPerOne) d.den = m.units := by
  unfold readsBack
  exact beq_iff_eq

/-- Rounding to digits gives one of the two neighbours. -/
theorem roundTo_cases (digits num den : ℕ) :
    roundTo digits num den = floorTo digits num den ∨
      roundTo digits num den = (floorTo digits num den).next := by
  unfold roundTo floorTo next
  simp only [Decimal.mk.injEq, and_true]
  generalize num * Nat.pow 10 (-lastExponent digits num den).toNat = n
  generalize den * Nat.pow 10 (lastExponent digits num den).toNat = k
  have lower := div_le_divNearest n k
  have upper := divNearest_le_div_add_one n k
  omega

theorem readsBack_of_readBack? {digits : ℕ} (h : readBack? m digits = some d) :
    readsBack m d = true := by
  unfold readBack? at h
  dsimp only at h
  split_ifs at h with first second second
  · rw [← Option.some.inj h]
    rcases roundTo_cases digits m.units unitsPerOne with equal | equal
    · rw [equal]
      exact first
    · rw [equal]
      exact second
  · rw [← Option.some.inj h]
    exact first
  · rw [← Option.some.inj h]
    exact second

/-- Seventeen digits leave an error of at most half a unit of the last of them. -/
theorem abs_value_roundTo_sub_le {num den : ℕ} (above : 0 < num) (positive : 0 < den) :
    |(roundTo 17 num den).value - num / den| * (2 * 10 ^ 16) ≤ num / den := by
  obtain ⟨lower, -⟩ := leadingExponent_bounds above positive
  have near := (nearestEven_roundTo 17 num positive).near
  have last : lastExponent 17 num den + 16 = leadingExponent num den := by
    rw [lastExponent_eq (by decide)]
    omega
  have scale : (10 : ℚ) ^ lastExponent 17 num den * 10 ^ 16 = 10 ^ leadingExponent num den := by
    rw [← last, zpow_add₀ (by norm_num)]
    norm_num
  have unit : (0 : ℚ) < 10 ^ lastExponent 17 num den := by positivity
  have apart : (roundTo 17 num den).value - num / den =
      -((num / den / 10 ^ lastExponent 17 num den - (roundTo 17 num den).coefficient) *
        10 ^ lastExponent 17 num den) := by
    change (roundTo 17 num den).coefficient * (10 : ℚ) ^ lastExponent 17 num den - num / den = _
    rw [sub_mul, div_mul_cancel₀ _ unit.ne', neg_sub]
  rw [apart, abs_neg, abs_mul, abs_of_pos unit]
  calc |(num / den / 10 ^ lastExponent 17 num den - (roundTo 17 num den).coefficient : ℚ)| *
        10 ^ lastExponent 17 num den * (2 * 10 ^ 16)
      ≤ 1 / 2 * 10 ^ lastExponent 17 num den * (2 * 10 ^ 16) := by gcongr
    _ = 10 ^ lastExponent 17 num den * 10 ^ 16 := by ring
    _ ≤ num / den := scale.trans_le lower

/-- Seventeen digits read back. -/
theorem readsBack_roundTo (nonzero : m.units ≠ 0) :
    readsBack m (roundTo 17 m.units unitsPerOne) = true := by
  have near := abs_value_roundTo_sub_le (Nat.pos_of_ne_zero nonzero) unitsPerOne_pos
  have one : (0 : ℚ) < unitsPerOne := by exact_mod_cast unitsPerOne_pos
  rw [readsBack_iff]
  refine roundUnits_of_near (den_pos _) m.granular ?_
  rw [Nat.cast_mul, mul_div_right_comm, ← value_eq_num_div_den]
  generalize (roundTo 17 m.units unitsPerOne).value = x at near ⊢
  have scaled : x * unitsPerOne - m.units = (x - m.units / unitsPerOne) * unitsPerOne := by
    rw [sub_mul, div_mul_cancel₀ _ one.ne']
  rw [scaled, abs_mul, abs_of_pos one, mul_right_comm, ← le_div_iff₀ one]
  exact near

/-- **The shortest decimal reads back.** -/
theorem readsBack_shortest (nonzero : m.units ≠ 0) : readsBack m (shortest m) = true := by
  unfold shortest
  cases found : (List.range' 1 17).findSome? (readBack? m) with
  | none => exact readsBack_roundTo nonzero
  | some d =>
    obtain ⟨digits, -, own⟩ := List.exists_of_findSome?_eq_some found
    exact readsBack_of_readBack? own

theorem coefficient_shortest_ne_zero (nonzero : m.units ≠ 0) : (shortest m).coefficient ≠ 0 := by
  have read := readsBack_iff.1 (readsBack_shortest nonzero)
  intro zero
  have none : (shortest m).num = 0 := by
    unfold num
    rw [zero, Nat.zero_mul]
  rw [none, Nat.zero_mul, roundUnits_zero (den_pos _)] at read
  exact nonzero read.symm

/-- The binary64 number nearest to the shortest decimal of a number is the number. -/
theorem nearest_shortest (negative : Bool) (nonzero : m.units ≠ 0) :
    Binary64.nearest negative (shortest m).value = .finite negative m := by
  rw [value_eq_num_div_den, Binary64.nearest_div _ _ (den_pos _)]
  exact Binary64.ofQuotient_of_roundUnits negative (readsBack_iff.1 (readsBack_shortest nonzero))

end Decimal

end BestTimes
