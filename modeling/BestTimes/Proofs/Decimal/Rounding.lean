import BestTimes.Binary64.Basic
import BestTimes.Decimal.Basic
import BestTimes.Proofs.Rounding
import Mathlib.Algebra.Order.Field.Power
import Mathlib.Tactic.GCongr
set_option autoImplicit false

/-!
# Rounding to significant digits

A decimal is a rational number (`Decimal.value`), and so is what is rounded to it.

* `leadingExponent` is the exponent of the first digit, so a number rounded by `roundTo`
  has the asked number of digits, or is the power of ten with one digit more.
* `RoundsTo digits x q e` says that `q * 10 ^ (e + 1 - digits)` is `x` rounded to `digits`
  significant digits, and that `e` is the exponent of the first digit of the result.  There
  is one such result (`RoundsTo.unique`), and `roundTo` has it (`exists_roundsTo`).
-/

namespace BestTimes

/-! ## The first digit -/

namespace Decimal

theorem pow_le_of_digitCount {n k : ℕ} (h : digitCount n = k + 1) (positive : 0 < n) :
    10 ^ k ≤ n := by
  rcases Nat.eq_zero_or_pos k with zero | more
  · rw [zero]
    exact positive
  · have beyond := mt (digitCount_le_iff (n := n) more).2 (by omega)
    exact Nat.le_of_not_lt beyond

theorem lt_pow_digitCount (n : ℕ) : n < 10 ^ digitCount n :=
  (digitCount_le_iff (digitCount_pos n)).1 (Nat.le_refl _)

theorem digitCount_eq {n k : ℕ} (least : 10 ^ k ≤ n) (limit : n < 10 ^ (k + 1)) :
    digitCount n = k + 1 := by
  have most := (digitCount_le_iff (Nat.succ_pos k)).2 limit
  have some := digitCount_pos n
  rcases Nat.eq_zero_or_pos k with rfl | more
  · omega
  · have beyond := mt (digitCount_le_iff (n := n) more).1 (Nat.not_lt.2 least)
    omega

/-- The exponent of the first digit of a quotient says between which powers of ten it is. -/
theorem leadingExponent_bounds {num den : ℕ} (above : 0 < num) (positive : 0 < den) :
    (10 : ℚ) ^ leadingExponent num den ≤ num / den ∧
      (num / den : ℚ) < 10 ^ (leadingExponent num den + 1) := by
  have size : (0 : ℚ) < den := Nat.cast_pos.2 positive
  unfold leadingExponent
  split_ifs with large
  · obtain ⟨k, count⟩ := Nat.exists_eq_add_one.2 (digitCount_pos (num / den))
    have lower := pow_le_of_digitCount count (Nat.div_pos large positive)
    have upper := lt_pow_digitCount (num / den)
    rw [count] at upper ⊢
    rw [Nat.le_div_iff_mul_le positive] at lower
    rw [Nat.div_lt_iff_lt_mul positive] at upper
    rw [Nat.cast_succ, add_sub_cancel_right, le_div_iff₀ size, div_lt_iff₀ size, zpow_natCast,
      ← Nat.cast_succ, zpow_natCast]
    exact ⟨by exact_mod_cast lower, by exact_mod_cast upper⟩
  -- Below one, the exponent is the count of digits of a quotient the other way round.  One is
  -- taken off `den` so that a power of ten counts to its own exponent, not to the one below.
  · have quotient : 0 < (den - 1) / num := Nat.div_pos (by omega) above
    obtain ⟨k, count⟩ := Nat.exists_eq_add_one.2 (digitCount_pos ((den - 1) / num))
    have lower := pow_le_of_digitCount count quotient
    have upper := lt_pow_digitCount ((den - 1) / num)
    rw [count] at upper ⊢
    rw [Nat.le_div_iff_mul_le above, Nat.mul_comm] at lower
    rw [Nat.div_lt_iff_lt_mul above, Nat.mul_comm] at upper
    have one : -((k + 1 : ℕ) : ℤ) + 1 = -(k : ℤ) := by omega
    rw [one, zpow_neg, zpow_neg, zpow_natCast, zpow_natCast, inv_eq_one_div, inv_eq_one_div,
      div_le_div_iff₀ (by positivity) size, div_lt_div_iff₀ size (by positivity), one_mul]
    constructor
    · exact_mod_cast (show den ≤ num * 10 ^ (k + 1) by omega)
    · exact_mod_cast (show num * 10 ^ k < den by omega)

/-! ## Significant digits -/

/-- The number that a decimal is. -/
def value (d : Decimal) : ℚ := d.coefficient * 10 ^ d.exponent

/-- A power of ten as the quotient of the powers above and below the line. -/
theorem zpow_eq_toNat_div_toNat (e : ℤ) :
    (10 : ℚ) ^ e = Nat.pow 10 e.toNat / Nat.pow 10 (-e).toNat := by
  rcases Int.le_total 0 e with whole | part
  · obtain ⟨k, rfl⟩ := Int.eq_ofNat_of_zero_le whole
    have none : (-(k : ℤ)).toNat = 0 := by omega
    rw [none, Int.toNat_natCast, zpow_natCast]
    norm_num
  · obtain ⟨k, opposite⟩ := Int.eq_ofNat_of_zero_le (Int.neg_nonneg_of_nonpos part)
    obtain rfl : e = -(k : ℤ) := by omega
    have none : (-(k : ℤ)).toNat = 0 := by omega
    rw [opposite, none, Int.toNat_natCast, zpow_neg, zpow_natCast]
    norm_num

theorem value_eq_num_div_den (d : Decimal) : d.value = d.num / d.den := by
  unfold value num den
  rw [zpow_eq_toNat_div_toNat, Nat.cast_mul, mul_div_assoc]

theorem nearestEven_roundTo (digits num : ℕ) {den : ℕ} (positive : 0 < den) :
    NearestEven (num / den / 10 ^ lastExponent digits num den)
      (roundTo digits num den).coefficient := by
  have scale : 0 < Nat.pow 10 (lastExponent digits num den).toNat := Nat.pow_pos (by decide)
  have scaled := nearestEven_divNearest
    (num * Nat.pow 10 (-lastExponent digits num den).toNat) (Nat.mul_pos positive scale)
  rw [Nat.cast_mul, Nat.cast_mul, mul_div_mul_comm] at scaled
  rw [zpow_eq_toNat_div_toNat, div_div_eq_mul_div, mul_div_assoc]
  exact scaled

/-- Whether `q * 10 ^ (e + 1 - digits)`, where `q` has as many digits, is `x` rounded to this
number of significant digits: the multiple of the place of the last of them that is nearest
to `x`, and from the middle the even multiple. -/
structure RoundsTo (digits : ℕ) (x : ℚ) (q : ℕ) (e : ℤ) : Prop where
  least_le : Nat.pow 10 (digits - 1) ≤ q
  lt_limit : q < Nat.pow 10 digits
  rounded : ∃ (first : ℤ) (n : ℕ), (10 : ℚ) ^ first ≤ x ∧ x < 10 ^ (first + 1) ∧
    NearestEven (x / 10 ^ (first + 1 - digits)) n ∧
      (n : ℚ) * 10 ^ (first + 1 - digits) = q * 10 ^ (e + 1 - digits)

section

variable {digits : ℕ} {x : ℚ} {q r : ℕ} {e f : ℤ}

private theorem zpow_lt_zpow_iff {e f : ℤ} : (10 : ℚ) ^ e < 10 ^ f ↔ e < f :=
  zpow_lt_zpow_iff_right₀ (by norm_num)

/-- Of two numbers with the same count of digits, the one with the greater exponent is the
greater. -/
private theorem RoundsTo.mul_lt_of_lt (h : RoundsTo digits x q e) (k : RoundsTo digits x r f)
    (less : e < f) : (q : ℚ) * 10 ^ (e + 1 - digits) < r * 10 ^ (f + 1 - digits) := by
  have some : 0 < digits := by
    apply Nat.pos_of_ne_zero
    rintro rfl
    have empty := Nat.lt_of_le_of_lt h.least_le h.lt_limit
    exact Nat.lt_irrefl _ empty
  have small : (q : ℚ) < 10 ^ digits := by exact_mod_cast h.lt_limit
  have large : (10 : ℚ) ^ (digits - 1) ≤ r := by exact_mod_cast k.least_le
  calc (q : ℚ) * 10 ^ (e + 1 - digits)
      < 10 ^ digits * 10 ^ (e + 1 - digits) := by gcongr
    _ = 10 ^ (e + 1) := by
      rw [← zpow_natCast, ← zpow_add₀ (by norm_num)]
      congr 1
      omega
    _ ≤ 10 ^ f := zpow_le_zpow_right₀ (by norm_num) less
    _ = 10 ^ (digits - 1) * 10 ^ (f + 1 - digits) := by
      rw [← zpow_natCast, ← zpow_add₀ (by norm_num)]
      congr 1
      omega
    _ ≤ r * 10 ^ (f + 1 - digits) := by gcongr

/-- There is only one number that another is rounded to, and one way to write it. -/
theorem RoundsTo.unique (h : RoundsTo digits x q e) (k : RoundsTo digits x r f) :
    q = r ∧ e = f := by
  obtain ⟨first, n, lower, upper, nearest, same⟩ := h.rounded
  obtain ⟨other, n', lower', upper', nearest', same'⟩ := k.rounded
  obtain rfl : first = other := by
    have up := zpow_lt_zpow_iff.1 (lower.trans_lt upper')
    have down := zpow_lt_zpow_iff.1 (lower'.trans_lt upper)
    omega
  rw [nearest.unique nearest', same'] at same
  rcases lt_trichotomy e f with less | equal | greater
  · exact absurd same.symm (h.mul_lt_of_lt k less).ne
  · refine ⟨?_, equal⟩
    rw [equal] at same
    exact_mod_cast (mul_right_cancel₀ (by positivity) same).symm
  · exact absurd same (k.mul_lt_of_lt h greater).ne

end

section

variable {digits num den : ℕ}

theorem lastExponent_eq (some : 0 < digits) :
    lastExponent digits num den = leadingExponent num den + 1 - digits := by
  unfold lastExponent
  omega

/-- In units of its last digit a number has the asked count of digits in front of the point,
so its nearest natural number has too, or is the next power of ten. -/
theorem roundTo_bounds (some : 0 < digits) (above : 0 < num) (positive : 0 < den) :
    10 ^ (digits - 1) ≤ (roundTo digits num den).coefficient ∧
      (roundTo digits num den).coefficient ≤ 10 ^ digits := by
  obtain ⟨lower, upper⟩ := leadingExponent_bounds above positive
  have nearest := nearestEven_roundTo digits num positive
  rw [lastExponent_eq some] at nearest
  have unit : (0 : ℚ) < 10 ^ (leadingExponent num den + 1 - digits) := by positivity
  constructor
  · apply nearest.le_of_le
    rw [le_div_iff₀ unit, Nat.cast_pow, Nat.cast_ofNat, ← zpow_natCast,
      ← zpow_add₀ (by norm_num : (10 : ℚ) ≠ 0)]
    refine le_of_eq_of_le (congrArg _ ?_) lower
    omega
  · apply nearest.ge_of_ge
    rw [div_le_iff₀ unit, Nat.cast_pow, Nat.cast_ofNat, ← zpow_natCast,
      ← zpow_add₀ (by norm_num : (10 : ℚ) ≠ 0)]
    refine (upper.trans_eq (congrArg _ ?_)).le
    omega

/-- Rounding gives the digits and the exponent of the rounded number, or, where it carried to
one digit more, ten times them.  Then the number is also rounded once more, on the grid that
belongs to the exponent after rounding, and the digits are the same. -/
theorem exists_roundsTo (some : 0 < digits) (above : 0 < num) (positive : 0 < den) :
    ∃ (q : ℕ) (e : ℤ), RoundsTo digits (num / den) q e ∧
      NearestEven (num / den / 10 ^ (e + 1 - digits)) q ∧
      ((roundTo digits num den).coefficient = q ∧ leadingExponent num den = e ∨
        (roundTo digits num den).coefficient = 10 * q ∧ leadingExponent num den + 1 = e) := by
  obtain ⟨lower, upper⟩ := leadingExponent_bounds above positive
  obtain ⟨least, most⟩ := roundTo_bounds some above positive
  have nearest := nearestEven_roundTo digits num positive
  rw [lastExponent_eq some] at nearest
  rcases Nat.lt_or_eq_of_le most with fits | carried
  · exact ⟨_, _, ⟨least, fits, _, _, lower, upper, nearest, rfl⟩, nearest, .inl ⟨rfl, rfl⟩⟩
  -- Carried: the digits are a one and zeros, so the zero at the end can be left out.
  · have tenth : (10 : ℕ) ^ digits = 10 * 10 ^ (digits - 1) := by
      rw [← Nat.pow_succ', Nat.succ_eq_add_one, Nat.sub_add_cancel some]
    have up : leadingExponent num den + 1 + 1 - digits =
        leadingExponent num den + 1 - digits + 1 := by ring
    rw [carried, tenth] at nearest
    refine ⟨10 ^ (digits - 1), leadingExponent num den + 1,
      ⟨Nat.le_refl _, ?_, _, _, lower, upper, nearest, ?_⟩, ?_, .inr ⟨carried.trans tenth, rfl⟩⟩
    · exact Nat.pow_lt_pow_right (by decide) (Nat.sub_lt some Nat.one_pos)
    · rw [up, zpow_add_one₀ (by norm_num), Nat.cast_mul, Nat.cast_ofNat]
      ring
    · rw [up, zpow_add_one₀ (by norm_num), ← div_div]
      exact nearest.div_ten

end

end Decimal

end BestTimes
