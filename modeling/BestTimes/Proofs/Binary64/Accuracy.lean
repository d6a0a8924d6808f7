import BestTimes.Proofs.Binary64.Value
import Mathlib.Data.Sign.Basic
set_option autoImplicit false

/-!
# Accuracy of binary64 numbers

One rounding changes a number by a factor between `1 / roundingFactor` and `roundingFactor`,
where `roundingFactor` is one and half a unit of the last of 53 binary digits (`near_rounded`).
This holds of every number that is not among the least ones (`Ample`), and of each that is a
whole number of units; a sum or difference of binary64 numbers is one.

`Near k x q` says that `x` is `q` up to the errors of `k` roundings.  Factors multiply and
divide, so the errors of a computation are counted by adding up its roundings (`Near.trans`,
`Near.mul`, `Near.div`).  A factor is positive, so that rounding keeps signs (`Near.sign_eq`),
and it gives the relative error (`Near.abs_sub_le`).

The absolute error of one rounding is at most half of the last binary place
(`abs_rounded_sub_le`), so that what is nearer than this to a number of 53 digits is rounded to it
(`rounded_of_abs_sub_lt`).
-/

namespace BestTimes.Binary64

/-- The factor by which one rounding can change a number. -/
def roundingFactor : ℚ := 1 + 1 / 2 ^ 53

theorem one_le_roundingFactor_pow (k : ℕ) : 1 ≤ roundingFactor ^ k :=
  one_le_pow₀ (by unfold roundingFactor; norm_num)

theorem roundingFactor_pow_pos (k : ℕ) : 0 < roundingFactor ^ k :=
  zero_lt_one.trans_le (one_le_roundingFactor_pow k)

/-! ## Counting roundings -/

/-- Whether `x` is `q` up to the errors of `k` roundings. -/
def Near (k : ℕ) (x q : ℚ) : Prop :=
  ∃ f, x = f * q ∧ 1 ≤ f * roundingFactor ^ k ∧ f ≤ roundingFactor ^ k

namespace Near

variable {i j k : ℕ} {x y q r : ℚ}

theorem refl (q : ℚ) : Near 0 q q := ⟨1, (one_mul q).symm, by simp, by simp⟩

/-- A factor is positive. -/
private theorem factor_pos {f : ℚ} (least : 1 ≤ f * roundingFactor ^ k) : 0 < f :=
  pos_of_mul_pos_left (zero_lt_one.trans_le least) (roundingFactor_pow_pos k).le

theorem mono (h : Near i x q) (more : i ≤ j) : Near j x q := by
  obtain ⟨f, scaled, least, most⟩ := h
  have step : roundingFactor ^ i ≤ roundingFactor ^ j :=
    pow_le_pow_right₀ (by simpa using one_le_roundingFactor_pow 1) more
  have more' := mul_le_mul_of_nonneg_left step (factor_pos least).le
  exact ⟨f, scaled, least.trans more', most.trans step⟩

theorem mul (h : Near i x q) (k : Near j y r) : Near (i + j) (x * y) (q * r) := by
  obtain ⟨f, rfl, least, most⟩ := h
  obtain ⟨g, rfl, least', most'⟩ := k
  refine ⟨f * g, by ring, ?_, ?_⟩
  · calc (1 : ℚ) = 1 * 1 := (one_mul 1).symm
      _ ≤ (f * roundingFactor ^ i) * (g * roundingFactor ^ j) :=
        mul_le_mul least least' zero_le_one (zero_le_one.trans least)
      _ = f * g * roundingFactor ^ (i + j) := by ring
  · rw [pow_add]
    exact mul_le_mul most most' (factor_pos least').le (roundingFactor_pow_pos i).le

/-- An exact factor adds no error. -/
theorem mul_right (h : Near k x q) (r : ℚ) : Near k (x * r) (q * r) := by
  obtain ⟨f, rfl, factor⟩ := h
  exact ⟨f, mul_assoc f q r, factor⟩

theorem div_right (h : Near k x q) (r : ℚ) : Near k (x / r) (q / r) := by
  rw [div_eq_mul_inv, div_eq_mul_inv]
  exact h.mul_right r⁻¹

theorem inv (h : Near k x q) : Near k x⁻¹ q⁻¹ := by
  obtain ⟨f, rfl, least, most⟩ := h
  have positive := factor_pos least
  refine ⟨f⁻¹, mul_inv f q, ?_, ?_⟩
  · rw [inv_mul_eq_div, one_le_div positive]
    exact most
  · rw [inv_le_iff_one_le_mul₀ positive, mul_comm]
    exact least

theorem div (h : Near i x q) (k : Near j y r) : Near (i + j) (x / y) (q / r) := by
  rw [div_eq_mul_inv, div_eq_mul_inv]
  exact h.mul k.inv

theorem trans (h : Near i x y) (k : Near j y q) : Near (i + j) x q := by
  obtain ⟨f, rfl, least, most⟩ := h
  obtain ⟨g, rfl, least', most'⟩ := k
  have factors := Near.mul ⟨f, rfl, least, most⟩ ⟨g, rfl, least', most'⟩ (q := 1) (r := q)
  rwa [mul_one, one_mul] at factors

theorem neg (h : Near k x q) : Near k (-x) (-q) := by
  obtain ⟨f, rfl, factor⟩ := h
  exact ⟨f, (mul_neg f q).symm, factor⟩

/-- Rounding does not change the sign. -/
theorem sign_eq (h : Near k x q) : SignType.sign x = SignType.sign q := by
  obtain ⟨f, rfl, least, -⟩ := h
  rw [sign_mul, sign_pos (factor_pos least), one_mul]

/-- The relative error. -/
theorem abs_sub_le (h : Near k x q) : |x - q| ≤ (roundingFactor ^ k - 1) * |q| := by
  obtain ⟨f, rfl, least, most⟩ := h
  have positive := factor_pos least
  have factor : |f - 1| ≤ roundingFactor ^ k - 1 := by
    rw [abs_le]
    refine ⟨?_, by linarith⟩
    -- `1 - f` is at most `(1 - f) / f`, which is `1 / f - 1`.
    have square : 0 ≤ (f - 1) ^ 2 := sq_nonneg _
    nlinarith [one_le_roundingFactor_pow k]
  rw [← sub_one_mul, abs_mul]
  exact mul_le_mul_of_nonneg_right factor (abs_nonneg q)

theorem le_mul (h : Near k x q) (bound : q ≤ r) (nonneg : 0 ≤ r) :
    x ≤ roundingFactor ^ k * r := by
  obtain ⟨f, rfl, least, most⟩ := h
  calc f * q ≤ f * r := mul_le_mul_of_nonneg_left bound (factor_pos least).le
    _ ≤ roundingFactor ^ k * r := mul_le_mul_of_nonneg_right most nonneg

theorem le_mul_of_le (h : Near k x q) (bound : r ≤ q) (nonneg : 0 ≤ r) :
    r ≤ roundingFactor ^ k * x := by
  obtain ⟨f, rfl, least, most⟩ := h
  calc r = 1 * r := (one_mul r).symm
    _ ≤ f * roundingFactor ^ k * q :=
      mul_le_mul least bound nonneg (zero_le_one.trans least)
    _ = roundingFactor ^ k * (f * q) := by ring

theorem abs_le_mul (h : Near k x q) : |x| ≤ roundingFactor ^ k * |q| := by
  obtain ⟨f, rfl, least, most⟩ := h
  rw [abs_mul, abs_of_pos (factor_pos least)]
  exact mul_le_mul_of_nonneg_right most (abs_nonneg q)

end Near

/-! ## One rounding -/

/-- Rounding a count that is whole, or at least `2 ^ 52`, changes it by a factor. -/
theorem nearest_factor {y : ℚ} {n : ℕ} (nearest : NearestEven (y / 2 ^ spacing ⌊y⌋₊) n)
    (nonneg : 0 ≤ y) (ample : (∃ c : ℕ, y = c) ∨ 2 ^ 52 ≤ y) :
    n * 2 ^ spacing ⌊y⌋₊ ≤ roundingFactor * y ∧ y ≤ roundingFactor * (n * 2 ^ spacing ⌊y⌋₊) := by
  have grid : (0 : ℚ) < 2 ^ spacing ⌊y⌋₊ := by positivity
  by_cases many : (2 : ℚ) ^ 52 * 2 ^ spacing ⌊y⌋₊ ≤ y
  · -- The error is half of the spacing, and there are `2 ^ 52` of it on either side.
    rw [← le_div_iff₀ grid] at many
    have count : 2 ^ 52 ≤ n := nearest.le_of_le (by exact_mod_cast many)
    have count' : (2 : ℚ) ^ 52 ≤ n := by exact_mod_cast count
    have whole : y = y / 2 ^ spacing ⌊y⌋₊ * 2 ^ spacing ⌊y⌋₊ := (div_mul_cancel₀ _ grid.ne').symm
    obtain ⟨upper, lower⟩ := nearest.bounds
    generalize y / 2 ^ spacing ⌊y⌋₊ = part at *
    generalize (2 : ℚ) ^ spacing ⌊y⌋₊ = step at *
    rw [whole, ← mul_assoc, ← mul_assoc, mul_le_mul_iff_left₀ grid, mul_le_mul_iff_left₀ grid]
    unfold roundingFactor
    constructor <;> linarith
  · -- There are few, so the spacing is one unit and the count is whole: it is not changed.
    have fine : spacing ⌊y⌋₊ = 0 := by
      by_contra coarse
      have floor := two_pow_spacing_le (Nat.pos_of_ne_zero coarse)
      have floor' : (2 : ℚ) ^ 52 * 2 ^ spacing ⌊y⌋₊ ≤ ⌊y⌋₊ := by exact_mod_cast floor
      exact many (floor'.trans (Nat.floor_le nonneg))
    rw [fine, pow_zero, mul_one] at many
    obtain ⟨c, rfl⟩ := ample.resolve_right many
    rw [fine, pow_zero, div_one] at nearest
    have same : n = c := nearest.unique (NearestEven.of_lt (by norm_num))
    rw [fine, pow_zero, mul_one, same]
    have least : (c : ℚ) ≤ roundingFactor * c := by
      refine le_mul_of_one_le_left (Nat.cast_nonneg c) ?_
      simpa using one_le_roundingFactor_pow 1
    exact ⟨least, least⟩

variable {x y : ℚ}

/-- Whether a number is a whole number of units. -/
def InUnits (x : ℚ) : Prop := ∃ i : ℤ, x * unitsPerOne = i

namespace InUnits

theorem sub (h : InUnits x) (k : InUnits y) : InUnits (x - y) := by
  obtain ⟨i, whole⟩ := h
  obtain ⟨j, whole'⟩ := k
  exact ⟨i - j, by rw [sub_mul, whole, whole', Int.cast_sub]⟩

theorem mul_natCast (h : InUnits x) (n : ℕ) : InUnits (x * n) := by
  obtain ⟨i, whole⟩ := h
  exact ⟨i * n, by rw [mul_right_comm, whole, Int.cast_mul, Int.cast_natCast]⟩

end InUnits

theorem inUnits_intCast (i : ℤ) : InUnits i :=
  ⟨i * unitsPerOne, by rw [Int.cast_mul, Int.cast_natCast]⟩

theorem inUnits_rounded (x : ℚ) : InUnits (rounded x) :=
  ⟨_, div_mul_cancel₀ _ unitsPerOne_pos_rat.ne'⟩

/-- Whether a number is a whole number of units, or at least `2 ^ 52` units. -/
def Ample (x : ℚ) : Prop := InUnits x ∨ 2 ^ 52 ≤ |x * unitsPerOne|

theorem Ample.neg (h : Ample x) : Ample (-x) := by
  unfold Ample at h ⊢
  rw [neg_mul, abs_neg]
  rcases h with ⟨i, whole⟩ | many
  · exact .inl ⟨-i, by rw [neg_mul, whole, Int.cast_neg]⟩
  · exact .inr many

/-- Numbers that are not among the least ones. -/
theorem ample_of_one_le {k : ℕ} (range : k ≤ 1022) (h : 1 ≤ |x| * 2 ^ k) : Ample x := by
  have scaled {e : ℕ} (fine : k + 52 ≤ e) : (2 : ℚ) ^ 52 ≤ |x| * 2 ^ e := by
    calc (2 : ℚ) ^ 52 ≤ 2 ^ (e - k) := pow_le_pow_right₀ one_le_two (by omega)
      _ ≤ |x| * 2 ^ k * 2 ^ (e - k) := le_mul_of_one_le_left (by positivity) h
      _ = |x| * 2 ^ e := by rw [mul_assoc, ← pow_add, Nat.add_sub_cancel' (by omega)]
  right
  rw [abs_mul, Nat.abs_cast, unitsPerOne_eq, Nat.cast_pow, Nat.cast_ofNat]
  exact scaled (by omega)

/-- One rounding is a factor. -/
theorem near_rounded (h : Ample x) : Near 1 (rounded x) x := by
  have above {x : ℚ} (nonneg : 0 ≤ x) (h : Ample x) : Near 1 (rounded x) x := by
    have one := unitsPerOne_pos_rat
    rcases nonneg.eq_or_lt with rfl | positive
    · rw [rounded_zero]
      exact (Near.refl 0).mono zero_le_one
    obtain ⟨n, result, nearest⟩ := exists_rounded nonneg
    have nonneg' : 0 ≤ x * unitsPerOne := mul_nonneg nonneg one.le
    have ample : (∃ c : ℕ, x * unitsPerOne = c) ∨ 2 ^ 52 ≤ x * unitsPerOne := by
      unfold Ample at h
      rw [abs_of_nonneg nonneg'] at h
      refine h.imp_left fun ⟨i, whole⟩ => ⟨i.toNat, ?_⟩
      have least : (0 : ℚ) ≤ (i : ℤ) := whole ▸ nonneg'
      rw [whole, ← Int.cast_natCast, Int.toNat_of_nonneg (by exact_mod_cast least)]
    obtain ⟨most, least⟩ := nearest_factor nearest nonneg' ample
    rw [← result, ← mul_assoc, mul_le_mul_iff_left₀ one] at most least
    refine ⟨rounded x / x, (div_mul_cancel₀ _ positive.ne').symm, ?_, ?_⟩
    · rwa [pow_one, div_mul_eq_mul_div, one_le_div positive, mul_comm]
    · rwa [pow_one, div_le_iff₀ positive]
  rcases le_total 0 x with nonneg | nonpos
  · exact above nonneg h
  · have opposite := (above (neg_nonneg.2 nonpos) h.neg).neg
    rwa [rounded_neg, neg_neg, neg_neg] at opposite

/-! ## Absolute errors -/

section

variable {t : ℕ}

/-- The units in a binary fraction. -/
theorem unitsPerOne_eq_mul (range : t ≤ 1074) : (unitsPerOne : ℚ) = 2 ^ t * 2 ^ (1074 - t) := by
  have split {e : ℕ} (fine : t ≤ e) : ((2 ^ e : ℕ) : ℚ) = 2 ^ t * 2 ^ (e - t) := by
    rw [Nat.cast_pow, Nat.cast_ofNat, ← pow_add, Nat.add_sub_cancel' fine]
  rw [unitsPerOne_eq]
  exact split range

/-- What has at most 53 digits in front of a binary place is rounded by at most half of it. -/
theorem abs_rounded_sub_le (range : t ≤ 1074) (small : |x| * 2 ^ t < 2 ^ 53) :
    |rounded x - x| * 2 ^ t ≤ 1 / 2 := by
  have above {x : ℚ} (nonneg : 0 ≤ x) (small : x * 2 ^ t < 2 ^ 53) :
      |rounded x - x| * 2 ^ t ≤ 1 / 2 := by
    obtain ⟨n, result, nearest⟩ := exists_rounded nonneg
    rw [unitsPerOne_eq_mul range, ← mul_assoc, ← mul_assoc] at result
    rw [unitsPerOne_eq_mul range, ← mul_assoc] at nearest
    generalize 1074 - t = k at result nearest
    have place : (0 : ℚ) < 2 ^ k := by positivity
    have fine : spacing ⌊x * 2 ^ t * 2 ^ k⌋₊ ≤ k := by
      refine spacing_le_of_lt ((Nat.floor_lt (by positivity)).2 ?_)
      rw [Nat.cast_pow, Nat.cast_ofNat, pow_add]
      exact mul_lt_mul_of_pos_right small place
    generalize spacing ⌊x * 2 ^ t * 2 ^ k⌋₊ = s at result nearest fine
    have step : (0 : ℚ) < 2 ^ s := by positivity
    have error : |x * 2 ^ t * 2 ^ k - n * 2 ^ s| ≤ 1 / 2 * 2 ^ s := by
      have near := nearest.near
      rwa [div_sub' step.ne', abs_div, abs_of_pos step, div_le_iff₀ step, mul_comm _ (n : ℚ)] at near
    rw [← result, ← sub_mul, ← sub_mul, abs_mul, abs_mul, abs_of_pos place,
      abs_of_pos (by positivity : (0 : ℚ) < 2 ^ t), abs_sub_comm] at error
    rw [← mul_le_mul_iff_left₀ place]
    exact error.trans (by gcongr; norm_num)
  rcases le_total 0 x with nonneg | nonpos
  · rw [abs_of_nonneg nonneg] at small
    exact above nonneg small
  · rw [abs_of_nonpos nonpos] at small
    have opposite := above (neg_nonneg.2 nonpos) small
    rwa [rounded_neg, ← neg_sub', abs_neg] at opposite

/-- What is less than half a place away from a number of 53 digits is rounded to it. -/
theorem rounded_of_abs_sub_lt {n : ℕ} (range : t ≤ 1074) (nonneg : 0 ≤ x) (many : 2 ^ 52 < n)
    (few : n < 2 ^ 53) (near : |x * 2 ^ t - n| < 1 / 2) : rounded x * 2 ^ t = n := by
  obtain ⟨m, result, nearest⟩ := exists_rounded nonneg
  rw [unitsPerOne_eq_mul range, ← mul_assoc, ← mul_assoc] at result
  rw [unitsPerOne_eq_mul range, ← mul_assoc] at nearest
  generalize 1074 - t = k at result nearest
  have place : (0 : ℚ) < 2 ^ k := by positivity
  have many' : (2 : ℚ) ^ 52 + 1 ≤ n := by exact_mod_cast many
  have few' : (n : ℚ) + 1 ≤ 2 ^ 53 := by exact_mod_cast few
  obtain ⟨lower, upper⟩ := abs_lt.1 near
  have same : spacing ⌊x * 2 ^ t * 2 ^ k⌋₊ = k := by
    apply Nat.le_antisymm
    · refine spacing_le_of_lt ((Nat.floor_lt (by positivity)).2 ?_)
      rw [Nat.cast_pow, Nat.cast_ofNat, pow_add]
      exact mul_lt_mul_of_pos_right (by linarith) place
    · refine le_spacing_of_le (Nat.le_floor ?_)
      rw [Nat.cast_pow, Nat.cast_ofNat, pow_add]
      exact mul_le_mul_of_nonneg_right (by linarith) place.le
  rw [same, mul_div_cancel_right₀ _ place.ne'] at nearest
  rw [same, nearest.unique (NearestEven.of_lt near)] at result
  exact mul_right_cancel₀ place.ne' result

end

end BestTimes.Binary64
