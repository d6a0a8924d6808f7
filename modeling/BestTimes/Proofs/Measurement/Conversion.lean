import BestTimes.Proofs.Binary64.Accuracy
import BestTimes.Proofs.Decimal.Numeral
import BestTimes.Proofs.Measurement
set_option autoImplicit false

/-!
# Conversion to nanoseconds

A time is rounded to a binary64 number, multiplied by the number of nanoseconds in its unit with
a second rounding, and then its fraction is cut off (`converted`).  What is to be expected is the
integer part of the exact product.

* A product that is no whole number, of a time with at most 15 digits, is further away from the
  whole numbers than the two roundings lead, so its integer part is the expected one
  (`converted_of_not_whole`).
* A whole product may end up on either side of itself.  It stays where it is if the time is
  representable, or if the spacing of the binary64 numbers around the product is so much wider
  than around the time that the second rounding corrects the error of the first
  (`rounded_product_of_digits`).  In any case the integer is at most one away
  (`abs_converted_sub_le`), since the whole numbers next to the product are representable.

Conversion is odd (`converted_neg`), so each statement is proved for times that are not negative.
-/

namespace BestTimes

open Binary64 Decimal

namespace TimeUnit

/-- The number of nanoseconds in one of this unit, as a natural number. -/
def scale : TimeUnit → ℕ
  | .nanoseconds => 1
  | .microseconds => 1000
  | .milliseconds => 1000000

/-- The least exponent of a power of two that is not below the scale. -/
def bits : TimeUnit → ℕ
  | .nanoseconds => 0
  | .microseconds => 10
  | .milliseconds => 20

variable {u : TimeUnit}

theorem exists_scale_eq (u : TimeUnit) : ∃ p ≤ 6, u.scale = 10 ^ p := by
  cases u with
  | nanoseconds => exact ⟨0, by decide, rfl⟩
  | microseconds => exact ⟨3, by decide, rfl⟩
  | milliseconds => exact ⟨6, by decide, rfl⟩

theorem scale_pos (u : TimeUnit) : 0 < u.scale := by cases u <;> decide

theorem scale_le (u : TimeUnit) : u.scale ≤ 10 ^ 6 := by cases u <;> decide

theorem value?_multiplier (u : TimeUnit) : u.multiplier.value? = some (u.scale : ℚ) := by
  cases u with
  | nanoseconds => exact value?_ofNat (by decide)
  | microseconds => exact value?_ofNat (by decide)
  | milliseconds => exact value?_ofNat (by decide)

/-- The nanoseconds that a time is converted to: it is rounded to a binary64 number, the product
is rounded again, and its fraction is cut off. -/
def converted (u : TimeUnit) (d : ℚ) : ℤ := truncated (rounded (rounded d * u.scale))

theorem converted_neg (u : TimeUnit) (d : ℚ) : u.converted (-d) = -u.converted d := by
  unfold converted
  rw [rounded_neg, neg_mul, rounded_neg, truncated_neg]

variable {d : ℚ}

theorem product_nonneg (u : TimeUnit) (nonneg : 0 ≤ d) :
    0 ≤ d * u.scale ∧ 0 ≤ rounded d * u.scale :=
  ⟨mul_nonneg nonneg (Nat.cast_nonneg _), mul_nonneg (rounded_nonneg nonneg) (Nat.cast_nonneg _)⟩

theorem converted_of_nonneg (u : TimeUnit) (nonneg : 0 ≤ d) :
    u.converted d = ⌊rounded (rounded d * u.scale)⌋ :=
  truncated_of_nonneg (rounded_nonneg (u.product_nonneg nonneg).2)

/-! ## Times that are no whole number of nanoseconds -/

/-- What is no whole number is none with the other sign. -/
theorem not_whole_neg (part : ∀ i : ℤ, d * u.scale ≠ i) (i : ℤ) : -d * u.scale ≠ i := by
  intro whole
  refine part (-i) ?_
  rw [Int.cast_neg, ← whole, neg_mul, neg_neg]

/-- A quotient that is not whole is at least one part away from the whole numbers. -/
theorem floor_apart {c k : ℕ} (positive : 0 < k) (part : ∀ i : ℤ, (c / k : ℚ) ≠ i) :
    ⌊(c / k : ℚ)⌋ + 1 / k ≤ (c / k : ℚ) ∧ (c / k : ℚ) + 1 / k ≤ ⌊(c / k : ℚ)⌋ + 1 := by
  have size : (0 : ℚ) < k := by exact_mod_cast positive
  have lower := lt_of_le_of_ne (Int.floor_le (c / k : ℚ)) (part _).symm
  have upper := Int.lt_floor_add_one (c / k : ℚ)
  generalize ⌊(c / k : ℚ)⌋ = n at lower upper
  rw [lt_div_iff₀ size] at lower
  rw [div_lt_iff₀ size] at upper
  have less : n * k < (c : ℤ) := by exact_mod_cast lower
  have less' : (c : ℤ) < (n + 1) * k := by exact_mod_cast upper
  have lower' : (n * k + 1 : ℚ) ≤ c := by exact_mod_cast Int.add_one_le_of_lt less
  have upper' : (c + 1 : ℚ) ≤ (n + 1) * k := by exact_mod_cast Int.add_one_le_of_lt less'
  constructor
  · rwa [le_div_iff₀ size, add_mul, one_div_mul_cancel size.ne']
  · rwa [← add_div, div_le_iff₀ size]

/-- Two roundings lie between a time that is not very small and what it is converted from. -/
theorem near_product (u : TimeUnit) (large : 1 ≤ |d| * 2 ^ 60) :
    Near 2 (rounded (rounded d * u.scale)) (d * u.scale) := by
  have once := near_rounded (ample_of_one_le (by decide) large)
  have inUnits := (inUnits_rounded d).mul_natCast u.scale
  change Near (1 + 1) _ _
  exact (near_rounded (.inl inUnits)).trans (once.mul_right u.scale)

/-- A very small time is converted to nothing. -/
theorem rounded_product_small (u : TimeUnit) (nonneg : 0 ≤ d) (small : d * 2 ^ 60 < 1) :
    0 ≤ rounded (rounded d * u.scale) ∧ rounded (rounded d * u.scale) < 1 := by
  have scale : (u.scale : ℚ) ≤ 10 ^ 6 := by exact_mod_cast u.scale_le
  have bound : rounded d ≤ 1 / 2 ^ 60 := by
    have kept := rounded_dyadic (n := 1) (k := 60) (by decide) (by decide)
    rw [Nat.cast_one] at kept
    rw [← kept]
    exact rounded_mono ((le_div_iff₀ (by positivity)).2 small.le)
  have half : rounded d * u.scale ≤ 1 / 2 := by
    calc rounded d * u.scale ≤ 1 / 2 ^ 60 * 10 ^ 6 :=
          mul_le_mul bound scale (Nat.cast_nonneg _) (by norm_num)
      _ ≤ 1 / 2 := by norm_num
  have kept := rounded_dyadic (n := 1) (k := 1) (by decide) (by decide)
  rw [Nat.cast_one, pow_one] at kept
  refine ⟨rounded_nonneg (u.product_nonneg nonneg).2, ?_⟩
  calc rounded (rounded d * u.scale) ≤ rounded (1 / 2) := rounded_mono half
    _ = 1 / 2 := kept
    _ < 1 := by norm_num

/-- A product of few digits is written with a power of ten below. -/
theorem exists_product_eq (few : FewDigits 15 d) (nonneg : 0 ≤ d)
    (part : ∀ i : ℤ, d * u.scale ≠ i) :
    ∃ c j : ℕ, c < 10 ^ 15 ∧ d * u.scale = c / (10 ^ j : ℕ) := by
  obtain ⟨c, e, limit, value⟩ := few
  obtain ⟨p, -, power⟩ := u.exists_scale_eq
  rw [abs_of_nonneg nonneg] at value
  have product : d * u.scale = c * 10 ^ (e + p) := by
    rw [value, power, Nat.cast_pow, Nat.cast_ofNat, mul_assoc, ← zpow_natCast,
      ← zpow_add₀ (by norm_num)]
  obtain ⟨j, same | opposite⟩ := (e + p).eq_nat_or_neg
  · refine absurd ?_ (part (c * 10 ^ j))
    rw [product, same, zpow_natCast]
    norm_cast
  · refine ⟨c, j, limit, ?_⟩
    rw [product, opposite, zpow_neg, zpow_natCast, Nat.cast_pow, Nat.cast_ofNat, div_eq_mul_inv]

/-- The errors of two roundings are less than the distance of the product to the next whole
number. -/
theorem converted_of_not_whole (few : FewDigits 15 d) (part : ∀ i : ℤ, d * u.scale ≠ i) :
    u.converted d = truncated (d * u.scale) := by
  have above {d : ℚ} (nonneg : 0 ≤ d) (few : FewDigits 15 d) (part : ∀ i : ℤ, d * u.scale ≠ i) :
      u.converted d = truncated (d * u.scale) := by
    obtain ⟨nonneg', -⟩ := u.product_nonneg nonneg
    rw [converted_of_nonneg u nonneg, truncated_of_nonneg nonneg']
    rcases lt_or_ge (d * 2 ^ 60) 1 with small | large
    · obtain ⟨lower, upper⟩ := rounded_product_small u nonneg small
      have scale : (u.scale : ℚ) ≤ 10 ^ 6 := by exact_mod_cast u.scale_le
      have less : d * u.scale < 1 := by nlinarith
      rw [Int.floor_eq_zero_iff.2 ⟨lower, upper⟩, Int.floor_eq_zero_iff.2 ⟨nonneg', less⟩]
    · have error := (near_product u (large.trans_eq (by rw [abs_of_nonneg nonneg]))).abs_sub_le
      obtain ⟨c, j, limit, product⟩ := exists_product_eq few nonneg part
      have positive : 0 < 10 ^ j := Nat.pow_pos (by decide)
      have size : (0 : ℚ) < (10 ^ j : ℕ) := by exact_mod_cast positive
      have limit' : (c : ℚ) < 10 ^ 15 := by exact_mod_cast limit
      rw [abs_of_nonneg nonneg', product] at error
      rw [product] at part ⊢
      obtain ⟨lower, upper⟩ := floor_apart positive part
      have less : (roundingFactor ^ 2 - 1) * (c / (10 ^ j : ℕ) : ℚ) < 1 / (10 ^ j : ℕ) := by
        rw [← mul_div_assoc, div_lt_div_iff_of_pos_right size]
        unfold roundingFactor
        norm_num
        linarith
      obtain ⟨below, beyond⟩ := abs_le.1 error
      rw [Int.floor_eq_iff]
      constructor <;> linarith
  rcases le_total 0 d with nonneg | nonpos
  · exact above nonneg few part
  · have opposite := above (neg_nonneg.2 nonpos) few.neg (not_whole_neg part)
    rw [converted_neg, neg_mul, truncated_neg] at opposite
    exact neg_inj.1 opposite

/-! ## Times that are a whole number of nanoseconds -/

variable {n : ℕ}

/-- A whole product is at most one away from what it is converted from, and the fraction does not
take it further away from zero as long as halves are representable. -/
theorem rounded_product_bounds (nonneg : 0 ≤ d) (whole : d * u.scale = n) (few : n < 2 ^ 53) :
    (n : ℚ) - 1 ≤ rounded (rounded d * u.scale) ∧ rounded (rounded d * u.scale) ≤ n + 1 ∧
      (n < 2 ^ 52 → rounded (rounded d * u.scale) < n + 1) := by
  have scale : (0 : ℚ) < u.scale := by exact_mod_cast u.scale_pos
  rcases Nat.eq_zero_or_pos n with rfl | positive
  · have none : d = 0 := by
      rw [Nat.cast_zero] at whole
      exact (mul_eq_zero.1 whole).resolve_right scale.ne'
    rw [none, rounded_zero, zero_mul, rounded_zero]
    norm_num
  · have one : (1 : ℚ) ≤ n := by exact_mod_cast positive
    have limit : (n : ℚ) < 2 ^ 53 := by exact_mod_cast few
    have error : |rounded d * u.scale - n| ≤ n / 2 ^ 53 := by
      have large : 1 ≤ |d| * 2 ^ 60 := by
        have most : (u.scale : ℚ) ≤ 10 ^ 6 := by exact_mod_cast u.scale_le
        rw [abs_of_nonneg nonneg]
        nlinarith
      have once := (near_rounded (ample_of_one_le (by decide) large)).mul_right u.scale
      have bound := once.abs_sub_le
      rw [whole, abs_of_nonneg (Nat.cast_nonneg n : (0 : ℚ) ≤ n)] at bound
      refine bound.trans_eq ?_
      unfold roundingFactor
      ring
    obtain ⟨lower, upper⟩ := abs_le.1 error
    have part : (n : ℚ) / 2 ^ 53 < 1 := (div_lt_one (by positivity)).2 limit
    refine ⟨?_, ?_, fun fewer => ?_⟩
    · have kept := rounded_natCast (n := n - 1) (by omega)
      rw [Nat.cast_pred positive] at kept
      rw [← kept]
      exact rounded_mono (by linarith)
    · have kept := rounded_natCast (n := n + 1) few
      rw [Nat.cast_succ] at kept
      rw [← kept]
      exact rounded_mono (by linarith)
    · have fewer' : (n : ℚ) < 2 ^ 52 := by exact_mod_cast fewer
      have half : rounded d * u.scale ≤ (2 * n + 1 : ℕ) / 2 ^ 1 := by
        push_cast
        linarith
      calc rounded (rounded d * u.scale) ≤ rounded ((2 * n + 1 : ℕ) / 2 ^ 1) := rounded_mono half
        _ = (2 * n + 1 : ℕ) / 2 ^ 1 := rounded_dyadic (by omega) (by decide)
        _ < n + 1 := by
          push_cast
          linarith

/-- A time that is representable, and a whole number of nanoseconds, is converted exactly. -/
theorem rounded_product_of_representable (whole : d * u.scale = n) (few : n < 2 ^ 53)
    (kept : rounded d = d) : rounded (rounded d * u.scale) = n := by
  rw [kept, whole]
  exact rounded_natCast few.le

/-- So is a whole number of nanoseconds with as many binary digits as the time and the unit have
together: then the error is multiplied by no more than the spacing of the binary64 numbers
grows. -/
theorem rounded_product_of_digits {k : ℤ} (nonneg : 0 ≤ d) (whole : d * u.scale = n)
    (few : n < 2 ^ 53) (scale : u.scale < 2 ^ u.bits) (many : (2 : ℚ) ^ (k + u.bits) < n)
    (short : d < 2 ^ (k + 1)) : rounded (rounded d * u.scale) = n := by
  have scale' : (u.scale : ℚ) < 2 ^ u.bits := by exact_mod_cast scale
  have few' : (n : ℚ) < 2 ^ (53 : ℤ) := by exact_mod_cast few
  have bits : u.bits ≤ 20 := by cases u <;> decide
  have upper : k + u.bits < 53 := (zpow_lt_zpow_iff_right₀ one_lt_two).1 (many.trans few')
  have lower : 0 < k + 1 + u.bits := by
    have some : 0 < n := by exact_mod_cast (zpow_pos two_pos _).trans many
    have one : (1 : ℚ) ≤ n := by exact_mod_cast some
    have product : (n : ℚ) < 2 ^ (k + 1) * 2 ^ u.bits := by
      rw [← whole]
      exact mul_lt_mul'' short scale' nonneg (Nat.cast_nonneg _)
    rw [← zpow_natCast, ← zpow_add₀ two_ne_zero] at product
    have more := one.trans_lt product
    rwa [← zpow_zero (2 : ℚ), zpow_lt_zpow_iff_right₀ one_lt_two] at more
  -- The last binary place of the product, and that of the time, which is `u.bits` further on.
  obtain ⟨s, place⟩ : ∃ s : ℕ, k + u.bits = (52 : ℕ) - s := ⟨(52 - (k + u.bits)).toNat, by omega⟩
  have place' : k + 1 = (53 : ℕ) - (s + u.bits : ℕ) := by omega
  have step : (0 : ℚ) < 2 ^ s := by positivity
  rw [place, zpow_sub₀ two_ne_zero, zpow_natCast, zpow_natCast, div_lt_iff₀ step] at many
  rw [place', zpow_sub₀ two_ne_zero, zpow_natCast, zpow_natCast, lt_div_iff₀ (by positivity)] at short
  have error := abs_rounded_sub_le (t := s + u.bits) (by omega) ((abs_of_nonneg nonneg).symm ▸ short)
  have count : (n * 2 ^ s : ℚ) < 2 ^ 53 := by
    calc (n * 2 ^ s : ℚ) = d * (u.scale * 2 ^ s) := by rw [← whole, mul_assoc]
      _ ≤ d * (2 ^ u.bits * 2 ^ s) := by gcongr
      _ = d * 2 ^ (s + u.bits) := by rw [pow_add, mul_comm ((2 : ℚ) ^ s)]
      _ < 2 ^ 53 := short
  have near : |rounded d * u.scale * 2 ^ s - (n * 2 ^ s : ℕ)| < 1 / 2 := by
    have scaled : rounded d * u.scale * 2 ^ s - (n * 2 ^ s : ℕ) =
        (rounded d - d) * (u.scale * 2 ^ s) := by
      rw [Nat.cast_mul, Nat.cast_pow, Nat.cast_ofNat, ← whole]
      ring
    rw [scaled, abs_mul, abs_of_nonneg (by positivity : (0 : ℚ) ≤ u.scale * 2 ^ s)]
    rcases (abs_nonneg (rounded d - d)).eq_or_lt with none | some
    · rw [← none, zero_mul]
      norm_num
    · calc |rounded d - d| * (u.scale * 2 ^ s) < |rounded d - d| * (2 ^ u.bits * 2 ^ s) := by gcongr
        _ = |rounded d - d| * 2 ^ (s + u.bits) := by rw [pow_add, mul_comm ((2 : ℚ) ^ s)]
        _ ≤ 1 / 2 := error
  have result := rounded_of_abs_sub_lt (n := n * 2 ^ s) (t := s) (by omega)
    (u.product_nonneg nonneg).2 (by exact_mod_cast many) (by exact_mod_cast count) near
  rw [Nat.cast_mul, Nat.cast_pow, Nat.cast_ofNat] at result
  exact mul_right_cancel₀ step.ne' result

/-! ## All times -/

/-- Whether a time in a unit is one whose conversion is exact: it is no whole number of
nanoseconds, or it is representable, or the product has as many binary digits as the time and the
unit have together. -/
def ConvertsExactly (u : TimeUnit) (d : ℚ) : Prop :=
  (∀ i : ℤ, d * u.scale ≠ i) ∨ rounded d = d ∨
    ∃ k : ℤ, 2 ^ (k + u.bits) < |d * u.scale| ∧ |d| < 2 ^ (k + 1)

theorem ConvertsExactly.neg (h : u.ConvertsExactly d) : u.ConvertsExactly (-d) := by
  rcases h with part | kept | digits
  · exact .inl (not_whole_neg part)
  · exact .inr (.inl (by rw [rounded_neg, kept]))
  · exact .inr (.inr (by rwa [neg_mul, abs_neg, abs_neg]))

/-- A whole product that is not negative, as a natural number. -/
theorem exists_natCast_eq (nonneg : 0 ≤ d) (whole : ¬ ∀ i : ℤ, d * u.scale ≠ i)
    (range : |d * u.scale| < 2 ^ 53) : ∃ n : ℕ, d * u.scale = n ∧ n < 2 ^ 53 := by
  obtain ⟨nonneg', -⟩ := u.product_nonneg nonneg
  rw [abs_of_nonneg nonneg'] at range
  push Not at whole
  obtain ⟨i, value⟩ := whole
  rw [value] at nonneg' range
  obtain ⟨n, rfl⟩ := Int.eq_ofNat_of_zero_le (by exact_mod_cast nonneg' : 0 ≤ i)
  rw [Int.cast_natCast] at value range
  exact ⟨n, value, by exact_mod_cast range⟩

/-- **A time is converted to the integer part of the product**, if it is one that is read
exactly. -/
theorem converted_eq_truncated (few : FewDigits 15 d) (range : |d * u.scale| < 2 ^ 53)
    (exact : u = .nanoseconds ∨ u.ConvertsExactly d) : u.converted d = truncated (d * u.scale) := by
  have above {d : ℚ} (nonneg : 0 ≤ d) (few : FewDigits 15 d) (range : |d * u.scale| < 2 ^ 53)
      (exact : u = .nanoseconds ∨ u.ConvertsExactly d) : u.converted d = truncated (d * u.scale) := by
    by_cases part : ∀ i : ℤ, d * u.scale ≠ i
    · exact converted_of_not_whole few part
    · obtain ⟨n, whole, limit⟩ := exists_natCast_eq nonneg part range
      have inNanoseconds (own : u = .nanoseconds) : rounded (rounded d * u.scale) = n := by
        refine rounded_product_of_representable whole limit ?_
        rw [own, scale, Nat.cast_one, mul_one] at whole
        rw [whole, rounded_natCast limit.le]
      have kept : rounded (rounded d * u.scale) = n := by
        rcases exact with own | part' | representable | ⟨k, many, short⟩
        · exact inNanoseconds own
        · exact absurd part' part
        · exact rounded_product_of_representable whole limit representable
        · rw [whole, abs_of_nonneg (Nat.cast_nonneg n : (0 : ℚ) ≤ n)] at many
          rw [abs_of_nonneg nonneg] at short
          cases u with
          | nanoseconds => exact inNanoseconds rfl
          | microseconds => exact rounded_product_of_digits nonneg whole limit (by decide) many short
          | milliseconds => exact rounded_product_of_digits nonneg whole limit (by decide) many short
      rw [converted_of_nonneg u nonneg, kept, whole, truncated_of_nonneg (Nat.cast_nonneg n)]
  rcases le_total 0 d with nonneg | nonpos
  · exact above nonneg few range exact
  · have opposite := above (neg_nonneg.2 nonpos) few.neg (by rwa [neg_mul, abs_neg])
      (exact.imp_right ConvertsExactly.neg)
    rw [converted_neg, neg_mul, truncated_neg] at opposite
    exact neg_inj.1 opposite

/-- Every other time is converted to an integer that is at most one away from the product, and
not beyond it as long as halves are representable. -/
theorem abs_converted_sub_le (few : FewDigits 15 d) (range : |d * u.scale| < 2 ^ 53) :
    |u.converted d - d * u.scale| ≤ 1 ∧
      (|d * u.scale| < 2 ^ 52 → |(u.converted d : ℚ)| ≤ |d * u.scale|) := by
  have above {d : ℚ} (nonneg : 0 ≤ d) (few : FewDigits 15 d) (range : |d * u.scale| < 2 ^ 53) :
      |u.converted d - d * u.scale| ≤ 1 ∧
        (|d * u.scale| < 2 ^ 52 → |(u.converted d : ℚ)| ≤ |d * u.scale|) := by
    obtain ⟨nonneg', nonneg''⟩ := u.product_nonneg nonneg
    by_cases part : ∀ i : ℤ, d * u.scale ≠ i
    · have lower := Int.floor_le (d * u.scale)
      have upper := Int.lt_floor_add_one (d * u.scale)
      have least : (0 : ℚ) ≤ ⌊d * u.scale⌋ := by exact_mod_cast Int.floor_nonneg.2 nonneg'
      rw [converted_of_not_whole few part, truncated_of_nonneg nonneg', abs_of_nonneg nonneg',
        abs_of_nonneg least, abs_le]
      exact ⟨⟨by linarith, by linarith⟩, fun _ => lower⟩
    · obtain ⟨n, whole, limit⟩ := exists_natCast_eq nonneg part range
      obtain ⟨lower, upper, under⟩ := rounded_product_bounds nonneg whole limit
      have result := rounded_nonneg nonneg''
      rw [converted_of_nonneg u nonneg, whole, abs_of_nonneg (Nat.cast_nonneg n : (0 : ℚ) ≤ n)]
      generalize rounded (rounded d * u.scale) = y at lower upper under result
      have floor := Int.floor_le y
      have least : (0 : ℚ) ≤ ⌊y⌋ := by exact_mod_cast Int.floor_nonneg.2 result
      have near : (n : ℤ) - 1 ≤ ⌊y⌋ := Int.le_floor.2 (by exact_mod_cast lower)
      have near' : (n : ℚ) - 1 ≤ ⌊y⌋ := by exact_mod_cast near
      refine ⟨abs_le.2 ⟨by linarith, by linarith⟩, fun fewer => ?_⟩
      have below : ⌊y⌋ < (n : ℤ) + 1 :=
        Int.floor_lt.2 (by exact_mod_cast under (by exact_mod_cast fewer))
      rw [abs_of_nonneg least]
      exact_mod_cast Int.lt_add_one_iff.1 below
  rcases le_total 0 d with nonneg | nonpos
  · exact above nonneg few range
  · have opposite := above (neg_nonneg.2 nonpos) few.neg (by rwa [neg_mul, abs_neg])
    rwa [converted_neg, neg_mul, abs_neg, Int.cast_neg, abs_neg, ← neg_sub', abs_neg] at opposite

theorem abs_le_abs_mul_scale (u : TimeUnit) (d : ℚ) : |d| ≤ |d * u.scale| := by
  have one : (1 : ℚ) ≤ u.scale := by exact_mod_cast u.scale_pos
  rw [abs_mul, Nat.abs_cast]
  exact le_mul_of_one_le_right (abs_nonneg d) one

/-- What is computed from a rounded time is what the time is converted to. -/
theorem toInt_toNanos {a : Binary64} (value : a.value? = some (rounded d)) (few : FewDigits 15 d)
    (range : |d * u.scale| < 2 ^ 53) : (u.toNanos a).toInt = u.converted d := by
  have moderate : |d| ≤ (2 ^ 53 : ℕ) := by
    rw [Nat.cast_pow, Nat.cast_ofNat]
    exact (u.abs_le_abs_mul_scale d).trans range.le
  have bound : AtMost 53 a := by
    refine atMost_of_abs_le value ((abs_rounded_le (Nat.le_refl _) moderate).trans_eq ?_)
    rw [Nat.cast_pow, Nat.cast_ofNat]
  have bound' : AtMost 20 u.multiplier := by
    refine atMost_of_abs_le u.value?_multiplier ?_
    rw [Nat.abs_cast]
    exact_mod_cast u.scale_le.trans (by decide)
  have product := value?_mul (bound.mul bound' (by decide)).isFinite value u.value?_multiplier
  have result : (u.toNanos a) = Nanos.clamp (u.converted d) := by
    unfold toNanos Nanos.ofBinary64 converted
    rw [truncate?_of_value? product, Option.getD_some]
  have near := (abs_converted_sub_le few range).1
  have small : |(u.converted d : ℚ)| ≤ 2 ^ 53 + 1 := by
    have triangle := abs_sub_abs_le_abs_sub (u.converted d : ℚ) (d * u.scale)
    linarith
  have small' : |u.converted d| ≤ 2 ^ 53 + 1 := by exact_mod_cast small
  obtain ⟨lower, upper⟩ := abs_le.1 small'
  rw [result]
  unfold Nanos.clamp
  dsimp only
  omega

end TimeUnit

end BestTimes
