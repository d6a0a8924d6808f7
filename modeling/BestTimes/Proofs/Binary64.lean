import BestTimes.Binary64.Basic
import BestTimes.Proofs.Rounding
import Mathlib.Algebra.Order.Floor.Semifield
import Mathlib.Data.Rat.Floor
set_option autoImplicit false

/-!
# Rounding to binary64

The number of units that a quotient is rounded to depends on the rational number only, not
on how it is written as a quotient (`roundUnits_congr`).  Rounding does not cross a power of
two (`roundUnits_le_two_pow`, `two_pow_le_roundUnits`).  What is so close to a binary64
number that seventeen digits of the two agree is rounded to it (`roundUnits_of_near`).
-/

namespace BestTimes

/-! ## The spacing -/

theorem spacing_le {units k : ℕ} (h : units ≤ 2 ^ k) : spacing units ≤ k := by
  have small : units.log2 ≤ k := by
    rcases Nat.eq_zero_or_pos units with rfl | positive
    · exact Nat.zero_le _
    · refine Nat.lt_succ_iff.1 ((Nat.log2_lt positive.ne').2 (h.trans_lt ?_))
      exact Nat.pow_lt_pow_right (by decide) (Nat.lt_succ_self k)
  unfold spacing
  omega

/-- A count has at most 53 binary digits in units of its spacing. -/
theorem lt_two_pow_spacing (units : ℕ) : units < 2 ^ 53 * 2 ^ spacing units := by
  have limit : units < 2 ^ (units.log2 + 1) := Nat.lt_log2_self
  refine limit.trans_le ?_
  rw [← Nat.pow_add]
  refine Nat.pow_le_pow_right (by decide) ?_
  unfold spacing
  omega

/-- Where the spacing is more than one unit, it leaves 53 binary digits. -/
theorem two_pow_spacing_le {units : ℕ} (coarse : 0 < spacing units) :
    2 ^ 52 * 2 ^ spacing units ≤ units := by
  unfold spacing at coarse ⊢
  have nonzero : units ≠ 0 := by
    rintro rfl
    exact absurd coarse (by decide)
  have least := Nat.log2_self_le nonzero
  rwa [← Nat.pow_add, Nat.add_sub_cancel' (by omega)]

/-! ## The rounded number -/

section

variable {num den : ℕ}

theorem exists_roundUnits (num : ℕ) (positive : 0 < den) :
    ∃ n, roundUnits num den = n * 2 ^ spacing (num / den) ∧
      NearestEven (num / den / 2 ^ spacing (num / den)) n := by
  have nearest := nearestEven_divNearest num
    (Nat.mul_pos positive (Nat.two_pow_pos (spacing (num / den))))
  rw [Nat.cast_mul, Nat.cast_pow, Nat.cast_ofNat, ← div_div] at nearest
  exact ⟨_, rfl, nearest⟩

/-- Rounding depends on the rational number only. -/
theorem roundUnits_congr {num' den' : ℕ} (positive : 0 < den) (positive' : 0 < den')
    (same : (num / den : ℚ) = num' / den') : roundUnits num den = roundUnits num' den' := by
  obtain ⟨n, rounded, nearest⟩ := exists_roundUnits num positive
  obtain ⟨n', rounded', nearest'⟩ := exists_roundUnits num' positive'
  have floor (a b : ℕ) : ⌊(a / b : ℚ)⌋₊ = a / b := Nat.floor_div_eq_div a b
  have floors : num / den = num' / den' := by
    rw [← floor, same, floor]
  rw [same, floors] at nearest
  rw [rounded, rounded', nearest.unique nearest', floors]

theorem roundUnits_zero (positive : 0 < den) : roundUnits 0 den = 0 := by
  obtain ⟨n, rounded, nearest⟩ := exists_roundUnits 0 positive
  have none : n ≤ 0 := nearest.ge_of_ge (by rw [Nat.cast_zero, zero_div, zero_div])
  rw [rounded, Nat.le_zero.1 none, Nat.zero_mul]

theorem roundUnits_le_two_pow {k : ℕ} (positive : 0 < den) (h : num ≤ den * 2 ^ k) :
    roundUnits num den ≤ 2 ^ k := by
  obtain ⟨n, rounded, nearest⟩ := exists_roundUnits num positive
  have fits : spacing (num / den) ≤ k := spacing_le (Nat.div_le_of_le_mul h)
  have split : 2 ^ k = 2 ^ (k - spacing (num / den)) * 2 ^ spacing (num / den) := by
    rw [← Nat.pow_add, Nat.sub_add_cancel fits]
  rw [rounded, split]
  refine Nat.mul_le_mul_right _ (nearest.ge_of_ge ?_)
  rw [div_le_iff₀ (by positivity), div_le_iff₀ (by exact_mod_cast positive)]
  rw [split, Nat.mul_comm] at h
  exact_mod_cast h

theorem two_pow_le_roundUnits {k : ℕ} (positive : 0 < den) (h : den * 2 ^ k ≤ num) :
    2 ^ k ≤ roundUnits num den := by
  obtain ⟨n, rounded, nearest⟩ := exists_roundUnits num positive
  have size : (0 : ℚ) < den := by exact_mod_cast positive
  rw [rounded]
  rcases Nat.le_total (spacing (num / den)) k with fine | coarse
  · have split : 2 ^ k = 2 ^ (k - spacing (num / den)) * 2 ^ spacing (num / den) := by
      rw [← Nat.pow_add, Nat.sub_add_cancel fine]
    rw [split]
    refine Nat.mul_le_mul_right _ (nearest.le_of_le ?_)
    rw [le_div_iff₀ (by positivity), le_div_iff₀ size]
    rw [split, Nat.mul_comm] at h
    exact_mod_cast h
  · have step : den * 2 ^ spacing (num / den) ≤ num := by
      rcases Nat.eq_zero_or_pos (spacing (num / den)) with none | more
      · rw [none] at coarse ⊢
        rwa [Nat.le_zero.1 coarse] at h
      · have least := two_pow_spacing_le more
        rw [Nat.le_div_iff_mul_le positive, Nat.mul_comm] at least
        refine le_trans (Nat.mul_le_mul_left den ?_) least
        exact Nat.le_mul_of_pos_left _ (by decide)
    have nonzero : 1 ≤ n := by
      apply nearest.le_of_le
      rw [Nat.cast_one, one_le_div₀ (by positivity), le_div_iff₀ size, mul_comm]
      exact_mod_cast step
    calc 2 ^ k ≤ 2 ^ spacing (num / den) := Nat.pow_le_pow_right (by decide) coarse
      _ = 1 * 2 ^ spacing (num / den) := (Nat.one_mul _).symm
      _ ≤ n * 2 ^ spacing (num / den) := Nat.mul_le_mul_right _ nonzero

/-- The bounds on a count in units of its spacing hold of a quotient, whose spacing is that of
the whole number in it. -/
theorem div_lt_two_pow_spacing (num : ℕ) (positive : 0 < den) :
    (num / den : ℚ) < 2 ^ 53 * 2 ^ spacing (num / den) := by
  have whole := lt_two_pow_spacing (num / den)
  rw [Nat.div_lt_iff_lt_mul positive] at whole
  rw [div_lt_iff₀ (by exact_mod_cast positive)]
  exact_mod_cast whole

theorem two_pow_spacing_le_div (num : ℕ) (positive : 0 < den)
    (coarse : 0 < spacing (num / den)) :
    2 ^ 52 * 2 ^ spacing (num / den) ≤ (num / den : ℚ) := by
  have whole := two_pow_spacing_le coarse
  rw [Nat.le_div_iff_mul_le positive] at whole
  rw [le_div_iff₀ (by exact_mod_cast positive)]
  exact_mod_cast whole

/-- A representable count is at least its spacing below the powers of two above it. -/
theorem add_two_pow_spacing_le {units k : ℕ} (granular : 2 ^ spacing units ∣ units)
    (below : units < 2 ^ k) (coarse : spacing units ≤ k) : units + 2 ^ spacing units ≤ 2 ^ k := by
  have step := Nat.le_of_dvd (Nat.sub_pos_of_lt below)
    (Nat.dvd_sub (Nat.pow_dvd_pow 2 coarse) granular)
  omega

section

variable {units : ℕ}

/-- A quotient that is no more than half a unit of the seventeenth digit away from a
representable count has the spacing of the count or a finer one. -/
theorem spacing_div_le_of_near (positive : 0 < den) (granular : 2 ^ spacing units ∣ units)
    (near : |(num / den : ℚ) - units| * (2 * 10 ^ 16) ≤ units) :
    spacing (num / den) ≤ spacing units := by
  -- On a coarser grid the quotient is at least a power of two that the count is below of, and
  -- then by its spacing, which is more than the seventeenth digit allows.
  by_contra coarse
  have count := lt_two_pow_spacing units
  rw [← Nat.pow_add] at count
  have limit : 2 ^ (53 + spacing units) ≤ 2 ^ (52 + spacing (num / den)) :=
    Nat.pow_le_pow_right (by decide) (by omega)
  have apart := add_two_pow_spacing_le granular (count.trans_le limit) (by omega)
  have count' : (units : ℚ) < 2 ^ 53 * 2 ^ spacing units := by
    rw [← pow_add]
    exact_mod_cast count
  have apart' : (units : ℚ) + 2 ^ spacing units ≤ 2 ^ 52 * 2 ^ spacing (num / den) := by
    rw [← pow_add]
    exact_mod_cast apart
  have beyond := two_pow_spacing_le_div num positive (by omega)
  linarith [(abs_le.1 (le_refl |(num / den : ℚ) - units|)).2]

/-- A representable count is what a quotient is rounded to that is no more than half a unit
of the seventeenth digit away from it. -/
theorem roundUnits_of_near (positive : 0 < den) (granular : 2 ^ spacing units ∣ units)
    (near : |(num / den : ℚ) - units| * (2 * 10 ^ 16) ≤ units) : roundUnits num den = units := by
  obtain ⟨n, rounded, nearest⟩ := exists_roundUnits num positive
  have fine := spacing_div_le_of_near positive granular near
  obtain ⟨k, split⟩ := (Nat.pow_dvd_pow 2 fine).trans granular
  have half : |(num / den : ℚ) - units| < 2 ^ spacing (num / den) / 2 := by
    have limit := div_lt_two_pow_spacing num positive
    linarith [(abs_le.1 (le_refl |(num / den : ℚ) - units|)).1]
  have kept : NearestEven (num / den / 2 ^ spacing (num / den)) k := by
    apply NearestEven.of_lt
    rw [split] at half
    push_cast at half
    rwa [← mul_div_cancel_left₀ (k : ℚ) (pow_ne_zero (spacing (num / den)) two_ne_zero), ← sub_div,
      abs_div, abs_of_pos (by positivity : (0 : ℚ) < 2 ^ spacing (num / den)),
      div_lt_iff₀ (by positivity), one_div_mul_eq_div]
  rw [rounded, nearest.unique kept, split, Nat.mul_comm]

end

end

/-! ## The result as a number -/

namespace Binary64

theorem unitsPerOne_eq : unitsPerOne = 2 ^ 1074 := by
  unfold unitsPerOne
  generalize 1074 = e
  rfl

theorem unitsPerOne_mul_two_pow (k : ℕ) : unitsPerOne * 2 ^ k = 2 ^ (1074 + k) := by
  rw [unitsPerOne_eq, Nat.pow_add]

theorem two_pow_lt_unitLimit {e : ℕ} (h : e < 2098) : 2 ^ e < unitLimit := by
  unfold unitLimit
  generalize 2098 = limit at h
  exact Nat.pow_lt_pow_right (by decide) h

theorem ofQuotient_of_lt {num den : ℕ} (h : roundUnits num den < unitLimit) (negative : Bool) :
    ofQuotient negative num den =
      .finite negative ⟨roundUnits num den, h, granular_roundUnits num den⟩ := by
  unfold ofQuotient
  exact dif_pos h

/-- What rounds to a finite number has its sign and the rounded count of units. -/
theorem eq_of_ofQuotient_eq_finite {num den : ℕ} {negative own : Bool} {m : Magnitude}
    (h : ofQuotient negative num den = .finite own m) :
    own = negative ∧ m.units = roundUnits num den := by
  unfold ofQuotient at h
  split_ifs at h
  cases h
  exact ⟨rfl, rfl⟩

end Binary64

end BestTimes
