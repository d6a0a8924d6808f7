import BestTimes.Rounding
import Mathlib.Algebra.Order.Field.Basic
import Mathlib.Tactic.FieldSimp
import Mathlib.Tactic.Linarith
import Mathlib.Tactic.Positivity
import Mathlib.Tactic.Ring
set_option autoImplicit false

/-!
# Nearest natural numbers

The quotients that are rounded are quotients of natural numbers.  Here they are rational
numbers, so that a result of rounding can be described without the way it is computed.

`NearestEven x n` says that `n` is the natural number nearest to `x`, the even one from the
middle between two.  There is only one (`NearestEven.unique`), and `divNearest` finds it
(`nearestEven_divNearest`).  It is at least, or at most, what `x` is at least or at most
(`NearestEven.le_of_le`, `NearestEven.ge_of_ge`).
-/

namespace BestTimes

/-- Whether `n` is the natural number nearest to `x`, from the middle between two of them the
even one. -/
structure NearestEven (x : ℚ) (n : ℕ) : Prop where
  near : |x - n| ≤ 1 / 2
  even : |x - n| = 1 / 2 → 2 ∣ n

namespace NearestEven

variable {x : ℚ} {n k : ℕ}

theorem bounds (h : NearestEven x n) : x ≤ n + 1 / 2 ∧ (n : ℚ) ≤ x + 1 / 2 := by
  obtain ⟨lower, upper⟩ := abs_le.1 h.near
  constructor <;> linarith

theorem le_of_le (h : NearestEven x n) (bound : (k : ℚ) ≤ x) : k ≤ n := by
  have close : (k : ℚ) < n + 1 := by linarith [h.bounds.1]
  exact Nat.lt_succ_iff.1 (by exact_mod_cast close)

theorem ge_of_ge (h : NearestEven x n) (bound : x ≤ k) : n ≤ k := by
  have close : (n : ℚ) < k + 1 := by linarith [h.bounds.2]
  exact Nat.lt_succ_iff.1 (by exact_mod_cast close)

/-- A number less than half a unit away is the nearest. -/
theorem of_lt (h : |x - n| < 1 / 2) : NearestEven x n :=
  ⟨h.le, fun middle => absurd middle h.ne⟩

/-- Of two nearest numbers in order, the second is at most one further on; then `x` is in
the middle between them and both would be even. -/
private theorem unique_of_le (h : NearestEven x n) (k' : NearestEven x k) (order : n ≤ k) :
    n = k := by
  have apart : (k : ℚ) ≤ n + 1 := by linarith [h.bounds.1, k'.bounds.2]
  have next : k ≤ n + 1 := by exact_mod_cast apart
  rcases Nat.lt_or_eq_of_le order with less | equal
  · obtain rfl : k = n + 1 := by omega
    have bounds := k'.bounds.2
    rw [Nat.cast_succ] at bounds
    have middle : x = n + 1 / 2 := by linarith [h.bounds.1]
    have first := h.even (by rw [middle, add_sub_cancel_left]; norm_num)
    have second := k'.even (by
      rw [middle, Nat.cast_succ, add_sub_add_left_eq_sub]
      norm_num [abs_div])
    omega
  · exact equal

theorem unique (h : NearestEven x n) (k' : NearestEven x k) : n = k := by
  rcases Nat.le_total n k with order | order
  · exact h.unique_of_le k' order
  · exact (k'.unique_of_le h order).symm

/-- A result that ends in a zero stays the result on the next coarser grid: there the number
is only a twentieth of a unit away from it. -/
theorem div_ten (h : NearestEven x (10 * n)) : NearestEven (x / 10) n := by
  apply of_lt
  have scaled : x / 10 - n = (x - (10 * n : ℕ)) / 10 := by
    rw [Nat.cast_mul, Nat.cast_ofNat]
    ring
  rw [scaled, abs_div, abs_of_pos (by norm_num : (0 : ℚ) < 10), div_lt_iff₀ (by norm_num)]
  linarith [h.near]

end NearestEven

/-- `divNearest` finds the nearest natural number. -/
theorem nearestEven_divNearest (num : ℕ) {den : ℕ} (positive : 0 < den) :
    NearestEven (num / den : ℚ) (divNearest num den) := by
  have size : (0 : ℚ) < den := Nat.cast_pos.2 positive
  have split : (num : ℚ) = den * (num / den : ℕ) + (num % den : ℕ) := by
    exact_mod_cast (Nat.div_add_mod num den).symm
  have below : (num / den : ℚ) - (num / den : ℕ) = (num % den : ℕ) / den := by
    field_simp
    linarith
  have above : (num / den : ℚ) - (num / den + 1 : ℕ) = (num % den : ℕ) / den - 1 := by
    rw [Nat.cast_succ, ← below]
    ring
  have part : ((num % den : ℕ) : ℚ) / den < 1 := by
    rw [div_lt_one size]
    exact_mod_cast Nat.mod_lt num positive
  have nonneg : 0 ≤ ((num % den : ℕ) : ℚ) / den := by positivity
  unfold divNearest
  split_ifs with down up even
  · have half : ((num % den : ℕ) : ℚ) / den < 1 / 2 := by
      rw [div_lt_div_iff₀ size (by norm_num), one_mul, mul_comm]
      exact_mod_cast down
    apply NearestEven.of_lt
    rwa [below, abs_of_nonneg nonneg]
  · have half : 1 / 2 < ((num % den : ℕ) : ℚ) / den := by
      rw [div_lt_div_iff₀ (by norm_num) size, one_mul, mul_comm]
      exact_mod_cast up
    apply NearestEven.of_lt
    rw [above, abs_sub_comm, abs_of_nonneg (by linarith)]
    linarith
  -- Neither side is nearer, so the number is in the middle; what is left is the parity.
  all_goals
    have half : ((num % den : ℕ) : ℚ) / den = 1 / 2 := by
      rw [div_eq_div_iff size.ne' (by norm_num), one_mul, mul_comm]
      exact_mod_cast (show 2 * (num % den) = den by omega)
  · refine ⟨?_, fun _ => Nat.dvd_of_mod_eq_zero even⟩
    rw [below, half, abs_of_nonneg (by norm_num)]
  · refine ⟨?_, fun _ => by omega⟩
    rw [above, half]
    norm_num [abs_div]

end BestTimes
