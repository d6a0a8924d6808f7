import BestTimes.Proofs.Binary64
set_option autoImplicit false

/-!
# Bounds on binary64 numbers

`AtMost k x` says that `x` is finite and at most `2 ^ k` in size, `AtLeastOne x` that it is
finite and at least one in size.  The exponents of the bounds on the parts of an operation give
that of the bound on its result, so that no overflow has to be looked for in the result itself.
-/

namespace BestTimes

namespace Binary64

/-- Whether a number is finite and at most `2 ^ k` in size. -/
def AtMost (k : ℕ) (x : Binary64) : Prop :=
  ∃ negative m, x = .finite negative m ∧ m.units ≤ unitsPerOne * 2 ^ k

/-- Whether a number is finite and at least one in size. -/
def AtLeastOne (x : Binary64) : Prop :=
  ∃ negative m, x = .finite negative m ∧ unitsPerOne ≤ m.units

theorem AtMost.isFinite {k : ℕ} {x : Binary64} (h : AtMost k x) : x.isFinite = true := by
  obtain ⟨negative, m, rfl, -⟩ := h
  rfl

/-! ## Results of rounding -/

theorem atMost_ofQuotient {k num den : ℕ} (negative : Bool) (positive : 0 < den)
    (range : k ≤ 1023) (h : num ≤ den * (unitsPerOne * 2 ^ k)) :
    AtMost k (ofQuotient negative num den) := by
  rw [unitsPerOne_mul_two_pow] at h
  have bound := roundUnits_le_two_pow positive h
  have finite := ofQuotient_of_lt (bound.trans_lt (two_pow_lt_unitLimit (by omega))) negative
  rw [← unitsPerOne_mul_two_pow] at bound
  exact ⟨negative, _, finite, bound⟩

theorem atLeastOne_ofQuotient {k num den : ℕ} {negative : Bool} (positive : 0 < den)
    (finite : AtMost k (ofQuotient negative num den)) (h : den * unitsPerOne ≤ num) :
    AtLeastOne (ofQuotient negative num den) := by
  obtain ⟨own, m, rounded, -⟩ := finite
  refine ⟨own, m, rounded, ?_⟩
  rw [unitsPerOne_eq] at h
  have bound := two_pow_le_roundUnits positive h
  rwa [(eq_of_ofQuotient_eq_finite rounded).2, unitsPerOne_eq]

/-! ## Operations -/

variable {i j k : ℕ} {x y : Binary64}

theorem AtMost.neg (h : AtMost k x) : AtMost k (-x) := by
  obtain ⟨negative, m, rfl, bound⟩ := h
  exact ⟨!negative, m, rfl, bound⟩

theorem AtMost.add (h : AtMost k x) (h' : AtMost k y) (range : k + 1 ≤ 1023) :
    AtMost (k + 1) (x + y) := by
  obtain ⟨s, m, rfl, bound⟩ := h
  obtain ⟨t, n, rfl, bound'⟩ := h'
  change AtMost (k + 1) (add (.finite s m) (.finite t n))
  unfold add
  simp only
  split_ifs with cancel
  · exact ⟨_, _, rfl, Nat.zero_le _⟩
  · refine atMost_ofQuotient _ Nat.one_pos range ?_
    have size (negative : Bool) (n : ℕ) : (signed negative n).natAbs = n := by
      cases negative with
      | false => exact Int.natAbs_natCast n
      | true => exact (Int.natAbs_neg _).trans (Int.natAbs_natCast n)
    refine (Int.natAbs_add_le _ _).trans ?_
    rw [size, size, Nat.pow_succ, Nat.one_mul, Nat.mul_two, Nat.mul_add]
    exact Nat.add_le_add bound bound'

theorem AtMost.sub (h : AtMost k x) (h' : AtMost k y) (range : k + 1 ≤ 1023) :
    AtMost (k + 1) (x - y) := h.add h'.neg range

theorem AtMost.mul (h : AtMost i x) (h' : AtMost j y) (range : i + j ≤ 1023) :
    AtMost (i + j) (x * y) := by
  obtain ⟨s, m, rfl, bound⟩ := h
  obtain ⟨t, n, rfl, bound'⟩ := h'
  change AtMost (i + j) (mul (.finite s m) (.finite t n))
  unfold mul
  refine atMost_ofQuotient _ unitsPerOne_pos range ?_
  refine (Nat.mul_le_mul bound bound').trans_eq ?_
  rw [Nat.pow_add]
  ring

theorem AtMost.div (h : AtMost k x) (h' : AtLeastOne y) (range : k ≤ 1023) :
    AtMost k (x / y) := by
  obtain ⟨s, m, rfl, bound⟩ := h
  obtain ⟨t, n, rfl, least⟩ := h'
  have positive : 0 < n.units := unitsPerOne_pos.trans_le least
  change AtMost k (div (.finite s m) (.finite t n))
  unfold div
  simp only [if_neg positive.ne']
  refine atMost_ofQuotient _ positive range ?_
  rw [Nat.mul_comm]
  exact Nat.mul_le_mul least bound

/-! ## Integers -/

theorem atMost_ofInt {t : ℤ} (range : k ≤ 1023) (h : t.natAbs ≤ 2 ^ k) : AtMost k (ofInt t) := by
  refine atMost_ofQuotient _ Nat.one_pos range ?_
  rw [Nat.one_mul, Nat.mul_comm]
  exact Nat.mul_le_mul_left _ h

theorem atLeastOne_ofInt {t : ℤ} (finite : AtMost k (ofInt t)) (nonzero : t ≠ 0) :
    AtLeastOne (ofInt t) := by
  refine atLeastOne_ofQuotient Nat.one_pos finite ?_
  exact Nat.mul_le_mul_right _ (Int.natAbs_pos.2 nonzero)

/-- A natural number divides what is at least as large into at least one. -/
theorem atLeastOne_div_of_le {n : ℕ} (finite : AtMost j (ofInt n)) (nonzero : n ≠ 0)
    (h : AtMost k y) (range : k ≤ 1023) (order : le (ofInt n) y = true) :
    AtLeastOne (y / ofInt n) := by
  have least : AtLeastOne (ofInt n) := atLeastOne_ofInt finite (Int.natCast_ne_zero.2 nonzero)
  have quotient := h.div least range
  obtain ⟨s, c, written, one⟩ := least
  obtain ⟨t, m, rfl, -⟩ := h
  have positive : s = false := by
    unfold ofInt at written
    rw [(eq_of_ofQuotient_eq_finite written).1]
    exact decide_eq_false (Int.not_lt.2 (Int.natCast_nonneg n))
  rw [written] at quotient order ⊢
  -- The order is one of numbers with signs; the divisor has none, so neither has the other.
  have above : c.units ≤ m.units := by
    rw [positive] at order
    unfold le rank? signed at order
    cases t with
    | false => simpa using order
    | true =>
      simp at order
      omega
  change AtLeastOne (div (.finite t m) (.finite s c))
  change AtMost k (div (.finite t m) (.finite s c)) at quotient
  have nonzero' : 0 < c.units := unitsPerOne_pos.trans_le one
  unfold div at quotient ⊢
  simp only [if_neg nonzero'.ne'] at quotient ⊢
  exact atLeastOne_ofQuotient nonzero' quotient (Nat.mul_le_mul_right _ above)

theorem atMost_ofNat {n : ℕ} (range : k ≤ 1023) (h : n ≤ 2 ^ k) :
    AtMost k (OfNat.ofNat n : Binary64) := by
  change AtMost k (ofInt n)
  exact atMost_ofInt range h

end Binary64

end BestTimes
