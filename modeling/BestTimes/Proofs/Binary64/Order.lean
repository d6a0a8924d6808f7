import BestTimes.Proofs.Binary64.Value
set_option autoImplicit false

/-!
# Products keep the order

The order of binary64 numbers is that of their ranks, where an infinity stands at the first count
of units that is too large for a finite number.  So rounding a quotient comes to two steps, the
nearest count and the cut at that limit (`rank?_ofQuotient`), and both keep the order of the
quotients, whatever their signs are (`le_ofQuotient`).

It follows that the product of two finite numbers never stands above that of two others whose
exact product is as large or larger (`le_mul_of_le`), also where a product is rounded, is a zero
of either sign, or is infinite.
-/

namespace BestTimes.Binary64

variable {a b c d : Binary64} {x y z w : ℚ} {s t : Bool} {num den num' den' : ℕ}

theorem le_of_rank {i j : ℤ} (ha : a.rank? = some i) (hb : b.rank? = some j) (order : i ≤ j) :
    le a b = true := by
  unfold le
  rw [ha, hb]
  exact decide_eq_true order

theorem exists_rank_of_le (h : le a b = true) :
    ∃ i j, a.rank? = some i ∧ b.rank? = some j ∧ i ≤ j := by
  unfold le at h
  split at h
  · rename_i i j ha hb
    exact ⟨i, j, ha, hb, of_decide_eq_true h⟩
  · cases h

/-! ## Rounded quotients -/

/-- The rank of a rounded quotient is the rounded count of units, or the limit beyond it. -/
theorem rank?_ofQuotient (s : Bool) (num den : ℕ) :
    (ofQuotient s num den).rank? = some (signed s (min (roundUnits num den) unitLimit)) := by
  unfold ofQuotient
  split_ifs with fits
  · rw [min_eq_left (Nat.le_of_lt fits)]
    rfl
  · rw [min_eq_right (Nat.le_of_not_lt fits)]
    rfl

/-- A cut of counts is one of integers on both sides. -/
theorem signed_min (s : Bool) (n limit : ℕ) :
    signed s (min n limit) = max (-(limit : ℤ)) (min (signed s n) limit) := by
  unfold signed
  cases s with
  | false =>
    rw [if_neg Bool.false_ne_true, if_neg Bool.false_ne_true]
    omega
  | true =>
    rw [if_pos rfl, if_pos rfl]
    omega

theorem signed_min_mono {n k : ℕ} (limit : ℕ) (order : signed s n ≤ signed t k) :
    signed s (min n limit) ≤ signed t (min k limit) := by
  rw [signed_min, signed_min]
  exact max_le_max_left _ (min_le_min_right _ order)

/-- Rounding a quotient keeps the order, also from finite numbers to the infinities. -/
theorem le_ofQuotient (positive : 0 < den) (positive' : 0 < den')
    (order : (signed s num / den : ℚ) ≤ signed t num' / den') :
    le (ofQuotient s num den) (ofQuotient t num' den') = true := by
  have one := unitsPerOne_pos_rat
  have nearest := rounded_mono ((div_le_div_iff_of_pos_right one).2 order)
  rw [rounded_div s num positive, rounded_div t num' positive',
    div_le_div_iff_of_pos_right one, Int.cast_le] at nearest
  exact le_of_rank (rank?_ofQuotient s num den) (rank?_ofQuotient t num' den')
    (signed_min_mono unitLimit nearest)

/-! ## Products -/

/-- **Products keep the order** of the exact products, whether they are finite or not. -/
theorem le_mul_of_le (ha : value? a = some x) (hb : value? b = some y) (hc : value? c = some z)
    (hd : value? d = some w) (order : x * y ≤ z * w) : le (a * b) (c * d) = true := by
  have one := unitsPerOne_pos_rat
  obtain ⟨s, num, rounded, exact⟩ := exists_mul_eq ha hb
  obtain ⟨t, num', rounded', exact'⟩ := exists_mul_eq hc hd
  rw [exact, exact', div_le_div_iff_of_pos_right one] at order
  rw [rounded, rounded']
  exact le_ofQuotient unitsPerOne_pos unitsPerOne_pos order

/-! ## Integer parts -/

theorem exists_truncate?_of_le (h : le a b = true) :
    ∃ i j, a.truncate? = some i ∧ b.truncate? = some j ∧ i ≤ j := by
  obtain ⟨i, j, ha, hb, order⟩ := exists_rank_of_le h
  have positive : (0 : ℤ) < unitsPerOne := by exact_mod_cast unitsPerOne_pos
  refine ⟨i.tdiv unitsPerOne, j.tdiv unitsPerOne, ?_, ?_, Int.tdiv_le_tdiv positive order⟩
  · unfold truncate?
    rw [ha, Option.map_some]
  · unfold truncate?
    rw [hb, Option.map_some]

end BestTimes.Binary64
