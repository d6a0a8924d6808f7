import BestTimes.Proofs.Binary64.Bounds
set_option autoImplicit false

/-!
# Binary64 numbers as rational numbers

A finite number is a rational number (`value?`), and the result of an operation, if it is
finite, is the exact result rounded once (`rounded`): `value?_add`, `value?_mul`, `value?_div`
and so on.  Behind these statements a computation can be followed with rational numbers alone,
without signs of zeros and without counts of units.

Rounding keeps the order (`rounded_mono`) and the binary64 numbers (`rounded_of_value?`), among
them the natural numbers up to `2 ^ 53` and their binary fractions (`rounded_dyadic`).  What is
not finite is left out here; a bound on the size (`AtMost`) is one on the value as well
(`AtMost.abs_le`, `atMost_of_abs_le`).
-/

namespace BestTimes

/-! ## Rounding in units -/

/-- A greater number has no lesser nearest natural number. -/
theorem NearestEven.mono {x y : ℚ} {n k : ℕ} (h : NearestEven x n) (k' : NearestEven y k)
    (order : x ≤ y) : n ≤ k := by
  by_contra greater
  have apart : (k : ℚ) + 1 ≤ n := by exact_mod_cast Nat.lt_of_not_le greater
  -- Both numbers are then in the middle between the two, and are the same.
  have same : x = y := by linarith [h.bounds.2, k'.bounds.1]
  rw [same] at h
  exact greater (h.unique k').le

theorem roundUnits_mono {num den num' den' : ℕ} (positive : 0 < den) (positive' : 0 < den')
    (order : (num / den : ℚ) ≤ num' / den') : roundUnits num den ≤ roundUnits num' den' := by
  have size : (0 : ℚ) < den := by exact_mod_cast positive
  have size' : (0 : ℚ) < den' := by exact_mod_cast positive'
  rcases Nat.lt_or_ge (spacing (num' / den')) (spacing (num / den)) with finer | coarser
  · -- The greater number would have the finer grid.
    have least := two_pow_spacing_le_div num positive (by omega)
    have limit := div_lt_two_pow_spacing num' positive'
    have step : (2 : ℚ) ^ 53 * 2 ^ spacing (num' / den') ≤ 2 ^ 52 * 2 ^ spacing (num / den) := by
      rw [← pow_add, ← pow_add]
      exact pow_le_pow_right₀ (by norm_num) (by omega)
    linarith
  · obtain ⟨n, rounded, nearest⟩ := exists_roundUnits num positive
    obtain ⟨n', rounded', nearest'⟩ := exists_roundUnits num' positive'
    rcases Nat.lt_or_eq_of_le coarser with coarse | same
    · -- A power of two stands between the numbers of the two grids.
      have least := two_pow_spacing_le_div num' positive' (by omega)
      have limit := div_lt_two_pow_spacing num positive
      rw [← pow_add, div_lt_iff₀ size, mul_comm] at limit
      rw [← pow_add, le_div_iff₀ size', mul_comm] at least
      have below : roundUnits num den ≤ 2 ^ (53 + spacing (num / den)) :=
        roundUnits_le_two_pow positive (le_of_lt (by exact_mod_cast limit))
      have above : 2 ^ (52 + spacing (num' / den')) ≤ roundUnits num' den' :=
        two_pow_le_roundUnits positive' (by exact_mod_cast least)
      refine below.trans (le_trans ?_ above)
      exact Nat.pow_le_pow_right (by decide) (by omega)
    · rw [rounded, rounded', ← same]
      rw [← same] at nearest'
      refine Nat.mul_le_mul_right _ (nearest.mono nearest' ?_)
      gcongr

/-- A representable count is rounded to itself. -/
theorem roundUnits_of_granular {units : ℕ} (granular : 2 ^ spacing units ∣ units) :
    roundUnits units 1 = units := by
  refine roundUnits_of_near Nat.one_pos granular ?_
  rw [Nat.cast_one, div_one, sub_self, abs_zero, zero_mul]
  exact Nat.cast_nonneg units

theorem spacing_le_of_lt {units k : ℕ} (h : units < 2 ^ (53 + k)) : spacing units ≤ k := by
  rcases Nat.eq_zero_or_pos units with rfl | positive
  · exact Nat.zero_le k
  · have few := (Nat.log2_lt positive.ne').2 h
    unfold spacing
    omega

theorem le_spacing_of_le {units k : ℕ} (h : 2 ^ (52 + k) ≤ units) : k ≤ spacing units := by
  have many := (Nat.le_log2 (Nat.two_pow_pos (52 + k) |>.trans_le h).ne').2 h
  unfold spacing
  omega

/-- What has at most 53 binary digits is representable, and so is the next power of two. -/
theorem granular_mul_two_pow {n : ℕ} (h : n ≤ 2 ^ 53) (k : ℕ) :
    2 ^ spacing (n * 2 ^ k) ∣ n * 2 ^ k := by
  rcases Nat.lt_or_eq_of_le h with few | rfl
  · refine (Nat.pow_dvd_pow 2 (spacing_le_of_lt ?_)).trans (Nat.dvd_mul_left _ _)
    rw [Nat.pow_add]
    exact Nat.mul_lt_mul_of_pos_right few (Nat.two_pow_pos k)
  · rw [← Nat.pow_add]
    exact Nat.pow_dvd_pow 2 (spacing_le (Nat.le_refl _))

namespace Binary64

/-! ## Values -/

/-- The rational number that a finite number is. -/
def value? : Binary64 → Option ℚ
  | .finite negative m => some (signed negative m.units / unitsPerOne)
  | _ => none

/-- The rational number that another one is rounded to, if binary64 numbers of any size are
allowed. -/
def rounded (x : ℚ) : ℚ :=
  signed (x < 0) (roundUnits (x.num.natAbs * unitsPerOne) x.den) / unitsPerOne

section

variable {a b : Binary64} {x y : ℚ} {negative : Bool} {num den : ℕ}

theorem value?_eq_some_iff :
    value? a = some x ↔ ∃ negative m, a = .finite negative m ∧
      x = signed negative m.units / unitsPerOne := by
  unfold value?
  cases a with
  | nan => simp only [reduceCtorEq, false_and, exists_const]
  | infinite negative => simp only [reduceCtorEq, false_and, exists_const]
  | finite negative m =>
    simp only [Option.some.injEq, finite.injEq]
    constructor
    · rintro rfl
      exact ⟨negative, m, ⟨rfl, rfl⟩, rfl⟩
    · rintro ⟨_, _, ⟨rfl, rfl⟩, rfl⟩
      rfl

theorem isFinite_of_value? (h : value? a = some x) : a.isFinite = true := by
  obtain ⟨negative, m, rfl, -⟩ := value?_eq_some_iff.1 h
  rfl

theorem unitsPerOne_pos_rat : (0 : ℚ) < unitsPerOne := by exact_mod_cast unitsPerOne_pos

theorem signed_zero (negative : Bool) : signed negative 0 = 0 := by
  cases negative with
  | false => rfl
  | true => rfl

theorem signed_not (negative : Bool) (n : ℕ) : signed (!negative) n = -signed negative n := by
  cases negative with
  | false => rfl
  | true => exact (neg_neg _).symm

theorem signed_mul (s t : Bool) (n k : ℕ) :
    signed (s != t) (n * k) = signed s n * signed t k := by
  cases s <;> cases t <;> simp [signed]

theorem abs_signed (negative : Bool) (n : ℕ) : |((signed negative n : ℤ) : ℚ)| = n := by
  unfold signed
  cases negative <;> simp

theorem signed_mul_natCast (negative : Bool) (n k : ℕ) :
    signed negative (n * k) = signed negative n * k := by
  have product := signed_mul negative false n k
  rwa [Bool.bne_false] at product

theorem signed_natAbs (i : ℤ) : signed (i < 0) i.natAbs = i := by
  unfold signed
  by_cases h : i < 0
  · rw [if_pos (decide_eq_true h)]
    omega
  · rw [if_neg (by simpa using h)]
    omega

/-- The order of finite numbers is that of their values. -/
theorem le_iff_value (ha : value? a = some x) (hb : value? b = some y) :
    le a b = true ↔ x ≤ y := by
  have one := unitsPerOne_pos_rat
  obtain ⟨s, m, rfl, rfl⟩ := value?_eq_some_iff.1 ha
  obtain ⟨t, n, rfl, rfl⟩ := value?_eq_some_iff.1 hb
  rw [div_le_div_iff_of_pos_right one, Int.cast_le]
  unfold le rank?
  exact decide_eq_true_iff

/-! ## Rounding -/

theorem natAbs_num_div_den (x : ℚ) : (x.num.natAbs : ℚ) / x.den = |x| := by
  conv_rhs => rw [← Rat.num_div_den x]
  rw [abs_div, Nat.abs_cast, Nat.cast_natAbs, Int.cast_abs]

/-- The rounded number does not depend on how the number is written. -/
theorem rounded_div (negative : Bool) (num : ℕ) (positive : 0 < den) :
    rounded (signed negative num / den / unitsPerOne) =
      signed negative (roundUnits num den) / unitsPerOne := by
  have one := unitsPerOne_pos_rat
  have size : (0 : ℚ) < den := by exact_mod_cast positive
  have size' := abs_signed negative num
  generalize value : ((signed negative num : ℤ) : ℚ) / den / unitsPerOne = x
  have same : roundUnits (x.num.natAbs * unitsPerOne) x.den = roundUnits num den := by
    refine roundUnits_congr x.pos positive ?_
    rw [Nat.cast_mul, mul_div_right_comm, natAbs_num_div_den, ← value, abs_div, abs_div, size',
      abs_of_pos size, abs_of_pos one, div_mul_cancel₀ _ one.ne']
  have sign : signed (x < 0) (roundUnits num den) = signed negative (roundUnits num den) := by
    rcases Nat.eq_zero_or_pos num with rfl | some
    · rw [roundUnits_zero positive, signed_zero, signed_zero]
    · have top : (0 : ℚ) < num := by exact_mod_cast some
      have below : decide (x < 0) = negative := by
        rw [← value]
        unfold signed
        cases negative with
        | false =>
          refine decide_eq_false (not_lt.2 ?_)
          simp only [Bool.false_eq_true, if_false, Int.cast_natCast]
          exact (div_pos (div_pos top size) one).le
        | true =>
          refine decide_eq_true ?_
          simp only [if_true, Int.cast_neg, Int.cast_natCast, neg_div, Left.neg_neg_iff]
          exact div_pos (div_pos top size) one
      rw [below]
  unfold rounded
  rw [same, sign]

theorem rounded_natCast_div (num : ℕ) (positive : 0 < den) :
    rounded (num / den / unitsPerOne) = roundUnits num den / unitsPerOne := by
  have whole := rounded_div false num positive
  unfold signed at whole
  simpa only [Bool.false_eq_true, if_false, Int.cast_natCast] using whole

theorem rounded_zero : rounded 0 = 0 := by
  have none := rounded_natCast_div 0 Nat.one_pos
  rwa [roundUnits_zero Nat.one_pos, Nat.cast_zero, zero_div, zero_div] at none

/-- A number that is not negative as a quotient of counts. -/
theorem eq_quotient (nonneg : 0 ≤ x) :
    x = (x.num.natAbs * unitsPerOne : ℕ) / x.den / unitsPerOne := by
  have one := unitsPerOne_pos_rat
  rw [Nat.cast_mul, mul_div_right_comm, natAbs_num_div_den, abs_of_nonneg nonneg,
    mul_div_cancel_right₀ _ one.ne']

/-- What is rounded, counted in units, has the spacing of the whole number in it. -/
theorem exists_rounded (nonneg : 0 ≤ x) :
    ∃ n : ℕ, rounded x * unitsPerOne = n * 2 ^ spacing ⌊x * unitsPerOne⌋₊ ∧
      NearestEven (x * unitsPerOne / 2 ^ spacing ⌊x * unitsPerOne⌋₊) n := by
  have one := unitsPerOne_pos_rat
  have scaled := eq_quotient nonneg
  generalize x.num.natAbs * unitsPerOne = num at scaled
  have count : x * unitsPerOne = num / x.den := (eq_div_iff one.ne').1 scaled
  obtain ⟨n, result, nearest⟩ := exists_roundUnits num x.pos
  refine ⟨n, ?_, ?_⟩
  · rw [scaled, rounded_natCast_div num x.pos, ← scaled, div_mul_cancel₀ _ one.ne', result, count,
      Nat.floor_div_eq_div, Nat.cast_mul, Nat.cast_pow, Nat.cast_ofNat]
  · rw [count, Nat.floor_div_eq_div]
    exact nearest

theorem rounded_neg (x : ℚ) : rounded (-x) = -rounded x := by
  unfold rounded
  rw [Rat.neg_num, Int.natAbs_neg, Rat.neg_den]
  rcases lt_trichotomy x 0 with below | rfl | above
  · rw [decide_eq_false (not_lt.2 (neg_nonneg.2 below.le)), decide_eq_true below]
    have opposite := signed_not true (roundUnits (x.num.natAbs * unitsPerOne) x.den)
    rw [Bool.not_true] at opposite
    rw [opposite, Int.cast_neg, neg_div]
  · rw [neg_zero, Rat.num_zero, Int.natAbs_zero, Nat.zero_mul, roundUnits_zero (Rat.pos 0),
      signed_zero, Int.cast_zero, zero_div, neg_zero]
  · rw [decide_eq_true (neg_lt_zero.2 above), decide_eq_false (not_lt.2 above.le)]
    have opposite := signed_not false (roundUnits (x.num.natAbs * unitsPerOne) x.den)
    rw [Bool.not_false] at opposite
    rw [opposite, Int.cast_neg, neg_div]

theorem rounded_nonneg (nonneg : 0 ≤ x) : 0 ≤ rounded x := by
  rw [eq_quotient nonneg, rounded_natCast_div _ x.pos]
  positivity

/-- Rounding keeps the order. -/
theorem rounded_mono (order : x ≤ y) : rounded x ≤ rounded y := by
  have one := unitsPerOne_pos_rat
  have above {x y : ℚ} (nonneg : 0 ≤ x) (order : x ≤ y) : rounded x ≤ rounded y := by
    have scaled := eq_quotient nonneg
    have scaled' := eq_quotient (nonneg.trans order)
    rw [scaled, scaled', div_le_div_iff_of_pos_right one] at order
    rw [scaled, scaled', rounded_natCast_div _ x.pos, rounded_natCast_div _ y.pos,
      div_le_div_iff_of_pos_right one]
    exact_mod_cast roundUnits_mono x.pos y.pos order
  rcases le_total 0 x with nonneg | nonpos
  · exact above nonneg order
  · rcases le_total 0 y with nonneg' | nonpos'
    · have left := rounded_nonneg (neg_nonneg.2 nonpos)
      rw [rounded_neg] at left
      linarith [rounded_nonneg nonneg']
    · have opposite := above (neg_nonneg.2 nonpos') (neg_le_neg order)
      rw [rounded_neg, rounded_neg] at opposite
      exact neg_le_neg_iff.1 opposite

/-- A binary64 number needs no rounding. -/
theorem rounded_of_value? (h : value? a = some x) : rounded x = x := by
  obtain ⟨negative, m, -, rfl⟩ := value?_eq_some_iff.1 h
  have kept := rounded_div negative m.units Nat.one_pos
  rwa [Nat.cast_one, div_one, roundUnits_of_granular m.granular] at kept

/-- Nor does a natural number of at most 53 binary digits, or a binary fraction of it. -/
theorem rounded_dyadic {n k : ℕ} (few : n ≤ 2 ^ 53) (range : k ≤ 1074) :
    rounded (n / 2 ^ k) = n / 2 ^ k := by
  have fraction {e : ℕ} (fine : k ≤ e) :
      ((n * 2 ^ (e - k) : ℕ) : ℚ) / (2 ^ e : ℕ) = n / 2 ^ k := by
    rw [Nat.cast_mul, Nat.cast_pow, Nat.cast_pow, Nat.cast_ofNat,
      div_eq_div_iff (by positivity) (by positivity), mul_assoc, ← pow_add,
      Nat.sub_add_cancel fine]
  have kept := rounded_natCast_div (n * 2 ^ (1074 - k)) Nat.one_pos
  rw [roundUnits_of_granular (granular_mul_two_pow few _), Nat.cast_one, div_one, unitsPerOne_eq,
    fraction range] at kept
  exact kept

theorem rounded_natCast {n : ℕ} (few : n ≤ 2 ^ 53) : rounded n = n := by
  have kept := rounded_dyadic few (Nat.zero_le 1074)
  rwa [pow_zero, div_one] at kept

theorem rounded_one : rounded 1 = 1 := by
  have kept := rounded_natCast (n := 1) Nat.one_le_two_pow
  rwa [Nat.cast_one] at kept

theorem one_le_rounded (h : 1 ≤ x) : 1 ≤ rounded x :=
  rounded_one.ge.trans (rounded_mono h)

/-- What is at most half a unit is rounded to zero. -/
theorem rounded_eq_zero (small : |x| ≤ 1 / 2 / unitsPerOne) : rounded x = 0 := by
  have half : rounded (1 / 2 / unitsPerOne) = 0 := by
    have even : roundUnits 1 2 = 0 := by decide
    have none := rounded_natCast_div 1 (Nat.two_pos)
    rwa [even, Nat.cast_one, Nat.cast_ofNat, Nat.cast_zero, zero_div] at none
  obtain ⟨below, above⟩ := abs_le.1 small
  have lower := rounded_mono below
  rw [rounded_neg, half, neg_zero] at lower
  exact le_antisymm ((rounded_mono above).trans_eq half) lower

theorem rounded_intCast {i : ℤ} (few : i.natAbs ≤ 2 ^ 53) : rounded i = i := by
  have kept := rounded_natCast few
  rcases Int.natAbs_eq i with same | opposite
  · rw [same, Int.cast_natCast]
    exact kept
  · rw [opposite, Int.cast_neg, Int.cast_natCast, rounded_neg, kept]

theorem abs_rounded_le {n : ℕ} (few : n ≤ 2 ^ 53) (h : |x| ≤ n) : |rounded x| ≤ n := by
  obtain ⟨below, above⟩ := abs_le.1 h
  have kept := rounded_natCast few
  have lower := rounded_mono below
  rw [rounded_neg, kept] at lower
  exact abs_le.2 ⟨lower, (rounded_mono above).trans_eq kept⟩

/-! ## Operations -/

theorem value?_zero (negative : Bool) : value? (zero negative) = some 0 := by
  have none : Magnitude.zero.units = 0 := rfl
  refine value?_eq_some_iff.2 ⟨negative, .zero, rfl, ?_⟩
  rw [none, signed_zero, Int.cast_zero, zero_div]

theorem value?_ofQuotient (positive : 0 < den)
    (finite : (ofQuotient negative num den).isFinite = true) :
    value? (ofQuotient negative num den) =
      some (rounded (signed negative num / den / unitsPerOne)) := by
  rw [rounded_div negative num positive]
  cases written : ofQuotient negative num den with
  | nan =>
    rw [written] at finite
    cases finite
  | infinite own =>
    rw [written] at finite
    cases finite
  | finite own m =>
    obtain ⟨rfl, count⟩ := eq_of_ofQuotient_eq_finite written
    exact value?_eq_some_iff.2 ⟨own, m, rfl, by rw [count]⟩

theorem value?_ofInt {i : ℤ} (finite : (ofInt i).isFinite = true) :
    value? (ofInt i) = some (rounded i) := by
  have one := unitsPerOne_pos_rat
  have scaled : signed (i < 0) (i.natAbs * unitsPerOne) = i * unitsPerOne := by
    rw [signed_mul_natCast, signed_natAbs]
  unfold ofInt at finite ⊢
  rw [value?_ofQuotient Nat.one_pos finite, scaled, Nat.cast_one, div_one, Int.cast_mul,
    Int.cast_natCast, mul_div_cancel_right₀ _ one.ne']

theorem value?_neg (h : value? a = some x) : value? (-a) = some (-x) := by
  obtain ⟨negative, m, rfl, rfl⟩ := value?_eq_some_iff.1 h
  change some (((signed (!negative) m.units : ℤ) : ℚ) / unitsPerOne) = _
  rw [signed_not, Int.cast_neg, neg_div]

theorem value?_add (finite : (a + b).isFinite = true) (ha : value? a = some x)
    (hb : value? b = some y) : value? (a + b) = some (rounded (x + y)) := by
  obtain ⟨s, m, rfl, rfl⟩ := value?_eq_some_iff.1 ha
  obtain ⟨t, n, rfl, rfl⟩ := value?_eq_some_iff.1 hb
  change (add (.finite s m) (.finite t n)).isFinite = true at finite
  change value? (add (.finite s m) (.finite t n)) = _
  rw [← add_div, ← Int.cast_add]
  unfold add at finite ⊢
  simp only at finite ⊢
  generalize signed s m.units + signed t n.units = sum at finite ⊢
  split_ifs at finite ⊢ with cancel
  · rw [cancel, Int.cast_zero, zero_div, rounded_zero, value?_zero]
  · rw [value?_ofQuotient Nat.one_pos finite, signed_natAbs, Nat.cast_one, div_one]

theorem value?_sub (finite : (a - b).isFinite = true) (ha : value? a = some x)
    (hb : value? b = some y) : value? (a - b) = some (rounded (x - y)) := by
  rw [sub_eq_add_neg]
  exact value?_add finite ha (value?_neg hb)

/-- A product is the exact product of the counts of units, rounded. -/
theorem exists_mul_eq (ha : value? a = some x) (hb : value? b = some y) :
    ∃ negative num, a * b = ofQuotient negative num unitsPerOne ∧
      x * y = signed negative num / unitsPerOne / unitsPerOne := by
  obtain ⟨s, m, rfl, rfl⟩ := value?_eq_some_iff.1 ha
  obtain ⟨t, n, rfl, rfl⟩ := value?_eq_some_iff.1 hb
  have product : mul (.finite s m) (.finite t n) =
      ofQuotient (s != t) (m.units * n.units) unitsPerOne := by
    unfold mul
    rfl
  refine ⟨s != t, m.units * n.units, product, ?_⟩
  rw [signed_mul, Int.cast_mul, div_mul_div_comm, div_div]

theorem value?_mul (finite : (a * b).isFinite = true) (ha : value? a = some x)
    (hb : value? b = some y) : value? (a * b) = some (rounded (x * y)) := by
  obtain ⟨negative, num, product, exact⟩ := exists_mul_eq ha hb
  rw [product] at finite ⊢
  rw [exact]
  exact value?_ofQuotient unitsPerOne_pos finite

theorem value?_div (finite : (a / b).isFinite = true) (ha : value? a = some x)
    (hb : value? b = some y) (nonzero : y ≠ 0) : value? (a / b) = some (rounded (x / y)) := by
  have one := unitsPerOne_pos_rat
  obtain ⟨s, m, rfl, rfl⟩ := value?_eq_some_iff.1 ha
  obtain ⟨t, n, rfl, rfl⟩ := value?_eq_some_iff.1 hb
  have divisor : ((signed t n.units : ℤ) : ℚ) ≠ 0 := (div_ne_zero_iff.1 nonzero).1
  have positive : 0 < n.units := by
    apply Nat.pos_of_ne_zero
    intro zero
    rw [zero, signed_zero, Int.cast_zero] at divisor
    exact divisor rfl
  have size : (n.units : ℚ) ≠ 0 := by exact_mod_cast positive.ne'
  -- The sign of the divisor moves to the dividend.
  have exchanged : signed s m.units * n.units = signed (s != t) m.units * signed t n.units := by
    rw [← signed_mul, Bool.bne_assoc, bne_self_eq_false, Bool.bne_false, signed_mul_natCast]
  have quotient : ((signed s m.units : ℤ) : ℚ) / unitsPerOne / (signed t n.units / unitsPerOne) =
      signed (s != t) (m.units * unitsPerOne) / n.units / unitsPerOne := by
    rw [div_div_div_cancel_right₀ one.ne', signed_mul_natCast, Int.cast_mul, Int.cast_natCast,
      mul_div_right_comm, mul_div_cancel_right₀ _ one.ne', div_eq_div_iff divisor size]
    exact_mod_cast exchanged
  change (div (.finite s m) (.finite t n)).isFinite = true at finite
  change value? (div (.finite s m) (.finite t n)) = _
  rw [quotient]
  unfold div at finite ⊢
  simp only [if_neg positive.ne'] at finite ⊢
  exact value?_ofQuotient positive finite

/-! ## Integer parts -/

/-- The integer part of a number, toward zero. -/
def truncated (x : ℚ) : ℤ := if x < 0 then ⌈x⌉ else ⌊x⌋

theorem truncated_of_nonneg (h : 0 ≤ x) : truncated x = ⌊x⌋ := if_neg (not_lt.2 h)

theorem truncated_neg (x : ℚ) : truncated (-x) = -truncated x := by
  unfold truncated
  rcases lt_trichotomy x 0 with below | rfl | above
  · rw [if_neg (not_lt.2 (neg_nonneg.2 below.le)), if_pos below, Int.floor_neg]
  · rw [neg_zero, if_neg (lt_irrefl 0), Int.floor_zero, neg_zero]
  · rw [if_pos (neg_lt_zero.2 above), if_neg (not_lt.2 above.le), Int.ceil_neg]

theorem truncated_div (i : ℤ) (positive : 0 < den) : truncated (i / den) = i.tdiv den := by
  have size : (0 : ℚ) < den := by exact_mod_cast positive
  have above {i : ℤ} (nonneg : 0 ≤ i) : truncated (i / den) = i.tdiv den := by
    have nonneg' : (0 : ℚ) ≤ i / den := div_nonneg (by exact_mod_cast nonneg) size.le
    rw [truncated_of_nonneg nonneg', Rat.floor_intCast_div_natCast,
      Int.tdiv_eq_ediv_of_nonneg nonneg]
  rcases le_total 0 i with nonneg | nonpos
  · exact above nonneg
  · have opposite := above (Int.neg_nonneg.2 nonpos)
    rw [Int.cast_neg, neg_div, truncated_neg, Int.neg_tdiv] at opposite
    exact neg_inj.1 opposite

theorem truncate?_of_value? (h : value? a = some x) : truncate? a = some (truncated x) := by
  obtain ⟨negative, m, rfl, rfl⟩ := value?_eq_some_iff.1 h
  rw [truncated_div _ unitsPerOne_pos]
  rfl

/-! ## Bounds -/

theorem AtMost.abs_le {k : ℕ} (h : AtMost k a) (value : value? a = some x) : |x| ≤ 2 ^ k := by
  have one := unitsPerOne_pos_rat
  obtain ⟨negative, m, rfl, bound⟩ := h
  obtain ⟨own, size, written, rfl⟩ := value?_eq_some_iff.1 value
  cases written
  have bound' : (m.units : ℚ) ≤ unitsPerOne * 2 ^ k := by exact_mod_cast bound
  rw [abs_div, abs_of_pos one, div_le_iff₀ one, abs_signed, mul_comm]
  exact bound'

theorem atMost_of_abs_le {k : ℕ} (value : value? a = some x) (bound : |x| ≤ 2 ^ k) :
    AtMost k a := by
  have one := unitsPerOne_pos_rat
  obtain ⟨negative, m, rfl, rfl⟩ := value?_eq_some_iff.1 value
  refine ⟨negative, m, rfl, ?_⟩
  rw [abs_div, abs_of_pos one, div_le_iff₀ one, abs_signed, mul_comm] at bound
  exact_mod_cast bound

theorem AtLeastOne.one_le_abs (h : AtLeastOne a) (value : value? a = some x) : 1 ≤ |x| := by
  have one := unitsPerOne_pos_rat
  obtain ⟨negative, m, rfl, bound⟩ := h
  obtain ⟨own, size, written, rfl⟩ := value?_eq_some_iff.1 value
  cases written
  rw [abs_div, abs_of_pos one, one_le_div one, abs_signed]
  exact_mod_cast bound

/-- Small natural numbers are written as they are. -/
theorem value?_ofNat {n : ℕ} (few : n ≤ 2 ^ 53) :
    value? (OfNat.ofNat n : Binary64) = some (n : ℚ) := by
  have finite := (atMost_ofNat (k := 53) (by decide) few).isFinite
  change value? (ofInt n) = some (n : ℚ)
  change (ofInt n).isFinite = true at finite
  rw [value?_ofInt finite, Int.cast_natCast, rounded_natCast few]

end

end Binary64

end BestTimes
