import BestTimes.Decimal.Numeral
import BestTimes.Proofs.Binary64.Value
import BestTimes.Proofs.Decimal.Notation
import BestTimes.Proofs.Decimal.Rounding
set_option autoImplicit false

/-!
# Plain numerals are rounded once

A plain numeral is an optional sign and digits, with at most one point among them or at one of
their ends.  It is read exactly (`ofChars?_of_isPlain`), and then rounded once to binary64
(`value?_toBinary64`): the cut-offs for the exponents of very small and very large decimals make no
difference, since what is cut off below is rounded to zero anyway.
-/

namespace BestTimes

namespace Decimal

/-- Whether digits, with a point or without one, denote a number. -/
def IsPlainSize (text : List Char) (x : ℚ) : Prop :=
  ∃ whole fraction, AllDigits whole ∧ AllDigits fraction ∧ ¬ (whole = [] ∧ fraction = []) ∧
    (text = whole ++ '.' :: fraction ∨ text = whole ∧ fraction = []) ∧
    pointedValue whole fraction = x

/-- Whether a text is a plain numeral of a number: an optional sign in front of digits, with a
point or without one. -/
def IsPlain (text : List Char) (x : ℚ) : Prop :=
  IsPlainSize text x ∨ (∃ size, text = '+' :: size ∧ IsPlainSize size x) ∨
    ∃ size, text = '-' :: size ∧ IsPlainSize size (-x)

/-- Whether a number has at most a count of significant digits. -/
def FewDigits (digits : ℕ) (x : ℚ) : Prop := ∃ (c : ℕ) (e : ℤ), c < 10 ^ digits ∧ |x| = c * 10 ^ e

theorem FewDigits.neg {digits : ℕ} {x : ℚ} (h : FewDigits digits x) : FewDigits digits (-x) := by
  unfold FewDigits at h ⊢
  rwa [abs_neg]

theorem isPlain_of_point {whole fraction : List Char} (front : AllDigits whole)
    (back : AllDigits fraction) (some : whole ≠ []) :
    IsPlain (whole ++ '.' :: fraction) (pointedValue whole fraction) :=
  .inl ⟨whole, fraction, front, back, fun none => some none.1, .inl rfl, rfl⟩

theorem isPlain_of_digits {digits : List Char} (all : AllDigits digits) (some : digits ≠ []) :
    IsPlain digits (digitsValue digits) := by
  refine .inl ⟨digits, [], all, fun c m => (List.not_mem_nil m).elim, fun none => some none.1,
    .inr ⟨rfl, rfl⟩, ?_⟩
  rw [pointedValue_eq_div, List.append_nil, List.length_nil, pow_zero, div_one]

end Decimal

namespace Numeral

open Decimal

/-- The number that a numeral denotes, if it is one. -/
def value? : Numeral → Option ℚ
  | .decimal negative d => some (if negative then -d.value else d.value)
  | _ => none

/-! ## Reading -/

variable {text : List Char} {x : ℚ}

theorem decimal?_of_isPlainSize (h : IsPlainSize text x) :
    ∃ d, decimal? text = some d ∧ d.value = x := by
  obtain ⟨whole, fraction, front, back, some, form, rfl⟩ := h
  have split : text.takeWhile Char.isDigit = whole ∧
      splitFraction (text.dropWhile Char.isDigit) = (fraction, []) := by
    have all : whole.takeWhile Char.isDigit = whole := List.takeWhile_eq_self_iff.2 front
    have none : whole.dropWhile Char.isDigit = [] := List.dropWhile_eq_nil_iff.2 front
    rcases form with rfl | ⟨rfl, rfl⟩
    · rw [List.takeWhile_append_of_pos front, List.dropWhile_append_of_pos front,
        List.takeWhile_cons_of_neg (by decide), List.dropWhile_cons_of_neg (by decide),
        List.append_nil]
      refine ⟨rfl, ?_⟩
      unfold splitFraction
      simp only [List.takeWhile_eq_self_iff.2 back, List.dropWhile_eq_nil_iff.2 back]
    · rw [all, none]
      exact ⟨rfl, rfl⟩
  refine ⟨⟨Nat.ofDigitChars 10 (whole ++ fraction) 0, -fraction.length⟩, ?_, ?_⟩
  · unfold decimal?
    simp only [split.1, split.2, if_neg some]
    unfold exponent?
    rw [Option.map_some, zero_sub]
  · rw [pointedValue_eq_div]
    unfold Decimal.value
    rw [zpow_neg, zpow_natCast, ← div_eq_mul_inv]
    rfl

/-- There is no sign in front of digits. -/
theorem splitSign_of_isPlainSize (h : IsPlainSize text x) : splitSign text = (false, text) := by
  obtain ⟨whole, fraction, front, -, some, form, -⟩ := h
  have unsigned {c : Char} (rest : List Char) (minus : c ≠ '-') (plus : c ≠ '+') :
      splitSign (c :: rest) = (false, c :: rest) := by
    unfold splitSign
    split
    · rename_i same
      cases same
      exact absurd rfl minus
    · rename_i same
      cases same
      exact absurd rfl plus
    · rfl
  cases whole with
  | nil =>
    rcases form with rfl | ⟨rfl, rfl⟩
    · exact unsigned fraction (by decide) (by decide)
    · exact absurd ⟨rfl, rfl⟩ some
  | cons first others =>
    have digit := front first List.mem_cons_self
    have minus : first ≠ '-' := by
      rintro rfl
      cases digit
    have plus : first ≠ '+' := by
      rintro rfl
      cases digit
    rcases form with rfl | ⟨rfl, rfl⟩
    · exact unsigned _ minus plus
    · exact unsigned _ minus plus

/-- A plain numeral is read exactly. -/
theorem ofChars?_of_isPlain (h : IsPlain text x) :
    ∃ numeral, ofChars? text = some numeral ∧ numeral.value? = some x := by
  unfold ofChars?
  rcases h with own | ⟨size, rfl, own⟩ | ⟨size, rfl, own⟩
  · obtain ⟨d, read, rfl⟩ := decimal?_of_isPlainSize own
    rw [splitSign_of_isPlainSize own]
    simp only [read]
    exact ⟨.decimal false d, rfl, rfl⟩
  · obtain ⟨d, read, rfl⟩ := decimal?_of_isPlainSize own
    unfold splitSign
    simp only [read]
    exact ⟨.decimal false d, rfl, rfl⟩
  · obtain ⟨d, read, value⟩ := decimal?_of_isPlainSize own
    unfold splitSign
    simp only [read]
    refine ⟨.decimal true d, rfl, ?_⟩
    change some (-d.value) = some x
    rw [value, neg_neg]

/-! ## Rounding -/

open Binary64

/-- Below the cut-off there is less than half a unit. -/
theorem pow_ten_le_half_unit {e : ℤ} (h : e < -330) : (10 : ℚ) ^ e ≤ 1 / 2 / unitsPerOne := by
  have powers : (2 : ℚ) ^ (1074 + 1) ≤ 10 ^ 330 := by
    rw [show 1074 + 1 = 215 * 5 from rfl, show 330 = 66 * 5 from rfl, pow_mul, pow_mul]
    gcongr
    norm_num
  have units := congrArg (Nat.cast : ℕ → ℚ) (unitsPerOne_mul_two_pow 1)
  rw [Nat.cast_mul, Nat.cast_pow, Nat.cast_pow, Nat.cast_ofNat, pow_one, mul_comm] at units
  rw [div_div, one_div, units]
  calc (10 : ℚ) ^ e ≤ 10 ^ (-330 : ℤ) := zpow_le_zpow_right₀ (by norm_num) (by omega)
    _ = (10 ^ 330)⁻¹ := zpow_neg _ _
    _ ≤ (2 ^ (1074 + 1))⁻¹ := inv_anti₀ (by positivity) powers

/-- A decimal is between the powers of ten of its order. -/
theorem value_bounds (d : Decimal) :
    d.value < 10 ^ (digitCount d.coefficient + d.exponent) ∧
      (d.coefficient ≠ 0 → 10 ^ (digitCount d.coefficient + d.exponent - 1) ≤ d.value) := by
  have scale : (0 : ℚ) < 10 ^ d.exponent := by positivity
  unfold Decimal.value
  constructor
  · have limit : (d.coefficient : ℚ) < 10 ^ digitCount d.coefficient := by
      exact_mod_cast lt_pow_digitCount d.coefficient
    rw [zpow_add₀ (by norm_num), zpow_natCast]
    exact mul_lt_mul_of_pos_right limit scale
  · intro nonzero
    obtain ⟨k, count⟩ := Nat.exists_eq_add_one.2 (digitCount_pos d.coefficient)
    have least : (10 : ℚ) ^ k ≤ d.coefficient := by
      exact_mod_cast pow_le_of_digitCount count (Nat.pos_of_ne_zero nonzero)
    rw [count, Nat.cast_succ, add_right_comm, add_sub_cancel_right, zpow_add₀ (by norm_num),
      zpow_natCast]
    exact mul_le_mul_of_nonneg_right least scale.le

/-- A decimal of moderate size, rounded without a cut-off. -/
theorem value?_ofQuotient_num (negative : Bool) {d : Decimal} (few : d.value ≤ 2 ^ 53) :
    Binary64.value? (ofQuotient negative (d.num * unitsPerOne) d.den) =
      some (rounded (if negative then -d.value else d.value)) := by
  have one := unitsPerOne_pos_rat
  have positive : (0 : ℚ) < d.den := by exact_mod_cast d.den_pos
  rw [value_eq_num_div_den] at few ⊢
  have bound : d.num ≤ d.den * 2 ^ 53 := by
    rw [div_le_iff₀ positive, mul_comm] at few
    exact_mod_cast few
  have finite : (ofQuotient negative (d.num * unitsPerOne) d.den).isFinite = true := by
    refine (atMost_ofQuotient negative d.den_pos (k := 53) (by decide) ?_).isFinite
    rw [Nat.mul_left_comm, Nat.mul_comm]
    exact Nat.mul_le_mul_left _ bound
  rw [value?_ofQuotient d.den_pos finite, signed_mul_natCast, Int.cast_mul, Int.cast_natCast,
    div_right_comm, mul_div_cancel_right₀ _ one.ne']
  cases negative with
  | false => rfl
  | true =>
    have opposite : ((signed true d.num : ℤ) : ℚ) = -d.num := by
      unfold signed
      rw [if_pos rfl, Int.cast_neg, Int.cast_natCast]
    rw [opposite, neg_div, if_pos rfl]

/-- **A numeral is rounded once**, also where it is below the cut-off for small ones. -/
theorem value?_toBinary64 {numeral : Numeral} (h : numeral.value? = some x) (few : |x| ≤ 2 ^ 53) :
    numeral.toBinary64.value? = some (rounded x) := by
  cases numeral with
  | notANumber => cases h
  | infinity negative => cases h
  | decimal negative d =>
    obtain rfl := Option.some.inj h
    have nonneg : 0 ≤ d.value := by
      unfold Decimal.value
      positivity
    have size : |if negative then -d.value else d.value| = d.value := by
      cases negative with
      | false => exact abs_of_nonneg nonneg
      | true => exact (abs_neg _).trans (abs_of_nonneg nonneg)
    obtain ⟨limit, least⟩ := value_bounds d
    unfold toBinary64 round
    simp only
    by_cases small : d.coefficient = 0 ∨ digitCount d.coefficient + d.exponent < -330
    · rw [if_pos small]
      have little : d.value ≤ 1 / 2 / unitsPerOne := by
        rcases small with zero | less
        · have none : d.value = 0 := by
            unfold Decimal.value
            rw [zero, Nat.cast_zero, zero_mul]
          rw [none]
          exact div_nonneg (by norm_num) unitsPerOne_pos_rat.le
        · exact limit.le.trans (pow_ten_le_half_unit less)
      rw [rounded_eq_zero (size.trans_le little), value?_zero]
    · rw [if_neg small]
      obtain ⟨some, -⟩ := not_or.1 small
      have order : ¬ 310 < digitCount d.coefficient + d.exponent := by
        intro large
        rw [size] at few
        have beyond : (10 : ℚ) ^ (310 : ℤ) ≤ d.value :=
          (zpow_le_zpow_right₀ (by norm_num) (by omega)).trans (least some)
        have more : (2 : ℚ) ^ 53 < 10 ^ (16 : ℤ) := by norm_num
        have less : (10 : ℚ) ^ (16 : ℤ) ≤ 10 ^ (310 : ℤ) :=
          zpow_le_zpow_right₀ (by norm_num) (by norm_num)
        exact absurd (beyond.trans few) (not_le.2 (more.trans_le less))
      rw [if_neg order]
      exact value?_ofQuotient_num negative (size.symm.trans_le few)

end Numeral

end BestTimes
