import BestTimes.Proofs.Binary64.Accuracy
import BestTimes.Proofs.Comparison.Finite
import BestTimes.Proofs.Decimal.Significant
import BestTimes.Reading
set_option autoImplicit false

/-!
# Ratios and percentages are accurate

A ratio takes up to five roundings: each time is converted, and scaled if both are not below one
microsecond, and then one is divided by the other (`near_quotient`).  A percentage takes two
more from the ratio (`near_change`).  None of these numbers is among the least ones, where
rounding is not a factor: times are whole numbers, and a difference of binary64 numbers is a
whole number of units.  So both are accurate, for all times that there are (`compare_accurate`).
-/

namespace BestTimes

open Binary64

theorem Nanos.value?_toBinary64 (t : Nanos) : t.toBinary64.value? = some (rounded t.toInt) :=
  value?_ofInt t.atMost_toBinary64.isFinite

/-- A time takes one rounding to be converted. -/
theorem Binary64.near_rounded_intCast (t : ℤ) : Near 1 (rounded t) t :=
  near_rounded (.inl (inUnits_intCast t))

namespace Comparison

/-! ## Ratios -/

variable {a b : Nanos}

/-- A quotient of numbers of moderate size is not among the least numbers. -/
theorem ample_div {p q : ℚ} (above : p = 0 ∨ 1 ≤ |p|) (nonzero : q ≠ 0) (below : |q| ≤ 2 ^ 63) :
    Ample (p / q) := by
  rcases above with rfl | above
  · rw [zero_div, ← Int.cast_zero]
    exact .inl (inUnits_intCast 0)
  · have size : 0 < |q| := abs_pos.2 nonzero
    apply ample_of_one_le (k := 63) (by decide)
    rw [abs_div, div_mul_eq_mul_div, one_le_div size]
    calc |q| ≤ 2 ^ 63 := below
      _ ≤ |p| * 2 ^ 63 := le_mul_of_one_le_left (by positivity) above

/-- A time other than zero is at least one, also when it is converted. -/
theorem one_le_abs_rounded (nonzero : a.toInt ≠ 0) : 1 ≤ |rounded a.toInt| :=
  (atLeastOne_ofInt a.atMost_toBinary64 nonzero).one_le_abs a.value?_toBinary64

theorem value?_one : value? 1 = some 1 := by
  have value := value?_ofNat (n := 1) (by decide)
  rwa [Nat.cast_one] at value

theorem value?_thousand : value? 1000 = some 1000 := by
  have value := value?_ofNat (n := 1000) (by decide)
  rwa [Nat.cast_ofNat] at value

/-- The value of a ratio is the rounded quotient of the rounded times; if neither is below a
thousand, they are divided by a thousand first, and rounded again. -/
theorem value?_quotient (a : Nanos) (nonzero : b.toInt ≠ 0) :
    (quotient a b).value? =
      some (if 1000 ≤ rounded a.toInt ∧ 1000 ≤ rounded b.toInt then
        rounded (rounded (rounded a.toInt / 1000) / rounded (rounded b.toInt / 1000))
      else rounded (rounded a.toInt / rounded b.toInt)) := by
  have finite := (atMost_quotient a b nonzero).isFinite
  have above := a.value?_toBinary64
  have below := b.value?_toBinary64
  have one := one_le_abs_rounded nonzero
  unfold quotient at finite ⊢
  simp only [Bool.and_eq_true, le_iff_value value?_thousand above,
    le_iff_value value?_thousand below] at finite ⊢
  split_ifs at finite ⊢ with scaled
  · have thousand : AtMost 10 1000 := atMost_ofNat (by decide) (by decide)
    have divisor : AtLeastOne 1000 := atLeastOne_ofInt thousand (by decide)
    have part (t : Nanos) : (t.toBinary64 / 1000).value? = some (rounded (rounded t.toInt / 1000)) :=
      value?_div (t.atMost_toBinary64.div divisor (by decide)).isFinite t.value?_toBinary64
        value?_thousand (by norm_num)
    refine value?_div finite (part a) (part b) ?_
    have least := one_le_rounded ((one_le_div (by norm_num)).2 scaled.2)
    exact (zero_lt_one.trans_le least).ne'
  · refine value?_div finite above below ?_
    intro zero
    rw [zero, abs_zero] at one
    exact absurd one (by norm_num)

/-- A ratio takes three roundings, and those of the two times. -/
theorem near_quotient {i : ℕ} (nonzero : b.toInt ≠ 0) (above : Near i (rounded a.toInt) a.toInt)
    (below : Near i (rounded b.toInt) b.toInt) :
    ∃ v, (quotient a b).value? = some v ∧ Near (i + i + 3) v (a.toInt / b.toInt) := by
  refine ⟨_, value?_quotient a nonzero, ?_⟩
  have most := b.atMost_toBinary64.abs_le b.value?_toBinary64
  split_ifs with scaled
  · have part {t : ℤ} (h : Near i (rounded t) t) (large : 1000 ≤ rounded t) :
        Near (1 + i) (rounded (rounded t / 1000)) (t / 1000) ∧
          1 ≤ rounded (rounded t / 1000) ∧ |rounded (rounded t / 1000)| ≤ |rounded t| := by
      have least : 1 ≤ rounded t / 1000 := (one_le_div (by norm_num)).2 large
      have ample : Ample (rounded t / 1000) :=
        ample_of_one_le (k := 0) (by decide) (by rwa [pow_zero, mul_one, abs_of_pos (by linarith)])
      have once := near_rounded ample
      refine ⟨once.trans (h.div_right 1000), one_le_rounded least, ?_⟩
      have size := once.abs_le_mul
      rw [abs_div, pow_one] at size
      have positive := abs_nonneg (rounded t)
      unfold roundingFactor at size
      norm_num at size
      linarith
    obtain ⟨nearA, leastA, -⟩ := part above scaled.1
    obtain ⟨nearB, leastB, mostB⟩ := part below scaled.2
    have quotients := nearA.div nearB
    rw [div_div_div_cancel_right₀ (by norm_num)] at quotients
    have ample := ample_div (.inr (leastA.trans (le_abs_self _))) (zero_lt_one.trans_le leastB).ne'
      (mostB.trans most)
    exact ((near_rounded ample).trans quotients).mono (by omega)
  · have ample : Ample (rounded a.toInt / rounded b.toInt) := by
      refine ample_div ?_ ?_ most
      · by_cases zero : a.toInt = 0
        · left
          rw [zero, Int.cast_zero, rounded_zero]
        · exact .inr (one_le_abs_rounded zero)
      · exact abs_pos.1 (zero_lt_one.trans_le (one_le_abs_rounded nonzero))
    exact ((near_rounded ample).trans (above.div below)).mono (by omega)

/-- Equal times are divided into exactly one. -/
theorem value?_quotient_self (nonzero : b.toInt ≠ 0) : (quotient b b).value? = some 1 := by
  rw [value?_quotient b nonzero]
  split_ifs with scaled
  · have least := one_le_rounded ((one_le_div (by norm_num)).2 scaled.2)
    rw [div_self (zero_lt_one.trans_le least).ne', rounded_one]
  · rw [div_self (abs_pos.1 (zero_lt_one.trans_le (one_le_abs_rounded nonzero))),
      rounded_one]

/-! ## Percentages -/

variable {ratio : Binary64} {v : ℚ}

theorem value?_change (size : ratio.AtMost 63) (value : ratio.value? = some v) :
    (change ratio).value? = some (rounded (rounded (v - 1) * 100)) := by
  have percent : value? 100 = some 100 := by
    have value := value?_ofNat (n := 100) (by decide)
    rwa [Nat.cast_ofNat] at value
  have one : AtMost 63 1 := atMost_ofNat (by decide) (by decide)
  have hundred : AtMost 7 100 := atMost_ofNat (by decide) (by decide)
  have part {x y : Binary64} {p q : ℚ} (hx : x.AtMost 63) (hy : y.AtMost 63)
      (vx : x.value? = some p) (vy : y.value? = some q) :
      ((x - y) * 100).value? = some (rounded (rounded (p - q) * 100)) :=
    value?_mul ((hx.sub hy (by decide)).mul hundred (by decide)).isFinite
      (value?_sub (hx.sub hy (by decide)).isFinite vx vy) percent
  unfold change
  split_ifs
  · rw [value?_neg (part one size value?_one value), ← rounded_neg, ← neg_mul, ← rounded_neg, neg_sub]
  · exact part size one value value?_one

/-- A percentage takes two roundings more than its ratio. -/
theorem near_change (h : InUnits v) : Near 2 (rounded (rounded (v - 1) * 100)) (100 * (v - 1)) := by
  have whole : InUnits (v - 1) := by
    have one := inUnits_intCast 1
    rw [Int.cast_one] at one
    exact h.sub one
  have scaled : InUnits (rounded (v - 1) * 100) := by
    have hundred := (inUnits_rounded (v - 1)).mul_natCast 100
    rwa [Nat.cast_ofNat] at hundred
  rw [mul_comm (100 : ℚ)]
  change Near (1 + 1) _ _
  exact (near_rounded (.inl scaled)).trans ((near_rounded (.inl whole)).mul_right 100)

/-- The values of a comparison: a ratio that is near the quotient of the times, and a percentage
that is near that of the ratio. -/
theorem exists_values {i : ℕ} (numerator denominator : String) (nonzero : b.toInt ≠ 0)
    (above : Near i (rounded a.toInt) a.toInt) (below : Near i (rounded b.toInt) b.toInt) :
    ∃ v p, (ofNanos numerator denominator a b).ratio.value? = some v ∧
      (ofNanos numerator denominator a b).percent.value? = some p ∧
      Near (i + i + 3) v (a.toInt / b.toInt) ∧ Near 2 p (100 * (v - 1)) := by
  obtain ⟨v, value, near⟩ := near_quotient nonzero above below
  have inUnits : InUnits v := rounded_of_value? value ▸ inUnits_rounded v
  dsimp only [ofNanos]
  exact ⟨v, _, value, value?_change (atMost_quotient a b nonzero) value, near, near_change inUnits⟩

end Comparison

namespace Registry

open Comparison

theorem compare_of_get? {r : Registry} {a b : String} {s t : Timing} (above : r.get? a = some s)
    (below : r.get? b = some t) (nonzero : t.nanos.toInt ≠ 0) :
    r.compare a b = .ok (.ofNanos a b s.nanos t.nanos) := by
  unfold compare
  rw [require_of_some above, require_of_some below]
  simp only [if_neg nonzero]

/-! ## Lines without words -/

/-- A text that ends in a character which is not in the back of another one is in its front. -/
theorem infix_of_notMem (word : List Char) {front back : List Char} {last : Char}
    (h : word ++ [last] <:+: front ++ back) (absent : last ∉ back) : word ++ [last] <:+: front := by
  obtain ⟨before, after, split⟩ := h
  rcases List.append_eq_append_iff.1 split with ⟨rest, whole, -⟩ | ⟨rest, whole, later⟩
  · exact ⟨before, rest, whole.symm⟩
  · rcases List.eq_nil_or_concat rest with rfl | ⟨begun, final, rfl⟩
    · rw [List.append_nil] at whole
      exact ⟨before, [], by rw [List.append_nil, whole]⟩
    · rw [List.concat_eq_append] at whole later
      rw [← List.append_assoc, ← List.append_assoc] at whole
      have same := (List.append_inj' whole rfl).2
      cases same
      refine absurd ?_ absent
      rw [later]
      simp

/-- The numbers of a line are behind its names, so a word in the line is one in the names. -/
theorem words_of_text {c : Comparison} (ratio : c.ratio.isFinite = true)
    (percent : c.percent.isFinite = true) {word : String} (known : word ∈ Decimal.words)
    (shown : word.toList <:+: c.text.toList) :
    word.toList <:+: (c.numerator ++ " / " ++ c.denominator ++ " = ").toList := by
  have split : c.text.toList = (c.numerator ++ " / " ++ c.denominator ++ " = ").toList ++
      ((Decimal.significant printedDigits c.ratio).toList ++
        (" (".toList ++ ((Decimal.significant printedDigits c.percent).toList ++ "%)".toList))) := by
    unfold Comparison.text
    simp only [String.toList_append, List.append_assoc]
  -- What ends a word is not a character of the numbers.
  have absent {last : Char} (digit : last.isDigit = false) (mark : last ∉ ['.', '-', '+', 'e'])
      (other : last ∉ " (".toList ++ "%)".toList) :
      last ∉ (Decimal.significant printedDigits c.ratio).toList ++
        (" (".toList ++ ((Decimal.significant printedDigits c.percent).toList ++ "%)".toList)) := by
    rw [List.mem_append, not_or] at other
    have plain {x : Binary64} (finite : x.isFinite = true) :
        last ∉ (Decimal.significant printedDigits x).toList :=
      (Decimal.wordless_significant printedDigits finite).not_mem digit mark
    simp only [List.mem_append, not_or]
    exact ⟨plain ratio, other.1, plain percent, other.2⟩
  rw [split] at shown
  unfold Decimal.words at known
  simp only [List.mem_cons, List.not_mem_nil, or_false] at known
  rcases known with rfl | rfl | rfl
  · exact infix_of_notMem ['i', 'n'] shown (absent rfl (by decide) (by decide))
  · exact infix_of_notMem ['-', 'i', 'n'] shown (absent rfl (by decide) (by decide))
  · exact infix_of_notMem ['n', 'a'] shown (absent rfl (by decide) (by decide))

/-! ## Main result -/

/-- **Ratios are accurate and finite**, for all times that there are.  The ratio of any two
benchmarks, of which the second does not take no time, is off by at most one part in `2 ^ 50`
from the exact quotient of their times, and the percentage by at most one part in `2 ^ 51` from
what the ratio says exactly; both are written as numbers.  So no line that is reported shows
a word for what is not a finite number. -/
theorem compare_accurate (r : Registry) :
    (∀ (a b : String) (s t : Timing), r.get? a = some s → r.get? b = some t →
      t.nanos.toInt ≠ 0 →
      ∃ c v p, r.compare a b = .ok c ∧ c.ratio.value? = some v ∧ c.percent.value? = some p ∧
        |v - s.nanos.toInt / t.nanos.toInt| ≤
          1 / 2 ^ 50 * |(s.nanos.toInt / t.nanos.toInt : ℚ)| ∧
        |p - 100 * (v - 1)| ≤ 1 / 2 ^ 51 * |100 * (v - 1)| ∧
        ∃ ratio percent, c.text = a ++ " / " ++ b ++ " = " ++ ratio ++ " (" ++ percent ++ "%)" ∧
          Decimal.Wordless ratio.toList ∧ Decimal.Wordless percent.toList) ∧
      ∀ comparisons, r.compareAll.outcome = .ok comparisons → ∀ c ∈ comparisons,
        ∀ word ∈ Decimal.words, ¬ word.toList <:+: c.text.toList := by
  constructor
  · intro a b s t above below nonzero
    have converted (i : ℤ) : Near 1 (rounded i) i := near_rounded (.inl (inUnits_intCast i))
    obtain ⟨v, p, ratio, percent, near, near'⟩ :=
      exists_values a b nonzero (converted s.nanos.toInt) (converted t.nanos.toInt)
    have error : |v - s.nanos.toInt / t.nanos.toInt| ≤
        1 / 2 ^ 50 * |(s.nanos.toInt / t.nanos.toInt : ℚ)| := by
      refine near.abs_sub_le.trans (mul_le_mul_of_nonneg_right ?_ (abs_nonneg _))
      unfold roundingFactor
      norm_num
    have error' : |p - 100 * (v - 1)| ≤ 1 / 2 ^ 51 * |100 * (v - 1)| := by
      refine near'.abs_sub_le.trans (mul_le_mul_of_nonneg_right ?_ (abs_nonneg _))
      unfold roundingFactor
      norm_num
    refine ⟨_, v, p, compare_of_get? above below nonzero, ratio, percent, error, error', _, _, rfl,
      ?_, ?_⟩
    · exact Decimal.wordless_significant _ (isFinite_of_value? ratio)
    · exact Decimal.wordless_significant _ (isFinite_of_value? percent)
  · intro comparisons compared c m word known shown
    obtain ⟨pair, listed, own⟩ := exists_of_mem_mapM (comparePairs_of_compareAll compared) m
    obtain ⟨a, b, nonzero, rfl⟩ := exists_ofNanos_of_compare own
    obtain ⟨ratio, percent⟩ := isFinite_ofNanos pair.1 pair.2 a nonzero
    have names := words_of_text ratio percent known shown
    have plain : ∀ pair ∈ comparedPairs, ∀ word ∈ Decimal.words,
        ¬ word.toList <:+: (pair.1 ++ " / " ++ pair.2 ++ " = ").toList := by
      decide +kernel
    exact plain pair listed word known names

/-- The least time over the greatest, and a report with the greatest time that work can be added
to. -/
theorem compare_accurate_of_extremes :
    let r := (ofText ("manual time: [1 ns -1e30 ms 1 ns]\nnonbox time: [1 ns 1e30 ms 1 ns]\n" ++
      "manual+syscalls time: [1 ns 9223372036852215000 ns 1 ns]\n" ++
      "nonbox+syscalls time: [1 ns 1001 ns 1 ns]\nbox+syscalls time: [1 ns -1 ns 1 ns]\n" ++
      "box+rc+syscalls time: [1 ns 999 ns 1 ns]\n" ++
      "box+arc+syscalls time: [1 ns 1 ms 1 ns]\n")).registry
    let least : Timing := ⟨⟨-9223372036854775808, by decide, by decide⟩,
      "manual time: [1 ns -1e30 ms 1 ns]"⟩
    let greatest : Timing := ⟨⟨9223372036854775807, by decide, by decide⟩,
      "nonbox time: [1 ns 1e30 ms 1 ns]"⟩
    r.get? "manual" = some least ∧ r.get? "nonbox" = some greatest ∧
      (∃ c v p, r.compare "manual" "nonbox" = .ok c ∧
        c.ratio.value? = some v ∧ c.percent.value? = some p ∧
        |v - least.nanos.toInt / greatest.nanos.toInt| ≤
          1 / 2 ^ 50 * |(least.nanos.toInt / greatest.nanos.toInt : ℚ)| ∧
        |p - 100 * (v - 1)| ≤ 1 / 2 ^ 51 * |100 * (v - 1)|) ∧
      ∃ comparisons, r.compareAll.outcome = .ok comparisons ∧ ∀ c ∈ comparisons,
        ∀ word ∈ Decimal.words, ¬ word.toList <:+: c.text.toList := by
  intro r least greatest
  have ⟨above, below, compared⟩ : r.get? "manual" = some least ∧
      r.get? "nonbox" = some greatest ∧ r.compareAll.outcome.isOk = true := by
    decide +kernel
  obtain ⟨accurate, wordless⟩ := compare_accurate r
  obtain ⟨c, v, p, own, ratio, percent, error, error', -⟩ :=
    accurate "manual" "nonbox" least greatest above below (by decide)
  refine ⟨above, below, ⟨c, v, p, own, ratio, percent, error, error'⟩, ?_⟩
  cases ends : r.compareAll.outcome with
  | ok comparisons => exact ⟨comparisons, rfl, wordless comparisons ends⟩
  | error fault =>
    rw [ends] at compared
    cases compared

end Registry

end BestTimes
