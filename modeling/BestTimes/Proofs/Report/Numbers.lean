import BestTimes.Proofs.Comparison.Accuracy
import BestTimes.Proofs.Decimal.Grammar
import BestTimes.Proofs.Report.Text
import BestTimes.Reading
set_option autoImplicit false

/-!
# The numbers of the text report

A ratio and a percentage are finite, so they are printed as zero or as a numeral
(`Decimal.isNumeral_significant`).  What is left to ask is how a zero is printed, which keeps
its sign.  A percentage of zero comes from a ratio of exactly one, and is a difference of equal
numbers, which has no sign (`change_of_one`).  A ratio of zero comes from no time above, and has
the sign of the time below (`quotient_of_zero`): a benchmark that takes no time over one with a
negative time is printed as `-0.0`.

`printed_numbers` is the whole of it, for every text report that is written to its end.
-/

namespace BestTimes

open Binary64

/-! ## Signs -/

namespace Binary64

/-- No units are no number but zero, of either sign. -/
theorem ofQuotient_zero (negative : Bool) {den : ℕ} (positive : 0 < den) :
    ofQuotient negative 0 den = zero negative := by
  have none := roundUnits_zero positive
  have less : roundUnits 0 den < unitLimit := none.trans_lt unitLimit_pos
  unfold ofQuotient zero
  rw [dif_pos less]
  exact congrArg _ (Magnitude.ext_units none)

/-- Zero over a number is zero, with the sign of the number. -/
theorem zero_div_finite (negative : Bool) {m : Magnitude} (units : m.units ≠ 0) :
    zero false / .finite negative m = zero negative := by
  have none : Magnitude.zero.units = 0 := rfl
  change div (.finite false .zero) (.finite negative m) = _
  unfold div
  simp only [if_neg units]
  rw [none, Nat.zero_mul, ofQuotient_zero _ (Nat.pos_of_ne_zero units), Bool.false_bne]

variable {a b : Binary64} {x : ℚ}

/-- A number other than zero has the sign of its value. -/
theorem exists_finite_of_value? (value : a.value? = some x) (nonzero : x ≠ 0) :
    ∃ m, a = .finite (decide (x < 0)) m ∧ m.units ≠ 0 := by
  obtain ⟨negative, m, rfl, rfl⟩ := value?_eq_some_iff.1 value
  have one := unitsPerOne_pos_rat
  have some : m.units ≠ 0 := by
    intro none
    rw [none, signed_zero, Int.cast_zero, zero_div] at nonzero
    exact nonzero rfl
  have size : (0 : ℚ) < m.units := by exact_mod_cast Nat.pos_of_ne_zero some
  refine ⟨m, congrArg (finite · m) ?_, some⟩
  cases negative with
  | false =>
    have plain : signed false m.units = (m.units : ℤ) := rfl
    rw [plain, Int.cast_natCast]
    exact (decide_eq_false (not_lt.2 (div_nonneg size.le one.le))).symm
  | true =>
    have opposite : signed true m.units = -(m.units : ℤ) := rfl
    rw [opposite, Int.cast_neg, Int.cast_natCast]
    exact (decide_eq_true (div_neg_of_neg_of_pos (neg_lt_zero.2 size) one)).symm

/-- A number other than zero is the only one with its value. -/
theorem eq_of_value?_eq (nonzero : x ≠ 0) (ha : a.value? = some x) (hb : b.value? = some x) :
    a = b := by
  obtain ⟨m, rfl, -⟩ := exists_finite_of_value? ha nonzero
  obtain ⟨n, rfl, -⟩ := exists_finite_of_value? hb nonzero
  obtain ⟨s, k, same, value⟩ := value?_eq_some_iff.1 ha
  obtain ⟨t, l, same', value'⟩ := value?_eq_some_iff.1 hb
  cases same
  cases same'
  have size := congrArg abs (value.symm.trans value')
  rw [abs_div, abs_div, abs_signed, abs_signed] at size
  have units := (div_left_inj' (abs_pos.2 unitsPerOne_pos_rat.ne').ne').1 size
  exact congrArg _ (Magnitude.ext_units (by exact_mod_cast units))

end Binary64

namespace Comparison

variable {a b : Nanos} {v : ℚ}

/-- A time that is converted keeps its sign. -/
theorem rounded_neg_iff (t : ℤ) : rounded t < 0 ↔ t < 0 := by
  have sign := (near_rounded_intCast t).sign_eq
  rw [← sign_eq_neg_one_iff, sign, sign_eq_neg_one_iff]
  exact Int.cast_lt_zero

/-- No time over a time is zero, with the sign of the time below. -/
theorem quotient_of_zero (none : a.toInt = 0) (nonzero : b.toInt ≠ 0) :
    quotient a b = zero (b.toInt < 0) := by
  have above : a.toBinary64 = zero false := by
    unfold Nanos.toBinary64 ofInt
    rw [none, Int.natAbs_zero, Nat.zero_mul]
    exact ofQuotient_zero false Nat.one_pos
  have some : rounded b.toInt ≠ 0 := abs_pos.1 (zero_lt_one.trans_le (one_le_abs_rounded nonzero))
  obtain ⟨m, below, units⟩ := exists_finite_of_value? b.value?_toBinary64 some
  have unscaled : ¬ (le 1000 a.toBinary64 && le 1000 b.toBinary64) = true := by
    rw [Bool.and_eq_true, le_iff_value value?_thousand (above ▸ value?_zero false)]
    exact fun both => absurd both.1 (by norm_num)
  unfold quotient
  simp only
  rw [if_neg unscaled, above, below, zero_div_finite _ units,
    decide_eq_decide.2 (rounded_neg_iff b.toInt)]

/-- A ratio of one is no change, without a sign. -/
theorem change_of_one {ratio : Binary64} (one : ratio.value? = some 1) :
    change ratio = zero false := by
  rw [eq_of_value?_eq one_ne_zero one value?_one]
  decide +kernel

/-! ## What is printed -/

/-- Whether a text is how a number is printed: zero plainly, and any other number as a numeral
with its sign. -/
def PrintedAs (text : String) (x : ℚ) : Prop :=
  (x = 0 → text = "0.0") ∧
    (x ≠ 0 → Decimal.IsNumeral printedDigits (decide (x < 0)) text)

theorem significant_zero (negative : Bool) :
    Decimal.significant printedDigits (zero negative) = if negative then "-0.0" else "0.0" := by
  cases negative with
  | false => rfl
  | true => rfl

/-- A number other than zero is printed as a numeral. -/
theorem isNumeral_of_value? {x : Binary64} (value : x.value? = some v) (nonzero : v ≠ 0) :
    Decimal.IsNumeral printedDigits (decide (v < 0)) (Decimal.significant printedDigits x) := by
  obtain ⟨m, rfl, units⟩ := exists_finite_of_value? value nonzero
  exact Decimal.isNumeral_significant printedDigits _ units

/-- A numeral is not the text of a zero. -/
theorem ne_minus_of_isNumeral {count : ℕ} {negative : Bool} {text : String}
    (h : Decimal.IsNumeral count negative text) : text ≠ "-0.0" := by
  rintro rfl
  obtain ⟨c, mem, digit, nonzero⟩ := h.exists_digit
  have only : c = '-' ∨ c = '0' ∨ c = '.' ∨ c = '0' := by simpa using mem
  rcases only with rfl | rfl | rfl | rfl
  · cases digit
  · exact nonzero rfl
  · cases digit
  · exact nonzero rfl

theorem PrintedAs.ne_minus {text : String} (h : PrintedAs text v) : text ≠ "-0.0" := by
  rcases eq_or_ne v 0 with zero | nonzero
  · rw [h.1 zero]
    decide
  · exact ne_minus_of_isNumeral (h.2 nonzero)

theorem notMem_words_of_isFinite {x : Binary64} (finite : x.isFinite = true) :
    Decimal.significant printedDigits x ∉ Decimal.words := by
  have plain := Decimal.wordless_significant printedDigits finite
  have letter : 'n' ∉ (Decimal.significant printedDigits x).toList :=
    plain.not_mem rfl (by decide)
  intro word
  have letters : ∀ word ∈ Decimal.words, 'n' ∈ word.toList := by decide
  exact letter (letters _ word)

/-- What is printed for two times, the ratio `v` of which is printed as `ratio`, and the
percentage `p` as `percent`. -/
structure Prints (a b : Nanos) (v p : ℚ) (ratio percent : String) : Prop where
  /-- The ratio is zero just if there is no time above. -/
  ratio_eq_zero_iff : v = 0 ↔ a.toInt = 0
  /-- It is printed with a minus but without a numeral if the time below is negative. -/
  ratio_minus_iff : ratio = "-0.0" ↔ a.toInt = 0 ∧ b.toInt < 0
  /-- And like any other number if it is not so printed. -/
  ratio_printed : ratio ≠ "-0.0" → PrintedAs ratio v
  percent_printed : PrintedAs percent p
  percent_ne_minus : percent ≠ "-0.0"
  ratio_notMem : ratio ∉ Decimal.words
  percent_notMem : percent ∉ Decimal.words

theorem text_ofNanos (numerator denominator : String) (a b : Nanos) :
    (ofNanos numerator denominator a b).text =
      numerator ++ " / " ++ denominator ++ " = " ++
        Decimal.significant printedDigits (quotient a b) ++ " (" ++
        Decimal.significant printedDigits (change (quotient a b)) ++ "%)" := by
  simp only [ofNanos, text]

/-- The ratio of no time is printed with the sign of the time below. -/
theorem significant_quotient_of_zero (none : a.toInt = 0) (nonzero : b.toInt ≠ 0) :
    Decimal.significant printedDigits (quotient a b) = if b.toInt < 0 then "-0.0" else "0.0" := by
  rw [quotient_of_zero none nonzero, significant_zero]
  simp only [decide_eq_true_eq]

theorem significant_quotient_eq_minus_iff (nonzero : b.toInt ≠ 0)
    (value : (quotient a b).value? = some v) (zero_iff : v = 0 ↔ a.toInt = 0) :
    Decimal.significant printedDigits (quotient a b) = "-0.0" ↔ a.toInt = 0 ∧ b.toInt < 0 := by
  rcases eq_or_ne v 0 with zero | other
  · have none := zero_iff.1 zero
    rw [significant_quotient_of_zero none nonzero]
    split_ifs with negative
    · exact ⟨fun _ => ⟨none, negative⟩, fun _ => rfl⟩
    · exact ⟨fun same => absurd same (by decide), fun both => absurd both.2 negative⟩
  · have numeral := ne_minus_of_isNumeral (isNumeral_of_value? value other)
    exact ⟨fun minus => absurd minus numeral, fun both => absurd (zero_iff.2 both.1) other⟩

/-- A percentage is printed like any other number, with no sign if it is zero. -/
theorem printedAs_change {ratio : Binary64} {p : ℚ} (value : ratio.value? = some v)
    (percent : (change ratio).value? = some p) (zero_iff : p = 0 ↔ v = 1) :
    PrintedAs (Decimal.significant printedDigits (change ratio)) p := by
  refine ⟨fun none => ?_, isNumeral_of_value? percent⟩
  rw [zero_iff.1 none] at value
  rw [change_of_one value, significant_zero]
  rfl

/-- What is printed for two times, the second of which is not zero. -/
theorem exists_prints (a : Nanos) (nonzero : b.toInt ≠ 0) :
    ∃ v p, (quotient a b).value? = some v ∧ (change (quotient a b)).value? = some p ∧
      Prints a b v p (Decimal.significant printedDigits (quotient a b))
        (Decimal.significant printedDigits (change (quotient a b))) := by
  obtain ⟨v, p, ratio, percent, near, near'⟩ :=
    exists_values "" "" nonzero (near_rounded_intCast a.toInt) (near_rounded_intCast b.toInt)
  dsimp only [ofNanos] at ratio percent
  have below : (b.toInt : ℚ) ≠ 0 := by exact_mod_cast nonzero
  have zero_iff : v = 0 ↔ a.toInt = 0 := by
    rw [← sign_eq_zero_iff, near.sign_eq, sign_eq_zero_iff, div_eq_zero_iff, or_iff_left below]
    exact Int.cast_eq_zero
  have change_iff : p = 0 ↔ v = 1 := by
    rw [← sign_eq_zero_iff, near'.sign_eq, sign_eq_zero_iff, mul_eq_zero, sub_eq_zero,
      or_iff_right (by norm_num)]
  have minus_iff := significant_quotient_eq_minus_iff nonzero ratio zero_iff
  have percentPrinted := printedAs_change ratio percent change_iff
  have ratioPrinted (other : Decimal.significant printedDigits (quotient a b) ≠ "-0.0") :
      PrintedAs (Decimal.significant printedDigits (quotient a b)) v := by
    refine ⟨fun zero => ?_, isNumeral_of_value? ratio⟩
    have none := zero_iff.1 zero
    have unsigned : ¬ b.toInt < 0 := fun negative => other (minus_iff.2 ⟨none, negative⟩)
    rw [significant_quotient_of_zero none nonzero, if_neg unsigned]
  exact ⟨v, p, ratio, percent, zero_iff, minus_iff, ratioPrinted, percentPrinted,
    percentPrinted.ne_minus, notMem_words_of_isFinite (isFinite_of_value? ratio),
    notMem_words_of_isFinite (isFinite_of_value? percent)⟩

end Comparison

/-! ## Main result -/

namespace Registry

open Comparison

/-- The numbers of the text report, for every registry whose text report is written to its end.
The report has a line for each compared pair, in order, with the ratio and the percentage of the
two times that are then stored.  Both are printed as `0.0` if they are zero, and else as a
numeral in fixed or scientific notation with at most four significant digits; but a ratio of zero
is printed as `-0.0` just if the time below is negative.  No percentage is, and no number is
printed as a word. -/
theorem printed_numbers (r : Registry) (written : (r.textScript.run none).outcome = .ok ()) :
    ∃ report, r.report.outcome = .ok report ∧ (r.textScript.run none).bytes = report.rendering ∧
      report.comparisons.map (fun c => (c.numerator, c.denominator)) = comparedPairs ∧
      ∀ c ∈ report.comparisons, ∃ (s t : Timing) (v p : ℚ) (ratio percent : String),
        r.compareAll.registry.get? c.numerator = some s ∧
        r.compareAll.registry.get? c.denominator = some t ∧ t.nanos.toInt ≠ 0 ∧
        c.ratio.value? = some v ∧ c.percent.value? = some p ∧
        c.text =
          c.numerator ++ " / " ++ c.denominator ++ " = " ++ ratio ++ " (" ++ percent ++ "%)" ∧
        Prints s.nanos t.nanos v p ratio percent := by
  obtain ⟨succeeds, agrees, -⟩ := run_textScript_agrees r
  obtain ⟨report, computed⟩ := succeeds.1 written
  refine ⟨report, computed, (agrees report computed).2, names_of_report computed, ?_⟩
  intro c m
  obtain ⟨numerator, denominator, s, t, above, below, nonzero, rfl⟩ :=
    exists_timings_of_report computed m
  obtain ⟨v, p, ratio, percent, prints⟩ := exists_prints s.nanos nonzero
  refine ⟨s, t, v, p, _, _, above, below, nonzero, ?_, ?_, text_ofNanos .., prints⟩
  · dsimp only [ofNanos]
    exact ratio
  · dsimp only [ofNanos]
    exact percent

/-- Output in which the first benchmark of the report takes no time, and the second less. -/
def noTimeOverNegative : String :=
  "manual time: [1 ns 0 ns 1 ns]\nnonbox time: [1 ns -5 ns 1 ns]\n" ++
    "manual+syscalls time: [1 ns 2 us 1 ns]\nnonbox+syscalls time: [1 ns 3 us 1 ns]\n" ++
    "box+syscalls time: [1 ns 4 us 1 ns]\nbox+rc+syscalls time: [1 ns 5 us 1 ns]\n" ++
    "box+arc+syscalls time: [1 ns 6 us 1 ns]\n"

/-- A zero is printed with a minus there, and the other numbers as numerals. -/
theorem printed_numbers_of_no_time :
    let r := (ofText noTimeOverNegative).registry
    (r.textScript.run none).outcome = .ok () ∧
      ∃ report, r.report.outcome = .ok report ∧
        ∀ c ∈ report.comparisons, ∃ (s t : Timing) (v p : ℚ) (ratio percent : String),
          c.text =
            c.numerator ++ " / " ++ c.denominator ++ " = " ++ ratio ++ " (" ++ percent ++ "%)" ∧
          Prints s.nanos t.nanos v p ratio percent := by
  intro r
  have written : (r.textScript.run none).outcome = .ok () := by decide +kernel
  obtain ⟨report, computed, -, -, numbers⟩ := printed_numbers r written
  refine ⟨written, report, computed, fun c m => ?_⟩
  obtain ⟨s, t, v, p, ratio, percent, -, -, -, -, -, line, prints⟩ := numbers c m
  exact ⟨s, t, v, p, ratio, percent, line, prints⟩

/-- So not every zero of a report is printed plainly. -/
theorem ratio_printed_with_minus :
    let read := ofText noTimeOverNegative
    read.outcome = .ok 7 ∧ (read.registry.textScript.run none).outcome = .ok () ∧
      (read.registry.textScript.run none).bytes =
        Text.ended (Text.linesOf noTimeOverNegative ++
          ["", "manual / nonbox = -0.0 (-100.0%)",
            "manual+syscalls / nonbox+syscalls = 0.6667 (-33.33%)",
            "nonbox+syscalls / manual+syscalls = 1.5 (50.0%)",
            "nonbox+syscalls / box+syscalls = 0.75 (-25.0%)",
            "box+rc+syscalls / box+arc+syscalls = 0.8333 (-16.67%)",
            "manual+work / nonbox+work = 0.9996 (-0.03902%)", "",
            "nonbox - manual = -5ns, /256 = 0ns"]) := by
  decide +kernel

end Registry

end BestTimes
