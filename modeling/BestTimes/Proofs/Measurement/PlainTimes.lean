import BestTimes.Proofs.Measurement.Conversion
set_option autoImplicit false

/-!
# Times in plain numerals

A line gives a time in a unit if its tokens are those of a measurement and the numeral is a plain
one (`Gives`).  It is then read, and what it is read as is what the time is converted to
(`Gives.ofLine?`).  So the nanoseconds are the integer part of the exact product of the time and
the unit, and do not depend on the unit, except for whole products of certain times, which can
be one off (`truncated_nanos_of_gives`, `nanos_one_short`).
-/

namespace BestTimes

open Binary64

namespace Measurement

open Decimal TimeUnit

/-! ## Lines -/

/-- Whether a line is a measurement that gives a time in a unit: the marker stands in it, the
fifth token is a plain numeral of the time, and the sixth names the unit. -/
structure Gives (line name : String) (d : ℚ) (u : TimeUnit) : Prop where
  marked : Marked line
  fields : ∃ a b c value unit rest, tokens line = name :: a :: b :: c :: value :: unit :: rest ∧
    IsPlain value.toList d ∧ TimeUnit.ofString unit = .ok u

variable {line name : String} {d : ℚ} {u : TimeUnit}

/-- Such a line is read, whatever its number is. -/
theorem Gives.ofLine? (h : Gives line name d u) (few : FewDigits 15 d)
    (range : |d * u.scale| < 2 ^ 53) :
    ∃ m, (∀ number, Measurement.ofLine? line number = .ok (some m)) ∧ m.name = name ∧
      m.timing.nanos.toInt = u.converted d := by
  obtain ⟨marked, a, b, c, value, unit, rest, tokens, plain, known⟩ := h
  obtain ⟨numeral, read, exact⟩ := Numeral.ofChars?_of_isPlain plain
  have rounded := Numeral.value?_toBinary64 exact ((u.abs_le_abs_mul_scale d).trans range.le)
  refine ⟨⟨name, u.toNanos numeral.toBinary64, Text.stripped line⟩, fun number => ?_, rfl,
    toInt_toNanos rounded few range⟩
  rw [ofLine?_eq_some_iff, ofFields_eq_ok_iff]
  exact ⟨marked, name, a, b, c, value, unit, rest, numeral, u, tokens, read,
    isFinite_of_value? rounded, known, rfl⟩

/-! ## Main result -/

/-- **Conversion cuts off the exact product**, for plain numerals of at most 15 significant digits
and products below `2 ^ 53`, unless the product is a whole number: then it may be one off, and
only where the time is not representable and is a little more than a power of two, at most 1.024
times for microseconds and 1.048576 times for milliseconds (`ConvertsExactly`).  Below `2 ^ 52` it
is then one less in size.  So the same time in another unit gives the same number of nanoseconds
where both are read exactly, as all times in nanoseconds are. -/
theorem truncated_nanos_of_gives (gives : Gives line name d u) (few : FewDigits 15 d)
    (range : |d * u.scale| < 2 ^ 53) :
    ∃ m, (∀ number, ofLine? line number = .ok (some m)) ∧ m.name = name ∧
      (u = .nanoseconds ∨ u.ConvertsExactly d → m.timing.nanos.toInt = truncated (d * u.scale)) ∧
      |m.timing.nanos.toInt - d * u.scale| ≤ 1 ∧
      (|d * u.scale| < 2 ^ 52 → |(m.timing.nanos.toInt : ℚ)| ≤ |d * u.scale|) ∧
      ∀ (other name' : String) (e : ℚ) (w : TimeUnit), Gives other name' e w → FewDigits 15 e →
        e * w.scale = d * u.scale → u = .nanoseconds ∨ u.ConvertsExactly d →
        w = .nanoseconds ∨ w.ConvertsExactly e →
        ∃ m', (∀ number, ofLine? other number = .ok (some m')) ∧ m'.name = name' ∧
          m'.timing.nanos = m.timing.nanos := by
  obtain ⟨m, read, named, converted⟩ := gives.ofLine? few range
  obtain ⟨near, within⟩ := abs_converted_sub_le few range
  refine ⟨m, read, named, ?_, by rwa [converted], by rwa [converted], ?_⟩
  · intro exact
    rw [converted, converted_eq_truncated few range exact]
  · intro other name' e w gives' few' same exact exact'
    have range' : |e * w.scale| < 2 ^ 53 := by rwa [same]
    obtain ⟨m', read', named', converted'⟩ := gives'.ofLine? few' range'
    refine ⟨m', read', named', Nanos.ext_toInt ?_⟩
    rw [converted', converted, converted_eq_truncated few' range' exact',
      converted_eq_truncated few range exact, same]

/-- Digits in front of a point and three behind it. -/
theorem isPlain_of_thousandths {a b c d : Char} (front : AllDigits [a])
    (back : AllDigits [b, c, d]) :
    IsPlain [a, '.', b, c, d] (digitsValue [a, b, c, d] / 1000) := by
  have plain := isPlain_of_point front back (List.cons_ne_nil _ _)
  rw [pointedValue_eq_div] at plain
  norm_num at plain
  exact plain

/-- A time in microseconds that takes four binary digits in front of the point, and the same time
in nanoseconds, which takes fourteen. -/
theorem truncated_nanos_of_gives_microseconds :
    Gives "bench time: [0 us 9.999 us 0 us]" "bench" (9999 / 1000) .microseconds ∧
      FewDigits 15 (9999 / 1000) ∧
      |(9999 / 1000 : ℚ) * TimeUnit.microseconds.scale| < 2 ^ 53 ∧
      TimeUnit.microseconds.ConvertsExactly (9999 / 1000) ∧
      Gives "bench time: [0 ns 9999 ns 0 ns]" "bench" 9999 .nanoseconds ∧
      ∃ m, (∀ number, ofLine? "bench time: [0 us 9.999 us 0 us]" number = .ok (some m)) ∧
        m.timing.nanos.toInt = 9999 ∧
        ∃ m', (∀ number, ofLine? "bench time: [0 ns 9999 ns 0 ns]" number = .ok (some m')) ∧
          m'.timing.nanos = m.timing.nanos := by
  have plain : IsPlain "9.999".toList (9999 / 1000) := by
    have digits : digitsValue ['9', '9', '9', '9'] = 9999 := rfl
    have value := isPlain_of_thousandths (a := '9') (b := '9') (c := '9') (d := '9')
      (by decide) (by decide)
    rwa [digits, Nat.cast_ofNat] at value
  have whole : IsPlain "9999".toList 9999 := by
    have digits : digitsValue ['9', '9', '9', '9'] = 9999 := rfl
    have value : IsPlain ['9', '9', '9', '9'] (digitsValue ['9', '9', '9', '9']) :=
      isPlain_of_digits (by decide) (List.cons_ne_nil _ _)
    rwa [digits, Nat.cast_ofNat] at value
  have marked : Marked "bench time: [0 us 9.999 us 0 us]" ∧
      Marked "bench time: [0 ns 9999 ns 0 ns]" := by
    decide +kernel
  have written : tokens "bench time: [0 us 9.999 us 0 us]" =
        ["bench", "time:", "[0", "us", "9.999", "us", "0", "us]"] ∧
      tokens "bench time: [0 ns 9999 ns 0 ns]" =
        ["bench", "time:", "[0", "ns", "9999", "ns", "0", "ns]"] := by
    decide +kernel
  have gives : Gives "bench time: [0 us 9.999 us 0 us]" "bench" (9999 / 1000) .microseconds :=
    ⟨marked.1, _, _, _, _, _, _, written.1, plain, rfl⟩
  have gives' : Gives "bench time: [0 ns 9999 ns 0 ns]" "bench" 9999 .nanoseconds :=
    ⟨marked.2, _, _, _, _, _, _, written.2, whole, rfl⟩
  have few : FewDigits 15 (9999 / 1000) := ⟨9999, -3, by decide, by norm_num [abs_of_pos]⟩
  have few' : FewDigits 15 9999 := ⟨9999, 0, by decide, by norm_num [abs_of_pos]⟩
  have product : (9999 / 1000 : ℚ) * TimeUnit.microseconds.scale = 9999 := by
    norm_num [TimeUnit.scale]
  have range : |(9999 / 1000 : ℚ) * TimeUnit.microseconds.scale| < 2 ^ 53 := by
    rw [product]
    norm_num [abs_of_pos]
  have same : (9999 : ℚ) * TimeUnit.nanoseconds.scale =
      9999 / 1000 * TimeUnit.microseconds.scale := by
    rw [product]
    norm_num [TimeUnit.scale]
  have exact : TimeUnit.microseconds.ConvertsExactly (9999 / 1000) := by
    refine .inr (.inr ⟨3, ?_, ?_⟩)
    · rw [product]
      norm_num [TimeUnit.bits, abs_of_pos]
    · norm_num [abs_of_pos]
  obtain ⟨m, read, -, truncates, -, -, others⟩ := truncated_nanos_of_gives gives few range
  obtain ⟨m', read', -, equal⟩ :=
    others _ "bench" 9999 .nanoseconds gives' few' same (.inr exact) (.inl rfl)
  refine ⟨gives, few, range, exact, gives', m, read, ?_, m', read', equal⟩
  rw [truncates (.inr exact), product, truncated_of_nonneg (by norm_num)]
  norm_num

/-- A whole number of nanoseconds that loses one of them in microseconds: the time is rounded
down, and its product with the unit is rounded to the binary64 number below. -/
theorem nanos_one_short :
    Gives "bench time: [0 us 1.001 us 0 us]" "bench" (1001 / 1000) .microseconds ∧
      FewDigits 15 (1001 / 1000) ∧
      |(1001 / 1000 : ℚ) * TimeUnit.microseconds.scale| < 2 ^ 53 ∧
      truncated ((1001 / 1000 : ℚ) * TimeUnit.microseconds.scale) = 1001 ∧
      (ofLine? "bench time: [0 us 1.001 us 0 us]" 1).map (·.map (·.timing.nanos.toInt)) =
        .ok (some 1000) ∧
      Gives "bench time: [0 ns 1001 ns 0 ns]" "bench" 1001 .nanoseconds ∧
      (1001 : ℚ) * TimeUnit.nanoseconds.scale = 1001 / 1000 * TimeUnit.microseconds.scale ∧
      (ofLine? "bench time: [0 ns 1001 ns 0 ns]" 1).map (·.map (·.timing.nanos.toInt)) =
        .ok (some 1001) := by
  have plain : IsPlain "1.001".toList (1001 / 1000) := by
    have digits : digitsValue ['1', '0', '0', '1'] = 1001 := rfl
    have value := isPlain_of_thousandths (a := '1') (b := '0') (c := '0') (d := '1')
      (by decide) (by decide)
    rwa [digits, Nat.cast_ofNat] at value
  have whole : IsPlain "1001".toList 1001 := by
    have digits : digitsValue ['1', '0', '0', '1'] = 1001 := rfl
    have value : IsPlain ['1', '0', '0', '1'] (digitsValue ['1', '0', '0', '1']) :=
      isPlain_of_digits (by decide) (List.cons_ne_nil _ _)
    rwa [digits, Nat.cast_ofNat] at value
  have marked : Marked "bench time: [0 us 1.001 us 0 us]" ∧
      Marked "bench time: [0 ns 1001 ns 0 ns]" := by
    decide +kernel
  have written : tokens "bench time: [0 us 1.001 us 0 us]" =
        ["bench", "time:", "[0", "us", "1.001", "us", "0", "us]"] ∧
      tokens "bench time: [0 ns 1001 ns 0 ns]" =
        ["bench", "time:", "[0", "ns", "1001", "ns", "0", "ns]"] := by
    decide +kernel
  have product : (1001 / 1000 : ℚ) * TimeUnit.microseconds.scale = 1001 := by
    norm_num [TimeUnit.scale]
  refine ⟨⟨marked.1, _, _, _, _, _, _, written.1, plain, rfl⟩,
    ⟨1001, -3, by decide, by norm_num [abs_of_pos]⟩, ?_, ?_, by decide +kernel,
    ⟨marked.2, _, _, _, _, _, _, written.2, whole, rfl⟩, ?_, by decide +kernel⟩
  · rw [product]
    norm_num [abs_of_pos]
  · rw [product, truncated_of_nonneg (by norm_num)]
    norm_num
  · rw [product]
    norm_num [TimeUnit.scale]

end Measurement

end BestTimes
