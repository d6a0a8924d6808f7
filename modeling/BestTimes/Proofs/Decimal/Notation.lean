import BestTimes.Proofs.Decimal
import BestTimes.Proofs.Decimal.Rounding
import Mathlib.Data.List.DropRight
set_option autoImplicit false

/-!
# The notations of a number

A text says which number it denotes: the digits in front of the point count as a natural
number, those behind it as a fraction of a power of ten, and an exponent multiplies by a
power of ten (`digitsValue`, `pointedValue`).  `IsFixed` and `IsScientific` are the two
notations, with all that is required of their digits.

Written digits denote what was written (`digitsValue_padded`), and to drop the zeros at the
end of a fraction changes nothing (`pointedValue_trimEnd`).  So a decimal that a layout
writes stands in one of the two notations, as the same number (`write_denotes`).
-/

namespace BestTimes.Decimal

/-! ## Digits -/

/-- The natural number that digits denote. -/
def digitsValue (digits : List Char) : ℕ := Nat.ofDigitChars 10 digits 0

section

variable {digits whole fraction : List Char}

theorem digitsValue_append (digits other : List Char) :
    digitsValue (digits ++ other) = digitsValue digits * 10 ^ other.length + digitsValue other := by
  unfold digitsValue
  rw [Nat.ofDigitChars_append, Nat.ofDigitChars_eq_ofDigitChars_zero, Nat.mul_comm]

theorem digitsValue_replicate_zero (n : ℕ) : digitsValue (List.replicate n '0') = 0 := by
  unfold digitsValue
  rw [Nat.ofDigitChars_replicate_zero, Nat.mul_zero]

theorem digitsValue_toDigits (n : ℕ) : digitsValue (Nat.toDigits 10 n) = n :=
  Nat.ofDigitChars_ten_toDigits

/-- The first digit of a positive number is not a zero. -/
theorem head?_toDigits {n : ℕ} (positive : 0 < n) : (Nat.toDigits 10 n).head? ≠ some '0' := by
  induction n using Nat.strongRecOn with
  | ind n previous =>
    rcases Nat.lt_or_ge n 10 with small | large
    · rw [Nat.toDigits_of_lt_base small, List.head?_cons, ne_eq, Option.some.injEq,
        Nat.digitChar_eq_zero]
      omega
    · rw [Nat.toDigits_of_base_le (by decide) large,
        List.head?_append_of_ne_nil _ Nat.toDigits_ne_nil]
      exact previous _ (by omega) (by omega)

/-! ### Zeros in front -/

theorem digitsValue_padded (least n : ℕ) : digitsValue (padded least n) = n := by
  unfold padded
  rw [digitsValue_append, digitsValue_replicate_zero, digitsValue_toDigits, Nat.zero_mul,
    Nat.zero_add]

theorem length_padded (least n : ℕ) : (padded least n).length = max least (digitCount n) := by
  unfold padded digitCount
  rw [List.length_append, List.length_replicate]
  omega

/-- More digits than asked for have no zero in front. -/
theorem head?_padded {least n : ℕ} (more : max least 1 < (padded least n).length) :
    (padded least n).head? ≠ some '0' := by
  have count := length_padded least n
  have large : 1 < digitCount n := by omega
  have positive : 0 < n := by
    apply Nat.pos_of_ne_zero
    rintro rfl
    exact absurd large (by decide)
  have none : least - (Nat.toDigits 10 n).length = 0 := by
    unfold digitCount at count large
    omega
  unfold padded
  simp only
  rw [none, List.replicate_zero, List.nil_append]
  exact head?_toDigits positive

/-! ### Characters at the ends -/

theorem withSign_append (negative : Bool) (size other : List Char) :
    withSign negative size ++ other = withSign negative (size ++ other) := by
  cases negative with
  | false => rfl
  | true => rfl

theorem trimEnd_append (c : Char) (text other : List Char) :
    trimEnd c (text ++ other) =
      if trimEnd c other = [] then trimEnd c text else text ++ trimEnd c other := by
  unfold trimEnd
  rw [List.reverse_append, List.dropWhile_append, apply_ite List.reverse]
  simp only [List.isEmpty_iff, List.reverse_eq_nil_iff, List.reverse_append, List.reverse_reverse]

theorem getLast?_trimEnd (c : Char) (text : List Char) : (trimEnd c text).getLast? ≠ some c := by
  intro last
  have nonempty : trimEnd c text ≠ [] := by
    intro empty
    rw [empty] at last
    cases last
  rw [List.getLast?_eq_some_getLast nonempty, Option.some.injEq] at last
  have not := List.rdropWhile_last_not (· == c) text nonempty
  exact not (beq_iff_eq.2 last)

theorem trimEnd_of_not_mem {c : Char} {text : List Char} (h : c ∉ text) :
    trimEnd c text = text := by
  refine (List.rdropWhile_eq_self_iff (p := (· == c))).2 fun nonempty last => h ?_
  exact beq_iff_eq.1 last ▸ List.getLast_mem nonempty

/-- A text is its trimmed text with some of the characters behind it. -/
theorem exists_eq_trimEnd (c : Char) (text : List Char) :
    ∃ count, text = trimEnd c text ++ List.replicate count c := by
  refine ⟨(text.rtakeWhile (· == c)).length, ?_⟩
  rw [← List.eq_replicate_of_mem (l := text.rtakeWhile (· == c)) (a := c) fun d m =>
    beq_iff_eq.1 (List.mem_rtakeWhile_imp (p := (· == c)) m)]
  exact List.rdropWhile_append_rtakeWhile.symm

/-! ## Digits with a point -/

/-- The number that digits in front of and behind a point denote. -/
def pointedValue (whole fraction : List Char) : ℚ :=
  digitsValue whole + digitsValue fraction / 10 ^ fraction.length

theorem pointedValue_eq_div (whole fraction : List Char) :
    pointedValue whole fraction = digitsValue (whole ++ fraction) / 10 ^ fraction.length := by
  unfold pointedValue
  rw [digitsValue_append]
  field_simp
  norm_num

/-- Zeros at the end of a fraction do not change the number. -/
theorem pointedValue_trimEnd (whole fraction : List Char) :
    pointedValue whole (trimEnd '0' fraction) = pointedValue whole fraction := by
  obtain ⟨count, split⟩ := exists_eq_trimEnd '0' fraction
  unfold pointedValue
  conv_rhs => rw [split]
  rw [digitsValue_append, digitsValue_replicate_zero, List.length_append, List.length_replicate]
  push_cast
  rw [pow_add, add_zero, mul_div_mul_right _ _ (by positivity)]

/-- A fraction with the point in front of it; without digits there is no point. -/
def fractionPart (fraction : List Char) : List Char :=
  if fraction = [] then [] else '.' :: fraction

/-- The digits in front of a point: at least one, and no zero in front of others. -/
structure IsWhole (whole : List Char) : Prop where
  digits : AllDigits whole
  nonempty : whole ≠ []
  head : 1 < whole.length → whole.head? ≠ some '0'

/-! ## The notations -/

/-- Whether a text denotes `x` in fixed notation: digits, a point, and digits, of which only
the first may be a zero at the end. -/
def IsFixed (text : List Char) (x : ℚ) : Prop :=
  ∃ whole fraction : List Char, text = whole ++ '.' :: fraction ∧ IsWhole whole ∧
    AllDigits fraction ∧ fraction ≠ [] ∧
    (1 < fraction.length → fraction.getLast? ≠ some '0') ∧ pointedValue whole fraction = x

/-- Whether a text denotes `x` in scientific notation with the exponent `e`: one digit that is
not a zero, a fraction that does not end in a zero or none, the letter, the sign of the
exponent, and its digits, of which there are at least `least`. -/
def IsScientific (least : ℕ) (text : List Char) (x : ℚ) (e : ℤ) : Prop :=
  ∃ (first : Char) (fraction exponent : List Char),
    text = first :: fractionPart fraction ++ 'e' :: (if e < 0 then '-' else '+') :: exponent ∧
    first.isDigit = true ∧ first ≠ '0' ∧ AllDigits fraction ∧ fraction.getLast? ≠ some '0' ∧
    AllDigits exponent ∧ least ≤ exponent.length ∧ exponent ≠ [] ∧
    (max least 1 < exponent.length → exponent.head? ≠ some '0') ∧
    digitsValue exponent = e.natAbs ∧ pointedValue [first] fraction * 10 ^ e = x

theorem isWhole_toDigits (n : ℕ) : IsWhole (Nat.toDigits 10 n) := by
  refine ⟨allDigits_toDigits n, Nat.toDigits_ne_nil, fun more => ?_⟩
  apply head?_toDigits
  apply Nat.pos_of_ne_zero
  rintro rfl
  exact absurd more (by decide)

theorem IsWhole.exists_cons (h : IsWhole whole) :
    ∃ first others, whole = first :: others ∧ first.isDigit = true := by
  obtain ⟨first, others, rfl⟩ := List.exists_cons_of_ne_nil h.nonempty
  exact ⟨first, others, rfl, h.digits first (List.mem_cons_self ..)⟩

theorem IsFixed.exists_cons {text : List Char} {x : ℚ} (h : IsFixed text x) :
    ∃ first others, text = first :: others ∧ first.isDigit = true := by
  obtain ⟨whole, fraction, rfl, front, -⟩ := h
  obtain ⟨first, others, rfl, digit⟩ := front.exists_cons
  exact ⟨first, _, rfl, digit⟩

theorem IsScientific.exists_cons {least : ℕ} {text : List Char} {x : ℚ} {e : ℤ}
    (h : IsScientific least text x e) :
    ∃ first others, text = first :: others ∧ first.isDigit = true := by
  obtain ⟨first, fraction, exponent, rfl, digit, -⟩ := h
  exact ⟨first, _, rfl, digit⟩

theorem isFixed_pointAnd (front : IsWhole whole) (digits : AllDigits fraction)
    (last : fraction.getLast? ≠ some '0') :
    IsFixed (whole ++ pointAnd fraction) (pointedValue whole fraction) := by
  unfold pointAnd
  split_ifs with empty
  · rw [List.isEmpty_iff] at empty
    subst empty
    refine ⟨whole, ['0'], rfl, front, allDigits_replicate_zero 1, by decide, ?_, ?_⟩
    · intro more
      exact absurd more (by decide)
    · exact (pointedValue_trimEnd whole ['0']).symm
  · rw [List.isEmpty_iff] at empty
    exact ⟨whole, fraction, rfl, front, digits, empty, fun _ => last, rfl⟩

theorem isScientific_exponentText {first : Char} (least : ℕ) (e : ℤ) (digit : first.isDigit = true)
    (leading : first ≠ '0') (digits : AllDigits fraction) (last : fraction.getLast? ≠ some '0') :
    IsScientific least (first :: fractionPart fraction ++ 'e' :: exponentText least e)
      (pointedValue [first] fraction * 10 ^ e) e := by
  have count := length_padded least e.natAbs
  have some := digitCount_pos e.natAbs
  refine ⟨first, fraction, padded least e.natAbs, rfl, digit, leading, digits, last,
    allDigits_padded _ _, ?_, ?_, head?_padded, digitsValue_padded _ _, rfl⟩
  · omega
  · apply List.ne_nil_of_length_pos
    omega

/-! ## What a layout writes -/

/-- Digits with the first one at a power of ten from one on: zeros fill the places in front of
the point that are left. -/
theorem pointedValue_take_drop (digits : List Char) (places : ℕ) :
    pointedValue (digits.take places ++ List.replicate (places - digits.length) '0')
      (digits.drop places) = digitsValue digits * 10 ^ ((places : ℤ) - digits.length) := by
  rw [pointedValue_eq_div, List.length_drop]
  rcases Nat.le_total digits.length places with short | long
  · have zeros : (places : ℤ) - digits.length = (places - digits.length : ℕ) := by omega
    rw [List.take_of_length_le short, List.drop_of_length_le short, List.append_nil,
      digitsValue_append, digitsValue_replicate_zero, List.length_replicate,
      Nat.sub_eq_zero_of_le short, zeros, zpow_natCast]
    push_cast
    ring
  · have places' : (places : ℤ) - digits.length = -(digits.length - places : ℕ) := by omega
    rw [Nat.sub_eq_zero_of_le long, List.replicate_zero, List.append_nil, List.take_append_drop,
      places', zpow_neg, zpow_natCast, div_eq_mul_inv]

/-- With the first digit at a power of ten from one on, it stands in front of the point. -/
theorem isFixed_positional_whole (own : AllDigits digits) (nonempty : digits ≠ [])
    (leading : digits.head? ≠ some '0') (last : digits.getLast? ≠ some '0') {e : ℤ} (large : 0 ≤ e) :
    IsFixed (positional digits e) (digitsValue digits * 10 ^ (e + 1 - digits.length)) := by
  have count := List.length_pos_of_ne_nil nonempty
  have places : e + 1 - digits.length = ((e.toNat + 1 : ℕ) : ℤ) - digits.length := by omega
  have some : digits.take (e.toNat + 1) ≠ [] := by
    apply List.ne_nil_of_length_pos
    rw [List.length_take]
    omega
  unfold positional
  simp only
  rw [if_pos large, places, ← pointedValue_take_drop]
  refine isFixed_pointAnd ?_ (own.of_subset (List.drop_subset _ _)) ?_
  · refine ⟨(own.of_subset (List.take_subset _ _)).append (allDigits_replicate_zero _),
      List.append_ne_nil_of_left_ne_nil some _, fun _ => ?_⟩
    rw [List.head?_append_of_ne_nil _ some, List.head?_take, if_neg (by omega)]
    exact leading
  · rw [List.getLast?_drop]
    split_ifs
    · exact (Option.some_ne_none _).symm
    · exact last

/-- With the first digit at a lower power of ten, a zero stands in front of the point, and
further ones fill the places up to the first digit. -/
theorem isFixed_positional_part (own : AllDigits digits) (nonempty : digits ≠ [])
    (last : digits.getLast? ≠ some '0') {e : ℤ} (small : ¬ 0 ≤ e) :
    IsFixed (positional digits e) (digitsValue digits * 10 ^ (e + 1 - digits.length)) := by
  have zeros : AllDigits (List.replicate ((-e).toNat - 1) '0' ++ digits) :=
    (allDigits_replicate_zero _).append own
  have value := pointedValue_eq_div ['0'] (List.replicate ((-e).toNat - 1) '0' ++ digits)
  have places : e + 1 - digits.length = -(((-e).toNat - 1 + digits.length : ℕ) : ℤ) := by omega
  have zero : digitsValue ['0'] = 0 := digitsValue_replicate_zero 1
  rw [digitsValue_append, digitsValue_append, zero, digitsValue_replicate_zero,
    List.length_append, List.length_replicate, Nat.zero_mul, Nat.zero_mul, Nat.zero_add,
    Nat.zero_add] at value
  unfold positional
  simp only
  rw [if_neg small, places, zpow_neg, zpow_natCast, ← div_eq_mul_inv, ← value,
    ← List.singleton_append]
  refine isFixed_pointAnd (isWhole_toDigits 0) zeros ?_
  rw [List.getLast?_append_of_ne_nil _ nonempty]
  exact last

theorem isFixed_positional (own : AllDigits digits) (nonempty : digits ≠ [])
    (leading : digits.head? ≠ some '0') (last : digits.getLast? ≠ some '0') (e : ℤ) :
    IsFixed (positional digits e) (digitsValue digits * 10 ^ (e + 1 - digits.length)) := by
  rcases Decidable.em (0 ≤ e) with large | small
  · exact isFixed_positional_whole own nonempty leading last large
  · exact isFixed_positional_part own nonempty last small

theorem isScientific_scientific (least : ℕ) (own : AllDigits digits) (nonempty : digits ≠ [])
    (leading : digits.head? ≠ some '0') (last : digits.getLast? ≠ some '0') (e : ℤ) :
    IsScientific least (scientific least digits e)
      (digitsValue digits * 10 ^ (e + 1 - digits.length)) e := by
  obtain ⟨first, fraction, rfl⟩ := List.exists_cons_of_ne_nil nonempty
  rw [List.head?_cons, ne_eq, Option.some.injEq] at leading
  have rest : fraction.getLast? ≠ some '0' := by
    rw [List.getLast?_cons] at last
    intro zero
    rw [zero] at last
    exact last rfl
  have text : scientific least (first :: fraction) e =
      first :: fractionPart fraction ++ 'e' :: exponentText least e := by
    unfold scientific fractionPart
    cases fraction with
    | nil => rfl
    | cons second others => rfl
  have value := pointedValue_eq_div [first] fraction
  rw [List.singleton_append] at value
  have places : e + 1 - (fraction.length + 1 : ℕ) = e - fraction.length := by omega
  rw [text, List.length_cons, places, zpow_sub₀ (by norm_num), zpow_natCast, ← mul_div_assoc,
    mul_div_right_comm, ← value]
  exact isScientific_exponentText least e (own first (List.mem_cons_self ..)) leading
    (own.of_subset (List.subset_cons_self _ _)) rest

/-- The digits that are left of a positive coefficient without the zeros at its end. -/
theorem dropFinalZeros_spec {d : Decimal} (nonzero : d.coefficient ≠ 0) :
    let digits := Nat.toDigits 10 d.coefficient
    let kept := dropFinalZeros digits
    AllDigits kept ∧ kept ≠ [] ∧ kept.head? ≠ some '0' ∧ kept.getLast? ≠ some '0' ∧
      digitsValue kept * 10 ^ (d.exponent + (digits.length - 1 : ℕ) + 1 - kept.length) =
        d.value := by
  intro digits kept
  obtain ⟨count, split⟩ : ∃ count, digits = kept ++ List.replicate count '0' :=
    exists_eq_trimEnd '0' digits
  have leading : digits.head? ≠ some '0' := head?_toDigits (Nat.pos_of_ne_zero nonzero)
  have nonempty : kept ≠ [] := by
    intro empty
    rw [empty, List.nil_append] at split
    have some : digits ≠ [] := Nat.toDigits_ne_nil
    rw [split] at leading some
    obtain ⟨more, rfl⟩ := Nat.exists_eq_succ_of_ne_zero (mt (congrArg (List.replicate · '0')) some)
    exact leading rfl
  have value : d.coefficient = digitsValue kept * 10 ^ count := by
    have whole : digitsValue digits = d.coefficient := digitsValue_toDigits _
    rw [← whole, split, digitsValue_append, digitsValue_replicate_zero, List.length_replicate,
      Nat.add_zero]
  have places : d.exponent + (digits.length - 1 : ℕ) + 1 - kept.length = d.exponent + count := by
    have some := List.length_pos_of_ne_nil nonempty
    rw [split, List.length_append, List.length_replicate]
    omega
  refine ⟨(allDigits_toDigits _).of_subset (trimEnd_subset _ _), nonempty, ?_,
    getLast?_trimEnd _ _, ?_⟩
  · rwa [split, List.head?_append_of_ne_nil _ nonempty] at leading
  · unfold Decimal.value
    rw [places, value, zpow_add₀ (by norm_num), zpow_natCast]
    push_cast
    ring

/-- A positive decimal is written as itself, in one of the two notations. -/
theorem write_denotes (layout : Layout) {d : Decimal} (nonzero : d.coefficient ≠ 0) :
    IsFixed (write layout d) d.value ∨
      ∃ e, IsScientific layout.exponentDigits (write layout d) d.value e := by
  obtain ⟨own, nonempty, leading, last, value⟩ := dropFinalZeros_spec nonzero
  unfold write
  simp only
  rw [← value]
  split_ifs
  · exact .inl (isFixed_positional own nonempty leading last _)
  · exact .inr ⟨_, isScientific_scientific _ own nonempty leading last _⟩

/-- One layout, and a number in each of its notations. -/
example :
    String.ofList (write ⟨-4, 3, 2⟩ ⟨2500, -1⟩) = "250.0" ∧
      String.ofList (write ⟨-4, 3, 2⟩ ⟨2500, 0⟩) = "2.5e+03" := by decide +kernel

end

end BestTimes.Decimal
