import BestTimes.Proofs.Decimal.Significant
set_option autoImplicit false

/-!
# The grammar of printed numbers

`IsNumeral` says how a number other than zero may be printed: a sign if it is negative, and a
numeral in fixed or in scientific notation.  Nothing is said there of the number that is
denoted; the grammar counts the *significant* digits of the text, those from the first one on
that is not a zero, and allows no zero at the end of a fraction that could be left out.

The notations of a number (`IsFixed`, `IsScientific`) do not bound the digits.  They are few
because the number has few: with a fraction longer than its places, a rounded number would end
in a zero (`length_fraction_le`).  So whatever count of digits is asked for, no more of them are
printed (`isNumeral_significant`).
-/

namespace BestTimes.Decimal

variable {digits whole fraction size : List Char}

/-! ## Digits from the first and from the last -/

theorem digitsValue_cons (c : Char) (digits : List Char) :
    digitsValue (c :: digits) = (c.toNat - '0'.toNat) * 10 ^ digits.length + digitsValue digits := by
  rw [← List.singleton_append, digitsValue_append]
  unfold digitsValue
  rw [Nat.ofDigitChars_cons, Nat.mul_zero, Nat.zero_add]
  rfl

theorem toNat_bounds_of_isDigit {c : Char} (h : c.isDigit = true) :
    '0'.toNat ≤ c.toNat ∧ c.toNat ≤ '9'.toNat := by
  unfold Char.isDigit at h
  rw [Bool.and_eq_true, decide_eq_true_iff, decide_eq_true_iff] at h
  exact h

/-- Digits of which the first is not a zero are at least the power of ten at its place. -/
theorem pow_le_digitsValue {c : Char} (digit : c.isDigit = true) (nonzero : c ≠ '0')
    (digits : List Char) : 10 ^ digits.length ≤ digitsValue (c :: digits) := by
  have least := (toNat_bounds_of_isDigit digit).1
  have other : c.toNat ≠ '0'.toNat := mt Char.toNat_inj.1 nonzero
  have one : 1 ≤ c.toNat - '0'.toNat := by omega
  rw [digitsValue_cons]
  exact Nat.le_add_right_of_le (Nat.le_mul_of_pos_left _ one)

/-- Digits of a multiple of ten end in a zero. -/
theorem getLast?_of_dvd (h : AllDigits digits) (nonempty : digits ≠ [])
    (tens : 10 ∣ digitsValue digits) : digits.getLast? = some '0' := by
  obtain ⟨front, last, rfl⟩ := List.eq_nil_or_concat digits |>.resolve_left nonempty
  rw [List.concat_eq_append] at h tens ⊢
  obtain ⟨least, most⟩ := toNat_bounds_of_isDigit (h last (by simp))
  have nine : '9'.toNat = '0'.toNat + 9 := rfl
  rw [digitsValue_append, digitsValue_cons] at tens
  have own : digitsValue [] = 0 := rfl
  rw [own, List.length_singleton, List.length_nil, pow_one, pow_zero, Nat.mul_one,
    Nat.add_zero] at tens
  have zero : last.toNat = '0'.toNat := by omega
  rw [List.getLast?_concat, Char.toNat_inj.1 zero]

/-! ## Significant digits -/

/-- The significant ones among digits: those from the first on that is not a zero. -/
def significantPart (digits : List Char) : List Char := digits.dropWhile (· == '0')

theorem digitsValue_significantPart (digits : List Char) :
    digitsValue (significantPart digits) = digitsValue digits := by
  induction digits with
  | nil => rfl
  | cons c digits ih =>
    unfold significantPart at ih ⊢
    rw [List.dropWhile_cons]
    split_ifs with zero
    · rw [ih, digitsValue_cons, beq_iff_eq.1 zero, Nat.sub_self, Nat.zero_mul, Nat.zero_add]
    · rfl

/-- The first significant digit, of digits that have one. -/
theorem exists_significantPart_eq (h : AllDigits digits) (some : significantPart digits ≠ []) :
    ∃ first others, significantPart digits = first :: others ∧ first ∈ digits ∧
      first.isDigit = true ∧ first ≠ '0' := by
  obtain ⟨first, others, split⟩ := List.exists_cons_of_ne_nil some
  have mem : first ∈ digits :=
    List.dropWhile_subset _ (split ▸ List.mem_cons_self : first ∈ significantPart digits)
  have not := List.head?_dropWhile_not (· == '0') digits
  unfold significantPart at split
  rw [split] at not
  exact ⟨first, others, split, mem, h first mem, beq_eq_false_iff_ne.1 not⟩

/-- There is a significant digit unless the digits denote zero. -/
theorem significantPart_ne_nil (nonzero : digitsValue digits ≠ 0) : significantPart digits ≠ [] := by
  intro none
  have value := digitsValue_significantPart digits
  rw [none] at value
  exact nonzero value.symm

/-- A number below a power of ten has no more significant digits. -/
theorem length_significantPart_le {count : ℕ} (h : AllDigits digits)
    (less : digitsValue digits < 10 ^ count) : (significantPart digits).length ≤ count := by
  by_cases some : significantPart digits = []
  · rw [some]
    exact Nat.zero_le count
  · obtain ⟨first, others, split, -, digit, nonzero⟩ := exists_significantPart_eq h some
    have least := pow_le_digitsValue digit nonzero others
    rw [← split, digitsValue_significantPart] at least
    have shorter := (Nat.pow_lt_pow_iff_right (by decide)).1 (least.trans_lt less)
    rw [split, List.length_cons]
    exact shorter

/-! ## Fractions without superfluous zeros -/

/-- A multiple of `10 ^ -places` that is written without a superfluous zero has at most so many
digits behind the point, so its digits are no more than its count. -/
theorem length_fraction_le {places n : ℕ} (h : AllDigits (whole ++ fraction))
    (last : places < fraction.length → fraction.getLast? ≠ some '0')
    (value : pointedValue whole fraction = n / 10 ^ places) :
    fraction.length ≤ places ∧ digitsValue (whole ++ fraction) ≤ n ∧
      (n ≠ 0 → digitsValue (whole ++ fraction) ≠ 0) := by
  rw [pointedValue_eq_div, div_eq_div_iff (by positivity) (by positivity)] at value
  have scaled : digitsValue (whole ++ fraction) * 10 ^ places = n * 10 ^ fraction.length := by
    exact_mod_cast value
  have few : fraction.length ≤ places := by
    by_contra more
    have longer : places < fraction.length := by omega
    have nonempty : fraction ≠ [] := List.ne_nil_of_length_pos (by omega)
    refine last longer ?_
    have parts : fraction.length = fraction.length - places - 1 + 1 + places := by omega
    rw [parts, pow_add, pow_succ, ← Nat.mul_assoc, ← Nat.mul_assoc] at scaled
    have tens : 10 ∣ digitsValue (whole ++ fraction) :=
      ⟨_, (Nat.eq_of_mul_eq_mul_right (by positivity) scaled).trans (Nat.mul_comm _ _)⟩
    have ends := getLast?_of_dvd h (List.append_ne_nil_of_right_ne_nil _ nonempty) tens
    rwa [List.getLast?_append_of_ne_nil _ nonempty] at ends
  refine ⟨few, ?_, ?_⟩
  · have parts : places = places - fraction.length + fraction.length := by omega
    rw [parts, pow_add, ← Nat.mul_assoc] at scaled
    have whole' := Nat.eq_of_mul_eq_mul_right (by positivity) scaled
    exact (Nat.le_mul_of_pos_right _ (by positivity)).trans_eq whole'
  · intro nonzero none
    rw [none, Nat.zero_mul, eq_comm, Nat.mul_eq_zero] at scaled
    rcases scaled with zero | zero
    · exact nonzero zero
    · exact absurd zero (by positivity)

/-! ## Numerals -/

/-- Whether a text is a numeral in fixed notation, other than zero, with at most `count`
significant digits: digits, a point, and at least one digit, and no zero in front of other
digits or behind other digits of the fraction. -/
def IsFixedNumeral (count : ℕ) (text : List Char) : Prop :=
  ∃ whole fraction : List Char, text = whole ++ '.' :: fraction ∧ IsWhole whole ∧
    AllDigits fraction ∧ fraction ≠ [] ∧ (1 < fraction.length → fraction.getLast? ≠ some '0') ∧
    significantPart (whole ++ fraction) ≠ [] ∧ (significantPart (whole ++ fraction)).length ≤ count

/-- Whether a text is a numeral in scientific notation, other than zero, with at most `count`
digits in its mantissa: one digit that is not a zero, a fraction that does not end in a zero or
none, the letter, and an exponent with its sign and at least two digits. -/
def IsScientificNumeral (count : ℕ) (text : List Char) : Prop :=
  ∃ (first : Char) (fraction : List Char) (sign : Char) (exponent : List Char),
    text = first :: fractionPart fraction ++ 'e' :: sign :: exponent ∧
    first.isDigit = true ∧ first ≠ '0' ∧ AllDigits fraction ∧ fraction.getLast? ≠ some '0' ∧
    fraction.length + 1 ≤ count ∧ sign ∈ ['+', '-'] ∧ AllDigits exponent ∧ 2 ≤ exponent.length

/-- Whether a text is a numeral other than zero, with a sign if it is negative, and with at most
`count` significant digits. -/
def IsNumeral (count : ℕ) (negative : Bool) (text : String) : Prop :=
  ∃ size, text.toList = withSign negative size ∧
    (IsFixedNumeral count size ∨ IsScientificNumeral count size)

/-- A number with few digits in fixed notation. -/
theorem IsFixed.isFixedNumeral {count q : ℕ} {e : ℤ} (nonzero : q ≠ 0) (few : q < 10 ^ (count + 1))
    (below : e < count) (h : IsFixed size (q * 10 ^ (e - count))) :
    IsFixedNumeral (count + 1) size := by
  obtain ⟨whole, fraction, split, front, digits, some, last, value⟩ := h
  obtain ⟨places, place⟩ : ∃ places : ℕ, (count : ℤ) - e = places :=
    Int.eq_ofNat_of_zero_le (by omega)
  have opposite : e - count = -(places : ℤ) := by omega
  rw [opposite, zpow_neg, zpow_natCast, ← div_eq_mul_inv] at value
  have all := front.digits.append digits
  obtain ⟨-, most, least⟩ := length_fraction_le all (fun more => last (by omega)) value
  exact ⟨whole, fraction, split, front, digits, some, last,
    significantPart_ne_nil (least nonzero), length_significantPart_le all (most.trans_lt few)⟩

/-- A number with few digits in scientific notation. -/
theorem IsScientific.isScientificNumeral {count q : ℕ} {e : ℤ}
    (h : IsScientific 2 size (q * 10 ^ (e - count)) e) : IsScientificNumeral (count + 1) size := by
  obtain ⟨first, fraction, exponent, split, digit, leading, digits, last, digits', least, -, -, -,
    value⟩ := h
  have mantissa : pointedValue [first] fraction = q / 10 ^ count := by
    rw [zpow_sub₀ (by norm_num), zpow_natCast, ← mul_div_assoc, mul_div_right_comm] at value
    exact mul_right_cancel₀ (by positivity) value
  have all : AllDigits ([first] ++ fraction) := List.forall_mem_cons.2 ⟨digit, digits⟩
  obtain ⟨few, -, -⟩ := length_fraction_le all (fun _ => last) mantissa
  refine ⟨first, fraction, _, exponent, split, digit, leading, digits, last, by omega, ?_, digits',
    least⟩
  split_ifs <;> decide

/-- What is printed with significant digits is a numeral with at most so many, and with the sign
of the number. -/
theorem isNumeral_significant (digits : ℕ) (negative : Bool) {m : Magnitude}
    (nonzero : m.units ≠ 0) :
    IsNumeral (max digits 1) negative (significant digits (.finite negative m)) := by
  obtain ⟨count, one⟩ : ∃ count, max digits 1 = count + 1 := Nat.exists_eq_add_one.2 (by omega)
  obtain ⟨size, q, e, -, text, rounded, denotes⟩ := exists_significantDigits count negative nonzero
  have least : 10 ^ count ≤ q := rounded.least_le
  have some : q ≠ 0 := (Nat.lt_of_lt_of_le (by positivity) least).ne'
  refine ⟨size, ?_, ?_⟩
  · unfold significant
    simp only [if_neg nonzero, String.toList_ofList, one, text]
  · rw [one]
    split_ifs at denotes with range
    · exact .inl (denotes.isFixedNumeral some rounded.lt_limit range.2)
    · exact .inr denotes.isScientificNumeral

/-- A numeral shows a digit that is not a zero. -/
theorem IsNumeral.exists_digit {count : ℕ} {negative : Bool} {text : String}
    (h : IsNumeral count negative text) : ∃ c ∈ text.toList, c.isDigit = true ∧ c ≠ '0' := by
  obtain ⟨size, written, numeral⟩ := h
  have within : size ⊆ text.toList := by
    rw [written]
    cases negative with
    | false => exact List.Subset.refl _
    | true => exact List.subset_cons_self _ _
  rcases numeral with ⟨whole, fraction, rfl, front, digits, -, -, some, -⟩ |
    ⟨first, fraction, sign, exponent, rfl, digit, leading, -⟩
  · obtain ⟨first, others, -, mem, digit, nonzero⟩ :=
      exists_significantPart_eq (front.digits.append digits) some
    refine ⟨first, within ?_, digit, nonzero⟩
    rcases List.mem_append.1 mem with whole | part
    · exact List.mem_append_left _ whole
    · exact List.mem_append_right _ (List.mem_cons_of_mem _ part)
  · exact ⟨first, within List.mem_cons_self, digit, leading⟩

end BestTimes.Decimal
