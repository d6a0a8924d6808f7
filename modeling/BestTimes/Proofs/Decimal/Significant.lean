import BestTimes.Decimal.Significant
import BestTimes.Proofs.Decimal.Notation
set_option autoImplicit false

/-!
# Significant digits are rounded correctly

A number is rounded twice to be written: to significant digits, to learn its exponent, and
then, if it is written positionally, from its exact value to the places that this exponent
leaves.  Where the first rounding carries to a new power of ten, the second one is on a
coarser grid.  The two still agree, so that the text denotes the number rounded once to
its significant digits (`significant?_eq_some`).

Trimming takes nothing away but zeros of the fraction, since all texts it is applied to
have a fraction unless they have one digit only (`trimFraction_fractionPart`).
-/

namespace BestTimes

namespace Magnitude

/-- The number that a magnitude is. -/
def value (m : Magnitude) : ℚ := m.units / unitsPerOne

end Magnitude

namespace Decimal

variable {front fraction digits : List Char} {negative : Bool} {m : Magnitude}

/-! ## Texts with a fraction -/

theorem pointed_eq {places : ℕ} (h : places ≤ digits.length) :
    pointed places digits =
      digits.take (digits.length - places) ++
        fractionPart (digits.drop (digits.length - places)) := by
  unfold pointed fractionPart
  simp only [List.drop_eq_nil_iff]
  split_ifs with none empty point
  · rw [none, Nat.sub_zero, List.take_length, List.append_nil]
  · omega
  · omega
  · rfl

theorem point_not_mem_withSign (h : AllDigits digits) : '.' ∉ withSign negative digits := by
  have plain := h.not_mem (c := '.') rfl
  cases negative with
  | false => exact plain
  | true => exact List.not_mem_cons_of_ne_of_not_mem (by decide) plain

/-- Trimming takes the zeros at the end of the fraction, and the point with them if there
were only zeros.  The digits in front of the point are left. -/
theorem trimFraction_fractionPart (plain : '.' ∉ front) (h : AllDigits fraction) :
    trimFraction (front ++ fractionPart fraction) =
      front ++ fractionPart (trimEnd '0' fraction) := by
  rcases eq_or_ne fraction [] with rfl | some
  · have whole : fractionPart [] = [] := rfl
    have none : trimEnd '0' [] = [] := rfl
    unfold trimFraction
    rw [none, whole, List.append_nil, List.contains_eq_mem, decide_eq_false plain,
      if_neg (by decide)]
  · have point : '.' ∈ front ++ '.' :: fraction := List.mem_append_right _ (List.mem_cons_self ..)
    have zeros : trimEnd '0' ('.' :: fraction) = '.' :: trimEnd '0' fraction := by
      rw [← List.singleton_append, trimEnd_append]
      split_ifs with empty
      · rw [empty]
        rfl
      · rfl
    unfold trimFraction
    rw [fractionPart, if_neg some, List.contains_eq_mem, decide_eq_true point, if_pos rfl,
      trimEnd_append, zeros, if_neg (List.cons_ne_nil _ _), fractionPart]
    have kept : '.' ∉ trimEnd '0' fraction := (h.of_subset (trimEnd_subset _ _)).not_mem rfl
    split_ifs with empty
    · rw [empty, trimEnd_append, List.append_nil]
      exact trimEnd_of_not_mem plain
    · rw [List.append_cons, trimEnd_append,
        trimEnd_of_not_mem kept, if_neg empty]

theorem withFraction_fractionPart (plain : '.' ∉ front) :
    withFraction (front ++ fractionPart fraction) = front ++ pointAnd fraction := by
  unfold withFraction fractionPart pointAnd
  rcases eq_or_ne fraction [] with rfl | some
  · rw [if_pos rfl, List.append_nil, List.contains_eq_mem, decide_eq_false plain]
    rfl
  · have point : '.' ∈ front ++ '.' :: fraction := List.mem_append_right _ (List.mem_cons_self ..)
    rw [if_neg some, List.contains_eq_mem, decide_eq_true point, if_pos rfl,
      List.isEmpty_eq_false_iff.2 some]
    rfl

/-! ## The two forms -/

/-- The digits in front of the point, where there are so many more than places that none has
to be a zero. -/
theorem isWhole_take_padded (places n : ℕ) :
    IsWhole ((padded (places + 1) n).take ((padded (places + 1) n).length - places)) := by
  have count := length_padded (places + 1) n
  refine ⟨(allDigits_padded _ _).of_subset (List.take_subset _ _), ?_, ?_⟩
  · apply List.ne_nil_of_length_pos
    rw [List.length_take]
    omega
  · intro more
    rw [List.length_take] at more
    rw [List.head?_take, if_neg (by omega)]
    exact head?_padded (by omega)

/-- A number with places behind the point, trimmed, is the number rounded to these places in
fixed notation. -/
theorem exists_isFixed (negative : Bool) (m : Magnitude) (places : ℕ) :
    ∃ size, withFraction (trimFraction (fixed places negative m)) = withSign negative size ∧
      IsFixed size
        (divNearest (m.units * Nat.pow 10 places) unitsPerOne / 10 ^ places) := by
  unfold fixed
  -- Nothing is needed of the rounded count of places but that it is written with its digits.
  generalize divNearest (m.units * Nat.pow 10 places) unitsPerOne = n
  have count := length_padded (places + 1) n
  have digits := allDigits_padded (places + 1) n
  have whole := isWhole_take_padded places n
  have value := pointedValue_eq_div
    ((padded (places + 1) n).take ((padded (places + 1) n).length - places))
    ((padded (places + 1) n).drop ((padded (places + 1) n).length - places))
  rw [List.take_append_drop, digitsValue_padded, List.length_drop, Nat.sub_sub_self (by omega),
    ← pointedValue_trimEnd] at value
  have fraction := digits.of_subset (List.drop_subset ((padded (places + 1) n).length - places) _)
  rw [pointed_eq (by omega), ← withSign_append,
    trimFraction_fractionPart (point_not_mem_withSign whole.digits) fraction,
    withFraction_fractionPart (point_not_mem_withSign whole.digits), withSign_append]
  refine ⟨_, rfl, ?_⟩
  rw [← value]
  exact isFixed_pointAnd whole (fraction.of_subset (trimEnd_subset _ _)) (getLast?_trimEnd _ _)

/-- Digits with the point behind the first of them, trimmed, are the mantissa of the number
in scientific notation. -/
theorem exists_isScientific (negative : Bool) {places q : ℕ} (e : ℤ) (positive : 0 < q)
    (count : digitCount q = places + 1) :
    ∃ size, trimFraction (withSign negative (pointed places (Nat.toDigits 10 q))) ++
        'e' :: exponentText 2 e = withSign negative size ∧
      IsScientific 2 size (q / 10 ^ places * 10 ^ e) e := by
  have digits := allDigits_toDigits q
  have leading := head?_toDigits positive
  have written := digitsValue_toDigits q
  have some : Nat.toDigits 10 q ≠ [] := Nat.toDigits_ne_nil
  obtain ⟨first, fraction, split⟩ := List.exists_cons_of_ne_nil some
  unfold digitCount at count
  rw [split] at digits leading written count ⊢
  rw [List.length_cons, Nat.add_right_cancel_iff] at count
  rw [List.head?_cons, ne_eq, Option.some.injEq] at leading
  have own : AllDigits [first] := digits.of_subset (by simp)
  have rest : AllDigits fraction := digits.of_subset (List.subset_cons_self _ _)
  have value := pointedValue_eq_div [first] fraction
  rw [List.singleton_append, written, count, ← pointedValue_trimEnd] at value
  have point : pointed places (first :: fraction) = [first] ++ fractionPart fraction := by
    rw [pointed_eq (by rw [List.length_cons]; omega), List.length_cons, count,
      Nat.add_sub_cancel_left]
    rfl
  rw [point, ← withSign_append, trimFraction_fractionPart (point_not_mem_withSign own) rest,
    List.append_assoc, withSign_append]
  refine ⟨_, rfl, ?_⟩
  rw [← value]
  exact isScientific_exponentText 2 e (own first (List.mem_singleton_self _)) leading
    (rest.of_subset (trimEnd_subset _ _)) (getLast?_trimEnd _ _)

/-! ## One rounding -/

/-- The scientific form has the digits and the exponent of the rounded number, also where
rounding carried to a digit more: then the last digit is a zero, and is not written. -/
theorem scientificForm_eq {count q : ℕ} {e : ℤ} (least : 10 ^ count ≤ q)
    (limit : q < 10 ^ (count + 1))
    (form : (roundTo (count + 1) m.units unitsPerOne).coefficient = q ∧
        leadingExponent m.units unitsPerOne = e ∨
      (roundTo (count + 1) m.units unitsPerOne).coefficient = 10 * q ∧
        leadingExponent m.units unitsPerOne + 1 = e) (negative : Bool) :
    scientificForm count negative m =
      ⟨withSign negative (pointed count (Nat.toDigits 10 q)), e⟩ := by
  have length : (Nat.toDigits 10 q).length = count + 1 := digitCount_eq least limit
  have last : (roundTo (count + 1) m.units unitsPerOne).exponent =
      leadingExponent m.units unitsPerOne + 1 - (count + 1 : ℕ) := lastExponent_eq (Nat.succ_pos _)
  unfold scientificForm
  simp only
  rw [last]
  rcases form with ⟨kept, first⟩ | ⟨carried, first⟩
  · have exponent : leadingExponent m.units unitsPerOne + 1 - (count + 1 : ℕ) +
        (count + 1 - 1 : ℕ) = e := by omega
    rw [kept, List.take_of_length_le length.le, length, exponent]
  -- Carried: there is one digit more than asked for, a zero, and only the others are taken.
  · have more : Nat.toDigits 10 (10 * q) = Nat.toDigits 10 q ++ ['0'] :=
      (Nat.toDigits_append_toDigits (b := 10) (d := 0) (by decide)
        (Nat.lt_of_lt_of_le (by positivity) least) (by decide)).symm
    have exponent : leadingExponent m.units unitsPerOne + 1 - (count + 1 : ℕ) +
        (count + 1 + 1 - 1 : ℕ) = e := by omega
    rw [carried, more, List.take_left' length, List.length_append, length, List.length_singleton,
      exponent]

/-- The places that the exponent after rounding leaves are those of the last significant
digit, and the nearest number of units of this place has the same digits. -/
theorem divNearest_placesFor {count q : ℕ} {e : ℤ} (below : e < count)
    (nearest : NearestEven (m.value / 10 ^ (e + 1 - (count + 1 : ℕ))) q) :
    divNearest (m.units * Nat.pow 10 (placesFor (count + 1) e)) unitsPerOne = q := by
  have place : e + 1 - (count + 1 : ℕ) = -(placesFor (count + 1) e : ℤ) := by
    unfold placesFor
    omega
  have scaled := nearestEven_divNearest (m.units * Nat.pow 10 (placesFor (count + 1) e))
    unitsPerOne_pos
  rw [Nat.cast_mul, Nat.pow_eq, Nat.cast_pow, Nat.cast_ofNat, mul_div_right_comm] at scaled
  rw [place, zpow_neg, zpow_natCast, div_inv_eq_mul] at nearest
  exact scaled.unique nearest

theorem isPositional_iff {count : ℕ} {e : ℤ} :
    isPositional (count + 1) e = true ↔ -4 ≤ e ∧ e < count := by
  unfold isPositional
  rw [decide_eq_true_iff]
  omega

/-- A number other than zero is written as the number rounded once to significant digits. -/
theorem exists_significantDigits (count : ℕ) (negative : Bool) {m : Magnitude}
    (nonzero : m.units ≠ 0) :
    ∃ (size : List Char) (q : ℕ) (e : ℤ),
      (scientificForm count negative m).exponent = e ∧
      significantDigits (count + 1) negative m = withSign negative size ∧
      RoundsTo (count + 1) m.value q e ∧
      if -4 ≤ e ∧ e < count then IsFixed size (q * 10 ^ (e - count))
      else IsScientific 2 size (q * 10 ^ (e - count)) e := by
  have some : 0 < count + 1 := Nat.succ_pos count
  obtain ⟨q, e, rounded, nearest, form⟩ :=
    exists_roundsTo some (Nat.pos_of_ne_zero nonzero) unitsPerOne_pos
  have least : 10 ^ count ≤ q := rounded.least_le
  have written := scientificForm_eq least rounded.lt_limit form negative
  unfold significantDigits
  simp only [Nat.add_sub_cancel, written, isPositional_iff]
  split_ifs with range
  · obtain ⟨size, text, denotes⟩ := exists_isFixed negative m (placesFor (count + 1) e)
    refine ⟨size, q, e, rfl, text, rounded, ?_⟩
    rw [if_pos range]
    have place : e - count = -(placesFor (count + 1) e : ℤ) := by
      unfold placesFor
      omega
    rw [divNearest_placesFor range.2 nearest] at denotes
    rw [place, zpow_neg, zpow_natCast, ← div_eq_mul_inv]
    exact denotes
  · obtain ⟨size, text, denotes⟩ := exists_isScientific negative e
      (Nat.lt_of_lt_of_le (Nat.pow_pos (by decide)) least) (digitCount_eq least rounded.lt_limit)
    refine ⟨size, q, e, rfl, text, rounded, ?_⟩
    rw [if_neg range, zpow_sub₀ (by norm_num), zpow_natCast, ← mul_div_assoc, mul_div_right_comm]
    exact denotes

/-! ## Characters -/

/-- The words for what is not a finite number. -/
def words : List String := ["inf", "-inf", "nan"]

/-- Whether a text is written with digits, points, signs and the letter of an exponent only, and
so without the other letters of those words. -/
def Wordless (text : List Char) : Prop :=
  ∀ c ∈ text, c.isDigit = true ∨ c ∈ ['.', '-', '+', 'e']

theorem Wordless.not_mem {text : List Char} (h : Wordless text) {c : Char}
    (digit : c.isDigit = false) (mark : c ∉ ['.', '-', '+', 'e']) : c ∉ text := by
  intro m
  rcases h c m with own | own
  · rw [own] at digit
    cases digit
  · exact mark own

theorem AllDigits.wordless (h : AllDigits digits) : Wordless digits := fun c m => .inl (h c m)

theorem IsFixed.wordless {text : List Char} {x : ℚ} (h : IsFixed text x) : Wordless text := by
  obtain ⟨whole, fraction, rfl, front, digits, -⟩ := h
  refine List.forall_mem_append.2 ⟨front.digits.wordless, ?_⟩
  exact List.forall_mem_cons.2 ⟨.inr (by decide), digits.wordless⟩

theorem IsScientific.wordless {least : ℕ} {text : List Char} {x : ℚ} {e : ℤ}
    (h : IsScientific least text x e) : Wordless text := by
  obtain ⟨first, fraction, exponent, rfl, digit, -, digits, -, digits', -⟩ := h
  refine List.forall_mem_append.2 ⟨List.forall_mem_cons.2 ⟨.inl digit, ?_⟩, ?_⟩
  · unfold fractionPart
    split_ifs
    · exact fun c m => (List.not_mem_nil m).elim
    · exact List.forall_mem_cons.2 ⟨.inr (by decide), digits.wordless⟩
  · refine List.forall_mem_cons.2 ⟨.inr (by decide), ?_⟩
    refine List.forall_mem_cons.2 ⟨.inr ?_, digits'.wordless⟩
    split_ifs <;> decide

theorem wordless_withSign {size : List Char} (h : Wordless size) (negative : Bool) :
    Wordless (withSign negative size) := by
  cases negative with
  | false => exact h
  | true => exact List.forall_mem_cons.2 ⟨.inr (by decide), h⟩

/-- A finite number is not written as a word. -/
theorem wordless_significant (digits : ℕ) {x : Binary64} (finite : x.isFinite = true) :
    Wordless (significant digits x).toList := by
  cases x with
  | nan => cases finite
  | infinite negative => cases finite
  | finite negative m =>
    unfold significant
    rw [String.toList_ofList]
    split_ifs with zero
    · refine wordless_withSign (List.forall_mem_cons.2 ⟨.inl rfl, ?_⟩) negative
      exact List.forall_mem_cons.2 ⟨.inr (by decide), (allDigits_replicate_zero 1).wordless⟩
    · obtain ⟨count, one⟩ : ∃ count, max digits 1 = count + 1 :=
        Nat.exists_eq_add_one.2 (by omega)
      obtain ⟨size, q, e, -, text, -, denotes⟩ := exists_significantDigits count negative zero
      rw [one, text]
      refine wordless_withSign ?_ negative
      split_ifs at denotes
      · exact denotes.wordless
      · exact denotes.wordless

/-- **A number with significant digits is correctly rounded.**  The text is the sign and the
number rounded once to the digits, in fixed notation where the exponent of the rounded number
is at least -4 and leaves a digit behind the point, and else in scientific notation. -/
theorem significant?_eq_some (digits : ℕ) (negative : Bool) (m : Magnitude)
    (few : digits ≤ 65531) (nonzero : m.units ≠ 0) :
    ∃ (size : List Char) (q : ℕ) (e : ℤ),
      significant? digits (.finite negative m) =
        some (String.ofList (if negative then '-' :: size else size)) ∧
      RoundsTo (max digits 1) m.value q e ∧
      if -4 ≤ e ∧ e < (max digits 1 : ℕ) - 1 then
        IsFixed size (q * 10 ^ (e + 1 - (max digits 1 : ℕ)))
      else IsScientific 2 size (q * 10 ^ (e + 1 - (max digits 1 : ℕ))) e := by
  obtain ⟨count, one⟩ : ∃ count, max digits 1 = count + 1 := Nat.exists_eq_add_one.2 (by omega)
  obtain ⟨size, q, e, exponent, text, rounded, denotes⟩ :=
    exists_significantDigits count negative nonzero
  have place : e + 1 - (count + 1 : ℕ) = e - count := by omega
  have top : ((count + 1 : ℕ) : ℤ) - 1 = count := by omega
  have places : significantPlaces digits (.finite negative m) ≤ maxPlaces := by
    have range : isPositional (count + 1) e = true ↔ -4 ≤ e ∧ e < count := isPositional_iff
    unfold significantPlaces placesFor maxPlaces
    simp only [one, Nat.add_sub_cancel, exponent]
    split_ifs with zero many positional
    · omega
    · omega
    · have bounds := range.1 positional
      omega
    · omega
  refine ⟨size, q, e, ?_, one ▸ rounded, ?_⟩
  · unfold significant? significant
    simp only [if_pos places, if_neg nonzero, one, text]
    rfl
  · rw [one, place, top]
    exact denotes

/-- The size of `2559 / 256`, which is `9.99609375`. -/
def nearlyTen : Magnitude := ⟨2559 * Nat.pow 2 1066, by decide +kernel, by decide +kernel⟩

/-- With three digits the first rounding carries, so one place is left for the second. -/
theorem significant?_of_carried :
    nearlyTen.units ≠ 0 ∧ significant? 3 (.finite true nearlyTen) = some "-10.0" ∧
    ∃ (size : List Char) (q : ℕ) (e : ℤ),
      significant? 3 (.finite true nearlyTen) = some (String.ofList ('-' :: size)) ∧
      RoundsTo (max 3 1) nearlyTen.value q e ∧
      if -4 ≤ e ∧ e < (max 3 1 : ℕ) - 1 then
        IsFixed size (q * 10 ^ (e + 1 - (max 3 1 : ℕ)))
      else IsScientific 2 size (q * 10 ^ (e + 1 - (max 3 1 : ℕ))) e := by
  have nonzero : nearlyTen.units ≠ 0 := by decide +kernel
  have written : significant? 3 (.finite true nearlyTen) = some "-10.0" := by decide +kernel
  exact ⟨nonzero, written, significant?_eq_some 3 true nearlyTen (by decide) nonzero⟩

end Decimal

end BestTimes
