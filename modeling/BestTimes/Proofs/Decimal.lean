import BestTimes.Decimal.Integer
import BestTimes.Decimal.Significant
set_option autoImplicit false

/-!
# The characters of written numbers

However a number is written, it is written with digits, signs, the point, and the
letters of an exponent and of the words for what is not finite (`isNumeric`).  So no
written number can be taken for anything else in the text around it.  Parts of it are
digits only (`AllDigits`).
-/

namespace BestTimes.Decimal

/-! ## Digits -/

/-- Whether all of a text are digits. -/
def AllDigits (text : List Char) : Prop := ∀ c ∈ text, c.isDigit = true

instance (text : List Char) : Decidable (AllDigits text) := List.decidableBAll _ text

namespace AllDigits

variable {digits other : List Char}

theorem append (h : AllDigits digits) (k : AllDigits other) : AllDigits (digits ++ other) :=
  List.forall_mem_append.2 ⟨h, k⟩

theorem of_subset (h : AllDigits digits) (part : other ⊆ digits) : AllDigits other :=
  fun c m => h c (part m)

theorem not_mem (h : AllDigits digits) {c : Char} (other : c.isDigit = false) :
    c ∉ digits := by
  intro m
  rw [h c m] at other
  cases other

end AllDigits

theorem allDigits_toDigits (n : Nat) : AllDigits (Nat.toDigits 10 n) :=
  fun _ m => Nat.isDigit_of_mem_toDigits (by decide) (by decide) m

theorem allDigits_replicate_zero (n : Nat) : AllDigits (List.replicate n '0') := by
  intro c m
  rw [List.eq_of_mem_replicate m]
  rfl

theorem allDigits_padded (least n : Nat) : AllDigits (padded least n) :=
  (allDigits_replicate_zero _).append (allDigits_toDigits n)

theorem trimEnd_subset (c : Char) (text : List Char) : trimEnd c text ⊆ text := by
  intro d m
  unfold trimEnd at m
  rw [List.mem_reverse] at m
  exact List.mem_reverse.1 (List.dropWhile_subset _ m)

/-! ## All characters -/

/-- The characters that numbers are written with. -/
def isNumeric (c : Char) : Bool := c.isDigit || ['+', '-', '.', 'e', 'i', 'n', 'f', 'a'].contains c

/-- Whether a text is written with the characters of numbers. -/
def Numeric (text : List Char) : Prop := ∀ c ∈ text, isNumeric c = true

instance (text : List Char) : Decidable (Numeric text) := List.decidableBAll _ text

namespace Numeric

variable {text other : List Char}

theorem append (h : Numeric text) (k : Numeric other) : Numeric (text ++ other) :=
  List.forall_mem_append.2 ⟨h, k⟩

theorem cons {c : Char} (h : isNumeric c = true) (k : Numeric text) : Numeric (c :: text) :=
  List.forall_mem_cons.2 ⟨h, k⟩

theorem of_subset (h : Numeric text) (part : other ⊆ text) : Numeric other :=
  fun c m => h c (part m)

end Numeric

theorem AllDigits.numeric {digits : List Char} (h : AllDigits digits) : Numeric digits := by
  intro c m
  unfold isNumeric
  rw [h c m, Bool.true_or]

theorem numeric_integer (i : Int) : Numeric (integer i) := by
  unfold integer
  split
  · exact (allDigits_toDigits _).numeric.cons rfl
  · exact (allDigits_toDigits _).numeric

theorem numeric_withSign {size : List Char} (h : Numeric size) (negative : Bool) :
    Numeric (withSign negative size) := by
  cases negative with
  | false => exact h
  | true => exact h.cons rfl

variable {digits : List Char}

theorem numeric_trimEnd (h : Numeric digits) (c : Char) : Numeric (trimEnd c digits) :=
  h.of_subset (trimEnd_subset c digits)

theorem numeric_exponentText (least : Nat) (exponent : Int) :
    Numeric (exponentText least exponent) := by
  unfold exponentText
  refine Numeric.cons ?_ (allDigits_padded _ _).numeric
  split <;> rfl

theorem numeric_pointed (h : Numeric digits) (places : Nat) : Numeric (pointed places digits) := by
  unfold pointed
  simp only
  split
  · exact h
  · refine Numeric.append (h.of_subset (List.take_subset _ _)) (Numeric.cons rfl ?_)
    exact h.of_subset (List.drop_subset _ _)

theorem numeric_fixed (places : Nat) (negative : Bool) (m : Magnitude) :
    Numeric (fixed places negative m) :=
  numeric_withSign (numeric_pointed (allDigits_padded _ _).numeric _) _

theorem numeric_scientificForm (places : Nat) (negative : Bool) (m : Magnitude) :
    Numeric (scientificForm places negative m).mantissa := by
  refine numeric_withSign (numeric_pointed ?_ _) _
  exact (allDigits_toDigits _).numeric.of_subset (List.take_subset _ _)

theorem numeric_trimFraction (h : Numeric digits) :
    Numeric (trimFraction digits) := by
  unfold trimFraction
  split
  · exact numeric_trimEnd (numeric_trimEnd h _) _
  · exact h

theorem numeric_significantDigits (digits : Nat) (negative : Bool) (m : Magnitude) :
    Numeric (significantDigits digits negative m) := by
  unfold significantDigits
  simp only
  split
  · have trimmed := fun places => numeric_trimFraction (numeric_fixed places negative m)
    unfold withFraction
    split
    · exact trimmed _
    · exact (trimmed _).append (by decide)
  · refine (numeric_trimFraction (numeric_scientificForm _ _ _)).append ?_
    exact Numeric.cons rfl (numeric_exponentText _ _)

/-- A number with a count of significant digits is written with the characters of
numbers. -/
theorem numeric_significant (digits : Nat) (x : Binary64) :
    Numeric (significant digits x).toList := by
  cases x with
  | nan =>
    have word : Numeric "nan".toList := by decide
    exact word
  | infinite negative =>
    have words : Numeric "-inf".toList ∧ Numeric "inf".toList := by decide
    cases negative with
    | false => exact words.2
    | true => exact words.1
  | finite negative m =>
    unfold significant
    rw [String.toList_ofList]
    split
    · exact numeric_withSign (by decide) negative
    · exact numeric_significantDigits _ negative m

end BestTimes.Decimal
