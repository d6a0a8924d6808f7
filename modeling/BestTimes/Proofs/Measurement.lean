import BestTimes.Measurement
import BestTimes.Proofs.Text.Blank
set_option autoImplicit false

/-!
# What a line says

A line is a measurement only if the marker stands in it (`ofLine?_of_not_marked`).
What it says does not depend on the blanks at its ends (`ofLine?_stripped`) nor, as
long as nothing is wrong with it, on its number (`ofLine?_renumber`).  The line that is
kept with a measurement is the stripped one, so reading that line gives the measurement
again (`ofLine?_line`).
-/

namespace BestTimes

namespace Text

/-- A line without the blanks at its ends. -/
def stripped (line : String) : String := String.ofList (trim line.toList)

theorem stripped_stripped (line : String) : stripped (stripped line) = stripped line := by
  unfold stripped
  rw [String.toList_ofList, trim_trim]

end Text

namespace Measurement

/-- Whether the marker of a measurement stands in a line. -/
def Marked (line : String) : Prop := marker.toList <:+: line.toList

instance (line : String) : Decidable (Marked line) :=
  decidable_of_iff _ (Text.holds_iff marker.toList line.toList)

/-- There is no blank in the marker. -/
theorem isBlank_of_mem_marker : ∀ c ∈ marker.toList, Text.isBlank c = false := by
  have letters : marker.toList.all (fun c => !Text.isBlank c) = true := by decide
  simpa using letters

theorem marked_stripped_iff (line : String) : Marked (Text.stripped line) ↔ Marked line := by
  unfold Marked Text.stripped
  rw [String.toList_ofList]
  exact Text.infix_trim_iff (by decide) isBlank_of_mem_marker

/-- The tokens of a line. -/
def tokens (line : String) : List String := (Text.fields line.toList).map String.ofList

/-- The marker stands in one of the tokens of a marked line. -/
theorem marked_iff_exists_token (line : String) :
    Marked line ↔ ∃ token ∈ tokens line, marker.toList <:+: token.toList := by
  unfold Marked tokens
  rw [Text.infix_iff_exists_field (by decide) isBlank_of_mem_marker]
  simp only [List.mem_map, exists_exists_and_eq_and, String.toList_ofList]

theorem ofLine?_of_not_marked {line : String} (h : ¬ Marked line) (number : Nat) :
    ofLine? line number = .ok none := by
  have absent : Text.holds marker.toList line.toList = false := by
    rw [← Bool.not_eq_true, Text.holds_iff]
    exact h
  unfold ofLine?
  rw [absent]
  rfl

theorem ofLine?_of_marked {line : String} (h : Marked line) (number : Nat) :
    ofLine? line number =
      (ofFields number (Text.stripped line) ((Text.fields line.toList).map String.ofList)).map
        some := by
  have present : Text.holds marker.toList line.toList = true := (Text.holds_iff _ _).2 h
  unfold ofLine?
  rw [present]
  rfl

/-- The blanks at the ends of a line make no difference. -/
theorem ofLine?_stripped (line : String) (number : Nat) :
    ofLine? (Text.stripped line) number = ofLine? line number := by
  by_cases h : Marked line
  · have fields : Text.fields (Text.stripped line).toList = Text.fields line.toList := by
      unfold Text.stripped
      rw [String.toList_ofList, Text.fields_trim]
    rw [ofLine?_of_marked h, ofLine?_of_marked ((marked_stripped_iff line).2 h), fields,
      Text.stripped_stripped]
  · rw [ofLine?_of_not_marked h, ofLine?_of_not_marked (h ∘ (marked_stripped_iff line).1)]

/-- Nor does a carriage return behind it. -/
theorem ofLine?_append_return (line : String) (number : Nat) :
    ofLine? (line ++ "\r") number = ofLine? line number := by
  have same : Text.stripped (line ++ "\r") = Text.stripped line := by
    unfold Text.stripped
    rw [String.toList_append]
    exact congrArg String.ofList (Text.trim_concat rfl line.toList)
  rw [← ofLine?_stripped (line ++ "\r"), same, ofLine?_stripped]

/-- When fields are those of a measurement: there are six of them or more, the fifth is
a finite numeral, and the sixth names a unit. -/
theorem ofFields_eq_ok_iff {number : Nat} {line : String} {fields : List String}
    {m : Measurement} :
    ofFields number line fields = .ok m ↔
      ∃ name a b c value unit rest numeral u,
        fields = name :: a :: b :: c :: value :: unit :: rest ∧
        Numeral.ofChars? value.toList = some numeral ∧ numeral.toBinary64.isFinite = true ∧
        TimeUnit.ofString unit = .ok u ∧ m = ⟨name, u.toNanos numeral.toBinary64, line⟩ := by
  constructor
  · intro h
    unfold ofFields at h
    split at h
    · rename_i name a b c value unit rest
      split at h
      · cases h
      · rename_i numeral isNumeral
        split at h
        · rename_i finite
          cases known : TimeUnit.ofString unit with
          | error cause =>
            rw [known] at h
            cases h
          | ok u =>
            rw [known] at h
            exact ⟨name, a, b, c, value, unit, rest, numeral, u, rfl, isNumeral, finite, known,
              (Except.ok.inj h).symm⟩
        · cases h
    · cases h
  · rintro ⟨name, a, b, c, value, unit, rest, numeral, u, rfl, isNumeral, finite, known, rfl⟩
    simp only [ofFields, isNumeral, finite, if_true, known]
    rfl

theorem ofLine?_eq_some_iff {line : String} {number : Nat} {m : Measurement} :
    ofLine? line number = .ok (some m) ↔
      Marked line ∧ ofFields number (Text.stripped line)
        ((Text.fields line.toList).map String.ofList) = .ok m := by
  by_cases h : Marked line
  · rw [ofLine?_of_marked h]
    cases ofFields number (Text.stripped line) ((Text.fields line.toList).map String.ofList) with
    | error cause => simp [Except.map]
    | ok found => simp [Except.map, h]
  · rw [ofLine?_of_not_marked h]
    simp [h]

/-- The line that is kept with a measurement is the line it was read from, stripped. -/
theorem line_of_ofLine? {line : String} {number : Nat} {m : Measurement}
    (h : ofLine? line number = .ok (some m)) : m.timing.line = Text.stripped line := by
  obtain ⟨-, read⟩ := ofLine?_eq_some_iff.1 h
  obtain ⟨_, _, _, _, _, _, _, _, _, -, -, -, -, rfl⟩ := ofFields_eq_ok_iff.1 read
  rfl

/-- A measurement is the same under every number. -/
theorem ofLine?_renumber {line : String} {number : Nat} {m : Measurement}
    (h : ofLine? line number = .ok (some m)) (other : Nat) :
    ofLine? line other = .ok (some m) := by
  rw [ofLine?_eq_some_iff, ofFields_eq_ok_iff] at h ⊢
  exact h

/-- The line that is kept with a measurement says the same again. -/
theorem ofLine?_line {line : String} {number : Nat} {m : Measurement}
    (h : ofLine? line number = .ok (some m)) (other : Nat) :
    ofLine? m.timing.line other = .ok (some m) := by
  rw [line_of_ofLine? h, ofLine?_stripped]
  exact ofLine?_renumber h other

end Measurement

end BestTimes
