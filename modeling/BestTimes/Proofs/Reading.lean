import BestTimes.Reading
import BestTimes.Proofs.Measurement
import BestTimes.Proofs.Registry.Recording
import BestTimes.Proofs.Text.Lines
set_option autoImplicit false

/-!
# What reading does to a registry

Reading records while it goes.  `survey` says what lines hold without recording
anything: the measurements of the lines in front of the first that fails, and how the
reading ends.  Reading is then recording these measurements, whatever the registry was
(`registry_read`), and it ends as the survey says (`outcome_read`).

A line is *legible* if it is read without an error: it is no measurement, or is one.
Legible lines in memory are all read, and what they hold is found line by line
(`survey_of_legible`).  A text is read to its end only if its lines are legible
(`exists_outcome_ofText_iff`).
-/

namespace BestTimes

namespace Measurement

/-- What lines hold that `before` lines precede: the measurements in front of the first
line that fails, and how the reading ends. -/
def survey (before : Nat) : List (List UInt8) → List Measurement × Except Fault Unit
  | [] => ([], .ok ())
  | line :: rest =>
    match ofBytes? before line with
    | .error fault => ([], .error fault)
    | .ok found =>
      let later := survey (before + 1) rest
      (found.toList ++ later.1, later.2)

/-- A line of bytes with a measurement is a text with it. -/
theorem exists_text_of_ofBytes? {before : Nat} {line : List UInt8} {m : Measurement}
    (h : ofBytes? before line = .ok (some m)) :
    ∃ text, Text.decode line = some text ∧ ofLine? text (before + 1) = .ok (some m) := by
  unfold ofBytes? at h
  split at h
  · cases h
  · rename_i text decoded
    split at h
    · refine ⟨text, decoded, ?_⟩
      cases read : ofLine? text (before + 1) with
      | error cause =>
        rw [read] at h
        cases h
      | ok found =>
        rw [read] at h
        exact congrArg Except.ok (Except.ok.inj h)
    · cases h

/-- Every measurement that is found stands in one of the lines. -/
theorem exists_line_of_mem_survey {before : Nat} {cut : List (List UInt8)} {m : Measurement}
    (h : m ∈ (survey before cut).1) :
    ∃ line ∈ cut, ∃ text number, Text.decode line = some text ∧
      ofLine? text number = .ok (some m) := by
  induction cut generalizing before with
  | nil => cases h
  | cons line cut ih =>
    unfold survey at h
    split at h
    · cases h
    · rename_i found read
      rcases List.mem_append.1 h with own | later
      · rw [Option.mem_toList] at own
        rw [own] at read
        obtain ⟨text, decoded, spoken⟩ := exists_text_of_ofBytes? read
        exact ⟨line, List.mem_cons_self, text, before + 1, decoded, spoken⟩
      · obtain ⟨other, mem, rest⟩ := ih later
        exact ⟨other, List.mem_cons_of_mem _ mem, rest⟩

/-- There are no more measurements than lines. -/
theorem length_survey_le (before : Nat) (cut : List (List UInt8)) :
    (survey before cut).1.length ≤ cut.length := by
  induction cut generalizing before with
  | nil => exact Nat.le_refl 0
  | cons line cut ih =>
    unfold survey
    split
    · exact Nat.zero_le _
    · rename_i found read
      have later := ih (before + 1)
      have own : found.toList.length ≤ 1 := by cases found <;> simp
      rw [List.length_append, List.length_cons]
      omega

/-! ## Lines without a number -/

/-- Whether a line is read without an error. -/
def Legible (line : String) : Prop :=
  ¬ Marked line ∨ ∃ number m, ofLine? line number = .ok (some m)

/-- The measurement in a line, if it is one. -/
def inLine? (line : String) : Option Measurement :=
  match ofLine? line 1 with
  | .ok found => found
  | .error _ => none

theorem inLine?_of_not_marked {line : String} (h : ¬ Marked line) : inLine? line = none := by
  unfold inLine?
  rw [ofLine?_of_not_marked h]

theorem inLine?_of_ofLine? {line : String} {number : Nat} {m : Measurement}
    (h : ofLine? line number = .ok (some m)) : inLine? line = some m := by
  unfold inLine?
  rw [ofLine?_renumber h]

theorem ofLine?_of_legible {line : String} (h : Legible line) (number : Nat) :
    ofLine? line number = .ok (inLine? line) := by
  rcases h with unmarked | ⟨other, m, read⟩
  · rw [ofLine?_of_not_marked unmarked, inLine?_of_not_marked unmarked]
  · rw [ofLine?_renumber read, inLine?_of_ofLine? read]

theorem legible_iff (line : String) :
    Legible line ↔ ¬ Marked line ∨ (inLine? line).isSome = true := by
  constructor
  · rintro (unmarked | ⟨number, m, read⟩)
    · exact .inl unmarked
    · exact .inr (by rw [inLine?_of_ofLine? read]; rfl)
  · rintro (unmarked | found)
    · exact .inl unmarked
    · obtain ⟨m, found⟩ := Option.isSome_iff_exists.1 found
      unfold inLine? at found
      split at found
      · rename_i read
        exact .inr ⟨1, m, found ▸ read⟩
      · cases found

instance (line : String) : Decidable (Legible line) := decidable_of_iff _ (legible_iff line).symm

/-- The measurements in lines, in order. -/
def ofLines (lines : List String) : List Measurement := lines.filterMap inLine?

theorem ofBytes?_encode {line : String} {before : Nat} (h : Legible line)
    (fits : before + 1 < lineLimit) :
    ofBytes? before (Text.encode line) = .ok (inLine? line) := by
  unfold ofBytes?
  rw [Text.decode_encode]
  simp only [fits, if_true, ofLine?_of_legible h]
  rfl

/-- Legible lines are all read, if their numbers fit 64 bits. -/
theorem survey_of_legible {lines : List String} (h : ∀ line ∈ lines, Legible line)
    (before : Nat) (fits : before + lines.length < lineLimit) :
    survey before (lines.map Text.encode) = (ofLines lines, .ok ()) := by
  induction lines generalizing before with
  | nil => rfl
  | cons line lines ih =>
    obtain ⟨own, rest⟩ := List.forall_mem_cons.1 h
    rw [List.length_cons] at fits
    have later := ih rest (before + 1) (by omega)
    rw [List.map_cons, survey, ofBytes?_encode own (by omega), later]
    unfold ofLines
    cases found : inLine? line <;> simp [found]

/-- A line that is read without an error has a number and is legible. -/
theorem legible_of_ofBytes? {line : String} {before : Nat} {found : Option Measurement}
    (h : ofBytes? before (Text.encode line) = .ok found) :
    before + 1 < lineLimit ∧ Legible line := by
  unfold ofBytes? at h
  rw [Text.decode_encode] at h
  simp only at h
  split at h
  · rename_i numbered
    refine ⟨numbered, ?_⟩
    by_cases marked : Marked line
    · rw [ofLine?_of_marked marked] at h
      cases read : ofFields (before + 1) (Text.stripped line)
          ((Text.fields line.toList).map String.ofList) with
      | error cause =>
        rw [read] at h
        cases h
      | ok m => exact .inr ⟨before + 1, m, ofLine?_eq_some_iff.2 ⟨marked, read⟩⟩
    · exact .inl marked
  · cases h

/-- Lines that are all read without an error have numbers and are legible. -/
theorem legible_of_survey {lines : List String} {before : Nat} (numbered : before < lineLimit)
    (h : (survey before (lines.map Text.encode)).2 = .ok ()) :
    before + lines.length < lineLimit ∧ ∀ line ∈ lines, Legible line := by
  induction lines generalizing before with
  | nil => exact ⟨numbered, fun _ m => (List.not_mem_nil m).elim⟩
  | cons line lines ih =>
    rw [List.map_cons] at h
    unfold survey at h
    split at h
    · cases h
    · rename_i found read
      obtain ⟨next, own⟩ := legible_of_ofBytes? read
      obtain ⟨last, rest⟩ := ih next h
      rw [List.length_cons]
      exact ⟨by omega, List.forall_mem_cons.2 ⟨own, rest⟩⟩

/-- The lines that are kept with measurements are the marked lines, stripped. -/
theorem map_line_ofLines {lines : List String} (h : ∀ line ∈ lines, Legible line) :
    (ofLines lines).map (·.timing.line) = (lines.filter Marked).map Text.stripped := by
  induction lines with
  | nil => rfl
  | cons line lines ih =>
    obtain ⟨own, rest⟩ := List.forall_mem_cons.1 h
    have later := ih rest
    unfold ofLines at later ⊢
    rcases own with unmarked | ⟨number, m, read⟩
    · rw [List.filterMap_cons_none (inLine?_of_not_marked unmarked), later,
        List.filter_cons_of_neg (by simpa using unmarked)]
    · have marked := (ofLine?_eq_some_iff.1 read).1
      rw [List.filterMap_cons_some (inLine?_of_ofLine? read), List.map_cons, later,
        List.filter_cons_of_pos (by simpa using marked), List.map_cons, line_of_ofLine? read]

end Measurement

/-! ## Reading -/

/-- The lines that are read of what a path leads to.  The line that a failure falls into is
not one of them. -/
def Source.lines : Source → List (List UInt8)
  | .closed _ => []
  | .unreadable _ bytes => Text.lines (Text.endedPart bytes)
  | .content bytes => Text.lines bytes

namespace Registry

/-- Recording lines is recording the measurements that a survey of them finds. -/
theorem recordLines_eq_survey (r : Registry) (before : Nat) (cut : List (List UInt8)) :
    (r.recordLines before cut).registry = r.recordAll (Measurement.survey before cut).1 ∧
      (r.recordLines before cut).outcome = (Measurement.survey before cut).2 := by
  induction cut generalizing r before with
  | nil => exact ⟨rfl, rfl⟩
  | cons line cut ih =>
    unfold recordLines Measurement.survey
    cases Measurement.ofBytes? before line with
    | error fault => exact ⟨rfl, rfl⟩
    | ok found =>
      cases found with
      | none => exact ih r (before + 1)
      | some m => exact ih (r.record m).1 (before + 1)

theorem registry_read (r : Registry) (before : Nat) (bytes : List UInt8) :
    (r.read before bytes).registry =
      r.recordAll (Measurement.survey before (Text.lines bytes)).1 := by
  obtain ⟨left, ended⟩ := r.recordLines_eq_survey before (Text.lines bytes)
  unfold read
  rw [← left, Progress.registry_andThen]
  cases (r.recordLines before (Text.lines bytes)).outcome with
  | ok _ => rfl
  | error fault => rfl

theorem outcome_read (r : Registry) (before : Nat) (bytes : List UInt8) :
    (r.read before bytes).outcome =
      (Measurement.survey before (Text.lines bytes)).2.map fun _ => (Text.lines bytes).length := by
  obtain ⟨left, ended⟩ := r.recordLines_eq_survey before (Text.lines bytes)
  unfold read
  rw [← ended, Progress.outcome_andThen]
  cases (r.recordLines before (Text.lines bytes)).outcome with
  | ok _ => rfl
  | error fault => rfl

theorem outcome_read_eq_ok_iff (r : Registry) (before : Nat) (bytes : List UInt8)
    (count : Nat) :
    (r.read before bytes).outcome = .ok count ↔
      (Measurement.survey before (Text.lines bytes)).2 = .ok () ∧
        count = (Text.lines bytes).length := by
  rw [outcome_read]
  cases (Measurement.survey before (Text.lines bytes)).2 with
  | error fault => simp [Except.map]
  | ok _ => simp [Except.map, eq_comm]

theorem outcome_read_eq_error_iff (r : Registry) (before : Nat) (bytes : List UInt8)
    (fault : Fault) :
    (r.read before bytes).outcome = .error fault ↔
      (Measurement.survey before (Text.lines bytes)).2 = .error fault := by
  rw [outcome_read]
  cases (Measurement.survey before (Text.lines bytes)).2 with
  | error fault => simp [Except.map]
  | ok _ => simp [Except.map]

/-- The lines of what is in memory can all be numbered. -/
theorem memoryLimit_lt_lineLimit : Text.memoryLimit < lineLimit := by decide

/-- A text of legible lines is read to its end, and its registry is what its
measurements record. -/
theorem ofText_of_legible {text : String} (fits : (Text.linesOf text).length < lineLimit)
    (h : ∀ line ∈ Text.linesOf text, Measurement.Legible line) :
    (ofText text).outcome = .ok (Text.linesOf text).length ∧
      (ofText text).registry = empty.recordAll (Measurement.ofLines (Text.linesOf text)) := by
  have found := Measurement.survey_of_legible h 0 (by omega)
  rw [Text.map_encode_linesOf] at found
  unfold ofText
  rw [outcome_read, registry_read, found, Text.length_linesOf]
  exact ⟨rfl, rfl⟩

/-- A text is read to its end just if its lines can be numbered and are all legible. -/
theorem exists_outcome_ofText_iff (text : String) :
    (∃ count, (ofText text).outcome = .ok count) ↔
      (Text.linesOf text).length < lineLimit ∧
        ∀ line ∈ Text.linesOf text, Measurement.Legible line := by
  constructor
  · rintro ⟨count, read⟩
    obtain ⟨complete, -⟩ := (outcome_read_eq_ok_iff _ _ _ _).1 read
    rw [← Text.map_encode_linesOf] at complete
    have limit : 0 < lineLimit := by decide
    rw [← Nat.zero_add (Text.linesOf text).length]
    exact Measurement.legible_of_survey limit complete
  · rintro ⟨fits, legible⟩
    exact ⟨_, (ofText_of_legible fits legible).1⟩

/-- A registry that was read summarises the measurements that were found. -/
theorem summarises_ofText (text : String) :
    Summarises (ofText text).registry
      (Measurement.survey 0 (Text.lines (Text.encode text))).1 := by
  unfold ofText
  rw [registry_read]
  exact summarises_recordAll _

end Registry

end BestTimes
