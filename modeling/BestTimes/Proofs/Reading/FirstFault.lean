import BestTimes.Proofs.Reading
set_option autoImplicit false

/-!
# Where reading stops

Reading stops at the first line that has a fault.  `LineFault` says what the fault of a line
is, for the line alone: it is not UTF-8, or else its number does not fit 64 bits, or else it
is marked and refused as a measurement.  A line without a marker has a number as well, so the
second can stop the reading at a line that would have been passed over.

`IsFirstFault` adds that no line in front has a fault.  There is at most one such line, and it
decides everything (`read_up_to_first_fault`): the measurements in front of it are recorded, in
order and with the events that belong to them, its fault is how the reading ends, and no line
behind it is looked at.  Without such a line all measurements are recorded and the lines are
counted.
-/

namespace BestTimes

namespace Measurement

/-! ## Faults of lines -/

/-- What is wrong with a line that `before` lines precede. -/
inductive LineFault (before : Nat) (line : List UInt8) : Fault → Prop where
  /-- The line is not UTF-8, whatever its number. -/
  | notUtf8 (undecoded : Text.decode line = none) : LineFault before line (.error (.io .notUtf8))
  /-- The number of the line does not fit 64 bits, whatever the line says. -/
  | unnumbered {text : String} (decoded : Text.decode line = some text)
      (limit : lineLimit ≤ before + 1) : LineFault before line (.overflow .addition)
  /-- The line is refused under its number. -/
  | refused {text : String} {cause : Error} (decoded : Text.decode line = some text)
      (numbered : before + 1 < lineLimit) (read : ofLine? text (before + 1) = .error cause) :
      LineFault before line (.error cause)

theorem lineFault_iff {before : Nat} {line : List UInt8} {fault : Fault} :
    LineFault before line fault ↔ ofBytes? before line = .error fault := by
  unfold ofBytes?
  constructor
  · intro h
    cases h with
    | notUtf8 undecoded => rw [undecoded]
    | unnumbered decoded limit =>
      rw [decoded]
      exact if_neg (Nat.not_lt.2 limit)
    | refused decoded numbered read =>
      rw [decoded]
      simp only [numbered, if_true, read]
      rfl
  · intro h
    split at h
    · rename_i undecoded
      cases h
      exact .notUtf8 undecoded
    · rename_i text decoded
      split at h
      · rename_i numbered
        cases read : ofLine? text (before + 1) with
        | error cause =>
          rw [read] at h
          cases h
          exact .refused decoded numbered read
        | ok found =>
          rw [read] at h
          cases h
      · rename_i limit
        cases h
        exact .unnumbered decoded (Nat.not_lt.1 limit)

theorem LineFault.unique {before : Nat} {line : List UInt8} {fault other : Fault}
    (h : LineFault before line fault) (again : LineFault before line other) : fault = other := by
  rw [lineFault_iff] at h again
  rw [h] at again
  exact Except.error.inj again

theorem unsupportedUnit_of_ofString {text : String} {cause : Error}
    (h : TimeUnit.ofString text = .error cause) : cause = .unsupportedUnit text := by
  unfold TimeUnit.ofString at h
  split at h
  · cases h
  · split at h
    · cases h
    · split at h
      · cases h
      · cases h
        rfl

/-- Fields are refused under the number of their line, or for their unit. -/
theorem cause_of_ofFields {number : Nat} {line : String} {fields : List String} {cause : Error}
    (h : ofFields number line fields = .error cause) :
    (∃ unit, cause = .unsupportedUnit unit) ∨ ∃ defect, cause = .malformedLine number defect := by
  unfold ofFields at h
  split at h
  · rename_i unit _
    split at h
    · cases h
      exact .inr ⟨_, rfl⟩
    · split at h
      · cases known : TimeUnit.ofString unit with
        | error refused =>
          rw [known] at h
          cases h
          exact .inl ⟨unit, unsupportedUnit_of_ofString known⟩
        | ok u =>
          rw [known] at h
          cases h
      · cases h
        exact .inr ⟨_, rfl⟩
  · cases h
    exact .inr ⟨_, rfl⟩

theorem cause_of_ofLine? {line : String} {number : Nat} {cause : Error}
    (h : ofLine? line number = .error cause) :
    (∃ unit, cause = .unsupportedUnit unit) ∨ ∃ defect, cause = .malformedLine number defect := by
  by_cases marked : Marked line
  · rw [ofLine?_of_marked marked] at h
    cases read : ofFields number (Text.stripped line)
        ((Text.fields line.toList).map String.ofList) with
    | error refused =>
      rw [read] at h
      cases h
      exact cause_of_ofFields read
    | ok m =>
      rw [read] at h
      cases h
  · rw [ofLine?_of_not_marked marked] at h
    cases h

/-- A malformed line is reported under its own number. -/
theorem LineFault.number_eq {before number : Nat} {line : List UInt8} {defect : Defect}
    (h : LineFault before line (.error (.malformedLine number defect))) : number = before + 1 := by
  cases h with
  | refused _ _ read =>
    rcases cause_of_ofLine? read with ⟨unit, other⟩ | ⟨found, own⟩
    · cases other
    · cases own
      rfl

/-- The one access that can fail at a line is that to its text. -/
theorem LineFault.eq_notUtf8 {before : Nat} {line : List UInt8} {failure : IoFailure}
    (h : LineFault before line (.error (.io failure))) : failure = .notUtf8 := by
  cases h with
  | notUtf8 _ => rfl
  | refused _ _ read =>
    rcases cause_of_ofLine? read with ⟨unit, other⟩ | ⟨defect, other⟩ <;> cases other

/-- No line fails as a file that cannot be opened. -/
theorem LineFault.ne_unopenedFile {before : Nat} {line : List UInt8} {path : String}
    {failure : IoFailure} : ¬ LineFault before line (.error (.unopenedFile path failure)) := by
  intro h
  cases h with
  | refused _ _ read =>
    rcases cause_of_ofLine? read with ⟨unit, other⟩ | ⟨defect, other⟩ <;> cases other

/-! ## The first fault -/

/-- Whether no line has a fault, where `before` lines precede them. -/
def Faultless (before : Nat) (lines : List (List UInt8)) : Prop :=
  ∀ i line, lines[i]? = some line → ∀ fault, ¬ LineFault (before + i) line fault

/-- Whether the line at a place, counted from zero, is the first with a fault. -/
structure IsFirstFault (before : Nat) (lines : List (List UInt8)) (place : Nat)
    (fault : Fault) : Prop where
  here : ∃ line, lines[place]? = some line ∧ LineFault (before + place) line fault
  faultless : ∀ i < place, ∀ line, lines[i]? = some line →
    ∀ other, ¬ LineFault (before + i) line other

variable {before place : Nat} {line : List UInt8} {lines : List (List UInt8)} {fault : Fault}

theorem faultless_cons (sound : ∀ fault, ¬ LineFault before line fault)
    (rest : Faultless (before + 1) lines) : Faultless before (line :: lines) := by
  intro i other found
  cases i with
  | zero =>
    cases found
    exact sound
  | succ i =>
    have places : before + 1 + i = before + (i + 1) := by omega
    exact places ▸ rest i other found

theorem IsFirstFault.head (h : LineFault before line fault) :
    IsFirstFault before (line :: lines) 0 fault where
  here := ⟨line, rfl, h⟩
  faultless := fun i less => absurd less (Nat.not_lt_zero i)

theorem IsFirstFault.cons (sound : ∀ fault, ¬ LineFault before line fault)
    (h : IsFirstFault (before + 1) lines place fault) :
    IsFirstFault before (line :: lines) (place + 1) fault where
  here := by
    obtain ⟨other, found, faulty⟩ := h.here
    have places : before + 1 + place = before + (place + 1) := by omega
    exact ⟨other, found, places ▸ faulty⟩
  faultless := by
    intro i less other found
    cases i with
    | zero =>
      cases found
      exact sound
    | succ i =>
      have places : before + 1 + i = before + (i + 1) := by omega
      exact places ▸ h.faultless i (Nat.lt_of_succ_lt_succ less) other found

theorem IsFirstFault.not_faultless (h : IsFirstFault before lines place fault) :
    ¬ Faultless before lines := by
  intro sound
  obtain ⟨line, found, faulty⟩ := h.here
  exact sound place line found fault faulty

/-- There is one first fault at most. -/
theorem IsFirstFault.unique {other : Nat} {fault' : Fault}
    (h : IsFirstFault before lines place fault) (again : IsFirstFault before lines other fault') :
    place = other ∧ fault = fault' := by
  obtain ⟨line, found, faulty⟩ := h.here
  obtain ⟨line', found', faulty'⟩ := again.here
  rcases Nat.lt_trichotomy place other with less | rfl | more
  · exact absurd faulty (again.faultless place less line found fault)
  · rw [found] at found'
    cases found'
    exact ⟨rfl, faulty.unique faulty'⟩
  · exact absurd faulty' (h.faultless other more line' found' fault')

/-- The lines behind the first fault have no part in it. -/
theorem IsFirstFault.congr {others : List (List UInt8)}
    (h : IsFirstFault before lines place fault)
    (same : others.take (place + 1) = lines.take (place + 1)) :
    IsFirstFault before others place fault := by
  have alike : ∀ i < place + 1, others[i]? = lines[i]? := by
    intro i less
    have at_i := congrArg (·[i]?) same
    simpa only [List.getElem?_take_of_lt less] using at_i
  constructor
  · rw [alike place (Nat.lt_succ_self place)]
    exact h.here
  · intro i less
    rw [alike i (Nat.lt_succ_of_lt less)]
    exact h.faultless i less

/-! ## Surveys up to the first fault -/

/-- The measurement in a line of bytes, if it is a text that is one. -/
def inBytes? (line : List UInt8) : Option Measurement := (Text.decode line).bind inLine?

/-- The measurements in lines of bytes, in order. -/
def inLines (lines : List (List UInt8)) : List Measurement := lines.filterMap inBytes?

/-- What is read in a line is the measurement in it, whatever its number. -/
theorem inBytes?_of_ofBytes? {found : Option Measurement}
    (read : ofBytes? before line = .ok found) : inBytes? line = found := by
  unfold inBytes?
  cases decoded : Text.decode line with
  | none =>
    unfold ofBytes? at read
    rw [decoded] at read
    cases read
  | some text =>
    rw [← Text.encode_of_decode decoded] at read
    obtain ⟨numbered, legible⟩ := legible_of_ofBytes? read
    rw [ofBytes?_encode legible numbered] at read
    exact Except.ok.inj read

/-- A survey ends behind the last line, or at the first fault. -/
theorem survey_cases (before : Nat) (lines : List (List UInt8)) :
    (Faultless before lines ∧ survey before lines = (inLines lines, .ok ())) ∨
      ∃ place fault, IsFirstFault before lines place fault ∧
        survey before lines = (inLines (lines.take place), .error fault) := by
  induction lines generalizing before with
  | nil => exact .inl ⟨fun i line found => (by cases found), rfl⟩
  | cons line lines ih =>
    unfold survey
    cases read : ofBytes? before line with
    | error fault => exact .inr ⟨0, fault, .head (lineFault_iff.2 read), rfl⟩
    | ok found =>
      have sound : ∀ fault, ¬ LineFault before line fault := by
        intro fault faulty
        rw [lineFault_iff, read] at faulty
        cases faulty
      have own (rest : List (List UInt8)) :
          inLines (line :: rest) = found.toList ++ inLines rest := by
        unfold inLines
        rw [List.filterMap_cons, inBytes?_of_ofBytes? read]
        cases found with
        | none => rfl
        | some m => rfl
      rcases ih (before + 1) with ⟨rest, ends⟩ | ⟨place, fault, first, ends⟩
      · refine .inl ⟨faultless_cons sound rest, ?_⟩
        rw [own, ends]
      · refine .inr ⟨place + 1, fault, first.cons sound, ?_⟩
        rw [List.take_succ_cons, own, ends]

theorem survey_of_faultless (h : Faultless before lines) :
    survey before lines = (inLines lines, .ok ()) := by
  rcases survey_cases before lines with ⟨-, ends⟩ | ⟨place, fault, first, -⟩
  · exact ends
  · exact absurd h first.not_faultless

theorem survey_of_isFirstFault (h : IsFirstFault before lines place fault) :
    survey before lines = (inLines (lines.take place), .error fault) := by
  rcases survey_cases before lines with ⟨sound, -⟩ | ⟨other, fault', first, ends⟩
  · exact absurd sound h.not_faultless
  · obtain ⟨rfl, rfl⟩ := h.unique first
    exact ends

end Measurement

namespace Registry

open Measurement (Faultless IsFirstFault inLines)

/-! ## Events -/

/-- What is told while measurements are recorded in order: those that are the best of their
benchmark so far. -/
def newBests (r : Registry) : List Measurement → List Event
  | [] => []
  | m :: ms =>
    (if (r.record m).2 then [.newBest m.name m.timing.nanos] else []) ++ (r.record m).1.newBests ms

theorem events_recordLines (r : Registry) (before : Nat) (lines : List (List UInt8)) :
    (r.recordLines before lines).events =
      r.newBests (Measurement.survey before lines).1 := by
  induction lines generalizing r before with
  | nil => rfl
  | cons line lines ih =>
    unfold recordLines Measurement.survey
    cases Measurement.ofBytes? before line with
    | error fault => rfl
    | ok found =>
      cases found with
      | none => exact ih r (before + 1)
      | some m => exact congrArg (_ ++ ·) (ih (r.record m).1 (before + 1))

theorem events_read (r : Registry) (before : Nat) (bytes : List UInt8) :
    (r.read before bytes).events =
      r.newBests (Measurement.survey before (Text.lines bytes)).1 := by
  rw [← events_recordLines]
  unfold read
  rw [Progress.events_andThen]
  cases (r.recordLines before (Text.lines bytes)).outcome with
  | ok _ => exact List.append_nil _
  | error fault => rfl

/-- All that reading does is decided by what a survey of the lines finds. -/
theorem read_eq_of_survey {before : Nat} {bytes : List UInt8} {ms : List Measurement}
    {ending : Except Fault Unit}
    (h : Measurement.survey before (Text.lines bytes) = (ms, ending)) (r : Registry) :
    r.read before bytes =
      ⟨r.recordAll ms, r.newBests ms, ending.map fun _ => (Text.lines bytes).length⟩ := by
  have left := r.registry_read before bytes
  have told := r.events_read before bytes
  have ended := r.outcome_read before bytes
  rw [h] at left told ended
  rw [← left, ← told, ← ended]

/-! ## Main result -/

/-- What reading does, for every registry, all bytes, and any number of lines in front of
them.  If no line has a fault, all measurements are recorded and the lines are counted.  The
first line with a fault ends the reading with its fault, under its own number in the stream if
it is malformed; just the measurements in front of it are recorded, and bytes with other lines
behind it are read alike.  There is no third case. -/
theorem read_up_to_first_fault (r : Registry) (before : Nat) (bytes : List UInt8) :
    let lines := Text.lines bytes
    (Faultless before lines →
        r.read before bytes =
          ⟨r.recordAll (inLines lines), r.newBests (inLines lines), .ok lines.length⟩) ∧
      (∀ j fault, IsFirstFault before lines j fault →
        r.read before bytes =
            ⟨r.recordAll (inLines (lines.take j)), r.newBests (inLines (lines.take j)),
              .error fault⟩ ∧
          (∀ number defect, fault = .error (.malformedLine number defect) →
            number = before + j + 1) ∧
          ∀ other, (Text.lines other).take (j + 1) = lines.take (j + 1) →
            r.read before other = r.read before bytes) ∧
      (Faultless before lines ∨ ∃ j fault, IsFirstFault before lines j fault) := by
  intro lines
  refine ⟨?_, ?_, ?_⟩
  · intro sound
    exact read_eq_of_survey (Measurement.survey_of_faultless sound) r
  · intro j fault first
    have stopped := read_eq_of_survey (Measurement.survey_of_isFirstFault first) r
    refine ⟨stopped, ?_, ?_⟩
    · rintro number defect rfl
      obtain ⟨line, -, faulty⟩ := first.here
      exact faulty.number_eq
    · intro other same
      have front : (Text.lines other).take j = lines.take j := by
        have cut := congrArg (List.take j) same
        rwa [List.take_take, List.take_take, Nat.min_eq_left (Nat.le_succ j)] at cut
      have again := read_eq_of_survey (Measurement.survey_of_isFirstFault (first.congr same)) r
      rw [stopped, again, front]
      rfl
  · rcases Measurement.survey_cases before lines with ⟨sound, -⟩ | ⟨j, fault, first, -⟩
    · exact .inl sound
    · exact .inr ⟨j, fault, first⟩

/-- The last number that fits belongs to the second line here.  The third line is no
measurement, and stops the reading in front of the malformed fourth. -/
example :
    let text := "noise\nmanual time: [1 ns 5 ns 9 ns]\nnoise\nbroken time:\n"
    let stopped := empty.read (lineLimit - 3) (Text.encode text)
    stopped.outcome = .error (.overflow .addition) ∧ stopped.registry.size = 1 := by
  decide +kernel

end Registry

end BestTimes
