import BestTimes.Script
set_option autoImplicit false

/-!
# What a script writes

An unbounded writer takes every text, so a script that runs on one writes all its texts
and ends as it says (`run_none`).  On any other writer it ends so too, or in an error
(`outcome_run`).

A writer with room for a number of bytes holds the first ones of what an unbounded
writer would hold, as many as there is room for (`bytes_run_some`).  The script ends as
it says if they are all of them, and otherwise in the error of the text that holds the
first byte without room (`outcome_run_some`, `outcome_runSteps_append`).

How texts are cut into writes makes no difference: a script that writes them in pieces
leaves the same behind (`Cut.runSteps_eq`).
-/

namespace BestTimes.Script

/-- The bytes that a step writes. -/
def Step.bytes : Step → List UInt8
  | .write text _ => Text.encode text
  | .log _ => []

/-- The event that a step logs. -/
def Step.event? : Step → Option Event
  | .write .. => none
  | .log event => some event

theorem runSteps_none (outcome : Except Fault Unit) (steps : List Step) :
    runSteps outcome none steps =
      ⟨steps.flatMap Step.bytes, steps.filterMap Step.event?, outcome⟩ := by
  induction steps with
  | nil => rfl
  | cons step steps ih =>
    cases step with
    | write text onFull => rw [runSteps, ih]; rfl
    | log event => rw [runSteps, ih]; rfl

/-- A script on an unbounded writer. -/
theorem run_none (s : Script) :
    s.run none = ⟨s.steps.flatMap Step.bytes, s.steps.filterMap Step.event?, s.outcome⟩ :=
  runSteps_none s.outcome s.steps

theorem outcome_run_none (s : Script) : (s.run none).outcome = s.outcome := by
  rw [run_none]

theorem outcome_runSteps (outcome : Except Fault Unit) (room : Option Nat) (steps : List Step) :
    (runSteps outcome room steps).outcome = outcome ∨
      ∃ cause, (runSteps outcome room steps).outcome = .error (.error cause) := by
  induction steps generalizing room with
  | nil => exact .inl rfl
  | cons step steps ih =>
    cases step with
    | log event => exact ih room
    | write text onFull =>
      cases room with
      | none => exact ih none
      | some room =>
        rw [runSteps]
        by_cases fits : (Text.encode text).length ≤ room
        · simp only [fits, if_true]
          exact ih _
        · simp only [fits, if_false]
          exact .inr ⟨onFull, rfl⟩

/-- A script ends as it says, or in an error because its writer is full. -/
theorem outcome_run (s : Script) (room : Option Nat) :
    (s.run room).outcome = s.outcome ∨ ∃ cause, (s.run room).outcome = .error (.error cause) :=
  outcome_runSteps s.outcome room s.steps

/-! ## Writers with a bound -/

/-- What is held is a beginning of all that is to be written. -/
theorem bytes_runSteps_some (outcome : Except Fault Unit) (room : Nat) (steps : List Step) :
    (runSteps outcome (some room) steps).bytes = (steps.flatMap Step.bytes).take room := by
  induction steps generalizing room with
  | nil => exact List.take_nil.symm
  | cons step steps ih =>
    cases step with
    | log event => exact ih room
    | write text onFull =>
      rw [List.flatMap_cons, List.take_append, runSteps]
      by_cases fits : (Text.encode text).length ≤ room
      · simp only [fits, if_true, ih]
        rw [Step.bytes, List.take_of_length_le fits]
      · have full : room - (Text.encode text).length = 0 := by omega
        simp only [fits, if_false]
        rw [Step.bytes, full, List.take_zero, List.append_nil]

theorem bytes_run_some (s : Script) (room : Nat) :
    (s.run (some room)).bytes = (s.run none).bytes.take room := by
  rw [run_none]
  exact bytes_runSteps_some s.outcome room s.steps

/-- Further steps are run if there is room for all that is in front of them. -/
theorem outcome_runSteps_append (outcome : Except Fault Unit) (room : Nat)
    (front back : List Step) :
    (runSteps outcome (some room) (front ++ back)).outcome =
      if (front.flatMap Step.bytes).length ≤ room then
        (runSteps outcome (some (room - (front.flatMap Step.bytes).length)) back).outcome
      else (runSteps outcome (some room) front).outcome := by
  induction front generalizing room with
  | nil => rfl
  | cons step front ih =>
    cases step with
    | log event => exact ih room
    | write text onFull =>
      rw [List.cons_append, runSteps, runSteps, List.flatMap_cons, List.length_append, Step.bytes]
      by_cases fits : (Text.encode text).length ≤ room
      · simp only [fits, if_true, ih, Nat.sub_sub]
        -- Either side asks whether the text and the rest of the front have room.
        by_cases rest : (front.flatMap Step.bytes).length ≤ room - (Text.encode text).length
        · rw [if_pos rest, if_pos (by omega)]
        · rw [if_neg rest, if_neg (by omega)]
      · have full : ¬ (Text.encode text).length + (front.flatMap Step.bytes).length ≤ room := by
          omega
        simp only [fits, full, if_false]

/-- Whether a step fails with an error if its text has no room.  Logging does not fail. -/
def Step.FailsWith (cause : Error) : Step → Prop
  | .write _ onFull => onFull = cause
  | .log _ => True

/-- Steps that all fail with the same error fail with it just if they are too long. -/
theorem outcome_runSteps_some {cause : Error} {steps : List Step}
    (same : ∀ step ∈ steps, step.FailsWith cause) (outcome : Except Fault Unit) (room : Nat) :
    (runSteps outcome (some room) steps).outcome =
      if (steps.flatMap Step.bytes).length ≤ room then outcome else .error (.error cause) := by
  induction steps generalizing room with
  | nil => rfl
  | cons step steps ih =>
    obtain ⟨own, rest⟩ := List.forall_mem_cons.1 same
    have front := outcome_runSteps_append outcome room [step] steps
    rw [List.singleton_append, List.flatMap_singleton, ih rest] at front
    rw [front, List.flatMap_cons, List.length_append]
    by_cases fits : step.bytes.length ≤ room
    · rw [if_pos fits]
      by_cases later : (steps.flatMap Step.bytes).length ≤ room - step.bytes.length
      · rw [if_pos later, if_pos (by omega)]
      · rw [if_neg later, if_neg (by omega)]
    · rw [if_neg fits, if_neg (by omega)]
      cases step with
      | log event => exact absurd (Nat.zero_le room) fits
      | write text onFull =>
        rw [runSteps]
        exact (congrArg Written.outcome (if_neg fits)).trans (by rw [own])

theorem outcome_run_some {cause : Error} {s : Script}
    (same : ∀ step ∈ s.steps, step.FailsWith cause) (room : Nat) :
    (s.run (some room)).outcome =
      if (s.run none).bytes.length ≤ room then (s.run none).outcome
      else .error (.error cause) := by
  rw [run_none]
  exact outcome_runSteps_some same s.outcome room

/-! ## Texts in pieces -/

/-- Whether steps write the texts of other steps in pieces: each text cut into any number
of writes, in order, all with the error of the text. -/
inductive Cut : List Step → List Step → Prop where
  | nil : Cut [] []
  | log (event : Event) {steps whole : List Step} (rest : Cut steps whole) :
    Cut (.log event :: steps) (.log event :: whole)
  | write (pieces : List String) (onFull : Error) {steps whole : List Step}
      (rest : Cut steps whole) :
    Cut (pieces.map (.write · onFull) ++ steps) (.write (String.join pieces) onFull :: whole)

variable (outcome : Except Fault Unit) (room : Option Nat)

/-- An empty text has room in every writer. -/
theorem runSteps_write_empty (onFull : Error) (rest : List Step) :
    runSteps outcome room (.write "" onFull :: rest) = runSteps outcome room rest := by
  cases room with
  | none => rfl
  | some room => rfl

/-- Two texts one after the other are written as one text. -/
theorem runSteps_write_write (a b : String) (onFull : Error) (rest : List Step) :
    runSteps outcome room (.write a onFull :: .write b onFull :: rest) =
      runSteps outcome room (.write (a ++ b) onFull :: rest) := by
  cases room with
  | none => simp only [runSteps, Text.encode_append, List.append_assoc]
  | some room =>
    simp only [runSteps, Text.encode_append, List.length_append, List.take_append]
    by_cases first : (Text.encode a).length ≤ room
    · by_cases second : (Text.encode b).length ≤ room - (Text.encode a).length
      · have both : (Text.encode a).length + (Text.encode b).length ≤ room := by omega
        simp only [first, second, both, if_true, List.append_assoc, Nat.sub_sub]
      · have full : ¬ (Text.encode a).length + (Text.encode b).length ≤ room := by omega
        simp only [first, second, full, if_true, if_false, List.take_of_length_le]
    · have full : ¬ (Text.encode a).length + (Text.encode b).length ≤ room := by omega
      have none : room - (Text.encode a).length = 0 := by omega
      simp only [first, full, none, if_false, List.take_zero, List.append_nil]

/-- Steps that come to the same on every writer come to the same behind another step. -/
theorem runSteps_cons_congr {steps others : List Step}
    (same : ∀ room, runSteps outcome room steps = runSteps outcome room others) (step : Step) :
    runSteps outcome room (step :: steps) = runSteps outcome room (step :: others) := by
  cases step with
  | log event => simp only [runSteps, same]
  | write text onFull =>
    cases room with
    | none => simp only [runSteps, same]
    | some room => simp only [runSteps, same]

theorem runSteps_pieces (pieces : List String) (onFull : Error) (rest : List Step) :
    runSteps outcome room (pieces.map (.write · onFull) ++ rest) =
      runSteps outcome room (.write (String.join pieces) onFull :: rest) := by
  induction pieces generalizing room with
  | nil => exact (runSteps_write_empty outcome room onFull rest).symm
  | cons piece pieces ih =>
    calc runSteps outcome room (.write piece onFull :: (pieces.map (.write · onFull) ++ rest))
        = runSteps outcome room
            (.write piece onFull :: .write (String.join pieces) onFull :: rest) :=
          runSteps_cons_congr outcome room ih _
      _ = runSteps outcome room (.write (piece ++ String.join pieces) onFull :: rest) :=
          runSteps_write_write outcome room _ _ onFull rest
      _ = runSteps outcome room (.write (String.join (piece :: pieces)) onFull :: rest) := by
          rw [String.join_cons]

/-- Steps that write texts in pieces leave behind what the whole texts do, in every
writer. -/
theorem Cut.runSteps_eq {steps whole : List Step} (h : Cut steps whole) :
    runSteps outcome room steps = runSteps outcome room whole := by
  induction h generalizing room with
  | nil => rfl
  | log event _ ih => exact runSteps_cons_congr outcome room ih _
  | write pieces onFull _ ih =>
    rw [runSteps_pieces]
    exact runSteps_cons_congr outcome room ih _

end BestTimes.Script
