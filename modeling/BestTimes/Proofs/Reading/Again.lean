import BestTimes.Proofs.Reading.FirstFault
set_option autoImplicit false

/-!
# Reading the same input again

A measurement is *settled* in a registry if its benchmark has a time that is not slower
(`Settled`).  Then recording it changes nothing (`record_of_settled`).  Recording settles a
measurement, whatever the registry held before, and no later one unsettles it, because a stored
time is only ever replaced by a faster one (`Settled.record`).

So what has been read is settled from then on.  To read it once more has the same outcome, and
leaves neither a change nor an event (`read_again`), also where the reading stops at a fault: the
second reading stops at the same line, and the measurements in front of it are settled.
-/

namespace BestTimes.Registry

variable {r : Registry} {m : Measurement} {ms : List Measurement}

/-! ## Settled measurements -/

/-- Whether a benchmark has a time that is at most that of a measurement. -/
def Settled (r : Registry) (m : Measurement) : Prop :=
  ∃ best, r.get? m.name = some best ∧ best.nanos ≤ m.timing.nanos

theorem record_of_settled (h : r.Settled m) : r.record m = (r, false) := by
  obtain ⟨best, stored, slower⟩ := h
  exact record_of_not_faster stored (Int.not_lt.2 slower)

/-- A measurement is settled when it has been recorded. -/
theorem settled_record (r : Registry) (m : Measurement) : (r.record m).1.Settled m := by
  cases stored : r.get? m.name with
  | none =>
    rw [record_of_new stored]
    exact ⟨m.timing, by rw [get?_append, if_pos rfl], Int.le_refl _⟩
  | some best =>
    by_cases faster : m.timing.nanos < best.nanos
    · rw [record_of_faster stored faster]
      exact ⟨m.timing, by rw [get?_replace, if_pos rfl, stored, Option.map_some], Int.le_refl _⟩
    · rw [record_of_not_faster stored faster]
      exact ⟨best, stored, Int.not_lt.1 faster⟩

/-- A settled measurement stays settled when another one is recorded. -/
theorem Settled.record (h : r.Settled m) (other : Measurement) :
    (r.record other).1.Settled m := by
  obtain ⟨best, stored, slower⟩ := h
  cases found : r.get? other.name with
  | none =>
    rw [record_of_new found]
    refine ⟨best, ?_, slower⟩
    rw [get?_append, if_neg fun same => ?_, stored]
    rw [← same, stored] at found
    cases found
  | some old =>
    by_cases faster : other.timing.nanos < old.nanos
    · rw [record_of_faster found faster]
      by_cases same : m.name = other.name
      · rw [← same, stored] at found
        cases found
        refine ⟨other.timing, ?_, Int.le_trans (Int.le_of_lt faster) slower⟩
        rw [get?_replace, if_pos same, stored, Option.map_some]
      · refine ⟨best, ?_, slower⟩
        rw [get?_replace, if_neg same, stored]
    · rw [record_of_not_faster found faster]
      exact ⟨best, stored, slower⟩

theorem Settled.recordAll (h : r.Settled m) (ms : List Measurement) :
    (r.recordAll ms).Settled m := by
  induction ms generalizing r with
  | nil => exact h
  | cons other ms ih => exact ih (h.record other)

theorem settled_recordAll (r : Registry) (known : m ∈ ms) : (r.recordAll ms).Settled m := by
  induction ms generalizing r with
  | nil => cases known
  | cons first ms ih =>
    rw [recordAll_cons]
    rcases List.mem_cons.1 known with rfl | later
    · exact (r.settled_record m).recordAll ms
    · exact ih (r.record first).1 later

/-- Settled measurements change nothing, and nothing is told about them. -/
theorem recordAll_of_settled (h : ∀ m ∈ ms, r.Settled m) :
    r.recordAll ms = r ∧ r.newBests ms = [] := by
  induction ms with
  | nil => exact ⟨rfl, rfl⟩
  | cons m ms ih =>
    obtain ⟨own, rest⟩ := List.forall_mem_cons.1 h
    obtain ⟨same, silent⟩ := ih rest
    rw [recordAll_cons, newBests, record_of_settled own]
    exact ⟨same, silent⟩

/-! ## Reading -/

/-- Reads inputs in turn, each with the number of lines that precede it. -/
def readAll (r : Registry) (inputs : List (Nat × List UInt8)) : Registry :=
  inputs.foldl (fun r input => (r.read input.1 input.2).registry) r

theorem Settled.readAll (h : r.Settled m) (inputs : List (Nat × List UInt8)) :
    (r.readAll inputs).Settled m := by
  induction inputs generalizing r with
  | nil => exact h
  | cons input inputs ih =>
    have next : (r.read input.1 input.2).registry.Settled m := by
      rw [registry_read]
      exact h.recordAll _
    exact ih next

/-- Reading does nothing where all that it finds is settled, and ends as it does anywhere. -/
theorem read_of_settled {s : Registry} {before : Nat} {bytes : List UInt8}
    (h : ∀ m ∈ (Measurement.survey before (Text.lines bytes)).1, s.Settled m) (r : Registry) :
    s.read before bytes = ⟨s, [], (r.read before bytes).outcome⟩ := by
  obtain ⟨same, silent⟩ := recordAll_of_settled h
  rw [read_eq_of_survey rfl s, same, silent, outcome_read]

/-- **Reading the same input again changes nothing.**  This holds of every registry, of all
bytes, and of any number of lines in front of them, however the reading ends: with the number of
lines, an error or an overflow.  The second reading leaves the registry that the first one left,
tells of no new best time, and ends in the same way; and so does one that comes later, after any
other input was read. -/
theorem read_again (r : Registry) (before : Nat) (bytes : List UInt8) :
    let once := r.read before bytes
    once.registry.read before bytes = ⟨once.registry, [], once.outcome⟩ ∧
      ∀ inputs, (once.registry.readAll inputs).read before bytes =
        ⟨once.registry.readAll inputs, [], once.outcome⟩ := by
  intro once
  have settled : ∀ m ∈ (Measurement.survey before (Text.lines bytes)).1,
      once.registry.Settled m := by
    intro m found
    change (r.read before bytes).registry.Settled m
    rw [registry_read]
    exact r.settled_recordAll found
  refine ⟨read_of_settled settled r, fun inputs => ?_⟩
  exact read_of_settled (fun m found => (settled m found).readAll inputs) r

end BestTimes.Registry
