import BestTimes.Proofs.Comparison
import BestTimes.Proofs.Reading
import Mathlib.Control.Monad.Basic
import Mathlib.Data.List.Induction
set_option autoImplicit false

/-!
# Sessions of reading and comparing

A session is a list of operations on one registry, which read and compare in any order,
however each of them ends.  Reading only ever lowers the time that is kept for a name;
deriving sets it to another time plus the work, whatever it was.  So the time that a
session leaves is the first of the least among

* all times that were recorded for the name, if none was derived for it, or
* the last derived one and those that were recorded after it

(`keeps_ofSession`).  It can therefore be more than a recorded time, but only for a
benchmark that was measured and then derived.
-/

namespace BestTimes.Registry

/-- An operation on a registry. -/
inductive Operation where
  /-- Bytes are read that `before` lines precede. -/
  | read (before : Nat) (bytes : List UInt8)
  /-- A measurement is recorded. -/
  | record (m : Measurement)
  /-- The derived times are set. -/
  | derive
  /-- The pairs are compared, after the derived times are set. -/
  | compareAll
  deriving DecidableEq, Repr

namespace Operation

/-- The measurements that an operation records, up to where it ends. -/
def measured : Operation → List Measurement
  | .read before bytes => (Measurement.survey before (Text.lines bytes)).1
  | .record m => [m]
  | .derive | .compareAll => []

/-- Whether an operation sets the derived times. -/
def derives : Operation → Bool
  | .read .. | .record _ => false
  | .derive | .compareAll => true

end Operation

/-- The registry after an operation, however that ends. -/
def perform (r : Registry) : Operation → Registry
  | .read before bytes => (r.read before bytes).registry
  | .record m => (r.record m).1
  | .derive => (r.derive derivations).registry
  | .compareAll => r.compareAll.registry

/-- What a session leaves of an empty registry. -/
def ofSession (session : List Operation) : Registry := session.foldl perform empty

/-- The times that a session records for a name, in order. -/
def recorded (name : String) (session : List Operation) : List Timing :=
  timingsOf name (session.flatMap (·.measured))

theorem ofSession_concat (session : List Operation) (op : Operation) :
    ofSession (session ++ [op]) = (ofSession session).perform op := by
  unfold ofSession
  rw [List.foldl_append]
  rfl

theorem recorded_append (name : String) (session others : List Operation) :
    recorded name (session ++ others) = recorded name session ++ recorded name others := by
  unfold recorded
  rw [List.flatMap_append, timingsOf_append]

theorem recorded_singleton (name : String) (op : Operation) :
    recorded name [op] = timingsOf name op.measured := by
  unfold recorded
  rw [List.flatMap_singleton]

/-! ## One operation -/

/-- Whether an operation sets a derived time for a name: it is the best time of the base
and the work, with the line of the base. -/
structure Derives (r : Registry) (op : Operation) (name : String) (derived : Timing) :
    Prop where
  kind : op.derives = true
  stored : (r.perform op).get? name = some derived
  sum : ∃ base best, (name, base) ∈ derivations ∧ r.get? base = some best ∧
    derived.nanos.toInt = best.nanos.toInt + workNanos.toInt ∧ derived.line = best.line

theorem perform_of_not_derives {op : Operation} (h : op.derives = false) (r : Registry) :
    r.perform op = r.recordAll op.measured := by
  cases op with
  | read before bytes => exact r.registry_read before bytes
  | record m => rfl
  | derive => cases h
  | compareAll => cases h

theorem perform_of_derives {op : Operation} (h : op.derives = true) (r : Registry) :
    r.perform op = (r.derive derivations).registry := by
  cases op with
  | read before bytes => cases h
  | record m => cases h
  | derive => rfl
  | compareAll => exact r.registry_compareAll

theorem measured_of_derives {op : Operation} (h : op.derives = true) : op.measured = [] := by
  cases op with
  | read before bytes => cases h
  | record m => cases h
  | derive => rfl
  | compareAll => rfl

/-- An operation adds what it records to the times that count for a name, or sets a
derived time that counts alone. -/
theorem keeps_perform (r : Registry) (op : Operation) (name : String) :
    (∀ ts, r.Keeps name ts → (r.perform op).Keeps name (ts ++ recorded name [op])) ∨
      ∃ derived, r.Derives op name derived := by
  rw [recorded_singleton]
  cases kind : op.derives with
  | false =>
    left
    intro ts h
    rw [perform_of_not_derives kind]
    exact h.recordAll op.measured
  | true =>
    have performed := perform_of_derives kind r
    rcases get?_derive_cases derivesApart_derivations r name with
      same | ⟨base, best, nanos, m, found, sum, stored⟩
    · left
      intro ts h
      rw [measured_of_derives kind, timingsOf, List.filter_nil, List.map_nil, List.append_nil,
        performed]
      exact h.congr same
    · exact .inr ⟨⟨nanos, best.line⟩, kind, performed ▸ stored, base, best, m, found, sum, rfl⟩

/-! ## All operations -/

/-- What a session keeps for a name: the first of the least among all recorded times, or
among the last derived one and those that were recorded after it. -/
theorem keeps_ofSession (session : List Operation) (name : String) :
    (ofSession session).Keeps name (recorded name session) ∨
      ∃ earlier op later derived, session = earlier ++ op :: later ∧
        (ofSession earlier).Derives op name derived ∧
        (ofSession session).Keeps name (derived :: recorded name later) := by
  -- The induction takes operations off the end: whether one derives a time depends on the
  -- registry that those in front of it leave.
  induction session using List.reverseRecOn with
  | nil => exact .inl (Keeps.empty name)
  | append_singleton session op ih =>
    rw [ofSession_concat, recorded_append]
    rcases keeps_perform (ofSession session) op name with more | ⟨derived, derives⟩
    · rcases ih with all | ⟨earlier, other, later, derived, rfl, derives, since⟩
      · exact .inl (more _ all)
      · refine .inr ⟨earlier, other, later ++ [op], derived, by simp, derives, ?_⟩
        rw [recorded_append]
        exact more _ since
    · exact .inr ⟨session, op, [], derived, rfl, derives,
        .of_firstLeast derives.stored (.singleton derived)⟩

/-- When a stored time is more than a recorded one: just if a derived time took the place
of a time that was recorded before, and nothing recorded since is as small.  In
particular the times of benchmarks that are never derived are the first of the least
among all that were recorded. -/
theorem exceeds_recorded_iff (session : List Operation) {name : String} {t : Timing}
    (stored : (ofSession session).get? name = some t) :
    (name ∉ derivations.map (·.1) → FirstLeast (recorded name session) t) ∧
      ((∃ u ∈ recorded name session, u.nanos < t.nanos) ↔
        ∃ earlier op later derived, session = earlier ++ op :: later ∧
          (ofSession earlier).Derives op name derived ∧
          FirstLeast (derived :: recorded name later) t ∧
          ∃ u ∈ recorded name earlier, u.nanos < t.nanos) := by
  have atLeast {ts : List Timing} (least : FirstLeast ts t) :
      ¬ ∃ u ∈ ts, u.nanos < t.nanos := by
    rintro ⟨u, mem, less⟩
    exact absurd less (Int.not_lt.2 (least.le u mem))
  constructor
  · intro underived
    rcases keeps_ofSession session name with all | ⟨earlier, op, later, derived, -, derives, -⟩
    · exact all.firstLeast stored
    · obtain ⟨base, best, m, -⟩ := derives.sum
      exact absurd (List.mem_map_of_mem m) underived
  · constructor
    · rintro ⟨u, mem, less⟩
      rcases keeps_ofSession session name with
        all | ⟨earlier, op, later, derived, rfl, derives, since⟩
      · exact absurd ⟨u, mem, less⟩ (atLeast (all.firstLeast stored))
      · have least := since.firstLeast stored
        refine ⟨earlier, op, later, derived, rfl, derives, least, ?_⟩
        rw [recorded_append, ← List.singleton_append, recorded_append, recorded_singleton,
          measured_of_derives derives.kind] at mem
        rcases List.mem_append.1 mem with before | after
        · exact ⟨u, before, less⟩
        · exact absurd ⟨u, List.mem_cons_of_mem _ after, less⟩ (atLeast least)
    · rintro ⟨earlier, op, later, derived, rfl, -, -, u, mem, less⟩
      rw [recorded_append]
      exact ⟨u, List.mem_append_left _ mem, less⟩

/-- A benchmark that is measured, derived, and measured again: what is left is the least
time since it was derived, and more than the first one. -/
theorem exceeds_recorded_of_derived_between :
    let session : List Operation :=
      [.read 0 (Text.encode ("manual+work time: [1 ns 1 ns 1 ns]\n" ++
          "manual+syscalls time: [1 ns 2 ns 3 ns]\nnonbox+syscalls time: [1 ns 2 ns 3 ns]\n")),
        .compareAll, .record ⟨"manual+work", ⟨7, by decide, by decide⟩, "again"⟩]
    (ofSession session).get? "manual+work" = some ⟨⟨7, by decide, by decide⟩, "again"⟩ ∧
      (∃ u ∈ recorded "manual+work" session, u.nanos.toInt < 7) ∧
      (∃ earlier op later derived, session = earlier ++ op :: later ∧
        (ofSession earlier).Derives op "manual+work" derived ∧
        FirstLeast (derived :: recorded "manual+work" later)
          ⟨⟨7, by decide, by decide⟩, "again"⟩ ∧
        ∃ u ∈ recorded "manual+work" earlier, u.nanos.toInt < 7) ∧
      FirstLeast (recorded "manual+syscalls" session)
        ⟨⟨2, by decide, by decide⟩, "manual+syscalls time: [1 ns 2 ns 3 ns]"⟩ := by
  intro session
  have stored : (ofSession session).get? "manual+work" =
      some ⟨⟨7, by decide, by decide⟩, "again"⟩ := by decide +kernel
  have base : (ofSession session).get? "manual+syscalls" =
      some ⟨⟨2, by decide, by decide⟩, "manual+syscalls time: [1 ns 2 ns 3 ns]"⟩ := by
    decide +kernel
  have exceeded : ∃ u ∈ recorded "manual+work" session, u.nanos.toInt < 7 := by decide +kernel
  exact ⟨stored, exceeded, (exceeds_recorded_iff session stored).2.1 exceeded,
    (exceeds_recorded_iff session base).1 (by decide)⟩

/-- A listed benchmark with more than a time that was measured for it: its derived time
took the place of the measured one. -/
theorem listed_exceeds_measured :
    let session : List Operation :=
      [.read 0 (Text.encode ("manual+work time: [1 ns 1 ns 1 ns]\n" ++
          "manual+syscalls time: [1 ns 2 ns 3 ns]\nnonbox+syscalls time: [1 ns 2 ns 3 ns]\n")),
        .derive]
    ("manual+work", ⟨⟨2560002, by decide, by decide⟩, "manual+syscalls time: [1 ns 2 ns 3 ns]"⟩) ∈
        (ofSession session).toList ∧
      ⟨⟨1, by decide, by decide⟩, "manual+work time: [1 ns 1 ns 1 ns]"⟩ ∈
        recorded "manual+work" session := by
  decide +kernel

end BestTimes.Registry
