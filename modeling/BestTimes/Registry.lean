import BestTimes.Measurement
set_option autoImplicit false

/-!
# The registry of best times

A registry holds the best time of every benchmark, each with the line it came from.
Benchmarks enter it in two ways:

* `record` takes a measurement.  It is kept if its benchmark is new or if it is
  strictly faster than the best time so far; of equal times the first stays.
* `insertDerived` sets a time that was computed from others, whatever was there.

Names are distinct, and stand in the order in which they entered.  A name is
*listed* if it entered as a measurement; derived entries can be looked up and
compared but are not listed.

`toList` is the listed part, `get?` the view of all entries.  A name keeps the
place and the listing with which it entered.
-/

namespace BestTimes

/-- What the registry holds about one benchmark. -/
structure Registry.Entry where
  name : String
  timing : Timing
  /-- Whether the benchmark entered as a measurement. -/
  listed : Bool
  deriving DecidableEq, Repr

/-- The best times of benchmarks with distinct names, in order of entry. -/
structure Registry where
  entries : List Registry.Entry
  distinct : (entries.map (·.name)).Nodup
  deriving DecidableEq, Repr

namespace Registry

/-- The registry without benchmarks. -/
def empty : Registry := ⟨[], List.nodup_nil⟩

instance : Inhabited Registry := ⟨empty⟩

/-- The best time of a benchmark. -/
def get? (r : Registry) (name : String) : Option Timing :=
  (r.entries.find? (·.name = name)).map (·.timing)

/-- The best time of a benchmark that the report cannot do without. -/
def require (r : Registry) (name : String) : Except Error Timing :=
  match r.get? name with
  | some timing => .ok timing
  | none => .error (.missingBenchmark name)

theorem get?_eq_none_iff (r : Registry) (name : String) :
    r.get? name = none ↔ name ∉ r.entries.map (·.name) := by
  simp [get?]

/-! ## Entering times -/

/-- Adds a benchmark behind all others. -/
def append (r : Registry) (name : String) (timing : Timing) (listed : Bool)
    (isNew : r.get? name = none) : Registry where
  entries := r.entries ++ [⟨name, timing, listed⟩]
  distinct := by
    have absent := (r.get?_eq_none_iff name).1 isNew
    rw [List.map_append, List.nodup_append]
    refine ⟨r.distinct, by simp, ?_⟩
    intro a ha b hb hab
    simp only [List.map_cons, List.map_nil, List.mem_singleton] at hb
    exact absent (by rw [← hb, ← hab]; exact ha)

/-- Gives a benchmark another best time, in its place. -/
def replace (r : Registry) (name : String) (timing : Timing) : Registry where
  entries := r.entries.map fun e => if e.name = name then { e with timing } else e
  distinct := by
    have names : (r.entries.map fun e => if e.name = name then { e with timing } else e).map
        (·.name) = r.entries.map (·.name) := by
      rw [List.map_map]
      refine List.map_congr_left fun e _ => ?_
      by_cases h : e.name = name <;> simp [h]
    rw [names]
    exact r.distinct

@[simp] theorem get?_empty (name : String) : empty.get? name = none := rfl

/-- An added benchmark is found by its name, and the others as before. -/
theorem get?_append (r : Registry) (name : String) (timing : Timing) (listed : Bool)
    (isNew : r.get? name = none) (other : String) :
    (r.append name timing listed isNew).get? other =
      if other = name then some timing else r.get? other := by
  by_cases same : other = name
  · subst same
    have absent : r.entries.find? (·.name = other) = none := by simpa [get?] using isNew
    simp [get?, append, List.find?_append, absent]
  · have : name ≠ other := fun h => same h.symm
    simp [get?, append, List.find?_append, same, this]

/-- A replaced time is found by its name if there was one, and the others as
before. -/
theorem get?_replace (r : Registry) (name : String) (timing : Timing) (other : String) :
    (r.replace name timing).get? other =
      if other = name then (r.get? other).map fun _ => timing else r.get? other := by
  simp only [get?, replace]
  generalize r.entries = entries
  induction entries with
  | nil => simp
  | cons e rest ih =>
    by_cases here : e.name = name <;> by_cases found : e.name = other <;>
      by_cases same : other = name <;> simp_all

/-- Records a measurement.  The second component says whether it is the best of its
benchmark so far. -/
def record (r : Registry) (m : Measurement) : Registry × Bool :=
  match h : r.get? m.name with
  | none => (r.append m.name m.timing true h, true)
  | some best =>
    if m.timing.nanos < best.nanos then (r.replace m.name m.timing, true) else (r, false)

/-- Sets the time of a benchmark that was derived and not measured. -/
def insertDerived (r : Registry) (name : String) (timing : Timing) : Registry :=
  match h : r.get? name with
  | none => r.append name timing false h
  | some _ => r.replace name timing

/-! ### All that the writers do

Every later fact about the two writers comes from these equations.
-/

section

variable {r : Registry} {m : Measurement} {best : Timing}

theorem record_of_new (new : r.get? m.name = none) :
    r.record m = (r.append m.name m.timing true new, true) := by
  unfold record
  split
  · rfl
  · rename_i stored
    rw [new] at stored
    cases stored

theorem record_of_faster (stored : r.get? m.name = some best)
    (faster : m.timing.nanos < best.nanos) : r.record m = (r.replace m.name m.timing, true) := by
  unfold record
  split
  · rename_i new
    rw [new] at stored
    cases stored
  · rename_i found
    rw [stored] at found
    cases found
    exact if_pos faster

theorem record_of_not_faster (stored : r.get? m.name = some best)
    (slower : ¬ m.timing.nanos < best.nanos) : r.record m = (r, false) := by
  unfold record
  split
  · rename_i new
    rw [new] at stored
    cases stored
  · rename_i found
    rw [stored] at found
    cases found
    exact if_neg slower

theorem insertDerived_of_new {name : String} (new : r.get? name = none) (timing : Timing) :
    r.insertDerived name timing = r.append name timing false new := by
  unfold insertDerived
  split
  · rfl
  · rename_i stored
    rw [new] at stored
    cases stored

theorem insertDerived_of_stored {name : String} (stored : r.get? name = some best)
    (timing : Timing) : r.insertDerived name timing = r.replace name timing := by
  unfold insertDerived
  split
  · rename_i new
    rw [new] at stored
    cases stored
  · rfl

end

/-- A recorded measurement decides about its own benchmark only. -/
theorem get?_record (r : Registry) (m : Measurement) (other : String) :
    (r.record m).1.get? other =
      if other = m.name ∧ (r.record m).2 then some m.timing else r.get? other := by
  cases stored : r.get? m.name with
  | none => simp [record_of_new stored, get?_append]
  | some best =>
    by_cases faster : m.timing.nanos < best.nanos
    · rw [record_of_faster stored faster, get?_replace]
      by_cases same : other = m.name
      · simp [same, stored]
      · simp [same]
    · simp [record_of_not_faster stored faster]

/-- A derived time decides about its own benchmark, and always does. -/
theorem get?_insertDerived (r : Registry) (name : String) (timing : Timing) (other : String) :
    (r.insertDerived name timing).get? other =
      if other = name then some timing else r.get? other := by
  cases stored : r.get? name with
  | none => rw [insertDerived_of_new stored, get?_append]
  | some best =>
    rw [insertDerived_of_stored stored, get?_replace]
    by_cases same : other = name
    · simp [same, stored]
    · simp [same]

/-! ## The listed benchmarks -/

/-- The measured benchmarks with their best times, in the order in which they were
first measured. -/
def toList (r : Registry) : List (String × Timing) :=
  (r.entries.filter (·.listed)).map fun e => (e.name, e.timing)

/-- The number of measured benchmarks. -/
def size (r : Registry) : Nat := r.toList.length

/-- Whether no benchmark was measured. -/
def isEmpty (r : Registry) : Bool := r.toList.isEmpty

end Registry

end BestTimes
