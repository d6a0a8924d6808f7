import BestTimes.Proofs.Registry.History
set_option autoImplicit false

/-!
# A registry as two containers

A registry is one list of entries, in which each entry says whether it is listed.  It can also
be kept in two containers that know nothing of each other: the names that are listed, in order,
and a table of the times of all names.  Only a measurement of a name that the table does not
have adds to the list; a derived time goes into the table alone.

The two hold the same (`Holds`).  Each writer keeps this, and the flag that recording returns is
the same (`Holds.record`, `Holds.insertDerived`), so it holds after every history
(`holds_ofCalls`) and every reader gives the same.
-/

namespace BestTimes.Registry

/-- The names that are listed, and a table of the times of all names. -/
structure Containers where
  names : List String
  times : Std.HashMap String Timing

namespace Containers

/-! ## Writers and readers -/

/-- No names and no times. -/
def empty : Containers := ⟨[], ∅⟩

/-- Records a measurement.  The second component says whether it is the best of its
benchmark so far. -/
def record (c : Containers) (m : Measurement) : Containers × Bool :=
  match c.times[m.name]? with
  | some best =>
    if m.timing.nanos < best.nanos then
      ({ c with times := c.times.insert m.name m.timing }, true)
    else (c, false)
  | none => (⟨c.names ++ [m.name], c.times.insert m.name m.timing⟩, true)

/-- Sets the time of a benchmark that was derived and not measured. -/
def insertDerived (c : Containers) (name : String) (timing : Timing) : Containers :=
  { c with times := c.times.insert name timing }

/-- The listed names with their times, in order. -/
def toList (c : Containers) : List (String × Timing) :=
  c.names.filterMap fun name => c.times[name]?.map fun timing => (name, timing)

/-- The number of listed names. -/
def size (c : Containers) : Nat := c.names.length

/-- Whether no name is listed. -/
def isEmpty (c : Containers) : Bool := c.names.isEmpty

/-- The containers after a call. -/
def apply (c : Containers) : Call → Containers
  | .record m => (c.record m).1
  | .insertDerived name timing => c.insertDerived name timing

/-- What calls in order leave of empty containers. -/
def ofCalls (calls : List Call) : Containers := calls.foldl apply empty

/-! ## What the containers hold -/

/-- Whether containers hold what a registry holds. -/
structure Holds (c : Containers) (r : Registry) : Prop where
  names_eq : c.names = r.toList.map (·.1)
  times_eq : ∀ name, c.times[name]? = r.get? name

variable {c : Containers} {r : Registry}

theorem holds_empty : Holds empty Registry.empty where
  names_eq := rfl
  times_eq := fun _ => Std.HashMap.getElem?_empty

/-- A measurement is recorded alike. -/
theorem Holds.record (h : Holds c r) (m : Measurement) :
    Holds (c.record m).1 (r.record m).1 ∧ (c.record m).2 = (r.record m).2 := by
  have listed := r.map_fst_toList_apply (.record m)
  change (r.record m).1.toList.map (·.1) = _ at listed
  -- A time that is the best takes its place in both, whether or not there was one.
  have inserted (best : (r.record m).2 = true) (other : String) :
      (c.times.insert m.name m.timing)[other]? = (r.record m).1.get? other := by
    rw [Std.HashMap.getElem?_insert, r.get?_record, best, h.times_eq]
    by_cases same : other = m.name
    · simp [same]
    · simp [same, Ne.symm same]
  unfold Containers.record
  rw [h.times_eq]
  cases stored : r.get? m.name with
  | none =>
    have flag : (r.record m).2 = true := by rw [record_of_new stored]
    have new := (r.get?_eq_none_iff_names m.name).1 stored
    rw [if_pos ⟨new, rfl⟩] at listed
    exact ⟨⟨h.names_eq ▸ listed.symm, inserted flag⟩, flag.symm⟩
  | some best =>
    have known : m.name ∈ r.names := mem_names_of_stored stored
    rw [if_neg fun both => both.1 known] at listed
    by_cases faster : m.timing.nanos < best.nanos
    · have flag : (r.record m).2 = true := by rw [record_of_faster stored faster]
      simp only [faster, if_true]
      exact ⟨⟨h.names_eq.trans listed.symm, inserted flag⟩, flag.symm⟩
    · rw [record_of_not_faster stored faster]
      simp only [faster, if_false]
      exact ⟨h, trivial⟩

/-- A derived time is set alike. -/
theorem Holds.insertDerived (h : Holds c r) (name : String) (timing : Timing) :
    Holds (c.insertDerived name timing) (r.insertDerived name timing) where
  names_eq := h.names_eq.trans (r.map_fst_toList_insertDerived name timing).symm
  times_eq := by
    intro other
    change (c.times.insert name timing)[other]? = _
    rw [Std.HashMap.getElem?_insert, r.get?_insertDerived, h.times_eq]
    by_cases same : other = name
    · simp [same]
    · simp [same, Ne.symm same]

/-- One more call: the containers hold what the registry holds. -/
theorem Holds.apply (h : Holds c r) (call : Call) : Holds (c.apply call) (r.apply call) := by
  cases call with
  | record m => exact (h.record m).1
  | insertDerived name timing => exact h.insertDerived name timing

/-- The containers hold what the registry holds, after every history. -/
theorem holds_ofCalls (calls : List Call) : Holds (ofCalls calls) (Registry.ofCalls calls) := by
  induction calls using List.reverseRecOn with
  | nil => exact holds_empty
  | append_singleton calls call ih =>
    rw [Registry.ofCalls_concat]
    unfold ofCalls at ih ⊢
    rw [List.foldl_append]
    exact ih.apply call

/-! ## Readers -/

theorem Holds.toList_eq (h : Holds c r) : c.toList = r.toList := by
  unfold toList
  rw [h.names_eq]
  simp only [h.times_eq]
  exact r.toList_eq_filterMap.symm

theorem Holds.size_eq (h : Holds c r) : c.size = r.size := by
  unfold size Registry.size
  rw [h.names_eq, List.length_map]

theorem Holds.isEmpty_eq (h : Holds c r) : c.isEmpty = r.isEmpty := by
  unfold isEmpty Registry.isEmpty
  rw [h.names_eq, List.isEmpty_map]

/-- Every reader gives the same of the containers as of the registry, after every history. -/
theorem readers_ofCalls (calls : List Call) :
    let c := ofCalls calls
    let r := Registry.ofCalls calls
    (∀ name, c.times[name]? = r.get? name) ∧ c.toList = r.toList ∧ c.size = r.size ∧
      c.isEmpty = r.isEmpty := by
  intro c r
  have holds : Holds c r := holds_ofCalls calls
  exact ⟨holds.times_eq, holds.toList_eq, holds.size_eq, holds.isEmpty_eq⟩

end Containers

end BestTimes.Registry
