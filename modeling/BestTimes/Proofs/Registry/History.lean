import BestTimes.Proofs.Registry.Recording
import Mathlib.Data.List.Induction
set_option autoImplicit false

/-!
# Histories of a registry

A history is a list of calls, each of which records a measurement or sets a derived time.
What the calls leave of an empty registry is described by the history as a whole
(`Follows`):

* the benchmarks are those of the calls, in the order of their first calls
  (`Call.firsts`), and listed just if that first call recorded a measurement;
* the time that is kept for a name is the first of the least among the times that stand
  for it (`Call.standing`): those from the last derived one on, which took the place of
  all times before it.

`Follows.apply` says that one more call keeps this, and `follows_ofCalls` that it
therefore holds after every history.  Recording looks only whether a name is there, not
how it came there, so a benchmark that was derived first is never listed, even if it is
measured later (`Call.recorded_not_first_iff`).
-/

namespace BestTimes.Registry

/-- A call that changes a registry. -/
inductive Call where
  /-- A measurement is recorded. -/
  | record (m : Measurement)
  /-- A derived time is set. -/
  | insertDerived (name : String) (timing : Timing)
  deriving DecidableEq, Repr

/-! ## What calls say -/

namespace Call

/-- The benchmark of a call. -/
def name : Call → String
  | .record m => m.name
  | .insertDerived name _ => name

/-- The time of a call. -/
def timing : Call → Timing
  | .record m => m.timing
  | .insertDerived _ timing => timing

/-- Whether a call records a measurement. -/
def isRecord : Call → Bool
  | .record _ => true
  | .insertDerived .. => false

@[simp] theorem name_record (m : Measurement) : (record m).name = m.name := rfl

@[simp] theorem name_insertDerived (name : String) (timing : Timing) :
    (insertDerived name timing).name = name := rfl

@[simp] theorem timing_record (m : Measurement) : (record m).timing = m.timing := rfl

@[simp] theorem timing_insertDerived (name : String) (timing : Timing) :
    (insertDerived name timing).timing = timing := rfl

@[simp] theorem isRecord_record (m : Measurement) : (record m).isRecord = true := rfl

@[simp] theorem isRecord_insertDerived (name : String) (timing : Timing) :
    (insertDerived name timing).isRecord = false := rfl

/-- Whether calls record a measurement of a benchmark. -/
def Recorded (name : String) (calls : List Call) : Prop :=
  ∃ c ∈ calls, c.isRecord = true ∧ c.name = name

instance (name : String) (calls : List Call) : Decidable (Recorded name calls) :=
  inferInstanceAs (Decidable (∃ c ∈ calls, _ ∧ _))

/-- The first call for each name, in order. -/
def firsts : List Call → List Call
  | [] => []
  | c :: calls => c :: (firsts calls).filter (·.name ≠ c.name)

/-- The calls from the last one on that sets a derived time; all of them if none does. -/
def sinceDerived : List Call → List Call
  | [] => []
  | c :: calls => if calls.all (·.isRecord) then c :: calls else sinceDerived calls

/-- The times that stand for a name, in order: those of its calls, from its last derived
time on. -/
def standing (name : String) (calls : List Call) : List Timing :=
  (sinceDerived (calls.filter (·.name = name))).map (·.timing)

/-! ### First calls -/

theorem mem_names_firsts_iff (calls : List Call) (name : String) :
    name ∈ (firsts calls).map (·.name) ↔ name ∈ calls.map (·.name) := by
  induction calls with
  | nil => rfl
  | cons c calls ih =>
    simp only [List.mem_map] at ih
    by_cases own : c.name = name
    · simp [firsts, own]
    · simp only [firsts, List.map_cons, List.mem_cons, List.mem_map, List.mem_filter,
        decide_eq_true_eq, ← ih, Ne.symm own, false_or]
      constructor
      · rintro ⟨d, ⟨hd, -⟩, same⟩
        exact ⟨d, hd, same⟩
      · rintro ⟨d, hd, same⟩
        exact ⟨d, ⟨hd, fun other => own (other.symm.trans same)⟩, same⟩

/-- A last call is a first one just if its name is new. -/
theorem firsts_concat (calls : List Call) (c : Call) :
    firsts (calls ++ [c]) =
      if c.name ∈ calls.map (·.name) then firsts calls else firsts calls ++ [c] := by
  induction calls with
  | nil => rfl
  | cons d calls ih =>
    rw [List.cons_append, firsts, ih, firsts]
    by_cases known : c.name ∈ calls.map (·.name)
    · have again : c.name ∈ (d :: calls).map (·.name) := List.mem_cons_of_mem _ known
      rw [if_pos known, if_pos again]
    · rw [if_neg known, List.filter_append, List.filter_singleton, List.map_cons]
      by_cases same : c.name = d.name
      · simp [same]
      · simp [same, known]

/-- A call is a first one just if no call in front of it has its name. -/
theorem mem_firsts_iff (calls : List Call) (c : Call) :
    c ∈ firsts calls ↔
      ∃ before after, calls = before ++ c :: after ∧ ∀ d ∈ before, d.name ≠ c.name := by
  induction calls with
  | nil => simp [firsts]
  | cons first calls ih =>
    rw [firsts, List.mem_cons, List.mem_filter, ih, decide_eq_true_eq]
    constructor
    · rintro (rfl | ⟨⟨before, after, rfl, others⟩, apart⟩)
      · exact ⟨[], calls, rfl, fun _ m => (List.not_mem_nil m).elim⟩
      · exact ⟨first :: before, after, rfl, List.forall_mem_cons.2 ⟨Ne.symm apart, others⟩⟩
    · rintro ⟨before, after, split, others⟩
      cases before with
      | nil =>
        cases split
        exact .inl rfl
      | cons d before =>
        cases split
        obtain ⟨apart, others⟩ := List.forall_mem_cons.1 others
        exact .inr ⟨⟨before, after, rfl, others⟩, Ne.symm apart⟩

/-- A name that is called has a first call. -/
theorem exists_mem_firsts {calls : List Call} {name : String} (h : name ∈ calls.map (·.name)) :
    ∃ c ∈ firsts calls, c.name = name := by
  rw [← mem_names_firsts_iff] at h
  exact List.mem_map.1 h

theorem nodup_names_firsts (calls : List Call) : ((firsts calls).map (·.name)).Nodup := by
  induction calls with
  | nil => exact List.nodup_nil
  | cons c calls ih =>
    rw [firsts, List.map_cons, List.nodup_cons]
    refine ⟨?_, ih.sublist (List.filter_sublist.map _)⟩
    intro again
    obtain ⟨d, hd, same⟩ := List.mem_map.1 again
    exact of_decide_eq_true (List.mem_filter.1 hd).2 same

/-- A name has no other first call. -/
theorem eq_of_mem_firsts {calls : List Call} {c d : Call} (hc : c ∈ firsts calls)
    (hd : d ∈ firsts calls) (same : c.name = d.name) : c = d :=
  List.inj_on_of_nodup_map (nodup_names_firsts calls) hc hd same

/-- Whether the first call for a name records a measurement. -/
def RecordedFirst (name : String) (calls : List Call) : Prop :=
  ∃ c ∈ firsts calls, c.isRecord = true ∧ c.name = name

theorem RecordedFirst.recorded {name : String} {calls : List Call}
    (h : RecordedFirst name calls) : Recorded name calls := by
  obtain ⟨c, first, record, own⟩ := h
  obtain ⟨before, after, split, -⟩ := (mem_firsts_iff calls c).1 first
  exact ⟨c, split ▸ List.mem_append_right _ List.mem_cons_self, record, own⟩

theorem recordedFirst_iff (name : String) (calls : List Call) :
    RecordedFirst name calls ↔
      ∃ before m after, calls = before ++ .record m :: after ∧ m.name = name ∧
        ∀ c ∈ before, c.name ≠ name := by
  constructor
  · rintro ⟨c, first, record, rfl⟩
    obtain ⟨before, after, split, others⟩ := (mem_firsts_iff calls c).1 first
    cases c with
    | record m => exact ⟨before, m, after, split, rfl, others⟩
    | insertDerived name timing => cases record
  · rintro ⟨before, m, after, split, rfl, others⟩
    exact ⟨.record m, (mem_firsts_iff calls _).2 ⟨before, after, split, others⟩, rfl, rfl⟩

/-- A benchmark that is recorded, but not at first, is derived at first. -/
theorem recorded_not_first_iff (name : String) (calls : List Call) :
    Recorded name calls ∧ ¬ RecordedFirst name calls ↔
      ∃ before derived after, calls = before ++ .insertDerived name derived :: after ∧
        (∀ c ∈ before, c.name ≠ name) ∧ Recorded name after := by
  constructor
  · rintro ⟨⟨c, called, record, own⟩, notFirst⟩
    obtain ⟨d, first, same⟩ := exists_mem_firsts (List.mem_map.2 ⟨c, called, own⟩)
    cases d with
    | record m => exact absurd ⟨.record m, first, rfl, same⟩ notFirst
    | insertDerived other derived =>
      obtain ⟨before, after, split, others⟩ := (mem_firsts_iff calls _).1 first
      cases same
      refine ⟨before, derived, after, split, others, c, ?_, record, own⟩
      rw [split, List.mem_append, List.mem_cons] at called
      rcases called with front | rfl | later
      · exact absurd own (others c front)
      · cases record
      · exact later
  · rintro ⟨before, derived, after, rfl, others, c, later, record, own⟩
    have recorded : c ∈ before ++ .insertDerived name derived :: after :=
      List.mem_append_right _ (List.mem_cons_of_mem _ later)
    refine ⟨⟨c, recorded, record, own⟩, ?_⟩
    rintro ⟨d, first, measures, same⟩
    have derivedFirst := (mem_firsts_iff _ (.insertDerived name derived)).2
      ⟨before, after, rfl, others⟩
    rw [eq_of_mem_firsts first derivedFirst same] at measures
    cases measures

/-! ### Standing times -/

/-- A derived time takes the place of all calls in front of it. -/
theorem sinceDerived_of_derived {c : Call} (derived : c.isRecord = false) (before : List Call) :
    sinceDerived (before ++ [c]) = [c] := by
  induction before with
  | nil => rfl
  | cons d before ih =>
    have later : (before ++ [c]).all (·.isRecord) = false := by simp [derived]
    rw [List.cons_append, sinceDerived, later]
    exact ih

/-- A measurement stands beside the calls that stood before it. -/
theorem sinceDerived_of_record {c : Call} (record : c.isRecord = true) (before : List Call) :
    sinceDerived (before ++ [c]) = sinceDerived before ++ [c] := by
  induction before with
  | nil => rfl
  | cons d before ih =>
    have later : (before ++ [c]).all (·.isRecord) = before.all (·.isRecord) := by simp [record]
    rw [List.cons_append, sinceDerived, later, ih, sinceDerived]
    split <;> rfl

theorem standing_record (name : String) (calls : List Call) (m : Measurement) :
    standing name (calls ++ [.record m]) =
      standing name calls ++ if m.name = name then [m.timing] else [] := by
  unfold standing
  rw [List.filter_append, List.filter_singleton]
  by_cases own : m.name = name
  · simp [own, sinceDerived_of_record (isRecord_record m)]
  · simp [own]

theorem standing_insertDerived (name : String) (calls : List Call) (other : String)
    (timing : Timing) :
    standing name (calls ++ [.insertDerived other timing]) =
      if other = name then [timing] else standing name calls := by
  unfold standing
  rw [List.filter_append, List.filter_singleton]
  by_cases own : other = name
  · simp [own, sinceDerived_of_derived (isRecord_insertDerived name timing)]
  · simp [own]

end Call

/-! ## What a call does -/

/-- The registry after a call. -/
def apply (r : Registry) : Call → Registry
  | .record m => (r.record m).1
  | .insertDerived name timing => r.insertDerived name timing

/-- What calls in order leave of an empty registry. -/
def ofCalls (calls : List Call) : Registry := calls.foldl apply empty

theorem ofCalls_concat (calls : List Call) (c : Call) :
    ofCalls (calls ++ [c]) = (ofCalls calls).apply c := by
  unfold ofCalls
  rw [List.foldl_append]
  rfl

/-- The names of all benchmarks with whether they are listed, in order of entry. -/
def marks (r : Registry) : List (String × Bool) := r.entries.map fun e => (e.name, e.listed)

theorem map_fst_marks (r : Registry) : r.marks.map (·.1) = r.names := by
  unfold marks names
  rw [List.map_map]
  rfl

theorem marks_replace (r : Registry) (name : String) (timing : Timing) :
    (r.replace name timing).marks = r.marks := by
  unfold marks replace
  rw [List.map_map]
  refine List.map_congr_left fun e _ => ?_
  by_cases h : e.name = name <;> simp [h]

/-- A call adds its name behind the others if it is new, and changes no place. -/
theorem marks_apply (r : Registry) (c : Call) :
    (r.apply c).marks =
      if c.name ∈ r.names then r.marks else r.marks ++ [(c.name, c.isRecord)] := by
  cases c with
  | record m =>
    change (r.record m).1.marks = _
    rw [Call.name_record]
    cases stored : r.get? m.name with
    | none =>
      rw [if_neg ((r.get?_eq_none_iff_names m.name).1 stored), record_of_new stored]
      simp [marks, append]
    | some best =>
      rw [if_pos (mem_names_of_stored stored)]
      by_cases faster : m.timing.nanos < best.nanos
      · rw [record_of_faster stored faster]
        exact r.marks_replace m.name m.timing
      · rw [record_of_not_faster stored faster]
  | insertDerived name timing =>
    change (r.insertDerived name timing).marks = _
    rw [Call.name_insertDerived]
    cases stored : r.get? name with
    | none =>
      rw [if_neg ((r.get?_eq_none_iff_names name).1 stored), insertDerived_of_new stored]
      simp [marks, append]
    | some best =>
      rw [if_pos (mem_names_of_stored stored), insertDerived_of_stored stored]
      exact r.marks_replace name timing

/-- The listed names are those that are marked. -/
theorem map_fst_toList (r : Registry) :
    r.toList.map (·.1) = (r.marks.filter (·.2)).map (·.1) := by
  unfold toList marks
  rw [List.filter_map, List.map_map, List.map_map]
  rfl

/-- Only the record of a new name adds to the listed names. -/
theorem map_fst_toList_apply (r : Registry) (call : Call) :
    (r.apply call).toList.map (·.1) =
      if call.name ∉ r.names ∧ call.isRecord = true then r.toList.map (·.1) ++ [call.name]
      else r.toList.map (·.1) := by
  rw [map_fst_toList, marks_apply, map_fst_toList]
  by_cases known : call.name ∈ r.names
  · simp [known]
  · cases recorded : call.isRecord <;> simp [known]

/-- A derived time is not listed, and does not move what is. -/
theorem map_fst_toList_insertDerived (r : Registry) (name : String) (timing : Timing) :
    (r.insertDerived name timing).toList.map (·.1) = r.toList.map (·.1) := by
  have listed := r.map_fst_toList_apply (.insertDerived name timing)
  rwa [if_neg (by simp)] at listed

/-! ## What a history leaves -/

/-- What a registry is to the calls that led to it. -/
structure Follows (r : Registry) (calls : List Call) : Prop where
  marks_eq : r.marks = (Call.firsts calls).map fun c => (c.name, c.isRecord)
  keeps : ∀ name, r.Keeps name (Call.standing name calls)

theorem follows_empty : Follows empty [] where
  marks_eq := rfl
  keeps := Keeps.empty

theorem Follows.mem_names_iff {r : Registry} {calls : List Call} (h : Follows r calls)
    (name : String) : name ∈ r.names ↔ name ∈ calls.map (·.name) := by
  rw [← map_fst_marks, h.marks_eq, List.map_map, ← Call.mem_names_firsts_iff]
  rfl

/-- One more call: the registry follows. -/
theorem Follows.apply {r : Registry} {calls : List Call} (h : Follows r calls) (c : Call) :
    Follows (r.apply c) (calls ++ [c]) where
  marks_eq := by
    rw [marks_apply, Call.firsts_concat, h.marks_eq]
    simp only [h.mem_names_iff]
    split
    · rfl
    · rw [List.map_append, List.map_singleton]
  keeps := by
    intro name
    cases c with
    | record m =>
      rw [Call.standing_record]
      exact (h.keeps name).record m
    | insertDerived other timing =>
      rw [Call.standing_insertDerived]
      have found := r.get?_insertDerived other timing name
      by_cases own : other = name
      · rw [if_pos own.symm] at found
        rw [if_pos own]
        exact .of_firstLeast found (.singleton timing)
      · rw [if_neg (Ne.symm own)] at found
        rw [if_neg own]
        exact (h.keeps name).congr found

/-- A registry follows the calls that were made on it. -/
theorem follows_ofCalls (calls : List Call) : Follows (ofCalls calls) calls := by
  -- A registry is the calls folded from the front, so the induction takes calls off the end.
  induction calls using List.reverseRecOn with
  | nil => exact follows_empty
  | append_singleton calls c ih =>
    rw [ofCalls_concat]
    exact ih.apply c

/-- The listed names are those whose first call recorded a measurement, in the order of
these calls. -/
theorem Follows.map_fst_toList {r : Registry} {calls : List Call} (h : Follows r calls) :
    r.toList.map (·.1) = ((Call.firsts calls).filter (·.isRecord)).map (·.name) := by
  rw [Registry.map_fst_toList, h.marks_eq, List.filter_map, List.map_map]
  rfl

theorem Follows.mem_toList_iff {r : Registry} {calls : List Call} (h : Follows r calls)
    (name : String) : name ∈ r.toList.map (·.1) ↔ Call.RecordedFirst name calls := by
  rw [h.map_fst_toList, Call.RecordedFirst]
  simp only [List.mem_map, List.mem_filter, and_assoc]

/-- Recording says whether the time is the best of its benchmark so far: the first one,
or less than the one that was stored. -/
theorem record_snd_iff (r : Registry) (m : Measurement) :
    (r.record m).2 = true ↔ r.get? m.name = none ∨
      ∃ old new, r.get? m.name = some old ∧ (r.record m).1.get? m.name = some new ∧
        new.nanos < old.nanos := by
  have after := r.get?_record m m.name
  constructor
  · intro best
    rw [if_pos ⟨rfl, best⟩] at after
    cases stored : r.get? m.name with
    | none => exact .inl rfl
    | some old =>
      by_cases faster : m.timing.nanos < old.nanos
      · exact .inr ⟨old, m.timing, rfl, after, faster⟩
      · rw [record_of_not_faster stored faster] at best
        cases best
  · rintro (new | ⟨old, new, stored, later, faster⟩)
    · rw [record_of_new new]
    · by_contra kept
      rw [if_neg fun both => kept both.2, stored, later] at after
      cases after
      exact Int.lt_irrefl _ faster

/-! ## Main results -/

/-- When a benchmark is listed: its first call records a measurement.  So a benchmark
that is listed was measured, and one that was measured is listed unless a derived time
was set for it before.  Nothing is listed twice, and the size counts what is listed. -/
theorem listed_iff_first_recorded (calls : List Call) :
    let r := ofCalls calls
    (∀ name, name ∈ r.toList.map (·.1) ↔
        ∃ before m after, calls = before ++ .record m :: after ∧ m.name = name ∧
          ∀ c ∈ before, c.name ≠ name) ∧
      (∀ name, (name ∈ r.toList.map (·.1) ↔ Call.Recorded name calls) ↔
        ¬ ∃ before derived after, calls = before ++ .insertDerived name derived :: after ∧
          (∀ c ∈ before, c.name ≠ name) ∧ Call.Recorded name after) ∧
      (r.toList.map (·.1)).Nodup ∧ r.size = (r.toList.map (·.1)).length := by
  intro r
  have follows := follows_ofCalls calls
  refine ⟨fun name => ?_, fun name => ?_, r.nodup_map_fst_toList, (List.length_map _).symm⟩
  · rw [follows.mem_toList_iff, Call.recordedFirst_iff]
  · have recorded : Call.RecordedFirst name calls → Call.Recorded name calls :=
      Call.RecordedFirst.recorded
    rw [follows.mem_toList_iff, ← Call.recorded_not_first_iff]
    tauto

/-- A benchmark that is derived and then measured: what is stored is the measurement, and
it is not listed. -/
theorem derived_then_recorded_unlisted :
    let calls : List Call := [.insertDerived "x" ⟨⟨5, by decide, by decide⟩, "derived"⟩,
      .record ⟨"x", ⟨3, by decide, by decide⟩, "measured"⟩]
    Call.Recorded "x" calls ∧ "x" ∉ (ofCalls calls).toList.map (·.1) ∧ (ofCalls calls).size = 0 ∧
      (ofCalls calls).get? "x" = some ⟨⟨3, by decide, by decide⟩, "measured"⟩ := by
  decide

/-- What a history leaves.  A name is stored just if it is called, with the first of the
least among the times that stand for it.  The list holds the names whose first call
recorded a measurement, in the order of these calls, each once and with its stored time;
its length is the size.  And every recording says whether it changed the stored time:
whether there was none, or whether it became strictly less. -/
theorem ofCalls_history (calls : List Call) :
    let r := ofCalls calls
    let listed := ((Call.firsts calls).filter (·.isRecord)).map (·.name)
    (∀ name, r.get? name = none ↔ name ∉ calls.map (·.name)) ∧
      (∀ name t, r.get? name = some t ↔ FirstLeast (Call.standing name calls) t) ∧
      listed.Nodup ∧
      r.toList = (listed.filterMap fun name => (r.get? name).map fun t => (name, t)) ∧
      r.toList.map (·.1) = listed ∧
      r.size = listed.length ∧
      ∀ before m after, calls = before ++ .record m :: after →
        (((ofCalls before).record m).2 = true ↔
          (ofCalls before).get? m.name = none ∨
            ∃ old new, (ofCalls before).get? m.name = some old ∧
              (ofCalls (before ++ [.record m])).get? m.name = some new ∧
              new.nanos < old.nanos) := by
  intro r listed
  have follows := follows_ofCalls calls
  have names : r.toList.map (·.1) = listed := follows.map_fst_toList
  refine ⟨fun name => ?_, fun name => (follows.keeps name).get?_eq_some_iff, ?_, ?_, names, ?_, ?_⟩
  · rw [get?_eq_none_iff_names, follows.mem_names_iff]
  · rw [← names]
    exact r.nodup_map_fst_toList
  · rw [← names]
    exact r.toList_eq_filterMap
  · rw [← names, List.length_map]
    rfl
  · rintro before m after -
    rw [ofCalls_concat]
    exact (ofCalls before).record_snd_iff m

end BestTimes.Registry
