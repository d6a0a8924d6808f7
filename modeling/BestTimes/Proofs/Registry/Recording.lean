import BestTimes.Registry
import Mathlib.Data.List.Nodup
set_option autoImplicit false

/-!
# Recording measurements

`recordAll` records measurements one after the other.  What it leaves is described
without it, by the measurements as a whole (`Summarises`):

* the names are those of the measurements, in the order of their first occurrence,
  and all of them are listed;
* the best time of a name is the first of the least among its times (`FirstLeast`).

`Summarises.record` says that one more measurement keeps this, and
`summarises_recordAll` that it therefore holds of all measurements that are recorded
into an empty registry.  The last section goes the other way: a registry whose
benchmarks are all listed is the one that its own list records
(`recordAll_measurements`).
-/

namespace BestTimes

/-! ## The first of the least -/

/-- `t` is the first of the least times of `ts`: less than every time in front of it,
and at most every time behind it. -/
def FirstLeast (ts : List Timing) (t : Timing) : Prop :=
  ∃ before after : List Timing, ts = before ++ t :: after ∧
    (∀ u ∈ before, t.nanos < u.nanos) ∧ ∀ u ∈ after, t.nanos ≤ u.nanos

namespace FirstLeast

variable {ts : List Timing} {s t : Timing}

theorem singleton (t : Timing) : FirstLeast [t] t :=
  ⟨[], [], rfl, by simp, by simp⟩

theorem mem (h : FirstLeast ts t) : t ∈ ts := by
  obtain ⟨before, after, rfl, -, -⟩ := h
  simp

/-- It is at most every time. -/
theorem le (h : FirstLeast ts t) : ∀ u ∈ ts, t.nanos ≤ u.nanos := by
  obtain ⟨before, after, rfl, less, atMost⟩ := h
  intro u hu
  rcases List.mem_append.1 hu with hu | hu
  · exact Int.le_of_lt (less u hu)
  · rcases List.mem_cons.1 hu with rfl | hu
    · exact Int.le_refl _
    · exact atMost u hu

/-- There is no other one. -/
theorem unique (hs : FirstLeast ts s) (ht : FirstLeast ts t) : s = t := by
  obtain ⟨b, a, rfl, less, atMost⟩ := hs
  obtain ⟨b', a', split, less', atMost'⟩ := ht
  rcases List.append_eq_append_iff.1 split with ⟨c, hb, ha⟩ | ⟨c, hb, ha⟩
  · rcases List.cons_eq_append_iff.1 ha with ⟨rfl, h⟩ | ⟨c, rfl, rfl⟩
    · exact (List.cons.inj h).1.symm
    · have first := less' s (by simp [hb])
      have second := atMost t (by simp)
      exact absurd first (Int.not_lt.2 second)
  · rcases List.cons_eq_append_iff.1 ha with ⟨rfl, h⟩ | ⟨c, rfl, rfl⟩
    · exact (List.cons.inj h).1
    · have first := less t (by simp [hb])
      have second := atMost' s (by simp)
      exact absurd first (Int.not_lt.2 second)

/-- A faster time at the end takes its place. -/
theorem concat_of_lt (h : FirstLeast ts t) (faster : s.nanos < t.nanos) :
    FirstLeast (ts ++ [s]) s :=
  ⟨ts, [], rfl, fun u hu => Int.lt_of_lt_of_le faster (h.le u hu), by simp⟩

/-- A time at the end that is not faster does not. -/
theorem concat_of_not_lt (h : FirstLeast ts t) (slower : ¬ s.nanos < t.nanos) :
    FirstLeast (ts ++ [s]) t := by
  obtain ⟨before, after, rfl, less, atMost⟩ := h
  refine ⟨before, after ++ [s], by simp, less, fun u hu => ?_⟩
  rcases List.mem_append.1 hu with hu | hu
  · exact atMost u hu
  · rw [List.mem_singleton] at hu
    exact hu ▸ Int.not_lt.1 slower

end FirstLeast

/-! ## Names -/

namespace Registry

/-- The names of all benchmarks, in order of entry. -/
def names (r : Registry) : List String := r.entries.map (·.name)

theorem get?_eq_none_iff_names (r : Registry) (name : String) :
    r.get? name = none ↔ name ∉ r.names := r.get?_eq_none_iff name

theorem mem_names_of_stored {r : Registry} {name : String} {t : Timing}
    (stored : r.get? name = some t) : name ∈ r.names := by
  by_contra absent
  rw [(r.get?_eq_none_iff_names name).2 absent] at stored
  cases stored

/-- Every entry is found by its name. -/
theorem get?_of_mem {r : Registry} {e : Entry} (h : e ∈ r.entries) :
    r.get? e.name = some e.timing := by
  have distinct := r.distinct
  unfold get?
  generalize r.entries = entries at h distinct
  induction entries with
  | nil => cases h
  | cons first rest ih =>
    rw [List.map_cons, List.nodup_cons] at distinct
    rcases List.mem_cons.1 h with rfl | h
    · simp
    · have other : first.name ≠ e.name := by
        intro same
        exact distinct.1 (same ▸ List.mem_map_of_mem h)
      rw [List.find?_cons_of_neg (by simpa using other)]
      exact ih h distinct.2

theorem names_replace (r : Registry) (name : String) (timing : Timing) :
    (r.replace name timing).names = r.names := by
  unfold names replace
  rw [List.map_map]
  refine List.map_congr_left fun e _ => ?_
  by_cases h : e.name = name <;> simp [h]

/-- A measurement adds its name behind the others if it is new. -/
theorem names_record (r : Registry) (m : Measurement) :
    (r.record m).1.names = if m.name ∈ r.names then r.names else r.names ++ [m.name] := by
  cases stored : r.get? m.name with
  | none =>
    rw [if_neg ((r.get?_eq_none_iff_names m.name).1 stored), record_of_new stored]
    simp [names, append]
  | some best =>
    rw [if_pos (mem_names_of_stored stored)]
    by_cases faster : m.timing.nanos < best.nanos
    · rw [record_of_faster stored faster]
      exact names_replace r m.name m.timing
    · rw [record_of_not_faster stored faster]

/-! ## The time that is kept -/

/-- Whether a registry keeps the first of the least of some times for a name: it stores
that one, or nothing if there are no times. -/
def Keeps (r : Registry) (name : String) (ts : List Timing) : Prop :=
  match r.get? name with
  | none => ts = []
  | some t => FirstLeast ts t

namespace Keeps

variable {r : Registry} {name : String} {ts : List Timing}

theorem congr {s : Registry} (h : r.Keeps name ts) (same : s.get? name = r.get? name) :
    s.Keeps name ts := by
  unfold Keeps
  rw [same]
  exact h

theorem eq_nil (h : r.Keeps name ts) (absent : r.get? name = none) : ts = [] := by
  unfold Keeps at h
  rwa [absent] at h

theorem firstLeast {t : Timing} (h : r.Keeps name ts) (stored : r.get? name = some t) :
    FirstLeast ts t := by
  unfold Keeps at h
  rwa [stored] at h

theorem get?_eq_some_iff (h : r.Keeps name ts) (t : Timing) :
    r.get? name = some t ↔ FirstLeast ts t := by
  refine ⟨h.firstLeast, fun least => ?_⟩
  cases stored : r.get? name with
  | none =>
    rw [h.eq_nil stored] at least
    exact absurd least.mem List.not_mem_nil
  | some u => rw [(h.firstLeast stored).unique least]

theorem get?_eq_none_iff (h : r.Keeps name ts) : r.get? name = none ↔ ts = [] := by
  refine ⟨h.eq_nil, fun none => ?_⟩
  cases stored : r.get? name with
  | none => rfl
  | some t =>
    have mem := (h.firstLeast stored).mem
    rw [none] at mem
    exact absurd mem List.not_mem_nil

theorem empty (name : String) : Registry.empty.Keeps name [] := rfl

theorem of_firstLeast {t : Timing} (stored : r.get? name = some t) (least : FirstLeast ts t) :
    r.Keeps name ts := by
  unfold Keeps
  rw [stored]
  exact least

/-- One more measurement is one more time, if it is for the name. -/
theorem record (h : r.Keeps name ts) (m : Measurement) :
    (r.record m).1.Keeps name (ts ++ if m.name = name then [m.timing] else []) := by
  by_cases own : m.name = name
  · subst own
    rw [if_pos rfl]
    cases stored : r.get? m.name with
    | none =>
      rw [h.eq_nil stored, record_of_new stored]
      exact of_firstLeast (by rw [get?_append, if_pos rfl]) (.singleton m.timing)
    | some best =>
      have least := h.firstLeast stored
      by_cases faster : m.timing.nanos < best.nanos
      · rw [record_of_faster stored faster]
        refine of_firstLeast ?_ (least.concat_of_lt faster)
        rw [get?_replace, if_pos rfl, stored, Option.map_some]
      · rw [record_of_not_faster stored faster]
        exact of_firstLeast stored (least.concat_of_not_lt faster)
  · rw [if_neg own, List.append_nil]
    refine h.congr ?_
    rw [get?_record, if_neg fun both => own both.1.symm]

end Keeps

/-! ## Listed benchmarks -/

/-- Whether every benchmark is listed, as it is if all of them were measured. -/
def AllListed (r : Registry) : Prop := ∀ e ∈ r.entries, e.listed = true

theorem allListed_empty : empty.AllListed := by
  intro e he
  cases he

theorem AllListed.record {r : Registry} (h : r.AllListed) (m : Measurement) :
    (r.record m).1.AllListed := by
  cases stored : r.get? m.name with
  | none =>
    rw [record_of_new stored]
    intro e he
    rcases List.mem_append.1 he with he | he
    · exact h e he
    · rw [List.mem_singleton] at he
      rw [he]
  | some best =>
    by_cases faster : m.timing.nanos < best.nanos
    · rw [record_of_faster stored faster]
      intro e he
      obtain ⟨old, hold, rfl⟩ := List.mem_map.1 he
      split <;> exact h old hold
    · rw [record_of_not_faster stored faster]
      exact h

theorem AllListed.toList {r : Registry} (h : r.AllListed) :
    r.toList = r.entries.map fun e => (e.name, e.timing) := by
  unfold Registry.toList
  rw [List.filter_eq_self.2 h]

theorem get?_of_mem_toList {r : Registry} {listed : String × Timing} (h : listed ∈ r.toList) :
    r.get? listed.1 = some listed.2 := by
  obtain ⟨e, he, rfl⟩ := List.mem_map.1 h
  exact get?_of_mem (List.mem_of_mem_filter he)

theorem nodup_map_fst_toList (r : Registry) : (r.toList.map (·.1)).Nodup := by
  unfold toList
  rw [List.map_map]
  exact r.distinct.sublist (List.filter_sublist.map _)

/-- The list is found by looking up its names, and none of them is missing. -/
theorem toList_eq_filterMap (r : Registry) :
    r.toList = (r.toList.map (·.1)).filterMap fun name => (r.get? name).map fun t => (name, t) := by
  rw [List.filterMap_map]
  have found : ∀ listed ∈ r.toList,
      ((fun name => (r.get? name).map fun t => (name, t)) ∘ (·.1)) listed = some listed := by
    intro listed h
    simp only [Function.comp_apply, get?_of_mem_toList h, Option.map_some]
  rw [List.filterMap_congr found, List.filterMap_some]

/-! ## All measurements -/

/-- Records measurements in order. -/
def recordAll (r : Registry) (ms : List Measurement) : Registry :=
  ms.foldl (fun r m => (r.record m).1) r

@[simp] theorem recordAll_nil (r : Registry) : r.recordAll [] = r := rfl

@[simp] theorem recordAll_cons (r : Registry) (m : Measurement) (ms : List Measurement) :
    r.recordAll (m :: ms) = (r.record m).1.recordAll ms := rfl

theorem recordAll_append (r : Registry) (ms others : List Measurement) :
    r.recordAll (ms ++ others) = (r.recordAll ms).recordAll others := List.foldl_append

/-- The times that measurements give for a name, in order. -/
def timingsOf (name : String) (ms : List Measurement) : List Timing :=
  (ms.filter (·.name = name)).map (·.timing)

theorem timingsOf_append (name : String) (ms others : List Measurement) :
    timingsOf name (ms ++ others) = timingsOf name ms ++ timingsOf name others := by
  unfold timingsOf
  rw [List.filter_append, List.map_append]

theorem timingsOf_singleton (name : String) (m : Measurement) :
    timingsOf name [m] = if m.name = name then [m.timing] else [] := by
  unfold timingsOf
  rw [List.filter_singleton]
  by_cases h : m.name = name <;> simp [h]

theorem timingsOf_concat (name : String) (ms : List Measurement) (m : Measurement) :
    timingsOf name (ms ++ [m]) =
      timingsOf name ms ++ if m.name = name then [m.timing] else [] := by
  rw [timingsOf_append, timingsOf_singleton]

/-- More measurements are more times, those that are for the name. -/
theorem Keeps.recordAll {r : Registry} {name : String} {ts : List Timing}
    (h : r.Keeps name ts) (ms : List Measurement) :
    (r.recordAll ms).Keeps name (ts ++ timingsOf name ms) := by
  induction ms generalizing r ts with
  | nil => rwa [recordAll_nil, timingsOf, List.filter_nil, List.map_nil, List.append_nil]
  | cons m ms ih =>
    rw [recordAll_cons, ← List.singleton_append, timingsOf_append, ← List.append_assoc,
      timingsOf_singleton]
    exact ih (h.record m)

/-- Of a last name the list without repetitions keeps a trace only if it is new. -/
theorem eraseDups_concat (names : List String) (name : String) :
    (names ++ [name]).eraseDups =
      if name ∈ names then names.eraseDups else names.eraseDups ++ [name] := by
  rw [List.eraseDups_append, List.cons_removeAll, List.nil_removeAll]
  by_cases known : name ∈ names <;> simp [known, List.eraseDups_cons]

/-- What a registry is to the measurements recorded into it. -/
structure Summarises (r : Registry) (ms : List Measurement) : Prop where
  names_eq : r.names = (ms.map (·.name)).eraseDups
  listed : r.AllListed
  firstLeast : ∀ name t, r.get? name = some t → FirstLeast (timingsOf name ms) t

theorem summarises_empty : Summarises empty [] where
  names_eq := rfl
  listed := allListed_empty
  firstLeast := by
    intro name t h
    rw [get?_empty] at h
    cases h

theorem Summarises.mem_names_iff {r : Registry} {ms : List Measurement} (h : Summarises r ms)
    (name : String) : name ∈ r.names ↔ name ∈ ms.map (·.name) := by
  rw [h.names_eq, List.mem_eraseDups]

theorem Summarises.timingsOf_eq_nil {r : Registry} {ms : List Measurement}
    (h : Summarises r ms) {name : String} (absent : r.get? name = none) :
    timingsOf name ms = [] := by
  rw [get?_eq_none_iff_names, h.mem_names_iff] at absent
  unfold timingsOf
  rw [List.map_eq_nil_iff, List.filter_eq_nil_iff]
  intro m hm same
  exact absent (List.mem_map.2 ⟨m, hm, of_decide_eq_true same⟩)

theorem Summarises.keeps {r : Registry} {ms : List Measurement} (h : Summarises r ms)
    (name : String) : r.Keeps name (timingsOf name ms) := by
  cases stored : r.get? name with
  | none =>
    rw [h.timingsOf_eq_nil stored]
    exact (Keeps.empty name).congr stored
  | some t => exact .of_firstLeast stored (h.firstLeast name t stored)

/-- One more measurement: the registry follows. -/
theorem Summarises.record {r : Registry} {ms : List Measurement} (h : Summarises r ms)
    (m : Measurement) : Summarises (r.record m).1 (ms ++ [m]) where
  names_eq := by
    rw [names_record, List.map_append, List.map_singleton, eraseDups_concat, ← h.names_eq]
    simp only [h.mem_names_iff]
  listed := h.listed.record m
  firstLeast := by
    intro name t found
    rw [timingsOf_concat]
    exact ((h.keeps name).record m).firstLeast found

theorem Summarises.recordAll {r : Registry} {before : List Measurement}
    (h : Summarises r before) (ms : List Measurement) :
    Summarises (r.recordAll ms) (before ++ ms) := by
  induction ms generalizing r before with
  | nil => rwa [List.append_nil, recordAll_nil]
  | cons m ms ih =>
    rw [recordAll_cons, List.append_cons]
    exact ih (h.record m)

/-- A registry into which measurements were recorded summarises them. -/
theorem summarises_recordAll (ms : List Measurement) : Summarises (empty.recordAll ms) ms :=
  summarises_empty.recordAll ms

/-- What is stored for a name is one of the measurements. -/
theorem Summarises.measurement_mem {r : Registry} {ms : List Measurement} (h : Summarises r ms)
    {e : Entry} (he : e ∈ r.entries) : (⟨e.name, e.timing⟩ : Measurement) ∈ ms := by
  have stored := (h.firstLeast e.name e.timing (get?_of_mem he)).mem
  obtain ⟨m, hm, timing⟩ := List.mem_map.1 stored
  rw [List.mem_filter] at hm
  have name : m.name = e.name := of_decide_eq_true hm.2
  rw [← name, ← timing]
  exact hm.1

/-- There are no more benchmarks than measurements. -/
theorem Summarises.length_entries_le {r : Registry} {ms : List Measurement}
    (h : Summarises r ms) : r.entries.length ≤ ms.length := by
  have known : r.names ⊆ ms.map (·.name) := fun name m => (h.mem_names_iff name).1 m
  calc r.entries.length = r.names.length := by rw [names, List.length_map]
    _ ≤ (ms.map (·.name)).length := r.distinct.length_le_of_subset known
    _ = ms.length := List.length_map _

/-! ## Recording the list of a registry -/

theorem ext_entries {r s : Registry} (h : r.entries = s.entries) : r = s := by
  cases r; cases s; simp_all

theorem entries_record_of_new {r : Registry} {m : Measurement} (h : m.name ∉ r.names) :
    (r.record m).1.entries = r.entries ++ [⟨m.name, m.timing, true⟩] := by
  rw [record_of_new ((r.get?_eq_none_iff_names m.name).2 h)]
  rfl

/-- Measurements of new and distinct benchmarks are added as they are. -/
theorem entries_recordAll_of_new {ms : List Measurement} (distinct : (ms.map (·.name)).Nodup)
    (r : Registry) (new : ∀ m ∈ ms, m.name ∉ r.names) :
    (r.recordAll ms).entries = r.entries ++ ms.map fun m => ⟨m.name, m.timing, true⟩ := by
  induction ms generalizing r with
  | nil => simp
  | cons m ms ih =>
    rw [List.map_cons, List.nodup_cons] at distinct
    obtain ⟨fresh, others⟩ := List.forall_mem_cons.1 new
    have later : ∀ n ∈ ms, n.name ∉ (r.record m).1.names := by
      intro n hn known
      rw [names_record, if_neg fresh, List.mem_append, List.mem_singleton] at known
      rcases known with known | same
      · exact others n hn known
      · exact distinct.1 (same ▸ List.mem_map_of_mem hn)
    rw [recordAll_cons, ih distinct.2 _ later, entries_record_of_new fresh, List.map_cons,
      List.append_assoc, List.singleton_append]

/-- The best times of a registry as measurements. -/
def measurements (r : Registry) : List Measurement := r.entries.map fun e => ⟨e.name, e.timing⟩

/-- A registry whose benchmarks are all listed is what its own best times record. -/
theorem recordAll_measurements {r : Registry} (h : r.AllListed) :
    empty.recordAll r.measurements = r := by
  have distinct : (r.measurements.map (·.name)).Nodup := by
    unfold measurements
    rw [List.map_map]
    exact r.distinct
  refine ext_entries ?_
  rw [entries_recordAll_of_new distinct empty fun m _ known => (List.not_mem_nil known).elim]
  unfold measurements
  rw [List.map_map]
  have same : ∀ e ∈ r.entries, (⟨e.name, e.timing, true⟩ : Entry) = e := by
    intro e he
    rw [← h e he]
  calc empty.entries ++ r.entries.map (fun e => (⟨e.name, e.timing, true⟩ : Entry))
      = r.entries.map (fun e => (⟨e.name, e.timing, true⟩ : Entry)) := List.nil_append _
    _ = r.entries := by rw [List.map_congr_left same, List.map_id']

end Registry

end BestTimes
