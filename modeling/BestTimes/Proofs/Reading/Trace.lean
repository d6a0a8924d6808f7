import BestTimes.Proofs.Reading.FirstFault
set_option autoImplicit false

/-!
# The log of reading

While it reads, the program tells each best time that it records.  These events are an
account of the registry.  They are the *improvements* among the measurements, those that are
less than all of their benchmark in front of them; `improvements` says which these are from
the measurements alone, without a registry (`newBests_eq_improvements`).

Each fact about the log has a lemma on what is told of one benchmark while measurements are
recorded into any registry (`timesTold_newBests_cons` is the step of all of them): its times
fall, the last of them is stored behind, and the first of them is the first of all if nothing
was stored before.  Replaying the log as overwrites of a table follows the listed benchmarks
step by step (`replay_newBests`).
-/

namespace BestTimes

namespace Event

/-- The benchmark and the time that an event tells as a best one, if it does. -/
def best? : Event → Option (String × Nanos)
  | .newBest name nanos => some (name, nanos)
  | _ => none

end Event

namespace Registry

/-! ## What a log tells -/

/-- The best times that are told, in order. -/
def told (events : List Event) : List (String × Nanos) := events.filterMap Event.best?

/-- The best times that are told of one benchmark, in order. -/
def timesTold (name : String) (events : List Event) : List Nanos :=
  ((told events).filter (·.1 = name)).map (·.2)

/-- A table of times with one more time: in the place of the old one, or at the end. -/
def overwrite (table : List (String × Nanos)) (entry : String × Nanos) :
    List (String × Nanos) :=
  if entry.1 ∈ table.map (·.1) then table.map fun old => if old.1 = entry.1 then entry else old
  else table ++ [entry]

/-- The table that the best times of a log leave, each an overwrite of those before. -/
def replay (table : List (String × Nanos)) (events : List Event) : List (String × Nanos) :=
  (told events).foldl overwrite table

/-- The listed benchmarks with their times, in order. -/
def table (r : Registry) : List (String × Nanos) := r.toList.map fun e => (e.1, e.2.nanos)

/-- The measurements that are less than all of their benchmark in front of them, where `seen`
were in front of all. -/
def improvements (seen : List Measurement) : List Measurement → List Measurement
  | [] => []
  | m :: ms =>
    if ∀ t ∈ timingsOf m.name seen, m.timing.nanos < t.nanos then
      m :: improvements (seen ++ [m]) ms
    else improvements (seen ++ [m]) ms

theorem improvements_sublist (seen ms : List Measurement) : (improvements seen ms).Sublist ms := by
  induction ms generalizing seen with
  | nil => exact .slnil
  | cons m ms ih =>
    unfold improvements
    split
    · exact (ih _).cons_cons m
    · exact (ih _).cons m

/-! ## One measurement -/

/-- A measurement is told just if it is less than all times that were kept of its
benchmark. -/
theorem Keeps.record_snd_iff_forall {r : Registry} {m : Measurement} {ts : List Timing}
    (h : r.Keeps m.name ts) :
    (r.record m).2 = true ↔ ∀ t ∈ ts, m.timing.nanos < t.nanos := by
  cases stored : r.get? m.name with
  | none => simp [record_of_new stored, h.eq_nil stored]
  | some best =>
    have least := h.firstLeast stored
    by_cases faster : m.timing.nanos < best.nanos
    · rw [record_of_faster stored faster]
      simp only [true_iff]
      intro t ht
      exact Int.lt_of_lt_of_le faster (least.le t ht)
    · rw [record_of_not_faster stored faster]
      simp only [Bool.false_eq_true, false_iff]
      intro all
      exact faster (all best least.mem)

/-- What is told of a benchmark: the first measurement if it is one of it and the best so far,
and what is told behind. -/
theorem timesTold_newBests_cons (r : Registry) (name : String) (m : Measurement)
    (ms : List Measurement) :
    timesTold name (r.newBests (m :: ms)) =
      (if name = m.name ∧ (r.record m).2 = true then [m.timing.nanos] else []) ++
        timesTold name ((r.record m).1.newBests ms) := by
  unfold timesTold told
  rw [newBests, List.filterMap_append, List.filter_append, List.map_append]
  congr 1
  by_cases best : (r.record m).2 = true
  · by_cases own : name = m.name
    · simp [best, own, Event.best?]
    · simp [best, own, Ne.symm own, Event.best?]
  · simp [best]

/-- A table of a registry changes just with what is told of a measurement. -/
theorem table_record {r : Registry} (listed : r.AllListed) (m : Measurement) :
    (r.record m).1.table =
      if (r.record m).2 then overwrite r.table (m.name, m.timing.nanos) else r.table := by
  have entries {s : Registry} (all : s.AllListed) :
      s.table = s.entries.map fun e => (e.name, e.timing.nanos) := by
    unfold table
    rw [all.toList, List.map_map]
    rfl
  have names : r.table.map (·.1) = r.names := by
    rw [entries listed, List.map_map]
    rfl
  rw [entries (listed.record m)]
  unfold overwrite
  rw [names]
  cases stored : r.get? m.name with
  | none =>
    rw [record_of_new stored, if_pos rfl,
      if_neg ((r.get?_eq_none_iff_names m.name).1 stored), entries listed]
    simp [append]
  | some best =>
    by_cases faster : m.timing.nanos < best.nanos
    · rw [record_of_faster stored faster, if_pos rfl, if_pos (mem_names_of_stored stored),
        entries listed]
      simp only [replace, List.map_map]
      refine List.map_congr_left fun e _ => ?_
      by_cases own : e.name = m.name
      · simp [own]
      · simp [own]
    · rw [record_of_not_faster stored faster]
      simp [entries listed]

/-! ## All measurements -/

/-- The events are the improvements, in order. -/
theorem newBests_eq_improvements {r : Registry} {seen : List Measurement}
    (h : Summarises r seen) (ms : List Measurement) :
    r.newBests ms = (improvements seen ms).map fun m => .newBest m.name m.timing.nanos := by
  induction ms generalizing r seen with
  | nil => rfl
  | cons m ms ih =>
    have told := (h.keeps m.name).record_snd_iff_forall
    unfold newBests improvements
    rw [ih (h.record m)]
    split
    · rename_i best
      rw [if_pos (told.1 best), List.map_cons, List.singleton_append]
    · rename_i kept
      rw [if_neg fun all => kept (told.2 all), List.nil_append]

/-- What is told is less than what was stored. -/
theorem lt_of_mem_timesTold {r : Registry} {name : String} {t : Timing}
    (stored : r.get? name = some t) {ms : List Measurement} {nanos : Nanos}
    (h : nanos ∈ timesTold name (r.newBests ms)) : nanos < t.nanos := by
  induction ms generalizing r t with
  | nil => cases h
  | cons m ms ih =>
    rw [timesTold_newBests_cons, List.mem_append] at h
    have after := r.get?_record m name
    by_cases best : name = m.name ∧ (r.record m).2 = true
    · rw [if_pos best] at h after
      have faster : m.timing.nanos < t.nanos := by
        obtain ⟨rfl, improves⟩ := best
        have kept := Keeps.of_firstLeast stored (.singleton t)
        exact kept.record_snd_iff_forall.1 improves t (List.mem_singleton_self t)
      rcases h with own | later
      · rw [List.mem_singleton] at own
        exact own ▸ faster
      · exact Int.lt_trans (ih after later) faster
    · rw [if_neg best] at h after
      rcases h with own | later
      · cases own
      · exact ih (after.trans stored) later

/-- The times that are told of a benchmark fall. -/
theorem pairwise_timesTold (r : Registry) (name : String) (ms : List Measurement) :
    (timesTold name (r.newBests ms)).Pairwise fun earlier later => later < earlier := by
  induction ms generalizing r with
  | nil => exact .nil
  | cons m ms ih =>
    rw [timesTold_newBests_cons]
    split
    · rename_i best
      have after := r.get?_record m name
      rw [if_pos best] at after
      exact .cons (fun _ later => lt_of_mem_timesTold after later) (ih _)
    · exact ih _

/-- The last time that is told of a benchmark is stored behind; if none is told, it is the one
that was stored. -/
theorem getLast?_timesTold (r : Registry) (name : String) (ms : List Measurement) :
    (timesTold name (r.newBests ms)).getLast?.or ((r.get? name).map (·.nanos)) =
      ((r.recordAll ms).get? name).map (·.nanos) := by
  induction ms generalizing r with
  | nil => rfl
  | cons m ms ih =>
    rw [recordAll_cons, ← ih, timesTold_newBests_cons, r.get?_record m name]
    by_cases best : name = m.name ∧ (r.record m).2 = true
    · simp [best, List.getLast?_cons, Option.or_some]
    · simp [best]

/-- The first time that is told of a benchmark that was not stored is its first of all. -/
theorem head?_timesTold {r : Registry} {name : String} (absent : r.get? name = none)
    (ms : List Measurement) :
    (timesTold name (r.newBests ms)).head? = (timingsOf name ms).head?.map (·.nanos) := by
  induction ms generalizing r with
  | nil => rfl
  | cons m ms ih =>
    have times : timingsOf name (m :: ms) =
        (if m.name = name then [m.timing] else []) ++ timingsOf name ms := by
      rw [← List.singleton_append, timingsOf_append, timingsOf_singleton]
    rw [timesTold_newBests_cons, times]
    by_cases own : name = m.name
    · subst own
      have nothing : r.Keeps m.name [] := (Keeps.empty m.name).congr absent
      have first := nothing.record_snd_iff_forall.2 fun _ none => (List.not_mem_nil none).elim
      simp [first]
    · have after := r.get?_record m name
      rw [if_neg fun both => own both.1, absent] at after
      simp [own, Ne.symm own, ih after]

/-- Replaying what is told rebuilds the table, from the one that was there before. -/
theorem replay_newBests {r : Registry} (listed : r.AllListed) (ms : List Measurement) :
    replay r.table (r.newBests ms) = (r.recordAll ms).table := by
  induction ms generalizing r with
  | nil => rfl
  | cons m ms ih =>
    rw [recordAll_cons, ← ih (listed.record m), table_record listed]
    unfold replay told
    rw [newBests, List.filterMap_append, List.foldl_append]
    by_cases best : (r.record m).2 = true
    · simp [best, Event.best?]
    · simp [best]

/-! ## Main result -/

/-- The log of reading into an empty registry, for all bytes, any number of lines in front of
them, and however the reading ends.  Told are just the improvements among the measurements in
front of where it ends, in their order.  Of each benchmark the times that are told fall
strictly; the first of them is its first of all, the last of them is stored when the reading
ends, and one is told just if one is stored.  Replaying all of them as overwrites rebuilds the
names in order, with the times that are stored. -/
theorem read_trace (before : Nat) (bytes : List UInt8) :
    let p := empty.read before bytes
    let ms := (Measurement.survey before (Text.lines bytes)).1
    (p.events = (improvements [] ms).map fun m => .newBest m.name m.timing.nanos) ∧
      (improvements [] ms).Sublist ms ∧
      (∀ name, (timesTold name p.events).Pairwise (fun earlier later => later < earlier) ∧
        (timesTold name p.events).head? = (timingsOf name ms).head?.map (·.nanos) ∧
        (timesTold name p.events).getLast? = (p.registry.get? name).map (·.nanos) ∧
        (timesTold name p.events ≠ [] ↔ (p.registry.get? name).isSome = true)) ∧
      replay [] p.events = p.registry.toList.map fun e => (e.1, e.2.nanos) := by
  intro p ms
  have events : p.events = empty.newBests ms := empty.events_read before bytes
  have registry : p.registry = empty.recordAll ms := empty.registry_read before bytes
  rw [events, registry]
  refine ⟨newBests_eq_improvements summarises_empty ms, improvements_sublist [] ms,
    fun name => ?_, replay_newBests allListed_empty ms⟩
  have last : (timesTold name (empty.newBests ms)).getLast? =
      ((empty.recordAll ms).get? name).map (·.nanos) := by
    have stored := getLast?_timesTold empty name ms
    rwa [get?_empty, Option.map_none, Option.or_none] at stored
  refine ⟨pairwise_timesTold empty name ms, head?_timesTold (get?_empty name) ms, last, ?_⟩
  rw [← Option.isSome_map, ← last, ← List.getLast?_isSome]

end Registry

end BestTimes
