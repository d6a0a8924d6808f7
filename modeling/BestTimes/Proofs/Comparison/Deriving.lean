import BestTimes.Proofs.Comparison
import BestTimes.Proofs.Registry.History
import Mathlib.Data.List.Forall2
import Mathlib.Logic.Function.Iterate
set_option autoImplicit false

/-!
# What deriving leaves behind

Deriving sets one time of its table after the other, until a base is missing or a sum is out
of range.  Which times these are can be read off the registry before it (`derivedTimes`),
because no derived benchmark is a base; so what deriving leaves, however it ends, is that
registry with these times set (`registry_derive`).

* A time that is set stays set if deriving then fails.  Deriving leaves no trace only if all
  the times that it sets were there before (`registry_derive_eq_self_iff`), which a missing
  base does not see to (`derive_missing_cases`).
* Deriving again sets the times that the first time left there, so it does the same once more
  and changes nothing (`derive_derive`), and so does comparing (`compareAll_framed`).
-/

namespace BestTimes.Registry

/-! ## Setting times -/

/-- A time is there already just if setting it changes nothing. -/
theorem insertDerived_eq_self_iff (r : Registry) (name : String) (timing : Timing) :
    r.insertDerived name timing = r ↔ r.get? name = some timing := by
  constructor
  · intro same
    have found := r.get?_insertDerived name timing name
    rwa [same, if_pos rfl] at found
  · intro stored
    rw [insertDerived_of_stored stored]
    refine ext_entries ?_
    have kept : ∀ e ∈ r.entries, (if e.name = name then { e with timing } else e) = e := by
      intro e he
      split
      · rename_i own
        have found := get?_of_mem he
        rw [own, stored] at found
        rw [Option.some.inj found]
      · rfl
    calc (r.replace name timing).entries
        = r.entries.map fun e => if e.name = name then { e with timing } else e := rfl
      _ = r.entries := by rw [List.map_congr_left kept, List.map_id']

/-- Sets derived times in order. -/
def insertAll (r : Registry) (times : List (String × Timing)) : Registry :=
  times.foldl (fun r time => r.insertDerived time.1 time.2) r

@[simp] theorem insertAll_cons (r : Registry) (time : String × Timing)
    (times : List (String × Timing)) :
    r.insertAll (time :: times) = (r.insertDerived time.1 time.2).insertAll times := rfl

theorem get?_insertAll_of_notMem {times : List (String × Timing)} {other : String}
    (h : other ∉ times.map (·.1)) (r : Registry) :
    (r.insertAll times).get? other = r.get? other := by
  induction times generalizing r with
  | nil => rfl
  | cons time times ih =>
    rw [List.map_cons, List.mem_cons, not_or] at h
    rw [insertAll_cons, ih h.2, get?_insertDerived, if_neg h.1]

theorem get?_insertAll_of_mem {times : List (String × Timing)}
    (distinct : (times.map (·.1)).Nodup) {time : String × Timing} (m : time ∈ times)
    (r : Registry) : (r.insertAll times).get? time.1 = some time.2 := by
  induction times generalizing r with
  | nil => cases m
  | cons first times ih =>
    rw [List.map_cons, List.nodup_cons] at distinct
    rw [insertAll_cons]
    rcases List.mem_cons.1 m with rfl | later
    · rw [get?_insertAll_of_notMem distinct.1, get?_insertDerived, if_pos rfl]
    · exact ih distinct.2 later _

/-- Times of distinct names are there already just if setting them changes nothing. -/
theorem insertAll_eq_self_iff {times : List (String × Timing)}
    (distinct : (times.map (·.1)).Nodup) (r : Registry) :
    r.insertAll times = r ↔ ∀ time ∈ times, r.get? time.1 = some time.2 := by
  constructor
  · intro same time m
    have found := get?_insertAll_of_mem distinct m r
    rwa [same] at found
  · intro stored
    induction times with
    | nil => rfl
    | cons time times ih =>
      obtain ⟨own, rest⟩ := List.forall_mem_cons.1 stored
      rw [insertAll_cons, (r.insertDerived_eq_self_iff _ _).2 own]
      exact ih (List.nodup_cons.1 distinct).2 rest

theorem map_fst_toList_insertAll (r : Registry) (times : List (String × Timing)) :
    (r.insertAll times).toList.map (·.1) = r.toList.map (·.1) := by
  induction times generalizing r with
  | nil => rfl
  | cons time times ih => rw [insertAll_cons, ih, map_fst_toList_insertDerived]

/-! ## The times that are set -/

/-- The times that deriving sets before it ends, read off the registry before it. -/
def derivedTimes (r : Registry) : List (String × String) → List (String × Timing)
  | [] => []
  | (name, base) :: rest =>
    match r.timingFrom base with
    | .error _ => []
    | .ok timing => (name, timing) :: r.derivedTimes rest

theorem derivedTimes_cons_of_error {r : Registry} {pair : String × String} {fault : Fault}
    (h : r.timingFrom pair.2 = .error fault) (table : List (String × String)) :
    r.derivedTimes (pair :: table) = [] := by
  unfold derivedTimes
  rw [h]

theorem derivedTimes_cons_of_ok {r : Registry} {pair : String × String} {timing : Timing}
    (h : r.timingFrom pair.2 = .ok timing) (table : List (String × String)) :
    r.derivedTimes (pair :: table) = (pair.1, timing) :: r.derivedTimes table := by
  conv_lhs => unfold derivedTimes
  rw [h]

/-- The times that are set depend on the bases only. -/
theorem derivedTimes_congr {r s : Registry} {table : List (String × String)}
    (h : ∀ pair ∈ table, r.get? pair.2 = s.get? pair.2) :
    r.derivedTimes table = s.derivedTimes table := by
  induction table with
  | nil => rfl
  | cons pair table ih =>
    obtain ⟨own, rest⟩ := List.forall_mem_cons.1 h
    have same := timingFrom_congr own
    cases derived : s.timingFrom pair.2 with
    | error fault =>
      rw [derivedTimes_cons_of_error derived, derivedTimes_cons_of_error (same.trans derived)]
    | ok timing =>
      rw [derivedTimes_cons_of_ok derived, derivedTimes_cons_of_ok (same.trans derived), ih rest]

theorem derivedTimes_insertDerived {pair : String × String} {table : List (String × String)}
    (h : DerivesApart (pair :: table)) (r : Registry) (timing : Timing) :
    (r.insertDerived pair.1 timing).derivedTimes table = r.derivedTimes table :=
  derivedTimes_congr fun _ => h.get?_insertDerived r timing

/-- The times are set in the order of the table, up to where deriving ends. -/
theorem map_fst_derivedTimes_prefix (r : Registry) (table : List (String × String)) :
    (r.derivedTimes table).map (·.1) <+: table.map (·.1) := by
  induction table with
  | nil => exact List.prefix_rfl
  | cons pair table ih =>
    cases derived : r.timingFrom pair.2 with
    | error fault =>
      rw [derivedTimes_cons_of_error derived]
      exact List.nil_prefix
    | ok timing =>
      rw [derivedTimes_cons_of_ok derived]
      exact (List.prefix_cons_inj pair.1).2 ih

theorem DerivesApart.nodup_derivedTimes {table : List (String × String)}
    (h : DerivesApart table) (r : Registry) : ((r.derivedTimes table).map (·.1)).Nodup :=
  h.distinct.sublist (r.map_fst_derivedTimes_prefix table).sublist

/-- However deriving ends, it leaves the registry with these times set. -/
theorem registry_derive {table : List (String × String)} (h : DerivesApart table)
    (r : Registry) : (r.derive table).registry = r.insertAll (r.derivedTimes table) := by
  induction table generalizing r with
  | nil => rfl
  | cons pair table ih =>
    rw [derive_cons]
    cases derived : r.timingFrom pair.2 with
    | error fault =>
      rw [derivedTimes_cons_of_error derived]
      rfl
    | ok timing =>
      have front : r.derivedTimes (pair :: table) =
          (pair.1, timing) :: (r.insertDerived pair.1 timing).derivedTimes table := by
        rw [derivedTimes_cons_of_ok derived, derivedTimes_insertDerived h]
      calc ((r.insertDerived pair.1 timing).derive table).registry
          = (r.insertDerived pair.1 timing).insertAll
              ((r.insertDerived pair.1 timing).derivedTimes table) := ih h.tail _
        _ = r.insertAll (r.derivedTimes (pair :: table)) := by rw [front, insertAll_cons]

/-- Deriving leaves no trace just if the times that it sets were there before. -/
theorem registry_derive_eq_self_iff {table : List (String × String)} (h : DerivesApart table)
    (r : Registry) :
    (r.derive table).registry = r ↔
      ∀ time ∈ r.derivedTimes table, r.get? time.1 = some time.2 := by
  rw [registry_derive h]
  exact insertAll_eq_self_iff (h.nodup_derivedTimes r) r

/-- Whether a time is the one that is derived for a pair: that of the base and the work, with
the line of the base. -/
def DerivesTo (r : Registry) (pair : String × String) (time : String × Timing) : Prop :=
  ∃ best nanos, r.get? pair.2 = some best ∧ nanos.toInt = best.nanos.toInt + workNanos.toInt ∧
    time = (pair.1, ⟨nanos, best.line⟩)

/-- Deriving that ends at a missing base has set the times of all pairs in front of it. -/
theorem derivedTimes_of_missing {r : Registry} {table : List (String × String)} {name : String}
    (missing : r.deriveOutcome table = .error (.error (.missingBenchmark name))) :
    ∃ front pair back, table = front ++ pair :: back ∧ pair.2 = name ∧
      List.Forall₂ r.DerivesTo front (r.derivedTimes table) := by
  induction table with
  | nil => cases missing
  | cons pair table ih =>
    rw [deriveOutcome_cons] at missing
    cases derived : r.timingFrom pair.2 with
    | error fault =>
      rw [derived] at missing
      cases missing
      rw [derivedTimes_cons_of_error derived]
      exact ⟨[], pair, table, rfl, timingFrom_eq_missing derived, .nil⟩
    | ok timing =>
      rw [derived] at missing
      obtain ⟨front, other, back, split, own, set⟩ := ih missing
      have here : r.DerivesTo pair (pair.1, timing) := by
        obtain ⟨best, nanos, found, sum, rfl⟩ := timingFrom_eq_ok_iff.1 derived
        exact ⟨best, nanos, found, sum, rfl⟩
      rw [derivedTimes_cons_of_ok derived]
      exact ⟨pair :: front, other, back, by rw [split, List.cons_append], own, .cons here set⟩

/-! ## Deriving again -/

/-- Where the bases are the same and the times are there already, deriving ends as it did and
changes nothing. -/
theorem derive_of_stored {table : List (String × String)} (h : DerivesApart table)
    {r s : Registry} (bases : ∀ pair ∈ table, s.get? pair.2 = r.get? pair.2)
    (stored : ∀ time ∈ r.derivedTimes table, s.get? time.1 = some time.2) :
    s.derive table = ⟨s, (r.derive table).events, (r.derive table).outcome⟩ := by
  -- The registry that is derived again stays the same from step to step, the one it is
  -- compared with gains a time.
  induction table generalizing r with
  | nil => rfl
  | cons pair table ih =>
    obtain ⟨own, rest⟩ := List.forall_mem_cons.1 bases
    rw [derive_cons, derive_cons, timingFrom_congr own]
    cases derived : r.timingFrom pair.2 with
    | error fault => rfl
    | ok timing =>
      rw [derivedTimes_cons_of_ok derived] at stored
      obtain ⟨here, later⟩ := List.forall_mem_cons.1 stored
      have again := ih h.tail (r := r.insertDerived pair.1 timing)
        (fun other m => (rest other m).trans (h.get?_insertDerived r _ m).symm)
        (by rwa [derivedTimes_insertDerived h])
      simp only [(s.insertDerived_eq_self_iff pair.1 timing).2 here, again]
      rfl

/-- Deriving once more tells and ends as it did the first time, and changes nothing. -/
theorem derive_derive {table : List (String × String)} (h : DerivesApart table) (r : Registry) :
    (r.derive table).registry.derive table = r.derive table := by
  have bases : ∀ pair ∈ table, (r.derive table).registry.get? pair.2 = r.get? pair.2 := by
    intro pair m
    exact get?_derive_of_notMem (h.apart pair m) r
  have stored : ∀ time ∈ r.derivedTimes table,
      (r.derive table).registry.get? time.1 = some time.2 := by
    intro time m
    rw [registry_derive h]
    exact get?_insertAll_of_mem (h.nodup_derivedTimes r) m r
  exact derive_of_stored h bases stored

theorem compareAll_compareAll (r : Registry) : r.compareAll.registry.compareAll = r.compareAll := by
  rw [registry_compareAll]
  unfold compareAll
  rw [derive_derive derivesApart_derivations]

/-! ## Main results -/

/-- What a missing base leaves behind.  If it is the first one, nothing is changed.  If it is
the second one, the first derived time has been set, and the registry is the same only if that
very time, with its line, was there before. -/
theorem derive_missing_cases (r : Registry) (name : String)
    (missing : (r.derive derivations).outcome = .error (.error (.missingBenchmark name))) :
    (name = "manual+syscalls" ∧ (r.derive derivations).registry = r) ∨
      (name = "nonbox+syscalls" ∧ ∃ best nanos, r.get? "manual+syscalls" = some best ∧
        nanos.toInt = best.nanos.toInt + workNanos.toInt ∧
        (r.derive derivations).registry = r.insertDerived "manual+work" ⟨nanos, best.line⟩ ∧
        ((r.derive derivations).registry = r ↔
          r.get? "manual+work" = some ⟨nanos, best.line⟩)) := by
  rw [outcome_derive derivesApart_derivations] at missing
  obtain ⟨front, pair, back, split, rfl, set⟩ := derivedTimes_of_missing missing
  have unchanged := registry_derive_eq_self_iff derivesApart_derivations r
  rw [registry_derive derivesApart_derivations] at unchanged ⊢
  generalize r.derivedTimes derivations = times at set unchanged
  -- The table has two pairs, so none or one of them is in front of the missing base.
  cases set with
  | nil =>
    cases split
    exact .inl ⟨rfl, rfl⟩
  | cons here others =>
    cases others with
    | nil =>
      cases split
      obtain ⟨best, nanos, found, sum, rfl⟩ := here
      rw [List.forall_mem_singleton] at unchanged
      exact .inr ⟨rfl, best, nanos, found, sum, rfl, unchanged⟩
    | cons second others => simp [derivations] at split

/-- A missing second base where the first derived benchmark was measured itself: the measured
time is gone. -/
theorem derive_missing_cases_of_measured :
    let r := empty.recordAll [⟨"manual+work", ⟨⟨1, by decide, by decide⟩, "measured"⟩⟩,
      ⟨"manual+syscalls", ⟨⟨5, by decide, by decide⟩, "base"⟩⟩]
    (r.derive derivations).outcome = .error (.error (.missingBenchmark "nonbox+syscalls")) ∧
      r.get? "manual+work" = some ⟨⟨1, by decide, by decide⟩, "measured"⟩ ∧
      ∃ nanos : Nanos, nanos.toInt = 5 + workNanos.toInt ∧
        (r.derive derivations).registry = r.insertDerived "manual+work" ⟨nanos, "base"⟩ ∧
        (r.derive derivations).registry ≠ r := by
  intro r
  have missing : (r.derive derivations).outcome =
      .error (.error (.missingBenchmark "nonbox+syscalls")) := by decide
  have measured : r.get? "manual+work" = some ⟨⟨1, by decide, by decide⟩, "measured"⟩ := by
    decide
  have base : r.get? "manual+syscalls" = some ⟨⟨5, by decide, by decide⟩, "base"⟩ := by decide
  refine ⟨missing, measured, ?_⟩
  rcases derive_missing_cases r _ missing with
    ⟨first, -⟩ | ⟨-, best, nanos, found, sum, left, unchanged⟩
  · exact absurd first (by decide)
  · rw [base] at found
    cases found
    refine ⟨nanos, sum, left, ?_⟩
    intro same
    have stored := unchanged.1 same
    rw [measured] at stored
    have lines : "measured" = "base" := congrArg Timing.line (Option.some.inj stored)
    exact absurd lines (by decide)

/-- A derived time that is left behind by a missing base: there was none before. -/
theorem derived_before_missing :
    let r := (empty.record ⟨"manual+syscalls", ⟨⟨5, by decide, by decide⟩, "base"⟩⟩).1
    (r.derive derivations).outcome = .error (.error (.missingBenchmark "nonbox+syscalls")) ∧
      r.get? "manual+work" = none ∧
      (r.derive derivations).registry.get? "manual+work" =
        some ⟨⟨2560005, by decide, by decide⟩, "base"⟩ := by
  decide

/-- What comparing leaves alone, and that it can be repeated, however it ends.  The listed
benchmarks and their order stay, and so does every entry but the two derived ones.  A derived
entry is as it was, or that of its base and the work.  Comparing once more tells and ends as it
did, and changes nothing, and so does comparing any number of times. -/
theorem compareAll_framed (r : Registry) :
    let compared := r.compareAll.registry
    compared.toList.map (·.1) = r.toList.map (·.1) ∧
      compared.size = r.size ∧
      (∀ name, name ≠ "manual+work" → name ≠ "nonbox+work" →
        compared.get? name = r.get? name) ∧
      (∀ name, compared.get? name = r.get? name ∨
        ∃ base best nanos, (name, base) ∈ derivations ∧ r.get? base = some best ∧
          nanos.toInt = best.nanos.toInt + workNanos.toInt ∧
          compared.get? name = some ⟨nanos, best.line⟩) ∧
      compared.compareAll = r.compareAll ∧
      ∀ n, (fun s => s.compareAll.registry)^[n + 1] r = compared := by
  intro compared
  have left : compared = (r.derive derivations).registry := r.registry_compareAll
  have names : compared.toList.map (·.1) = r.toList.map (·.1) := by
    rw [left, registry_derive derivesApart_derivations]
    exact r.map_fst_toList_insertAll _
  have again : compared.compareAll = r.compareAll := r.compareAll_compareAll
  refine ⟨names, ?_, ?_, ?_, again, ?_⟩
  · have lengths := congrArg List.length names
    rwa [List.length_map, List.length_map] at lengths
  · intro name notManual notNonbox
    rw [left]
    exact get?_derive_of_notMem (by simp [derivations, notManual, notNonbox]) r
  · intro name
    rw [left]
    exact get?_derive_cases derivesApart_derivations r name
  · intro n
    induction n with
    | zero => rfl
    | succ n ih =>
      rw [Function.iterate_succ_apply', ih, again]

end BestTimes.Registry
