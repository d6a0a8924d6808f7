import BestTimes.Proofs.Comparison
set_option autoImplicit false

/-!
# What a report takes from a registry

The comparisons and the difference are computed from best times that are looked up by
name.  Neither the order in which the benchmarks entered nor the lines that are kept with
their times can matter.

`SameTimes` says that two registries store the same times under the same names.  Every
stage of the report preserves it and ends in the same way on both sides, so the reports of
two such registries agree but for the lists of best times, which differ in order and in
lines at most (`SameTimes.agrees`).
-/

namespace BestTimes

namespace Registry

/-- The best time of a benchmark without its line. -/
def nanos? (r : Registry) (name : String) : Option Nanos := (r.get? name).map (·.nanos)

/-- Whether two registries have the same benchmarks with the same best times. -/
def SameTimes (r s : Registry) : Prop := ∀ name, r.nanos? name = s.nanos? name

namespace SameTimes

variable {r s : Registry}

/-- A name is in neither registry, or in both with the same time. -/
theorem get?_cases (h : r.SameTimes s) (name : String) :
    (r.get? name = none ∧ s.get? name = none) ∨
      ∃ t u, r.get? name = some t ∧ s.get? name = some u ∧ t.nanos = u.nanos := by
  have same := h name
  unfold nanos? at same
  cases found : r.get? name with
  | none =>
    rw [found, Option.map_none, eq_comm, Option.map_eq_none_iff] at same
    exact .inl ⟨rfl, same⟩
  | some t =>
    rw [found, Option.map_some, eq_comm, Option.map_eq_some_iff] at same
    obtain ⟨u, other, equal⟩ := same
    exact .inr ⟨t, u, rfl, other, equal.symm⟩

/-! ## Stages of the report -/

theorem insertDerived (h : r.SameTimes s) (name : String) (nanos : Nanos)
    (line other : String) :
    (r.insertDerived name ⟨nanos, line⟩).SameTimes (s.insertDerived name ⟨nanos, other⟩) := by
  intro looked
  unfold nanos?
  rw [get?_insertDerived, get?_insertDerived]
  by_cases own : looked = name
  · rw [if_pos own, if_pos own]
    rfl
  · rw [if_neg own, if_neg own]
    exact h looked

/-- Deriving ends in the same way and leaves the same times, also where it stops early. -/
theorem derive (h : r.SameTimes s) (table : List (String × String)) :
    (r.derive table).outcome = (s.derive table).outcome ∧
      (r.derive table).registry.SameTimes (s.derive table).registry := by
  induction table generalizing r s with
  | nil => exact ⟨rfl, h⟩
  | cons pair table ih =>
    obtain ⟨name, base⟩ := pair
    unfold Registry.derive
    rcases h.get?_cases base with ⟨absent, absent'⟩ | ⟨t, u, found, found', same⟩
    · rw [require_of_none absent, require_of_none absent']
      exact ⟨rfl, h⟩
    · rw [require_of_some found, require_of_some found']
      simp only [same]
      cases u.nanos.add? workNanos with
      | none => exact ⟨rfl, h⟩
      | some nanos => exact ih (h.insertDerived name nanos t.line u.line)

theorem compare (h : r.SameTimes s) (numerator denominator : String) :
    r.compare numerator denominator = s.compare numerator denominator := by
  unfold Registry.compare
  rcases h.get?_cases numerator with ⟨absent, absent'⟩ | ⟨a, a', above, above', sameAbove⟩
  · rw [require_of_none absent, require_of_none absent']
  · rw [require_of_some above, require_of_some above']
    rcases h.get?_cases denominator with ⟨absent, absent'⟩ | ⟨b, b', below, below', sameBelow⟩
    · rw [require_of_none absent, require_of_none absent']
    · rw [require_of_some below, require_of_some below']
      simp only [sameAbove, sameBelow]

/-- Comparing ends in the same way, with the same comparisons or in the same fault. -/
theorem compareAll (h : r.SameTimes s) :
    r.compareAll.outcome = s.compareAll.outcome ∧
      r.compareAll.registry.SameTimes s.compareAll.registry := by
  obtain ⟨derived, left⟩ := h.derive derivations
  rw [outcome_derive derivesApart_derivations, outcome_derive derivesApart_derivations] at derived
  have compared : (r.derive derivations).registry.comparePairs comparedPairs =
      (s.derive derivations).registry.comparePairs comparedPairs := by
    unfold comparePairs
    congr 1
    funext pair
    exact left.compare pair.1 pair.2
  rw [outcome_compareAll, outcome_compareAll, derived, compared, registry_compareAll,
    registry_compareAll]
  exact ⟨rfl, left⟩

theorem delta (h : r.SameTimes s) : r.delta = s.delta := by
  unfold Registry.delta
  rcases h.get?_cases "nonbox" with ⟨absent, absent'⟩ | ⟨a, a', nonbox, nonbox', sameNonbox⟩
  · rw [require_of_none absent, require_of_none absent']
  · rw [require_of_some nonbox, require_of_some nonbox']
    rcases h.get?_cases "manual" with ⟨absent, absent'⟩ | ⟨b, b', manual, manual', sameManual⟩
    · rw [require_of_none absent, require_of_none absent']
    · rw [require_of_some manual, require_of_some manual']
      simp only [sameNonbox, sameManual]

end SameTimes

end Registry

/-! ## Reports -/

/-- Best times without their lines. -/
def timesOf (best : List (String × Timing)) : List (String × Nanos) :=
  best.map fun listed => (listed.1, listed.2.nanos)

/-- Whether two reports are the same but for the order of the best times and their
lines. -/
structure Report.Agrees (p q : Report) : Prop where
  best : (timesOf p.best).Perm (timesOf q.best)
  comparisons : p.comparisons = q.comparisons
  delta : p.delta = q.delta

namespace Registry

variable {r s : Registry}

theorem AllListed.mem_timesOf_iff (h : r.AllListed) (name : String) (nanos : Nanos) :
    (name, nanos) ∈ timesOf r.toList ↔ r.nanos? name = some nanos := by
  unfold timesOf nanos?
  rw [List.mem_map, Option.map_eq_some_iff]
  constructor
  · rintro ⟨listed, m, same⟩
    cases same
    exact ⟨listed.2, get?_of_mem_toList m, rfl⟩
  · rintro ⟨t, stored, rfl⟩
    obtain ⟨e, m, own⟩ := List.mem_map.1 (mem_names_of_stored stored)
    have same := get?_of_mem m
    rw [own, stored] at same
    refine ⟨(name, t), ?_, rfl⟩
    rw [h.toList, List.mem_map]
    exact ⟨e, m, by rw [own, Option.some.inj same]⟩

theorem nodup_timesOf (r : Registry) : (timesOf r.toList).Nodup := by
  refine List.Nodup.of_map (·.1) ?_
  unfold timesOf
  rw [List.map_map]
  exact r.nodup_map_fst_toList

/-- Of measured benchmarks the lists have the same times, in some order each. -/
theorem SameTimes.timesOf_perm (h : r.SameTimes s) (listed : r.AllListed)
    (listed' : s.AllListed) : (timesOf r.toList).Perm (timesOf s.toList) := by
  rw [List.perm_ext_iff_of_nodup r.nodup_timesOf s.nodup_timesOf]
  rintro ⟨name, nanos⟩
  rw [listed.mem_timesOf_iff, listed'.mem_timesOf_iff, h name]

/-- Either both reports are computed and agree, or both end in the same fault. -/
theorem SameTimes.agrees (h : r.SameTimes s) (listed : r.AllListed) (listed' : s.AllListed) :
    (∃ p q, r.report.outcome = .ok p ∧ s.report.outcome = .ok q ∧ p.Agrees q) ∨
      ∃ fault, r.report.outcome = .error fault ∧ s.report.outcome = .error fault := by
  obtain ⟨compared, left⟩ := h.compareAll
  rw [outcome_report, outcome_report, ← compared, ← left.delta]
  cases r.compareAll.outcome with
  | error fault => exact .inr ⟨fault, rfl, rfl⟩
  | ok comparisons =>
    cases r.compareAll.registry.delta with
    | error fault => exact .inr ⟨fault, rfl, rfl⟩
    | ok delta => exact .inl ⟨_, _, rfl, rfl, h.timesOf_perm listed listed', rfl, rfl⟩

end Registry

end BestTimes
