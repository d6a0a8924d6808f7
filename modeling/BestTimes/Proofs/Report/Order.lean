import BestTimes.Proofs.Comparison.Times
import BestTimes.Proofs.Reading
import Mathlib.Data.List.Perm.Basic
set_option autoImplicit false

/-!
# The order of runs

Benchmarks may run in any order, and several times.  What counts are the measured times:
two texts with the same measurements up to order, whatever else their lines say, have
registries with the same best times and reports that agree (`ofText_agrees_of_perm`).

The best time of a name is the least of its times, and the least does not depend on their
order (`FirstLeast.nanos_eq_of_perm`).  Only which line stands with it does: that is the
line of the first of the least, so it can differ if measurements with different lines
tie (`Tied`).
-/

namespace BestTimes

namespace Measurement

/-- The measured time with the name of its benchmark. -/
def time (m : Measurement) : String × Nanos := (m.name, m.timing.nanos)

/-- The times that were measured in a text, in order. -/
def timesIn (text : String) : List (String × Nanos) := (ofLines (Text.linesOf text)).map time

end Measurement

/-- The least of some times does not depend on their order. -/
theorem FirstLeast.nanos_eq_of_perm {ts us : List Timing} {t u : Timing}
    (first : FirstLeast ts t) (second : FirstLeast us u)
    (perm : (ts.map (·.nanos)).Perm (us.map (·.nanos))) : t.nanos = u.nanos := by
  -- Each of the two is the time of a measurement on the other side.
  have among : t.nanos ∈ us.map (·.nanos) := perm.subset (List.mem_map_of_mem first.mem)
  have among' : u.nanos ∈ ts.map (·.nanos) := perm.symm.subset (List.mem_map_of_mem second.mem)
  obtain ⟨v, m, same⟩ := List.mem_map.1 among
  obtain ⟨w, m', same'⟩ := List.mem_map.1 among'
  have below : u.nanos ≤ t.nanos := same ▸ second.le v m
  have above : t.nanos ≤ u.nanos := same' ▸ first.le w m'
  exact Nanos.ext_toInt (Int.le_antisymm above below)

/-- Whether among some times the least stands with two different lines. -/
def Tied (ts : List Timing) : Prop :=
  ∃ t ∈ ts, ∃ u ∈ ts, t.nanos = u.nanos ∧ t.line ≠ u.line ∧ ∀ v ∈ ts, t.nanos ≤ v.nanos

theorem tied_congr {ts us : List Timing} (same : ∀ t, t ∈ ts ↔ t ∈ us) : Tied ts ↔ Tied us := by
  unfold Tied
  simp only [same]

/-- Two different times that are the first of the least, each on its side, and are equally
good. -/
theorem FirstLeast.tied {ts us : List Timing} {t u : Timing} (first : FirstLeast ts t)
    (second : FirstLeast us u) (same : t.nanos = u.nanos) (differ : t ≠ u) :
    Tied (ts ++ us) := by
  have lines : t.line ≠ u.line := by
    intro sameLine
    cases t
    cases u
    exact differ (by rw [Timing.mk.injEq]; exact ⟨same, sameLine⟩)
  refine ⟨t, List.mem_append_left us first.mem, u, List.mem_append_right ts second.mem, same,
    lines, fun v m => ?_⟩
  rcases List.mem_append.1 m with m | m
  · exact first.le v m
  · exact same ▸ second.le v m

namespace Registry

variable {r s : Registry}

theorem map_nanos_timingsOf (name : String) (ms : List Measurement) :
    (timingsOf name ms).map (·.nanos) =
      ((ms.map Measurement.time).filter (·.1 = name)).map (·.2) := by
  unfold timingsOf
  rw [List.filter_map, List.map_map, List.map_map]
  rfl

/-- Measurements in another order give every name the same times, in some order. -/
theorem map_nanos_timingsOf_perm {ms ns : List Measurement}
    (perm : (ms.map Measurement.time).Perm (ns.map Measurement.time)) (name : String) :
    ((timingsOf name ms).map (·.nanos)).Perm ((timingsOf name ns).map (·.nanos)) := by
  rw [map_nanos_timingsOf, map_nanos_timingsOf]
  exact (perm.filter _).map _

/-- Registries that keep the first of the least of the same times, in some order each,
store the same time. -/
theorem Keeps.nanos?_eq_of_perm {name : String} {ts us : List Timing} (h : r.Keeps name ts)
    (h' : s.Keeps name us) (perm : (ts.map (·.nanos)).Perm (us.map (·.nanos))) :
    r.nanos? name = s.nanos? name := by
  have length := perm.length_eq
  rw [List.length_map, List.length_map] at length
  unfold nanos?
  cases found : r.get? name with
  | none =>
    rw [h.eq_nil found, List.length_nil, eq_comm, List.length_eq_zero_iff] at length
    rw [h'.get?_eq_none_iff.2 length]
  | some t =>
    cases found' : s.get? name with
    | none =>
      rw [h'.eq_nil found', List.length_nil, List.length_eq_zero_iff,
        ← h.get?_eq_none_iff, found] at length
      cases length
    | some u =>
      have same := (h.firstLeast found).nanos_eq_of_perm (h'.firstLeast found') perm
      rw [Option.map_some, Option.map_some, same]

/-- Measurements that are recorded in another order leave the same times. -/
theorem Summarises.sameTimes_of_perm {ms ns : List Measurement} (h : Summarises r ms)
    (h' : Summarises s ns) (perm : (ms.map Measurement.time).Perm (ns.map Measurement.time)) :
    r.SameTimes s := by
  intro name
  exact (h.keeps name).nanos?_eq_of_perm (h'.keeps name) (map_nanos_timingsOf_perm perm name)

/-- The entries of a name are the same, unless its best time stands with two lines. -/
theorem Summarises.get?_eq_or_tied {ms ns : List Measurement} (h : Summarises r ms)
    (h' : Summarises s ns) (perm : (ms.map Measurement.time).Perm (ns.map Measurement.time))
    (name : String) :
    r.get? name = s.get? name ∨ Tied (timingsOf name ms ++ timingsOf name ns) := by
  rcases (h.sameTimes_of_perm h' perm).get?_cases name with
    ⟨absent, absent'⟩ | ⟨t, u, stored, stored', same⟩
  · exact .inl (absent.trans absent'.symm)
  · by_cases equal : t = u
    · rw [stored, stored', equal]
      exact .inl rfl
    · exact .inr ((h.firstLeast name t stored).tied (h'.firstLeast name u stored') same equal)

theorem timingsOf_perm {ms ns : List Measurement} (perm : ms.Perm ns) (name : String) :
    (timingsOf name ms).Perm (timingsOf name ns) := (perm.filter _).map _

/-! ## Texts -/

/-- What is left of a text that was read to its end, in terms of its lines. -/
theorem summarises_ofText_of_read {text : String}
    (read : ∃ count, (ofText text).outcome = .ok count) :
    Summarises (ofText text).registry (Measurement.ofLines (Text.linesOf text)) := by
  obtain ⟨fits, legible⟩ := (exists_outcome_ofText_iff text).1 read
  rw [(ofText_of_legible fits legible).2]
  exact summarises_recordAll _

/-- The order of the runs does not matter for the numbers.  Take two texts that are read
without an error and hold the same measured times, in some order each.  Their registries
have the same names with the same best times.  Either both reports are computed, with the
same comparisons and the same difference, or both end in the same error or overflow.  The
line that is kept for a name is the same too, unless two lines tie for it; if the texts
hold the same measurements, lines included, they tie in each text. -/
theorem ofText_agrees_of_perm {text other : String}
    (read : ∃ count, (ofText text).outcome = .ok count)
    (readOther : ∃ count, (ofText other).outcome = .ok count)
    (perm : (Measurement.timesIn text).Perm (Measurement.timesIn other)) :
    let r := (ofText text).registry
    let s := (ofText other).registry
    let ms := Measurement.ofLines (Text.linesOf text)
    let ns := Measurement.ofLines (Text.linesOf other)
    (∀ name, r.nanos? name = s.nanos? name) ∧
      (timesOf r.toList).Perm (timesOf s.toList) ∧
      ((∃ p q, r.report.outcome = .ok p ∧ s.report.outcome = .ok q ∧ p.Agrees q ∧
          p.comparisons.map (fun c => (c.numerator, c.denominator)) = comparedPairs) ∨
        ∃ fault, r.report.outcome = .error fault ∧ s.report.outcome = .error fault) ∧
      (∀ name, r.get? name = s.get? name ∨ Tied (timingsOf name ms ++ timingsOf name ns)) ∧
      (ms.Perm ns → ∀ name, r.get? name = s.get? name ∨ Tied (timingsOf name ms)) := by
  intro r s ms ns
  have summary : Summarises r ms := summarises_ofText_of_read read
  have summary' : Summarises s ns := summarises_ofText_of_read readOther
  have same : r.SameTimes s := summary.sameTimes_of_perm summary' perm
  have entries := summary.get?_eq_or_tied summary' perm
  refine ⟨same, same.timesOf_perm summary.listed summary'.listed, ?_, entries, ?_⟩
  · rcases same.agrees summary.listed summary'.listed with ⟨p, q, ends, ends', agrees⟩ | failed
    · exact .inl ⟨p, q, ends, ends', agrees, names_of_report ends⟩
    · exact .inr failed
  · intro lines name
    refine (entries name).imp_right (tied_congr fun t => ?_).1
    rw [List.mem_append, ← (timingsOf_perm lines name).mem_iff, or_self]

/-- Runs in turns and the same runs the other way round.  The plain benchmark has a tie, so
the first line of each text is kept for it, and the reports agree. -/
theorem ofText_agrees_of_reversed :
    let text := "manual time: [1 ns 5 ns 9 ns]\nnonbox time: [1 ns 7 ns 9 ns]\n" ++
      "manual+syscalls time: [1 ns 3 ns 9 ns]\nnonbox+syscalls time: [1 ns 4 ns 9 ns]\n" ++
      "box+syscalls time: [1 ns 6 ns 9 ns]\nbox+rc+syscalls time: [1 ns 8 ns 9 ns]\n" ++
      "box+arc+syscalls time: [1 ns 9 ns 9 ns]\nmanual time: [2 ns 5 ns 6 ns]\n"
    let other := "manual time: [2 ns 5 ns 6 ns]\nbox+arc+syscalls time: [1 ns 9 ns 9 ns]\n" ++
      "box+rc+syscalls time: [1 ns 8 ns 9 ns]\nbox+syscalls time: [1 ns 6 ns 9 ns]\n" ++
      "nonbox+syscalls time: [1 ns 4 ns 9 ns]\nmanual+syscalls time: [1 ns 3 ns 9 ns]\n" ++
      "nonbox time: [1 ns 7 ns 9 ns]\nmanual time: [1 ns 5 ns 9 ns]\n"
    let ms := Measurement.ofLines (Text.linesOf text)
    (ofText text).outcome = .ok 8 ∧ (ofText other).outcome = .ok 8 ∧
      ms.Perm (Measurement.ofLines (Text.linesOf other)) ∧
      (Measurement.timesIn text).Perm (Measurement.timesIn other) ∧
      (∃ p q, (ofText text).registry.report.outcome = .ok p ∧
        (ofText other).registry.report.outcome = .ok q ∧ p.Agrees q) ∧
      (ofText text).registry.get? "manual" ≠ (ofText other).registry.get? "manual" ∧
      Tied (timingsOf "manual" ms) := by
  intro text other ms
  have ⟨read, readOther, lines, differ, computed⟩ :
      (ofText text).outcome = .ok 8 ∧ (ofText other).outcome = .ok 8 ∧
        ms.Perm (Measurement.ofLines (Text.linesOf other)) ∧
        (ofText text).registry.get? "manual" ≠ (ofText other).registry.get? "manual" ∧
        (ofText text).registry.report.outcome.toBool = true := by decide +kernel
  have perm : (Measurement.timesIn text).Perm (Measurement.timesIn other) := lines.map _
  obtain ⟨-, -, ended, -, kept⟩ := ofText_agrees_of_perm ⟨8, read⟩ ⟨8, readOther⟩ perm
  have tied := (kept lines "manual").resolve_left differ
  refine ⟨read, readOther, lines, perm, ?_, differ, tied⟩
  rcases ended with ⟨p, q, ends, ends', agrees, -⟩ | ⟨fault, ends, -⟩
  · exact ⟨p, q, ends, ends', agrees⟩
  · rw [ends] at computed
    cases computed

end Registry

end BestTimes
