import BestTimes.Reading
import BestTimes.Proofs.Report.Text
import Mathlib.Control.Monad.Basic
import Mathlib.Tactic.MkIffOfInductiveProp
set_option autoImplicit false

/-!
# When a report overflows

Two computations of the report can leave the range of times: the sum of a base and the
work, and the difference of the two plain benchmarks.  Reading admits any finite time
and moves what is out of range to the nearest end of it, so both can happen for a text
that is read without an error (`ofText_overflows_of_extremes`).

`SumOverflows` and `DifferenceOverflows` are the exact conditions, on the registry
before any time is derived: an overflow needs a result out of range, and that nothing in
front of it fails.  Without either, the report is computed or ends in an error that has
a cause (`ofText_overflows_iff`).
-/

namespace BestTimes.Registry

/-! ## Sums -/

/-- Whether the sum of a best time and the work is out of range. -/
def WorkOverflows (r : Registry) (base : String) : Prop :=
  ∃ best, r.get? base = some best ∧ ¬ Nanos.InRange (best.nanos.toInt + workNanos.toInt)

/-- Whether a time can be derived from a best time. -/
def IsDerivable (r : Registry) (base : String) : Prop :=
  ∃ best, r.get? base = some best ∧ Nanos.InRange (best.nanos.toInt + workNanos.toInt)

/-- Whether the times of a table can be derived up to one whose sum is out of range. -/
def SumOverflows (r : Registry) (table : List (String × String)) : Prop :=
  ∃ front pair back, table = front ++ pair :: back ∧
    (∀ other ∈ front, r.IsDerivable other.2) ∧ r.WorkOverflows pair.2

theorem sumOverflows_cons_iff (r : Registry) (pair : String × String)
    (table : List (String × String)) :
    r.SumOverflows (pair :: table) ↔
      r.WorkOverflows pair.2 ∨ r.IsDerivable pair.2 ∧ r.SumOverflows table := by
  constructor
  · rintro ⟨front, found, back, split, derivable, overflows⟩
    cases front with
    | nil =>
      cases split
      exact .inl overflows
    | cons first front =>
      cases split
      obtain ⟨own, rest⟩ := List.forall_mem_cons.1 derivable
      exact .inr ⟨own, front, found, back, rfl, rest, overflows⟩
  · rintro (overflows | ⟨own, front, found, back, rfl, derivable, overflows⟩)
    · exact ⟨[], pair, table, rfl, fun _ m => (List.not_mem_nil m).elim, overflows⟩
    · exact ⟨pair :: front, found, back, rfl, List.forall_mem_cons.2 ⟨own, derivable⟩,
        overflows⟩

/-- What is found for a base decides how deriving goes on. -/
theorem deriveOutcome_cons_cases (r : Registry) (pair : String × String)
    (table : List (String × String)) :
    (r.get? pair.2 = none ∧
        r.deriveOutcome (pair :: table) = .error (.error (.missingBenchmark pair.2))) ∨
      (r.WorkOverflows pair.2 ∧ r.deriveOutcome (pair :: table) = .error (.overflow .addition)) ∨
      (r.IsDerivable pair.2 ∧ r.deriveOutcome (pair :: table) = r.deriveOutcome table) := by
  obtain ⟨name, base⟩ := pair
  cases found : r.get? base with
  | none =>
    refine .inl ⟨rfl, ?_⟩
    rw [deriveOutcome, found]
  | some best =>
    right
    cases sum : best.nanos.add? workNanos with
    | none =>
      refine .inl ⟨⟨best, found, (Nanos.add?_eq_none_iff _ _).1 sum⟩, ?_⟩
      rw [deriveOutcome, found]
      simp only [sum]
    | some nanos =>
      refine .inr ⟨⟨best, found, ?_⟩, ?_⟩
      · rw [← (Nanos.add?_eq_some_iff _ _ _).1 sum]
        exact nanos.inRange_toInt
      · rw [deriveOutcome, found]
        simp only [sum]

theorem not_workOverflows_of_isDerivable {r : Registry} {base : String}
    (h : r.IsDerivable base) : ¬ r.WorkOverflows base := by
  obtain ⟨best, found, inRange⟩ := h
  rintro ⟨other, again, out⟩
  rw [found] at again
  cases again
  exact out inRange

/-- Deriving is complete just if every time can be derived. -/
theorem deriveOutcome_eq_ok_iff (r : Registry) (table : List (String × String)) :
    r.deriveOutcome table = .ok () ↔ ∀ pair ∈ table, r.IsDerivable pair.2 := by
  induction table with
  | nil => exact ⟨fun _ _ m => (List.not_mem_nil m).elim, fun _ => rfl⟩
  | cons pair table ih =>
    rw [List.forall_mem_cons]
    rcases r.deriveOutcome_cons_cases pair table with
      ⟨absent, ends⟩ | ⟨overflows, ends⟩ | ⟨derivable, ends⟩
    · rw [ends]
      constructor
      · intro h
        cases h
      · rintro ⟨⟨best, found, -⟩, -⟩
        rw [absent] at found
        cases found
    · rw [ends]
      constructor
      · intro h
        cases h
      · rintro ⟨derivable, -⟩
        exact absurd overflows (not_workOverflows_of_isDerivable derivable)
    · rw [ends, ih]
      exact ⟨fun rest => ⟨derivable, rest⟩, fun h => h.2⟩

/-- Deriving overflows just if a sum does, and only in an addition. -/
theorem deriveOutcome_eq_overflow_iff (r : Registry) (table : List (String × String))
    (kind : Overflow) :
    r.deriveOutcome table = .error (.overflow kind) ↔
      kind = .addition ∧ r.SumOverflows table := by
  induction table with
  | nil =>
    constructor
    · intro h
      cases h
    · rintro ⟨-, front, pair, back, split, -⟩
      exact absurd split (by simp)
  | cons pair table ih =>
    rw [sumOverflows_cons_iff]
    rcases r.deriveOutcome_cons_cases pair table with
      ⟨absent, ends⟩ | ⟨overflows, ends⟩ | ⟨derivable, ends⟩
    · rw [ends]
      constructor
      · intro h
        cases h
      · rintro ⟨-, ⟨best, found, -⟩ | ⟨⟨best, found, -⟩, -⟩⟩
        all_goals
          rw [absent] at found
          cases found
    · rw [ends]
      constructor
      · intro h
        cases h
        exact ⟨rfl, .inl overflows⟩
      · rintro ⟨rfl, -⟩
        rfl
    · rw [ends, ih]
      have fits := not_workOverflows_of_isDerivable derivable
      simp only [fits, derivable, false_or, true_and]

/-! ## Compared times -/

/-- The time that is compared for a benchmark, once the times of a table are derived. -/
def timeAfter (r : Registry) (table : List (String × String)) (name : String) : Option Int :=
  match table.lookup name with
  | some base => (r.get? base).map fun best => best.nanos.toInt + workNanos.toInt
  | none => (r.get? name).map (·.nanos.toInt)

theorem map_get?_derive {table : List (String × String)} (h : DerivesApart table)
    {r : Registry} (done : r.deriveOutcome table = .ok ()) (name : String) :
    ((r.derive table).registry.get? name).map (·.nanos.toInt) = r.timeAfter table name := by
  unfold timeAfter
  cases known : table.lookup name with
  | none =>
    have underived : name ∉ table.map (·.1) := by
      intro m
      obtain ⟨pair, mem, rfl⟩ := List.mem_map.1 m
      have other := List.lookup_eq_none_iff.1 known pair mem
      simp at other
    rw [get?_derive_of_notMem underived]
  | some base =>
    obtain ⟨front, back, split, -⟩ := List.lookup_eq_some_iff.1 known
    have mem : (name, base) ∈ table := by
      rw [split]
      exact List.mem_append_right _ List.mem_cons_self
    obtain ⟨best, nanos, found, sum, derived⟩ := get?_derive_of_mem h done mem
    rw [derived, Option.map_some, sum]
    simp only [found, Option.map_some]

/-- Whether two times are there and the second is not zero. -/
def AreComparable (numerator denominator : Option Int) : Prop :=
  (∃ a, numerator = some a) ∧ ∃ b, denominator = some b ∧ b ≠ 0

theorem areComparable_iff (r : Registry) (numerator denominator : String) :
    AreComparable ((r.get? numerator).map (·.nanos.toInt))
        ((r.get? denominator).map (·.nanos.toInt)) ↔
      r.IsPresent numerator ∧ r.IsBaseline denominator := by
  unfold AreComparable IsPresent IsBaseline
  cases r.get? numerator <;> cases r.get? denominator <;> simp

/-! ## Differences -/

/-- Whether every time can be derived, and every pair compared with the derived times. -/
@[mk_iff]
structure IsComparable (r : Registry) : Prop where
  derivable : ∀ pair ∈ derivations, r.IsDerivable pair.2
  comparable : ∀ pair ∈ comparedPairs,
    AreComparable (r.timeAfter derivations pair.1) (r.timeAfter derivations pair.2)

/-- Whether the comparisons are complete, and the difference of the plain benchmarks is
out of range. -/
def DifferenceOverflows (r : Registry) : Prop :=
  r.IsComparable ∧ ∃ nonbox manual, r.get? "nonbox" = some nonbox ∧
    r.get? "manual" = some manual ∧ ¬ Nanos.InRange (nonbox.nanos.toInt - manual.nanos.toInt)

theorem exists_compareAll_iff (r : Registry) :
    (∃ comparisons, r.compareAll.outcome = .ok comparisons) ↔ r.IsComparable := by
  have derivable := r.deriveOutcome_eq_ok_iff derivations
  rw [outcome_compareAll]
  cases done : r.deriveOutcome derivations with
  | error fault =>
    rw [done] at derivable
    constructor
    · rintro ⟨comparisons, h⟩
      cases h
    · intro h
      cases derivable.2 h.derivable
  | ok _ =>
    have comparable := (r.derive derivations).registry.exists_comparePairs_iff comparedPairs
    simp only [← areComparable_iff, map_get?_derive derivesApart_derivations done] at comparable
    rw [isComparable_iff, ← comparable, ← derivable]
    cases (r.derive derivations).registry.comparePairs comparedPairs with
    | error cause => simp [Except.mapError]
    | ok comparisons => simp [Except.mapError, done]

theorem compareAll_eq_overflow_iff (r : Registry) (kind : Overflow) :
    r.compareAll.outcome = .error (.overflow kind) ↔
      kind = .addition ∧ r.SumOverflows derivations := by
  rw [outcome_compareAll, ← deriveOutcome_eq_overflow_iff]
  cases r.deriveOutcome derivations with
  | error fault => simp
  | ok _ =>
    cases (r.derive derivations).registry.comparePairs comparedPairs with
    | error cause => simp [Except.mapError]
    | ok comparisons => simp [Except.mapError]

theorem delta_eq_overflow_iff (r : Registry) (kind : Overflow) :
    r.delta = .error (.overflow kind) ↔
      kind = .subtraction ∧ ∃ nonbox manual, r.get? "nonbox" = some nonbox ∧
        r.get? "manual" = some manual ∧
        ¬ Nanos.InRange (nonbox.nanos.toInt - manual.nanos.toInt) := by
  unfold delta
  cases first : r.get? "nonbox" with
  | none => simp [require_of_none first]
  | some nonbox =>
    cases second : r.get? "manual" with
    | none => simp [require_of_some first, require_of_none second]
    | some manual =>
      rw [require_of_some first, require_of_some second]
      simp only
      cases difference : nonbox.nanos.sub? manual.nanos with
      | none =>
        have out := (Nanos.sub?_eq_none_iff _ _).1 difference
        simp [out, eq_comm]
      | some nanos =>
        have inRange : Nanos.InRange (nonbox.nanos.toInt - manual.nanos.toInt) := by
          by_contra out
          rw [(Nanos.sub?_eq_none_iff _ _).2 out] at difference
          cases difference
        simp [inRange]

/-- The plain benchmarks are not derived, so they are looked up as they were. -/
theorem get?_compareAll_of_notMem {other : String} (h : other ∉ derivations.map (·.1))
    (r : Registry) : r.compareAll.registry.get? other = r.get? other := by
  rw [registry_compareAll]
  exact get?_derive_of_notMem h r

/-- Whether the report of a registry overflows in an operation. -/
def Overflows (r : Registry) : Overflow → Prop
  | .addition => r.SumOverflows derivations
  | .subtraction => r.DifferenceOverflows
  | .precision => False

theorem overflows_iff (r : Registry) (kind : Overflow) :
    r.Overflows kind ↔ (kind = .addition ∧ r.SumOverflows derivations) ∨
      (kind = .subtraction ∧ r.DifferenceOverflows) := by
  cases kind <;> simp [Overflows]

theorem report_eq_overflow_iff (r : Registry) (kind : Overflow) :
    r.report.outcome = .error (.overflow kind) ↔ r.Overflows kind := by
  have sums := r.compareAll_eq_overflow_iff kind
  have compared := r.exists_compareAll_iff
  have difference := r.compareAll.registry.delta_eq_overflow_iff kind
  rw [get?_compareAll_of_notMem (by decide), get?_compareAll_of_notMem (by decide)] at difference
  rw [overflows_iff]
  unfold DifferenceOverflows
  rw [outcome_report, ← sums, ← compared]
  cases r.compareAll.outcome with
  | error fault => simp
  | ok comparisons =>
    simp only [reduceCtorEq, false_or, Except.ok.injEq, exists_eq', true_and, ← difference]
    cases r.compareAll.registry.delta with
    | error fault => simp [Except.map]
    | ok delta => simp [Except.map]

/-- A text report overflows as the report does. -/
theorem textScript_eq_overflow_iff (r : Registry) (kind : Overflow) :
    (r.textScript.run none).outcome = .error (.overflow kind) ↔ r.Overflows kind := by
  rw [← report_eq_overflow_iff, outcome_textScript_eq_report]
  cases r.report.outcome with
  | error fault => simp [Except.map]
  | ok report => simp [Except.map]

/-- When the report of a text overflows, whether it is computed or written.  A sum
overflows if deriving reaches a base that leaves no room for the work; the difference
does if all comparisons are complete and the plain benchmarks are too far apart; nothing
else does.  A writer with a bound never sees another overflow, and without any overflow
the report succeeds or ends in an error with a cause. -/
theorem ofText_overflows_iff (text : String) :
    let r := (ofText text).registry
    (∀ kind, r.report.outcome = .error (.overflow kind) ↔ r.Overflows kind) ∧
      (∀ kind, (r.textScript.run none).outcome = .error (.overflow kind) ↔ r.Overflows kind) ∧
      (∀ room kind, (r.textScript.run room).outcome = .error (.overflow kind) →
        r.Overflows kind) ∧
      ((∀ kind, ¬ r.Overflows kind) →
        ((∃ report, r.report.outcome = .ok report) ∨
          ∃ cause, r.report.outcome = .error (.error cause)) ∧
        ∀ room, (r.textScript.run room).outcome = .ok () ∨
          ∃ cause, (r.textScript.run room).outcome = .error (.error cause)) := by
  intro r
  have bounded : ∀ room kind, (r.textScript.run room).outcome = .error (.overflow kind) →
      r.Overflows kind := by
    intro room kind h
    rcases r.textScript.outcome_run room with same | ⟨cause, other⟩
    · rw [same, ← Script.outcome_run_none] at h
      exact (r.textScript_eq_overflow_iff kind).1 h
    · rw [other] at h
      cases h
  refine ⟨r.report_eq_overflow_iff, r.textScript_eq_overflow_iff, bounded, ?_⟩
  intro fits
  constructor
  · cases ends : r.report.outcome with
    | ok report => exact .inl ⟨report, rfl⟩
    | error fault =>
      cases fault with
      | error cause => exact .inr ⟨cause, rfl⟩
      | overflow kind => exact absurd ((r.report_eq_overflow_iff kind).1 ends) (fits kind)
  · intro room
    cases ends : (r.textScript.run room).outcome with
    | ok _ => exact .inl rfl
    | error fault =>
      cases fault with
      | error cause => exact .inr ⟨cause, rfl⟩
      | overflow kind => exact absurd (bounded room kind ends) (fits kind)

/-- Texts that are read without an error, and whose reports overflow: the first in a sum,
the second in the difference. -/
theorem ofText_overflows_of_extremes :
    let sum := "manual+syscalls time: [1 ns 1e30 ms 1 ns]\n"
    let difference := "manual time: [1 ns -1e30 ms 1 ns]\nnonbox time: [1 ns 1e30 ms 1 ns]\n" ++
      "manual+syscalls time: [1 ns 1 ns 1 ns]\nnonbox+syscalls time: [1 ns 1 ns 1 ns]\n" ++
      "box+syscalls time: [1 ns 1 ns 1 ns]\nbox+rc+syscalls time: [1 ns 1 ns 1 ns]\n" ++
      "box+arc+syscalls time: [1 ns 1 ns 1 ns]\n"
    (ofText sum).outcome = .ok 1 ∧
      (ofText sum).registry.report.outcome = .error (.overflow .addition) ∧
      ((ofText sum).registry.textScript.run none).outcome = .error (.overflow .addition) ∧
      (ofText difference).outcome = .ok 7 ∧
      (ofText difference).registry.report.outcome = .error (.overflow .subtraction) ∧
      ((ofText difference).registry.textScript.run none).outcome =
        .error (.overflow .subtraction) := by
  decide +kernel

end BestTimes.Registry
