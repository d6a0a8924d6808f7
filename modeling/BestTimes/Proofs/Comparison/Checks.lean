import BestTimes.Proofs.Comparison.Overflow
set_option autoImplicit false

/-!
# What comparing checks, and in which order

Comparing depends on conditions on the best times, each with a fault of its own.  `checks` lists
them in the order in which they matter: for each derived benchmark that its base is there and
leaves room for the work, then for each pair that both benchmarks are there and the second one
has a time other than zero.  They can all be read off the registry before any time is derived,
if a derived benchmark counts with the time of its base and the work (`timeAfter`).

Comparing fails with the fault of the first check that is not met, and succeeds if all are
(`failure?_compareAll`).  As the pairs share names, few conditions are left of the list
(`isComparable_iff_times`): the measured benchmarks are there, the two sums are in range, and no
denominator is zero.
-/

namespace BestTimes.Registry

/-! ## Checks -/

/-- A condition that comparing depends on. -/
inductive Check where
  /-- A benchmark has a time. -/
  | present (name : String)
  /-- The time of a base leaves room for the work. -/
  | fits (base : String)
  /-- The time of a denominator is not zero. -/
  | nonzero (name : String)
  deriving DecidableEq, Repr

namespace Check

/-- How comparing ends if a check is the first that is not met. -/
def fault : Check → Fault
  | .present name => .error (.missingBenchmark name)
  | .fits _ => .overflow .addition
  | .nonzero name => .error (.zeroBaseline name)

/-- Whether a check is met, where `time` finds the time of a benchmark.  A benchmark that is not
there is the matter of the first kind of check alone. -/
def Holds (time : String → Option Int) : Check → Prop
  | .present name => time name ≠ none
  | .fits base => ∀ t ∈ time base, Nanos.InRange (t + workNanos.toInt)
  | .nonzero name => time name ≠ some 0

instance (time : String → Option Int) : DecidablePred (Holds time)
  | .present name => inferInstanceAs (Decidable (time name ≠ none))
  | .fits base =>
    inferInstanceAs (Decidable (∀ t ∈ time base, Nanos.InRange (t + workNanos.toInt)))
  | .nonzero name => inferInstanceAs (Decidable (time name ≠ some 0))

@[simp] theorem holds_present (time : String → Option Int) (name : String) :
    (present name).Holds time ↔ time name ≠ none := Iff.rfl

@[simp] theorem holds_fits (time : String → Option Int) (base : String) :
    (fits base).Holds time ↔ ∀ t ∈ time base, Nanos.InRange (t + workNanos.toInt) := Iff.rfl

@[simp] theorem holds_nonzero (time : String → Option Int) (name : String) :
    (nonzero name).Holds time ↔ time name ≠ some 0 := Iff.rfl

/-- The fault of the first check that is not met. -/
def firstFault? (time : String → Option Int) (checks : List Check) : Option Fault :=
  (checks.find? fun c => ¬ c.Holds time).map fault

variable {time : String → Option Int} {checks : List Check}

theorem firstFault?_cons_of_holds {c : Check} (h : c.Holds time) :
    firstFault? time (c :: checks) = firstFault? time checks := by
  unfold firstFault?
  rw [List.find?_cons_of_neg (by simpa using h)]

theorem firstFault?_cons_of_not_holds {c : Check} (h : ¬ c.Holds time) :
    firstFault? time (c :: checks) = some c.fault := by
  unfold firstFault?
  rw [List.find?_cons_of_pos (by simpa using h)]
  rfl

theorem firstFault?_append (time : String → Option Int) (checks others : List Check) :
    firstFault? time (checks ++ others) =
      (firstFault? time checks).or (firstFault? time others) := by
  unfold firstFault?
  rw [List.find?_append, Option.map_or]

theorem firstFault?_eq_none_iff : firstFault? time checks = none ↔ ∀ c ∈ checks, c.Holds time := by
  unfold firstFault?
  simp only [Option.map_eq_none_iff, List.find?_eq_none, decide_eq_true_eq, not_not]

/-- There is a fault just if one check is not met and all in front of it are. -/
theorem firstFault?_eq_some_iff {fault : Fault} :
    firstFault? time checks = some fault ↔
      ∃ front check back, checks = front ++ check :: back ∧ (∀ c ∈ front, c.Holds time) ∧
        ¬ check.Holds time ∧ check.fault = fault := by
  unfold firstFault?
  simp only [Option.map_eq_some_iff, List.find?_eq_some_iff_append, decide_eq_true_eq,
    Bool.not_eq_true', decide_eq_false_iff_not, not_not]
  constructor
  · rintro ⟨check, ⟨unmet, front, back, split, met⟩, own⟩
    exact ⟨front, check, back, split, met, unmet, own⟩
  · rintro ⟨front, check, back, split, met, unmet, own⟩
    exact ⟨check, ⟨unmet, front, back, split, met⟩, own⟩

theorem fault_eq_missingBenchmark_iff {c : Check} {name : String} :
    c.fault = .error (.missingBenchmark name) ↔ c = .present name := by
  cases c <;> simp [fault]

theorem fault_eq_zeroBaseline_iff {c : Check} {name : String} :
    c.fault = .error (.zeroBaseline name) ↔ c = .nonzero name := by
  cases c <;> simp [fault]

end Check

/-- The checks for deriving the times of a table. -/
def derivationChecks (table : List (String × String)) : List Check :=
  table.flatMap fun pair => [.present pair.2, .fits pair.2]

/-- The checks for comparing pairs. -/
def pairChecks (pairs : List (String × String)) : List Check :=
  pairs.flatMap fun pair => [.present pair.1, .present pair.2, .nonzero pair.2]

/-- All checks of comparing, in order. -/
def checks : List Check := derivationChecks derivations ++ pairChecks comparedPairs

example : checks =
    [.present "manual+syscalls", .fits "manual+syscalls",
      .present "nonbox+syscalls", .fits "nonbox+syscalls",
      .present "manual", .present "nonbox", .nonzero "nonbox",
      .present "manual+syscalls", .present "nonbox+syscalls", .nonzero "nonbox+syscalls",
      .present "nonbox+syscalls", .present "manual+syscalls", .nonzero "manual+syscalls",
      .present "nonbox+syscalls", .present "box+syscalls", .nonzero "box+syscalls",
      .present "box+rc+syscalls", .present "box+arc+syscalls", .nonzero "box+arc+syscalls",
      .present "manual+work", .present "nonbox+work", .nonzero "nonbox+work"] := rfl

/-! ## Times by name -/

theorem timeAfter_of_notMem {table : List (String × String)} {name : String}
    (h : name ∉ table.map (·.1)) (r : Registry) :
    r.timeAfter table name = (r.get? name).map (·.nanos.toInt) := by
  have unknown : table.lookup name = none := by
    rw [List.lookup_eq_none_iff]
    intro pair m
    rw [bne_iff_ne]
    rintro rfl
    exact h (List.mem_map_of_mem m)
  unfold timeAfter
  rw [unknown]

/-- A base counts with the time that it has. -/
theorem DerivesApart.timeAfter_base {table : List (String × String)} (h : DerivesApart table)
    (r : Registry) {pair : String × String} (m : pair ∈ table) :
    r.timeAfter table pair.2 = (r.get? pair.2).map (·.nanos.toInt) :=
  timeAfter_of_notMem (h.apart pair m) r

/-- A derived benchmark counts with the time of its base and the work. -/
theorem DerivesApart.timeAfter_derived {table : List (String × String)} (h : DerivesApart table)
    (r : Registry) {pair : String × String} (m : pair ∈ table) :
    r.timeAfter table pair.1 =
      (r.get? pair.2).map fun best => best.nanos.toInt + workNanos.toInt := by
  obtain ⟨front, back, split⟩ := List.append_of_mem m
  have distinct := h.distinct
  rw [split, List.map_append, List.map_cons, List.nodup_append] at distinct
  have known : table.lookup pair.1 = some pair.2 := by
    rw [List.lookup_eq_some_iff]
    refine ⟨front, back, split, ?_⟩
    intro other before
    rw [bne_iff_ne]
    exact (distinct.2.2 other.1 (List.mem_map_of_mem before) pair.1 List.mem_cons_self).symm
  unfold timeAfter
  rw [known]

/-! ## First faults -/

/-- The fault in which a computation ends, if it does. -/
def failure? {ε α : Type} : Except ε α → Option ε
  | .ok _ => none
  | .error fault => some fault

theorem failure?_eq_some_iff {ε α : Type} {result : Except ε α} {fault : ε} :
    failure? result = some fault ↔ result = .error fault := by
  cases result with
  | ok a => simp [failure?]
  | error other => simp [failure?]

theorem failure?_eq_none_iff {ε α : Type} {result : Except ε α} :
    failure? result = none ↔ ∃ a, result = .ok a := by
  cases result with
  | ok a => simp [failure?]
  | error other => simp [failure?]

theorem failure?_deriveOutcome {r : Registry} {time : String → Option Int}
    {table : List (String × String)}
    (times : ∀ pair ∈ table, time pair.2 = (r.get? pair.2).map (·.nanos.toInt)) :
    failure? (r.deriveOutcome table) = Check.firstFault? time (derivationChecks table) := by
  induction table with
  | nil => rfl
  | cons pair table ih =>
    obtain ⟨own, rest⟩ := List.forall_mem_cons.1 times
    have split : derivationChecks (pair :: table) =
        .present pair.2 :: .fits pair.2 :: derivationChecks table := rfl
    rw [split]
    rcases r.deriveOutcome_cons_cases pair table with
      ⟨absent, ends⟩ | ⟨⟨best, found, out⟩, ends⟩ | ⟨⟨best, found, inRange⟩, ends⟩
    · have unmet : ¬ (Check.present pair.2).Holds time := by
        simp [own, absent]
      rw [ends, Check.firstFault?_cons_of_not_holds unmet]
      rfl
    · have met : (Check.present pair.2).Holds time := by simp [own, found]
      have unmet : ¬ (Check.fits pair.2).Holds time := by
        simpa [own, found] using out
      rw [ends, Check.firstFault?_cons_of_holds met, Check.firstFault?_cons_of_not_holds unmet]
      rfl
    · have met : (Check.present pair.2).Holds time := by simp [own, found]
      have room : (Check.fits pair.2).Holds time := by
        simpa [own, found] using inRange
      rw [ends, Check.firstFault?_cons_of_holds met, Check.firstFault?_cons_of_holds room]
      exact ih rest

theorem failure?_compare {r : Registry} {time : String → Option Int}
    (times : ∀ name, time name = (r.get? name).map (·.nanos.toInt))
    (numerator denominator : String) :
    (failure? (r.compare numerator denominator)).map Fault.error =
      Check.firstFault? time
        [.present numerator, .present denominator, .nonzero denominator] := by
  unfold compare
  cases above : r.get? numerator with
  | none =>
    have unmet : ¬ (Check.present numerator).Holds time := by simp [times, above]
    rw [require_of_none above, Check.firstFault?_cons_of_not_holds unmet]
    rfl
  | some a =>
    have first : (Check.present numerator).Holds time := by simp [times, above]
    rw [require_of_some above, Check.firstFault?_cons_of_holds first]
    cases below : r.get? denominator with
    | none =>
      have unmet : ¬ (Check.present denominator).Holds time := by
        simp [times, below]
      rw [require_of_none below, Check.firstFault?_cons_of_not_holds unmet]
      rfl
    | some b =>
      have second : (Check.present denominator).Holds time := by
        simp [times, below]
      rw [require_of_some below, Check.firstFault?_cons_of_holds second]
      by_cases zero : b.nanos.toInt = 0
      · have unmet : ¬ (Check.nonzero denominator).Holds time := by
          simp [times, below, zero]
        rw [Check.firstFault?_cons_of_not_holds unmet]
        simp only [zero, if_true]
        rfl
      · have met : (Check.nonzero denominator).Holds time := by
          simp [times, below, zero]
        rw [Check.firstFault?_cons_of_holds met]
        simp only [zero, if_false]
        rfl

theorem failure?_comparePairs {r : Registry} {time : String → Option Int}
    (times : ∀ name, time name = (r.get? name).map (·.nanos.toInt))
    (pairs : List (String × String)) :
    (failure? (r.comparePairs pairs)).map Fault.error =
      Check.firstFault? time (pairChecks pairs) := by
  induction pairs with
  | nil => rfl
  | cons pair pairs ih =>
    have own := failure?_compare times pair.1 pair.2
    have split : pairChecks (pair :: pairs) =
        [.present pair.1, .present pair.2, .nonzero pair.2] ++ pairChecks pairs := rfl
    rw [split, Check.firstFault?_append, ← own, ← ih]
    unfold comparePairs
    rw [List.mapM_cons]
    cases r.compare pair.1 pair.2 with
    | error cause => rfl
    | ok c =>
      cases List.mapM (fun pair => r.compare pair.1 pair.2) pairs with
      | error cause => rfl
      | ok later => rfl

/-- Comparing fails with the fault of its first check that is not met. -/
theorem failure?_compareAll (r : Registry) :
    failure? r.compareAll.outcome = Check.firstFault? (r.timeAfter derivations) checks := by
  have derived := failure?_deriveOutcome (r := r) fun pair m =>
    derivesApart_derivations.timeAfter_base r m
  unfold checks
  rw [outcome_compareAll, Check.firstFault?_append, ← derived]
  cases done : r.deriveOutcome derivations with
  | error fault => rfl
  | ok _ =>
    have compared := failure?_comparePairs (r := (r.derive derivations).registry)
      (fun name => (map_get?_derive derivesApart_derivations done name).symm) comparedPairs
    rw [← compared]
    cases (r.derive derivations).registry.comparePairs comparedPairs with
    | error cause => rfl
    | ok comparisons => rfl

/-! ## What is left of the checks -/

theorem areComparable_measured {numerator denominator : String}
    (above : numerator ∉ derivations.map (·.1)) (below : denominator ∉ derivations.map (·.1))
    (r : Registry) :
    AreComparable (r.timeAfter derivations numerator) (r.timeAfter derivations denominator) ↔
      r.IsPresent numerator ∧ r.IsBaseline denominator := by
  rw [timeAfter_of_notMem above, timeAfter_of_notMem below]
  exact r.areComparable_iff numerator denominator

/-- The pair of derived benchmarks can be compared if their bases are there, and the sum for
the second one is not zero. -/
theorem areComparable_derived (r : Registry) :
    AreComparable (r.timeAfter derivations "manual+work")
        (r.timeAfter derivations "nonbox+work") ↔
      r.IsPresent "manual+syscalls" ∧ r.IsPresent "nonbox+syscalls" ∧
        ∀ best, r.get? "nonbox+syscalls" = some best → best.nanos.toInt ≠ -2560000 := by
  have work : workNanos.toInt = 2560000 := rfl
  have first : ("manual+work", "manual+syscalls") ∈ derivations := List.mem_cons_self
  have second : ("nonbox+work", "nonbox+syscalls") ∈ derivations :=
    List.mem_cons_of_mem _ List.mem_cons_self
  rw [derivesApart_derivations.timeAfter_derived r first,
    derivesApart_derivations.timeAfter_derived r second]
  unfold AreComparable IsPresent
  simp only [Option.map_eq_some_iff, work]
  constructor
  · rintro ⟨⟨-, best, found, -⟩, -, ⟨base, known, rfl⟩, nonzero⟩
    refine ⟨⟨best, found⟩, ⟨base, known⟩, ?_⟩
    intro other again
    rw [known] at again
    cases again
    omega
  · rintro ⟨⟨best, found⟩, ⟨base, known⟩, apart⟩
    have nonzero := apart base known
    exact ⟨⟨_, best, found, rfl⟩, _, ⟨base, known, rfl⟩, by omega⟩

theorem IsBaseline.isPresent {r : Registry} {name : String} (h : r.IsBaseline name) :
    r.IsPresent name := by
  obtain ⟨best, found, -⟩ := h
  exact ⟨best, found⟩

theorem isDerivable_iff (r : Registry) (base : String) :
    r.IsDerivable base ↔ r.IsPresent base ∧ ¬ r.WorkOverflows base := by
  constructor
  · intro h
    have fits := not_workOverflows_of_isDerivable h
    obtain ⟨best, found, -⟩ := h
    exact ⟨⟨best, found⟩, fits⟩
  · rintro ⟨⟨best, found⟩, fits⟩
    refine ⟨best, found, ?_⟩
    by_contra out
    exact fits ⟨best, found, out⟩

/-- What it takes to compare all pairs, said of each benchmark once. -/
theorem isComparable_iff_times (r : Registry) :
    r.IsComparable ↔
      (∀ name ∈ ["manual", "nonbox", "manual+syscalls", "nonbox+syscalls", "box+syscalls",
          "box+rc+syscalls", "box+arc+syscalls"], r.IsPresent name) ∧
        (∀ base ∈ ["manual+syscalls", "nonbox+syscalls"], ¬ r.WorkOverflows base) ∧
        (∀ name ∈ ["nonbox", "nonbox+syscalls", "manual+syscalls", "box+syscalls",
          "box+arc+syscalls"], r.IsBaseline name) ∧
        ∀ best, r.get? "nonbox+syscalls" = some best → best.nanos.toInt ≠ -2560000 := by
  have derivable : (∀ pair ∈ derivations, r.IsDerivable pair.2) ↔
      r.IsDerivable "manual+syscalls" ∧ r.IsDerivable "nonbox+syscalls" := by simp [derivations]
  rw [isComparable_iff, derivable]
  simp (disch := decide) only [comparedPairs, List.forall_mem_cons, List.not_mem_nil,
    false_implies, implies_true, and_true, areComparable_measured, areComparable_derived,
    isDerivable_iff]
  constructor
  · rintro ⟨⟨⟨manualBase, manualFits⟩, nonboxBase, nonboxFits⟩, ⟨manual, nonbox⟩,
      ⟨-, nonboxSyscalls⟩, ⟨-, manualSyscalls⟩, ⟨-, box⟩, ⟨rc, arc⟩, -, -, apart⟩
    exact ⟨⟨manual, nonbox.isPresent, manualBase, nonboxBase, box.isPresent, rc, arc.isPresent⟩,
      ⟨manualFits, nonboxFits⟩, ⟨nonbox, nonboxSyscalls, manualSyscalls, box, arc⟩, apart⟩
  · rintro ⟨⟨manual, -, manualBase, nonboxBase, -, rc, -⟩, ⟨manualFits, nonboxFits⟩,
      ⟨nonbox, nonboxSyscalls, manualSyscalls, box, arc⟩, apart⟩
    exact ⟨⟨⟨manualBase, manualFits⟩, nonboxBase, nonboxFits⟩, ⟨manual, nonbox⟩,
      ⟨manualBase, nonboxSyscalls⟩, ⟨nonboxBase, manualSyscalls⟩, ⟨nonboxBase, box⟩, ⟨rc, arc⟩,
      manualBase, nonboxBase, apart⟩

/-! ## Faults of derived benchmarks -/

/-- A fault comes from a base, or all bases are in order and it comes from a pair. -/
theorem compareAll_fault_cases {r : Registry} {fault : Fault}
    (h : r.compareAll.outcome = .error fault) :
    (∃ check ∈ derivationChecks derivations, check.fault = fault) ∨
      (∀ c ∈ derivationChecks derivations, c.Holds (r.timeAfter derivations)) ∧
        ∃ check ∈ pairChecks comparedPairs, ¬ check.Holds (r.timeAfter derivations) ∧
          check.fault = fault := by
  rw [← failure?_eq_some_iff, failure?_compareAll, checks, Check.firstFault?_append,
    Option.or_eq_some_iff, Check.firstFault?_eq_none_iff, Check.firstFault?_eq_some_iff,
    Check.firstFault?_eq_some_iff] at h
  rcases h with ⟨front, check, back, split, -, -, own⟩ |
    ⟨met, front, check, back, split, -, unmet, own⟩
  · exact .inl ⟨check, split ▸ List.mem_append_right _ List.mem_cons_self, own⟩
  · exact .inr ⟨met, check, split ▸ List.mem_append_right _ List.mem_cons_self, unmet, own⟩

/-- Derived benchmarks are never missing: their bases are checked in front of them. -/
theorem compareAll_ne_missing_derived (r : Registry) {name : String}
    (h : name ∈ derivations.map (·.1)) :
    r.compareAll.outcome ≠ .error (.error (.missingBenchmark name)) := by
  intro missing
  rcases compareAll_fault_cases missing with ⟨check, m, own⟩ | ⟨met, check, m, unmet, own⟩
  · rw [Check.fault_eq_missingBenchmark_iff] at own
    rw [own] at m
    obtain ⟨pair, known, here⟩ := List.mem_flatMap.1 m
    have base : name = pair.2 := by simpa using here
    exact derivesApart_derivations.apart pair known (base ▸ h)
  · rw [Check.fault_eq_missingBenchmark_iff] at own
    rw [own] at unmet
    obtain ⟨pair, known, rfl⟩ := List.mem_map.1 h
    have base : (Check.present pair.2).Holds (r.timeAfter derivations) :=
      met _ (List.mem_flatMap.2 ⟨pair, known, List.mem_cons_self⟩)
    rw [Check.holds_present, derivesApart_derivations.timeAfter_base r known, ne_eq,
      Option.map_eq_none_iff] at base
    rw [Check.holds_present, derivesApart_derivations.timeAfter_derived r known, ne_eq,
      Option.map_eq_none_iff] at unmet
    exact unmet base

/-- A derived benchmark is zero only as a denominator, where its base is the work below zero. -/
theorem compareAll_eq_zero_derived {r : Registry} {name : String}
    (h : name ∈ derivations.map (·.1))
    (zero : r.compareAll.outcome = .error (.error (.zeroBaseline name))) :
    name = "nonbox+work" ∧ ∃ best, r.get? "nonbox+syscalls" = some best ∧
      best.nanos.toInt = -2560000 := by
  have work : workNanos.toInt = 2560000 := rfl
  rcases compareAll_fault_cases zero with ⟨check, m, own⟩ | ⟨met, check, m, unmet, own⟩
  · rw [Check.fault_eq_zeroBaseline_iff] at own
    rw [own] at m
    obtain ⟨pair, -, here⟩ := List.mem_flatMap.1 m
    simp at here
  · rw [Check.fault_eq_zeroBaseline_iff] at own
    rw [own] at m unmet
    obtain ⟨pair, known, rfl⟩ := List.mem_map.1 h
    have time := derivesApart_derivations.timeAfter_derived r known
    have either : pair = ("manual+work", "manual+syscalls") ∨
        pair = ("nonbox+work", "nonbox+syscalls") := by simpa [derivations] using known
    rcases either with rfl | rfl
    · exact absurd m (by decide)
    · rw [Check.holds_nonzero, time, ne_eq, not_not, Option.map_eq_some_iff] at unmet
      obtain ⟨best, found, sum⟩ := unmet
      exact ⟨rfl, best, found, by omega⟩

/-! ## Behind the comparisons -/

/-- The difference behind complete comparisons: both times are there, and it is computed just
if it is in range. -/
theorem delta_after_compareAll {r : Registry} {comparisons : List Comparison}
    (h : r.compareAll.outcome = .ok comparisons) :
    (∀ cause, r.compareAll.registry.delta ≠ .error (.error cause)) ∧
      ∃ nonbox manual, r.get? "nonbox" = some nonbox ∧ r.get? "manual" = some manual ∧
        ((∃ delta, r.compareAll.registry.delta = .ok delta) ↔
          Nanos.InRange (nonbox.nanos.toInt - manual.nanos.toInt)) := by
  have measured (name : String) (h : name ∉ derivations.map (·.1)) :
      r.compareAll.registry.get? name = r.get? name := get?_compareAll_of_notMem h r
  have plain : ("manual", "nonbox") ∈ comparedPairs := List.mem_cons_self
  obtain ⟨⟨manual, second⟩, nonbox, first⟩ := isPresent_of_compareAll h plain
  have overflows := r.compareAll.registry.delta_eq_overflow_iff .subtraction
  rw [first, second] at overflows
  rw [measured "manual" (by decide)] at second
  rw [measured "nonbox" (by decide)] at first
  rcases delta_of_compareAll h with ⟨delta, found⟩ | out
  · rw [found] at overflows ⊢
    refine ⟨by simp, nonbox, manual, first, second, ?_⟩
    simpa using overflows
  · rw [out] at overflows ⊢
    refine ⟨by simp, nonbox, manual, first, second, ?_⟩
    simpa using overflows

/-- The report ends in the first fault of the comparisons and the difference. -/
theorem failure?_report (r : Registry) :
    failure? r.report.outcome =
      (failure? r.compareAll.outcome).or (failure? r.compareAll.registry.delta) := by
  rw [outcome_report]
  cases r.compareAll.outcome with
  | error fault => rfl
  | ok comparisons =>
    cases r.compareAll.registry.delta with
    | error fault => rfl
    | ok delta => rfl

theorem exists_report_iff (r : Registry) :
    (∃ report, r.report.outcome = .ok report) ↔
      (∃ comparisons, r.compareAll.outcome = .ok comparisons) ∧
        ∃ delta, r.compareAll.registry.delta = .ok delta := by
  simp only [← failure?_eq_none_iff]
  rw [failure?_report, Option.or_eq_none_iff]

/-! ## Main result -/

/-- How comparing ends, and with it the report, read off the registry before any time is
derived.  Comparing fails with the fault of the first check that is not met, and is complete if
the measured benchmarks are there, both sums are in range and no denominator is zero.  A derived
benchmark is never missing, and is at fault only as a denominator that is zero.  Behind complete
comparisons the difference can only be out of range.  The report is complete if both are, and
ends in the first fault otherwise. -/
theorem compareAll_by_checks (r : Registry) :
    (∀ fault, r.compareAll.outcome = .error fault ↔
        ∃ front check back, checks = front ++ check :: back ∧
          (∀ c ∈ front, c.Holds (r.timeAfter derivations)) ∧
          ¬ check.Holds (r.timeAfter derivations) ∧ check.fault = fault) ∧
      ((∃ comparisons, r.compareAll.outcome = .ok comparisons) ↔
        (∀ name ∈ ["manual", "nonbox", "manual+syscalls", "nonbox+syscalls", "box+syscalls",
            "box+rc+syscalls", "box+arc+syscalls"], r.IsPresent name) ∧
          (∀ base ∈ ["manual+syscalls", "nonbox+syscalls"], ¬ r.WorkOverflows base) ∧
          (∀ name ∈ ["nonbox", "nonbox+syscalls", "manual+syscalls", "box+syscalls",
            "box+arc+syscalls"], r.IsBaseline name) ∧
          ∀ best, r.get? "nonbox+syscalls" = some best → best.nanos.toInt ≠ -2560000) ∧
      (∀ name, name = "manual+work" ∨ name = "nonbox+work" →
        r.compareAll.outcome ≠ .error (.error (.missingBenchmark name)) ∧
          (r.compareAll.outcome = .error (.error (.zeroBaseline name)) →
            name = "nonbox+work" ∧ ∃ best, r.get? "nonbox+syscalls" = some best ∧
              best.nanos.toInt = -2560000)) ∧
      (∀ comparisons, r.compareAll.outcome = .ok comparisons →
        (∀ cause, r.compareAll.registry.delta ≠ .error (.error cause)) ∧
          ∃ nonbox manual, r.get? "nonbox" = some nonbox ∧ r.get? "manual" = some manual ∧
            ((∃ delta, r.compareAll.registry.delta = .ok delta) ↔
              Nanos.InRange (nonbox.nanos.toInt - manual.nanos.toInt))) ∧
      ((∃ report, r.report.outcome = .ok report) ↔
        (∃ comparisons, r.compareAll.outcome = .ok comparisons) ∧
          ∃ delta, r.compareAll.registry.delta = .ok delta) ∧
      failure? r.report.outcome =
        (failure? r.compareAll.outcome).or (failure? r.compareAll.registry.delta) := by
  have derived (name : String) (h : name = "manual+work" ∨ name = "nonbox+work") :
      name ∈ derivations.map (·.1) := by simpa [derivations] using h
  refine ⟨?_, ?_, ?_, ?_, ?_, ?_⟩
  · intro fault
    rw [← failure?_eq_some_iff, failure?_compareAll, Check.firstFault?_eq_some_iff]
  · rw [exists_compareAll_iff, isComparable_iff_times]
  · intro name h
    exact ⟨r.compareAll_ne_missing_derived (derived name h),
      compareAll_eq_zero_derived (derived name h)⟩
  · intro comparisons h
    exact delta_after_compareAll h
  · exact r.exists_report_iff
  · exact r.failure?_report

end BestTimes.Registry
