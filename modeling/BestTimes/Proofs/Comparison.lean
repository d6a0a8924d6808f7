import BestTimes.Report.Basic
import BestTimes.Proofs.Registry.Recording
set_option autoImplicit false

/-!
# What comparing does

Comparing first sets the derived times and then looks up the pairs, so what it finds
depends on a registry that it changes itself.  This module says both in terms of the
registry it starts from.

* A step of deriving ends it, or sets a time and goes on (`derive_cons`).  So deriving
  changes no entry but the derived ones (`get?_derive_of_notMem`), and sets each of them
  to the sum of its base and the work (`get?_derive_of_mem`).  How it ends can be read off
  the registry before it (`outcome_derive`), because no derived benchmark is the base of
  another.
* A list of pairs can be compared if both names of every pair are there and no
  denominator is zero (`exists_comparePairs_iff`).
* `outcome_compareAll` and `outcome_report` put the stages together.  The difference
  cannot fail with an error behind the comparisons (`delta_of_compareAll`), which leaves
  three ways for a report to end (`report_cases`).
-/

namespace BestTimes

/-! ## Sums and differences in range -/

namespace Nanos

/-- Whether an integer is a time in range. -/
def InRange (i : Int) : Prop := -9223372036854775808 ≤ i ∧ i ≤ 9223372036854775807

instance (i : Int) : Decidable (InRange i) := inferInstanceAs (Decidable (_ ∧ _))

theorem inRange_toInt (t : Nanos) : InRange t.toInt := ⟨t.least_le, t.le_greatest⟩

theorem ofInt?_eq_none_iff (i : Int) : ofInt? i = none ↔ ¬ InRange i := by
  unfold ofInt? InRange
  split <;> simp_all

theorem ofInt?_eq_some_iff (i : Int) (t : Nanos) : ofInt? i = some t ↔ t.toInt = i := by
  constructor
  · intro h
    unfold ofInt? at h
    split at h
    · rw [← Option.some.inj h]
    · cases h
  · rintro rfl
    exact ofInt?_toInt t

theorem add?_eq_none_iff (a b : Nanos) : a.add? b = none ↔ ¬ InRange (a.toInt + b.toInt) :=
  ofInt?_eq_none_iff _

theorem add?_eq_some_iff (a b c : Nanos) : a.add? b = some c ↔ c.toInt = a.toInt + b.toInt :=
  ofInt?_eq_some_iff _ c

theorem sub?_eq_none_iff (a b : Nanos) : a.sub? b = none ↔ ¬ InRange (a.toInt - b.toInt) :=
  ofInt?_eq_none_iff _

end Nanos

namespace Registry

theorem require_of_some {r : Registry} {name : String} {t : Timing} (h : r.get? name = some t) :
    r.require name = .ok t := by
  unfold require
  rw [h]

theorem require_of_none {r : Registry} {name : String} (h : r.get? name = none) :
    r.require name = .error (.missingBenchmark name) := by
  unfold require
  rw [h]

/-! ## Derived times -/

/-- The time that is derived from a base, or why there is none. -/
def timingFrom (r : Registry) (base : String) : Except Fault Timing :=
  match r.get? base with
  | none => .error (.error (.missingBenchmark base))
  | some best =>
    match best.nanos.add? workNanos with
    | none => .error (.overflow .addition)
    | some nanos => .ok ⟨nanos, best.line⟩

theorem timingFrom_congr {r s : Registry} {base : String} (h : r.get? base = s.get? base) :
    r.timingFrom base = s.timingFrom base := by
  unfold timingFrom
  rw [h]

theorem timingFrom_eq_ok_iff {r : Registry} {base : String} {timing : Timing} :
    r.timingFrom base = .ok timing ↔
      ∃ best nanos, r.get? base = some best ∧
        nanos.toInt = best.nanos.toInt + workNanos.toInt ∧ timing = ⟨nanos, best.line⟩ := by
  unfold timingFrom
  constructor
  · intro derived
    split at derived
    · cases derived
    · rename_i best found
      split at derived
      · cases derived
      · rename_i nanos sum
        cases derived
        exact ⟨best, nanos, found, (Nanos.add?_eq_some_iff _ _ _).1 sum, rfl⟩
  · rintro ⟨best, nanos, found, sum, rfl⟩
    rw [found]
    simp only [(Nanos.add?_eq_some_iff _ _ _).2 sum]

theorem timingFrom_eq_missing {r : Registry} {base name : String}
    (h : r.timingFrom base = .error (.error (.missingBenchmark name))) : base = name := by
  unfold timingFrom at h
  split at h
  · cases h
    rfl
  · split at h
    · cases h
    · cases h

/-- A step of deriving: it ends here, or it goes on in the registry with the time set. -/
theorem derive_cons (r : Registry) (pair : String × String) (table : List (String × String)) :
    r.derive (pair :: table) =
      match r.timingFrom pair.2 with
      | .error fault => .stop r fault
      | .ok timing =>
        ((r.insertDerived pair.1 timing).derive table).after
          [.derived pair.1 timing.nanos pair.2] := by
  obtain ⟨name, base⟩ := pair
  conv_lhs => unfold derive
  unfold timingFrom
  cases found : r.get? base with
  | none =>
    rw [require_of_none found]
  | some best =>
    rw [require_of_some found]
    simp only
    cases best.nanos.add? workNanos with
    | none => rfl
    | some nanos => rfl

/-- How deriving ends, read off the registry before it: at the first base that is
missing or whose sum with the work is out of range. -/
def deriveOutcome (r : Registry) : List (String × String) → Except Fault Unit
  | [] => .ok ()
  | (_, base) :: rest =>
    match r.get? base with
    | none => .error (.error (.missingBenchmark base))
    | some best =>
      match best.nanos.add? workNanos with
      | none => .error (.overflow .addition)
      | some _ => r.deriveOutcome rest

theorem deriveOutcome_cons (r : Registry) (pair : String × String)
    (table : List (String × String)) :
    r.deriveOutcome (pair :: table) =
      match r.timingFrom pair.2 with
      | .error fault => .error fault
      | .ok _ => r.deriveOutcome table := by
  obtain ⟨name, base⟩ := pair
  conv_lhs => unfold deriveOutcome
  unfold timingFrom
  cases r.get? base with
  | none => rfl
  | some best =>
    simp only
    cases best.nanos.add? workNanos with
    | none => rfl
    | some nanos => rfl

/-- Deriving looks at the bases only. -/
theorem deriveOutcome_congr {r s : Registry} {table : List (String × String)}
    (h : ∀ pair ∈ table, r.get? pair.2 = s.get? pair.2) :
    r.deriveOutcome table = s.deriveOutcome table := by
  induction table with
  | nil => rfl
  | cons pair table ih =>
    obtain ⟨own, rest⟩ := List.forall_mem_cons.1 h
    rw [deriveOutcome_cons, deriveOutcome_cons, timingFrom_congr own, ih rest]

/-- No entry changes but the derived ones. -/
theorem get?_derive_of_notMem {table : List (String × String)} {other : String}
    (h : other ∉ table.map (·.1)) (r : Registry) :
    (r.derive table).registry.get? other = r.get? other := by
  induction table generalizing r with
  | nil => rfl
  | cons pair table ih =>
    rw [List.map_cons, List.mem_cons, not_or] at h
    rw [derive_cons]
    cases r.timingFrom pair.2 with
    | error fault => rfl
    | ok timing =>
      calc ((r.insertDerived pair.1 timing).derive table).registry.get? other
          = (r.insertDerived pair.1 timing).get? other := ih h.2 _
        _ = r.get? other := by rw [get?_insertDerived, if_neg h.1]

/-- Whether no derived benchmark of a table is a base of it, or derived twice. -/
structure DerivesApart (table : List (String × String)) : Prop where
  distinct : (table.map (·.1)).Nodup
  apart : ∀ pair ∈ table, pair.2 ∉ table.map (·.1)

theorem DerivesApart.tail {pair : String × String} {table : List (String × String)}
    (h : DerivesApart (pair :: table)) : DerivesApart table where
  distinct := (List.nodup_cons.1 h.distinct).2
  apart := by
    intro other m known
    exact h.apart other (List.mem_cons_of_mem _ m) (List.mem_cons_of_mem _ known)

theorem derivesApart_derivations : DerivesApart derivations where
  distinct := by decide
  apart := by decide

/-- The bases behind a derived benchmark are as they were before it was derived. -/
theorem DerivesApart.get?_insertDerived {pair : String × String}
    {table : List (String × String)} (h : DerivesApart (pair :: table)) (r : Registry)
    (timing : Timing) {other : String × String} (m : other ∈ table) :
    (r.insertDerived pair.1 timing).get? other.2 = r.get? other.2 := by
  rw [Registry.get?_insertDerived, if_neg]
  intro same
  refine h.apart other (List.mem_cons_of_mem _ m) ?_
  rw [same]
  exact List.mem_cons_self

theorem outcome_derive {table : List (String × String)} (h : DerivesApart table)
    (r : Registry) : (r.derive table).outcome = r.deriveOutcome table := by
  induction table generalizing r with
  | nil => rfl
  | cons pair table ih =>
    rw [derive_cons, deriveOutcome_cons]
    cases r.timingFrom pair.2 with
    | error fault => rfl
    | ok timing =>
      calc ((r.insertDerived pair.1 timing).derive table).outcome
          = (r.insertDerived pair.1 timing).deriveOutcome table := ih h.tail _
        _ = r.deriveOutcome table := deriveOutcome_congr fun _ => h.get?_insertDerived r _

/-- Once all times are derived, a derived time is that of its base and the work. -/
theorem get?_derive_of_mem {table : List (String × String)} (h : DerivesApart table)
    {r : Registry} (done : r.deriveOutcome table = .ok ()) {name base : String}
    (m : (name, base) ∈ table) :
    ∃ best nanos, r.get? base = some best ∧ nanos.toInt = best.nanos.toInt + workNanos.toInt ∧
      (r.derive table).registry.get? name = some ⟨nanos, best.line⟩ := by
  induction table generalizing r with
  | nil => cases m
  | cons pair table ih =>
    rw [deriveOutcome_cons] at done
    rw [derive_cons]
    cases derived : r.timingFrom pair.2 with
    | error fault =>
      rw [derived] at done
      cases done
    | ok timing =>
      rw [derived] at done
      rcases List.mem_cons.1 m with rfl | m
      · obtain ⟨best, nanos, found, sum, rfl⟩ := timingFrom_eq_ok_iff.1 derived
        refine ⟨best, nanos, found, sum, ?_⟩
        calc ((r.insertDerived name ⟨nanos, best.line⟩).derive table).registry.get? name
            = (r.insertDerived name ⟨nanos, best.line⟩).get? name :=
              get?_derive_of_notMem (List.nodup_cons.1 h.distinct).1 _
          _ = some ⟨nanos, best.line⟩ := by rw [Registry.get?_insertDerived, if_pos rfl]
      · have later : (r.insertDerived pair.1 timing).deriveOutcome table = .ok () :=
          (deriveOutcome_congr fun _ => h.get?_insertDerived r _).trans done
        obtain ⟨best, nanos, found, rest⟩ := ih h.tail later m
        rw [h.get?_insertDerived r _ m] at found
        exact ⟨best, nanos, found, rest⟩

/-- However deriving ends, a time is as it was, or it is that of a base and the work. -/
theorem get?_derive_cases {table : List (String × String)} (h : DerivesApart table)
    (r : Registry) (name : String) :
    (r.derive table).registry.get? name = r.get? name ∨
      ∃ base best nanos, (name, base) ∈ table ∧ r.get? base = some best ∧
        nanos.toInt = best.nanos.toInt + workNanos.toInt ∧
        (r.derive table).registry.get? name = some ⟨nanos, best.line⟩ := by
  induction table generalizing r with
  | nil => exact .inl rfl
  | cons pair table ih =>
    rw [derive_cons]
    cases derived : r.timingFrom pair.2 with
    | error fault => exact .inl rfl
    | ok timing =>
      rcases ih h.tail (r.insertDerived pair.1 timing) with
        same | ⟨base, best, nanos, m, stored, rest⟩
      · have left : ((r.insertDerived pair.1 timing).derive table).registry.get? name =
            if name = pair.1 then some timing else r.get? name := by
          rw [same, Registry.get?_insertDerived]
        by_cases own : name = pair.1
        · subst own
          rw [if_pos rfl] at left
          obtain ⟨best, nanos, found, sum, rfl⟩ := timingFrom_eq_ok_iff.1 derived
          exact .inr ⟨pair.2, best, nanos, List.mem_cons_self, found, sum, left⟩
        · rw [if_neg own] at left
          exact .inl left
      · rw [h.get?_insertDerived r _ m] at stored
        exact .inr ⟨base, best, nanos, List.mem_cons_of_mem _ m, stored, rest⟩

/-! ## Pairs -/

/-- Whether a benchmark has a best time. -/
def IsPresent (r : Registry) (name : String) : Prop := ∃ best, r.get? name = some best

/-- Whether a benchmark has a best time other than zero, to compare against. -/
def IsBaseline (r : Registry) (name : String) : Prop :=
  ∃ best, r.get? name = some best ∧ best.nanos.toInt ≠ 0

theorem exists_compare_iff (r : Registry) (numerator denominator : String) :
    (∃ c, r.compare numerator denominator = .ok c) ↔
      r.IsPresent numerator ∧ r.IsBaseline denominator := by
  unfold compare IsPresent IsBaseline
  cases above : r.get? numerator with
  | none => simp [require_of_none above]
  | some a =>
    cases below : r.get? denominator with
    | none => simp [require_of_some above, require_of_none below]
    | some b =>
      rw [require_of_some above, require_of_some below]
      by_cases zero : b.nanos.toInt = 0 <;> simp [zero]

section

variable {α β ε : Type} {f : α → Except ε β} {item : α} {items : List α} {results : List β}

theorem mapM_cons_eq_ok_iff :
    (item :: items).mapM f = .ok results ↔
      ∃ result later, f item = .ok result ∧ items.mapM f = .ok later ∧
        results = result :: later := by
  rw [List.mapM_cons]
  constructor
  · intro all
    cases first : f item with
    | error e => rw [first] at all; cases all
    | ok result =>
      rw [first] at all
      cases rest : items.mapM f with
      | error e => rw [rest] at all; cases all
      | ok later =>
        rw [rest] at all
        cases all
        exact ⟨result, later, rfl, rfl, rfl⟩
  · rintro ⟨result, later, first, rest, rfl⟩
    rw [first, rest]
    rfl

theorem exists_mapM_iff :
    (∃ results, items.mapM f = .ok results) ↔ ∀ item ∈ items, ∃ result, f item = .ok result := by
  induction items with
  | nil => exact ⟨fun _ _ m => (List.not_mem_nil m).elim, fun _ => ⟨[], rfl⟩⟩
  | cons item items ih =>
    rw [List.forall_mem_cons, ← ih]
    simp only [mapM_cons_eq_ok_iff]
    constructor
    · rintro ⟨results, result, later, first, rest, -⟩
      exact ⟨⟨result, first⟩, later, rest⟩
    · rintro ⟨⟨result, first⟩, later, rest⟩
      exact ⟨_, result, later, first, rest, rfl⟩

/-- Every result is the result of an item. -/
theorem exists_of_mem_mapM (h : items.mapM f = .ok results) {result : β} (m : result ∈ results) :
    ∃ item ∈ items, f item = .ok result := by
  induction items generalizing results with
  | nil =>
    cases h
    exact (List.not_mem_nil m).elim
  | cons item items ih =>
    obtain ⟨first, later, own, rest, rfl⟩ := mapM_cons_eq_ok_iff.1 h
    rcases List.mem_cons.1 m with rfl | m
    · exact ⟨item, List.mem_cons_self .., own⟩
    · obtain ⟨source, mem, found⟩ := ih rest m
      exact ⟨source, List.mem_cons_of_mem _ mem, found⟩

/-- The results are in the order of the items. -/
theorem getElem?_of_mapM (h : items.mapM f = .ok results) {i : Nat} (m : items[i]? = some item)
    {result : β} (own : f item = .ok result) : results[i]? = some result := by
  induction items generalizing results i with
  | nil => cases m
  | cons first items ih =>
    obtain ⟨begun, later, head, rest, rfl⟩ := mapM_cons_eq_ok_iff.1 h
    cases i with
    | zero =>
      cases m
      rw [head] at own
      cases own
      rfl
    | succ i => exact ih rest m

end

/-- Pairs can be compared if every numerator is present and every denominator is a
baseline. -/
theorem exists_comparePairs_iff (r : Registry) (pairs : List (String × String)) :
    (∃ comparisons, r.comparePairs pairs = .ok comparisons) ↔
      ∀ pair ∈ pairs, r.IsPresent pair.1 ∧ r.IsBaseline pair.2 := by
  unfold comparePairs
  rw [exists_mapM_iff]
  simp only [exists_compare_iff]

/-- A comparison is of two stored times, the second of which is not zero. -/
theorem exists_timings_of_compare {r : Registry} {numerator denominator : String}
    {c : Comparison} (h : r.compare numerator denominator = .ok c) :
    ∃ s t : Timing, r.get? numerator = some s ∧ r.get? denominator = some t ∧
      t.nanos.toInt ≠ 0 ∧ c = .ofNanos numerator denominator s.nanos t.nanos := by
  obtain ⟨⟨s, above⟩, t, below, nonzero⟩ := (exists_compare_iff r numerator denominator).1 ⟨c, h⟩
  unfold compare at h
  rw [require_of_some above, require_of_some below] at h
  simp only [if_neg nonzero] at h
  exact ⟨s, t, above, below, nonzero, (Except.ok.inj h).symm⟩

theorem exists_ofNanos_of_compare {r : Registry} {numerator denominator : String}
    {c : Comparison} (h : r.compare numerator denominator = .ok c) :
    ∃ a b : Nanos, b.toInt ≠ 0 ∧ c = .ofNanos numerator denominator a b := by
  obtain ⟨s, t, -, -, nonzero, same⟩ := exists_timings_of_compare h
  exact ⟨s.nanos, t.nanos, nonzero, same⟩

theorem names_of_compare {r : Registry} {numerator denominator : String} {c : Comparison}
    (h : r.compare numerator denominator = .ok c) :
    c.numerator = numerator ∧ c.denominator = denominator := by
  obtain ⟨a, b, -, rfl⟩ := exists_ofNanos_of_compare h
  exact ⟨rfl, rfl⟩

/-- There is a comparison for every pair, in the order of the pairs. -/
theorem names_of_comparePairs {r : Registry} {pairs : List (String × String)}
    {comparisons : List Comparison} (h : r.comparePairs pairs = .ok comparisons) :
    comparisons.map (fun c => (c.numerator, c.denominator)) = pairs := by
  unfold comparePairs at h
  induction pairs generalizing comparisons with
  | nil =>
    cases h
    rfl
  | cons pair pairs ih =>
    obtain ⟨c, later, first, rest, rfl⟩ := mapM_cons_eq_ok_iff.1 h
    obtain ⟨above, below⟩ := names_of_compare first
    rw [List.map_cons, ih rest, above, below]

/-! ## The stages together -/

theorem registry_compareAll (r : Registry) :
    r.compareAll.registry = (r.derive derivations).registry := by
  unfold compareAll
  rw [Progress.registry_andThen]
  cases (r.derive derivations).outcome with
  | ok _ => rfl
  | error fault => rfl

theorem outcome_compareAll (r : Registry) :
    r.compareAll.outcome =
      match r.deriveOutcome derivations with
      | .ok _ =>
        ((r.derive derivations).registry.comparePairs comparedPairs).mapError .error
      | .error fault => .error fault := by
  unfold compareAll
  rw [Progress.outcome_andThen, outcome_derive derivesApart_derivations]
  cases r.deriveOutcome derivations with
  | ok _ => rfl
  | error fault => rfl

/-- Comparisons that are computed are those of the registry with the derived times. -/
theorem comparePairs_of_compareAll {r : Registry} {comparisons : List Comparison}
    (h : r.compareAll.outcome = .ok comparisons) :
    r.compareAll.registry.comparePairs comparedPairs = .ok comparisons := by
  rw [outcome_compareAll] at h
  rw [registry_compareAll]
  split at h
  · cases compared : (r.derive derivations).registry.comparePairs comparedPairs with
    | error cause =>
      rw [compared] at h
      cases h
    | ok found =>
      rw [compared] at h
      cases h
      rfl
  · cases h

theorem names_of_compareAll {r : Registry} {comparisons : List Comparison}
    (h : r.compareAll.outcome = .ok comparisons) :
    comparisons.map (fun c => (c.numerator, c.denominator)) = comparedPairs :=
  names_of_comparePairs (comparePairs_of_compareAll h)

theorem outcome_report (r : Registry) :
    r.report.outcome =
      match r.compareAll.outcome with
      | .ok comparisons =>
        r.compareAll.registry.delta.map fun delta => ⟨r.toList, comparisons, delta⟩
      | .error fault => .error fault := by
  unfold report
  rw [Progress.outcome_andThen]
  cases r.compareAll.outcome with
  | ok comparisons => rfl
  | error fault => rfl

/-- What has been compared is there. -/
theorem isPresent_of_compareAll {r : Registry} {comparisons : List Comparison}
    (h : r.compareAll.outcome = .ok comparisons) {pair : String × String}
    (m : pair ∈ comparedPairs) :
    r.compareAll.registry.IsPresent pair.1 ∧ r.compareAll.registry.IsPresent pair.2 := by
  have all := (exists_comparePairs_iff _ _).1 ⟨comparisons, comparePairs_of_compareAll h⟩
  obtain ⟨numerator, best, denominator, -⟩ := all pair m
  exact ⟨numerator, best, denominator⟩

theorem delta_of_isPresent {r : Registry} (nonbox : r.IsPresent "nonbox")
    (manual : r.IsPresent "manual") :
    (∃ delta, r.delta = .ok delta) ∨ r.delta = .error (.overflow .subtraction) := by
  obtain ⟨a, first⟩ := nonbox
  obtain ⟨b, second⟩ := manual
  unfold delta
  rw [require_of_some first, require_of_some second]
  cases difference : a.nanos.sub? b.nanos with
  | none => exact .inr (by simp only [difference])
  | some nanos => exact .inl ⟨⟨nanos, nanos.share deltaParts⟩, by simp only [difference]⟩

/-- Once all pairs are compared, the difference can only fail by an overflow: the two
plain benchmarks are a pair. -/
theorem delta_of_compareAll {r : Registry} {comparisons : List Comparison}
    (h : r.compareAll.outcome = .ok comparisons) :
    (∃ delta, r.compareAll.registry.delta = .ok delta) ∨
      r.compareAll.registry.delta = .error (.overflow .subtraction) := by
  have plain : ("manual", "nonbox") ∈ comparedPairs := by decide
  obtain ⟨manual, nonbox⟩ := isPresent_of_compareAll h plain
  exact delta_of_isPresent nonbox manual

/-- How a report can end: it is computed, or the comparisons end it, or the difference
overflows behind them. -/
theorem report_cases (r : Registry) :
    (∃ comparisons delta, r.compareAll.outcome = .ok comparisons ∧
        r.compareAll.registry.delta = .ok delta ∧
        r.report.outcome = .ok ⟨r.toList, comparisons, delta⟩) ∨
      (∃ fault, r.compareAll.outcome = .error fault ∧ r.report.outcome = .error fault) ∨
      ∃ comparisons, r.compareAll.outcome = .ok comparisons ∧
        r.compareAll.registry.delta = .error (.overflow .subtraction) ∧
        r.report.outcome = .error (.overflow .subtraction) := by
  rw [outcome_report]
  cases compared : r.compareAll.outcome with
  | error fault => exact .inr (.inl ⟨fault, rfl, rfl⟩)
  | ok comparisons =>
    rcases delta_of_compareAll compared with ⟨delta, found⟩ | overflows
    · exact .inl ⟨comparisons, delta, rfl, found, by rw [found]; rfl⟩
    · exact .inr (.inr ⟨comparisons, rfl, overflows, by rw [overflows]; rfl⟩)

/-- A report that is computed holds the comparisons that are. -/
theorem compareAll_of_report {r : Registry} {report : Report}
    (h : r.report.outcome = .ok report) : r.compareAll.outcome = .ok report.comparisons := by
  rcases r.report_cases with
    ⟨comparisons, delta, compared, -, ends⟩ | ⟨fault, -, ends⟩ | ⟨comparisons, -, -, ends⟩
  · rw [h] at ends
    cases ends
    exact compared
  · rw [h] at ends
    cases ends
  · rw [h] at ends
    cases ends

/-- A report has a comparison for every pair. -/
theorem names_of_report {r : Registry} {report : Report} (h : r.report.outcome = .ok report) :
    report.comparisons.map (fun c => (c.numerator, c.denominator)) = comparedPairs :=
  names_of_compareAll (compareAll_of_report h)

/-- A comparison in a report is of two times that are stored once the work is added. -/
theorem exists_timings_of_report {r : Registry} {report : Report}
    (h : r.report.outcome = .ok report) {c : Comparison} (m : c ∈ report.comparisons) :
    ∃ (numerator denominator : String) (s t : Timing),
      r.compareAll.registry.get? numerator = some s ∧
      r.compareAll.registry.get? denominator = some t ∧ t.nanos.toInt ≠ 0 ∧
      c = .ofNanos numerator denominator s.nanos t.nanos := by
  obtain ⟨pair, -, own⟩ :=
    exists_of_mem_mapM (comparePairs_of_compareAll (compareAll_of_report h)) m
  obtain ⟨s, t, above, below, nonzero, same⟩ := exists_timings_of_compare own
  exact ⟨pair.1, pair.2, s, t, above, below, nonzero, same⟩

end Registry

end BestTimes
