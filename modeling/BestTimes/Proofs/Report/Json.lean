import BestTimes.Reading
import BestTimes.Proofs.Comparison.Finite
import BestTimes.Proofs.Json.Rendering
import BestTimes.Proofs.Report.Truncation
set_option autoImplicit false

/-!
# The JSON report loses nothing

A report is read back from its decoded JSON document: an object has exactly the fields of what
it stands for, in their order, a time is a number without a fraction, and a ratio or percentage
is the binary64 number nearest to a number (`Decoded.report?`).  A null is none of these.

What is read back from the document of a report is the report (`decodes_jsonScript`).  Times
are integers, so nothing is rounded; for the other numbers the decimal that is written rounds to
the number it was written for, and none of them is written as null, because all numbers of a
report are finite.
-/

namespace BestTimes

namespace Decoded

/-! ## Reading back -/

/-- The values of an object that has exactly the named fields, in this order. -/
def fields? (names : List String) : Decoded → Option (List Decoded)
  | .object fields => if fields.map (·.1) = names then some (fields.map (·.2)) else none
  | _ => none

/-- The elements of an array, each read back. -/
def elements? {α : Type} (read : Decoded → Option α) : Decoded → Option (List α)
  | .array elements => elements.mapM read
  | _ => none

/-- A string. -/
def text? : Decoded → Option String
  | .string s => some s
  | _ => none

/-- A number without a fraction, as a time. -/
def nanos? : Decoded → Option Nanos
  | .number negative size =>
    if size.den = 1 then Nanos.ofInt? (Binary64.signed negative size.num.natAbs) else none
  | _ => none

/-- A number, rounded to binary64. -/
def binary64? : Decoded → Option Binary64
  | .number negative size => some (.nearest negative size)
  | _ => none

/-- A best time with its name. -/
def best? (v : Decoded) : Option (String × Timing) := do
  let [name, nanos, line] ← v.fields? ["name", "nanos", "line"] | none
  some (← name.text?, ⟨← nanos.nanos?, ← line.text?⟩)

/-- A comparison. -/
def comparison? (v : Decoded) : Option Comparison := do
  let [a, b, ratio, percent] ← v.fields? ["a", "b", "ratio", "percent"] | none
  some ⟨← a.text?, ← b.text?, ← ratio.binary64?, ← percent.binary64?⟩

/-- A difference. -/
def delta? (v : Decoded) : Option Delta := do
  let [nanos, share] ← v.fields? ["nanos", "per_256"] | none
  some ⟨← nanos.nanos?, ← share.nanos?⟩

/-- A report. -/
def report? (v : Decoded) : Option Report := do
  let [best, comparisons, delta] ← v.fields? ["best", "comparisons", "delta"] | none
  some ⟨← best.elements? best?, ← comparisons.elements? comparison?, ← delta.delta?⟩

/-! ## What is read back -/

/-- The fields of a written object are those of the object. -/
theorem fields?_object (fields : List (String × Json)) :
    fields? (fields.map (·.1)) (Json.object fields).denoted =
      some (fields.map fun field => field.2.denoted) := by
  rw [Json.denoted, Json.denotedFields_eq_map]
  unfold fields?
  simp only [List.map_map]
  exact if_pos rfl

theorem elements?_map {α : Type} {read : Decoded → Option α} {write : α → Decoded}
    {xs : List α} (all : ∀ x ∈ xs, read (write x) = some x) :
    elements? read (.array (xs.map write)) = some xs := by
  unfold elements?
  simp only
  induction xs with
  | nil => rfl
  | cons x xs ih =>
    obtain ⟨first, rest⟩ := List.forall_mem_cons.1 all
    rw [List.map_cons, List.mapM_cons, first, ih rest]
    rfl

/-- An integer in range is read back as the time. -/
theorem nanos?_integer (t : Nanos) : (Json.integer t.toInt).denoted.nanos? = some t := by
  have sign : Binary64.signed (decide (t.toInt < 0)) t.toInt.natAbs = t.toInt := by
    unfold Binary64.signed
    split_ifs with negative
    · have below := of_decide_eq_true negative
      omega
    · have above := of_decide_eq_false (eq_false_of_ne_true negative)
      omega
  rw [Json.denoted]
  unfold nanos?
  simp only [Rat.den_natCast, Rat.num_natCast, Int.natAbs_natCast, sign, if_pos]
  exact Nanos.ofInt?_toInt t

/-- A finite number is read back as itself. -/
theorem binary64?_number {x : Binary64} (finite : x.isFinite = true) :
    (Json.number x).denoted.binary64? = some x := by
  cases x with
  | nan => cases finite
  | infinite negative => cases finite
  | finite negative m =>
    rw [Json.denoted]
    unfold binary64?
    simp only [Option.some.injEq]
    split_ifs with zero
    · unfold Binary64.nearest
      rw [Rat.num_zero, Int.natAbs_zero, Nat.zero_mul]
      exact Binary64.ofQuotient_of_roundUnits negative
        ((roundUnits_zero (Rat.den_pos 0)).trans zero.symm)
    · exact Decimal.nearest_shortest negative zero

theorem text?_string (s : String) : (Json.string s).denoted.text? = some s := by
  rw [Json.denoted]
  rfl

theorem best?_bestJson (entry : String × Timing) :
    (Report.bestJson entry).denoted.best? = some entry := by
  have fields := fields?_object [("name", .string entry.1),
    ("nanos", .integer entry.2.nanos.toInt), ("line", .string entry.2.line)]
  unfold best? Report.bestJson
  simp only [List.map_cons, List.map_nil] at fields
  rw [fields, Option.bind_eq_bind, Option.bind_some]
  simp only [text?_string, nanos?_integer, Option.bind_eq_bind, Option.bind_some]

theorem comparison?_comparisonJson {c : Comparison} (ratio : c.ratio.isFinite = true)
    (percent : c.percent.isFinite = true) :
    (Report.comparisonJson c).denoted.comparison? = some c := by
  have fields := fields?_object [("a", .string c.numerator), ("b", .string c.denominator),
    ("ratio", .number c.ratio), ("percent", .number c.percent)]
  unfold comparison? Report.comparisonJson
  simp only [List.map_cons, List.map_nil] at fields
  rw [fields, Option.bind_eq_bind, Option.bind_some]
  simp only [text?_string, binary64?_number ratio, binary64?_number percent, Option.bind_eq_bind,
    Option.bind_some]

theorem delta?_deltaJson (d : Delta) : (Report.deltaJson d).denoted.delta? = some d := by
  have fields := fields?_object [("nanos", .integer d.nanos.toInt),
    ("per_256", .integer d.share.toInt)]
  unfold delta? Report.deltaJson
  simp only [List.map_cons, List.map_nil] at fields
  rw [fields, Option.bind_eq_bind, Option.bind_some]
  simp only [nanos?_integer, Option.bind_eq_bind, Option.bind_some]

/-- A report whose numbers are finite is read back from its JSON value. -/
theorem report?_toJson {report : Report}
    (finite : ∀ c ∈ report.comparisons, c.ratio.isFinite = true ∧ c.percent.isFinite = true) :
    report.toJson.denoted.report? = some report := by
  have fields := fields?_object [("best", .array (report.best.map Report.bestJson)),
    ("comparisons", .array (report.comparisons.map Report.comparisonJson)),
    ("delta", Report.deltaJson report.delta)]
  have best : (Json.array (report.best.map Report.bestJson)).denoted.elements? best? =
      some report.best := by
    rw [Json.denoted, Json.denotedElements_eq_map, List.map_map]
    exact elements?_map fun entry _ => best?_bestJson entry
  have comparisons : (Json.array (report.comparisons.map Report.comparisonJson)).denoted.elements?
      comparison? = some report.comparisons := by
    rw [Json.denoted, Json.denotedElements_eq_map, List.map_map]
    exact elements?_map fun c m => comparison?_comparisonJson (finite c m).1 (finite c m).2
  unfold report? Report.toJson
  simp only [List.map_cons, List.map_nil] at fields
  rw [fields, Option.bind_eq_bind, Option.bind_some]
  simp only [best, comparisons, delta?_deltaJson, Option.bind_eq_bind, Option.bind_some]

end Decoded

namespace Registry

/-- **The JSON report loses nothing.**  Written where there is room for all of it, it is the
text of one JSON object and a line feed, and what is read back from the object is the report. -/
theorem decodes_jsonScript {r : Registry} {report : Report}
    (h : r.report.outcome = .ok report) :
    (report.jsonScript.run none).outcome = .ok () ∧
      ∃ (text : String) (fields : List (String × Decoded)),
        (report.jsonScript.run none).bytes = Text.encode text ++ [10] ∧
        Decoded.ofText? text.toList = some (.object fields) ∧
        (Decoded.object fields).report? = some report := by
  have object : ∃ fields, report.toJson.denoted = .object fields := by
    unfold Report.toJson
    exact ⟨_, Json.denoted.eq_def _⟩
  obtain ⟨fields, denoted⟩ := object
  refine ⟨report.outcome_jsonScript, report.toJson.document, fields, report.bytes_jsonScript,
    ?_, ?_⟩
  · rw [Json.ofText?_document, denoted]
  · rw [← denoted]
    exact Decoded.report?_toJson fun c m => r.isFinite_of_report h m

/-- Measurements of all benchmarks that a report needs.  The first line has a quote, a
backslash, a tab, another control character and a character of two code units in it. -/
def allMeasured : String :=
  "manual time: [1 ns 5 ns 9 ns] \"\\\t\x01😀\n" ++
  "nonbox time: [1 ns 7 ns 9 ns]\n" ++
  "box+syscalls time: [1 us 1.5 us 9 us]\n" ++
  "box+rc+syscalls time: [1 us 3 us 9 us]\n" ++
  "box+arc+syscalls time: [1 us 7 us 9 us]\n" ++
  "manual+syscalls time: [1 us 2 us 9 us]\n" ++
  "nonbox+syscalls time: [1 us 3 us 9 us]\n"

/-- The report of these measurements is read back, with the characters that are escaped. -/
theorem decodes_jsonScript_of_allMeasured :
    ∃ report, (ofText allMeasured).registry.report.outcome = .ok report ∧
      (report.jsonScript.run none).outcome = .ok () ∧
        ∃ (text : String) (fields : List (String × Decoded)),
          (report.jsonScript.run none).bytes = Text.encode text ++ [10] ∧
          Decoded.ofText? text.toList = some (.object fields) ∧
          (Decoded.object fields).report? = some report := by
  have computed : (ofText allMeasured).registry.report.outcome.isOk = true := by decide +kernel
  cases built : (ofText allMeasured).registry.report.outcome with
  | error fault =>
    rw [built] at computed
    cases computed
  | ok report => exact ⟨report, rfl, decodes_jsonScript built⟩

end Registry

end BestTimes
