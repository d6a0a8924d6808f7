import BestTimes.Report.Text
import BestTimes.Proofs.Comparison
import BestTimes.Proofs.Script
import BestTimes.Proofs.Text.Lines
set_option autoImplicit false

/-!
# The text report and the report

The report of a registry is computed twice over: `Registry.report` computes it as a
value, and `Registry.textScript` writes it section by section while it computes it.
`run_textScript_agrees` says that the two agree on every registry: they fail together
and in the same way, and if they succeed, what is written is the value in text form.

The text report is a sequence of lines, as far as it goes (`reportLines`,
`bytes_textScript`).
-/

namespace BestTimes

namespace Report

/-- The lines of a report in text form: the line of every best time, an empty line, the
comparisons, an empty line, and the difference. -/
def lines (report : Report) : List String :=
  report.best.map (·.2.line) ++ [""] ++ report.comparisons.map Comparison.text ++ [""] ++
    [report.delta.text]

/-- A report in text form. -/
def rendering (report : Report) : List UInt8 := Text.ended report.lines

theorem bytes_writeLine (line : String) : (writeLine line).bytes = Text.ended [line] := by
  have feed : Text.encode "\n" = [10] := by decide +kernel
  have split := Text.encode_append line "\n"
  rw [feed, ← Text.ended_singleton] at split
  exact split

theorem flatMap_bytes_map_writeLine {α : Type} (text : α → String) (items : List α) :
    (items.map fun item => writeLine (text item)).flatMap Script.Step.bytes =
      Text.ended (items.map text) := by
  unfold Text.ended
  rw [List.flatMap_map, List.flatMap_map]
  simp only [bytes_writeLine, Text.ended_singleton]

theorem flatMap_bytes_bestSection (best : List (String × Timing)) :
    (bestSection best).flatMap Script.Step.bytes =
      Text.ended (best.map (·.2.line) ++ [""]) := by
  unfold bestSection
  rw [List.flatMap_append, flatMap_bytes_map_writeLine, Text.ended_append,
    List.flatMap_singleton, bytes_writeLine]

theorem flatMap_bytes_comparisonSection (comparisons : List Comparison) :
    (comparisonSection comparisons).flatMap Script.Step.bytes =
      Text.ended (comparisons.map Comparison.text ++ [""]) := by
  unfold comparisonSection
  rw [List.flatMap_append, flatMap_bytes_map_writeLine, Text.ended_append,
    List.flatMap_singleton, bytes_writeLine]

end Report

namespace Registry

/-- The lines behind the first section of the text report, as far as it goes. -/
def comparisonLines (compared : Progress (List Comparison)) : List String :=
  match compared.outcome with
  | .error _ => []
  | .ok comparisons =>
    comparisons.map Comparison.text ++ [""] ++
      match compared.registry.delta with
      | .error _ => []
      | .ok delta => [delta.text]

/-- The lines of the text report of a registry, as far as it goes. -/
def reportLines (r : Registry) : List String :=
  r.toList.map (·.2.line) ++ [""] ++ comparisonLines r.compareAll

theorem flatMap_bytes_comparisonScript (compared : Progress (List Comparison)) :
    (comparisonScript compared).steps.flatMap Script.Step.bytes =
      Text.ended (comparisonLines compared) := by
  unfold comparisonScript comparisonLines
  cases compared.outcome with
  | error fault => rfl
  | ok comparisons =>
    cases compared.registry.delta with
    | error fault =>
      simp only [List.append_nil]
      exact Report.flatMap_bytes_comparisonSection comparisons
    | ok delta =>
      simp only [List.flatMap_append]
      rw [Report.flatMap_bytes_comparisonSection, List.flatMap_singleton,
        Report.bytes_writeLine, Text.ended_append (_ ++ _)]

/-- The text report is its lines, each with a line feed behind it. -/
theorem bytes_textScript (r : Registry) :
    (r.textScript.run none).bytes = Text.ended r.reportLines := by
  have silent : (r.compareAll.events.map Script.Step.log).flatMap Script.Step.bytes = [] := by
    rw [List.flatMap_map, List.flatMap_eq_nil_iff]
    exact fun _ _ => rfl
  rw [Script.run_none]
  unfold textScript Script.after reportLines
  simp only [List.flatMap_append]
  rw [silent, List.nil_append, Report.flatMap_bytes_bestSection,
    flatMap_bytes_comparisonScript, Text.ended_append (_ ++ _)]

theorem outcome_textScript (r : Registry) :
    (r.textScript.run none).outcome = (comparisonScript r.compareAll).outcome := by
  rw [Script.run_none]
  rfl

/-- The report and the text report of a registry go through the same failures. -/
theorem outcome_textScript_eq_report (r : Registry) :
    (r.textScript.run none).outcome = r.report.outcome.map fun _ => () := by
  rw [outcome_textScript, outcome_report]
  unfold comparisonScript
  cases r.compareAll.outcome with
  | error fault => rfl
  | ok comparisons =>
    simp only
    cases r.compareAll.registry.delta with
    | error fault => rfl
    | ok delta => rfl

/-- A report that is computed is the one whose lines are written. -/
theorem reportLines_of_report {r : Registry} {report : Report}
    (h : r.report.outcome = .ok report) :
    report.best = r.toList ∧ r.reportLines = report.lines := by
  rw [outcome_report] at h
  unfold reportLines comparisonLines
  cases compared : r.compareAll.outcome with
  | error fault =>
    rw [compared] at h
    cases h
  | ok comparisons =>
    rw [compared] at h
    simp only at h
    cases difference : r.compareAll.registry.delta with
    | error fault =>
      rw [difference] at h
      cases h
    | ok delta =>
      rw [difference] at h
      cases h
      refine ⟨rfl, ?_⟩
      unfold Report.lines
      simp only [List.append_assoc]

/-- Computing a report and writing it agree on every registry: the one succeeds if the
other does, what is written is then the report in text form, with the best times from
before any time was derived; and the one fails with a fault just if the other fails
with it. -/
theorem run_textScript_agrees (r : Registry) :
    ((r.textScript.run none).outcome = .ok () ↔ ∃ report, r.report.outcome = .ok report) ∧
      (∀ report, r.report.outcome = .ok report →
        report.best = r.toList ∧ (r.textScript.run none).bytes = report.rendering) ∧
      ∀ fault, (r.textScript.run none).outcome = .error fault ↔
        r.report.outcome = .error fault := by
  have ends := r.outcome_textScript_eq_report
  refine ⟨?_, ?_, ?_⟩
  · rw [ends]
    cases r.report.outcome with
    | error fault => simp [Except.map]
    | ok report => simp [Except.map]
  · intro report computed
    obtain ⟨best, written⟩ := reportLines_of_report computed
    refine ⟨best, ?_⟩
    rw [bytes_textScript, written]
    rfl
  · intro fault
    rw [ends]
    cases r.report.outcome with
    | error other => simp [Except.map]
    | ok report => simp [Except.map]

end Registry

end BestTimes
