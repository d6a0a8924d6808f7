import BestTimes.Report.Json
import BestTimes.Proofs.Report.Text
set_option autoImplicit false

/-!
# Reports to a full writer

A writer that has room for some bytes and refuses the rest never changes what is
written before: it holds the first bytes of the report, and if these are not all, the
report fails (`reports_truncated`).

* Every text of the text report fails with the same error, so that error ends the
  report whenever there is too little room, also if the comparisons would have failed
  later on.
* The JSON report is its document and a line feed (`bytes_jsonScript`), which fail with
  errors of their own.
-/

namespace BestTimes

namespace Report

theorem failsWith_writeLine (line : String) :
    (writeLine line).FailsWith (.io .writerFull) := rfl

theorem failsWith_bestSection (best : List (String × Timing)) :
    ∀ step ∈ bestSection best, step.FailsWith (.io .writerFull) := by
  unfold bestSection
  rw [List.forall_mem_append, List.forall_mem_map, List.forall_mem_singleton]
  exact ⟨fun _ _ => failsWith_writeLine _, failsWith_writeLine _⟩

theorem failsWith_comparisonSection (comparisons : List Comparison) :
    ∀ step ∈ comparisonSection comparisons, step.FailsWith (.io .writerFull) := by
  unfold comparisonSection
  rw [List.forall_mem_append, List.forall_mem_map, List.forall_mem_singleton]
  exact ⟨fun _ _ => failsWith_writeLine _, failsWith_writeLine _⟩

/-- The JSON report is its document, with a line feed behind it. -/
theorem bytes_jsonScript (report : Report) :
    (report.jsonScript.run none).bytes = Text.encode report.toJson.document ++ [10] := by
  have feed : Text.encode "\n" = [10] := by decide +kernel
  rw [Script.run_none]
  unfold jsonScript
  simp only [List.flatMap_cons, List.flatMap_nil, Script.Step.bytes, feed, List.append_nil]

theorem outcome_jsonScript (report : Report) : (report.jsonScript.run none).outcome = .ok () := by
  rw [Script.run_none]
  rfl

/-- What fails if there is no room for a JSON report: the line feed if the document just
fits, and otherwise the document. -/
theorem outcome_jsonScript_some (report : Report) (room : Nat) :
    (report.jsonScript.run (some room)).outcome =
      if (report.jsonScript.run none).bytes.length ≤ room then .ok ()
      else if (report.jsonScript.run none).bytes.length = room + 1 then
        .error (.error (.io .writerFull))
      else .error (.error (.json .writerFull)) := by
  have feed : (Text.encode "\n").length = 1 := by decide +kernel
  have document : ∀ step ∈ [Script.Step.write report.toJson.document (.json .writerFull)],
      step.FailsWith (.json .writerFull) := List.forall_mem_singleton.2 rfl
  have final : ∀ step ∈ [Script.Step.write "\n" (.io .writerFull)],
      step.FailsWith (.io .writerFull) := List.forall_mem_singleton.2 rfl
  have stages := Script.outcome_runSteps_append (.ok ()) room
    [.write report.toJson.document (.json .writerFull)] [.write "\n" (.io .writerFull)]
  rw [Script.outcome_runSteps_some document, Script.outcome_runSteps_some final,
    List.flatMap_singleton, List.flatMap_singleton, Script.Step.bytes, Script.Step.bytes,
    feed] at stages
  rw [bytes_jsonScript, List.length_append, List.length_singleton]
  refine stages.trans ?_
  by_cases fits : (Text.encode report.toJson.document).length ≤ room
  · rw [if_pos fits]
    by_cases whole : 1 ≤ room - (Text.encode report.toJson.document).length
    · rw [if_pos whole, if_pos (by omega)]
    · rw [if_neg whole, if_neg (by omega), if_pos (by omega)]
  · rw [if_neg fits, if_neg fits, if_neg (by omega), if_neg (by omega)]

end Report

namespace Registry

theorem failsWith_comparisonScript (compared : Progress (List Comparison)) :
    ∀ step ∈ (comparisonScript compared).steps, step.FailsWith (.io .writerFull) := by
  unfold comparisonScript
  cases compared.outcome with
  | error fault => exact fun _ m => (List.not_mem_nil m).elim
  | ok comparisons =>
    cases compared.registry.delta with
    | error fault => exact Report.failsWith_comparisonSection comparisons
    | ok delta =>
      rw [List.forall_mem_append, List.forall_mem_singleton]
      exact ⟨Report.failsWith_comparisonSection comparisons, Report.failsWith_writeLine _⟩

theorem failsWith_textScript (r : Registry) :
    ∀ step ∈ r.textScript.steps, step.FailsWith (.io .writerFull) := by
  unfold textScript Script.after
  rw [List.forall_mem_append, List.forall_mem_append, List.forall_mem_map]
  exact ⟨Report.failsWith_bestSection r.toList, fun _ _ => trivial,
    failsWith_comparisonScript r.compareAll⟩

/-- Reports on a writer with room for a number of bytes.  It holds the first bytes of
the whole report, as many as there is room for.  If that is all of it, the report ends as
it does on an unbounded writer.  If not, the text report fails with an error of output;
the JSON report fails so if only its last line feed has no room, and otherwise with an
error of its own.  None of this depends on how the texts are cut into writes. -/
theorem reports_truncated (r : Registry) (report : Report) (room : Nat) :
    let text := r.textScript.run none
    let json := report.jsonScript.run none
    ((r.textScript.run (some room)).bytes = text.bytes.take room ∧
      (r.textScript.run (some room)).outcome =
        if text.bytes.length ≤ room then text.outcome else .error (.error (.io .writerFull))) ∧
      ((report.jsonScript.run (some room)).bytes = json.bytes.take room ∧
        (report.jsonScript.run (some room)).outcome =
          if json.bytes.length ≤ room then .ok ()
          else if json.bytes.length = room + 1 then .error (.error (.io .writerFull))
          else .error (.error (.json .writerFull))) ∧
      json.bytes = Text.encode report.toJson.document ++ [10] ∧ json.outcome = .ok () ∧
      (∀ steps, Script.Cut steps r.textScript.steps →
        Script.run ⟨steps, r.textScript.outcome⟩ (some room) = r.textScript.run (some room)) ∧
      ∀ steps, Script.Cut steps report.jsonScript.steps →
        Script.run ⟨steps, .ok ()⟩ (some room) = report.jsonScript.run (some room) := by
  intro text json
  refine ⟨⟨?_, ?_⟩, ⟨?_, ?_⟩, ?_, ?_, fun steps cut => ?_, fun steps cut => ?_⟩
  · exact r.textScript.bytes_run_some room
  · exact Script.outcome_run_some r.failsWith_textScript room
  · exact report.jsonScript.bytes_run_some room
  · exact report.outcome_jsonScript_some room
  · exact report.bytes_jsonScript
  · exact report.outcome_jsonScript
  · exact cut.runSteps_eq _ _
  · exact cut.runSteps_eq _ _

end Registry

end BestTimes
