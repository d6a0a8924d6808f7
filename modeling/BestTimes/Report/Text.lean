import BestTimes.Report.Basic
import BestTimes.Script
set_option autoImplicit false

/-!
# The report as text

The text report has three sections with an empty line between them: the line of
every best time, the comparisons, and the difference.  It is written as it is
computed.  The first section is complete before anything is compared, so that it
can be seen when a benchmark turns out to be missing.
-/

namespace BestTimes

namespace Report

/-- Writes a line of the text report. -/
def writeLine (text : String) : Script.Step := .write (text ++ "\n") (.io .writerFull)

/-- The section of the best times, and the empty line behind it. -/
def bestSection (best : List (String × Timing)) : List Script.Step :=
  best.map (fun entry => writeLine entry.2.line) ++ [writeLine ""]

/-- The section of the comparisons, and the empty line behind it. -/
def comparisonSection (comparisons : List Comparison) : List Script.Step :=
  comparisons.map (fun c => writeLine c.text) ++ [writeLine ""]

end Report

namespace Registry

/-- How the text report goes on after its first section. -/
def comparisonScript (compared : Progress (List Comparison)) : Script :=
  match compared.outcome with
  | .error fault => ⟨[], .error fault⟩
  | .ok comparisons =>
    match compared.registry.delta with
    | .error fault => ⟨Report.comparisonSection comparisons, .error fault⟩
    | .ok delta => ⟨Report.comparisonSection comparisons ++ [Report.writeLine delta.text], .ok ()⟩

/-- Writes the text report of a registry. -/
def textScript (r : Registry) : Script :=
  ((comparisonScript r.compareAll).after (r.compareAll.events.map .log)).after
    (Report.bestSection r.toList)

end Registry

end BestTimes
