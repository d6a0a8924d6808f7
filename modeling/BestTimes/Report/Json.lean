import BestTimes.Json
import BestTimes.Report.Basic
import BestTimes.Script
set_option autoImplicit false

/-!
# The report as JSON

The JSON report is one object with the fields `best`, `comparisons` and `delta`, and
a line feed behind it.  It is written only when the whole report has been computed.
-/

namespace BestTimes.Report

/-- A best time as JSON. -/
def bestJson (entry : String × Timing) : Json :=
  .object [("name", .string entry.1), ("nanos", .integer entry.2.nanos.toInt),
    ("line", .string entry.2.line)]

/-- A comparison as JSON. -/
def comparisonJson (c : Comparison) : Json :=
  .object [("a", .string c.numerator), ("b", .string c.denominator), ("ratio", .number c.ratio),
    ("percent", .number c.percent)]

/-- The difference as JSON. -/
def deltaJson (d : Delta) : Json :=
  .object [("nanos", .integer d.nanos.toInt), ("per_256", .integer d.share.toInt)]

/-- A report as JSON. -/
def toJson (report : Report) : Json :=
  .object [("best", .array (report.best.map bestJson)),
    ("comparisons", .array (report.comparisons.map comparisonJson)),
    ("delta", deltaJson report.delta)]

/-- Writes a report as JSON. -/
def jsonScript (report : Report) : Script :=
  ⟨[.write report.toJson.document (.json .writerFull), .write "\n" (.io .writerFull)], .ok ()⟩

end BestTimes.Report
