import BestTimes.Decimal.Integer
import BestTimes.Decimal.Significant
import BestTimes.Progress
set_option autoImplicit false

/-!
# Comparing best times

The report compares fixed pairs of benchmarks.  Two of the times it compares are
not measured: the time of a benchmark with work added is that of the benchmark that
does system calls, plus a constant (`Registry.derive`).  They are derived first, and
every time anew, so that comparing again gives the same result.

* `Registry.compare` is the comparison of one pair, `Registry.compareAll` that of
  all pairs, `Registry.delta` the difference of the two plain benchmarks.
* A pair fails if either name is missing, the numerator first, or if the
  denominator's time is zero; a sum or difference out of range ends the work.
-/

namespace BestTimes

/-- The time in nanoseconds that the modelled work takes. -/
def workNanos : Nanos := ⟨2560000, by decide, by decide⟩

/-- The derived benchmarks, each with the measured one it is derived from. -/
def derivations : List (String × String) :=
  [("manual+work", "manual+syscalls"), ("nonbox+work", "nonbox+syscalls")]

/-- The pairs that are compared, numerator first. -/
def comparedPairs : List (String × String) :=
  [("manual", "nonbox"),
   ("manual+syscalls", "nonbox+syscalls"),
   ("nonbox+syscalls", "manual+syscalls"),
   ("nonbox+syscalls", "box+syscalls"),
   ("box+rc+syscalls", "box+arc+syscalls"),
   ("manual+work", "nonbox+work")]

/-- The number of parts into which the difference is divided. -/
def deltaParts : Nat := 256

/-- The comparison of two benchmarks by name. -/
structure Comparison where
  numerator : String
  denominator : String
  /-- The time of the numerator over that of the denominator. -/
  ratio : Binary64
  /-- How many percent more time the numerator takes; less if negative. -/
  percent : Binary64
  deriving DecidableEq, Repr

/-- The difference between the two plain benchmarks. -/
structure Delta where
  nanos : Nanos
  /-- The share of one of `deltaParts` parts. -/
  share : Nanos
  deriving DecidableEq, Repr

namespace Comparison

/-- The quotient of two times.  Both are scaled to microseconds if neither is
below one microsecond. -/
def quotient (a b : Nanos) : Binary64 :=
  let x := a.toBinary64
  let y := b.toBinary64
  if Binary64.le 1000 x && Binary64.le 1000 y then (x / 1000) / (y / 1000) else x / y

/-- A ratio as a change in percent. -/
def change (ratio : Binary64) : Binary64 :=
  if ratio.lt 1 then -((1 - ratio) * 100) else (ratio - 1) * 100

/-- The comparison of two times. -/
def ofNanos (numerator denominator : String) (a b : Nanos) : Comparison :=
  ⟨numerator, denominator, quotient a b, change (quotient a b)⟩

/-- The number of significant digits of a printed ratio or percentage. -/
def printedDigits : Nat := 4

/-- A comparison as a line of the report. -/
def text (c : Comparison) : String :=
  c.numerator ++ " / " ++ c.denominator ++ " = " ++ Decimal.significant printedDigits c.ratio ++
    " (" ++ Decimal.significant printedDigits c.percent ++ "%)"

end Comparison

namespace Delta

/-- The difference as a line of the report. -/
def text (d : Delta) : String :=
  "nonbox - manual = " ++ Decimal.integerText d.nanos.toInt ++ "ns, /" ++
    Decimal.naturalText deltaParts ++ " = " ++ Decimal.integerText d.share.toInt ++ "ns"

end Delta

namespace Registry

/-- Sets the derived times of a table, in its order, each with the line of its
base. -/
def derive (r : Registry) : List (String × String) → Progress Unit
  | [] => .done r ()
  | (name, base) :: rest =>
    match r.require base with
    | .error cause => .stop r (.error cause)
    | .ok best =>
      match best.nanos.add? workNanos with
      | none => .stop r (.overflow .addition)
      | some nanos =>
        ((r.insertDerived name ⟨nanos, best.line⟩).derive rest).after [.derived name nanos base]

/-- The comparison of two benchmarks. -/
def compare (r : Registry) (numerator denominator : String) : Except Error Comparison :=
  match r.require numerator, r.require denominator with
  | .error cause, _ => .error cause
  | .ok _, .error cause => .error cause
  | .ok a, .ok b =>
    if b.nanos.toInt = 0 then .error (.zeroBaseline denominator)
    else .ok (.ofNanos numerator denominator a.nanos b.nanos)

/-- The comparisons of a list of pairs, up to the first that fails. -/
def comparePairs (r : Registry) (pairs : List (String × String)) : Except Error (List Comparison) :=
  pairs.mapM fun pair => r.compare pair.1 pair.2

/-- All comparisons of the report, after the derived times are set. -/
def compareAll (r : Registry) : Progress (List Comparison) :=
  (r.derive derivations).andThen fun registry _ =>
    ⟨registry, [], (registry.comparePairs comparedPairs).mapError .error⟩

/-- The difference of the two plain benchmarks. -/
def delta (r : Registry) : Except Fault Delta :=
  match r.require "nonbox", r.require "manual" with
  | .error cause, _ => .error (.error cause)
  | .ok _, .error cause => .error (.error cause)
  | .ok nonbox, .ok manual =>
    match nonbox.nanos.sub? manual.nanos with
    | none => .error (.overflow .subtraction)
    | some nanos => .ok ⟨nanos, nanos.share deltaParts⟩

end Registry

end BestTimes
