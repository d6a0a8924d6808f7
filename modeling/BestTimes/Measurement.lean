import BestTimes.Decimal.Numeral
import BestTimes.Text.Blank
import BestTimes.TimeUnit
set_option autoImplicit false

/-!
# Measurements

A line of benchmark output is a measurement if it holds the marker `time:`:

    manual                  time:   [1.2345 µs 1.2456 µs 1.2567 µs]

Its fields are the name, the marker, and three estimates of a numeral and a unit
each, low, middle and high; the middle estimate counts.  Every other line is noise
and is passed over.

`Measurement.ofLine?` reads one line.  Of several defects it reports the first:
too few fields, a time that is no numeral, a time that is not finite, a unit that
is not accepted.
-/

namespace BestTimes

/-- A time, and the line of output that it was read from, without blanks at its
ends. -/
structure Timing where
  nanos : Nanos
  line : String
  deriving DecidableEq, Repr, Inhabited

/-- The time of one run of a benchmark. -/
structure Measurement where
  name : String
  timing : Timing
  deriving DecidableEq, Repr, Inhabited

namespace Measurement

/-- The text that marks a line as a measurement. -/
def marker : String := "time:"

/-- Reads the fields of a measurement: the name, the middle estimate and its
unit. -/
def ofFields (number : Nat) (line : String) : List String → Except Error Measurement
  | name :: _ :: _ :: _ :: value :: unit :: _ =>
    match Numeral.ofChars? value.toList with
    | none => .error (.malformedLine number (.invalidTime value))
    | some numeral =>
      if numeral.toBinary64.isFinite then
        (TimeUnit.ofString unit).map fun unit => ⟨name, unit.toNanos numeral.toBinary64, line⟩
      else .error (.malformedLine number (.nonFiniteTime value))
  | fields => .error (.malformedLine number (.tooFewFields fields.length))

/-- The measurement in the line with the given number, if it is one. -/
def ofLine? (line : String) (number : Nat) : Except Error (Option Measurement) :=
  if Text.holds marker.toList line.toList then
    let fields := (Text.fields line.toList).map String.ofList
    (ofFields number (String.ofList (Text.trim line.toList)) fields).map some
  else .ok none

end Measurement

end BestTimes
