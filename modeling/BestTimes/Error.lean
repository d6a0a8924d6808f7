import BestTimes.Decimal.Integer
set_option autoImplicit false

/-!
# What can go wrong

* `IoFailure` is a failed access to the outside: a path, a stream, a writer.
* `Error` is a cause the library reports.  `Error.message` is its text and
  `Error.source?` the text of the failure behind it, if there is one.
* `Fault` is how a computation ends without a result: an `Error`, or arithmetic that
  leaves the range of its numbers.  The latter is no error of the input and has no
  cause to report, so it is kept apart.
-/

namespace BestTimes

/-- A failed access to the outside. -/
inductive IoFailure where
  /-- A path names nothing. -/
  | notFound
  /-- A directory is read as if it were a file. -/
  | isDirectory
  /-- A path leads on from a file as if it were a directory. -/
  | notADirectory
  /-- A path, or a name in it, has more bytes than one can have. -/
  | nameTooLong
  /-- A path holds the null character, which none can. -/
  | nulInName
  /-- A line that is read is not UTF-8. -/
  | notUtf8
  /-- A writer takes no more bytes. -/
  | writerFull
  /-- Any other failure, with the system's text. -/
  | other (text : String)
  deriving DecidableEq, Repr

namespace IoFailure

/-- The text of a failed access. -/
def message : IoFailure → String
  | .notFound => "No such file or directory (os error 2)"
  | .isDirectory => "Is a directory (os error 21)"
  | .notADirectory => "Not a directory (os error 20)"
  | .nameTooLong => "File name too long (os error 36)"
  | .nulInName => "file name contained an unexpected NUL byte"
  | .notUtf8 => "stream did not contain valid UTF-8"
  | .writerFull => "failed to write whole buffer"
  | .other text => text

end IoFailure

/-- What is wrong with a line that looks like a measurement. -/
inductive Defect where
  /-- There are not as many fields as a measurement has. -/
  | tooFewFields (found : Nat)
  /-- The field of the time is no numeral. -/
  | invalidTime (field : String)
  /-- The numeral of the time is not finite. -/
  | nonFiniteTime (field : String)
  deriving DecidableEq, Repr

namespace Defect

/-- The text of a defect. -/
def message : Defect → String
  | .tooFewFields found => "expected at least 6 fields, found " ++ Decimal.naturalText found
  | .invalidTime field => "invalid time value: " ++ field
  | .nonFiniteTime field => "time value is not finite: " ++ field

end Defect

/-- A cause that the library reports. -/
inductive Error where
  /-- A time has a unit that is none of the accepted ones. -/
  | unsupportedUnit (unit : String)
  /-- The report needs a benchmark that has no best time. -/
  | missingBenchmark (name : String)
  /-- A line holds the marker of a measurement and is none; lines count from one. -/
  | malformedLine (number : Nat) (defect : Defect)
  /-- A benchmark whose best time is zero is compared against. -/
  | zeroBaseline (name : String)
  /-- An input file cannot be opened.  The path is the text that is shown for it; a path
  that is no Unicode has characters replaced in it. -/
  | unopenedFile (path : String) (failure : IoFailure)
  /-- Input cannot be read, or the report cannot be written. -/
  | io (failure : IoFailure)
  /-- The JSON document cannot be written. -/
  | json (failure : IoFailure)
  deriving DecidableEq, Repr

namespace Error

/-- The text of an error. -/
def message : Error → String
  | .unsupportedUnit unit => "Unsupported unit: " ++ unit
  | .missingBenchmark name => "Missing benchmark: " ++ name
  | .malformedLine number defect =>
    "Malformed measurement on line " ++ Decimal.naturalText number ++ ": " ++ defect.message
  | .zeroBaseline name => "Cannot compare against " ++ name ++ ": its best time is 0ns"
  | .unopenedFile path _ => "Failed to read file: " ++ path
  | .io failure => "IO error: " ++ failure.message
  | .json failure => "JSON serialization error: " ++ failure.message

/-- The failure behind an error. -/
def source? : Error → Option IoFailure
  | .unopenedFile _ failure => some failure
  | .io failure => some failure
  | .json failure => some failure
  | _ => none

end Error

/-- Arithmetic that leaves the range of its numbers. -/
inductive Overflow where
  | addition
  | subtraction
  /-- More decimal places than can be written. -/
  | precision
  deriving DecidableEq, Repr

namespace Overflow

/-- The text of an overflow. -/
def message : Overflow → String
  | .addition => "attempt to add with overflow"
  | .subtraction => "attempt to subtract with overflow"
  | .precision => "Formatting argument out of range"

end Overflow

/-- How a computation ends that has no result. -/
inductive Fault where
  | error (cause : Error)
  | overflow (kind : Overflow)
  deriving DecidableEq, Repr

end BestTimes
