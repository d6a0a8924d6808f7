import BestTimes.Progress
import BestTimes.Text.Lines
set_option autoImplicit false

/-!
# Reading benchmark output

Input is read line by line into a registry.  Lines are numbered from one through
all sources that are read in turn, so that an error names the line in the whole
stream.  A line that fails ends the reading; the lines before it stay recorded.

Three things can be wrong with a line, and the first one counts: it is not UTF-8,
its number does not fit 64 bits, or it is a malformed measurement.

A file can also fail while it is read.  The lines that end in front of the failure are
read by then, and count first; the line that the failure falls into is lost.
-/

namespace BestTimes

/-- What a path of an input file leads to. -/
inductive Source where
  /-- The path cannot be opened. -/
  | closed (failure : IoFailure)
  /-- The path can be opened, but reading it fails behind these bytes.  Of a directory
  nothing can be read. -/
  | unreadable (failure : IoFailure) (bytes : List UInt8 := [])
  /-- A file with this content. -/
  | content (bytes : List UInt8)
  deriving DecidableEq, Repr

/-- The least line number that does not fit 64 bits. -/
def lineLimit : Nat := 18446744073709551616

/-- The measurement in a line that `before` lines precede, if it is one. -/
def Measurement.ofBytes? (before : Nat) (line : List UInt8) :
    Except Fault (Option Measurement) :=
  match Text.decode line with
  | none => .error (.error (.io .notUtf8))
  | some text =>
    if before + 1 < lineLimit then (ofLine? text (before + 1)).mapError .error
    else .error (.overflow .addition)

namespace Registry

/-- Records the measurements of lines that `before` lines precede. -/
def recordLines (r : Registry) (before : Nat) : List (List UInt8) → Progress Unit
  | [] => .done r ()
  | line :: rest =>
    match Measurement.ofBytes? before line with
    | .error fault => .stop r fault
    | .ok none => r.recordLines (before + 1) rest
    | .ok (some m) =>
      ((r.record m).1.recordLines (before + 1) rest).after
        (if (r.record m).2 then [.newBest m.name m.timing.nanos] else [])

/-- Reads bytes that `before` lines precede; the result is their number of lines. -/
def read (r : Registry) (before : Nat) (bytes : List UInt8) : Progress Nat :=
  let lines := Text.lines bytes
  (r.recordLines before lines).andThen fun registry _ => .done registry lines.length

/-- Reads a text into an empty registry. -/
def ofText (text : String) : Progress Nat := empty.read 0 (Text.encode text)

/-- Reads the sources that paths lead to, which `before` lines precede. -/
def readSources (r : Registry) (before : Nat) : List (String × Source) → Progress Unit
  | [] => .done r ()
  | (path, .closed failure) :: _ => .stop r (.error (.unopenedFile path failure))
  | (_, .unreadable failure bytes) :: _ =>
    (r.read before (Text.endedPart bytes)).andThen fun registry _ =>
      .stop registry (.error (.io failure))
  | (path, .content bytes) :: rest =>
    (r.read before bytes).andThen fun registry count =>
      (registry.readSources (before + count) rest).after [.readFile path (before + count)]

/-- Reads files into an empty registry, as one stream of lines. -/
def ofSources (sources : List (String × Source)) : Progress Unit :=
  (empty.readSources 0 sources).andThen fun registry _ =>
    (Progress.done registry ()).after [.foundBenchmarks registry.size]

/-- Reads standard input into an empty registry. -/
def ofStdin (bytes : List UInt8) : Progress Unit :=
  (empty.read 0 bytes).andThen fun registry count =>
    (Progress.done registry ()).after [.readStdin count registry.size]

end Registry

end BestTimes
