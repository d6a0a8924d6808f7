import BestTimes.Decimal.Integer
import BestTimes.Nanos
import BestTimes.Text.Lines
set_option autoImplicit false

/-!
# Log events

What the library tells about its work, beside its results.  An event has a level,
a target (the part of the program that reports it) and a text.
-/

namespace BestTimes

/-- How important an event is. -/
inductive Level where
  | error
  | warn
  | info
  | debug
  | trace
  deriving DecidableEq, Repr, Inhabited

namespace Level

/-- The name of a level in the log. -/
def name : Level → String
  | .error => "ERROR"
  | .warn => "WARN"
  | .info => "INFO"
  | .debug => "DEBUG"
  | .trace => "TRACE"

/-- The place of a level; more detail is higher. -/
def detail : Level → Nat
  | .error => 1
  | .warn => 2
  | .info => 3
  | .debug => 4
  | .trace => 5

end Level

/-- An event of the log. -/
inductive Event where
  /-- Input is about to be read from standard input. -/
  | readingStdin
  /-- A measurement is the best of its benchmark so far. -/
  | newBest (name : String) (nanos : Nanos)
  /-- A file was read; `lines` counts those of the files before it too. -/
  | readFile (path : String) (lines : Nat)
  /-- All files were read. -/
  | foundBenchmarks (count : Nat)
  /-- Standard input was read. -/
  | readStdin (lines count : Nat)
  /-- All input was read. -/
  | collected (count : Nat)
  /-- A time was derived from that of another benchmark. -/
  | derived (name : String) (nanos : Nanos) (base : String)
  deriving DecidableEq, Repr

namespace Event

/-- The level of an event. -/
def level : Event → Level
  | .readingStdin | .newBest .. | .derived .. => .debug
  | .readFile .. | .foundBenchmarks _ | .readStdin .. | .collected _ => .info

/-- The target of an event. -/
def target : Event → String
  | .readingStdin | .collected _ => "bench_compare"
  | .newBest .. | .readFile .. | .foundBenchmarks _ | .readStdin .. => "bench_compare::parser"
  | .derived .. => "bench_compare::compare"

private def nanosText (nanos : Nanos) : String := Decimal.integerText nanos.toInt ++ "ns"

/-- The text of an event. -/
def message : Event → String
  | .readingStdin => "Reading benchmark output from stdin"
  | .newBest name nanos => "New best for " ++ name ++ ": " ++ nanosText nanos
  | .readFile path lines => "Read " ++ path ++ " (" ++ Decimal.naturalText lines ++ " lines so far)"
  | .foundBenchmarks count => "Found " ++ Decimal.naturalText count ++ " benchmarks"
  | .readStdin lines count =>
    "Read " ++ Decimal.naturalText lines ++ " lines, found " ++ Decimal.naturalText count ++
      " benchmarks"
  | .collected count => "Collected best times for " ++ Decimal.naturalText count ++ " benchmarks"
  | .derived name nanos base => "Derived " ++ name ++ " = " ++ nanosText nanos ++ " from " ++ base

/-- The names of the fields of an event: it has its text, and nothing beside. -/
def fieldNames : List String := ["message"]

/-- A character as it is printed: those that a terminal obeys are written by their
codes. -/
def printedChar (c : Char) : List Char :=
  if c = '\x07' ∨ c = '\x08' ∨ c = '\x0c' ∨ c = '\x1b' ∨ c = '\x7f' then
    let digits := Nat.toDigits 16 c.toNat
    ['\\', 'x'] ++ List.replicate (2 - digits.length) '0' ++ digits
  else if 0x80 ≤ c.toNat ∧ c.toNat ≤ 0x9f then
    ['\\', 'u', '\x7b'] ++ Nat.toDigits 16 c.toNat ++ ['\x7d']
  else [c]

/-- An event as it is printed to the log. -/
def entry (e : Event) : String :=
  e.level.name ++ " " ++ e.target ++ ": " ++ String.ofList (e.message.toList.flatMap printedChar)

/-- The lines of the log that an event takes.  A name or a path may break one. -/
def lines (e : Event) : List String := Text.linesOf e.entry

end Event

end BestTimes
