import BestTimes.CommandLine.Arguments
import BestTimes.CommandLine.Logger
import BestTimes.Reading
import BestTimes.Report.Json
import BestTimes.Report.Text
import BestTimes.Text.Quoted
set_option autoImplicit false

/-!
# What a run does

A run reads its arguments, the input and a log filter, and ends with an exit code,
what it printed, a complaint, and the events the log shows.  The log starts first.

* Code 0: the run succeeded.
* Code 1: an error ended it; the complaint says what failed, and why.
* Code 2: the arguments ask for nothing that can be done.
* Code 101: arithmetic left the range of its numbers, or the log did not start.

What was printed before a fault stays printed.  Standard output takes any number of
bytes.
-/

namespace BestTimes.CommandLine

/-- What a run reads beside its arguments. -/
structure Surroundings where
  /-- The content of standard input. -/
  stdin : List UInt8
  /-- What a path leads to. -/
  lookUp : String → Source
  /-- The text of the log filter, if one is set. -/
  logFilter : Option String

/-- How a run ended. -/
structure Exit where
  code : Nat
  stdout : List UInt8
  /-- The text that says why the run failed, in pieces that end a line each. -/
  complaint : List String
  /-- The events the log shows. -/
  log : List Event

/-- The first lines of the events that the log shows. -/
def Exit.logLines (e : Exit) : List String := e.log.filterMap fun event => event.lines.head?

/-- The lines on standard error beside those: the further lines of events, and then
the complaint. -/
def Exit.errorLines (e : Exit) : List String :=
  (e.log.flatMap fun event => event.lines.drop 1) ++
    e.complaint.flatMap fun piece => Text.linesOf (piece ++ "\n")

/-- A text of several lines with `first` in front of the first line and `further` in
front of every other one. -/
def indented (first further : String) (text : String) : List String :=
  match text.splitOn "\n" with
  | [] => [first]
  | line :: rest => (first ++ line) :: rest.map (further ++ ·)

/-- The complaint about an error in some activity: the activity, and the error with
the failure behind it.  Two causes are numbered. -/
def complaintAbout (activity : String) (cause : Error) : List String :=
  ["Error: " ++ activity, "", "Caused by:"] ++
    match cause.source? with
    | none => indented "    " "    " cause.message
    | some failure =>
      indented "    0: " "       " cause.message ++ indented "    1: " "       " failure.message

/-- The end of a run by a fault in some activity, after it printed something. -/
def Exit.ofFault (activity : String) (stdout : List UInt8) (log : List Event) : Fault → Exit
  | .error cause => ⟨1, stdout, complaintAbout activity cause, log⟩
  | .overflow _ => ⟨101, stdout, [], log⟩

/-- The end of a run that wrote a report. -/
def Exit.ofWritten (log : List Event) (written : Written) : Exit :=
  match written.outcome with
  | .ok () => ⟨0, written.bytes, [], log ++ written.events⟩
  | .error fault =>
    .ofFault "Failed to write report" written.bytes (log ++ written.events) fault

/-- The report of the registry that was read, after the events of the reading. -/
def Invocation.report (i : Invocation) (log : List Event) (registry : Registry) : Exit :=
  if i.json then
    match registry.report.outcome with
    | .error fault => .ofFault "Failed to build report" [] (log ++ registry.report.events) fault
    | .ok report => .ofWritten (log ++ registry.report.events) (report.jsonScript.run none)
  else .ofWritten log (registry.textScript.run none)

/-- What is done to read the input, as a complaint names it. -/
def Invocation.reading (i : Invocation) : String :=
  "Failed to parse benchmark output from " ++
    if i.files.isEmpty then "stdin" else Text.quotedList i.files

/-- Reads the input of a run. -/
def Invocation.read (i : Invocation) (s : Surroundings) : Progress Unit :=
  if i.files.isEmpty then (Registry.ofStdin s.stdin).after [.readingStdin]
  else Registry.ofSources (i.files.map fun path => (path, s.lookUp path))

/-- A run with accepted arguments, with all events in its log. -/
def Invocation.perform (i : Invocation) (s : Surroundings) : Exit :=
  let input := i.read s
  match input.outcome with
  | .error fault => .ofFault i.reading [] input.events fault
  | .ok () => i.report (input.events ++ [.collected input.registry.size]) input.registry

/-- The level of the log without a filter: warnings alone, or up to debug events for a
verbose run. -/
def Invocation.level (i : Invocation) : Level := if i.verbose then .debug else .warn

/-- A run of the program, whose log has this library behind it. -/
def Logger.run (l : Logger) (arguments : List String) (s : Surroundings) : Exit :=
  match Request.ofArguments arguments with
  | .error usage => ⟨2, [], [usage.message], []⟩
  | .ok .help => ⟨0, Text.encode helpText, [], []⟩
  | .ok .version => ⟨0, Text.encode versionText, [], []⟩
  | .ok (.run i) =>
    match l.shown? s.logFilter i.level with
    | none => ⟨101, [], [], []⟩
    | some shows =>
      let exit := i.perform s
      { exit with log := exit.log.filter shows }

end BestTimes.CommandLine
