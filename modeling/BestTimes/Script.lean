import BestTimes.Error
import BestTimes.Event
import BestTimes.Text.Lines
set_option autoImplicit false

/-!
# Writing

What a report does to its writer is a *script*: texts to write and events to log,
in order, and how it ends if every text could be written.  A writer may be full: it
takes a number of bytes and refuses the rest.  The text it refuses fills it up, and
the script ends there with the error it states for that text.

So a full writer holds a beginning of what an unbounded one would hold, and the
events are those up to the point of failure.
-/

namespace BestTimes

/-- One action of a script. -/
inductive Script.Step where
  /-- Writes a text; `onFull` is the error if the writer does not take all of it. -/
  | write (text : String) (onFull : Error)
  /-- Logs an event. -/
  | log (event : Event)
  deriving DecidableEq, Repr

/-- Actions in order, and how they end. -/
structure Script where
  steps : List Script.Step
  outcome : Except Fault Unit

/-- What running a script leaves behind. -/
structure Written where
  bytes : List UInt8
  events : List Event
  outcome : Except Fault Unit

namespace Script

/-- Runs steps on a writer that takes `room` more bytes, any number if there is no
bound. -/
def runSteps (outcome : Except Fault Unit) : Option Nat → List Step → Written
  | _, [] => ⟨[], [], outcome⟩
  | room, .log event :: rest =>
    let after := runSteps outcome room rest
    ⟨after.bytes, event :: after.events, after.outcome⟩
  | none, .write text _ :: rest =>
    let after := runSteps outcome none rest
    ⟨Text.encode text ++ after.bytes, after.events, after.outcome⟩
  | some room, .write text onFull :: rest =>
    let bytes := Text.encode text
    if bytes.length ≤ room then
      let after := runSteps outcome (some (room - bytes.length)) rest
      ⟨bytes ++ after.bytes, after.events, after.outcome⟩
    else ⟨bytes.take room, [], .error (.error onFull)⟩

/-- Runs a script on a writer with room for a number of bytes, or without bound. -/
def run (s : Script) (room : Option Nat) : Written := runSteps s.outcome room s.steps

/-- The bytes a script writes if the writer takes all of them. -/
def bytes (s : Script) : List UInt8 := (s.run none).bytes

/-- A script that begins with other steps. -/
def after (steps : List Step) (s : Script) : Script := ⟨steps ++ s.steps, s.outcome⟩

end Script

end BestTimes
