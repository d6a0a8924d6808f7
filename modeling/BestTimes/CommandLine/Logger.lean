import BestTimes.Event
set_option autoImplicit false

/-!
# Which events a run shows

The library behind the log decides which events are shown: by the text of a filter, or
without one up to a level.  How a filter is written is that library's affair; for a run
the text comes to a filter, to an error, or to the end of the run.  So the library is a
parameter of a run, given by what it makes of each text.
-/

namespace BestTimes.CommandLine

/-- What the library behind the log makes of the text of a filter. -/
inductive FilterReading where
  /-- A filter, which shows these events. -/
  | filter (shows : Event → Bool)
  /-- An error: the text is none of a filter. -/
  | malformed
  /-- No result, since the library ends the run. -/
  | ended

/-- The library behind the log, as far as a run depends on it. -/
structure Logger where
  /-- What it makes of the text of a filter. -/
  read : String → FilterReading
  /-- Whether it shows an event up to a level. -/
  upTo : Level → Event → Bool

namespace Logger

/-- The events that are shown with the text of a filter, if there is one, and up to a
level without it.  A malformed text counts as none. -/
def shown? (l : Logger) (text : Option String) (level : Level) : Option (Event → Bool) :=
  match text.map l.read with
  | some (.filter shows) => some shows
  | some .ended => none
  | some .malformed | none => some (l.upTo level)

end Logger

end BestTimes.CommandLine
