import BestTimes.CommandLine.Filter
import BestTimes.CommandLine.Perform
set_option autoImplicit false

/-!
# A run of the program

`run` is a run whose log reads filters as `Filter` does.  A filter that would be cut
inside a character ends the run before anything is read.
-/

namespace BestTimes.CommandLine

/-- The library behind the log, with filters as `Filter` reads them. -/
def Filter.logger : Logger where
  read text :=
    match ofString text with
    | .ok filter => .filter filter.shows
    | .error .malformed => .malformed
    | .error .insideCharacter => .ended
  upTo level := (upTo level).shows

/-- A run of the program. -/
def run (arguments : List String) (s : Surroundings) : Exit := Filter.logger.run arguments s

end BestTimes.CommandLine
