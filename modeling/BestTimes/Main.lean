import BestTimes.CommandLine.Run
set_option autoImplicit false

/-!
# The program

Reads the outside world, lets `CommandLine.run` decide what a run does, and prints
what it says.  The report goes to standard output; the log and the complaint go to
standard error, so that they never mix with it.
-/

namespace BestTimes

/-- The failed access that an error of the system tells about. -/
def IoFailure.ofError : IO.Error → IoFailure
  | .noFileOrDirectory .. => .notFound
  | .inappropriateType _ 21 _ => .isDirectory
  | .inappropriateType .. => .notADirectory
  | .invalidArgument .. => .nameTooLong
  | failure => .other (toString failure)

/-- Reads an opened file to its end, or as far as it can be read. -/
def Source.ofHandle (handle : IO.FS.Handle) : IO Source := do
  let mut bytes := ByteArray.empty
  repeat
    let more ←
      try handle.read 65536
      catch failure => return .unreadable (.ofError failure) bytes.data.toList
    if more.isEmpty then break
    bytes := bytes ++ more
  return .content bytes.data.toList

/-- What a path leads to. -/
def Source.ofPath (path : String) : IO Source := do
  try
    Source.ofHandle (← IO.FS.Handle.mk path .read)
  catch failure =>
    match IoFailure.ofError failure with
    | .isDirectory => return .unreadable .isDirectory
    | failure => return .closed failure

/-- The files that a command line names, and what their paths lead to. -/
def openFiles (arguments : List String) : IO (List (String × Source)) :=
  match CommandLine.Request.ofArguments arguments with
  | .ok (.run i) => i.files.mapM fun path => return (path, ← Source.ofPath path)
  | _ => return []

/-- The content of standard input, if a command line asks for it. -/
def readStdin (arguments : List String) : IO (List UInt8) := do
  match CommandLine.Request.ofArguments arguments with
  | .ok (.run i) =>
    if i.files.isEmpty then return (← (← IO.getStdin).readBinToEnd).data.toList else return []
  | _ => return []

/-- Runs the program. -/
def program (arguments : List String) : IO UInt32 := do
  let files ← openFiles arguments
  let exit := CommandLine.run arguments
    { stdin := ← readStdin arguments
      lookUp := fun path => (files.lookup path).getD (.closed .notFound)
      logFilter := ← IO.getEnv "RUST_LOG" }
  for event in exit.log do
    IO.eprintln event.entry
  let stdout ← IO.getStdout
  stdout.write ⟨exit.stdout.toArray⟩
  stdout.flush
  for line in exit.complaint do
    IO.eprintln line
  if exit.code = 2 then
    IO.eprint CommandLine.usageHint
  return exit.code.toUInt32

end BestTimes

/-- Runs the program on the arguments of the command line. -/
def main (arguments : List String) : IO UInt32 := BestTimes.program arguments
