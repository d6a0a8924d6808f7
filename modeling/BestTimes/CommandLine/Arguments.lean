import BestTimes.Text.ControlSequence
set_option autoImplicit false

/-!
# Command-line arguments

    bench-compare [OPTIONS] [FILE]...

Arguments are read from left to right.  An argument that starts with two hyphens is
an option by its long name, one that starts with a single hyphen is a group of
options by their letters, and every other one is a file; a lone hyphen is a file
too.  After an argument of just two hyphens all are files.

* An option may be given once.  Options for help and version end the reading where
  they stand.
* An empty file name is no file name.  This is noticed only when the next known
  option or the end is reached, so that an unknown option behind it is reported
  first.
-/

namespace BestTimes.CommandLine

/-! ## Requests -/

/-- What a run is asked to do. -/
structure Invocation where
  /-- Whether the report is printed as JSON. -/
  json : Bool
  /-- Whether the log shows more than warnings. -/
  verbose : Bool
  /-- The files to read; standard input if there are none. -/
  files : List String
  deriving DecidableEq, Repr

/-- What the arguments ask for. -/
inductive Request where
  | help
  | version
  | run (invocation : Invocation)
  deriving DecidableEq, Repr

/-- Arguments that ask for nothing that can be done. -/
inductive UsageError where
  /-- An option that does not exist. -/
  | unexpectedArgument (argument : String)
  /-- An option that was given before. -/
  | repeated (option : String)
  /-- A value for an option that takes none. -/
  | unexpectedValue (option value : String)
  /-- An empty file name. -/
  | missingValue
  deriving DecidableEq, Repr

/-- The text of a usage error.  What a terminal obeys is left out of the arguments in
it. -/
def UsageError.message : UsageError → String
  | .unexpectedArgument argument =>
    "error: unexpected argument '" ++ Text.withoutControls argument ++ "' found"
  | .repeated option => "error: the argument '" ++ option ++ "' cannot be used multiple times"
  | .unexpectedValue option value =>
    "error: unexpected value '" ++ Text.withoutControls value ++ "' for '" ++ option ++
      "' found; no more were expected"
  | .missingValue => "error: a value is required for '[FILE]...' but none was supplied"

/-! ## Options -/

/-- An option. -/
inductive Flag where
  | json
  | verbose
  | help
  | version
  deriving DecidableEq, Repr

namespace Flag

/-- The long name of an option. -/
def long : Flag → String
  | .json => "--json"
  | .verbose => "--verbose"
  | .help => "--help"
  | .version => "--version"

/-- The option with a long name. -/
def ofLong? (name : String) : Option Flag :=
  [json, verbose, help, version].find? (·.long = name)

/-- The option with a letter. -/
def ofLetter? (letter : Char) : Option Flag :=
  if letter = 'v' then some .verbose
  else if letter = 'h' then some .help
  else if letter = 'V' then some .version
  else none

end Flag

/-! ## Reading arguments -/

/-- What has been read of the arguments. -/
structure Scan where
  json : Bool := false
  verbose : Bool := false
  files : List String := []
  /-- Whether an empty file name waits to be reported. -/
  emptyFile : Bool := false

namespace Scan

/-- Where the reading stands after an argument. -/
inductive Next where
  /-- There is more to read. -/
  | more (s : Scan)
  /-- The answer is known, whatever follows. -/
  | answer (result : Except UsageError Request)

/-- The reading ends with an error. -/
def Next.error (e : UsageError) : Next := .answer (.error e)

/-- Reads a known option. -/
def flag (s : Scan) (o : Flag) : Next :=
  if s.emptyFile then .error .missingValue
  else match o with
    | .json => if s.json then .error (.repeated o.long) else .more { s with json := true }
    | .verbose => if s.verbose then .error (.repeated o.long) else .more { s with verbose := true }
    | .help => .answer (.ok .help)
    | .version => .answer (.ok .version)

/-- Reads an option by its long name, from behind the two hyphens. -/
def long (s : Scan) (text : List Char) : Next :=
  let name := "--" ++ String.ofList (text.takeWhile (· != '='))
  match Flag.ofLong? name with
  | none => .error (.unexpectedArgument name)
  | some o =>
    match text.dropWhile (· != '=') with
    | [] => s.flag o
    | _ :: value => .error (.unexpectedValue name (String.ofList value))

/-- Reads a group of options by their letters. -/
def letters (s : Scan) : List Char → Next
  | [] => .more s
  | letter :: rest =>
    match Flag.ofLetter? letter with
    | none => .error (.unexpectedArgument (String.ofList ['-', letter]))
    | some o =>
      match s.flag o with
      | .more s => s.letters rest
      | .answer result => .answer result

/-- Reads a file name. -/
def file (s : Scan) (name : String) : Scan :=
  { s with files := s.files ++ [name], emptyFile := s.emptyFile || name.isEmpty }

/-- Reads one argument, which is not the one of just two hyphens. -/
def argument (s : Scan) (text : String) : Next :=
  match text.toList with
  | '-' :: '-' :: name => s.long name
  | '-' :: letter :: rest => s.letters (letter :: rest)
  | _ => .more (s.file text)

/-- What the arguments read ask for. -/
def finish (s : Scan) : Except UsageError Request :=
  if s.emptyFile then .error .missingValue else .ok (.run ⟨s.json, s.verbose, s.files⟩)

/-- Reads the arguments that are left. -/
def arguments (s : Scan) : List String → Except UsageError Request
  | [] => s.finish
  | text :: rest =>
    if text = "--" then (rest.foldl file s).finish
    else match s.argument text with
      | .more s => s.arguments rest
      | .answer result => result

end Scan

/-- Reads the arguments of a command line. -/
def Request.ofArguments (arguments : List String) : Except UsageError Request :=
  Scan.arguments {} arguments

/-! ## Fixed texts -/

/-- The answer to a request for the version. -/
def versionText : String := "bench-compare 0.1.0\n"

/-- The line that shows the form of a command line. -/
def usageText : String := "Usage: bench-compare [OPTIONS] [FILE]...\n"

/-- What is printed behind a usage error. -/
def usageHint : String := "\n" ++ usageText ++ "\nFor more information, try '--help'.\n"

/-- The answer to a request for help. -/
def helpText : String :=
  "Pick the best time per benchmark from repeated cargo bench runs and compare fixed pairs\n\n" ++
  usageText ++
  "\nArguments:\n" ++
  "  [FILE]...  Files containing cargo bench output, read in order (default: stdin)\n" ++
  "\nOptions:\n" ++
  "      --json     Print the report as JSON\n" ++
  "  -v, --verbose  Enable verbose output\n" ++
  "  -h, --help     Print help\n" ++
  "  -V, --version  Print version\n"

end BestTimes.CommandLine
