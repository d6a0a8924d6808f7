import BestTimes.Reading
import BestTimes.Text.Runs
set_option autoImplicit false

/-!
# Paths in a directory

The files of a run are named by paths that start from a directory.  A path is a list
of names with slashes between them, and each name leads on from where those before it
have led: `.` stays, `..` goes up, and any other one is looked up.  Only directories
lead on, so that behind a file there is no further name, not even an empty one.

The directory holds files, and directories without content; nothing is known of what
is above it.
-/

namespace BestTimes

/-- A directory: the names in it, and what they lead to. -/
structure Directory where
  entries : List (String × Source)

namespace Directory

/-- The most bytes of a name. -/
def maxNameSize : Nat := 255

/-- The most bytes of a path. -/
def maxPathSize : Nat := 4095

/-- Where the names of a path have led. -/
inductive Place where
  /-- To the directory that the path starts from. -/
  | here
  /-- To a directory in it. -/
  | below
  /-- To a directory above it. -/
  | above
  /-- To a file. -/
  | file (content : Source)
  deriving DecidableEq, Repr

/-- What is at a place. -/
def Place.source : Place → Source
  | .file content => content
  | .here | .below | .above => .unreadable .isDirectory

/-- Where a name in the directory leads. -/
def find (d : Directory) (name : String) : Except IoFailure Place :=
  match d.entries.lookup name with
  | none => .error .notFound
  | some (.closed failure) => .error failure
  | some (.unreadable .isDirectory _) => .ok .below
  | some content => .ok (.file content)

/-- Where a name leads from a place. -/
def follow (d : Directory) (place : Place) (name : String) : Except IoFailure Place :=
  match place with
  | .file _ => .error .notADirectory
  | place =>
    if maxNameSize < name.utf8ByteSize then .error .nameTooLong
    else if name = "." then .ok place
    else if name = ".." then .ok (if place = .below then .here else .above)
    else if place = .here then d.find name
    else .error .notFound

/-- Where a path leads. -/
def place (d : Directory) (path : String) : Except IoFailure Place := do
  if path.toList.contains '\x00' then throw .nulInName
  if path.isEmpty then throw .notFound
  if maxPathSize < path.utf8ByteSize then throw .nameTooLong
  let names := (Text.runs (· == '/') path.toList).map String.ofList
  let start := if path.toList.head? = some '/' then Place.above else .here
  match ← names.foldlM d.follow start with
  | .file content =>
    if path.toList.getLast? = some '/' then throw .notADirectory else pure (.file content)
  | place => pure place

/-- What a path leads to. -/
def lookUp (d : Directory) (path : String) : Source :=
  match d.place path with
  | .ok place => place.source
  | .error failure => .closed failure

end Directory

end BestTimes
