import BestTimes.CommandLine.Pattern.Class
import BestTimes.Text.Alphanumeric
set_option autoImplicit false

/-!
# Patterns

A pattern is a regular expression over Unicode text.  Only its form matters here:
`isPattern` says whether a text is one.

* Characters, `.`, `^`, `$`, escapes, classes in square brackets and groups in round
  brackets stand one behind the other or as alternatives.  `?`, `*` and `+` repeat
  what is in front of them, and a further `?` belongs to the repetition.  There are no
  counted repetitions and no looking around.
* Flags (`(?i-u)`, or with a colon for a group alone) change what may follow, up to
  the end of the group.  Under `x`, blanks and comments do not count.
* Without `u` a pattern speaks of bytes, and then it must not match a part of a
  character: no dot, no complement, no byte above `7F`.
* No table of Unicode properties is at hand: what needs one is no pattern, namely
  properties, the classes of digits, blanks and word characters, word boundaries, and
  letters in any case, all of them only under `u`.
* Groups, classes, operations on classes, repetitions, alternatives and parts that
  stand one behind the other nest up to `maxNesting` deep.
-/

namespace BestTimes.CommandLine.Pattern

/-- How deep a pattern may nest. -/
def maxNesting : Nat := 250

/-- What has been read of a group, or of a pattern outside of groups. -/
structure Group where
  /-- The flags in force. -/
  flags : Flags := {}
  /-- How deep each of the alternatives in front nests. -/
  alternatives : List Nat := []
  /-- How deep each part of the alternative at hand nests, from the last; nothing for
  flags, which cannot be repeated. -/
  parts : List (Option Nat) := []

namespace Group

/-- A further part, which nests this deep. -/
def push (g : Group) (depth : Nat) : Group := { g with parts := some depth :: g.parts }

/-- How deep the alternative at hand nests. -/
def alternativeDepth (g : Group) : Nat := nesting (g.parts.map (·.getD 0))

/-- How deep nests what has been read. -/
def depth (g : Group) : Nat := nesting (g.alternativeDepth :: g.alternatives)

/-- What is read behind a bar. -/
def behindBar (g : Group) : Group :=
  { g with alternatives := g.alternativeDepth :: g.alternatives, parts := [] }

/-- What is read behind the mark of a repetition, if there is something to repeat. -/
def repeat? (g : Group) : Option Group :=
  match g.parts with
  | some depth :: parts => some { g with parts := some (depth + 1) :: parts }
  | _ => none

end Group

/-- What has been read of a pattern. -/
structure Reading where
  /-- The innermost open group. -/
  group : Group := {}
  /-- The groups around it, from the inside. -/
  outer : List Group := []
  /-- The names of groups. -/
  names : List (List Char) := []

namespace Reading

/-- What is read behind a part that nests this deep. -/
def push (r : Reading) (depth : Nat) : Reading := { r with group := r.group.push depth }

/-- What is read behind an atom, if it may stand there. -/
def pushAtom? (r : Reading) (a : Atom) : Option Reading :=
  if r.group.flags.admits a then some (r.push 0) else none

/-- What is read inside a group with flags of its own. -/
def inside (r : Reading) (flags : Flags) : Reading :=
  { r with group := { flags }, outer := r.group :: r.outer }

/-- What is read behind a group, if one is open. -/
def outside? (r : Reading) : Option Reading :=
  match r.outer with
  | [] => none
  | g :: outer => some { r with group := g.push (r.group.depth + 1), outer }

/-- What is read behind flags that stand alone. -/
def behindFlags (r : Reading) (flags : Flags) : Reading :=
  { r with group := { r.group with flags, parts := none :: r.group.parts } }

/-- Whether a character may stand in the name of a group. -/
def isNameChar (c : Char) : Bool :=
  c == '_' || c == '.' || c == '[' || c == ']' || Text.isAlphanumeric c

/-- Reads the name of a group, and goes inside. -/
def named? (r : Reading) (text : List Char) : Option (Reading × List Char) :=
  let name := text.takeWhile (· != '>')
  match text.dropWhile (· != '>') with
  | [] => none
  | _ :: rest =>
    if (name.head?.any fun c => c == '_' || Text.isAlphabetic c) && name.all isNameChar &&
        !r.names.contains name then
      some ({ r with names := name :: r.names }.inside r.group.flags, rest)
    else none

/-- Reads the beginning of a group, from behind its bracket, or flags. -/
def group? (r : Reading) (text : List Char) : Option (Reading × List Char) :=
  match r.group.flags.skip text with
  | '?' :: '=' :: _ | '?' :: '!' :: _ | '?' :: '<' :: '=' :: _ | '?' :: '<' :: '!' :: _ => none
  | '?' :: 'P' :: '<' :: rest | '?' :: '<' :: rest => r.named? rest
  | '?' :: rest =>
    match r.group.flags.read? [] rest with
    | some (flags, _, ':' :: rest) => some (r.inside flags, rest)
    | some (flags, seen, _ :: rest) =>
      if seen.isEmpty then none else some (r.behindFlags flags, rest)
    | _ => none
  | rest => some (r.inside r.group.flags, rest)

/-- Reads the mark of a repetition from behind its first character. -/
def repeat? (r : Reading) (text : List Char) : Option (Reading × List Char) :=
  r.group.repeat?.map fun group =>
    ({ r with group }, match text with
      | '?' :: rest => rest
      | rest => rest)

/-- Reads the next part of a pattern, which begins with `c`. -/
def part? (r : Reading) (c : Char) (rest : List Char) : Option (Reading × List Char) :=
  if c = '(' then r.group? rest
  else if c = ')' then r.outside?.map (·, rest)
  else if c = '|' then some ({ r with group := r.group.behindBar }, rest)
  else if c = '[' then
    (r.group.flags.class? rest).map fun (depth, rest) => (r.push depth, rest)
  else if c = '?' ∨ c = '*' ∨ c = '+' then r.repeat? rest
  else if c = '\x7b' then none
  else if c = '\\' then
    (r.group.flags.escape? rest).bind fun (atom, rest) => (r.pushAtom? atom).map (·, rest)
  else if c = '.' then if r.group.flags.admitsComplement then some (r.push 0, rest) else none
  else if c = '^' ∨ c = '$' then some (r.push 0, rest)
  else (r.pushAtom? (.literal c.toNat false)).map (·, rest)

/-- Whether a text completes what has been read.  Each step takes a character at
least, so that `fuel` may be the length of the text and one. -/
def completes (fuel : Nat) (r : Reading) (text : List Char) : Bool :=
  match fuel with
  | 0 => false
  | fuel + 1 =>
    match r.group.flags.skip text with
    | [] => r.outer.isEmpty && r.group.depth ≤ maxNesting
    | c :: rest =>
      match r.part? c rest with
      | some (r, rest) => completes fuel r rest
      | none => false

end Reading

end Pattern

/-- Whether a text is a pattern. -/
def isPattern (text : List Char) : Bool :=
  Pattern.Reading.completes (text.length + 1) {} text

end BestTimes.CommandLine
