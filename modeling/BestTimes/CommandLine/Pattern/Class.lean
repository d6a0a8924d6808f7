import BestTimes.CommandLine.Pattern.Atom
set_option autoImplicit false

/-!
# Classes of patterns

A class stands in square brackets.  Its members are characters, ranges, classes of
ASCII by their names, and further classes; a circumflex at its beginning stands for
its complement.  Two hyphens, ampersands or tildes are an operation on what is in
front of them and what is behind, up to the next operation.

Reading a class gives how deep it nests, and the text behind it (`Flags.class?`).
-/

namespace BestTimes.CommandLine.Pattern

/-- What has been read of a class. -/
structure ClassReading where
  /-- How deep each member nests, from the last. -/
  members : List Nat := []
  /-- How deep that nests which an operation has in front. -/
  left : Option Nat := none

namespace ClassReading

/-- A further member, which nests this deep. -/
def push (c : ClassReading) (depth : Nat) : ClassReading :=
  { c with members := depth :: c.members }

/-- How deep nests what has been read. -/
def depth (c : ClassReading) : Nat :=
  match c.left with
  | none => nesting c.members
  | some left => max left (nesting c.members) + 1

/-- What is read behind an operation. -/
def behindOperation (c : ClassReading) : ClassReading := ⟨[], some c.depth⟩

end ClassReading

/-- The names of classes of ASCII. -/
def classNames : List String :=
  ["alnum", "alpha", "ascii", "blank", "cntrl", "digit", "graph", "lower", "print", "punct",
   "space", "upper", "word", "xdigit"]

/-- Reads a class by its name, from behind its bracket: whether its complement is
meant, and the text behind it. -/
def namedClass? : List Char → Option (Bool × List Char)
  | ':' :: text =>
    let (complement, text) := match text with
      | '^' :: rest => (true, rest)
      | rest => (false, rest)
    match text.dropWhile (· != ':') with
    | ':' :: ']' :: rest =>
      if classNames.contains (String.ofList (text.takeWhile (· != ':'))) then
        some (complement, rest)
      else none
    | _ => none
  | _ => none

namespace Flags

/-- Whether members may stand in a class at all. -/
def admitsMembers (f : Flags) : Bool := !(f.unicode && f.foldsCase)

/-- Whether a complement may be taken. -/
def admitsComplement (f : Flags) : Bool := f.unicode

/-- Whether an atom may stand in a class. -/
def admitsMember (f : Flags) : Atom → Bool
  | .literal code _ => f.admitsMembers && (f.unicode || code < 0x80)
  | .shorthand complement => f.admits (.shorthand complement)
  | .anchor | .wordBoundary => false

/-- Counts the hyphens in front of a text; what does not count may stand between. -/
def hyphens (f : Flags) (inComment : Bool) : List Char → Nat × List Char
  | [] => (0, [])
  | c :: rest =>
    if inComment then f.hyphens (c != '\n') rest
    else if c = '-' then
      let (count, rest) := f.hyphens false rest
      (count + 1, rest)
    else if f.spaced && Text.isBlank c then f.hyphens false rest
    else if f.spaced && c = '#' then f.hyphens true rest
    else (0, c :: rest)

/-- The next character of a class behind a hyphen; a comment is not passed, only its
mark is. -/
def peek (f : Flags) (text : List Char) : Option Char :=
  if f.spaced then
    match text.dropWhile Text.isBlank with
    | '#' :: rest => (rest.dropWhile Text.isBlank).head?
    | rest => rest.head?
  else text.head?

/-- Reads the beginning of a class, from behind its bracket: the mark of a complement,
and hyphens or a closing bracket, which are members there. -/
def openClass? (f : Flags) (text : List Char) : Option (ClassReading × List Char) :=
  let (complement, text) := match f.skip text with
    | '^' :: rest => (true, f.skip rest)
    | rest => (false, rest)
  if complement && !f.admitsComplement then none
  else
    match text with
    | '-' :: _ =>
      let (count, rest) := f.hyphens false text
      if f.admitsMembers then some ({ members := List.replicate count 0 }, rest) else none
    | ']' :: rest => if f.admitsMembers then some ({ members := [0] }, f.skip rest) else none
    | rest => some ({}, rest)

/-- Reads one character of a class, or an escape. -/
def member? (f : Flags) : List Char → Option (Atom × List Char)
  | [] => none
  | c :: rest => if c = '\\' then f.escape? rest else some (.literal c.toNat false, rest)

/-- Reads a member of a class, or a range of members. -/
def members? (f : Flags) (text : List Char) : Option (List Char) :=
  (f.member? text).bind fun (first, rest) =>
    match f.skip rest with
    | [] => none
    | c :: behind =>
      if c = '-' ∧ f.peek behind ≠ some ']' ∧ f.peek behind ≠ some '-' then
        (f.member? (f.skip behind)).bind fun (last, rest) =>
          match first, last with
          | .literal low _, .literal high _ =>
            if low ≤ high ∧ f.admitsMember first ∧ f.admitsMember last then some rest else none
          | _, _ => none
      else if f.admitsMember first then some (c :: behind) else none

/-- Reads up to the end of a class of which `c` has been read; `outer` are the classes
around it, from the inside.  Each step takes a character at least, so that `fuel` may
be the length of the text. -/
def closeClass? (f : Flags) (fuel : Nat) (c : ClassReading) (outer : List ClassReading)
    (text : List Char) : Option (Nat × List Char) :=
  match fuel with
  | 0 => none
  | fuel + 1 =>
    match f.skip text with
    | [] => none
    | '[' :: rest =>
      match namedClass? rest with
      | some (complement, rest) =>
        if f.admitsMembers && (!complement || f.admitsComplement) then
          f.closeClass? fuel (c.push 0) outer rest
        else none
      | none =>
        (f.openClass? rest).bind fun (inner, rest) => f.closeClass? fuel inner (c :: outer) rest
    | ']' :: rest =>
      match outer with
      | [] => some (c.depth + 1, rest)
      | o :: outer => f.closeClass? fuel (o.push (c.depth + 1)) outer rest
    | '&' :: '&' :: rest | '-' :: '-' :: rest | '~' :: '~' :: rest =>
      f.closeClass? fuel c.behindOperation outer rest
    | rest => (f.members? rest).bind (f.closeClass? fuel (c.push 0) outer)

/-- Reads a class, from behind its bracket: how deep it nests, and the text behind
it. -/
def class? (f : Flags) (text : List Char) : Option (Nat × List Char) :=
  (f.openClass? text).bind fun (c, rest) => f.closeClass? (rest.length + 1) c [] rest

end Flags

end BestTimes.CommandLine.Pattern
