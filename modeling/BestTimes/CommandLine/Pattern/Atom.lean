import BestTimes.Text.Blank
set_option autoImplicit false

/-!
# Flags and single characters of patterns

* `Flags` are the flags in force at a place of a pattern.  They decide whether blanks
  and comments count, and what may stand there.
* An `Atom` is what a single character or an escape stands for.
* `nesting` is how deep a list of parts nests.
-/

namespace BestTimes.CommandLine.Pattern

/-! ## Flags -/

/-- What the flags in force decide about the form of a pattern. -/
structure Flags where
  /-- Letters match in any case. -/
  foldsCase : Bool := false
  /-- The pattern speaks of characters and not of bytes. -/
  unicode : Bool := true
  /-- Blanks and comments do not count. -/
  spaced : Bool := false
  deriving DecidableEq, Repr

/-- The text behind its first blanks and comments. -/
def dropSpace (inComment : Bool) : List Char → List Char
  | [] => []
  | c :: rest =>
    if inComment then dropSpace (c != '\n') rest
    else if Text.isBlank c then dropSpace false rest
    else if c = '#' then dropSpace true rest
    else c :: rest

namespace Flags

/-- The text behind what does not count. -/
def skip (f : Flags) (text : List Char) : List Char :=
  if f.spaced then dropSpace false text else text

/-- Turns a flag on or off. -/
def set (f : Flags) (letter : Char) (on : Bool) : Flags :=
  if letter = 'i' then { f with foldsCase := on }
  else if letter = 'u' then { f with unicode := on }
  else if letter = 'x' then { f with spaced := on }
  else f

/-- The letters of the flags. -/
def letters : List Char := ['i', 'm', 's', 'U', 'u', 'R', 'x']

/-- Reads flags up to a colon or a closing bracket.  No flag and no hyphen stands
there twice, and a hyphen not at the end. -/
def read? (f : Flags) (seen : List Char) : List Char → Option (Flags × List Char × List Char)
  | [] => none
  | c :: rest =>
    if c = ':' ∨ c = ')' then
      if seen.head? = some '-' then none else some (f, seen, c :: rest)
    else if seen.contains c then none
    else if c = '-' then read? f (c :: seen) rest
    else if letters.contains c then read? (f.set c (!seen.contains '-')) (c :: seen) rest
    else none

end Flags

/-! ## Atoms -/

/-- What an escape or a single character of a pattern stands for. -/
inductive Atom where
  /-- A character by its code point; `asByte` if it is written as a byte. -/
  | literal (code : Nat) (asByte : Bool)
  /-- The class of digits, blanks or word characters, or its complement. -/
  | shorthand (complement : Bool)
  /-- The start or the end of the text. -/
  | anchor
  /-- A boundary of a word. -/
  | wordBoundary
  deriving DecidableEq, Repr

/-- The value of a hexadecimal digit. -/
def hexDigit? (c : Char) : Option Nat :=
  if c.isDigit then some (c.toNat - '0'.toNat)
  else if 'a' ≤ c ∧ c ≤ 'f' then some (c.toNat - 'a'.toNat + 10)
  else if 'A' ≤ c ∧ c ≤ 'F' then some (c.toNat - 'A'.toNat + 10)
  else none

namespace Flags

/-- Reads a given count of hexadecimal digits behind the value of those before. -/
def hex? (f : Flags) : Nat → Nat → List Char → Option (Nat × List Char)
  | 0, value, text => some (value, text)
  | count + 1, value, text =>
    match f.skip text with
    | [] => none
    | c :: rest => (hexDigit? c).bind fun digit => f.hex? count (16 * value + digit) rest

/-- Reads a character by its code point in a given count of hexadecimal digits. -/
def codePoint? (f : Flags) (count : Nat) (text : List Char) : Option (Atom × List Char) :=
  (f.hex? count 0 text).bind fun (code, rest) =>
    if code.isValidChar then some (.literal code (count == 2), rest) else none

/-- Reads an escape, from behind the backslash. -/
def escape? (f : Flags) : List Char → Option (Atom × List Char)
  | [] => none
  | c :: rest =>
    if c = 'x' then f.codePoint? 2 rest
    else if c = 'u' then f.codePoint? 4 rest
    else if c = 'U' then f.codePoint? 8 rest
    else if c = 'd' ∨ c = 's' ∨ c = 'w' then some (.shorthand false, rest)
    else if c = 'D' ∨ c = 'S' ∨ c = 'W' then some (.shorthand true, rest)
    else if c = 'A' ∨ c = 'z' then some (.anchor, rest)
    else if c = 'b' ∨ c = 'B' ∨ c = '<' ∨ c = '>' then some (.wordBoundary, rest)
    else if ['a', 'f', 't', 'n', 'r', 'v'].contains c then some (.literal 0x7 false, rest)
    else if c.toNat < 0x80 ∧ !c.isAlphanum then some (.literal c.toNat false, rest)
    else none

/-- Whether an atom may stand in a pattern. -/
def admits (f : Flags) : Atom → Bool
  | .literal code asByte =>
    if f.unicode then !f.foldsCase else !asByte || code < 0x80
  | .shorthand complement => !f.unicode && !complement
  | .anchor => true
  | .wordBoundary => !f.unicode

end Flags

/-! ## Nesting -/

/-- How deep a list of parts nests, from how deep each part does.  Parts that stand
together nest deeper by one, a part alone does not. -/
def nesting : List Nat → Nat
  | [] => 0
  | [depth] => depth
  | depths => depths.foldl max 0 + 1

end BestTimes.CommandLine.Pattern
