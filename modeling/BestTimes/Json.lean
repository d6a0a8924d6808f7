import BestTimes.Decimal.Integer
import BestTimes.Decimal.Shortest
set_option autoImplicit false

/-!
# JSON documents

A JSON value is printed over several lines: every element of an array and every
field of an object on a line of its own, indented by two blanks per level, the
bracket that closes it back at the level of its opening.  An empty array is `[]`
and an empty object is a pair of braces.

* In a string, the quote, the backslash and the controls below the space are
  escaped, by the short escape where there is one; all else stands as it is.
* A number is the shortest decimal that reads back.  The exponents of its first
  digit from -5 to 15 are written positionally.  What is not finite has no number
  in JSON and is `null`.
* The fields of an object keep their order.
-/

namespace BestTimes

/-- A JSON value. -/
inductive Json where
  | integer (i : Int)
  | number (x : Binary64)
  | string (s : String)
  | array (elements : List Json)
  | object (fields : List (String × Json))

namespace Json

/-- Positional from `0.00001` up to sixteen digits in front of the point; an
exponent has no zeros in front. -/
def numberLayout : Decimal.Layout := ⟨-5, 16, 1⟩

/-- Writes a number. -/
def numberText : Binary64 → List Char
  | .nan | .infinite _ => ['n', 'u', 'l', 'l']
  | .finite negative m =>
    let size := if m.units = 0 then ['0', '.', '0'] else (Decimal.shortest m).write numberLayout
    if negative then '-' :: size else size

/-- The escape of a control character that has no short one: four hexadecimal
digits. -/
def controlEscape (c : Char) : List Char :=
  let digits := Nat.toDigits 16 c.toNat
  '\\' :: 'u' :: (List.replicate (4 - digits.length) '0' ++ digits)

/-- Writes a character of a string. -/
def escape (c : Char) : List Char :=
  if c = '"' then ['\\', '"']
  else if c = '\\' then ['\\', '\\']
  else if c = '\x08' then ['\\', 'b']
  else if c = '\x0c' then ['\\', 'f']
  else if c = '\n' then ['\\', 'n']
  else if c = '\r' then ['\\', 'r']
  else if c = '\t' then ['\\', 't']
  else if c.toNat < 0x20 then controlEscape c
  else [c]

/-- Writes a string between quotes. -/
def quote (s : String) : List Char := '"' :: (s.toList.flatMap escape ++ ['"'])

/-- A new line at a level. -/
def newLine (level : Nat) : List Char := '\n' :: List.replicate (2 * level) ' '

mutual

/-- Writes a value whose first line stands at a level. -/
def render (level : Nat) : Json → List Char
  | .integer i => Decimal.integer i
  | .number x => numberText x
  | .string s => quote s
  | .array [] => ['[', ']']
  | .array (v :: rest) =>
    '[' :: newLine (level + 1) ++ render (level + 1) v ++ renderElements (level + 1) rest ++
      newLine level ++ [']']
  | .object [] => ['\x7b', '\x7d']
  | .object ((key, v) :: rest) =>
    '\x7b' :: newLine (level + 1) ++ quote key ++ [':', ' '] ++ render (level + 1) v ++
      renderFields (level + 1) rest ++ newLine level ++ ['\x7d']

/-- Writes the further elements of an array, each after a comma. -/
def renderElements (level : Nat) : List Json → List Char
  | [] => []
  | v :: rest => ',' :: newLine level ++ render level v ++ renderElements level rest

/-- Writes the further fields of an object, each after a comma. -/
def renderFields (level : Nat) : List (String × Json) → List Char
  | [] => []
  | (key, v) :: rest =>
    ',' :: newLine level ++ quote key ++ [':', ' '] ++ render level v ++ renderFields level rest

end

/-- A value as a document. -/
def document (v : Json) : String := String.ofList (v.render 0)

end Json

end BestTimes
