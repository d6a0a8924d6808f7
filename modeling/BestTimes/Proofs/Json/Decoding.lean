import BestTimes.Decimal.Numeral
import BestTimes.Proofs.Decimal.Notation
set_option autoImplicit false

/-!
# Decoding JSON

A decoder for the whole JSON grammar, independent of the way documents are written: blanks
may stand around every value and every punctuation mark, strings may use any escape,
surrogate pairs included, and numbers may have a fraction and an exponent, each as the grammar
allows them.  A number is decoded to its sign and its size, a rational number, so that no
digit of it is lost.

What reads off something returns it with the rest of the text, or nothing where the grammar
does not allow what stands there.  A count bounds the nesting of values and the length of
lists and strings; the length of the text is bound enough (`Decoded.ofText?`).
-/

namespace BestTimes

/-- A decoded JSON value. -/
inductive Decoded where
  | null
  | boolean (b : Bool)
  | number (negative : Bool) (size : ℚ)
  | string (s : String)
  | array (elements : List Decoded)
  | object (fields : List (String × Decoded))

namespace Decoded

/-! ## Numbers -/

/-- Reads off digits, at least one. -/
def digits? (text : List Char) : Option (List Char × List Char) :=
  let digits := text.takeWhile Char.isDigit
  if digits = [] then none else some (digits, text.dropWhile Char.isDigit)

/-- Reads off the digits in front of the point, without a zero in front of others. -/
def whole? (text : List Char) : Option (List Char × List Char) := do
  let (digits, rest) ← digits? text
  if 1 < digits.length ∧ digits.head? = some '0' then none else some (digits, rest)

/-- Reads off a fraction; an absent one has no digits. -/
def fraction? : List Char → Option (List Char × List Char)
  | '.' :: rest => digits? rest
  | rest => some ([], rest)

/-- Reads off the sign and the digits of an exponent. -/
def signedDigits? (text : List Char) : Option (Int × List Char) := do
  let (negative, rest) := Numeral.splitSign text
  let (digits, rest) ← digits? rest
  some (if negative then -(Decimal.digitsValue digits : Int) else Decimal.digitsValue digits, rest)

/-- Reads off an exponent; an absent one is zero. -/
def exponent? : List Char → Option (Int × List Char)
  | 'e' :: rest => signedDigits? rest
  | 'E' :: rest => signedDigits? rest
  | rest => some (0, rest)

/-- Reads off the size of a number. -/
def size? (text : List Char) : Option (ℚ × List Char) := do
  let (whole, rest) ← whole? text
  let (fraction, rest) ← fraction? rest
  let (exponent, rest) ← exponent? rest
  some (Decimal.pointedValue whole fraction * 10 ^ exponent, rest)

/-- Reads off a number. -/
def number? : List Char → Option (Decoded × List Char)
  | '-' :: rest => (size? rest).map fun (size, rest) => (.number true size, rest)
  | text => (size? text).map fun (size, rest) => (.number false size, rest)

/-! ## Strings -/

/-- The value of a hexadecimal digit. -/
def hexDigit? (c : Char) : Option Nat :=
  if c.isDigit then some (c.toNat - '0'.toNat)
  else if 'a' ≤ c ∧ c ≤ 'f' then some (c.toNat - 'a'.toNat + 10)
  else if 'A' ≤ c ∧ c ≤ 'F' then some (c.toNat - 'A'.toNat + 10)
  else none

/-- Reads off four hexadecimal digits. -/
def codeUnit? : List Char → Option (Nat × List Char)
  | a :: b :: c :: d :: rest => do
    let a ← hexDigit? a
    let b ← hexDigit? b
    let c ← hexDigit? c
    let d ← hexDigit? d
    some (((a * 16 + b) * 16 + c) * 16 + d, rest)
  | _ => none

/-- Reads off the second code unit of a character that has two, behind the first one. -/
def lowSurrogate? : List Char → Option (Nat × List Char)
  | '\\' :: 'u' :: rest => do
    let (unit, rest) ← codeUnit? rest
    if 0xdc00 ≤ unit ∧ unit < 0xe000 then some (unit, rest) else none
  | _ => none

/-- Reads off a character that is written with its code units. -/
def codePoint? (text : List Char) : Option (Char × List Char) := do
  let (unit, rest) ← codeUnit? text
  if unit < 0xd800 ∨ 0xe000 ≤ unit then some (Char.ofNat unit, rest)
  else if unit < 0xdc00 then
    let (low, rest) ← lowSurrogate? rest
    some (Char.ofNat (0x10000 + (unit - 0xd800) * 0x400 + (low - 0xdc00)), rest)
  else none

/-- The character of a short escape. -/
def short? (c : Char) : Option Char :=
  ([('"', '"'), ('\\', '\\'), ('/', '/'), ('b', '\x08'), ('f', '\x0c'), ('n', '\n'), ('r', '\r'),
    ('t', '\t')]).lookup c

/-- Reads off what follows a backslash. -/
def escaped? : List Char → Option (Char × List Char)
  | [] => none
  | c :: rest => if c = 'u' then codePoint? rest else (short? c).map (·, rest)

/-- Reads off a character of a string. -/
def character? : List Char → Option (Char × List Char)
  | [] => none
  | c :: rest =>
    if c = '\\' then escaped? rest
    else if c = '"' ∨ c.toNat < 0x20 then none
    else some (c, rest)

/-- Reads off the characters of a string up to the quote that ends it. -/
def characters? : Nat → List Char → Option (List Char × List Char)
  | 0, _ => none
  | count + 1, text =>
    if text.head? = some '"' then some ([], text.tail)
    else do
      let (c, rest) ← character? text
      let (others, rest) ← characters? count rest
      some (c :: others, rest)

/-- Reads off a string. -/
def string? (count : Nat) : List Char → Option (String × List Char)
  | '"' :: rest => (characters? count rest).map fun (s, rest) => (String.ofList s, rest)
  | _ => none

/-! ## Values -/

/-- The blanks of JSON. -/
def isBlank (c : Char) : Bool := c = ' ' ∨ c = '\n' ∨ c = '\r' ∨ c = '\t'

/-- The text without the blanks in front. -/
def skip (text : List Char) : List Char := text.dropWhile isBlank

section

variable {α : Type} (close : Char) (item : List Char → Option (α × List Char))

/-- Reads off one item or more with commas between them, and the bracket behind them. -/
def items? : Nat → List Char → Option (List α × List Char)
  | 0, _ => none
  | count + 1, text => do
    let (first, rest) ← item (skip text)
    match skip rest with
    | [] => none
    | c :: rest =>
      if c = ',' then do
        let (others, rest) ← items? count rest
        some (first :: others, rest)
      else if c = close then some ([first], rest)
      else none

/-- Reads off items and the bracket behind them. -/
def bracketed? (count : Nat) (text : List Char) : Option (List α × List Char) :=
  if (skip text).head? = some close then some ([], (skip text).tail)
  else items? close item count text

end

/-- Reads off the name and the value of a field. -/
def field? (count : Nat) (value : List Char → Option (Decoded × List Char)) (text : List Char) :
    Option ((String × Decoded) × List Char) := do
  let (name, rest) ← string? count text
  match skip rest with
  | [] => none
  | c :: rest =>
    if c = ':' then (value (skip rest)).map fun (v, rest) => ((name, v), rest) else none

/-- Reads off one of the words that are values. -/
def word? (word : String) (v : Decoded) (text : List Char) : Option (Decoded × List Char) :=
  if word.toList.isPrefixOf text then some (v, text.drop word.length) else none

/-- Reads off a value. -/
def value? : Nat → List Char → Option (Decoded × List Char)
  | 0, _ => none
  | count + 1, text =>
    match text.head? with
    | some '"' => (string? count text).map fun (s, rest) => (.string s, rest)
    | some '[' =>
      (bracketed? ']' (value? count) count text.tail).map fun (elements, rest) =>
        (.array elements, rest)
    | some '\x7b' =>
      (bracketed? '\x7d' (field? count (value? count)) count text.tail).map fun (fields, rest) =>
        (.object fields, rest)
    | some 'n' => word? "null" .null text
    | some 't' => word? "true" (.boolean true) text
    | some 'f' => word? "false" (.boolean false) text
    | _ => number? text

/-- The value of a text that is a JSON document: a value, and blanks around it. -/
def ofText? (text : List Char) : Option Decoded := do
  let (v, rest) ← value? (text.length + 1) (skip text)
  if skip rest = [] then some v else none

end Decoded

end BestTimes
