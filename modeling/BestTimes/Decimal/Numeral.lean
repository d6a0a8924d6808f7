import BestTimes.Binary64.Basic
import BestTimes.Decimal.Basic
set_option autoImplicit false

/-!
# Numerals

A numeral is an optional sign and either digits with at most one point among them,
before or after them, and an optional exponent, or one of the words `nan`, `inf`
and `infinity` in any case.  At least one digit stands in front of the exponent;
the digits are the ASCII digits.  Nothing else is a numeral, the empty text
included.

A numeral is read exactly, as a signed decimal (`Numeral.ofChars?`), and rounded
once to binary64 (`Numeral.toBinary64`).
-/

namespace BestTimes

/-- A numeral: a sign, and a decimal or one of the two words. -/
inductive Numeral where
  | notANumber
  | infinity (negative : Bool)
  | decimal (negative : Bool) (value : Decimal)
  deriving DecidableEq, Repr

namespace Numeral

/-- Reads off an optional sign. -/
def splitSign : List Char → Bool × List Char
  | '-' :: rest => (true, rest)
  | '+' :: rest => (false, rest)
  | rest => (false, rest)

/-- Reads off a fraction, a point and digits; without a point it is empty. -/
def splitFraction : List Char → List Char × List Char
  | '.' :: rest => (rest.takeWhile Char.isDigit, rest.dropWhile Char.isDigit)
  | rest => ([], rest)

/-- The value of the digits of an exponent.  Digits after the value has reached
65536 are not counted: an exponent of that size alone makes a numeral of fewer
than sixty thousand digits zero or infinite. -/
def exponentValue (digits : List Char) : Nat :=
  digits.foldl (fun value c => if value < 65536 then 10 * value + (c.toNat - '0'.toNat) else value) 0

/-- The exponent that ends a numeral; an absent one is zero. -/
def exponent? : List Char → Option Int
  | [] => some 0
  | mark :: rest =>
    if mark = 'e' ∨ mark = 'E' then
      let (negative, digits) := splitSign rest
      if digits ≠ [] ∧ digits.all Char.isDigit then
        some (if negative then -(exponentValue digits : Int) else exponentValue digits)
      else none
    else none

/-- A numeral of digits, without its sign. -/
def decimal? (text : List Char) : Option Decimal :=
  let whole := text.takeWhile Char.isDigit
  let (fraction, rest) := splitFraction (text.dropWhile Char.isDigit)
  if whole = [] ∧ fraction = [] then none
  else (exponent? rest).map fun e =>
    ⟨Nat.ofDigitChars 10 (whole ++ fraction) 0, e - fraction.length⟩

/-- Reads a whole text as a numeral. -/
def ofChars? (text : List Char) : Option Numeral :=
  let (negative, rest) := splitSign text
  match decimal? rest with
  | some value => some (.decimal negative value)
  | none =>
    let word := String.ofList (rest.map Char.toLower)
    if word = "nan" then some .notANumber
    else if word = "inf" ∨ word = "infinity" then some (.infinity negative)
    else none

/-- The binary64 number nearest to a decimal.  A decimal of more than 310 digits
in front of the point is infinite and one with more than 330 zeros behind it is
zero, whatever its digits are; for these the powers of ten are not computed. -/
def round (negative : Bool) (d : Decimal) : Binary64 :=
  let order := Decimal.digitCount d.coefficient + d.exponent
  if d.coefficient = 0 ∨ order < -330 then .zero negative
  else if 310 < order then .infinite negative
  else .ofQuotient negative (d.num * unitsPerOne) d.den

/-- The binary64 number a numeral denotes. -/
def toBinary64 : Numeral → Binary64
  | .notANumber => .nan
  | .infinity negative => .infinite negative
  | .decimal negative value => round negative value

end Numeral

end BestTimes
