set_option autoImplicit false

/-!
# Integers in decimal

A natural number is written with its digits, without zeros in front unless a least
count of digits is asked for (`padded`); a negative integer has a minus sign in front
of the digits of its size.
-/

namespace BestTimes.Decimal

/-- Writes an integer. -/
def integer (i : Int) : List Char :=
  if i < 0 then '-' :: Nat.toDigits 10 i.natAbs else Nat.toDigits 10 i.natAbs

/-- Writes a minus sign in front of what is negative. -/
def withSign (negative : Bool) (size : List Char) : List Char :=
  if negative then '-' :: size else size

/-- The digits of a number, with zeros in front up to a least count. -/
def padded (least n : Nat) : List Char :=
  let digits := Nat.toDigits 10 n
  List.replicate (least - digits.length) '0' ++ digits

/-- An integer as a text. -/
def integerText (i : Int) : String := String.ofList (integer i)

/-- A natural number as a text. -/
def naturalText (n : Nat) : String := String.ofList (Nat.toDigits 10 n)

end BestTimes.Decimal
