import BestTimes.Text.Unprintable
set_option autoImplicit false

/-!
# Quoted texts

A quoted text stands between double quotes.  A double quote and a backslash in it
have a backslash in front, the common controls are written by a letter, and every
other character that prints nothing of its own is written by its code point, in
hexadecimal digits between braces.  All else stands as it is, a single quote too.
-/

namespace BestTimes.Text

/-- A character by its code point. -/
def codePointEscape (c : Char) : List Char :=
  ['\\', 'u', '\x7b'] ++ Nat.toDigits 16 c.toNat ++ ['\x7d']

/-- A character as it stands between quotes. -/
def quotedChar (c : Char) : List Char :=
  if c = '\x00' then ['\\', '0']
  else if c = '\t' then ['\\', 't']
  else if c = '\n' then ['\\', 'n']
  else if c = '\r' then ['\\', 'r']
  else if c = '"' then ['\\', '"']
  else if c = '\\' then ['\\', '\\']
  else if isUnprintable c then codePointEscape c
  else [c]

/-- A text between quotes. -/
def quoted (s : String) : List Char := '"' :: (s.toList.flatMap quotedChar ++ ['"'])

/-- Texts between quotes, with commas between them, in square brackets. -/
def quotedList (texts : List String) : String :=
  String.ofList ('[' :: [',', ' '].intercalate (texts.map quoted) ++ [']'])

end BestTimes.Text
