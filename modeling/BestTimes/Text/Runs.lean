set_option autoImplicit false

/-!
# Runs of characters

A text is cut at the characters that separate.  Its *runs* are the pieces between
them that are not empty, so that several separators in a row count as one, and
separators at the ends count for nothing.
-/

namespace BestTimes.Text

/-- The runs of a text, of which `current` is the first one begun, in reverse. -/
def runsFrom (separates : Char → Bool) (current : List Char) : List Char → List (List Char)
  | [] => if current.isEmpty then [] else [current.reverse]
  | c :: rest =>
    if separates c then
      if current.isEmpty then runsFrom separates [] rest
      else current.reverse :: runsFrom separates [] rest
    else runsFrom separates (c :: current) rest

/-- The longest pieces of a text without a separator, in order. -/
def runs (separates : Char → Bool) (text : List Char) : List (List Char) :=
  runsFrom separates [] text

end BestTimes.Text
