set_option autoImplicit false

/-!
# Pieces of a text between two places

A place in a text is the number of bytes in front of it, in UTF-8.  Not every number
is a place: one that falls inside a character, or behind the end, is none, and there
is no piece from or to it.

* `dropBytes?` is the text from a place on, `takeBytes?` the text up to one.
* `slice?` is the piece between two places.
-/

namespace BestTimes.Text

/-- The number of bytes of a text. -/
def byteSize : List Char → Nat
  | [] => 0
  | c :: rest => c.utf8Size + byteSize rest

/-- The text from a place on. -/
def dropBytes? : Nat → List Char → Option (List Char)
  | 0, text => some text
  | _ + 1, [] => none
  | n + 1, c :: rest => if c.utf8Size ≤ n + 1 then dropBytes? (n + 1 - c.utf8Size) rest else none

/-- The text up to a place. -/
def takeBytes? : Nat → List Char → Option (List Char)
  | 0, _ => some []
  | _ + 1, [] => none
  | n + 1, c :: rest =>
    if c.utf8Size ≤ n + 1 then (takeBytes? (n + 1 - c.utf8Size) rest).map (c :: ·) else none

/-- The text from a place up to another one. -/
def slice? (start stop : Nat) (text : List Char) : Option (List Char) :=
  (dropBytes? start text).bind (takeBytes? (stop - start))

end BestTimes.Text
