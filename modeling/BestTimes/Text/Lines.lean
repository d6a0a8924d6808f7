set_option autoImplicit false

/-!
# Lines of bytes

Input is a sequence of bytes, cut into lines before it is decoded.  A line ends
with a line feed; what follows the last line feed is a line too unless it is empty.
One carriage return in front of a line feed belongs to the line's end, a carriage
return at the end of an unended line does not.

* `lines` cuts bytes into lines, `decode` reads one line as UTF-8 text, and
  `encode` is the text as bytes (`decode_encode`).
* `linesOf` cuts a text into lines in the same way.
* `endedPart` is the part of bytes whose lines are all ended.
-/

namespace BestTimes.Text

/-- A text as bytes, in UTF-8. -/
def encode (text : String) : List UInt8 := text.toUTF8.data.toList

/-- The text that bytes spell in UTF-8, if they do. -/
def decode (bytes : List UInt8) : Option String := String.fromUTF8? ⟨bytes.toArray⟩

@[simp] theorem decode_encode (text : String) : decode (encode text) = some text := by
  unfold decode encode String.fromUTF8?
  rw [Array.toArray_toList]
  exact dif_pos text.isValidUTF8

theorem encode_of_decode {bytes : List UInt8} {text : String} (h : decode bytes = some text) :
    encode text = bytes := by
  unfold decode String.fromUTF8? at h
  split at h
  · obtain rfl := Option.some.inj h
    simp [encode, String.fromUTF8]
  · contradiction

@[simp] theorem encode_append (a b : String) : encode (a ++ b) = encode a ++ encode b := by
  simp [encode]

/-- The content of an ended line, given in reverse, without a carriage return at
its end. -/
def endedLine : List UInt8 → List UInt8
  | 13 :: rest => rest.reverse
  | current => current.reverse

/-- The lines of bytes, of which `current` is the first one begun, in reverse. -/
def linesFrom (current : List UInt8) : List UInt8 → List (List UInt8)
  | [] => if current.isEmpty then [] else [current.reverse]
  | b :: rest =>
    if b = 10 then endedLine current :: linesFrom [] rest else linesFrom (b :: current) rest

/-- The lines of bytes, without their ends. -/
def lines (bytes : List UInt8) : List (List UInt8) := linesFrom [] bytes

/-- The bytes up to the last line feed, and with it. -/
def endedPart (bytes : List UInt8) : List UInt8 := (bytes.reverse.dropWhile (· != 10)).reverse

/-- The lines of a text, without their ends. -/
def linesOf (text : String) : List String := (lines (encode text)).filterMap decode

theorem linesFrom_append_feed (current a b : List UInt8) :
    linesFrom current (a ++ 10 :: b) = linesFrom current (a ++ [10]) ++ linesFrom [] b := by
  induction a generalizing current with
  | nil => simp [linesFrom]
  | cons x a ih => by_cases h : x = 10 <;> simp [linesFrom, h, ih]

/-- Cutting into lines starts anew after every line feed. -/
theorem lines_append_feed (a b : List UInt8) :
    lines (a ++ 10 :: b) = lines (a ++ [10]) ++ lines b :=
  linesFrom_append_feed [] a b

end BestTimes.Text
