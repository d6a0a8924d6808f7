import BestTimes.Text.Runs
set_option autoImplicit false

/-!
# Blanks

A character is blank if it has the Unicode property `White_Space`; there are
twenty-five such characters.  Blanks separate the fields of a line and are taken
off its ends.

* `fields` cuts a text at its blanks; no field is empty, and the number of blanks
  between two fields does not matter.
* `trim` takes the blanks off both ends.
* `holds` looks for one text in another (`holds_iff`).
-/

namespace BestTimes.Text

/-- The characters with the property `White_Space`: the controls from tab to
carriage return, the space, the next-line control, the no-break space, and the
spaces and separators of the later blocks. -/
def isBlank (c : Char) : Bool :=
  let n := c.toNat
  (0x9 ≤ n && n ≤ 0xD) || n == 0x20 || n == 0x85 || n == 0xA0 || n == 0x1680 ||
    (0x2000 ≤ n && n ≤ 0x200A) || n == 0x2028 || n == 0x2029 || n == 0x202F ||
    n == 0x205F || n == 0x3000

/-- The fields of a text: the runs of characters that are not blank. -/
def fields (text : List Char) : List (List Char) := runs isBlank text

/-- The text without the blanks at its ends. -/
def trim (text : List Char) : List Char :=
  ((text.dropWhile isBlank).reverse.dropWhile isBlank).reverse

/-- Whether `part` stands somewhere in the text. -/
def holds (part : List Char) : List Char → Bool
  | [] => part.isEmpty
  | c :: rest => part.isPrefixOf (c :: rest) || holds part rest

theorem holds_iff (part text : List Char) : holds part text = true ↔ part <:+: text := by
  induction text with
  | nil => simp [holds]
  | cons c rest ih => simp [holds, ih, List.infix_cons_iff]

end BestTimes.Text
