set_option autoImplicit false

/-!
# Control sequences of a terminal

A terminal obeys some texts instead of showing them: single controls, and sequences
that an escape begins.  Text that comes from outside is printed without them, so
that it cannot change what stands around it.

* An escape and a bracket begin a *sequence*, which a letter ends.
* Some letters begin a *string* behind an escape, which takes any characters in; it
  ends at its terminator, the byte `9C`, also where this is a part of a character.
  The string of a device has parameters in front, a system command ends at a bell.
* The controls `18` and `1A` end everything, and an escape begins anew.

The blanks among the controls are shown, in a sequence too.  Behind one of these,
characters are shown as if no sequence had begun, but the sequence still waits for
its end: it goes on at the next control that is not shown.
-/

namespace BestTimes.Text

/-- Where a terminal stands in what it obeys. -/
inductive ControlState where
  /-- Outside of any sequence. -/
  | ground
  /-- Behind an escape. -/
  | escape
  /-- Behind an escape and further characters of its sequence. -/
  | escapeIntermediate
  /-- In a sequence that a letter ends. -/
  | sequence
  /-- In front of the parameters of a device's string. -/
  | deviceEntry
  /-- In the parameters of a device's string. -/
  | deviceParameters
  /-- Behind the parameters of a device's string. -/
  | deviceIntermediate
  /-- In a string that its terminator ends. -/
  | controlString
  /-- In a system command. -/
  | systemCommand
  deriving DecidableEq, Repr

namespace ControlState

/-- Where a terminal stands behind a character that it does not show. -/
def after (s : ControlState) (c : Char) : ControlState :=
  let n := c.toNat
  let isControl := n < 0x20 || n == 0x7f
  if n == 0x18 || n == 0x1a then .ground
  else if n == 0x1b then .escape
  else match s with
    | .ground => .ground
    | .escape =>
      if isControl || 0x80 ≤ n then .escape
      else if n ≤ 0x2f then .escapeIntermediate
      else if c = '[' then .sequence
      else if c = ']' then .systemCommand
      else if c = 'P' then .deviceEntry
      else if c = 'X' ∨ c = '^' ∨ c = '_' then .controlString
      else .ground
    | .escapeIntermediate => if 0x30 ≤ n && n ≤ 0x7e then .ground else .escapeIntermediate
    | .sequence => if 0x40 ≤ n && n ≤ 0x7e then .ground else .sequence
    | .deviceEntry =>
      if isControl || 0x80 ≤ n then .deviceEntry
      else if n ≤ 0x2f then .deviceIntermediate
      else if n ≤ 0x3f then .deviceParameters
      else .controlString
    | .deviceParameters =>
      if isControl || 0x80 ≤ n then .deviceParameters
      else if n ≤ 0x2f then .deviceIntermediate
      else if 0x30 ≤ n && n ≤ 0x3b then .deviceParameters
      else .controlString
    | .deviceIntermediate =>
      if 0x30 ≤ n && n ≤ 0x7e then .controlString else .deviceIntermediate
    | .controlString =>
      if (String.singleton c).toUTF8.data.contains 0x9c then .ground else .controlString
    | .systemCommand => if n == 0x07 then .ground else .systemCommand

/-- Whether a character is a blank among the controls. -/
def isBlankControl (c : Char) : Bool := c = '\t' || c = '\n' || c = '\r' || c = '\x0c'

/-- Whether a terminal shows a character. -/
def shows (s : ControlState) (c : Char) : Bool :=
  match s with
  | .ground => isBlankControl c || (0x20 ≤ c.toNat && c.toNat != 0x7f)
  | .escape | .escapeIntermediate | .sequence => isBlankControl c
  | _ => false

end ControlState

/-- What a terminal shows of a text, from a state on; `behindShown` says whether it
showed the character before. -/
def shownFrom (s : ControlState) (behindShown : Bool) : List Char → List Char
  | [] => []
  | c :: rest =>
    if s.shows c || (behindShown && ControlState.ground.shows c) then
      c :: shownFrom (if c.toNat < 0x80 then s else .ground) true rest
    else shownFrom (s.after c) false rest

/-- A text without what a terminal obeys. -/
def withoutControls (text : String) : String :=
  String.ofList (shownFrom .ground false text.toList)

end BestTimes.Text
