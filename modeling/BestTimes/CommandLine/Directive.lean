import BestTimes.CommandLine.Pattern
import BestTimes.Decimal.Numeral
import BestTimes.Event
import BestTimes.Text.Alphanumeric
import BestTimes.Text.Blank
import BestTimes.Text.Slice
set_option autoImplicit false

/-!
# Directives of a log filter

    bench_compare::parser=info
    bench_compare[{message}]=debug
    trace

A directive is a target, in square brackets the name of a span and in curly brackets
in these a field, and behind `=` a level; each part may be left out, and a directive
that is a level alone is no target.  A level is a name in any case, or its place from
0, which is `off`, to 5; no level, or an empty one, is 5.  A field may have a value,
which is a numeral or a pattern.

The places of the parts are found in the text without the blanks around it, and the
parts are then cut out of the text with its blanks.  Where no blanks are in front
this is the same.  Otherwise the parts are others than those found, and a place may
fall inside a character, which is a failure of its own.
-/

namespace BestTimes.CommandLine

/-- Why a text is no directive. -/
inductive DirectiveError where
  /-- It has not the form of one. -/
  | malformed
  /-- A part of it would begin or end inside a character. -/
  | insideCharacter
  deriving DecidableEq, Repr

/-- What a directive asks of a field. -/
structure FieldTest where
  name : String
  /-- Whether the field is to have a given value. -/
  hasValue : Bool
  deriving DecidableEq, Repr

/-- Reads what is asked of a field. -/
def FieldTest.ofChars? (text : List Char) : Option FieldTest :=
  let name := String.ofList (text.takeWhile (· != '='))
  match text.dropWhile (· != '=') with
  | [] => some ⟨name, false⟩
  | _ :: rest =>
    let value := rest.takeWhile (· != '=')
    if (Numeral.ofChars? value).isSome || isPattern value then some ⟨name, true⟩ else none

/-- A rule of a filter: events of these targets are shown up to this detail. -/
structure Directive where
  /-- What the target of an event begins with; any target without it. -/
  target : Option String := none
  /-- The span the rule holds in; everywhere without it. -/
  span : Option String := none
  /-- The field that is asked for. -/
  field : Option FieldTest := none
  /-- The greatest detail that is shown, none if it is zero. -/
  detail : Nat := Level.trace.detail
  deriving DecidableEq, Repr

namespace Directive

/-! ## Reading -/

/-- Reads a level: the detail it shows. -/
def detail? (text : List Char) : Option Nat :=
  let digits := match text with
    | '+' :: rest => rest
    | cs => cs
  if digits ≠ [] ∧ digits.all Char.isDigit then
    if Nat.ofDigitChars 10 digits 0 ≤ 5 then some (Nat.ofDigitChars 10 digits 0) else none
  else
    ["off", "error", "warn", "info", "debug", "trace"].findIdx?
      (· = String.ofList (text.map Char.toLower))

/-- Whether a directive may begin with this character; otherwise it begins with a
span. -/
def mayBegin (c : Char) : Bool := c == '-' || c == ':' || c == '_' || Text.isAlphanumeric c

/-- What the reading of a directive is in. -/
inductive Part where
  | start
  /-- A target, or a level without a target. -/
  | name
  | span (start : Nat)
  | field (start : Nat)
  /-- Behind the bracket that closes a field. -/
  | fieldEnd
  /-- Behind the bracket that closes a span. -/
  | spanEnd
  | level (start : Nat)
  deriving DecidableEq, Repr

/-- What has been read of a directive. -/
structure Reading where
  directive : Directive := {}
  part : Part := .start

/-- A piece of a text. -/
def piece (text : List Char) (start stop : Nat) : Except DirectiveError (List Char) :=
  match Text.slice? start stop text with
  | some piece => .ok piece
  | none => .error .insideCharacter

/-- A piece that reaches the end of a text. -/
def lastPiece (text : List Char) (start : Nat) : Except DirectiveError (List Char) :=
  piece text start (Text.byteSize text)

/-- Reads the character at a place. -/
def Reading.step (text : List Char) (r : Reading) (place : Nat) (c : Char) :
    Except DirectiveError Reading :=
  match r.part with
  | .start =>
    if c = '[' then .ok { r with part := .span (place + 1) }
    else if mayBegin c then .ok { r with part := .name }
    else .error .malformed
  | .name =>
    if c = '=' ∨ c = '[' then do
      let target := String.ofList (← piece text 0 place)
      let part := if c = '=' then Part.level (place + 1) else .span (place + 1)
      .ok ⟨{ r.directive with target := some target }, part⟩
    else .ok r
  | .span start =>
    if c = ']' then do
      let span := String.ofList (← piece text start place)
      .ok ⟨{ r.directive with span := some span }, .spanEnd⟩
    else if c = '\x7b' then do
      let span ← piece text start place
      let named := if span.isEmpty then none else some (String.ofList span)
      .ok ⟨{ r.directive with span := named }, .field (place + 1)⟩
    else .ok r
  | .field start =>
    if c = '\x7d' then do
      let field ← piece text start place
      if field.isEmpty then .error .malformed
      else match FieldTest.ofChars? field with
        | none => .error .malformed
        | some test => .ok ⟨{ r.directive with field := some test }, .fieldEnd⟩
    else .ok r
  | .fieldEnd => if c = ']' then .ok { r with part := .spanEnd } else .error .malformed
  | .spanEnd => if c = '=' then .ok { r with part := .level (place + 1) } else .error .malformed
  | .level _ => .ok r

/-- Reads the characters from a place on. -/
def Reading.steps (text : List Char) (r : Reading) (place : Nat) :
    List Char → Except DirectiveError Reading
  | [] => .ok r
  | c :: rest => do (← r.step text place c).steps text (place + c.utf8Size) rest

/-- The directive that has been read. -/
def Reading.finish (text : List Char) (r : Reading) : Except DirectiveError Directive :=
  match r.part with
  | .name =>
    match detail? text with
    | some detail => .ok { r.directive with detail }
    | none => .ok { r.directive with target := some (String.ofList text) }
  | .level start => do
    let level ← lastPiece text start
    if level.isEmpty then .ok r.directive
    else match detail? level with
      | some detail => .ok { r.directive with detail }
      | none => .error .malformed
  | .spanEnd => .ok r.directive
  | _ => .error .malformed

/-- Reads a directive. -/
def ofChars (text : List Char) : Except DirectiveError Directive := do
  (← Reading.steps text {} 0 (Text.trim text)).finish text

/-! ## Deciding about events -/

/-- Whether the rule can hold for an event outside of all spans, whatever the values
of its fields. -/
def isStatic (d : Directive) : Bool := d.span.isNone && d.field.all fun test => !test.hasValue

/-- Whether the rule is about an event. -/
def covers (d : Directive) (e : Event) : Bool :=
  d.isStatic && (d.target.getD "").toList.isPrefixOf e.target.toList &&
    d.field.all fun test => Event.fieldNames.contains test.name

/-- Whether another rule is at least as specific: it names a longer target, or one of
the same length and no fewer fields.  A rule without a target is below all others. -/
def atMostAsSpecific (d other : Directive) : Bool :=
  let length (target : Option String) := (target.map fun text => text.utf8ByteSize + 1).getD 0
  length d.target < length other.target ||
    (length d.target == length other.target && (d.field.isNone || other.field.isSome))

end Directive

end BestTimes.CommandLine
