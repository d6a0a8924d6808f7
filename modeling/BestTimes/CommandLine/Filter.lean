import BestTimes.CommandLine.Directive
set_option autoImplicit false

/-!
# Which events the log shows

A filter is a list of directives with commas between them; empty ones are left out.

An event is decided by the most specific of the directives that are about it, and of
equally specific ones by the last; without one it is not shown.  The program opens no
spans, so that directives for a span, or for the value of a field, are about nothing.
A filter without any directive shows errors.
-/

namespace BestTimes.CommandLine

/-- The rules that decide which events the log shows. -/
structure Filter where
  directives : List Directive
  deriving DecidableEq, Repr

namespace Filter

/-- The filter that shows events up to a level, whatever their target. -/
def upTo (level : Level) : Filter := ⟨[{ detail := level.detail }]⟩

/-- Reads a filter.  The first directive that cannot be read decides what is wrong. -/
def ofString (text : String) : Except DirectiveError Filter := do
  let directives ← (Text.runs (· == ',') text.toList).mapM Directive.ofChars
  .ok (if directives.isEmpty then upTo .error else ⟨directives⟩)

/-- The rule that decides about an event. -/
def deciding? (f : Filter) (e : Event) : Option Directive :=
  (f.directives.filter (·.covers e)).foldl
    (fun best d =>
      match best with
      | some b => if b.atMostAsSpecific d then some d else some b
      | none => some d)
    none

/-- Whether the log shows an event. -/
def shows (f : Filter) (e : Event) : Bool :=
  match f.deciding? e with
  | some d => e.level.detail ≤ d.detail
  | none => false

end Filter

end BestTimes.CommandLine
