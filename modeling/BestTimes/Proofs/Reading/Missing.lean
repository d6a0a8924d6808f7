import BestTimes.Proofs.Reading.Files
set_option autoImplicit false

/-!
# Files that cannot be opened

Of a list of paths some may lead to no file.  The first of them ends the reading, but
only when its turn comes: the files in front of it (`opened`) are read as one content
before, with a line feed behind every line that one of them leaves open, and what is
wrong in their lines counts first (`ofSources_sourcesOf`).
-/

namespace BestTimes.Registry

/-- A path, and the content of the file that it leads to or why it cannot be opened.  The path
is the text that the program shows for it, so two paths that are no Unicode can have one text;
what they lead to is given beside it, for each place of the list. -/
abbrev Target := String × Except IoFailure (List UInt8)

/-- Paths as what they lead to. -/
def sourcesOf (targets : List Target) : List (String × Source) :=
  targets.map fun target =>
    match target.2 with
    | .ok bytes => (target.1, .content bytes)
    | .error failure => (target.1, .closed failure)

/-- The files in front of the first path that cannot be opened. -/
def opened : List Target → List (String × List UInt8)
  | [] => []
  | (path, .ok bytes) :: rest => (path, bytes) :: opened rest
  | (_, .error _) :: _ => []

/-- The first path that cannot be opened, and why. -/
def unopened? : List Target → Option (String × IoFailure)
  | [] => none
  | (_, .ok _) :: rest => unopened? rest
  | (path, .error failure) :: _ => some (path, failure)

/-- Paths are the files that are opened, and then the first that cannot be, if there is
one. -/
theorem exists_sourcesOf_eq (targets : List Target) :
    ∃ rest, sourcesOf targets = contentsOf (opened targets) ++ rest ∧
      (unopened? targets = none → rest = []) ∧
      ∀ path failure, unopened? targets = some (path, failure) →
        ∃ later, rest = (path, .closed failure) :: later := by
  induction targets with
  | nil =>
    refine ⟨[], rfl, fun _ => rfl, ?_⟩
    intro path failure h
    cases h
  | cons target targets ih =>
    obtain ⟨path, content⟩ := target
    cases content with
    | error failure =>
      refine ⟨sourcesOf ((path, .error failure) :: targets), rfl, ?_, ?_⟩
      · intro h
        cases h
      · intro other why h
        cases h
        exact ⟨sourcesOf targets, rfl⟩
    | ok bytes =>
      obtain ⟨rest, split, all, first⟩ := ih
      refine ⟨rest, ?_, all, first⟩
      change (path, .content bytes) :: sourcesOf targets = _
      rw [split]
      rfl

/-- Reading paths of which some may lead to no file.  The files in front of the first such
path are read as one stream, in which every line that a file leaves open is ended.  If
that fails, the reading fails in the same way, at the same line of the stream; if not, the
path is reported as it was given; and if all paths lead to files, the reading succeeds.
The registry is that of the stream. -/
theorem ofSources_sourcesOf (targets : List Target) :
    let stream := ((opened targets).map (·.2)).flatMap Text.completed
    (ofSources (sourcesOf targets)).registry = (empty.read 0 stream).registry ∧
      (ofSources (sourcesOf targets)).outcome =
        match (empty.read 0 stream).outcome, unopened? targets with
        | .error fault, _ => .error fault
        | .ok _, some (path, failure) => .error (.error (.unopenedFile path failure))
        | .ok _, none => .ok () := by
  intro stream
  obtain ⟨rest, split, all, first⟩ := exists_sourcesOf_eq targets
  have same : Measurement.survey 0 (Text.lines stream) =
      Measurement.survey 0 ((opened targets).flatMap fun file => Text.lines file.2) := by
    rw [Measurement.survey_flatMap_completed, List.flatMap_map]
  have reading := effect_readSources_append empty 0 (opened targets) rest
  rw [← split, ← effect_ofSources] at reading
  simp only [← same] at reading
  rw [registry_read, outcome_read]
  cases ends : (Measurement.survey 0 (Text.lines stream)).2 with
  | error fault =>
    rw [ends] at reading
    exact Prod.mk.inj reading
  | ok _ =>
    rw [ends] at reading
    cases missing : unopened? targets with
    | none =>
      rw [all missing] at reading
      exact Prod.mk.inj reading
    | some target =>
      obtain ⟨later, next⟩ := first target.1 target.2 missing
      rw [next] at reading
      exact Prod.mk.inj reading

/-- A malformed line counts before a file that is missing behind it. -/
example :
    (ofSources (sourcesOf
      [("a", .ok (Text.encode "noise\nbroken time:")), ("b", .error .notFound)])).outcome =
      .error (.error (.malformedLine 2 (.tooFewFields 2))) := by decide +kernel

end BestTimes.Registry
