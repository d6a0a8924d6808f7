import BestTimes.Proofs.Reading
import BestTimes.Proofs.Text.Concatenation
import Mathlib.Control.Monad.Basic
import Mathlib.Data.List.Forall2
set_option autoImplicit false

/-!
# Reading files as one content

Files are cut into lines one at a time, and their lines are numbered through.  Reading
them is therefore surveying their lines one behind the other
(`effect_readSources_append`), and comes to reading one content that has these lines.

The contents one behind the other are such a content if no line goes on from one file to
the next, as `Text.lines_flatten_iff` says.  If a file leaves its last line open, the
stream with a line feed behind that line serves as well, whatever the contents are: its
lines are read like those of the files (`Measurement.survey_flatMap_completed`).
-/

namespace BestTimes

/-! ## Surveys -/

namespace Measurement

/-- Lines are surveyed one after the other, up to the first that fails. -/
theorem survey_append (before : Nat) (cut rest : List (List UInt8)) :
    survey before (cut ++ rest) =
      match (survey before cut).2 with
      | .ok _ =>
        let later := survey (before + cut.length) rest
        ((survey before cut).1 ++ later.1, later.2)
      | .error fault => ((survey before cut).1, .error fault) := by
  induction cut generalizing before with
  | nil => rfl
  | cons line cut ih =>
    rw [List.cons_append, survey, survey]
    cases ofBytes? before line with
    | error fault => rfl
    | ok found =>
      have places : before + 1 + cut.length = before + (line :: cut).length := by
        rw [List.length_cons]
        omega
      simp only [ih, places]
      cases (survey (before + 1) cut).2 with
      | error fault => rfl
      | ok _ => simp only [List.append_assoc]

/-- What the first lines hold is held first. -/
theorem survey_prefix {cut all : List (List UInt8)} (h : cut <+: all) (before : Nat) :
    (survey before cut).1 <+: (survey before all).1 := by
  obtain ⟨rest, rfl⟩ := h
  rw [survey_append]
  cases (survey before cut).2 with
  | error fault => exact List.prefix_rfl
  | ok _ => exact List.prefix_append _ _

/-- Whether two lines are read alike, wherever they stand. -/
def ReadAlike (a b : List UInt8) : Prop := ∀ before, ofBytes? before a = ofBytes? before b

/-- Lines that are read alike hold the same. -/
theorem survey_congr {cut others : List (List UInt8)} (h : List.Forall₂ ReadAlike cut others)
    (before : Nat) : survey before cut = survey before others := by
  induction h generalizing before with
  | nil => rfl
  | cons alike _ ih => rw [survey, survey, alike before, ih]

/-- A carriage return at the end of a line makes no difference. -/
theorem readAlike_append_return (line : List UInt8) : ReadAlike (line ++ [13]) line := by
  intro before
  unfold ofBytes?
  rw [Text.decode_append_return]
  cases Text.decode line with
  | none => rfl
  | some text => simp only [Option.map_some, ofLine?_append_return]

theorem readAlike_endedLine (line : List UInt8) :
    ReadAlike (Text.endedLine line.reverse) line := by
  rcases Text.endedLine_reverse_cases line with same | longer
  · rw [same]
    exact fun _ => rfl
  · intro before
    conv_rhs => rw [longer]
    exact (readAlike_append_return _ before).symm

/-- The lines of completed bytes are read as the lines of the bytes. -/
theorem readAlike_lines_completed (bytes : List UInt8) :
    List.Forall₂ ReadAlike (Text.lines (Text.completed bytes)) (Text.lines bytes) := by
  have same (cut : List (List UInt8)) : List.Forall₂ ReadAlike cut cut :=
    List.forall₂_same.2 fun _ _ _ => rfl
  unfold Text.completed
  split
  · exact same _
  · rename_i incomplete
    obtain ⟨front, last, cut, ended⟩ := Text.exists_last_line incomplete
    rw [cut, ended]
    exact List.rel_append (same front) (.cons (readAlike_endedLine last) .nil)

theorem readAlike_flatMap_completed (contents : List (List UInt8)) :
    List.Forall₂ ReadAlike (contents.flatMap fun content => Text.lines (Text.completed content))
      (contents.flatMap Text.lines) := by
  induction contents with
  | nil => exact .nil
  | cons content contents ih =>
    exact List.rel_append (readAlike_lines_completed content) ih

/-- Completed contents one behind the other hold what the lines of the contents hold. -/
theorem survey_flatMap_completed (contents : List (List UInt8)) (before : Nat) :
    survey before (Text.lines (contents.flatMap Text.completed)) =
      survey before (contents.flatMap Text.lines) := by
  have complete : ∀ c ∈ contents.map Text.completed, Text.Complete c := by
    intro c hc
    obtain ⟨bytes, -, rfl⟩ := List.mem_map.1 hc
    exact Text.complete_completed bytes
  have cut := Text.lines_flatten_of_seamless (Text.seamless_of_complete complete)
  rw [← List.flatMap_def, List.flatMap_map] at cut
  rw [cut]
  exact survey_congr (readAlike_flatMap_completed contents) before

end Measurement

/-! ## Files -/

/-- What work leaves behind beside the events: the registry, and how it ended. -/
def Progress.effect {α : Type} (p : Progress α) : Registry × Except Fault α :=
  (p.registry, p.outcome)

theorem Progress.effect_andThen {α β : Type} (p : Progress α)
    (next : Registry → α → Progress β) :
    (p.andThen next).effect =
      match p.outcome with
      | .ok a => (next p.registry a).effect
      | .error fault => (p.registry, .error fault) := by
  unfold andThen
  cases p.outcome with
  | ok a => rfl
  | error fault => rfl

theorem Progress.effect_after {α : Type} (events : List Event) (p : Progress α) :
    (p.after events).effect = p.effect := rfl

namespace Registry

/-- Files with their contents, as what their paths lead to. -/
def contentsOf (files : List (String × List UInt8)) : List (String × Source) :=
  files.map fun file => (file.1, .content file.2)

/-- The contents of files, one behind the other. -/
def streamOf (files : List (String × List UInt8)) : List UInt8 := (files.map (·.2)).flatten

/-- A file is read, and then what is behind it, under the numbers that follow. -/
theorem readSources_content (r : Registry) (before : Nat) (path : String) (bytes : List UInt8)
    (rest : List (String × Source)) :
    r.readSources before ((path, .content bytes) :: rest) =
      (r.read before bytes).andThen fun registry count =>
        (registry.readSources (before + count) rest).after [.readFile path (before + count)] := rfl

/-- Reading files and then further sources: the files are one survey of all their lines,
and if that fails nothing else is read. -/
theorem effect_readSources_append (r : Registry) (before : Nat)
    (files : List (String × List UInt8)) (rest : List (String × Source)) :
    (r.readSources before (contentsOf files ++ rest)).effect =
      let cut := files.flatMap fun file => Text.lines file.2
      let found := Measurement.survey before cut
      match found.2 with
      | .ok _ => ((r.recordAll found.1).readSources (before + cut.length) rest).effect
      | .error fault => (r.recordAll found.1, .error fault) := by
  induction files generalizing r before with
  | nil => rfl
  | cons file files ih =>
    obtain ⟨path, bytes⟩ := file
    change (r.readSources before ((path, .content bytes) :: (contentsOf files ++ rest))).effect = _
    rw [readSources_content, Progress.effect_andThen, outcome_read, registry_read,
      List.flatMap_cons]
    simp only [Measurement.survey_append, Progress.effect_after]
    cases (Measurement.survey before (Text.lines bytes)).2 with
    | error fault => rfl
    | ok _ =>
      simp only [Except.map, ih, List.length_append, recordAll_append, Nat.add_assoc]

/-- Reading sources from the start leaves what reading them leaves; it only logs more. -/
theorem effect_ofSources (sources : List (String × Source)) :
    (ofSources sources).effect = (empty.readSources 0 sources).effect := by
  unfold ofSources
  rw [Progress.effect_andThen]
  unfold Progress.effect
  cases (empty.readSources 0 sources).outcome with
  | ok _ => rfl
  | error fault => rfl

/-- Reading files alone is recording what a survey of all their lines finds. -/
theorem effect_ofSources_contentsOf (files : List (String × List UInt8)) :
    (ofSources (contentsOf files)).effect =
      (empty.recordAll (Measurement.survey 0 (files.flatMap fun file => Text.lines file.2)).1,
        (Measurement.survey 0 (files.flatMap fun file => Text.lines file.2)).2) := by
  have all := effect_readSources_append empty 0 files []
  rw [List.append_nil, ← effect_ofSources] at all
  simp only at all
  rw [all]
  -- Nothing is behind the files, so the reading ends as the survey of their lines does.
  generalize Measurement.survey 0 (files.flatMap fun file => Text.lines file.2) = found
  cases found.2 <;> rfl

/-- Whether reading sources comes to reading bytes: it leaves the same registry, and ends
in the same way. -/
def ReadsAs (sources : List (String × Source)) (bytes : List UInt8) : Prop :=
  (ofSources sources).registry = (empty.read 0 bytes).registry ∧
    (ofSources sources).outcome = (empty.read 0 bytes).outcome.map fun _ => ()

instance (sources : List (String × Source)) (bytes : List UInt8) :
    Decidable (ReadsAs sources bytes) := inferInstanceAs (Decidable (_ ∧ _))

theorem readsAs_of_survey_eq {files : List (String × List UInt8)} {bytes : List UInt8}
    (h : Measurement.survey 0 (Text.lines bytes) =
      Measurement.survey 0 (files.flatMap fun file => Text.lines file.2)) :
    ReadsAs (contentsOf files) bytes := by
  obtain ⟨registry, outcome⟩ := Prod.mk.inj (effect_ofSources_contentsOf files)
  refine ⟨?_, ?_⟩
  · rw [registry, registry_read, h]
  · rw [outcome, outcome_read, h]
    cases (Measurement.survey 0 (files.flatMap fun file => Text.lines file.2)).2 <;> rfl

/-- What reading files comes to.  Whatever their contents are, it is reading the stream of
the contents with a line feed behind every line that a file leaves open.  The plain
stream has the lines of the files just if no line goes on from one file to another, and
then reading the files is reading that stream. -/
theorem ofSources_contentsOf_readsAs (files : List (String × List UInt8)) :
    ReadsAs (contentsOf files) ((files.map (·.2)).flatMap Text.completed) ∧
      (Text.lines (streamOf files) = (files.flatMap fun file => Text.lines file.2) ↔
        Text.Seamless (files.map (·.2))) ∧
      (Text.Seamless (files.map (·.2)) → ReadsAs (contentsOf files) (streamOf files)) := by
  have cut : (files.flatMap fun file => Text.lines file.2) =
      (files.map (·.2)).flatMap Text.lines := by
    rw [List.flatMap_map]
  refine ⟨readsAs_of_survey_eq ?_, ?_, fun seamless => readsAs_of_survey_eq ?_⟩
  · rw [cut, Measurement.survey_flatMap_completed]
  · rw [cut]
    exact Text.lines_flatten_iff _
  · rw [cut, streamOf, Text.lines_flatten_of_seamless seamless]

/-- Files of which only the last one leaves a line open, with an empty one among them. -/
theorem ofSources_contentsOf_readsAs_of_open_end :
    let files := [("a", Text.encode "b time: [1 ns 5 ns 9 ns]\r\n"), ("b", []),
      ("c", Text.encode "noise\nb time: [1 ns 3 ns 9 ns]")]
    Text.Seamless (files.map (·.2)) ∧ ReadsAs (contentsOf files) (streamOf files) ∧
      (ofSources (contentsOf files)).registry.get? "b" =
        some ⟨⟨3, by decide, by decide⟩, "b time: [1 ns 3 ns 9 ns]"⟩ := by
  intro files
  have seamless : Text.Seamless (files.map (·.2)) := by decide +kernel
  exact ⟨seamless, (ofSources_contentsOf_readsAs files).2.2 seamless, by decide +kernel⟩

/-- Files that leave a line open in front of another file are not read as one stream: in
the stream a measurement is lost, and a malformed line has another number. -/
theorem contentsOf_not_readsAs_flatten :
    let timed := [("a", Text.encode "manual time: [1 ns 5 ns 9 ns]"),
      ("b", Text.encode "nonbox time: [1 ns 6 ns 9 ns]\n")]
    let broken := [("a", Text.encode "noise"), ("b", Text.encode "broken time:\n")]
    ¬ ReadsAs (contentsOf timed) (streamOf timed) ∧
      (ofSources (contentsOf timed)).registry.toList.map (·.1) = ["manual", "nonbox"] ∧
      (empty.read 0 (streamOf timed)).registry.toList.map (·.1) = ["manual"] ∧
      ¬ ReadsAs (contentsOf broken) (streamOf broken) ∧
      (ofSources (contentsOf broken)).outcome =
        .error (.error (.malformedLine 2 (.tooFewFields 2))) ∧
      (empty.read 0 (streamOf broken)).outcome =
        .error (.error (.malformedLine 1 (.tooFewFields 2))) := by
  decide +kernel

end Registry

end BestTimes
