import BestTimes.Proofs.Reading.Files
import BestTimes.Proofs.Reading.FirstFault
set_option autoImplicit false

/-!
# How reading files fails

Files are read one behind the other up to the first that fails, and a path can fail in three
ways (`Source.Fails`): it cannot be opened, reading it fails behind some of its bytes, or a line
of it has a fault.  The lines that end in front of a failure are read by then, so a fault of one
of them counts first.  `ofSources_eq_error_iff` says that these are all the ways in which the
reading of a list of paths fails, so a failure can be traced to its path.

The report cannot: it names a path just if the path could not be opened.  Of a path that is
opened and then fails, such as a directory or a content that is not UTF-8, it tells the
failure alone (`ofSources_unreadable_iff`).
-/

namespace BestTimes

open Measurement (Faultless IsFirstFault survey_of_faultless survey_of_isFirstFault)

/-- How reading what a path leads to fails, where `before` lines precede it. -/
inductive Source.Fails (path : String) (before : Nat) : Source → Fault → Prop where
  /-- The path cannot be opened. -/
  | closed (failure : IoFailure) :
      Fails path before (.closed failure) (.error (.unopenedFile path failure))
  /-- The path can be opened, but reading it fails behind lines without a fault. -/
  | unreadable {failure : IoFailure} {bytes : List UInt8}
      (sound : Faultless before (Source.unreadable failure bytes).lines) :
      Fails path before (.unreadable failure bytes) (.error (.io failure))
  /-- A line has a fault. -/
  | line {source : Source} {place : Nat} {fault : Fault}
      (first : IsFirstFault before source.lines place fault) :
      Fails path before source fault

namespace Registry

/-- The lines of files, one behind the other. -/
def linesOfFiles (files : List (String × List UInt8)) : List (List UInt8) :=
  files.flatMap fun file => Text.lines file.2

/-! ## The first path that fails -/

/-- Files are all read just if a survey of their lines finds no fault. -/
theorem ofSources_contentsOf_eq_ok_iff (files : List (String × List UInt8)) :
    (ofSources (contentsOf files)).outcome = .ok () ↔
      (Measurement.survey 0 (linesOfFiles files)).2 = .ok () := by
  have all := congrArg Prod.snd (effect_ofSources_contentsOf files)
  change (ofSources (contentsOf files)).outcome = (Measurement.survey 0 (linesOfFiles files)).2
    at all
  rw [all]

/-- Behind a file whose lines have no fault the reading goes on. -/
theorem readSources_of_read {before : Nat} {bytes : List UInt8} {ms : List Measurement}
    (h : Measurement.survey before (Text.lines bytes) = (ms, .ok ())) (r : Registry)
    (path : String) (rest : List (String × Source)) :
    (r.readSources before ((path, .content bytes) :: rest)).outcome =
      ((r.recordAll ms).readSources (before + (Text.lines bytes).length) rest).outcome := by
  rw [readSources_content, Progress.outcome_andThen, outcome_read, registry_read, h]
  rfl

/-- Of what breaks off, the ended lines are read before it fails. -/
theorem effect_readSources_unreadable (r : Registry) (before : Nat) (path : String)
    (failure : IoFailure) (bytes : List UInt8) (rest : List (String × Source)) :
    (r.readSources before ((path, .unreadable failure bytes) :: rest)).effect =
      let found := Measurement.survey before (Source.unreadable failure bytes).lines
      (r.recordAll found.1,
        match found.2 with
        | .ok _ => .error (.error (.io failure))
        | .error fault => .error fault) := by
  rw [readSources, Progress.effect_andThen, outcome_read, registry_read, Source.lines]
  dsimp only
  cases (Measurement.survey before (Text.lines (Text.endedPart bytes))).2 with
  | error fault => rfl
  | ok _ => rfl

theorem outcome_readSources_unreadable (r : Registry) (before : Nat) (path : String)
    (failure : IoFailure) (bytes : List UInt8) (rest : List (String × Source)) :
    (r.readSources before ((path, .unreadable failure bytes) :: rest)).outcome =
      match (Measurement.survey before (Source.unreadable failure bytes).lines).2 with
      | .ok _ => .error (.error (.io failure))
      | .error fault => .error fault :=
  congrArg Prod.snd (effect_readSources_unreadable r before path failure bytes rest)

/-- What breaks off leaves the first of the measurements that the whole file would have left,
whatever was to follow. -/
theorem registry_readSources_unreadable (r : Registry) (before : Nat) (path : String)
    (failure : IoFailure) (bytes : List UInt8) (rest : List (String × Source))
    (further : List UInt8) :
    ∃ ms, ms <+: (Measurement.survey before (Text.lines (bytes ++ further))).1 ∧
      (r.readSources before ((path, .unreadable failure bytes) :: rest)).registry =
        r.recordAll ms :=
  ⟨_, Measurement.survey_prefix (Text.lines_endedPart_prefix bytes further) before,
    congrArg Prod.fst (effect_readSources_unreadable r before path failure bytes rest)⟩

/-- A path that fails ends the reading, whatever is behind it. -/
theorem readSources_of_fails {path : String} {before : Nat} {source : Source} {fault : Fault}
    (h : source.Fails path before fault) (r : Registry) (rest : List (String × Source)) :
    (r.readSources before ((path, source) :: rest)).outcome = .error fault := by
  cases h with
  | closed failure => rfl
  | unreadable sound => rw [outcome_readSources_unreadable, survey_of_faultless sound]
  | line first =>
    cases source with
    | closed failure =>
      obtain ⟨line, found, -⟩ := first.here
      cases found
    | unreadable failure bytes =>
      rw [outcome_readSources_unreadable, survey_of_isFirstFault first]
    | content bytes =>
      rw [Source.lines] at first
      rw [readSources_content, Progress.outcome_andThen, outcome_read,
        survey_of_isFirstFault first]
      rfl

/-- Reading fails just at a path that fails, behind files that are read. -/
theorem readSources_eq_error_iff (r : Registry) (before : Nat) (sources : List (String × Source))
    (fault : Fault) :
    (r.readSources before sources).outcome = .error fault ↔
      ∃ files path source rest, sources = contentsOf files ++ (path, source) :: rest ∧
        (Measurement.survey before (linesOfFiles files)).2 = .ok () ∧
        source.Fails path (before + (linesOfFiles files).length) fault := by
  constructor
  · intro failed
    -- The induction takes files off the front, so each one joins those that the rest gives.
    induction sources generalizing r before with
    | nil => cases failed
    | cons target rest ih =>
      obtain ⟨path, source⟩ := target
      cases source with
      | closed failure =>
        cases failed
        exact ⟨[], path, _, rest, rfl, rfl, .closed failure⟩
      | unreadable failure bytes =>
        refine ⟨[], path, _, rest, rfl, rfl, ?_⟩
        rw [outcome_readSources_unreadable] at failed
        rcases Measurement.survey_cases before (Source.unreadable failure bytes).lines with
          ⟨sound, ends⟩ | ⟨place, other, first, ends⟩
        · rw [ends] at failed
          cases failed
          exact .unreadable sound
        · rw [ends] at failed
          cases failed
          exact .line first
      | content bytes =>
        rcases Measurement.survey_cases before (Text.lines bytes) with
          ⟨-, ends⟩ | ⟨place, other, first, -⟩
        · rw [readSources_of_read ends] at failed
          obtain ⟨files, next, source, later, split, read, fails⟩ := ih _ _ failed
          refine ⟨(path, bytes) :: files, next, source, later, ?_, ?_, ?_⟩
          · rw [split]
            rfl
          · change (Measurement.survey before (Text.lines bytes ++ linesOfFiles files)).2 = _
            rw [Measurement.survey_append, ends]
            exact read
          · change source.Fails next
              (before + (Text.lines bytes ++ linesOfFiles files).length) fault
            rwa [List.length_append, ← Nat.add_assoc]
        · rw [readSources_of_fails (.line first)] at failed
          cases failed
          exact ⟨[], path, _, rest, rfl, rfl, .line first⟩
  · rintro ⟨files, path, source, rest, rfl, read, fails⟩
    have reading := effect_readSources_append r before files ((path, source) :: rest)
    unfold linesOfFiles at read fails
    simp only [read] at reading
    exact (congrArg Prod.snd reading).trans (readSources_of_fails fails _ rest)

/-- Reading a list of paths fails just at a path that fails, behind files that are read. -/
theorem ofSources_eq_error_iff (sources : List (String × Source)) (fault : Fault) :
    (ofSources sources).outcome = .error fault ↔
      ∃ files path source rest, sources = contentsOf files ++ (path, source) :: rest ∧
        (ofSources (contentsOf files)).outcome = .ok () ∧
        source.Fails path (linesOfFiles files).length fault := by
  have same := congrArg Prod.snd (effect_ofSources sources)
  change (ofSources sources).outcome = (empty.readSources 0 sources).outcome at same
  rw [same, readSources_eq_error_iff]
  simp only [ofSources_contentsOf_eq_ok_iff, Nat.zero_add]

end Registry

/-! ## Which failures name the path -/

theorem Source.fails_unopenedFile_iff {path other : String} {before : Nat} {source : Source}
    {failure : IoFailure} :
    source.Fails path before (.error (.unopenedFile other failure)) ↔
      other = path ∧ source = .closed failure := by
  constructor
  · intro h
    cases h with
    | closed _ => exact ⟨rfl, rfl⟩
    | line first =>
      obtain ⟨line, -, faulty⟩ := first.here
      exact absurd faulty Measurement.LineFault.ne_unopenedFile
  · rintro ⟨rfl, rfl⟩
    exact .closed failure

theorem Source.fails_io_iff {path : String} {before : Nat} {source : Source}
    {failure : IoFailure} :
    source.Fails path before (.error (.io failure)) ↔
      (∃ bytes, source = .unreadable failure bytes ∧ Faultless before source.lines) ∨
        failure = .notUtf8 ∧ ∃ place,
          IsFirstFault before source.lines place (.error (.io .notUtf8)) := by
  constructor
  · intro h
    cases h with
    | @unreadable _ bytes sound => exact .inl ⟨bytes, rfl, sound⟩
    | @line _ place _ first =>
      obtain ⟨line, -, faulty⟩ := first.here
      cases faulty.eq_notUtf8
      exact .inr ⟨rfl, place, first⟩
  · rintro (⟨bytes, rfl, sound⟩ | ⟨rfl, place, first⟩)
    · exact .unreadable sound
    · exact .line first

namespace Registry

/-- How a path that cannot be read is reported, for every list of paths.  The report names a
path just if that path cannot be opened and the files in front of it are read without an
error.  It is a failed access without a path just if, behind such files, a path is opened and
reading it fails behind lines without a fault, or the first line of it with a fault is not
UTF-8. -/
theorem ofSources_unreadable_iff (sources : List (String × Source)) :
    (∀ path failure,
      (ofSources sources).outcome = .error (.error (.unopenedFile path failure)) ↔
        ∃ files rest, sources = contentsOf files ++ (path, .closed failure) :: rest ∧
          (ofSources (contentsOf files)).outcome = .ok ()) ∧
      ∀ failure, (ofSources sources).outcome = .error (.error (.io failure)) ↔
        ∃ files path source rest, sources = contentsOf files ++ (path, source) :: rest ∧
          (ofSources (contentsOf files)).outcome = .ok () ∧
          ((∃ bytes, source = .unreadable failure bytes ∧
              Faultless (linesOfFiles files).length source.lines) ∨
            failure = .notUtf8 ∧ ∃ place,
              IsFirstFault (linesOfFiles files).length source.lines place
                (.error (.io .notUtf8))) := by
  refine ⟨fun path failure => ?_, fun failure => ?_⟩
  · rw [ofSources_eq_error_iff]
    simp only [Source.fails_unopenedFile_iff]
    constructor
    · rintro ⟨files, other, source, rest, split, read, rfl, rfl⟩
      exact ⟨files, rest, split, read⟩
    · rintro ⟨files, rest, split, read⟩
      exact ⟨files, path, _, rest, split, read, rfl, rfl⟩
  · rw [ofSources_eq_error_iff]
    simp only [Source.fails_io_iff]

/-- A directory behind a file that is read: the failure is reported, and not the path. -/
theorem directory_not_named :
    (ofSources (contentsOf [("a", Text.encode "noise\n")])).outcome = .ok () ∧
      (ofSources
        [("a", .content (Text.encode "noise\n")), ("d", .unreadable .isDirectory)]).outcome =
        .error (.error (.io .isDirectory)) ∧
      ∀ failure,
        (ofSources
          [("a", .content (Text.encode "noise\n")), ("d", .unreadable .isDirectory)]).outcome ≠
          .error (.error (.unopenedFile "d" failure)) := by
  have reported :
      (ofSources
        [("a", .content (Text.encode "noise\n")), ("d", .unreadable .isDirectory)]).outcome =
        .error (.error (.io .isDirectory)) := by decide +kernel
  refine ⟨by decide +kernel, reported, fun failure other => ?_⟩
  rw [reported] at other
  cases other

end Registry

end BestTimes
