import BestTimes.Proofs.Reading.Summary
import BestTimes.Proofs.Report.Order
import BestTimes.Proofs.Report.Text
set_option autoImplicit false

/-!
# The tokens of measurement lines

Noise lines, blanks and the ends of lines make no difference to the times of a text, nor to
the comparisons: two texts whose marked lines have the same tokens are read alike and have
reports that agree (`ofText_agrees_of_tokens`).

A survey of lines remembers two things that the tokens do not determine, the lines
themselves and the numbers of malformed ones.  Without these it is a survey of the token
lists of the marked lines (`survey_eq_surveyTokens`), and the rest of the report sees no
more than the times.
-/

namespace BestTimes

/-- An error without the number of its line. -/
def Error.unplaced : Error → Error
  | .malformedLine _ defect => .malformedLine 0 defect
  | cause => cause

/-- A fault without the number of its line. -/
def Fault.unplaced : Fault → Fault
  | .error cause => .error cause.unplaced
  | .overflow kind => .overflow kind

namespace Measurement

/-! ## Surveys of tokens -/

/-- The token lists of the marked ones among lines. -/
def tokensOf (lines : List String) : List (List String) := (lines.filter Marked).map tokens

/-- The time that the tokens of a marked line give, or what is wrong with them. -/
def timeOf? (line : List String) : Except Error (String × Nanos) :=
  ((ofFields 0 "" line).map time).mapError Error.unplaced

/-- What token lists hold: the times in front of the first that is no measurement, and
what is wrong with that one. -/
def surveyTokens : List (List String) → List (String × Nanos) × Except Error Unit
  | [] => ([], .ok ())
  | line :: rest =>
    match timeOf? line with
    | .error cause => ([], .error cause)
    | .ok found =>
      let later := surveyTokens rest
      (found :: later.1, later.2)

/-- The number of a line and its text are no part of what its tokens give. -/
theorem timeOf?_eq (number : Nat) (line : String) (fields : List String) :
    timeOf? fields = ((ofFields number line fields).map time).mapError Error.unplaced := by
  unfold timeOf? ofFields
  split
  · rename_i name _ _ _ value unit _
    cases Numeral.ofChars? value.toList with
    | none => rfl
    | some numeral =>
      simp only
      split
      · cases TimeUnit.ofString unit with
        | error cause => rfl
        | ok u => rfl
      · rfl
  · rfl

theorem ofBytes?_encode_of_fits {before : Nat} (fits : before + 1 < lineLimit) (line : String) :
    ofBytes? before (Text.encode line) = (ofLine? line (before + 1)).mapError .error := by
  unfold ofBytes?
  rw [Text.decode_encode]
  exact if_pos fits

/-- Without lines and numbers, a survey of lines is one of the tokens of the marked ones. -/
theorem survey_eq_surveyTokens {lines : List String} {before : Nat}
    (fits : before + lines.length < lineLimit) :
    (survey before (lines.map Text.encode)).1.map time = (surveyTokens (tokensOf lines)).1 ∧
      (survey before (lines.map Text.encode)).2.mapError Fault.unplaced =
        (surveyTokens (tokensOf lines)).2.mapError .error := by
  induction lines generalizing before with
  | nil => exact ⟨rfl, rfl⟩
  | cons line lines ih =>
    rw [List.length_cons] at fits
    obtain ⟨times, ended⟩ := @ih (before + 1) (by omega)
    rw [List.map_cons, survey, ofBytes?_encode_of_fits (by omega)]
    unfold tokensOf at times ended ⊢
    -- A marked line adds its tokens, which say the same about it; another line adds nothing.
    by_cases marked : Marked line
    · have said := timeOf?_eq (before + 1) (Text.stripped line) (tokens line)
      rw [ofLine?_of_marked marked, List.filter_cons_of_pos (by simpa using marked), List.map_cons,
        surveyTokens, said]
      unfold tokens
      cases ofFields (before + 1) (Text.stripped line)
          ((Text.fields line.toList).map String.ofList) with
      | error cause => exact ⟨rfl, rfl⟩
      | ok m =>
        refine ⟨?_, ended⟩
        exact congrArg (time m :: ·) times
    · rw [ofLine?_of_not_marked marked, List.filter_cons_of_neg (by simpa using marked)]
      exact ⟨times, ended⟩

end Measurement

/-! ## How a reading ends -/

theorem exists_of_unplaced {α : Type} {x : Except Fault α} {cause : Error}
    (h : x.mapError Fault.unplaced = .error (.error cause)) :
    ∃ placed, x = .error (.error placed) ∧ placed.unplaced = cause := by
  cases x with
  | ok a => cases h
  | error fault =>
    cases fault with
    | overflow kind => cases h
    | error placed =>
      cases h
      exact ⟨placed, rfl, rfl⟩

theorem eq_ok_of_unplaced {α : Type} {x : Except Fault α} {a : α}
    (h : x.mapError Fault.unplaced = .ok a) : x = .ok a := by
  cases x with
  | ok b => exact h
  | error fault => cases h

namespace Registry

variable {r s : Registry}

/-- How the reading of a text ends, seen from its lines. -/
theorem outcome_ofText_eq_ok_iff (text : String) (count : Nat) :
    (ofText text).outcome = .ok count ↔
      (Measurement.survey 0 ((Text.linesOf text).map Text.encode)).2 = .ok () ∧
        count = (Text.linesOf text).length := by
  rw [Text.map_encode_linesOf, Text.length_linesOf]
  exact outcome_read_eq_ok_iff _ _ _ _

theorem outcome_ofText_eq_error_iff (text : String) (fault : Fault) :
    (ofText text).outcome = .error fault ↔
      (Measurement.survey 0 ((Text.linesOf text).map Text.encode)).2 = .error fault := by
  rw [Text.map_encode_linesOf]
  exact outcome_read_eq_error_iff _ _ _ _

/-! ## Registries -/

theorem timesOf_toList (r : Registry) :
    timesOf r.toList =
      (r.toList.map (·.1)).filterMap fun name =>
        (r.nanos? name).map fun nanos => (name, nanos) := by
  conv_lhs => rw [toList_eq_filterMap]
  unfold timesOf nanos?
  rw [List.map_filterMap]
  simp only [Option.map_map, Function.comp_def]

/-- Of measurements with the same times in the same order, the listed times are the same,
in the same order. -/
theorem Summarises.timesOf_toList_eq {ms ns : List Measurement} (h : Summarises r ms)
    (h' : Summarises s ns) (same : ms.map Measurement.time = ns.map Measurement.time) :
    timesOf r.toList = timesOf s.toList := by
  have names : ms.map (·.name) = ns.map (·.name) := by
    have firsts := congrArg (List.map (·.1)) same
    rwa [List.map_map, List.map_map] at firsts
  have stored : r.SameTimes s := h.sameTimes_of_perm h' (.of_eq same)
  rw [timesOf_toList, timesOf_toList, h.map_fst_toList, h'.map_fst_toList, names]
  refine List.filterMap_congr fun name _ => ?_
  rw [stored name]

/-! ## Texts -/

/-- Only the tokens of the measurement lines matter.  The marker of such a line stands
inside one of its tokens.  Take two texts in memory whose marked lines have, line by line,
the same tokens.  Either both are read to their ends, and then they list the same names
in the same order with the same best times, and either both reports are computed, with the
same comparisons and the same difference, or both end in the same fault.  Or both readings
end in the same error, except for the number of a malformed line. -/
theorem ofText_agrees_of_tokens {text other : String} (inMemory : Text.Addressable text)
    (inMemory' : Text.Addressable other)
    (same : Measurement.tokensOf (Text.linesOf text) =
      Measurement.tokensOf (Text.linesOf other)) :
    let r := (ofText text).registry
    let s := (ofText other).registry
    (∀ line, Measurement.Marked line ↔
      ∃ token ∈ Measurement.tokens line, Measurement.marker.toList <:+: token.toList) ∧
    ((∃ count count', (ofText text).outcome = .ok count ∧ (ofText other).outcome = .ok count' ∧
        timesOf r.toList = timesOf s.toList ∧ (∀ name, r.nanos? name = s.nanos? name) ∧
        ((∃ p q, r.report.outcome = .ok p ∧ s.report.outcome = .ok q ∧
            timesOf p.best = timesOf q.best ∧ p.comparisons = q.comparisons ∧
            p.delta = q.delta) ∨
          ∃ fault, r.report.outcome = .error fault ∧ s.report.outcome = .error fault)) ∨
      ∃ cause cause', (ofText text).outcome = .error (.error cause) ∧
        (ofText other).outcome = .error (.error cause') ∧ cause.unplaced = cause'.unplaced) := by
  intro r s
  refine ⟨Measurement.marked_iff_exists_token, ?_⟩
  have numbered {t : String} (h : Text.Addressable t) :
      0 + (Text.linesOf t).length < lineLimit := by
    have few := Nat.lt_trans (Text.length_linesOf_lt h) memoryLimit_lt_lineLimit
    omega
  obtain ⟨times, ended⟩ := Measurement.survey_eq_surveyTokens (numbered inMemory)
  obtain ⟨times', ended'⟩ := Measurement.survey_eq_surveyTokens (numbered inMemory')
  rw [same] at times ended
  have summary : Summarises r _ := summarises_ofText text
  have summary' : Summarises s _ := summarises_ofText other
  rw [← Text.map_encode_linesOf] at summary summary'
  have heard := times.trans times'.symm
  cases outcome : (Measurement.surveyTokens (Measurement.tokensOf (Text.linesOf other))).2 with
  | error cause =>
    rw [outcome] at ended ended'
    obtain ⟨placed, ends, same⟩ := exists_of_unplaced ended
    obtain ⟨placed', ends', same'⟩ := exists_of_unplaced ended'
    exact .inr ⟨placed, placed', (outcome_ofText_eq_error_iff text _).2 ends,
      (outcome_ofText_eq_error_iff other _).2 ends', same.trans same'.symm⟩
  | ok _ =>
    rw [outcome] at ended ended'
    have read := (outcome_ofText_eq_ok_iff text _).2 ⟨eq_ok_of_unplaced ended, rfl⟩
    have read' := (outcome_ofText_eq_ok_iff other _).2 ⟨eq_ok_of_unplaced ended', rfl⟩
    have stored : r.SameTimes s := summary.sameTimes_of_perm summary' (.of_eq heard)
    have listed : timesOf r.toList = timesOf s.toList := summary.timesOf_toList_eq summary' heard
    refine .inl ⟨_, _, read, read', listed, stored, ?_⟩
    rcases stored.agrees summary.listed summary'.listed with ⟨p, q, ends, ends', agrees⟩ | failed
    · refine .inl ⟨p, q, ends, ends', ?_, agrees.comparisons, agrees.delta⟩
      rw [(reportLines_of_report ends).1, (reportLines_of_report ends').1]
      exact listed
    · exact .inr failed

/-- Lines with other noise, blanks and ends: the second text has tabs and no-break spaces,
carriage returns at the ends of lines, and leaves its last line open.  The reports are
computed and agree.  With a malformed line behind them, both texts fail at that line. -/
theorem ofText_agrees_of_other_blanks :
    let text := "manual time: [1 ns 5 ns 9 ns]\nnonbox time: [1 ns 7 ns 9 ns]\n" ++
      "manual+syscalls time: [1 ns 3 us 9 ns]\nwarming up\n" ++
      "nonbox+syscalls time: [1 ns 4 ns 9 ns]\nbox+syscalls time: [1 ns 6 ns 9 ns]\n" ++
      "box+rc+syscalls time: [1 ns 8 ns 9 ns]\nbox+arc+syscalls time: [1 ns 9 ns 9 ns]\n"
    let other := "\r\n\tmanual\u00a0time:  [1 ns 5\u2003ns 9 ns]\r\nnonbox\x0btime: [1 ns 7 ns 9 ns] \n" ++
      "manual+syscalls time: [1 ns 3 us 9 ns]\n  nonbox+syscalls time: [1 ns 4 ns 9 ns]\n" ++
      "box+syscalls time: [1 ns 6 ns\u30009 ns]\r\nnoise\n\nbox+rc+syscalls time: [1 ns 8 ns 9 ns]\n" ++
      "box+arc+syscalls time: [1 ns 9 ns 9 ns]\r"
    let broken := text ++ "broken time: x\n"
    let broken' := other ++ "\nbroken\ttime: x"
    Text.Addressable text ∧ Text.Addressable other ∧
      Measurement.tokensOf (Text.linesOf text) = Measurement.tokensOf (Text.linesOf other) ∧
      (∃ p q, (ofText text).registry.report.outcome = .ok p ∧
        (ofText other).registry.report.outcome = .ok q ∧ timesOf p.best = timesOf q.best ∧
        p.comparisons = q.comparisons ∧ p.delta = q.delta) ∧
      Measurement.tokensOf (Text.linesOf broken) = Measurement.tokensOf (Text.linesOf broken') ∧
      (ofText broken).outcome = .error (.error (.malformedLine 9 (.tooFewFields 3))) ∧
      ∃ cause', (ofText broken').outcome = .error (.error cause') ∧
        cause'.unplaced = .malformedLine 0 (.tooFewFields 3) := by
  intro text other broken broken'
  have ⟨inMemory, inMemory', same, read, computed⟩ :
      Text.Addressable text ∧ Text.Addressable other ∧
        Measurement.tokensOf (Text.linesOf text) = Measurement.tokensOf (Text.linesOf other) ∧
        (ofText text).outcome = .ok 8 ∧
        (ofText text).registry.report.outcome.toBool = true := by decide +kernel
  have ⟨brokenInMemory, brokenInMemory', brokenSame, fails⟩ :
      Text.Addressable broken ∧ Text.Addressable broken' ∧
        Measurement.tokensOf (Text.linesOf broken) = Measurement.tokensOf (Text.linesOf broken') ∧
        (ofText broken).outcome = .error (.error (.malformedLine 9 (.tooFewFields 3))) := by
    decide +kernel
  refine ⟨inMemory, inMemory', same, ?_, brokenSame, fails, ?_⟩
  · rcases (ofText_agrees_of_tokens inMemory inMemory' same).2 with
      ⟨_, _, -, -, -, -, agree | ⟨fault, ends, -⟩⟩ | ⟨_, _, failed, -, -⟩
    · exact agree
    · rw [ends] at computed
      cases computed
    · rw [read] at failed
      cases failed
  · rcases (ofText_agrees_of_tokens brokenInMemory brokenInMemory' brokenSame).2 with
      ⟨_, _, succeeds, -⟩ | ⟨cause, cause', ends, ends', unplaced⟩
    · rw [fails] at succeeds
      cases succeeds
    · rw [fails] at ends
      cases ends
      exact ⟨cause', ends', unplaced.symm⟩

end Registry

end BestTimes
