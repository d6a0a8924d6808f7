import BestTimes.Proofs.Decimal
import BestTimes.Proofs.Reading
import BestTimes.Proofs.Report.Text
set_option autoImplicit false

/-!
# The text report is read as the registry it reports

The text report holds the lines of the best times, and these are lines of benchmark
output.  Read as input, the report gives the registry it was written from
(`textScript_fixed_point`), whether it is complete or not.  There are two sides to it:

* A stored line is one line, and says its measurement again (`Rereadable`).  This holds
  of every registry that was read from a text (`rereadable_ofText`).
* The other lines of the report are `Plain`: without a colon they are no measurements.
-/

namespace BestTimes

/-! ## Plain lines -/

namespace Text

/-- Whether a text has no colon and no end of a line in it. -/
def Plain (text : List Char) : Prop := ∀ c ∈ text, c ≠ ':' ∧ c ≠ '\n' ∧ c ≠ '\r'

instance (text : List Char) : Decidable (Plain text) := List.decidableBAll _ text

theorem Plain.append {text other : List Char} (h : Plain text) (k : Plain other) :
    Plain (text ++ other) :=
  List.forall_mem_append.2 ⟨h, k⟩

theorem plain_of_numeric {text : List Char} (h : Decimal.Numeric text) : Plain text := by
  have others : Decimal.isNumeric ':' = false ∧ Decimal.isNumeric '\n' = false ∧
      Decimal.isNumeric '\r' = false := by decide
  intro c m
  have numeric := h c m
  refine ⟨?_, ?_, ?_⟩
  all_goals
    rintro rfl
    simp_all

theorem Plain.oneLine {line : String} (h : Plain line.toList) : OneLine line := by
  constructor
  · intro feed
    exact (h _ feed).2.1 rfl
  · intro last
    exact (h _ (List.mem_of_getLast? last)).2.2 rfl

theorem Plain.not_marked {line : String} (h : Plain line.toList) :
    ¬ Measurement.Marked line := by
  intro marked
  have colon : ':' ∈ Measurement.marker.toList := by decide
  exact (h _ (marked.subset colon)).1 rfl

end Text

theorem Comparison.plain_text {c : Comparison}
    (h : (c.numerator, c.denominator) ∈ comparedPairs) : Text.Plain c.text.toList := by
  have names : ∀ pair ∈ comparedPairs,
      Text.Plain pair.1.toList ∧ Text.Plain pair.2.toList := by decide
  obtain ⟨numerator, denominator⟩ := names _ h
  have number (x : Binary64) : Text.Plain (Decimal.significant printedDigits x).toList :=
    Text.plain_of_numeric (Decimal.numeric_significant _ x)
  unfold text
  simp only [String.toList_append]
  refine .append (.append (.append (.append (.append (.append (.append numerator ?_) denominator)
    ?_) (number _)) ?_) (number _)) ?_
  all_goals decide

theorem Delta.plain_text (d : Delta) : Text.Plain d.text.toList := by
  have integer (i : Int) : Text.Plain (Decimal.integerText i).toList := by
    unfold Decimal.integerText
    rw [String.toList_ofList]
    exact Text.plain_of_numeric (Decimal.numeric_integer i)
  have natural (n : Nat) : Text.Plain (Decimal.naturalText n).toList := by
    unfold Decimal.naturalText
    rw [String.toList_ofList]
    exact Text.plain_of_numeric (Decimal.allDigits_toDigits n).numeric
  unfold text
  simp only [String.toList_append]
  refine .append (.append (.append (.append (.append (.append ?_ (integer _)) ?_) (natural _))
    ?_) (integer _)) ?_
  all_goals decide

namespace Registry

/-- Behind the best times, no line of the report can be taken for a measurement. -/
theorem plain_comparisonLines (r : Registry) :
    ∀ line ∈ comparisonLines r.compareAll, Text.Plain line.toList := by
  intro line hl
  unfold comparisonLines at hl
  cases compared : r.compareAll.outcome with
  | error fault =>
    rw [compared] at hl
    cases hl
  | ok comparisons =>
    rw [compared] at hl
    rcases List.mem_append.1 hl with hl | hl
    · rcases List.mem_append.1 hl with hl | hl
      · obtain ⟨c, hc, rfl⟩ := List.mem_map.1 hl
        apply c.plain_text
        rw [← names_of_compareAll compared]
        exact List.mem_map_of_mem hc
      · rw [List.mem_singleton.1 hl]
        decide
    · cases difference : r.compareAll.registry.delta with
      | error fault =>
        rw [difference] at hl
        cases hl
      | ok delta =>
        rw [difference] at hl
        rw [List.mem_singleton.1 hl]
        exact delta.plain_text

theorem length_comparisonLines_le (r : Registry) :
    (comparisonLines r.compareAll).length ≤ comparedPairs.length + 2 := by
  unfold comparisonLines
  cases compared : r.compareAll.outcome with
  | error fault => exact Nat.zero_le _
  | ok comparisons =>
    have count := congrArg List.length (names_of_compareAll compared)
    rw [List.length_map] at count
    cases r.compareAll.registry.delta with
    | error fault => simp [count]
    | ok delta => simp [count]

/-! ## Stored lines -/

/-- Whether the lines of the best times, written as lines, say the best times again. -/
structure Rereadable (r : Registry) : Prop where
  listed : r.AllListed
  oneLine : ∀ e ∈ r.entries, Text.OneLine e.timing.line
  same : ∀ e ∈ r.entries, ∀ number,
    Measurement.ofLine? e.timing.line number = .ok (some ⟨e.name, e.timing⟩)

/-- A stripped line of a text is one line: it ends in no blank. -/
theorem oneLine_stripped {bytes : List UInt8} {line : String}
    (h : Text.encode line ∈ Text.lines bytes) : Text.OneLine (Text.stripped line) := by
  unfold Text.stripped Text.OneLine
  rw [String.toList_ofList]
  constructor
  · intro feed
    have inside := (Text.mem_encode_iff line (by decide)).2 (Text.mem_of_mem_trim feed)
    exact Text.feed_notMem_of_mem_lines h inside
  · intro last
    have blank := Text.isBlank_getLast_trim last
    exact absurd blank (by decide)

/-- A registry that was read from a text is rereadable. -/
theorem rereadable_ofText (text : String) : Rereadable (ofText text).registry := by
  have summary := summarises_ofText text
  have origin : ∀ e ∈ (ofText text).registry.entries, ∃ line number,
      Text.encode line ∈ Text.lines (Text.encode text) ∧
        Measurement.ofLine? line number = .ok (some ⟨e.name, e.timing⟩) := by
    intro e he
    obtain ⟨bytes, mem, line, number, decoded, read⟩ :=
      Measurement.exists_line_of_mem_survey (summary.measurement_mem he)
    refine ⟨line, number, ?_, read⟩
    rw [Text.encode_of_decode decoded]
    exact mem
  refine ⟨summary.listed, ?_, ?_⟩
  · intro e he
    obtain ⟨line, number, mem, read⟩ := origin e he
    have kept : e.timing.line = Text.stripped line := Measurement.line_of_ofLine? read
    rw [kept]
    exact oneLine_stripped mem
  · intro e he other
    obtain ⟨line, number, mem, read⟩ := origin e he
    exact Measurement.ofLine?_line read other

/-! ## Reading the report -/

/-- The lines of the report are those of the best times, and others that are plain. -/
theorem exists_reportLines_eq {r : Registry} (listed : r.AllListed) :
    ∃ others, r.reportLines = r.entries.map (·.timing.line) ++ others ∧
      (∀ line ∈ others, Text.Plain line.toList) ∧ others.length ≤ comparedPairs.length + 3 := by
  refine ⟨"" :: comparisonLines r.compareAll, ?_, ?_, ?_⟩
  · unfold reportLines
    rw [listed.toList, List.map_map, List.append_assoc, List.singleton_append]
    rfl
  · exact List.forall_mem_cons.2 ⟨by decide, r.plain_comparisonLines⟩
  · rw [List.length_cons]
    exact Nat.succ_le_succ r.length_comparisonLines_le

theorem Rereadable.oneLine_reportLines {r : Registry} (h : Rereadable r) :
    ∀ line ∈ r.reportLines, Text.OneLine line := by
  obtain ⟨others, split, plain, -⟩ := exists_reportLines_eq h.listed
  rw [split, List.forall_mem_append, List.forall_mem_map]
  exact ⟨h.oneLine, fun line hl => (plain line hl).oneLine⟩

theorem Rereadable.legible_reportLines {r : Registry} (h : Rereadable r) :
    ∀ line ∈ r.reportLines, Measurement.Legible line := by
  obtain ⟨others, split, plain, -⟩ := exists_reportLines_eq h.listed
  rw [split, List.forall_mem_append, List.forall_mem_map]
  exact ⟨fun e he => .inr ⟨1, _, h.same e he 1⟩, fun line hl => .inl (plain line hl).not_marked⟩

/-- The measurements in the report are the best times, in order. -/
theorem Rereadable.ofLines_reportLines {r : Registry} (h : Rereadable r) :
    Measurement.ofLines r.reportLines = r.measurements := by
  obtain ⟨others, split, plain, -⟩ := exists_reportLines_eq h.listed
  have best : Measurement.ofLines (r.entries.map (·.timing.line)) = r.measurements := by
    unfold Measurement.ofLines measurements
    rw [List.filterMap_map, ← List.filterMap_eq_map]
    refine List.filterMap_congr fun e he => ?_
    exact Measurement.inLine?_of_ofLine? (h.same e he 1)
  have none : Measurement.ofLines others = [] := by
    unfold Measurement.ofLines
    rw [List.filterMap_eq_nil_iff]
    exact fun line hl => Measurement.inLine?_of_not_marked (plain line hl).not_marked
  calc Measurement.ofLines r.reportLines
      = Measurement.ofLines (r.entries.map (·.timing.line)) ++ Measurement.ofLines others := by
        rw [split]
        exact List.filterMap_append
    _ = r.measurements := by rw [best, none, List.append_nil]

/-- The report of a rereadable registry, read as input, is that registry. -/
theorem Rereadable.ofText_of_ended {r : Registry} (h : Rereadable r)
    (fits : r.entries.length < Text.memoryLimit) {output : String}
    (spelled : Text.encode output = Text.ended r.reportLines) :
    (ofText output).outcome = .ok r.reportLines.length ∧ (ofText output).registry = r := by
  have cut := Text.linesOf_of_ended spelled h.oneLine_reportLines
  have count : r.reportLines.length < lineLimit := by
    obtain ⟨others, split, -, few⟩ := exists_reportLines_eq h.listed
    have pairs : comparedPairs.length = 6 := rfl
    unfold Text.memoryLimit at fits
    unfold lineLimit
    rw [split, List.length_append, List.length_map]
    omega
  rw [← cut] at count
  obtain ⟨outcome, registry⟩ := ofText_of_legible count (by rw [cut]; exact h.legible_reportLines)
  rw [cut] at outcome registry
  refine ⟨outcome, ?_⟩
  rw [registry, h.ofLines_reportLines, recordAll_measurements h.listed]

/-- Of a text in memory there are fewer benchmarks than memory has bytes. -/
theorem length_entries_ofText_lt {text : String} (inMemory : Text.Addressable text) :
    (ofText text).registry.entries.length < Text.memoryLimit := by
  calc (ofText text).registry.entries.length
      ≤ (Measurement.survey 0 (Text.lines (Text.encode text))).1.length :=
        (summarises_ofText text).length_entries_le
    _ ≤ (Text.lines (Text.encode text)).length := Measurement.length_survey_le _ _
    _ ≤ (Text.encode text).length := Text.length_lines_le _
    _ < Text.memoryLimit := by rw [Text.length_encode]; exact inMemory

/-- The report tells registries apart. -/
theorem Rereadable.eq_of_bytes_eq {r s : Registry} (h : Rereadable r) (h' : Rereadable s)
    (fits : r.entries.length < Text.memoryLimit) (fits' : s.entries.length < Text.memoryLimit)
    (same : (r.textScript.run none).bytes = (s.textScript.run none).bytes) : r = s := by
  obtain ⟨output, spelled⟩ := Text.exists_encode_eq_ended r.reportLines
  rw [bytes_textScript, bytes_textScript] at same
  obtain ⟨-, first⟩ := h.ofText_of_ended fits spelled
  obtain ⟨-, second⟩ := h'.ofText_of_ended fits' (spelled.trans same)
  exact first.symm.trans second

/-- The text report is a fixed point.  What is written for the registry of a text is
read without an error, however the writing ended, and as the same registry: the same
names in the same order, with the same times and lines.  So writing the report again
gives the same bytes and ends in the same way. -/
theorem textScript_fixed_point {text : String} (inMemory : Text.Addressable text) :
    let r := (ofText text).registry
    ∃ output, Text.encode output = (r.textScript.run none).bytes ∧
      (∃ count, (ofText output).outcome = .ok count) ∧ (ofText output).registry = r ∧
      (ofText output).registry.textScript.run none = r.textScript.run none := by
  intro r
  have fits : r.entries.length < Text.memoryLimit := length_entries_ofText_lt inMemory
  obtain ⟨output, spelled⟩ := Text.exists_encode_eq_ended r.reportLines
  obtain ⟨outcome, registry⟩ := (rereadable_ofText text).ofText_of_ended fits spelled
  refine ⟨output, ?_, ⟨_, outcome⟩, registry, ?_⟩
  · rw [spelled, bytes_textScript]
  · rw [registry]

/-- A report that stops at a missing benchmark. -/
theorem textScript_fixed_point_of_turns :
    let text := "  b time: [1 ns 5 ns 9 ns]\r\nwarming up\na time: [1 ns 7 ns 9 ns] \n" ++
      "b time: [1 ns 3 ns 9 ns]"
    let r := (ofText text).registry
    Text.Addressable text ∧ (ofText text).outcome = .ok 4 ∧
      (r.textScript.run none).bytes =
        Text.encode "b time: [1 ns 3 ns 9 ns]\na time: [1 ns 7 ns 9 ns]\n\n" ∧
      (r.textScript.run none).outcome = .error (.error (.missingBenchmark "manual+syscalls")) ∧
      ∃ output, Text.encode output = (r.textScript.run none).bytes ∧
        (∃ count, (ofText output).outcome = .ok count) ∧ (ofText output).registry = r ∧
        (ofText output).registry.textScript.run none = r.textScript.run none := by
  intro text r
  have inMemory : Text.Addressable text := by decide +kernel
  refine ⟨inMemory, ?_, ?_, ?_, textScript_fixed_point inMemory⟩
  all_goals decide +kernel

end Registry

end BestTimes
