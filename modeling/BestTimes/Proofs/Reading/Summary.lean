import BestTimes.Proofs.Reading
import Mathlib.Control.Monad.Basic
set_option autoImplicit false

/-!
# The registry of a text

Reading keeps for every benchmark the best time so far.  What is left at the end can be
said without the order of the steps: `ofText_summary` describes the registry of a text
by the measurements of the text as a whole.
-/

namespace BestTimes.Registry

variable {r : Registry} {ms : List Measurement}

/-- A registry that summarises measurements lists every name once, in the order of the
first measurements. -/
theorem Summarises.map_fst_toList (h : Summarises r ms) :
    r.toList.map (·.1) = (ms.map (·.name)).eraseDups := by
  rw [h.listed.toList, List.map_map, ← h.names_eq]
  rfl

theorem Summarises.get?_of_mem_toList (h : Summarises r ms) {entry : String × Timing}
    (listed : entry ∈ r.toList) : r.get? entry.1 = some entry.2 := by
  rw [h.listed.toList] at listed
  obtain ⟨e, he, rfl⟩ := List.mem_map.1 listed
  exact get?_of_mem he

theorem Summarises.get?_eq_none_iff_ms (h : Summarises r ms) (name : String) :
    r.get? name = none ↔ name ∉ ms.map (·.name) := by
  rw [get?_eq_none_iff_names, h.mem_names_iff]

/-- What is stored for a name is the first of the least times measured for it, and
nothing else is. -/
theorem Summarises.get?_eq_some_iff (h : Summarises r ms) (name : String) (t : Timing) :
    r.get? name = some t ↔ FirstLeast (timingsOf name ms) t :=
  (h.keeps name).get?_eq_some_iff t

/-- The registry of a text whose lines are all legible.  The text is read to its end,
with a measurement for every marked line.  The registry lists the names of the
measurements, each once and in the order of the first of them; the time and the line of
a name are those of the first of its least measurements; and no other name is in it. -/
theorem ofText_summary {text : String} (inMemory : Text.Addressable text)
    (legible : ∀ line ∈ Text.linesOf text, Measurement.Legible line) :
    let r := (ofText text).registry
    let ms := Measurement.ofLines (Text.linesOf text)
    (ofText text).outcome = .ok (Text.linesOf text).length ∧
      (∀ line ∈ Text.linesOf text, ∀ number,
        Measurement.ofLine? line number = .ok (Measurement.inLine? line)) ∧
      ms.map (·.timing.line) =
        ((Text.linesOf text).filter Measurement.Marked).map Text.stripped ∧
      r.toList.map (·.1) = (ms.map (·.name)).eraseDups ∧
      (r.toList.map (·.1)).Nodup ∧
      (∀ entry ∈ r.toList, r.get? entry.1 = some entry.2) ∧
      (∀ name t, r.get? name = some t ↔ FirstLeast (timingsOf name ms) t) ∧
      (∀ name, r.get? name = none ↔ name ∉ ms.map (·.name)) ∧
      r.size = (ms.map (·.name)).eraseDups.length := by
  have count := Text.length_linesOf_lt inMemory
  obtain ⟨outcome, registry⟩ :=
    ofText_of_legible (Nat.lt_trans count memoryLimit_lt_lineLimit) legible
  have summary := summarises_recordAll (Measurement.ofLines (Text.linesOf text))
  simp only [registry]
  refine ⟨outcome, fun line hl => Measurement.ofLine?_of_legible (legible line hl),
    Measurement.map_line_ofLines legible, summary.map_fst_toList, ?_,
    fun _ => summary.get?_of_mem_toList, summary.get?_eq_some_iff, summary.get?_eq_none_iff_ms, ?_⟩
  · rw [summary.map_fst_toList, ← summary.names_eq]
    exact (empty.recordAll _).distinct
  · unfold size
    rw [← summary.map_fst_toList, List.length_map]

/-- Two benchmarks in turns, with a better time, a tie and blanks at the ends of a line. -/
theorem ofText_summary_of_turns :
    let text := "b time: [1 ns 5 ns 9 ns]\nwarming up\na time: [1 ns 7 ns 9 ns]\n" ++
      "  b time: [0 ns 3 ns 1 ns] \r\nb time: [2 ns 3 ns 4 ns]\na time: [1 ns 7 ns 8 ns]"
    Text.Addressable text ∧ (∀ line ∈ Text.linesOf text, Measurement.Legible line) ∧
      (ofText text).outcome = .ok 6 ∧
      (ofText text).registry.toList.map (·.1) = ["b", "a"] ∧
      (ofText text).registry.get? "b" =
        some ⟨⟨3, by decide, by decide⟩, "b time: [0 ns 3 ns 1 ns]"⟩ ∧
      FirstLeast (timingsOf "b" (Measurement.ofLines (Text.linesOf text)))
        ⟨⟨3, by decide, by decide⟩, "b time: [0 ns 3 ns 1 ns]"⟩ := by
  intro text
  have inMemory : Text.Addressable text := by decide +kernel
  have legible : ∀ line ∈ Text.linesOf text, Measurement.Legible line := by decide +kernel
  obtain ⟨outcome, -, -, names, -, -, least, -, -⟩ := ofText_summary inMemory legible
  have stored : (ofText text).registry.get? "b" =
      some ⟨⟨3, by decide, by decide⟩, "b time: [0 ns 3 ns 1 ns]"⟩ := by decide +kernel
  refine ⟨inMemory, legible, outcome.trans ?_, names.trans ?_, stored, (least _ _).1 stored⟩
  · decide +kernel
  · decide +kernel

end BestTimes.Registry
