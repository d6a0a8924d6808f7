import BestTimes.Proofs.Reading.Again
import BestTimes.Proofs.Reading.Files
import BestTimes.Proofs.Reading.Summary
import BestTimes.Proofs.Report.FixedPoint
set_option autoImplicit false

/-!
# A text that is repeated

Measurements that are recorded again change nothing (`Summarises.recordAll_of_subset`), so
a text with itself behind it gives the report of the text, if its lines are the lines of the
text twice over.  They are if the text ends with a line feed.  If it does not, its first
line goes on with its last one: where the copies meet there is one line (`seam?`), in the
place of the open last line of the first copy and of the first line of the second one
(`linesTwice`).

`double_text_iff` says when that line does no harm: the repeated text is read to its end if
the seam is legible, and gives the same report if the seam is no measurement, or if the best
time of its benchmark is still the first of the least among the measurements of the lines of
the repeated text, the seam being one of them.
-/

namespace BestTimes

namespace Text

/-- The line that the open last line of a text makes with its first line. -/
def seam? (text : String) : Option String :=
  if Complete (encode text) then none
  else some ((linesOf text).getLastD "" ++ (linesOf text).headD "")

/-- The lines of a text with itself behind it. -/
def linesTwice (text : String) : List String :=
  match seam? text with
  | none => linesOf text ++ linesOf text
  | some seam => (linesOf text).dropLast ++ seam :: (linesOf text).tail

theorem seam?_eq_none_iff (text : String) : seam? text = none ↔ Complete (encode text) := by
  unfold seam?
  split <;> simp_all

theorem linesTwice_of_complete {text : String} (h : Complete (encode text)) :
    linesTwice text = linesOf text ++ linesOf text := by
  unfold linesTwice
  rw [(seam?_eq_none_iff text).2 h]

/-- A text with an open line has a first line and a last one. -/
theorem exists_ends_of_open {text : String} (h : ¬ Complete (encode text)) :
    ∃ front last first later, linesOf text = front ++ [last] ∧ linesOf text = first :: later ∧
      seam? text = some (last ++ first) ∧
      linesTwice text = front ++ (last ++ first) :: later := by
  have nonempty : linesOf text ≠ [] := by
    obtain ⟨front, last, cut, -⟩ := exists_open_line h
    intro none
    rw [← map_encode_linesOf, none] at cut
    simp at cut
  cases cut : linesOf text with
  | nil => exact absurd cut nonempty
  | cons first later =>
    have seam : seam? text = some ((first :: later).getLast (List.cons_ne_nil _ _) ++ first) := by
      unfold seam?
      rw [if_neg h, cut, List.headD_cons, List.getLastD_cons, ← List.getLast_eq_getLastD]
    refine ⟨(first :: later).dropLast, (first :: later).getLast (List.cons_ne_nil _ _), first,
      later, (List.dropLast_append_getLast _).symm, rfl, seam, ?_⟩
    unfold linesTwice
    rw [seam, cut]
    rfl

theorem mem_of_mem_linesTwice {text line : String} (h : line ∈ linesTwice text) :
    line ∈ linesOf text ∨ line ∈ seam? text := by
  unfold linesTwice at h
  split at h
  · exact .inl ((List.mem_append.1 h).elim id id)
  · rename_i seam between
    rcases List.mem_append.1 h with front | back
    · exact .inl (List.dropLast_subset _ front)
    · rcases List.mem_cons.1 back with rfl | back
      · exact .inr between
      · exact .inl (List.mem_of_mem_tail back)

theorem mem_linesTwice_of_seam {text seam : String} (h : seam ∈ seam? text) :
    seam ∈ linesTwice text := by
  unfold linesTwice
  rw [Option.mem_def.1 h]
  exact List.mem_append_right _ List.mem_cons_self

end Text

namespace Measurement

/-- The lines of a repeated text are read as its `linesTwice`. -/
theorem readAlike_linesTwice (text : String) :
    List.Forall₂ ReadAlike (Text.lines (Text.encode (text ++ text)))
      ((Text.linesTwice text).map Text.encode) := by
  have same (cut : List (List UInt8)) : List.Forall₂ ReadAlike cut cut :=
    List.forall₂_same.2 fun _ _ _ => rfl
  rw [Text.encode_append]
  by_cases complete : Text.Complete (Text.encode text)
  · rw [Text.lines_append_of_complete complete, Text.linesTwice_of_complete complete,
      List.map_append, Text.map_encode_linesOf]
    exact same _
  · obtain ⟨front, last, first, later, cut, cut', -, twice⟩ := Text.exists_ends_of_open complete
    obtain ⟨front', last', open', follows⟩ := Text.exists_open_line complete
    rw [← Text.map_encode_linesOf, cut, List.map_append] at open'
    obtain ⟨rfl, same'⟩ := List.append_inj' open' rfl
    obtain rfl := (List.cons.inj same').1
    have begins : Text.lines (Text.encode text) = Text.encode first :: later.map Text.encode := by
      rw [← Text.map_encode_linesOf, cut', List.map_cons]
    obtain ⟨seam, goesOn, alike⟩ := @Text.exists_seam (Text.encode last) _ _ _ begins
    have seamAlike : ReadAlike seam (Text.encode (last ++ first)) := by
      rw [Text.encode_append]
      rcases alike with rfl | longer
      · exact fun _ => rfl
      · intro before
        rw [longer]
        exact (readAlike_append_return seam before).symm
    rw [follows, goesOn, twice, List.map_append, List.map_cons]
    exact List.rel_append (same _) (.cons seamAlike (same _))

theorem ofLines_cons (line : String) (lines : List String) :
    ofLines (line :: lines) = (inLine? line).toList ++ ofLines lines := by
  unfold ofLines
  cases found : inLine? line <;> simp [found]

theorem ofLines_append (lines others : List String) :
    ofLines (lines ++ others) = ofLines lines ++ ofLines others := List.filterMap_append

theorem ofLines_concat (lines : List String) (line : String) :
    ofLines (lines ++ [line]) = ofLines lines ++ (inLine? line).toList := by
  rw [ofLines_append, ofLines_cons]
  exact congrArg _ (List.append_nil _)

/-- A line is no measurement if it legibly goes on with itself and still is none. -/
theorem inLine?_eq_none_of_double {line : String} (legible : Legible (line ++ line))
    (silent : inLine? (line ++ line) = none) : inLine? line = none := by
  have unmarked : ¬ Marked (line ++ line) := by
    refine ((legible_iff _).1 legible).resolve_right ?_
    rw [silent]
    exact Bool.false_ne_true
  refine inLine?_of_not_marked fun marked => unmarked ?_
  unfold Marked
  rw [String.toList_append]
  exact List.infix_append_of_infix_left marked

end Measurement

namespace Registry

variable {r s : Registry} {ms ns : List Measurement}

/-! ## Recording again -/

/-- A measurement that was recorded is settled. -/
theorem Summarises.settled (h : Summarises r ms) {m : Measurement} (known : m ∈ ms) :
    r.Settled m := by
  have among : m.timing ∈ timingsOf m.name ms :=
    List.mem_map_of_mem (List.mem_filter.2 ⟨known, decide_eq_true rfl⟩)
  cases stored : r.get? m.name with
  | none =>
    rw [h.get?_eq_none_iff_ms] at stored
    exact absurd (List.mem_map_of_mem known) stored
  | some best => exact ⟨best, stored, (h.firstLeast m.name best stored).le m.timing among⟩

theorem Summarises.recordAll_of_subset (h : Summarises r ms) (known : ∀ m ∈ ns, m ∈ ms) :
    r.recordAll ns = r :=
  (recordAll_of_settled fun m own => h.settled (known m own)).1

/-- A registry is determined by the names and by the first of the least times of each. -/
theorem Summarises.eq_of_get?_eq (h : Summarises r ms) (h' : Summarises s ns)
    (names : (ms.map (·.name)).eraseDups = (ns.map (·.name)).eraseDups)
    (stored : ∀ name, r.get? name = s.get? name) : r = s := by
  have lists : r.toList = s.toList := by
    rw [toList_eq_filterMap r, toList_eq_filterMap s, h.map_fst_toList, h'.map_fst_toList, names]
    simp only [stored]
  have same : r.measurements = s.measurements := by
    rw [h.listed.toList, h'.listed.toList] at lists
    have listed := congrArg (List.map fun e => (⟨e.1, e.2⟩ : Measurement)) lists
    rwa [List.map_map, List.map_map] at listed
  rw [← recordAll_measurements h.listed, ← recordAll_measurements h'.listed, same]

theorem names_insert {front : List String} {name : String} {back : List String}
    (few : back.length ≤ 1) (known : name ∈ front ++ back) :
    (front ++ name :: back).eraseDups = (front ++ back).eraseDups := by
  cases back with
  | nil =>
    rw [List.append_nil] at known ⊢
    rw [eraseDups_concat, if_pos known]
  | cons last back =>
    obtain rfl : back = [] := by simpa using few
    rw [List.append_cons, eraseDups_concat, eraseDups_concat, eraseDups_concat]
    by_cases inFront : name ∈ front
    · have same : last ∈ front ++ [name] ↔ last ∈ front := by
        rw [List.mem_append, List.mem_singleton]
        exact or_iff_left_of_imp fun own => own ▸ inFront
      simp only [if_pos inFront, same]
    · obtain rfl : name = last := by simpa [inFront] using known
      simp [inFront]

/-- Measurements that are repeated at once can be left out. -/
theorem recordAll_repeated {front again : List Measurement} (known : ∀ m ∈ again, m ∈ front)
    (back : List Measurement) :
    empty.recordAll (front ++ (again ++ back)) = empty.recordAll (front ++ back) := by
  rw [recordAll_append, recordAll_append, recordAll_append,
    (summarises_recordAll front).recordAll_of_subset known]

theorem exists_get?_recordAll {m : Measurement} (known : m ∈ ms) :
    ∃ best, (empty.recordAll ms).get? m.name = some best := by
  cases stored : (empty.recordAll ms).get? m.name with
  | none =>
    rw [(summarises_recordAll ms).get?_eq_none_iff_ms] at stored
    exact absurd (List.mem_map_of_mem known) stored
  | some best => exact ⟨best, rfl⟩

/-- A measurement in front of the last one changes nothing just if it leaves the best time
of its benchmark, which must be there without it. -/
theorem recordAll_insert_iff {front back : List Measurement} (few : back.length ≤ 1)
    (m : Measurement) :
    empty.recordAll (front ++ m :: back) = empty.recordAll (front ++ back) ↔
      ∃ best, (empty.recordAll (front ++ back)).get? m.name = some best ∧
        (empty.recordAll (front ++ m :: back)).get? m.name = some best := by
  have summary := summarises_recordAll (front ++ back)
  have summary' := summarises_recordAll (front ++ m :: back)
  constructor
  · intro same
    obtain ⟨best, stored⟩ := exists_get?_recordAll (List.mem_append_right front List.mem_cons_self)
    exact ⟨best, same ▸ stored, stored⟩
  · rintro ⟨best, stored, stored'⟩
    have known : m.name ∈ front.map (·.name) ++ back.map (·.name) := by
      rw [← List.map_append, ← summary.mem_names_iff]
      exact mem_names_of_stored stored
    refine summary'.eq_of_get?_eq summary ?_ fun name => ?_
    · rw [List.map_append, List.map_cons, List.map_append]
      exact names_insert (by rwa [List.length_map]) known
    · by_cases own : m.name = name
      · rw [← own, stored, stored']
      · refine Option.ext fun t => ?_
        rw [summary'.get?_eq_some_iff, summary.get?_eq_some_iff, timingsOf_append,
          timingsOf_append, ← List.singleton_append, timingsOf_append, timingsOf_singleton,
          if_neg own, List.nil_append]

/-- A measurement takes the place of the only one just if it is the same. -/
theorem recordAll_singleton_iff {only : List Measurement} (few : only.length ≤ 1)
    (m : Measurement) :
    empty.recordAll [m] = empty.recordAll only ↔
      ∃ best, (empty.recordAll only).get? m.name = some best ∧
        (empty.recordAll [m]).get? m.name = some best := by
  constructor
  · intro same
    obtain ⟨best, stored⟩ := exists_get?_recordAll (List.mem_singleton_self m)
    exact ⟨best, same ▸ stored, stored⟩
  · rintro ⟨best, stored, stored'⟩
    rw [(summarises_recordAll _).get?_eq_some_iff] at stored stored'
    have own := stored'.mem
    rw [timingsOf_singleton, if_pos rfl, List.mem_singleton] at own
    have other := stored.mem
    cases only with
    | nil => exact absurd other List.not_mem_nil
    | cons z rest =>
      obtain rfl : rest = [] := by simpa using few
      rw [timingsOf_singleton] at other
      split at other
      · rename_i name
        rw [List.mem_singleton] at other
        have same : m = z := by
          cases m
          cases z
          simp_all
        rw [same]
      · exact absurd other List.not_mem_nil

/-- A line that may be a measurement, between lines of which some come again. -/
theorem recordAll_between_iff {front again back : List Measurement}
    (known : ∀ m ∈ again, m ∈ front) (few : back.length ≤ 1) (seam : Option Measurement) :
    empty.recordAll (front ++ (seam.toList ++ (again ++ back))) =
        empty.recordAll (front ++ back) ↔
      ∀ m ∈ seam, ∃ best, (empty.recordAll (front ++ back)).get? m.name = some best ∧
        (empty.recordAll (front ++ (seam.toList ++ (again ++ back)))).get? m.name = some best := by
  have left : empty.recordAll (front ++ (seam.toList ++ (again ++ back))) =
      empty.recordAll (front ++ (seam.toList ++ back)) := by
    rw [← List.append_assoc, ← List.append_assoc front]
    exact recordAll_repeated (fun m repeated => List.mem_append_left _ (known m repeated)) back
  rw [left]
  cases seam with
  | none => exact ⟨fun _ _ none => (Option.not_mem_none _ none).elim, fun _ => rfl⟩
  | some m => simpa using recordAll_insert_iff few m

/-- A line that may be a measurement, in the place of the only line. -/
theorem recordAll_instead_iff {only : List Measurement} (few : only.length ≤ 1)
    {seam : Option Measurement} (silent : seam = none → only = []) :
    empty.recordAll seam.toList = empty.recordAll only ↔
      ∀ m ∈ seam, ∃ best, (empty.recordAll only).get? m.name = some best ∧
        (empty.recordAll seam.toList).get? m.name = some best := by
  cases seam with
  | none =>
    rw [silent rfl]
    exact ⟨fun _ _ none => (Option.not_mem_none _ none).elim, fun _ => rfl⟩
  | some m => simpa using recordAll_singleton_iff few m

/-! ## Texts -/

/-- What a text with itself behind it leaves is what the text leaves just if the line at the
seam, if it is a measurement, leaves the best time of its benchmark. -/
theorem recordAll_linesTwice_iff {text : String}
    (legible : ∀ seam ∈ Text.seam? text, Measurement.Legible seam) :
    empty.recordAll (Measurement.ofLines (Text.linesTwice text)) =
        empty.recordAll (Measurement.ofLines (Text.linesOf text)) ↔
      ∀ seam ∈ Text.seam? text, ∀ m ∈ Measurement.inLine? seam, ∃ best,
        (empty.recordAll (Measurement.ofLines (Text.linesOf text))).get? m.name = some best ∧
          (empty.recordAll (Measurement.ofLines (Text.linesTwice text))).get? m.name =
            some best := by
  by_cases complete : Text.Complete (Text.encode text)
  · have none := (Text.seam?_eq_none_iff text).2 complete
    rw [Text.linesTwice_of_complete complete, Measurement.ofLines_append, recordAll_append,
      (summarises_recordAll _).recordAll_of_subset fun _ known => known, none]
    exact ⟨fun _ _ seam => (Option.not_mem_none _ seam).elim, fun _ => rfl⟩
  · obtain ⟨front, last, first, later, cut, cut', seam, twice⟩ := Text.exists_ends_of_open complete
    have few : (Measurement.inLine? last).toList.length ≤ 1 := by
      cases Measurement.inLine? last with
      | none => exact Nat.zero_le 1
      | some m => exact Nat.le_refl 1
    rw [cut, twice, Measurement.ofLines_concat, Measurement.ofLines_append,
      Measurement.ofLines_cons]
    simp only [seam, Option.mem_some_iff, forall_eq'] at legible ⊢
    rw [cut] at cut'
    cases front with
    | nil =>
      -- The text is one line, and so is the repeated text.
      obtain ⟨rfl, rfl⟩ := List.cons.inj cut'
      have none : Measurement.ofLines [] = [] := rfl
      rw [none, List.nil_append, List.nil_append, List.append_nil]
      refine recordAll_instead_iff few fun silent => ?_
      rw [Measurement.inLine?_eq_none_of_double legible silent]
      rfl
    | cons line middle =>
      rw [List.cons_append] at cut'
      obtain ⟨rfl, rfl⟩ := List.cons.inj cut'
      rw [Measurement.ofLines_concat]
      refine recordAll_between_iff (fun m known => ?_) few _
      rw [Measurement.ofLines_cons]
      exact List.mem_append_right _ known

/-- The repeated text is read to its end just if the line at the seam is legible, and what
is left is what its lines hold. -/
theorem ofText_double {text : String} (inMemory : Text.Addressable (text ++ text))
    (read : ∃ count, (ofText text).outcome = .ok count) :
    ((∃ count, (ofText (text ++ text)).outcome = .ok count) ↔
        ∀ seam ∈ Text.seam? text, Measurement.Legible seam) ∧
      ((∀ seam ∈ Text.seam? text, Measurement.Legible seam) →
        (ofText (text ++ text)).registry =
          empty.recordAll (Measurement.ofLines (Text.linesTwice text))) := by
  have alike := Measurement.readAlike_linesTwice text
  have same := Measurement.survey_congr alike 0
  have fits : 0 + (Text.linesTwice text).length < lineLimit := by
    have count := alike.length_eq
    rw [List.length_map, ← Text.length_linesOf] at count
    rw [Nat.zero_add, ← count]
    exact Nat.lt_trans (Text.length_linesOf_lt inMemory) memoryLimit_lt_lineLimit
  have ended : (∃ count, (ofText (text ++ text)).outcome = .ok count) ↔
      (Measurement.survey 0 ((Text.linesTwice text).map Text.encode)).2 = .ok () := by
    rw [← same]
    unfold ofText
    simp only [outcome_read_eq_ok_iff, exists_and_left, exists_eq, and_true]
  have legible (seamLegible : ∀ seam ∈ Text.seam? text, Measurement.Legible seam) :
      ∀ line ∈ Text.linesTwice text, Measurement.Legible line := by
    intro line known
    rcases Text.mem_of_mem_linesTwice known with own | seam
    · exact ((exists_outcome_ofText_iff text).1 read).2 line own
    · exact seamLegible line seam
  refine ⟨?_, fun seamLegible => ?_⟩
  · rw [ended]
    constructor
    · intro complete seam between
      have limit : 0 < lineLimit := by decide
      exact (Measurement.legible_of_survey limit complete).2 seam
        (Text.mem_linesTwice_of_seam between)
    · intro seamLegible
      rw [Measurement.survey_of_legible (legible seamLegible) 0 fits]
  · unfold ofText
    rw [registry_read, same, Measurement.survey_of_legible (legible seamLegible) 0 fits]

/-- Whether the best time of the benchmark of a measurement stays as it is when a text is
repeated: the text has a best time for it, and that one is still the first of the least among
the measurements of the lines of the text with itself behind it.  The seam is one of these
lines, in the place of the two that it is made of. -/
def Spares (text : String) (m : Measurement) : Prop :=
  ∃ best, (ofText text).registry.get? m.name = some best ∧
    FirstLeast (timingsOf m.name (Measurement.ofLines (Text.linesTwice text))) best

/-- A text that is read to its end, and the text with itself behind it.  The open last line
of the text, if there is one, makes a line with the first one where the two copies meet.
The repeated text is read to its end just if this line is legible.  If so, its report is
that of the text, and ends in the same way, just if this line is no measurement or the best
time of its benchmark is kept among the measurements of the lines of the repeated text.
Both hold of a text that ends with a line feed or is empty: there is no such line. -/
theorem double_text_iff {text : String} (inMemory : Text.Addressable (text ++ text))
    (read : ∃ count, (ofText text).outcome = .ok count) :
    let r := (ofText text).registry
    let s := (ofText (text ++ text)).registry
    ((∃ count, (ofText (text ++ text)).outcome = .ok count) ↔
        ∀ seam ∈ Text.seam? text, Measurement.Legible seam) ∧
      ((∃ count, (ofText (text ++ text)).outcome = .ok count) →
        ((s.textScript.run none).bytes = (r.textScript.run none).bytes ↔
          ∀ seam ∈ Text.seam? text, ∀ m ∈ Measurement.inLine? seam, Spares text m) ∧
        ((s.textScript.run none).bytes = (r.textScript.run none).bytes →
          s.textScript.run none = r.textScript.run none)) ∧
      (Text.Complete (Text.encode text) →
        (∃ count, (ofText (text ++ text)).outcome = .ok count) ∧
          s.textScript.run none = r.textScript.run none) := by
  intro r s
  obtain ⟨accepted, left⟩ := ofText_double inMemory read
  obtain ⟨fits, legible⟩ := (exists_outcome_ofText_iff text).1 read
  have once : r = empty.recordAll (Measurement.ofLines (Text.linesOf text)) :=
    (ofText_of_legible fits legible).2
  have apart : (s.textScript.run none).bytes = (r.textScript.run none).bytes → s = r :=
    (rereadable_ofText _).eq_of_bytes_eq (rereadable_ofText _)
      (length_entries_ofText_lt inMemory) (length_entries_ofText_lt inMemory.of_append)
  have unchanged (seamLegible : ∀ seam ∈ Text.seam? text, Measurement.Legible seam) :
      s = r ↔ ∀ seam ∈ Text.seam? text, ∀ m ∈ Measurement.inLine? seam, Spares text m := by
    have twice : s = empty.recordAll (Measurement.ofLines (Text.linesTwice text)) :=
      left seamLegible
    rw [twice, once, recordAll_linesTwice_iff seamLegible, ← once]
    simp only [(summarises_recordAll _).get?_eq_some_iff]
    rfl
  refine ⟨accepted, fun succeeds => ⟨?_, ?_⟩, fun complete => ?_⟩
  · rw [← unchanged (accepted.1 succeeds)]
    exact ⟨apart, fun same => by rw [same]⟩
  · intro same
    rw [apart same]
  · have none : ∀ seam, seam ∉ Text.seam? text := by
      rw [(Text.seam?_eq_none_iff text).2 complete]
      exact fun seam => Option.not_mem_none seam
    have same := (unchanged fun seam between => absurd between (none seam)).2
      fun seam between => absurd between (none seam)
    exact ⟨accepted.2 fun seam between => absurd between (none seam), by rw [same]⟩

/-- An open last line that makes a measurement with the first line, slower than the best
time: the report of the repeated text is that of the text. -/
theorem double_text_iff_of_slower_seam :
    let text := "a time: [1 ns 3 ns 9 ns]\r\nwarming up\na time: [1 ns 5 ns 9 ns]"
    let r := (ofText text).registry
    let s := (ofText (text ++ text)).registry
    Text.Addressable (text ++ text) ∧ (ofText text).outcome = .ok 3 ∧
      Text.seam? text = some "a time: [1 ns 5 ns 9 ns]a time: [1 ns 3 ns 9 ns]" ∧
      (∃ count, (ofText (text ++ text)).outcome = .ok count) ∧
      s.textScript.run none = r.textScript.run none ∧
      ∀ seam ∈ Text.seam? text, ∀ m ∈ Measurement.inLine? seam, Spares text m := by
  intro text r s
  have ⟨inMemory, read, seam, legible, same⟩ : Text.Addressable (text ++ text) ∧
      (ofText text).outcome = .ok 3 ∧
      Text.seam? text = some "a time: [1 ns 5 ns 9 ns]a time: [1 ns 3 ns 9 ns]" ∧
      Measurement.Legible "a time: [1 ns 5 ns 9 ns]a time: [1 ns 3 ns 9 ns]" ∧
      (s.textScript.run none).bytes = (r.textScript.run none).bytes := by decide +kernel
  obtain ⟨accepted, unchanged, -⟩ := double_text_iff inMemory ⟨3, read⟩
  have succeeds := accepted.2 fun line between => by
    rw [seam, Option.mem_some_iff] at between
    exact between ▸ legible
  obtain ⟨harmless, whole⟩ := unchanged succeeds
  exact ⟨inMemory, read, seam, succeeds, whole same, harmless.1 same⟩

/-- Texts with an open last line whose reports change when they are repeated.  The one is
a measurement: repeated it is one line again, with another text.  The other is noise, but
at its seam the marker of a measurement stands. -/
theorem double_open_text_differs :
    let text := "manual time: [1 ns 5 ns 9 ns]"
    let noise := "me:\nti"
    (ofText text).outcome = .ok 1 ∧ (ofText (text ++ text)).outcome = .ok 1 ∧
      ((ofText text).registry.textScript.run none).bytes = Text.encode (text ++ "\n\n") ∧
      ((ofText (text ++ text)).registry.textScript.run none).bytes =
        Text.encode (text ++ text ++ "\n\n") ∧
      ((ofText (text ++ text)).registry.textScript.run none).bytes ≠
        ((ofText text).registry.textScript.run none).bytes ∧
      (ofText noise).outcome = .ok 2 ∧
      (ofText (noise ++ noise)).outcome =
        .error (.error (.malformedLine 2 (.tooFewFields 1))) := by
  decide +kernel

end Registry

end BestTimes
