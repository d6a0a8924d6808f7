import BestTimes.Text.Blank
import Mathlib.Data.List.DropRight
set_option autoImplicit false

/-!
# Blanks at the ends of a text

`trim` takes away blanks only, and all of those at the ends (`exists_eq_trim`,
`isBlank_getLast_trim`).  What a line says does not depend on them: the fields of the
trimmed text are those of the text (`fields_trim`), a word that stands in the text
stands in the trimmed one (`infix_trim_iff`), and trimming twice is trimming once
(`trim_trim`).  Nor do the blanks between the fields decide whether a word stands in a
text: it stands in one of the fields (`infix_iff_exists_field`).
-/

namespace BestTimes.Text

/-! ## What is taken away -/

theorem trim_eq_rdropWhile (text : List Char) :
    trim text = (text.dropWhile isBlank).rdropWhile isBlank := rfl

/-- A text is its trimmed text with blanks in front and behind. -/
theorem exists_eq_trim (text : List Char) :
    ∃ front back : List Char, text = front ++ trim text ++ back ∧
      (∀ c ∈ front, isBlank c = true) ∧ ∀ c ∈ back, isBlank c = true := by
  refine ⟨text.takeWhile isBlank, (text.dropWhile isBlank).rtakeWhile isBlank, ?_, ?_, ?_⟩
  · rw [trim_eq_rdropWhile, List.append_assoc, List.rdropWhile_append_rtakeWhile,
      List.takeWhile_append_dropWhile]
  · intro c hc
    exact List.mem_takeWhile_imp hc
  · intro c hc
    exact List.mem_rtakeWhile_imp hc

theorem mem_of_mem_trim {text : List Char} {c : Char} (h : c ∈ trim text) : c ∈ text := by
  obtain ⟨front, back, split, -, -⟩ := exists_eq_trim text
  rw [split]
  exact List.mem_append_left _ (List.mem_append_right _ h)

/-- The last character of a trimmed text is not blank. -/
theorem isBlank_getLast_trim {text : List Char} {c : Char} (h : (trim text).getLast? = some c) :
    isBlank c = false := by
  have nonempty : trim text ≠ [] := by
    intro empty
    rw [empty] at h
    cases h
  rw [List.getLast?_eq_some_getLast nonempty, Option.some.injEq] at h
  have last := List.rdropWhile_last_not isBlank (text.dropWhile isBlank) nonempty
  exact h ▸ eq_false_of_ne_true last

theorem dropWhile_trim (text : List Char) : (trim text).dropWhile isBlank = trim text := by
  rw [List.dropWhile_eq_self_iff]
  intro nonempty
  -- A trimmed text begins as the text does without the blanks in front.
  have begins : trim text <+: text.dropWhile isBlank :=
    List.rdropWhile_prefix isBlank _
  rw [begins.getElem nonempty]
  exact List.dropWhile_get_zero_not isBlank text (Nat.lt_of_lt_of_le nonempty begins.length_le)

/-- Trimming again changes nothing. -/
theorem trim_trim (text : List Char) : trim (trim text) = trim text := by
  rw [trim_eq_rdropWhile (trim text), dropWhile_trim, trim_eq_rdropWhile,
    List.rdropWhile_idempotent]

/-- A blank behind a text is taken away. -/
theorem trim_concat {c : Char} (blank : isBlank c = true) (text : List Char) :
    trim (text ++ [c]) = trim text := by
  rw [trim_eq_rdropWhile, trim_eq_rdropWhile, List.dropWhile_append]
  split
  · rename_i allBlank
    rw [List.isEmpty_iff.1 allBlank, List.dropWhile_cons_of_pos blank]
    rfl
  · rw [List.rdropWhile_concat_pos isBlank _ _ blank]

/-! ## Fields -/

variable {separates : Char → Bool}

theorem runs_append_of_separates {front : List Char} (h : ∀ c ∈ front, separates c = true)
    (text : List Char) : runs separates (front ++ text) = runs separates text := by
  induction front with
  | nil => rfl
  | cons c front ih =>
    obtain ⟨separate, others⟩ := List.forall_mem_cons.1 h
    have rest := ih others
    unfold runs at rest ⊢
    rw [List.cons_append, runsFrom, if_pos separate]
    simpa using rest

theorem runsFrom_of_separates {back : List Char} (h : ∀ c ∈ back, separates c = true)
    (current : List Char) : runsFrom separates current back = runsFrom separates current [] := by
  induction back generalizing current with
  | nil => rfl
  | cons c back ih =>
    obtain ⟨separate, others⟩ := List.forall_mem_cons.1 h
    conv_lhs => rw [runsFrom, if_pos separate, ih others []]
    rfl

theorem runsFrom_append_of_separates {back : List Char} (h : ∀ c ∈ back, separates c = true)
    (current text : List Char) :
    runsFrom separates current (text ++ back) = runsFrom separates current text := by
  induction text generalizing current with
  | nil => exact runsFrom_of_separates h current
  | cons c text ih => simp only [List.cons_append, runsFrom, ih]

/-- The blanks at the ends of a text are in none of its fields. -/
theorem fields_trim (text : List Char) : fields (trim text) = fields text := by
  obtain ⟨front, back, split, blankFront, blankBack⟩ := exists_eq_trim text
  unfold fields
  conv_rhs => rw [split, List.append_assoc, runs_append_of_separates blankFront]
  exact (runsFrom_append_of_separates blankBack [] (trim text)).symm

/-! ## Words -/

theorem infix_append_left_iff {word front text : List Char} (nonempty : word ≠ [])
    (h : ∀ c ∈ word, c ∉ front) : word <:+: front ++ text ↔ word <:+: text := by
  refine ⟨fun inside => ?_, List.infix_append_of_infix_right⟩
  induction front with
  | nil => exact inside
  | cons d front ih =>
    rw [List.cons_append, List.infix_cons_iff] at inside
    rcases inside with first | inside
    · rcases List.prefix_cons_iff.1 first with rfl | ⟨rest, rfl, -⟩
      · exact absurd rfl nonempty
      · exact absurd List.mem_cons_self (h d List.mem_cons_self)
    · exact ih (fun c hc m => h c hc (List.mem_cons_of_mem _ m)) inside

theorem infix_append_right_iff {word text back : List Char} (nonempty : word ≠ [])
    (h : ∀ c ∈ word, c ∉ back) : word <:+: text ++ back ↔ word <:+: text := by
  rw [← List.reverse_infix, List.reverse_append, infix_append_left_iff, List.reverse_infix]
  · simpa using nonempty
  · simpa using h

/-- A word without blanks that stands in a text stands in the trimmed text. -/
theorem infix_trim_iff {word text : List Char} (nonempty : word ≠ [])
    (h : ∀ c ∈ word, isBlank c = false) : word <:+: trim text ↔ word <:+: text := by
  obtain ⟨front, back, split, blankFront, blankBack⟩ := exists_eq_trim text
  have apart {blanks : List Char} (blank : ∀ c ∈ blanks, isBlank c = true) :
      ∀ c ∈ word, c ∉ blanks := by
    intro c hc m
    have := blank c m
    rw [h c hc] at this
    exact Bool.false_ne_true this
  conv_rhs => rw [split, infix_append_right_iff nonempty (apart blankBack),
    infix_append_left_iff nonempty (apart blankFront)]

/-! ## Words in fields -/

/-- A character that a word lacks cuts a text in two, and the word stands on one side of
it. -/
theorem infix_append_cons_iff {word : List Char} {c : Char} (nonempty : word ≠ [])
    (lacks : c ∉ word) (front back : List Char) :
    word <:+: front ++ c :: back ↔ word <:+: front ∨ word <:+: back := by
  induction front with
  | nil =>
    rw [List.nil_append, List.infix_cons_iff, List.infix_nil]
    refine or_congr_left ?_
    constructor
    · intro first
      rcases List.prefix_cons_iff.1 first with none | ⟨rest, rfl, -⟩
      · exact none
      · exact absurd List.mem_cons_self lacks
    · intro none
      exact absurd none nonempty
  | cons d front ih =>
    rw [List.cons_append, List.infix_cons_iff, List.infix_cons_iff, ih, or_assoc]
    refine or_congr_left ?_
    rw [← List.cons_append]
    constructor
    · intro first
      -- A word that reached over the character would hold it.
      by_cases short : word.length ≤ (d :: front).length
      · exact List.prefix_of_prefix_length_le first (List.prefix_append _ _) short
      · have beyond : d :: front ++ [c] <+: word := by
          refine List.prefix_of_prefix_length_le ?_ first ?_
          · exact (List.prefix_append_right_inj _).2 ⟨back, rfl⟩
          · rw [List.length_append, List.length_singleton]
            omega
        exact absurd (beyond.subset (List.mem_append_right _ List.mem_cons_self)) lacks
    · exact fun first => first.trans (List.prefix_append _ _)

theorem infix_iff_exists_runsFrom {word : List Char} (nonempty : word ≠ [])
    (solid : ∀ c ∈ word, separates c = false) (current text : List Char) :
    word <:+: current.reverse ++ text ↔
      ∃ run ∈ runsFrom separates current text, word <:+: run := by
  induction text generalizing current with
  | nil =>
    rw [List.append_nil, runsFrom]
    cases current with
    | nil => simpa using nonempty
    | cons d current => simp
  | cons c rest ih =>
    rw [runsFrom]
    by_cases separate : separates c = true
    · have lacks : c ∉ word := by
        intro inside
        rw [solid c inside] at separate
        cases separate
      rw [if_pos separate, infix_append_cons_iff nonempty lacks]
      cases current with
      | nil =>
        rw [if_pos List.isEmpty_nil, ← ih, List.reverse_nil, List.infix_nil, List.nil_append]
        exact or_iff_right nonempty
      | cons d current =>
        have later := ih []
        rw [List.reverse_nil, List.nil_append] at later
        rw [List.isEmpty_cons, if_neg Bool.false_ne_true, later]
        simp only [List.mem_cons, exists_eq_or_imp]
    · rw [if_neg separate, ← ih, List.reverse_cons, List.append_assoc, List.singleton_append]

/-- A word without blanks stands in a text just if it stands in one of its fields. -/
theorem infix_iff_exists_field {word text : List Char} (nonempty : word ≠ [])
    (solid : ∀ c ∈ word, isBlank c = false) :
    word <:+: text ↔ ∃ field ∈ fields text, word <:+: field :=
  infix_iff_exists_runsFrom nonempty solid [] text

end BestTimes.Text
