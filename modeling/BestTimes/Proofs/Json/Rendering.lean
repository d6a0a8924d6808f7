import BestTimes.Json
import BestTimes.Proofs.Decimal.Shortest
import BestTimes.Proofs.Json.Parts
set_option autoImplicit false

/-!
# Documents are decoded to what they denote

A JSON value denotes a decoded one: an integer and a finite number are a number with their
sign and the size of the decimal they are written as, what is not finite is null, and all else
is itself (`Json.denoted`).  Decoding a rendered value gives what it denotes, wherever the
value stands (`Json.legible`), and so does decoding a document (`ofText?_document`).

The induction is on the value, with all elements and the values of all fields as its smaller
values (`Json.induct`).
-/

namespace BestTimes

namespace Json

mutual

/-- The decoded value that a value denotes. -/
def denoted : Json → Decoded
  | .integer i => .number (i < 0) i.natAbs
  | .number (.finite negative m) =>
    .number negative (if m.units = 0 then 0 else (Decimal.shortest m).value)
  | .number _ => .null
  | .string s => .string s
  | .array elements => .array (denotedElements elements)
  | .object fields => .object (denotedFields fields)

/-- The decoded values of the elements of an array. -/
def denotedElements : List Json → List Decoded
  | [] => []
  | v :: rest => denoted v :: denotedElements rest

/-- The decoded values of the fields of an object, with their names. -/
def denotedFields : List (String × Json) → List (String × Decoded)
  | [] => []
  | (key, v) :: rest => (key, denoted v) :: denotedFields rest

end

theorem denotedElements_eq_map (elements : List Json) :
    denotedElements elements = elements.map denoted := by
  induction elements with
  | nil => rfl
  | cons v rest ih => rw [denotedElements, ih, List.map_cons]

theorem denotedFields_eq_map (fields : List (String × Json)) :
    denotedFields fields = fields.map fun field => (field.1, denoted field.2) := by
  induction fields with
  | nil => rfl
  | cons field rest ih => rw [denotedFields, ih, List.map_cons]

/-- To prove something of all values, it is enough to prove it of an array from its elements,
and of an object from the values of its fields. -/
@[elab_as_elim]
theorem induct {motive : Json → Prop} (integer : ∀ i, motive (.integer i))
    (number : ∀ x, motive (.number x)) (string : ∀ s, motive (.string s))
    (array : ∀ elements, (∀ v ∈ elements, motive v) → motive (.array elements))
    (object : ∀ fields, (∀ field ∈ fields, motive field.2) → motive (.object fields)) (v : Json) :
    motive v :=
  @Json.rec motive (fun elements => ∀ v ∈ elements, motive v)
    (fun fields => ∀ field ∈ fields, motive field.2) (fun field => motive field.2)
    integer number string array object
    (fun _ m => (List.not_mem_nil m).elim)
    (fun _ _ first rest => List.forall_mem_cons.2 ⟨first, rest⟩)
    (fun _ m => (List.not_mem_nil m).elim)
    (fun _ _ first rest => List.forall_mem_cons.2 ⟨first, rest⟩) (fun _ _ own => own) v

/-- The text of a field. -/
def fieldText (level : ℕ) (field : String × Json) : List Char :=
  quote field.1 ++ ':' :: ' ' :: render level field.2

theorem renderElements_eq_further (level : ℕ) (elements : List Json) :
    renderElements level elements = Decoded.further level (elements.map (render level)) := by
  induction elements with
  | nil =>
    rw [renderElements]
    rfl
  | cons v rest ih =>
    rw [renderElements, ih]
    unfold Decoded.further
    simp only [List.map_cons, List.flatMap_cons, List.cons_append, List.append_assoc]

theorem renderFields_eq_further (level : ℕ) (fields : List (String × Json)) :
    renderFields level fields = Decoded.further level (fields.map (fieldText level)) := by
  induction fields with
  | nil =>
    rw [renderFields]
    rfl
  | cons field rest ih =>
    rw [renderFields, ih]
    unfold Decoded.further fieldText
    simp only [List.map_cons, List.flatMap_cons, List.cons_append, List.append_assoc,
      List.nil_append]

theorem render_array (level : ℕ) (elements : List Json) :
    render level (.array elements) =
      '[' :: Decoded.bracketText level ']' (elements.map (render (level + 1))) := by
  cases elements with
  | nil =>
    rw [render]
    rfl
  | cons v rest =>
    rw [render, renderElements_eq_further]
    unfold Decoded.bracketText
    simp only [List.map_cons, List.cons_append]

theorem render_object (level : ℕ) (fields : List (String × Json)) :
    render level (.object fields) =
      '\x7b' :: Decoded.bracketText level '\x7d' (fields.map (fieldText (level + 1))) := by
  cases fields with
  | nil =>
    rw [render]
    rfl
  | cons field rest =>
    rw [render, renderFields_eq_further]
    unfold Decoded.bracketText
    rw [List.map_cons]
    conv_rhs => rw [fieldText]
    simp only [List.cons_append, List.append_assoc, List.nil_append]

/-! ## Numbers -/

theorem integer_eq (i : ℤ) :
    Decimal.integer i = Decimal.withSign (i < 0) (Nat.toDigits 10 i.natAbs) := by
  unfold Decimal.integer
  by_cases negative : i < 0
  · rw [if_pos negative, decide_eq_true negative]
    rfl
  · rw [if_neg negative, decide_eq_false negative]
    rfl

/-- The size that a finite number is written with. -/
def sizeText (m : Magnitude) : List Char :=
  if m.units = 0 then ['0', '.', '0'] else (Decimal.shortest m).write numberLayout

/-- It begins with a digit and is read off as the size that the number denotes. -/
theorem size?_sizeText (m : Magnitude) :
    ∃ first others, sizeText m = first :: others ∧ first.isDigit = true ∧
      ∀ rest, Decoded.Ends rest → Decoded.size? (sizeText m ++ rest) =
        some (if m.units = 0 then 0 else (Decimal.shortest m).value, rest) := by
  unfold sizeText
  split_ifs with zero
  · have none : Decimal.IsFixed ['0', '.', '0'] 0 := by
      refine ⟨['0'], ['0'], rfl, Decimal.isWhole_toDigits 0, Decimal.allDigits_toDigits 0,
        List.cons_ne_nil _ _, fun more => absurd more (Nat.lt_irrefl 1), ?_⟩
      have value : Decimal.digitsValue ['0'] = 0 := Decimal.digitsValue_replicate_zero 1
      unfold Decimal.pointedValue
      rw [value, Nat.cast_zero, zero_div, add_zero]
    obtain ⟨first, others, text, digit⟩ := none.exists_cons
    exact ⟨first, others, text, digit, fun rest => Decoded.size?_of_isFixed none⟩
  · rcases Decimal.write_denotes numberLayout (Decimal.coefficient_shortest_ne_zero zero) with
      own | ⟨e, own⟩
    · obtain ⟨first, others, text, digit⟩ := own.exists_cons
      exact ⟨first, others, text, digit, fun rest => Decoded.size?_of_isFixed own⟩
    · obtain ⟨first, others, text, digit⟩ := own.exists_cons
      exact ⟨first, others, text, digit, fun rest => Decoded.size?_of_isScientific own⟩

/-! ## Rendered values -/

/-- A rendered value begins with what is no blank and closes no array. -/
theorem exists_cons_render (level : ℕ) (v : Json) :
    ∃ c others, render level v = c :: others ∧ Decoded.isBlank c = false ∧ c ≠ ']' := by
  have sign (negative : Bool) {first : Char} (others : List Char) (digit : first.isDigit = true) :
      ∃ c rest, Decimal.withSign negative (first :: others) = c :: rest ∧
        Decoded.isBlank c = false ∧ c ≠ ']' := by
    cases negative with
    | true => exact ⟨'-', _, rfl, rfl, by decide⟩
    | false =>
      refine ⟨first, _, rfl, eq_false_of_ne_true fun blank => ?_, ?_⟩
      · rcases of_decide_eq_true blank with rfl | rfl | rfl | rfl
        all_goals cases digit
      · rintro rfl
        cases digit
  cases v with
  | integer i =>
    obtain ⟨first, others, text, digit⟩ := (Decimal.isWhole_toDigits i.natAbs).exists_cons
    rw [render, integer_eq, text]
    exact sign _ others digit
  | number x =>
    cases x with
    | nan => exact ⟨'n', _, by rw [render]; rfl, rfl, by decide⟩
    | infinite negative => exact ⟨'n', _, by rw [render]; rfl, rfl, by decide⟩
    | finite negative m =>
      obtain ⟨first, others, text, digit, -⟩ := size?_sizeText m
      have written : numberText (.finite negative m) = Decimal.withSign negative (sizeText m) := rfl
      rw [render, written, text]
      exact sign _ others digit
  | string s => exact ⟨'"', _, by rw [render]; rfl, rfl, by decide⟩
  | array elements => exact ⟨'[', _, render_array level elements, rfl, by decide⟩
  | object fields => exact ⟨'\x7b', _, render_object level fields, rfl, by decide⟩

/-- Whether a value is decoded to what it denotes, wherever it is rendered: with a count greater
than its length, and in front of all that does not go on with a number. -/
def Legible (v : Json) : Prop :=
  ∀ (level count : ℕ) (rest : List Char), (render level v).length < count → Decoded.Ends rest →
    Decoded.value? count (render level v ++ rest) = some (v.denoted, rest)

theorem legible_integer (i : ℤ) : Legible (.integer i) := by
  intro level count rest enough stop
  obtain ⟨count, rfl⟩ := Nat.exists_eq_add_one.2 (Nat.zero_lt_of_lt enough)
  obtain ⟨first, others, text, digit⟩ := (Decimal.isWhole_toDigits i.natAbs).exists_cons
  have read := Decoded.size?_toDigits i.natAbs stop
  rw [render, integer_eq, Decimal.withSign_append, denoted]
  rw [text] at read ⊢
  exact Decoded.value?_withSign _ _ digit read

theorem legible_number (x : Binary64) : Legible (.number x) := by
  intro level count rest enough stop
  obtain ⟨count, rfl⟩ := Nat.exists_eq_add_one.2 (Nat.zero_lt_of_lt enough)
  cases x with
  | nan => rfl
  | infinite negative => rfl
  | finite negative m =>
    obtain ⟨first, others, text, digit, own⟩ := size?_sizeText m
    have written : numberText (.finite negative m) = Decimal.withSign negative (sizeText m) := rfl
    have read := own rest stop
    rw [render, written, Decimal.withSign_append, denoted]
    rw [text] at read ⊢
    exact Decoded.value?_withSign _ _ digit read

theorem legible_string (s : String) : Legible (.string s) := by
  intro level count rest enough stop
  obtain ⟨count, rfl⟩ := Nat.exists_eq_add_one.2 (Nat.zero_lt_of_lt enough)
  rw [render] at enough ⊢
  change (Decoded.string? count (quote s ++ rest)).map _ = _
  rw [Decoded.string?_quote s rest (Nat.lt_succ_iff.1 enough), denoted]
  rfl

/-- Elements are shorter than their array, so the count left for them is enough. -/
theorem legible_array {elements : List Json} (all : ∀ v ∈ elements, Legible v) :
    Legible (.array elements) := by
  intro level count rest enough stop
  obtain ⟨count, rfl⟩ := Nat.exists_eq_add_one.2 (Nat.zero_lt_of_lt enough)
  rw [render_array] at enough ⊢
  rw [List.length_cons, Nat.add_lt_add_iff_right] at enough
  have each : ∀ v ∈ elements, (render (level + 1) v).length < count →
      Decoded.Reads ']' (Decoded.value? count) (render (level + 1)) denoted v :=
    fun v m short => ⟨exists_cons_render _ v, fun rest => all v m (level + 1) count rest short⟩
  have read := Decoded.bracketed?_bracketText (by decide) level rest enough.le each
  change (Decoded.bracketed? ']' (Decoded.value? count) count
    (Decoded.bracketText level ']' (elements.map (render (level + 1))) ++ rest)).map _ = _
  rw [read, denoted, denotedElements_eq_map]
  rfl

/-- A field is read off with its name if its value is legible. -/
theorem Legible.reads_fieldText {level count : ℕ} {field : String × Json} (h : Legible field.2)
    (enough : (fieldText level field).length < count) :
    Decoded.Reads '\x7d' (Decoded.field? count (Decoded.value? count)) (fieldText level)
      (fun field => (field.1, field.2.denoted)) field := by
  refine ⟨⟨'"', _, rfl, rfl, by decide⟩, fun rest stop => ?_⟩
  unfold fieldText at enough ⊢
  rw [List.length_append, List.length_cons, List.length_cons] at enough
  obtain ⟨c, others, text, solid, -⟩ := exists_cons_render level field.2
  have read := h level count rest (by omega) stop
  have name : Decoded.string? count
      (quote field.1 ++ ':' :: ' ' :: (render level field.2 ++ rest)) =
        some (field.1, ':' :: ' ' :: (render level field.2 ++ rest)) :=
    Decoded.string?_quote _ _ (by omega)
  have value : Decoded.skip (' ' :: (render level field.2 ++ rest)) =
      render level field.2 ++ rest := by
    have blank : Decoded.isBlank ' ' = true := rfl
    rw [Decoded.skip, List.dropWhile_cons_of_pos blank, text, List.cons_append]
    exact Decoded.skip_of_not_blank solid _
  have colon : Decoded.isBlank ':' = false := rfl
  rw [List.append_assoc, List.cons_append, List.cons_append]
  unfold Decoded.field?
  rw [name, Option.bind_eq_bind, Option.bind_some]
  simp only [Decoded.skip_of_not_blank colon, if_pos, value, read, Option.map_some]

theorem legible_object {fields : List (String × Json)}
    (all : ∀ field ∈ fields, Legible field.2) : Legible (.object fields) := by
  intro level count rest enough stop
  obtain ⟨count, rfl⟩ := Nat.exists_eq_add_one.2 (Nat.zero_lt_of_lt enough)
  rw [render_object] at enough ⊢
  rw [List.length_cons, Nat.add_lt_add_iff_right] at enough
  have each : ∀ field ∈ fields, (fieldText (level + 1) field).length < count →
      Decoded.Reads '\x7d' (Decoded.field? count (Decoded.value? count)) (fieldText (level + 1))
        (fun field => (field.1, field.2.denoted)) field :=
    fun field m short => (all field m).reads_fieldText short
  have read := Decoded.bracketed?_bracketText (by decide) level rest enough.le each
  change (Decoded.bracketed? '\x7d' (Decoded.field? count (Decoded.value? count)) count
    (Decoded.bracketText level '\x7d' (fields.map (fieldText (level + 1))) ++ rest)).map _ = _
  rw [read, denoted, denotedFields_eq_map]
  rfl

/-- **A rendered value is decoded to what it denotes**, and the rest of the text is left. -/
theorem legible (v : Json) : Legible v := by
  induction v using Json.induct with
  | integer i => exact legible_integer i
  | number x => exact legible_number x
  | string s => exact legible_string s
  | array elements all => exact legible_array all
  | object fields all => exact legible_object all

/-- **A document is decoded to what its value denotes.** -/
theorem ofText?_document (v : Json) : Decoded.ofText? v.document.toList = some v.denoted := by
  have text : v.document.toList = render 0 v := String.toList_ofList
  obtain ⟨c, others, written, solid, -⟩ := exists_cons_render 0 v
  have start : Decoded.skip (render 0 v) = render 0 v := by
    rw [written]
    exact Decoded.skip_of_not_blank solid _
  have read := v.legible 0 ((render 0 v).length + 1) [] (Nat.lt_succ_self _) Decoded.ends_nil
  rw [List.append_nil] at read
  unfold Decoded.ofText?
  rw [text, start, read]
  rfl

end Json

end BestTimes
