import BestTimes.Json
import BestTimes.Proofs.Json.Decoding
set_option autoImplicit false

/-!
# Decoding what is written

Each part of a written document is read off by the function of the decoder for it: digits and
numbers in either notation (`size?_of_isFixed`, `size?_of_isScientific`), escaped characters
and strings (`string?_quote`), and items between brackets, each on a line of its own
(`bracketed?_bracketText`).  Nothing may follow a number that could be more of it (`Ends`);
in a document a comma or a new line follows.
-/

namespace BestTimes

namespace Decoded

open Decimal (AllDigits IsWhole IsFixed IsScientific digitsValue pointedValue fractionPart)

/-! ## Numbers -/

/-- Whether a text does not go on with what could be more of a number. -/
def Ends (text : List Char) : Prop :=
  ∀ c, text.head? = some c → c.isDigit = false ∧ c ≠ '.' ∧ c ≠ 'e' ∧ c ≠ 'E'

theorem ends_nil : Ends [] := fun _ h => nomatch h

theorem ends_comma (rest : List Char) : Ends (',' :: rest) := by
  intro c h
  cases h
  decide

theorem ends_feed (rest : List Char) : Ends ('\n' :: rest) := by
  intro c h
  cases h
  decide

section

variable {digits whole fraction rest text : List Char} {x : ℚ}

theorem digits?_append (own : AllDigits digits) (nonempty : digits ≠ [])
    (stop : ∀ c, rest.head? = some c → c.isDigit = false) :
    digits? (digits ++ rest) = some (digits, rest) := by
  have none : rest.takeWhile Char.isDigit = [] ∧ rest.dropWhile Char.isDigit = rest := by
    cases rest with
    | nil => exact ⟨rfl, rfl⟩
    | cons c others =>
      have other : ¬ c.isDigit = true := by
        rw [stop c rfl]
        decide
      exact ⟨List.takeWhile_cons_of_neg other, List.dropWhile_cons_of_neg other⟩
  unfold digits?
  rw [List.takeWhile_append_of_pos own, List.dropWhile_append_of_pos own, none.1, none.2,
    List.append_nil]
  exact if_neg nonempty

theorem whole?_append (own : IsWhole whole)
    (stop : ∀ c, rest.head? = some c → c.isDigit = false) :
    whole? (whole ++ rest) = some (whole, rest) := by
  unfold whole?
  rw [digits?_append own.digits own.nonempty stop]
  have allowed : ¬ (1 < whole.length ∧ whole.head? = some '0') := fun h => own.head h.1 h.2
  exact if_neg allowed

theorem fraction?_of_ends (h : Ends rest) : fraction? rest = some ([], rest) := by
  cases rest with
  | nil => rfl
  | cons c others =>
    have other := (h c rfl).2.1
    unfold fraction?
    split
    · next equal =>
      cases equal
      exact absurd rfl other
    · rfl

theorem exponent?_of_ends (h : Ends rest) : exponent? rest = some (0, rest) := by
  cases rest with
  | nil => rfl
  | cons c others =>
    obtain ⟨-, -, small, large⟩ := h c rfl
    unfold exponent?
    split
    · next equal =>
      cases equal
      exact absurd rfl small
    · next equal =>
      cases equal
      exact absurd rfl large
    · rfl

theorem size?_eq {fraction middle last : List Char} {e : ℤ}
    (front : whole? text = some (whole, middle)) (part : fraction? middle = some (fraction, last))
    (power : exponent? last = some (e, rest)) :
    size? text = some (pointedValue whole fraction * 10 ^ e, rest) := by
  unfold size?
  rw [front, Option.bind_eq_bind, Option.bind_some]
  simp only
  rw [part, Option.bind_eq_bind, Option.bind_some]
  simp only
  rw [power, Option.bind_some]

/-- A natural number is read off as itself. -/
theorem size?_toDigits (n : ℕ) (h : Ends rest) :
    size? (Nat.toDigits 10 n ++ rest) = some ((n : ℚ), rest) := by
  have front := whole?_append (Decimal.isWhole_toDigits n) fun c head => (h c head).1
  rw [size?_eq front (fraction?_of_ends h) (exponent?_of_ends h), Decimal.pointedValue_eq_div,
    List.append_nil, Decimal.digitsValue_toDigits]
  norm_num

theorem size?_of_isFixed (own : IsFixed text x) (h : Ends rest) :
    size? (text ++ rest) = some (x, rest) := by
  obtain ⟨whole, fraction, rfl, front, digits, nonempty, -, value⟩ := own
  have point (c : Char) (head : ('.' :: (fraction ++ rest)).head? = some c) :
      c.isDigit = false := by
    cases head
    rfl
  have part : fraction? ('.' :: (fraction ++ rest)) = some (fraction, rest) :=
    digits?_append digits nonempty fun c head => (h c head).1
  rw [List.append_assoc, List.cons_append,
    size?_eq (whole?_append front point) part (exponent?_of_ends h), value, zpow_zero, mul_one]

/-- The exponent of a number in scientific notation is read off with its sign. -/
theorem exponent?_append {e : ℤ} {exponent : List Char} (digits : AllDigits exponent)
    (nonempty : exponent ≠ []) (value : digitsValue exponent = e.natAbs) (h : Ends rest) :
    exponent? ('e' :: (if e < 0 then '-' else '+') :: (exponent ++ rest)) = some (e, rest) := by
  have read := digits?_append digits nonempty fun c head => (h c head).1
  have sign : Numeral.splitSign ((if e < 0 then '-' else '+') :: (exponent ++ rest)) =
      (decide (e < 0), exponent ++ rest) := by
    by_cases negative : e < 0
    · rw [if_pos negative, decide_eq_true negative]
      rfl
    · rw [if_neg negative, decide_eq_false negative]
      rfl
  change signedDigits? ((if e < 0 then '-' else '+') :: (exponent ++ rest)) = _
  unfold signedDigits?
  rw [sign]
  simp only
  rw [read, Option.bind_eq_bind, Option.bind_some]
  simp only [value, Option.some.injEq, Prod.mk.injEq, and_true]
  split_ifs with negative
  · have below := of_decide_eq_true negative
    omega
  · have above := of_decide_eq_false (eq_false_of_ne_true negative)
    omega

theorem size?_of_isScientific {least : ℕ} {e : ℤ} (own : IsScientific least text x e)
    (h : Ends rest) : size? (text ++ rest) = some (x, rest) := by
  obtain ⟨first, fraction, exponent, rfl, digit, -, digits, -, power, -, nonempty, -, written,
    value⟩ := own
  have front : IsWhole [first] := by
    refine ⟨fun c m => ?_, List.cons_ne_nil _ _, fun more => absurd more (Nat.lt_irrefl 1)⟩
    rwa [List.mem_singleton.1 m]
  have last := exponent?_append power nonempty written h
  rw [← value]
  have split :
      (first :: fractionPart fraction ++ 'e' :: (if e < 0 then '-' else '+') :: exponent) ++ rest =
        [first] ++ (fractionPart fraction ++
          'e' :: (if e < 0 then '-' else '+') :: (exponent ++ rest)) := by
    simp only [List.cons_append, List.append_assoc, List.nil_append]
  rw [split]
  rcases eq_or_ne fraction [] with rfl | some
  · exact size?_eq (whole?_append front (by intro c head; cases head; rfl)) rfl last
  · have part : fractionPart fraction = '.' :: fraction := if_neg some
    rw [part]
    refine size?_eq (whole?_append front (by intro c head; cases head; rfl)) ?_ last
    exact digits?_append digits some (by intro c head; cases head; rfl)

/-- A number that is not written with a quote, a bracket or a letter is not taken for another
value. -/
theorem value?_of_number {c : Char} (count : ℕ) (start : c.isDigit = true ∨ c = '-') :
    value? (count + 1) (c :: rest) = number? (c :: rest) := by
  have other {d : Char} (letter : d.isDigit = false ∧ d ≠ '-') : some c ≠ some d := by
    rintro equal
    cases equal
    rcases start with digit | sign
    · exact Bool.false_ne_true (letter.1.symm.trans digit)
    · exact letter.2 sign
  unfold value?
  rw [List.head?_cons]
  split
  · next quote => exact absurd quote (other (by decide))
  · next bracket => exact absurd bracket (other (by decide))
  · next brace => exact absurd brace (other (by decide))
  · next letter => exact absurd letter (other (by decide))
  · next letter => exact absurd letter (other (by decide))
  · next letter => exact absurd letter (other (by decide))
  · rfl

/-- A size with a sign in front of a negative one is read off as a number. -/
theorem value?_withSign (count : ℕ) (negative : Bool) {first : Char} {others : List Char}
    (digit : first.isDigit = true) (read : size? (first :: others) = some (x, rest)) :
    value? (count + 1) (Decimal.withSign negative (first :: others)) =
      some (.number negative x, rest) := by
  cases negative with
  | true =>
    change value? (count + 1) ('-' :: first :: others) = _
    rw [value?_of_number count (.inr rfl)]
    unfold number?
    simp only [read, Option.map_some]
  | false =>
    change value? (count + 1) (first :: others) = _
    rw [value?_of_number count (.inl digit)]
    unfold number?
    split
    · next equal =>
      cases equal
      cases digit
    · rw [read, Option.map_some]

end

/-! ## Strings -/

/-- The digits of a control character stand for its code. -/
theorem hexDigit?_control : ∀ n < 0x20,
    (List.replicate (4 - (Nat.toDigits 16 n).length) '0' ++ Nat.toDigits 16 n).map hexDigit? =
      [some 0, some 0, some (n / 16), some (n % 16)] := by
  decide

theorem character?_controlEscape {c : Char} (control : c.toNat < 0x20) (rest : List Char) :
    character? (Json.controlEscape c ++ rest) = some (c, rest) := by
  have codes := hexDigit?_control c.toNat control
  unfold Json.controlEscape
  simp only
  generalize List.replicate (4 - (Nat.toDigits 16 c.toNat).length) '0' ++ Nat.toDigits 16 c.toNat =
    digits at codes ⊢
  simp only [List.map_eq_cons_iff, List.map_eq_nil_iff] at codes
  obtain ⟨first, _, rfl, one, second, _, rfl, two, third, _, rfl, three, fourth, _, rfl, four,
    rfl⟩ := codes
  have unit : codeUnit? (first :: second :: third :: fourth :: rest) = some (c.toNat, rest) := by
    have value : ((0 * 16 + 0) * 16 + c.toNat / 16) * 16 + c.toNat % 16 = c.toNat := by omega
    unfold codeUnit?
    simp only [one, two, three, four, Option.bind_eq_bind, Option.bind_some, value]
  change codePoint? (first :: second :: third :: fourth :: rest) = some (c, rest)
  unfold codePoint?
  have plain : c.toNat < 0xd800 ∨ 0xe000 ≤ c.toNat := .inl (by omega)
  simp only [unit, Option.bind_eq_bind, Option.bind_some, if_pos plain, Char.ofNat_toNat]

/-- A written character is read off as itself. -/
theorem character?_escape (c : Char) (rest : List Char) :
    character? (Json.escape c ++ rest) = some (c, rest) := by
  unfold Json.escape
  split_ifs with h1 h2 h3 h4 h5 h6 h7 h8
  · rw [h1]; rfl
  · rw [h2]; rfl
  · rw [h3]; rfl
  · rw [h4]; rfl
  · rw [h5]; rfl
  · rw [h6]; rfl
  · rw [h7]; rfl
  · exact character?_controlEscape h8 rest
  · have allowed : ¬ (c = '"' ∨ c.toNat < 0x20) := not_or.2 ⟨h1, h8⟩
    unfold character?
    rw [List.singleton_append]
    simp only [if_neg h2, if_neg allowed]

theorem escape_ne_nil (c : Char) : Json.escape c ≠ [] := by
  unfold Json.escape Json.controlEscape
  split_ifs <;> exact List.cons_ne_nil _ _

/-- No written character begins with a quote. -/
theorem head?_escape (c : Char) (rest : List Char) :
    (Json.escape c ++ rest).head? ≠ some '"' := by
  unfold Json.escape Json.controlEscape
  split_ifs with quote
  all_goals first
    | exact fun h => absurd (Option.some.inj h) (by decide)
    | exact fun h => quote (Option.some.inj h)

/-- Each character takes one of the count, and the quote behind them the last one. -/
theorem characters?_append (s : List Char) (rest : List Char) :
    ∀ count, s.length < count →
      characters? count (s.flatMap Json.escape ++ '"' :: rest) = some (s, rest) := by
  induction s with
  | nil =>
    intro count enough
    obtain ⟨count, rfl⟩ := Nat.exists_eq_add_of_lt enough
    rfl
  | cons c s ih =>
    intro count enough
    obtain ⟨count, rfl⟩ := Nat.exists_eq_add_of_lt enough
    rw [List.flatMap_cons, List.append_assoc]
    have further := ih ((c :: s).length + count) (by rw [List.length_cons]; omega)
    unfold characters?
    rw [if_neg (head?_escape c _), character?_escape, Option.bind_eq_bind, Option.bind_some]
    simp only
    rw [further, Option.bind_eq_bind, Option.bind_some]

theorem length_le_length_flatMap_escape (s : List Char) :
    s.length ≤ (s.flatMap Json.escape).length := by
  induction s with
  | nil => exact Nat.le_refl _
  | cons c s ih =>
    have some := List.length_pos_of_ne_nil (escape_ne_nil c)
    rw [List.flatMap_cons, List.length_append, List.length_cons]
    omega

/-- A written string is read off as itself. -/
theorem string?_quote (s : String) (rest : List Char) {count : ℕ}
    (enough : (Json.quote s).length ≤ count) :
    string? count (Json.quote s ++ rest) = some (s, rest) := by
  have least := length_le_length_flatMap_escape s.toList
  unfold Json.quote at enough ⊢
  rw [List.length_cons, List.length_append, List.length_singleton] at enough
  have read := characters?_append s.toList rest count (by omega)
  change (characters? count (s.toList.flatMap Json.escape ++ ['"'] ++ rest)).map _ = _
  rw [List.append_assoc, List.singleton_append, read, Option.map_some]
  simp only [String.ofList_toList]

/-! ## Blanks and items -/

theorem skip_of_not_blank {c : Char} (h : isBlank c = false) (rest : List Char) :
    skip (c :: rest) = c :: rest := List.dropWhile_cons_of_neg (by rw [h]; decide)

/-- A new line and its indentation are skipped. -/
theorem skip_newLine (level : ℕ) (rest : List Char) :
    skip (Json.newLine level ++ rest) = skip rest := by
  refine List.dropWhile_append_of_pos fun c m => ?_
  unfold Json.newLine at m
  rcases List.mem_cons.1 m with rfl | m
  · rfl
  · rw [List.eq_of_mem_replicate m]
    rfl

/-- Texts with a comma and a new line in front of each. -/
def further (level : ℕ) (texts : List (List Char)) : List Char :=
  texts.flatMap fun text => ',' :: (Json.newLine level ++ text)

/-- The texts between two brackets: every one on a line of its own. -/
def bracketText (level : ℕ) (close : Char) : List (List Char) → List Char
  | [] => [close]
  | text :: texts =>
    Json.newLine (level + 1) ++ text ++ further (level + 1) texts ++ Json.newLine level ++ [close]

/-! ### Their lengths -/

theorem length_le_length_further (level : ℕ) (texts : List (List Char)) :
    texts.length ≤ (further level texts).length ∧
      ∀ text ∈ texts, text.length ≤ (further level texts).length := by
  induction texts with
  | nil => exact ⟨Nat.le_refl _, fun _ m => (List.not_mem_nil m).elim⟩
  | cons text texts ih =>
    have length : (further level (text :: texts)).length =
        (Json.newLine level).length + text.length + 1 + (further level texts).length := by
      unfold further
      rw [List.flatMap_cons, List.length_append, List.length_cons, List.length_append]
    rw [length, List.length_cons, List.forall_mem_cons]
    refine ⟨by omega, by omega, fun other m => ?_⟩
    have least := ih.2 other m
    omega

/-- A text between brackets is longer than any of its items, and than their number. -/
theorem length_lt_length_bracketText (level : ℕ) (close : Char) (texts : List (List Char)) :
    texts.length < (bracketText level close texts).length ∧
      ∀ text ∈ texts, text.length < (bracketText level close texts).length := by
  cases texts with
  | nil => exact ⟨Nat.one_pos, fun _ m => (List.not_mem_nil m).elim⟩
  | cons text texts =>
    obtain ⟨count, all⟩ := length_le_length_further (level + 1) texts
    have feed : 0 < (Json.newLine level).length := Nat.succ_pos _
    unfold bracketText
    simp only [List.length_append, List.length_cons, List.forall_mem_cons, List.length_nil]
    refine ⟨by omega, by omega, fun other m => ?_⟩
    have least := all other m
    omega

/-! ### Reading them off -/

section

variable {α β : Type} {close : Char} {item : List Char → Option (β × List Char)}
  {text : α → List Char} {value : α → β}

/-- Whether the text of every item is read off as its value and begins with neither a blank nor
the bracket that would end the list. -/
structure Reads (close : Char) (item : List Char → Option (β × List Char)) (text : α → List Char)
    (value : α → β) (x : α) : Prop where
  solid : ∃ c others, text x = c :: others ∧ isBlank c = false ∧ c ≠ close
  read : ∀ rest, Ends rest → item (text x ++ rest) = some (value x, rest)

theorem Reads.skip_eq {x : α} (h : Reads close item text value x) (rest : List Char) :
    skip (text x ++ rest) = text x ++ rest := by
  obtain ⟨c, others, written, solid, -⟩ := h.solid
  rw [written, List.cons_append, skip_of_not_blank solid]

/-- Blanks in front of the first item are skipped. -/
theorem items?_newLine (count level : ℕ) (rest : List Char) :
    items? close item count (Json.newLine level ++ rest) = items? close item count rest := by
  cases count with
  | zero => rfl
  | succ count =>
    unfold items?
    rw [skip_newLine]

/-- The induction is on the items behind the first: a comma leads to the next of them, which
begins on a new line, and the last one is followed by the bracket. -/
theorem items?_append (closing : close ≠ ',' ∧ isBlank close = false) (level outer : ℕ)
    (rest : List Char) (xs : List α) :
    ∀ (x : α) (count : ℕ), (∀ y ∈ x :: xs, Reads close item text value y) → xs.length < count →
      items? close item count (text x ++ (further level (xs.map text) ++
          (Json.newLine outer ++ close :: rest))) =
        some ((x :: xs).map value, rest) := by
  induction xs with
  | nil =>
    intro x count all enough
    obtain ⟨count, rfl⟩ := Nat.exists_eq_add_of_lt enough
    have own := all x (List.mem_cons_self ..)
    have stop : Ends (Json.newLine outer ++ close :: rest) := ends_feed _
    change items? close item (0 + count + 1) (text x ++ (Json.newLine outer ++ close :: rest)) = _
    unfold items?
    rw [own.skip_eq, own.read _ stop, Option.bind_eq_bind, Option.bind_some]
    simp only [skip_newLine, skip_of_not_blank closing.2, if_neg closing.1, if_pos]
    rfl
  | cons y ys ih =>
    intro x count all enough
    obtain ⟨count, rfl⟩ := Nat.exists_eq_add_of_lt enough
    have own := all x (List.mem_cons_self ..)
    have next := all y (List.mem_cons_of_mem _ (List.mem_cons_self ..))
    have later := ih y (ys.length + 1 + count) (fun z m => all z (List.mem_cons_of_mem _ m))
      (by omega)
    have split : further level ((y :: ys).map text) ++ (Json.newLine outer ++ close :: rest) =
        ',' :: (Json.newLine level ++ (text y ++ (further level (ys.map text) ++
          (Json.newLine outer ++ close :: rest)))) := by
      unfold further
      simp only [List.map_cons, List.flatMap_cons, List.cons_append, List.append_assoc]
    rw [split]
    unfold items?
    rw [own.skip_eq, own.read _ (ends_comma _), Option.bind_eq_bind, Option.bind_some]
    have comma : isBlank ',' = false := rfl
    have length : (y :: ys).length + count = ys.length + 1 + count := rfl
    simp only [skip_of_not_blank comma, if_pos, items?_newLine, length, later,
      Option.bind_eq_bind, Option.bind_some]
    rfl

/-- Items between brackets are read off in their order, if the count is as great as the length
of their text and every one shorter than it is read off. -/
theorem bracketed?_bracketText (closing : close ≠ ',' ∧ isBlank close = false) (level : ℕ)
    (rest : List Char) {xs : List α} {count : ℕ}
    (enough : (bracketText level close (xs.map text)).length ≤ count)
    (each : ∀ x ∈ xs, (text x).length < count → Reads close item text value x) :
    bracketed? close item count (bracketText level close (xs.map text) ++ rest) =
      some (xs.map value, rest) := by
  obtain ⟨few, longest⟩ := length_lt_length_bracketText level close (xs.map text)
  rw [List.length_map] at few
  have all : ∀ x ∈ xs, Reads close item text value x := fun x m =>
    each x m ((longest _ (List.mem_map_of_mem m)).trans_le enough)
  unfold bracketed?
  cases xs with
  | nil =>
    have written : bracketText level close (([] : List α).map text) ++ rest = close :: rest := rfl
    rw [written, skip_of_not_blank closing.2]
    exact if_pos rfl
  | cons x xs =>
    have own := all x (List.mem_cons_self ..)
    have split : bracketText level close ((x :: xs).map text) ++ rest =
        Json.newLine (level + 1) ++ (text x ++ (further (level + 1) (xs.map text) ++
          (Json.newLine level ++ close :: rest))) := by
      unfold bracketText
      simp only [List.map_cons, List.append_assoc, List.singleton_append]
    have count' : xs.length < count := by
      rw [List.length_cons] at few
      omega
    have read := items?_append closing (level + 1) level rest xs x count all count'
    rw [split, skip_newLine, own.skip_eq, items?_newLine, read]
    obtain ⟨c, others, written, -, open_⟩ := own.solid
    refine if_neg fun head => open_ ?_
    rw [written] at head
    exact Option.some.inj head

end

end Decoded

end BestTimes
