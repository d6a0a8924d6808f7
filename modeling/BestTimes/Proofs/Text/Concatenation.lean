import BestTimes.Proofs.Text.Lines
import Mathlib.Data.List.Count
set_option autoImplicit false

/-!
# Lines of several contents

Contents that stand one behind the other are cut into lines at once, or one content at a
time.  Both give the same lines just if every line ends before the next content begins
(`lines_flatten_iff`): a content that does not end with a line feed (`Complete`) leaves
its last line open, and whatever follows goes on with it.  `completed` puts a line feed
behind such a line.  Apart from a carriage return this changes no line
(`exists_last_line`).

What is in front of the open line is complete (`exists_endedPart_append`), so its lines are the
same whatever follows (`lines_endedPart_prefix`).
-/

namespace BestTimes.Text

/-! ## Complete contents -/

/-- Whether bytes leave no line open. -/
def Complete (bytes : List UInt8) : Prop := bytes = [] ∨ bytes.getLast? = some 10

instance (bytes : List UInt8) : Decidable (Complete bytes) := inferInstanceAs (Decidable (_ ∨ _))

theorem complete_append_feed (bytes : List UInt8) : Complete (bytes ++ [10]) :=
  .inr List.getLast?_concat

/-- Bytes with a line feed behind the line that they leave open. -/
def completed (bytes : List UInt8) : List UInt8 :=
  if Complete bytes then bytes else bytes ++ [10]

theorem complete_completed (bytes : List UInt8) : Complete (completed bytes) := by
  unfold completed
  split
  · assumption
  · exact complete_append_feed bytes

/-- Behind complete bytes a line begins. -/
theorem lines_append_of_complete {bytes : List UInt8} (h : Complete bytes) (rest : List UInt8) :
    lines (bytes ++ rest) = lines bytes ++ lines rest := by
  rcases h with rfl | feed
  · rfl
  · obtain ⟨front, rfl⟩ := List.getLast?_eq_some_iff.1 feed
    rw [List.append_assoc, List.singleton_append, lines_append_feed]

/-- The ended part is complete, and there is no line feed behind it. -/
theorem exists_endedPart_append (bytes : List UInt8) :
    Complete (endedPart bytes) ∧ ∃ begun, bytes = endedPart bytes ++ begun ∧ 10 ∉ begun := by
  unfold endedPart
  refine ⟨?_, (bytes.reverse.takeWhile (· != 10)).reverse, ?_, ?_⟩
  · have first := List.head?_dropWhile_not (· != (10 : UInt8)) bytes.reverse
    unfold Complete
    rw [List.getLast?_reverse]
    cases ended : bytes.reverse.dropWhile (· != 10) with
    | nil => exact .inl rfl
    | cons b rest =>
      rw [ended] at first
      right
      simpa using first
  · rw [← List.reverse_append, List.takeWhile_append_dropWhile, List.reverse_reverse]
  · intro feed
    rw [List.mem_reverse] at feed
    simpa using List.all_eq_true.1 List.all_takeWhile 10 feed

/-- The lines of the ended part come first, whatever follows. -/
theorem lines_endedPart_prefix (bytes rest : List UInt8) :
    lines (endedPart bytes) <+: lines (bytes ++ rest) := by
  obtain ⟨complete, begun, split, -⟩ := exists_endedPart_append bytes
  conv_rhs => rw [split]
  rw [List.append_assoc, lines_append_of_complete complete]
  exact List.prefix_append _ _

/-- There is a line for every line feed, and one that is left open. -/
theorem length_linesFrom (current bytes : List UInt8) :
    (linesFrom current bytes).length =
      bytes.count 10 + if current ++ bytes = [] ∨ bytes.getLast? = some 10 then 0 else 1 := by
  induction bytes generalizing current with
  | nil =>
    unfold linesFrom
    cases current <;> simp
  | cons b rest ih =>
    unfold linesFrom
    cases rest with
    | nil =>
      by_cases feed : b = 10
      · simp [feed, linesFrom]
      · simp [feed, linesFrom]
    | cons c rest =>
      by_cases feed : b = 10
      · simp [feed, ih]
        omega
      · simp [feed, ih]

theorem length_lines (bytes : List UInt8) :
    (lines bytes).length = bytes.count 10 + if Complete bytes then 0 else 1 := by
  unfold lines
  rw [length_linesFrom, List.nil_append]
  rfl

/-- A line that is left open is one line with what follows. -/
theorem length_lines_append (bytes : List UInt8) {rest : List UInt8} (h : rest ≠ []) :
    (lines (bytes ++ rest)).length + (if Complete bytes then 0 else 1) =
      (lines bytes).length + (lines rest).length := by
  have final : (bytes ++ rest).getLast? = rest.getLast? := by
    rw [List.getLast?_append, List.getLast?_eq_some_getLast h, Option.some_or]
  have ends : Complete (bytes ++ rest) ↔ Complete rest := by
    unfold Complete
    rw [final]
    simp [h]
  rw [length_lines, length_lines, length_lines, List.count_append]
  simp only [ends]
  omega

/-! ## Contents one behind the other -/

/-- Whether no line goes on from one of the contents to another. -/
def Seamless : List (List UInt8) → Prop
  | [] => True
  | content :: rest => (Complete content ∨ rest.flatten = []) ∧ Seamless rest

instance decidableSeamless : (contents : List (List UInt8)) → Decidable (Seamless contents)
  | [] => inferInstanceAs (Decidable True)
  | _ :: rest =>
    have := decidableSeamless rest
    inferInstanceAs (Decidable ((_ ∨ _) ∧ _))

theorem seamless_of_complete {contents : List (List UInt8)} (h : ∀ c ∈ contents, Complete c) :
    Seamless contents := by
  induction contents with
  | nil => trivial
  | cons content contents ih =>
    obtain ⟨own, rest⟩ := List.forall_mem_cons.1 h
    exact ⟨.inl own, ih rest⟩

theorem seamless_of_flatten_eq_nil {contents : List (List UInt8)} (h : contents.flatten = []) :
    Seamless contents :=
  seamless_of_complete fun c hc => .inl (List.flatten_eq_nil_iff.1 h c hc)

theorem lines_flatten_of_seamless {contents : List (List UInt8)} (h : Seamless contents) :
    lines contents.flatten = contents.flatMap lines := by
  induction contents with
  | nil => rfl
  | cons content contents ih =>
    obtain ⟨own, rest⟩ := h
    rw [List.flatten_cons, List.flatMap_cons, ← ih rest]
    rcases own with complete | last
    · exact lines_append_of_complete complete _
    · rw [last, List.append_nil]
      exact (List.append_nil _).symm

/-- Cut at once, contents have no more lines than one at a time. -/
theorem length_lines_flatten_le (contents : List (List UInt8)) :
    (lines contents.flatten).length ≤ (contents.flatMap lines).length := by
  induction contents with
  | nil => exact Nat.le_refl 0
  | cons content contents ih =>
    rw [List.flatten_cons, List.flatMap_cons, List.length_append]
    by_cases last : contents.flatten = []
    · rw [last, List.append_nil]
      exact Nat.le_add_right _ _
    · have joined := length_lines_append content last
      omega

/-- Contents that are cut at once have the lines that they have one at a time just if no
line goes on from one to another. -/
theorem lines_flatten_iff (contents : List (List UInt8)) :
    lines contents.flatten = contents.flatMap lines ↔ Seamless contents := by
  refine ⟨fun same => ?_, lines_flatten_of_seamless⟩
  induction contents with
  | nil => trivial
  | cons content contents ih =>
    rw [List.flatten_cons, List.flatMap_cons] at same
    by_cases last : contents.flatten = []
    · exact ⟨.inr last, seamless_of_flatten_eq_nil last⟩
    · have joined := length_lines_append content last
      have bound := length_lines_flatten_le contents
      rw [same, List.length_append] at joined
      -- An open line with bytes behind it makes one line too few, and no other content
      -- makes up for it.
      by_cases complete : Complete content
      · rw [lines_append_of_complete complete] at same
        exact ⟨.inl complete, ih (List.append_cancel_left same)⟩
      · rw [if_neg complete] at joined
        omega

/-! ## A line that is left open -/

theorem endedLine_reverse_cases (line : List UInt8) :
    endedLine line.reverse = line ∨ line = endedLine line.reverse ++ [13] := by
  by_cases final : line.getLast? = some 13
  · obtain ⟨front, rfl⟩ := List.getLast?_eq_some_iff.1 final
    right
    simp [endedLine]
  · exact .inl (endedLine_reverse final)

/-- What follows an open line goes on with it. -/
theorem exists_open_lineFrom {current bytes : List UInt8} (begun : current ++ bytes ≠ [])
    (unended : bytes.getLast? ≠ some 10) :
    ∃ front last, linesFrom current bytes = front ++ [last] ∧
      ∀ rest, linesFrom current (bytes ++ rest) = front ++ linesFrom last.reverse rest := by
  induction bytes generalizing current with
  | nil =>
    refine ⟨[], current.reverse, ?_, ?_⟩
    · cases current with
      | nil => exact absurd rfl begun
      | cons b current => rfl
    · intro rest
      rw [List.reverse_reverse]
      rfl
  | cons b tail ih =>
    have later : tail.getLast? ≠ some 10 := by
      intro feed
      rw [List.getLast?_cons, feed] at unended
      exact unended rfl
    simp only [List.cons_append, linesFrom]
    by_cases feed : b = 10
    · have nonempty : tail ≠ [] := by
        rintro rfl
        exact unended (by rw [feed]; rfl)
      obtain ⟨front, last, cut, follows⟩ := @ih [] nonempty later
      simp only [if_pos feed, cut, follows]
      exact ⟨endedLine current :: front, last, rfl, fun _ => rfl⟩
    · simp only [if_neg feed]
      exact ih (by simp) later

theorem exists_open_line {bytes : List UInt8} (h : ¬ Complete bytes) :
    ∃ front last, lines bytes = front ++ [last] ∧
      ∀ rest, lines (bytes ++ rest) = front ++ linesFrom last.reverse rest := by
  obtain ⟨nonempty, unended⟩ := not_or.1 h
  exact @exists_open_lineFrom [] bytes nonempty unended

/-- A line feed behind an open line ends that line, and changes no other. -/
theorem exists_last_line {bytes : List UInt8} (h : ¬ Complete bytes) :
    ∃ front last, lines bytes = front ++ [last] ∧
      lines (bytes ++ [10]) = front ++ [endedLine last.reverse] := by
  obtain ⟨front, last, cut, follows⟩ := exists_open_line h
  exact ⟨front, last, cut, follows [10]⟩

/-- A line that ends behind an open one is at the end of both, but for a carriage return
that the open line ends in. -/
theorem endedLine_append (begun line : List UInt8) :
    endedLine (line.reverse ++ begun.reverse) = begun ++ endedLine line.reverse ∨
      begun ++ endedLine line.reverse = endedLine (line.reverse ++ begun.reverse) ++ [13] := by
  rcases List.eq_nil_or_concat line with rfl | ⟨front, b, rfl⟩
  · have empty : endedLine (([] : List UInt8).reverse) = [] := rfl
    rw [empty, List.append_nil]
    exact endedLine_reverse_cases begun
  · left
    rw [List.concat_eq_append, List.reverse_append, List.reverse_singleton]
    by_cases final : b = 13
    · subst final
      simp [endedLine]
    · simp [endedLine, final]

/-- The first of some lines goes on with a line begun, and the others follow. -/
theorem exists_seam {begun bytes first : List UInt8} {later : List (List UInt8)}
    (cut : lines bytes = first :: later) :
    ∃ seam, linesFrom begun.reverse bytes = seam :: later ∧
      (seam = begun ++ first ∨ begun ++ first = seam ++ [13]) := by
  by_cases feed : 10 ∈ bytes
  · obtain ⟨line, rest, rfl, whole⟩ := List.eq_append_cons_of_mem feed
    unfold lines at cut
    rw [linesFrom_append_of_notMem whole, linesFrom, if_pos rfl, List.append_nil] at cut
    obtain ⟨rfl, rfl⟩ := List.cons.inj cut
    rw [linesFrom_append_of_notMem whole, linesFrom, if_pos rfl]
    exact ⟨_, rfl, endedLine_append begun line⟩
  · have nonempty : bytes ≠ [] := by
      rintro rfl
      cases cut
    have whole (current : List UInt8) : linesFrom current bytes = [current.reverse ++ bytes] := by
      have cut := linesFrom_append_of_notMem feed current []
      rw [List.append_nil] at cut
      rw [cut, linesFrom, if_neg (by simpa using fun h => absurd h nonempty), List.reverse_append,
        List.reverse_reverse]
    unfold lines at cut
    rw [whole] at cut
    obtain ⟨rfl, rfl⟩ := List.cons.inj cut
    exact ⟨_, whole _, .inl (by rw [List.reverse_reverse]; rfl)⟩

end BestTimes.Text
