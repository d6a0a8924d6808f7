import BestTimes.Text.Lines
set_option autoImplicit false

/-!
# Lines of texts

`lines` cuts bytes.  The bytes it cuts are those of a text, and what is written is
text again, line by line, so this module says what cutting does to texts.

* A byte of ASCII stands for its character and for nothing else
  (`mem_utf8EncodeChar`, `mem_encode_iff`), so a cut at a line feed never falls
  inside a character: every line of a text is a text (`map_encode_linesOf`).
* A line holds no line feed (`feed_notMem_of_mem_lines`), and there are no more lines
  than bytes (`length_lines_le`).
* Lines that are written with a line feed behind each are the lines that are read,
  unless one of them ends in a carriage return (`lines_ended`).
-/

namespace BestTimes.Text

/-! ## Bytes of characters -/

/-- A text is encoded character by character. -/
theorem encode_eq_flatMap (text : String) :
    encode text = text.toList.flatMap String.utf8EncodeChar := by
  have spelled : text.toByteArray = text.toList.utf8Encode := String.utf8Encode_toList.symm
  unfold encode
  rw [String.toUTF8_eq_toByteArray, spelled, List.utf8Encode, List.data_toByteArray]

/-- A byte of ASCII occurs in the encoding of no character but its own, and is all of
that encoding. -/
theorem mem_utf8EncodeChar {c : Char} {b : UInt8} (ascii : b.toNat < 128)
    (h : b ∈ String.utf8EncodeChar c) :
    c.toNat = b.toNat ∧ String.utf8EncodeChar c = [b] := by
  have value : c.val.toNat = c.toNat := rfl
  by_cases single : c.val.toNat ≤ 127
  · have code : String.utf8EncodeChar c = [UInt8.ofNat c.val.toNat] := by
      simp only [String.utf8EncodeChar, single, if_true]
    rw [code, List.mem_singleton] at h
    rw [code, h, UInt8.toNat_ofNat', Nat.mod_eq_of_lt (by omega)]
    exact ⟨value.symm, rfl⟩
  · -- In a longer encoding every byte has its highest bit set.
    exfalso
    simp only [String.utf8EncodeChar, single, if_false] at h
    repeat' split at h
    all_goals
      simp only [List.mem_cons, List.not_mem_nil, or_false] at h
      rcases h with rfl | rfl | rfl | rfl <;>
        simp only [UInt8.toNat_ofNat'] at ascii <;> omega

/-- A byte of ASCII is in the encoding of a text just if its character is in the text. -/
theorem mem_encode_iff (text : String) {c : Char} (ascii : c.toNat < 128) :
    UInt8.ofNat c.toNat ∈ encode text ↔ c ∈ text.toList := by
  have code : (UInt8.ofNat c.toNat).toNat = c.toNat := by
    rw [UInt8.toNat_ofNat', Nat.mod_eq_of_lt (by omega)]
  rw [encode_eq_flatMap, List.mem_flatMap]
  constructor
  · rintro ⟨d, hd, hb⟩
    have same := (mem_utf8EncodeChar (by omega) hb).1
    have : d = c := Char.toNat_inj.1 (by omega)
    exact this ▸ hd
  · intro hc
    refine ⟨c, hc, ?_⟩
    have single : c.val.toNat ≤ 127 := Nat.le_of_lt_succ ascii
    simp only [String.utf8EncodeChar, single, if_true, List.mem_singleton]
    rfl

/-- Only a carriage return makes an encoded text end in one. -/
theorem exists_concat_of_getLast? {text : List Char}
    (h : (text.flatMap String.utf8EncodeChar).getLast? = some 13) :
    ∃ front, text = front ++ ['\r'] := by
  rcases List.eq_nil_or_concat text with rfl | ⟨front, last, rfl⟩
  · simp at h
  · rw [List.concat_eq_append, List.flatMap_append, List.flatMap_singleton] at h
    have nonempty := String.utf8EncodeChar_ne_nil (c := last)
    rw [List.getLast?_append, List.getLast?_eq_some_getLast nonempty, Option.some_or] at h
    have ends : 13 ∈ String.utf8EncodeChar last :=
      List.mem_of_getLast? (by rw [List.getLast?_eq_some_getLast nonempty, h])
    have same : last = '\r' := Char.toNat_inj.1 (mem_utf8EncodeChar (by decide) ends).1
    exact ⟨front, by rw [List.concat_eq_append, same]⟩

/-! ## Line feeds -/

theorem linesFrom_append_of_notMem {piece : List UInt8} (whole : 10 ∉ piece)
    (current rest : List UInt8) :
    linesFrom current (piece ++ rest) = linesFrom (piece.reverse ++ current) rest := by
  induction piece generalizing current with
  | nil => rfl
  | cons b piece ih =>
    rw [List.mem_cons, not_or] at whole
    rw [List.cons_append, linesFrom, if_neg fun h => whole.1 h.symm, ih whole.2,
      List.reverse_cons, List.append_assoc, List.singleton_append]

theorem feed_notMem_of_mem_linesFrom {current bytes line : List UInt8} (begun : 10 ∉ current)
    (h : line ∈ linesFrom current bytes) : 10 ∉ line := by
  induction bytes generalizing current with
  | nil =>
    unfold linesFrom at h
    split at h
    · simp at h
    · rw [List.mem_singleton] at h
      simpa [h] using begun
  | cons b rest ih =>
    unfold linesFrom at h
    split at h
    · rcases List.mem_cons.1 h with rfl | h
      · unfold endedLine
        split
        · simpa using fun m => begun (List.mem_cons_of_mem _ m)
        · simpa using begun
      · exact ih (by simp) h
    · rename_i other
      refine ih ?_ h
      rw [List.mem_cons, not_or]
      exact ⟨fun e => other e.symm, begun⟩

/-- No line holds a line feed. -/
theorem feed_notMem_of_mem_lines {bytes line : List UInt8} (h : line ∈ lines bytes) :
    10 ∉ line :=
  feed_notMem_of_mem_linesFrom (by simp) h

theorem length_linesFrom_le (current bytes : List UInt8) :
    (linesFrom current bytes).length ≤ bytes.length + if current.isEmpty then 0 else 1 := by
  induction bytes generalizing current with
  | nil => unfold linesFrom; split <;> simp
  | cons b rest ih =>
    unfold linesFrom
    split
    · have := ih []
      simp only [List.isEmpty_nil, if_true] at this
      simp only [List.length_cons]
      omega
    · have := ih (b :: current)
      simp only [List.isEmpty_cons, Bool.false_eq_true, if_false] at this
      simp only [List.length_cons]
      omega

/-- There are no more lines than bytes. -/
theorem length_lines_le (bytes : List UInt8) : (lines bytes).length ≤ bytes.length :=
  length_linesFrom_le [] bytes

/-! ## Lines of a text -/

/-- An encoded text that ends in a carriage return is an encoded text without it. -/
theorem encodes_of_append_return {begun : List Char} {bytes : List UInt8}
    (h : begun.flatMap String.utf8EncodeChar = bytes ++ [13]) :
    ∃ text, encode text = bytes := by
  have final : (begun.flatMap String.utf8EncodeChar).getLast? = some 13 := by
    rw [h, List.getLast?_concat]
  obtain ⟨front, rfl⟩ := exists_concat_of_getLast? final
  have code : String.utf8EncodeChar '\r' = [13] := by decide
  rw [List.flatMap_append, List.flatMap_singleton, code] at h
  refine ⟨String.ofList front, ?_⟩
  rw [encode_eq_flatMap, String.toList_ofList]
  exact List.append_cancel_right h

/-- Bytes with a carriage return behind them spell the text with one. -/
theorem decode_append_return (bytes : List UInt8) :
    decode (bytes ++ [13]) = (decode bytes).map (· ++ "\r") := by
  have code : encode "\r" = [13] := by decide +kernel
  cases decoded : decode bytes with
  | some text =>
    rw [← encode_of_decode decoded, ← code, ← encode_append, decode_encode]
    rfl
  | none =>
    cases longer : decode (bytes ++ [13]) with
    | none => rfl
    | some text =>
      have spelled := encode_of_decode longer
      rw [encode_eq_flatMap] at spelled
      obtain ⟨front, rfl⟩ := encodes_of_append_return spelled
      rw [decode_encode] at decoded
      cases decoded

/-- Cutting at line feeds leaves texts: `begun` is the text of the line begun, and
`rest` the text that is still to be cut. -/
theorem encodes_of_mem_linesFrom {begun rest : List Char} {line : List UInt8}
    (h : line ∈ linesFrom (begun.flatMap String.utf8EncodeChar).reverse
      (rest.flatMap String.utf8EncodeChar)) :
    ∃ text, encode text = line := by
  have own (cs : List Char) : ∃ text, encode text = cs.flatMap String.utf8EncodeChar :=
    ⟨String.ofList cs, by rw [encode_eq_flatMap, String.toList_ofList]⟩
  induction rest generalizing begun with
  | nil =>
    rw [List.flatMap_nil, linesFrom] at h
    split at h
    · simp at h
    · rw [List.mem_singleton, List.reverse_reverse] at h
      exact h ▸ own begun
  | cons c rest ih =>
    rw [List.flatMap_cons] at h
    by_cases feed : 10 ∈ String.utf8EncodeChar c
    · rw [(mem_utf8EncodeChar (by decide) feed).2, List.singleton_append, linesFrom,
        if_pos rfl, List.mem_cons] at h
      rcases h with rfl | h
      · unfold endedLine
        split
        · rename_i front reversed
          rw [List.reverse_eq_cons_iff] at reversed
          exact encodes_of_append_return reversed
        · rw [List.reverse_reverse]
          exact own begun
      · exact @ih [] h
    · rw [linesFrom_append_of_notMem feed, ← List.reverse_append] at h
      refine @ih (begun ++ [c]) ?_
      rwa [List.flatMap_append, List.flatMap_singleton]

/-- Every line of a text is a text. -/
theorem encodes_of_mem_lines {text : String} {line : List UInt8}
    (h : line ∈ lines (encode text)) : ∃ part, encode part = line := by
  refine @encodes_of_mem_linesFrom [] text.toList line ?_
  rwa [← encode_eq_flatMap]

theorem map_encode_filterMap_decode {cut : List (List UInt8)}
    (h : ∀ line ∈ cut, ∃ part, encode part = line) :
    (cut.filterMap decode).map encode = cut := by
  induction cut with
  | nil => rfl
  | cons line cut ih =>
    obtain ⟨⟨part, rfl⟩, rest⟩ := List.forall_mem_cons.1 h
    rw [List.filterMap_cons, decode_encode]
    simp only [List.map_cons]
    rw [ih rest]

/-- The lines of a text are the lines of its bytes; none is lost. -/
theorem map_encode_linesOf (text : String) : (linesOf text).map encode = lines (encode text) :=
  map_encode_filterMap_decode fun _ => encodes_of_mem_lines

theorem length_linesOf (text : String) : (linesOf text).length = (lines (encode text)).length := by
  rw [← map_encode_linesOf, List.length_map]

/-! ## Written lines -/

/-- Lines as bytes, each with a line feed behind it. -/
def ended (written : List String) : List UInt8 := written.flatMap fun line => encode line ++ [10]

theorem ended_append (written others : List String) :
    ended (written ++ others) = ended written ++ ended others := List.flatMap_append

theorem ended_singleton (line : String) : ended [line] = encode line ++ [10] :=
  List.flatMap_singleton _ _

theorem ended_cons (line : String) (written : List String) :
    ended (line :: written) = encode line ++ 10 :: ended written := by
  unfold ended
  rw [List.flatMap_cons, List.append_assoc, List.singleton_append]

theorem exists_encode_eq_ended (written : List String) :
    ∃ text, encode text = ended written := by
  induction written with
  | nil => exact ⟨"", rfl⟩
  | cons line written ih =>
    obtain ⟨text, spelled⟩ := ih
    have feed : encode "\n" = [10] := by decide +kernel
    refine ⟨line ++ "\n" ++ text, ?_⟩
    rw [encode_append, encode_append, feed, spelled, ended_cons, List.append_assoc,
      List.singleton_append]

/-- Whether a text stays one line when a line feed is written behind it: it holds no
line feed and does not end in a carriage return. -/
def OneLine (line : String) : Prop :=
  '\n' ∉ line.toList ∧ line.toList.getLast? ≠ some '\r'

/-- A line that is ended by a line feed loses nothing if it does not end in a carriage
return. -/
theorem endedLine_reverse {line : List UInt8} (h : line.getLast? ≠ some 13) :
    endedLine line.reverse = line := by
  unfold endedLine
  split
  · rename_i rest reversed
    rw [← List.head?_reverse, reversed] at h
    exact absurd rfl h
  · exact List.reverse_reverse line

theorem lines_append_of_oneLine {line : String} (h : OneLine line) (rest : List UInt8) :
    lines (encode line ++ 10 :: rest) = encode line :: lines rest := by
  obtain ⟨noFeed, noReturn⟩ := h
  have whole : 10 ∉ encode line := by
    intro feed
    exact noFeed ((mem_encode_iff line (by decide)).1 feed)
  have final : (encode line).getLast? ≠ some 13 := by
    intro last
    rw [encode_eq_flatMap] at last
    obtain ⟨front, split⟩ := exists_concat_of_getLast? last
    rw [split, List.getLast?_concat] at noReturn
    exact noReturn rfl
  unfold lines
  rw [linesFrom_append_of_notMem whole, List.append_nil, linesFrom, if_pos rfl,
    endedLine_reverse final]

/-- Lines that are written with a line feed behind each are the lines that are read. -/
theorem lines_ended {written : List String} (h : ∀ line ∈ written, OneLine line) :
    lines (ended written) = written.map encode := by
  induction written with
  | nil => rfl
  | cons line written ih =>
    obtain ⟨own, rest⟩ := List.forall_mem_cons.1 h
    rw [ended_cons, lines_append_of_oneLine own, List.map_cons, ih rest]

theorem linesOf_of_ended {text : String} {written : List String}
    (spelled : encode text = ended written) (h : ∀ line ∈ written, OneLine line) :
    linesOf text = written := by
  unfold linesOf
  rw [spelled, lines_ended h, List.filterMap_map]
  have read : decode ∘ encode = some := funext decode_encode
  rw [read, List.filterMap_some]

/-! ## The size of a text -/

/-- The least size in bytes that is too large for memory: sizes fit 63 bits. -/
def memoryLimit : Nat := 9223372036854775808

/-- Whether a text can be in memory. -/
def Addressable (text : String) : Prop := text.utf8ByteSize < memoryLimit

instance (text : String) : Decidable (Addressable text) := inferInstanceAs (Decidable (_ < _))

theorem length_encode (text : String) : (encode text).length = text.utf8ByteSize := by
  unfold encode
  rw [String.toUTF8_eq_toByteArray, Array.length_toList]
  rfl

theorem Addressable.of_append {text other : String} (h : Addressable (text ++ other)) :
    Addressable text := by
  unfold Addressable at h ⊢
  rw [← length_encode, encode_append, List.length_append] at h
  rw [← length_encode]
  omega

/-- A text in memory has far fewer lines than there are numbers of 64 bits. -/
theorem length_linesOf_lt {text : String} (h : Addressable text) :
    (linesOf text).length < memoryLimit := by
  rw [length_linesOf]
  refine Nat.lt_of_le_of_lt (length_lines_le _) ?_
  rw [length_encode]
  exact h

end BestTimes.Text
