import Mathlib.Data.List.Infix
import HiddenImports.Proofs.LiteralRun

/-!
# The overlap test on encoded texts

In UTF-8 a text is cut between two characters just where a byte begins a character (`isBoundary_iff`), so
an encoded text occurs in another one only as a whole text at such a place (`exists_of_bytes_eq`). Hence
the overlap test may as well be made on the bytes, with the places inside a character left out
(`mayRecreateBytes_eq`).
-/

namespace HiddenImports

namespace Text

/-- The bytes of a text in UTF-8. -/
def bytes (text : List Char) : List UInt8 := text.flatMap String.utf8EncodeChar

/-- The place `n` is the end, or the byte behind it begins a character. -/
def isBoundary (bs : List UInt8) (n : Nat) : Bool :=
  n == bs.length || bs[n]?.any fun b => decide b.IsUTF8FirstByte

variable {find text left right : List Char}

@[simp] theorem bytes_nil : bytes [] = [] := rfl

@[simp] theorem bytes_cons (c : Char) (text : List Char) :
    bytes (c :: text) = String.utf8EncodeChar c ++ bytes text := rfl

@[simp] theorem bytes_append (left right : List Char) :
    bytes (left ++ right) = bytes left ++ bytes right := List.flatMap_append

theorem bytes_eq_nil_iff : bytes text = [] ↔ text = [] := by
  cases text <;> simp

theorem length_bytes_pos (h : text ≠ []) : 0 < (bytes text).length :=
  List.length_pos_iff.2 (mt bytes_eq_nil_iff.1 h)

/-! ## Places between characters -/

theorem isBoundary_append (bs more : List UInt8) (n : Nat) :
    isBoundary (bs ++ more) (bs.length + n) = isBoundary more n := by
  have hend : (bs.length + n == bs.length + more.length) = (n == more.length) := by
    rw [Bool.eq_iff_iff, beq_iff_eq, beq_iff_eq, Nat.add_left_cancel_iff]
  rw [isBoundary, isBoundary, List.length_append, hend,
    List.getElem?_append_right (Nat.le_add_right _ _), Nat.add_sub_cancel_left]

/-- Of the bytes of one character only the first one begins it. -/
theorem isBoundary_utf8EncodeChar_append {c : Char} {n : Nat}
    (hn : n < (String.utf8EncodeChar c).length) (more : List UInt8) :
    isBoundary (String.utf8EncodeChar c ++ more) n = true ↔ n = 0 := by
  have hend : ¬ n = (String.utf8EncodeChar c ++ more).length := by
    rw [List.length_append]
    omega
  rw [isBoundary, Bool.or_eq_true, beq_iff_eq, or_iff_right hend, List.getElem?_append_left hn,
    List.getElem?_eq_getElem hn, Option.any_some, decide_eq_true_iff]
  exact UInt8.isUTF8FirstByte_getElem_utf8EncodeChar

theorem isBoundary_bytes_append_zero (hf : find ≠ []) (more : List UInt8) :
    isBoundary (bytes find ++ more) 0 = true := by
  obtain ⟨c, rest, rfl⟩ := List.exists_cons_of_ne_nil hf
  have hpos := List.length_pos_iff.2 (String.utf8EncodeChar_ne_nil (c := c))
  rw [bytes_cons, List.append_assoc]
  exact (isBoundary_utf8EncodeChar_append hpos _).2 rfl

theorem exists_of_isBoundary : ∀ {text : List Char} {n : Nat}, isBoundary (bytes text) n = true →
    ∃ left right, text = left ++ right ∧ (bytes left).length = n
  | [], n, h => by
    have hn : n = 0 := by simpa [isBoundary] using h
    exact ⟨[], [], rfl, hn.symm⟩
  | c :: rest, n, h => by
    rw [bytes_cons] at h
    by_cases hn : n < (String.utf8EncodeChar c).length
    · have hzero := (isBoundary_utf8EncodeChar_append hn _).1 h
      exact ⟨[], c :: rest, rfl, hzero.symm⟩
    · obtain ⟨m, rfl⟩ := Nat.exists_eq_add_of_le (Nat.le_of_not_lt hn)
      rw [isBoundary_append] at h
      obtain ⟨left, right, rfl, rfl⟩ := exists_of_isBoundary h
      exact ⟨c :: left, right, rfl, by rw [bytes_cons, List.length_append]⟩

/-- The places between characters are the ends of the encoded beginnings of the text. -/
theorem isBoundary_iff {n : Nat} : isBoundary (bytes text) n = true ↔
    ∃ left right, text = left ++ right ∧ (bytes left).length = n := by
  constructor
  · exact exists_of_isBoundary
  · rintro ⟨left, right, rfl, rfl⟩
    rw [bytes_append, ← Nat.add_zero (bytes left).length, isBoundary_append]
    by_cases hr : right = []
    · rw [hr]
      rfl
    · simpa using isBoundary_bytes_append_zero hr []

/-! ## Occurrences -/

theorem prefix_of_bytes_prefix (h : bytes find <+: bytes text) : find <+: text := by
  obtain ⟨more, hmore⟩ := h
  apply List.isPrefix_of_utf8Encode_append_eq_utf8Encode more.toByteArray
  rw [List.utf8Encode, List.utf8Encode, ← List.toByteArray_append]
  exact congrArg List.toByteArray hmore

/-- An encoded text stands in another one only where its characters stand in it. -/
theorem exists_of_bytes_eq {before after : List UInt8} (hf : find ≠ [])
    (h : bytes text = before ++ bytes find ++ after) :
    ∃ left right, text = left ++ find ++ right ∧ bytes left = before ∧ bytes right = after := by
  have hplace : isBoundary (bytes text) before.length = true := by
    rw [h, List.append_assoc, ← Nat.add_zero before.length, isBoundary_append]
    exact isBoundary_bytes_append_zero hf after
  obtain ⟨left, rest, rfl, hlength⟩ := isBoundary_iff.1 hplace
  rw [bytes_append, List.append_assoc] at h
  obtain ⟨hleft, hrest⟩ := List.append_inj h hlength
  obtain ⟨right, rfl⟩ := prefix_of_bytes_prefix ⟨after, hrest.symm⟩
  rw [bytes_append, List.append_cancel_left_eq] at hrest
  exact ⟨left, right, (List.append_assoc _ _ _).symm, hleft, hrest⟩

theorem bytes_infix_iff : bytes find <:+: bytes text ↔ Occurs find text := by
  constructor
  · rintro ⟨before, after, h⟩
    by_cases hf : find = []
    · exact ⟨[], text, by simp [hf]⟩
    · obtain ⟨left, right, htext, -, -⟩ := exists_of_bytes_eq hf h.symm
      exact ⟨left, right, htext⟩
  · rintro ⟨left, right, rfl⟩
    exact ⟨bytes left, bytes right, by simp⟩

theorem bytes_prefix_iff : bytes find <+: bytes text ↔ find <+: text := by
  constructor
  · exact prefix_of_bytes_prefix
  · rintro ⟨right, rfl⟩
    exact ⟨bytes right, by simp⟩

theorem bytes_suffix_iff : bytes find <:+ bytes text ↔ find <:+ text := by
  constructor
  · rintro ⟨before, h⟩
    by_cases hf : find = []
    · rw [hf]
      exact List.nil_suffix
    · have hend : bytes text = before ++ bytes find ++ [] := by rw [List.append_nil, h]
      obtain ⟨left, right, rfl, -, hright⟩ := exists_of_bytes_eq hf hend
      rw [bytes_eq_nil_iff.1 hright, List.append_nil]
      exact List.suffix_append left find
  · rintro ⟨left, rfl⟩
    exact ⟨bytes left, by simp⟩

end Text

/-- The overlap test as it is made on the bytes of two texts: it asks of every place inside `find` that
lies between two characters whether what stands behind it begins `inserted` or what stands before it
ends `inserted`. -/
def mayRecreateBytes (find inserted : List UInt8) : Bool :=
  decide (find <:+: inserted)
    || (inserted.length < find.length && decide (inserted <:+: find))
    || (List.range' 1 (find.length - 1)).any fun n =>
      Text.isBoundary find n &&
        ((find.drop n).isPrefixOf inserted || (find.take n).isSuffixOf inserted)

theorem mayRecreateBytes_iff {find inserted : List Char} :
    mayRecreateBytes (Text.bytes find) (Text.bytes inserted) = true ↔
      Text.Overlaps find inserted := by
  simp only [mayRecreateBytes, Bool.or_eq_true, Bool.and_eq_true, decide_eq_true_eq,
    List.any_eq_true, List.mem_range'_1, List.isPrefixOf_iff_prefix, List.isSuffixOf_iff_suffix,
    Text.bytes_infix_iff, Text.isBoundary_iff, or_assoc]
  constructor
  · rintro (h | ⟨-, h⟩ | ⟨n, ⟨hn, hlt⟩, ⟨l, r, rfl, rfl⟩, h⟩)
    · exact .inl h
    · exact .inr (.inl h)
    · rw [Text.bytes_append, List.drop_left, List.take_left, Text.bytes_prefix_iff,
        Text.bytes_suffix_iff] at h
      refine .inr (.inr ⟨l, r, ?_, ?_, rfl, h.symm⟩)
      · rintro rfl
        simp at hn
      · rintro rfl
        simp only [List.append_nil] at hlt
        omega
  · rintro (h | h | ⟨l, r, hl, hr, rfl, h⟩)
    · exact .inl h
    · by_cases hlt : (Text.bytes inserted).length < (Text.bytes find).length
      · exact .inr (.inl ⟨hlt, h⟩)
      · have heq := (Text.bytes_infix_iff.2 h).eq_of_length_le (by omega)
        refine .inl (Text.bytes_infix_iff.1 ?_)
        rw [heq]
    · refine .inr (.inr ⟨(Text.bytes l).length, ?_, ⟨l, r, rfl, rfl⟩, ?_⟩)
      · have hlpos := Text.length_bytes_pos hl
        have hrpos := Text.length_bytes_pos hr
        simp only [Text.bytes_append, List.length_append]
        omega
      · rw [Text.bytes_append, List.drop_left, List.take_left, Text.bytes_prefix_iff,
          Text.bytes_suffix_iff]
        exact h.symm

/-- The test on bytes is the test on characters. -/
theorem mayRecreateBytes_eq {find inserted : List Char} (hf : find ≠ []) :
    mayRecreateBytes (Text.bytes find) (Text.bytes inserted) = mayRecreate find inserted := by
  rw [Bool.eq_iff_iff, mayRecreateBytes_iff, mayRecreate_iff hf]

end HiddenImports
