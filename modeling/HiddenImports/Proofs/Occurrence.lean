import HiddenImports.Text.Substring

/-!
# Occurrences across joins

An occurrence in a join of two texts lies in one of them or straddles the joint
(`occurs_append_iff`), so a text put between two others keeps an occurrence out unless it overlaps
it (`occurs_around`).

Replacing cuts a text at the search text: the pieces are the same whatever is put between them, and
none of them holds the search text (`exists_pieces`).
-/

namespace HiddenImports.Text

variable {find inserted text before after : List Char}

theorem occurs_refl (find : List Char) : Occurs find find := ⟨[], [], by simp⟩

theorem Occurs.length_le (h : Occurs find text) : find.length ≤ text.length := by
  obtain ⟨before, after, rfl⟩ := h
  simp only [List.length_append]
  omega

theorem Occurs.eq_of_length_le (h : Occurs find text) (hl : text.length ≤ find.length) :
    find = text := by
  obtain ⟨before, after, rfl⟩ := h
  simp only [List.length_append] at hl
  have hb : before = [] := List.eq_nil_of_length_eq_zero (by omega)
  have ha : after = [] := List.eq_nil_of_length_eq_zero (by omega)
  simp [hb, ha]

theorem Occurs.append_left (h : Occurs find text) (before : List Char) :
    Occurs find (before ++ text) := by
  obtain ⟨b, a, rfl⟩ := h
  exact ⟨before ++ b, a, by simp⟩

theorem Occurs.append_right (h : Occurs find text) (after : List Char) :
    Occurs find (text ++ after) := by
  obtain ⟨b, a, rfl⟩ := h
  exact ⟨b, a ++ after, by simp⟩

theorem occurs_cons_iff {c : Char} :
    Occurs find (c :: text) ↔ find <+: c :: text ∨ Occurs find text := by
  simp only [← contains_iff, contains, Bool.or_eq_true, List.isPrefixOf_iff_prefix]

theorem not_occurs_nil (hf : find ≠ []) : ¬ Occurs find [] := fun h =>
  hf (List.eq_nil_of_length_eq_zero (Nat.le_zero.1 h.length_le))

/-- An occurrence in a join lies in one of the parts, or it ends with a beginning of the second and
begins with an end of the first. -/
theorem occurs_append_iff : Occurs find (before ++ after) ↔
    Occurs find before ∨ Occurs find after ∨
      ∃ l r, l ≠ [] ∧ r ≠ [] ∧ find = l ++ r ∧ l <:+ before ∧ r <+: after := by
  constructor
  · rintro ⟨b, a, h⟩
    rw [List.append_assoc] at h
    rcases List.append_eq_append_iff.1 h with ⟨c, rfl, rfl⟩ | ⟨c, rfl, hfa⟩
    · exact .inr (.inl ⟨c, a, by simp⟩)
    · rcases List.append_eq_append_iff.1 hfa with ⟨r, rfl, rfl⟩ | ⟨d, rfl, rfl⟩
      · exact .inl ⟨b, r, by simp⟩
      · by_cases hc : c = []
        · subst hc
          exact .inr (.inl ⟨[], a, by simp⟩)
        · by_cases hd : d = []
          · subst hd
            exact .inl ⟨b, [], by simp⟩
          · exact .inr (.inr ⟨c, d, hc, hd, rfl, ⟨b, rfl⟩, ⟨a, rfl⟩⟩)
  · rintro (h | h | ⟨l, r, -, -, rfl, ⟨b, rfl⟩, ⟨a, rfl⟩⟩)
    · exact h.append_right after
    · exact h.append_left before
    · exact ⟨b, a, by simp⟩

/-- An occurrence of `find` can share a character with `inserted`: it lies inside it, encloses it, or
hangs over one of its ends. -/
def Overlaps (find inserted : List Char) : Prop :=
  Occurs find inserted ∨ Occurs inserted find ∨
    ∃ l r, l ≠ [] ∧ r ≠ [] ∧ find = l ++ r ∧ (l <:+ inserted ∨ r <+: inserted)

/-- What does not overlap an insertion occurs on one of its sides. -/
theorem occurs_around (h : ¬ Overlaps find inserted)
    (ho : Occurs find (before ++ inserted ++ after)) : Occurs find before ∨ Occurs find after := by
  have hin : ¬ Occurs find inserted := fun hi => h (.inl hi)
  have hout : ¬ Occurs inserted find := fun hi => h (.inr (.inl hi))
  rw [List.append_assoc] at ho
  rcases occurs_append_iff.1 ho with ho | ho | ⟨l, r, hl, hr, rfl, -, hra⟩
  · exact .inl ho
  · rcases occurs_append_iff.1 ho with ho | ho | ⟨l, r, hl, hr, rfl, hli, -⟩
    · exact absurd ho hin
    · exact .inr ho
    · exact absurd (.inr (.inr ⟨l, r, hl, hr, rfl, .inl hli⟩)) h
  · obtain ⟨a, ha⟩ := hra
    rcases List.append_eq_append_iff.1 ha with ⟨d, rfl, -⟩ | ⟨d, rfl, -⟩
    · exact absurd (.inr (.inr ⟨l, r, hl, hr, rfl, .inr ⟨d, rfl⟩⟩)) h
    · exact absurd ⟨l, d, by simp⟩ hout

/-! ## Texts cut into pieces -/

theorem Occurs.intercalate {pieces : List (List Char)} {piece : List Char} (sep : List Char)
    (h : Occurs find piece) (hm : piece ∈ pieces) : Occurs find (sep.intercalate pieces) := by
  induction pieces with
  | nil => cases hm
  | cons first rest ih =>
    cases rest with
    | nil =>
      obtain rfl : piece = first := by simpa using hm
      simpa using h
    | cons second rest =>
      rw [List.intercalate_cons_cons]
      rcases List.mem_cons.1 hm with rfl | hm
      · exact (h.append_right sep).append_right _
      · exact (ih hm).append_left _

/-- Between pieces stands what `find` does not overlap, so it occurs in a piece if at all. -/
theorem exists_mem_of_occurs_intercalate {sep : List Char} (hf : find ≠ [])
    (h : ¬ Overlaps find sep) :
    ∀ pieces : List (List Char), Occurs find (sep.intercalate pieces) →
      ∃ piece ∈ pieces, Occurs find piece
  | [], ho => absurd ho (not_occurs_nil hf)
  | [piece], ho => ⟨piece, by simp, by simpa using ho⟩
  | first :: second :: rest, ho => by
    rw [List.intercalate_cons_cons] at ho
    rcases occurs_around h ho with ho | ho
    · exact ⟨first, by simp, ho⟩
    · obtain ⟨piece, hm, ho⟩ := exists_mem_of_occurs_intercalate hf h (second :: rest) ho
      exact ⟨piece, List.mem_cons_of_mem _ hm, ho⟩

section Replace

variable (replacement : List Char)

theorem replaceFrom_length_append : ∀ taken rest : List Char,
    replaceFrom find replacement taken.length (taken ++ rest) = replaceAll find replacement rest
  | [], rest => rfl
  | c :: taken, rest => by
    rw [List.length_cons, List.cons_append, replaceFrom]
    exact replaceFrom_length_append taken rest

theorem replaceAll_find_append (hf : find ≠ []) (rest : List Char) :
    replaceAll find replacement (find ++ rest) = replacement ++ replaceAll find replacement rest := by
  obtain ⟨c, taken, rfl⟩ := List.exists_cons_of_ne_nil hf
  have hp : (c :: taken).isPrefixOf (c :: (taken ++ rest)) = true :=
    List.isPrefixOf_iff_prefix.2 ⟨rest, rfl⟩
  rw [replaceAll, List.cons_append, replaceFrom, if_pos hp, List.length_cons, Nat.add_sub_cancel,
    replaceFrom_length_append]

theorem replaceAll_cons {c : Char} {rest : List Char} (h : ¬ find <+: c :: rest) :
    replaceAll find replacement (c :: rest) = c :: replaceAll find replacement rest := by
  have hp : ¬ find.isPrefixOf (c :: rest) = true := fun hp => h (List.isPrefixOf_iff_prefix.1 hp)
  rw [replaceAll, replaceFrom, if_neg hp, replaceAll]

theorem replaceAll_of_not_occurs : ∀ text : List Char, ¬ Occurs find text →
    replaceAll find replacement text = text
  | [], _ => rfl
  | c :: rest, h => by
    rw [replaceAll_cons replacement fun hp => h (occurs_cons_iff.2 (.inl hp)),
      replaceAll_of_not_occurs rest fun ho => h (occurs_cons_iff.2 (.inr ho))]

end Replace

theorem prefix_intercalate (sep first : List Char) :
    ∀ rest : List (List Char), first <+: sep.intercalate (first :: rest)
  | [] => by simp
  | second :: rest => by
    rw [List.intercalate_cons_cons, List.append_assoc]
    exact List.prefix_append _ _

/-- Every text falls into pieces without `find`, between which `find` stands, and replacing puts
the replacement there. -/
theorem exists_pieces (hf : find ≠ []) (text : List Char) :
    ∃ first rest, find.intercalate (first :: rest) = text ∧
      (∀ piece ∈ first :: rest, ¬ Occurs find piece) ∧
      ∀ replacement, replaceAll find replacement text = replacement.intercalate (first :: rest) := by
  by_cases hp : find <+: text
  · obtain ⟨tail, rfl⟩ := hp
    have hlen : tail.length < (find ++ tail).length := by
      have := List.length_pos_iff.2 hf
      simp only [List.length_append]
      omega
    obtain ⟨first, rest, hjoin, hfree, hrep⟩ := exists_pieces hf tail
    refine ⟨[], first :: rest, by simp [hjoin], ?_, fun replacement => ?_⟩
    · intro piece hm
      rcases List.mem_cons.1 hm with rfl | hm
      · exact not_occurs_nil hf
      · exact hfree piece hm
    · rw [replaceAll_find_append replacement hf, hrep, List.intercalate_cons_cons, List.nil_append]
  · rcases text with _ | ⟨c, tail⟩
    · exact ⟨[], [], by simp, by simpa using not_occurs_nil hf,
        fun _ => by simp [replaceAll, replaceFrom]⟩
    · obtain ⟨first, rest, hjoin, hfree, hrep⟩ := exists_pieces hf tail
      refine ⟨c :: first, rest, by simp [hjoin], ?_, fun replacement => ?_⟩
      · intro piece hm
        rcases List.mem_cons.1 hm with rfl | hm
        · intro ho
          rcases occurs_cons_iff.1 ho with ho | ho
          · -- the first piece begins the text, which does not begin with `find`
            apply hp
            rw [← hjoin]
            exact ho.trans (List.cons_prefix_cons.2 ⟨rfl, prefix_intercalate find first rest⟩)
          · exact hfree first (by simp) ho
        · exact hfree piece (List.mem_cons_of_mem _ hm)
      · rw [replaceAll_cons replacement hp, hrep, List.intercalate_cons_cons_left]
termination_by text.length

/-- Replacing leaves nothing to replace, unless the replacement overlaps what is looked for. -/
theorem not_occurs_replaceAll (hf : find ≠ []) {replacement : List Char}
    (h : ¬ Overlaps find replacement) (text : List Char) :
    ¬ Occurs find (replaceAll find replacement text) := by
  obtain ⟨first, rest, -, hfree, hrep⟩ := exists_pieces hf text
  rw [hrep]
  intro ho
  obtain ⟨piece, hm, ho⟩ := exists_mem_of_occurs_intercalate hf h _ ho
  exact hfree piece hm ho

/-- Replacing brings about no other text that the replacement does not overlap. -/
theorem occurs_of_occurs_replaceAll {other replacement : List Char} (hf : find ≠ [])
    (ho : other ≠ []) (h : ¬ Overlaps other replacement)
    (hr : Occurs other (replaceAll find replacement text)) : Occurs other text := by
  obtain ⟨first, rest, hjoin, -, hrep⟩ := exists_pieces hf text
  rw [hrep] at hr
  obtain ⟨piece, hm, hr⟩ := exists_mem_of_occurs_intercalate ho h _ hr
  rw [← hjoin]
  exact hr.intercalate find hm

end HiddenImports.Text
