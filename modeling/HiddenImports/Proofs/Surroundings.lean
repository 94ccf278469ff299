import HiddenImports.Proofs.ByteSplits

/-!
# Replacements in their surroundings

A replacement can bring the search text back if some texts before and after it make an occurrence with
it, one that has a character of the replacement in it (`Text.Meets`). The two then share an end, or one
lies inside the other, which is what the overlap test looks for (`meets_iff_overlaps`). So a literal patch
is refused for that reason exactly if there are such surroundings, or if it deletes what it finds
(`mayRecreate_exact`).
-/

namespace HiddenImports

namespace Text

/-- Between some texts, `inserted` has a character in common with an occurrence of `find`: the occurrence
begins before `inserted` ends and ends after it begins. -/
def Meets (find inserted : List Char) : Prop :=
  ∃ left right before after, left ++ inserted ++ right = before ++ find ++ after ∧
    before.length < (left ++ inserted).length ∧ left.length < (before ++ find).length

variable {find inserted : List Char}

theorem Overlaps.meets (hf : find ≠ []) (hi : inserted ≠ []) (h : Overlaps find inserted) :
    Meets find inserted := by
  have hfind := List.length_pos_iff.2 hf
  have hinserted := List.length_pos_iff.2 hi
  rcases h with ⟨before, after, rfl⟩ | ⟨left, right, rfl⟩ | ⟨l, r, hl, hr, rfl, h⟩
  · refine ⟨[], [], before, after, by simp, ?_, ?_⟩
    · simp only [List.nil_append, List.length_append]
      omega
    · simp only [List.length_nil, List.length_append]
      omega
  · refine ⟨left, right, [], [], by simp, ?_, ?_⟩
    · simp only [List.length_nil, List.length_append]
      omega
    · simp only [List.nil_append, List.length_append]
      omega
  · have hlpos := List.length_pos_iff.2 hl
    have hrpos := List.length_pos_iff.2 hr
    rcases h with ⟨before, rfl⟩ | ⟨after, rfl⟩
    · -- what is missing of `find` comes after the insertion
      refine ⟨[], r, before, [], by simp, ?_, ?_⟩
      · simp only [List.nil_append, List.length_append]
        omega
      · simp only [List.length_nil, List.length_append]
        omega
    · -- what is missing of `find` comes before the insertion
      refine ⟨l, [], [], after, by simp, ?_, ?_⟩
      · simp only [List.length_nil, List.length_append]
        omega
      · simp only [List.nil_append, List.length_append]
        omega

/-- An occurrence that begins in the insertion lies in it or goes on behind it. -/
theorem overlaps_of_begins {before after right : List Char} (hf : find ≠ [])
    (h : inserted ++ right = before ++ (find ++ after)) (hlt : before.length < inserted.length) :
    Overlaps find inserted := by
  rcases List.append_eq_append_iff.1 h with ⟨c, rfl, -⟩ | ⟨c, rfl, hrest⟩
  · simp only [List.length_append] at hlt
    omega
  · have hc : c ≠ [] := by
      rintro rfl
      simp at hlt
    rcases List.append_eq_append_iff.1 hrest with ⟨d, rfl, -⟩ | ⟨d, rfl, -⟩
    · exact .inl ⟨before, d, by simp⟩
    · by_cases hd : d = []
      · exact .inl ⟨before, [], by simp [hd]⟩
      · exact .inr (.inr ⟨c, d, hc, hd, rfl, .inl (List.suffix_append before c)⟩)

/-- An occurrence in which the insertion begins encloses it or ends in it. -/
theorem overlaps_of_ends {left after right : List Char}
    (h : find ++ after = left ++ (inserted ++ right)) (hlt : left.length < find.length) :
    Overlaps find inserted := by
  rcases List.append_eq_append_iff.1 h with ⟨c, rfl, -⟩ | ⟨c, rfl, hrest⟩
  · simp only [List.length_append] at hlt
    omega
  · have hc : c ≠ [] := by
      rintro rfl
      simp at hlt
    rcases List.append_eq_append_iff.1 hrest with ⟨d, rfl, -⟩ | ⟨d, rfl, -⟩
    · exact .inr (.inl ⟨left, d, by simp⟩)
    · by_cases hl : left = []
      · exact .inl ⟨[], d, by simp [hl]⟩
      · exact .inr (.inr ⟨left, c, hl, hc, rfl, .inr (List.prefix_append c d)⟩)

theorem Meets.overlaps (hf : find ≠ []) (h : Meets find inserted) : Overlaps find inserted := by
  obtain ⟨left, right, before, after, heq, hbegins, hends⟩ := h
  rw [List.append_assoc, List.append_assoc] at heq
  rw [List.length_append] at hbegins hends
  -- whichever of the two begins first, the other one begins inside it
  rcases List.append_eq_append_iff.1 heq with ⟨c, rfl, hrest⟩ | ⟨c, rfl, hrest⟩
  · rw [List.length_append] at hbegins
    exact overlaps_of_begins hf hrest (by omega)
  · rw [List.length_append] at hends
    exact overlaps_of_ends hrest (by omega)

theorem meets_iff_overlaps (hf : find ≠ []) (hi : inserted ≠ []) :
    Meets find inserted ↔ Overlaps find inserted :=
  ⟨Meets.overlaps hf, Overlaps.meets hf hi⟩

end Text

theorem Patch.compile_of_literal {patch : Patch} (hmode : patch.mode = .literal)
    (hfind : patch.find ≠ "") :
    patch.compile =
      if mayRecreate patch.find.toList patch.replace.toList then .error (patch.fault .recreatesSearch)
      else .ok (.literal patch.find patch.replace) := by
  rw [compile, compileWith, if_neg hfind, replacer, hmode]
  rfl

/-- The overlap test is exact. It fails an insertion that is not empty if and only if there are texts to
put it between so that the search text comes about with a part of it, it fails the empty one always, and
it gives the same on characters as on bytes. A literal patch with that replacement is accepted or
refused accordingly. -/
theorem mayRecreate_exact {find : List Char} (hf : find ≠ []) (inserted : List Char) :
    (inserted ≠ [] → (mayRecreate find inserted = true ↔ Text.Meets find inserted)) ∧
    (inserted = [] → mayRecreate find inserted = true) ∧
    mayRecreateBytes (Text.bytes find) (Text.bytes inserted) = mayRecreate find inserted ∧
    ∀ patch : Patch, patch.mode = .literal → patch.find.toList = find →
      patch.replace.toList = inserted →
      (patch.compile = .ok (.literal patch.find patch.replace) ↔
        inserted ≠ [] ∧ ¬ Text.Meets find inserted) ∧
      (patch.compile = .error (patch.fault .recreatesSearch) ↔
        inserted = [] ∨ Text.Meets find inserted) := by
  have hempty : inserted = [] → mayRecreate find inserted = true := by
    rintro rfl
    exact (mayRecreate_iff hf).2 (.inr (.inl ⟨[], find, by simp⟩))
  have hmeets : inserted ≠ [] → (mayRecreate find inserted = true ↔ Text.Meets find inserted) := by
    intro hi
    rw [mayRecreate_iff hf, Text.meets_iff_overlaps hf hi]
  refine ⟨hmeets, hempty, mayRecreateBytes_eq hf, ?_⟩
  rintro patch hmode rfl rfl
  have htest : mayRecreate patch.find.toList patch.replace.toList = true ↔
      patch.replace.toList = [] ∨ Text.Meets patch.find.toList patch.replace.toList := by
    by_cases hi : patch.replace.toList = []
    · simp only [hi, true_or, iff_true]
      rw [← hi]
      exact hempty hi
    · simp only [hi, false_or]
      exact hmeets hi
  have hfind : patch.find ≠ "" := by simpa using hf
  rw [Patch.compile_of_literal hmode hfind, ← not_or, ← htest]
  by_cases hm : mayRecreate patch.find.toList patch.replace.toList = true
  · simp [hm]
  · simp [hm]

/-- A search text that overlaps itself, with an insertion that ends as it begins and one that does not. -/
theorem mayRecreate_exact_greek :
    Text.Meets "αβα".toList "γα".toList ∧ ¬ Text.Meets "αβα".toList "βγ".toList ∧
    ({ module := ⟨"greek", by decide +kernel⟩, find := "αβα", replace := "βγ" } : Patch).compile =
      .ok (.literal "αβα" "βγ") := by
  have hf : "αβα".toList ≠ [] := by decide
  obtain ⟨hmeets, -⟩ := mayRecreate_exact hf "γα".toList
  obtain ⟨hapart, -, -, hpatch⟩ := mayRecreate_exact hf "βγ".toList
  have hnot : ¬ Text.Meets "αβα".toList "βγ".toList := by
    rw [← hapart (by decide)]
    decide
  obtain ⟨haccepted, -⟩ := hpatch
    { module := ⟨"greek", by decide +kernel⟩, find := "αβα", replace := "βγ" } rfl rfl rfl
  exact ⟨(hmeets (by decide)).1 (by decide), hnot, haccepted.2 ⟨by decide, hnot⟩⟩

end HiddenImports
