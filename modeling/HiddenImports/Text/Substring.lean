/-!
# Occurrences of one text in another

`Occurs find text` says that `find` stands somewhere in `text`, and `contains` decides it.
`replaceAll` replaces all occurrences that do not overlap, from the left.
-/

namespace HiddenImports.Text

/-- `find` stands somewhere in `text`. -/
def Occurs (find text : List Char) : Prop :=
  ∃ before after, text = before ++ find ++ after

/-- Decides `Occurs`. -/
def contains (find : List Char) : List Char → Bool
  | [] => find.isEmpty
  | c :: rest => find.isPrefixOf (c :: rest) || contains find rest

/-- The text with all occurrences replaced, `skip` characters of which belong to the one before. -/
def replaceFrom (find replacement : List Char) : Nat → List Char → List Char
  | _, [] => []
  | skip + 1, _ :: rest => replaceFrom find replacement skip rest
  | 0, c :: rest =>
    if find.isPrefixOf (c :: rest) then
      replacement ++ replaceFrom find replacement (find.length - 1) rest
    else c :: replaceFrom find replacement 0 rest

/-- The text with the occurrences of `find` that do not overlap, from the left, replaced. -/
def replaceAll (find replacement text : List Char) : List Char :=
  replaceFrom find replacement 0 text

theorem contains_iff {find text : List Char} : contains find text = true ↔ Occurs find text := by
  induction text with
  | nil =>
    constructor
    · intro h
      have : find = [] := by simpa [contains] using h
      exact ⟨[], [], by simp [this]⟩
    · rintro ⟨before, after, h⟩
      have h' := congrArg List.length h
      simp only [List.length_nil, List.length_append] at h'
      have : find = [] := List.eq_nil_of_length_eq_zero (by omega)
      simp [contains, this]
  | cons c rest ih =>
    simp only [contains, Bool.or_eq_true, ih, List.isPrefixOf_iff_prefix]
    constructor
    · rintro (⟨after, h⟩ | ⟨before, after, h⟩)
      · exact ⟨[], after, by simpa using h.symm⟩
      · exact ⟨c :: before, after, by simp [h]⟩
    · rintro ⟨before, after, h⟩
      cases before with
      | nil => exact Or.inl ⟨after, by simpa using h.symm⟩
      | cons d before =>
        simp only [List.cons_append, List.cons.injEq] at h
        exact Or.inr ⟨before, after, h.2⟩

instance (find text : List Char) : Decidable (Occurs find text) :=
  decidable_of_iff _ contains_iff

end HiddenImports.Text
