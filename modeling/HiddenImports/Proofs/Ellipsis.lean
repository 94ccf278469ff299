import HiddenImports.Text.Preview

/-!
# The ellipsis of a preview

A preview folds and counts in one pass and stops at the first character after its room is used, before
it looks whether that character would show. So it shows the folded text, cut at the limit, except where
the folded text fills the room and the last blank of the text is folded away: there an ellipsis stands
although nothing is left out (`preview_eq_cut_iff`).
-/

namespace HiddenImports.Text

/-! ## Folding in one pass -/

/-- What the rest of a text is folded to; `inBlank` says that a blank stands before it. -/
def collapseFrom (inBlank : Bool) : List Char → List Char
  | [] => []
  | c :: rest =>
    if isBlank c then
      if inBlank then collapseFrom true rest else ' ' :: collapseFrom true rest
    else c :: collapseFrom false rest

theorem collapse_cons : ∀ (c : Char) (rest : List Char),
    collapse (c :: rest) = (if isBlank c then ' ' else c) :: collapseFrom (isBlank c) rest
  | c, [] => by
    rw [collapse, collapse]
    split <;> rfl
  | c, d :: rest => by
    have ih := collapse_cons d rest
    rw [collapse, ih, collapseFrom]
    rcases isBlank c with _ | _ <;> rcases isBlank d with _ | _ <;> rfl

theorem collapse_eq : ∀ cs : List Char, collapse cs = collapseFrom false cs
  | [] => rfl
  | c :: rest => by
    rw [collapse_cons, collapseFrom]
    rcases isBlank c with _ | _ <;> rfl

/-! ## Cutting -/

/-- A text of at most `limit` characters, or the first `limit` ones and an ellipsis. -/
def cut (limit : Nat) (cs : List Char) : List Char :=
  if cs.length ≤ limit then cs else cs.take limit ++ ['…']

theorem cut_nil (limit : Nat) : cut limit [] = [] := by simp [cut]

theorem cut_zero {cs : List Char} (h : cs ≠ []) : cut 0 cs = ['…'] := by simp [cut, h]

theorem cut_succ_cons (limit : Nat) (c : Char) (cs : List Char) :
    cut (limit + 1) (c :: cs) = c :: cut limit cs := by
  unfold cut
  simp only [List.length_cons, Nat.add_le_add_iff_right, List.take_succ_cons, List.cons_append]
  split <;> rfl

theorem cut_length (cs : List Char) : cut cs.length cs = cs := by simp [cut]

/-- Short of filling the room exactly, the pass is a cut of the folded text. -/
theorem previewFrom_of_length_ne : ∀ {cs : List Char} {room : Nat} {inBlank : Bool},
    (collapseFrom inBlank cs).length ≠ room →
      previewFrom room inBlank cs = cut room (collapseFrom inBlank cs)
  | [], room, inBlank, _ => by rw [collapseFrom, cut_nil, previewFrom]
  | c :: rest, 0, inBlank, h => by
    rw [cut_zero (fun hnil => h (by rw [hnil, List.length_nil])), previewFrom]
  | c :: rest, room + 1, inBlank, h => by
    rw [previewFrom]
    rcases hc : isBlank c with _ | _
    · simp only [collapseFrom, hc, Bool.false_eq_true, if_false, List.length_cons] at h ⊢
      rw [cut_succ_cons, previewFrom_of_length_ne (by omega)]
    · rcases inBlank with _ | _
      · simp only [collapseFrom, hc, Bool.false_eq_true, if_true, if_false, List.length_cons] at h ⊢
        rw [cut_succ_cons, previewFrom_of_length_ne (by omega)]
      · simp only [collapseFrom, hc, if_true] at h ⊢
        exact previewFrom_of_length_ne h

/-! ## Room for just the folded text -/

/-- The last two characters are blanks, so the last one is folded away. -/
def EndsInBlanks (cs : List Char) : Prop :=
  ∃ c d, [c, d] <:+ cs ∧ isBlank c = true ∧ isBlank d = true

variable {c d : Char} {rest : List Char}

theorem endsInBlanks_cons_cons : EndsInBlanks (c :: d :: rest) ↔
    (rest = [] ∧ isBlank c = true ∧ isBlank d = true) ∨ EndsInBlanks (d :: rest) := by
  unfold EndsInBlanks
  constructor
  · rintro ⟨a, b, hs, ha, hb⟩
    rcases List.suffix_cons_iff.1 hs with heq | hs
    · simp only [List.cons.injEq] at heq
      obtain ⟨rfl, rfl, hrest⟩ := heq
      exact .inl ⟨hrest.symm, ha, hb⟩
    · exact .inr ⟨a, b, hs, ha, hb⟩
  · rintro (⟨rfl, hc, hd⟩ | ⟨a, b, hs, ha, hb⟩)
    · exact ⟨c, d, List.suffix_refl _, hc, hd⟩
    · exact ⟨a, b, hs.trans (List.suffix_cons c _), ha, hb⟩

theorem not_endsInBlanks_singleton : ¬ EndsInBlanks [c] := by
  rintro ⟨a, b, hs, -, -⟩
  have := hs.length_le
  simp at this

theorem endsInBlanks_cons_of_not_blank (hc : isBlank c = false) :
    EndsInBlanks (c :: rest) ↔ EndsInBlanks rest := by
  rcases rest with _ | ⟨d, rest⟩
  · simp only [not_endsInBlanks_singleton, false_iff]
    rintro ⟨a, b, hs, -, -⟩
    simp at hs
  · simp [endsInBlanks_cons_cons, hc]

/-- Blanks after a blank fold to nothing. -/
theorem endsInBlanks_of_collapseFrom_eq_nil : ∀ {rest : List Char} {c d : Char}, isBlank c = true →
    isBlank d = true → collapseFrom true rest = [] → EndsInBlanks (c :: d :: rest)
  | [], c, d, hc, hd, _ => endsInBlanks_cons_cons.2 (.inl ⟨rfl, hc, hd⟩)
  | e :: rest, c, d, hc, hd, h => by
    rcases he : isBlank e with _ | _
    · simp [collapseFrom, he] at h
    · simp only [collapseFrom, he, if_true] at h
      exact endsInBlanks_cons_cons.2 (.inr (endsInBlanks_of_collapseFrom_eq_nil hd he h))

/-- With room for just the folded text, the pass stops early at a blank that would not show. The
character `p` before the text tells whether a blank stands there. -/
theorem previewFrom_length : ∀ (cs : List Char) (p : Char),
    (EndsInBlanks (p :: cs) → previewFrom (collapseFrom (isBlank p) cs).length (isBlank p) cs =
        collapseFrom (isBlank p) cs ++ ['…']) ∧
      (¬ EndsInBlanks (p :: cs) → previewFrom (collapseFrom (isBlank p) cs).length (isBlank p) cs =
        collapseFrom (isBlank p) cs)
  | [], p => ⟨fun h => absurd h not_endsInBlanks_singleton, fun _ => rfl⟩
  | c :: rest, p => by
    have ih := previewFrom_length rest c
    rcases hc : isBlank c with _ | _
    · have hends : EndsInBlanks (p :: c :: rest) ↔ EndsInBlanks (c :: rest) := by
        simp [endsInBlanks_cons_cons, hc]
      rw [hc] at ih
      simp only [hends, collapseFrom, hc, Bool.false_eq_true, if_false, List.length_cons, previewFrom,
        List.cons_append, List.cons.injEq, true_and]
      exact ih
    · rw [hc] at ih
      rcases hp : isBlank p with _ | _
      · have hends : EndsInBlanks (p :: c :: rest) ↔ EndsInBlanks (c :: rest) := by
          simp [endsInBlanks_cons_cons, hp]
        simp only [hends, collapseFrom, hc, Bool.false_eq_true, if_true, if_false, List.length_cons,
          previewFrom, List.cons_append, List.cons.injEq, true_and]
        exact ih
      · simp only [collapseFrom, hc, if_true]
        rcases hx : collapseFrom true rest with _ | ⟨e, more⟩
        · have hends := endsInBlanks_of_collapseFrom_eq_nil hp hc hx
          exact ⟨fun _ => rfl, fun h => absurd hends h⟩
        · have hrest : rest ≠ [] := by
            rintro rfl
            cases hx
          have hends : EndsInBlanks (p :: c :: rest) ↔ EndsInBlanks (c :: rest) := by
            simp [endsInBlanks_cons_cons, hrest]
          rw [hx] at ih
          simp only [hends, List.length_cons, previewFrom, hc, if_true]
          exact ih

/-! ## Previews -/

/-- The folded text fills the room, and the last blank of the text is folded away. -/
def StopsEarly (limit : Nat) (cs : List Char) : Prop :=
  (collapse cs).length = limit ∧ EndsInBlanks cs

theorem toList_preview_of_length_ne {limit : Nat} {text : String}
    (h : (collapse text.toList).length ≠ limit) :
    (preview limit text).toList = cut limit (collapse text.toList) := by
  rw [collapse_eq] at h ⊢
  rw [preview, String.toList_ofList, previewFrom_of_length_ne h]

theorem toList_preview_of_length_eq {limit : Nat} {text : String}
    (h : (collapse text.toList).length = limit) :
    (EndsInBlanks text.toList → (preview limit text).toList = collapse text.toList ++ ['…']) ∧
      (¬ EndsInBlanks text.toList → (preview limit text).toList = collapse text.toList) := by
  have hx : isBlank 'x' = false := by decide
  have hlength := previewFrom_length text.toList 'x'
  rw [hx, endsInBlanks_cons_of_not_blank hx, ← collapse_eq] at hlength
  subst h
  rw [preview, String.toList_ofList]
  exact hlength

/-- A preview is the folded text cut at the limit, but where it stops early: there it is the whole
folded text and an ellipsis. -/
theorem preview_eq_cut_iff (limit : Nat) (text : String) :
    (preview limit text = String.ofList (cut limit (collapse text.toList)) ↔
      ¬ StopsEarly limit text.toList) ∧
    (StopsEarly limit text.toList →
      preview limit text = String.ofList (collapse text.toList ++ ['…'])) := by
  have hearly : StopsEarly limit text.toList →
      preview limit text = String.ofList (collapse text.toList ++ ['…']) := by
    rintro ⟨hlength, hends⟩
    rw [← (toList_preview_of_length_eq hlength).1 hends, String.ofList_toList]
  refine ⟨⟨fun hcut h => ?_, fun h => ?_⟩, hearly⟩
  · rw [hearly h, ← h.1, cut_length, String.ofList_inj] at hcut
    simp at hcut
  · rw [← String.toList_inj, String.toList_ofList]
    by_cases hlength : (collapse text.toList).length = limit
    · have hends : ¬ EndsInBlanks text.toList := fun hends => h ⟨hlength, hends⟩
      rw [(toList_preview_of_length_eq hlength).2 hends, ← hlength, cut_length]
    · exact toList_preview_of_length_ne hlength

/-- The folded text is `a` and a space, which is all there is room for. -/
theorem preview_ne_cut_two :
    ¬ preview 2 "a \n" = String.ofList (cut 2 (collapse "a \n".toList)) := by
  decide

end HiddenImports.Text
