import HiddenImports.Proofs.Outcome

/-!
# The first of several defects

A check that stops at the first defect is held against the list of all defects, in the order in which
they are looked for: it `Reports` the list if it fails just with the head. Checks in a row report what
is in their lists, one after the other (`Reports.bind`), and so do steps that go on from what the earlier
ones have made, such as a fold that takes in one element after another (`Reports.foldlM`).
-/

namespace HiddenImports

variable {α β ε : Type}

/-- The outcome is an error just if there are defects, and then the first one of them. -/
def Reports (outcome : Except ε α) (defects : List ε) : Prop :=
  ∀ e, outcome = .error e ↔ defects.head? = some e

/-- What each element has in it that is wrong after those before it. -/
def defectsAfter (defects : List α → α → List ε) : (before : List α) → List α → List ε
  | _, [] => []
  | before, a :: rest => defects before a ++ defectsAfter defects (before ++ [a]) rest

namespace Reports

variable {outcome : Except ε α} {defects more : List ε} {e : ε}

theorem ok (a : α) : Reports (.ok a : Except ε α) [] := by simp [Reports]

theorem error (e : ε) (more : List ε) : Reports (.error e : Except ε α) (e :: more) := by
  simp [Reports]

theorem eq_nil_iff (h : Reports outcome defects) : defects = [] ↔ ∃ a, outcome = .ok a := by
  rcases outcome with e | a
  · have he := (h e).1 rfl
    constructor
    · rintro rfl
      cases he
    · rintro ⟨a, ha⟩
      cases ha
  · refine ⟨fun _ => ⟨a, rfl⟩, fun _ => ?_⟩
    rcases defects with _ | ⟨e, more⟩
    · rfl
    · cases (h e).2 rfl

theorem exists_cons_of_error (h : Reports (.error e : Except ε α) defects) :
    ∃ more, defects = e :: more :=
  List.head?_eq_some_iff.1 ((h e).1 rfl)

/-- The second check is only made if the first one finds nothing. -/
theorem bind {f : α → Except ε β} (h : Reports outcome defects)
    (hf : ∀ a, outcome = .ok a → Reports (f a) more) : Reports (outcome >>= f) (defects ++ more) := by
  rcases outcome with e | a
  · obtain ⟨rest, rfl⟩ := h.exists_cons_of_error
    exact error e (rest ++ more)
  · rw [h.eq_nil_iff.2 ⟨a, rfl⟩, List.nil_append]
    exact hf a rfl

theorem forM {f : α → Except ε Unit} {defects : α → List ε} (h : ∀ a, Reports (f a) (defects a)) :
    ∀ l : List α, Reports (l.forM f) (l.flatMap defects)
  | [] => ok ()
  | a :: rest => by
    rw [List.flatMap_cons]
    exact (h a).bind fun _ _ => forM h rest

/-- A fold whose state `b` stands for the elements taken in so far. -/
theorem foldlM {step : β → α → Except ε β} {defects : List α → α → List ε}
    {Holds : List α → β → Prop}
    (hstep : ∀ before b a, Holds before b → Reports (step b a) (defects before a) ∧
      ∀ b', step b a = .ok b' → Holds (before ++ [a]) b') :
    ∀ (l before : List α) (b : β), Holds before b →
      Reports (l.foldlM step b) (defectsAfter defects before l)
  | [], _, b, _ => ok b
  | a :: rest, before, b, hb => by
    obtain ⟨hreports, hnext⟩ := hstep before b a hb
    rw [List.foldlM_cons, defectsAfter]
    exact hreports.bind fun b' hb' => foldlM hstep rest (before ++ [a]) b' (hnext b' hb')

end Reports

end HiddenImports
