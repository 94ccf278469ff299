import Mathlib.Data.List.Forall2
import HiddenImports.Log

/-!
# Outcomes of steps taken in order

Steps that may fail succeed together only if each one does, and the first failure is the one
reported (`foldlM_eq_error_iff`). An attempt has the outcome of the same steps without records.
-/

namespace HiddenImports

variable {α β ε δ : Type}

theorem forall₂_exists_left {R : α → β → Prop} {l : List α} {l' : List β}
    (h : List.Forall₂ R l l') {b : β} (hb : b ∈ l') : ∃ a ∈ l, R a b := by
  induction h with
  | nil => cases hb
  | cons hab _ ih =>
    rcases List.mem_cons.1 hb with rfl | hb
    · exact ⟨_, by simp, hab⟩
    · obtain ⟨a, ha, hab⟩ := ih hb
      exact ⟨a, List.mem_cons_of_mem _ ha, hab⟩

theorem forall₂_exists_right {R : α → β → Prop} {l : List α} {l' : List β}
    (h : List.Forall₂ R l l') {a : α} (ha : a ∈ l) : ∃ b ∈ l', R a b :=
  forall₂_exists_left h.flip ha

theorem exists_forall₂ {R : α → β → Prop} : ∀ {l : List α}, (∀ a ∈ l, ∃ b, R a b) →
    ∃ l', List.Forall₂ R l l'
  | [], _ => ⟨[], .nil⟩
  | a :: l, h => by
    obtain ⟨⟨b, hb⟩, hl⟩ := List.forall_mem_cons.1 h
    obtain ⟨l', hl'⟩ := exists_forall₂ hl
    exact ⟨b :: l', .cons hb hl'⟩

theorem forall₂_and_right {R : α → β → Prop} {p : β → Prop} {l : List α} {l' : List β} :
    List.Forall₂ (fun a b => p b ∧ R a b) l l' ↔ (∀ b ∈ l', p b) ∧ List.Forall₂ R l l' := by
  have hflip : List.Forall₂ (fun b a => p b ∧ flip R b a) l' l ↔ _ := List.forall₂_and_left l' l
  constructor
  · intro h
    obtain ⟨hp, hR⟩ := hflip.1 h.flip
    exact ⟨hp, hR.flip⟩
  · rintro ⟨hp, hR⟩
    exact (hflip.2 ⟨hp, hR.flip⟩).flip

theorem bind_eq_ok_iff {x : Except ε α} {f : α → Except ε β} {b : β} :
    x >>= f = .ok b ↔ ∃ a, x = .ok a ∧ f a = .ok b := by
  cases x <;> simp [bind, Except.bind]

theorem bind_eq_error_iff {x : Except ε α} {f : α → Except ε β} {e : ε} :
    x >>= f = .error e ↔ x = .error e ∨ ∃ a, x = .ok a ∧ f a = .error e := by
  cases x <;> simp [bind, Except.bind]

theorem exists_eq_ok_iff {x : Except ε α} : (∃ a, x = .ok a) ↔ ∀ e, x ≠ .error e := by
  cases x <;> simp

theorem mapError_eq_ok_iff {x : Except ε α} {f : ε → δ} {a : α} :
    x.mapError f = .ok a ↔ x = .ok a := by
  cases x <;> simp [Except.mapError]

theorem mapError_eq_error_iff {x : Except ε α} {f : ε → δ} {d : δ} :
    x.mapError f = .error d ↔ ∃ e, x = .error e ∧ f e = d := by
  cases x <;> simp [Except.mapError]

theorem map_eq_ok_iff {x : Except ε α} {f : α → β} {b : β} :
    x.map f = .ok b ↔ ∃ a, x = .ok a ∧ f a = b := by
  cases x <;> simp [Except.map]

theorem map_eq_error_iff {x : Except ε α} {f : α → β} {e : ε} :
    x.map f = .error e ↔ x = .error e := by
  cases x <;> simp [Except.map]

theorem mapM_eq_ok_iff {f : α → Except ε β} : ∀ {l : List α} {l' : List β},
    l.mapM f = .ok l' ↔ List.Forall₂ (fun a b => f a = .ok b) l l'
  | [], l' => by simp [pure, Except.pure, eq_comm]
  | a :: l, l' => by
    simp only [List.mapM_cons, bind_eq_ok_iff, List.forall₂_cons_left_iff, mapM_eq_ok_iff]
    constructor
    · rintro ⟨b, hb, rest, hrest, hl'⟩
      cases hl'
      exact ⟨b, rest, hb, hrest, rfl⟩
    · rintro ⟨b, rest, hb, hrest, rfl⟩
      exact ⟨b, hb, rest, hrest, rfl⟩

/-- A list is gone through with the failure of the first element that fails by itself. -/
theorem mapM_eq_error_iff {f : α → Except ε β} {e : ε} : ∀ {l : List α},
    l.mapM f = .error e ↔ ∃ before a after, l = before ++ a :: after ∧
      (∀ b ∈ before, ∃ c, f b = .ok c) ∧ f a = .error e
  | [] => by simp [pure, Except.pure]
  | a :: l => by
    rw [List.mapM_cons]
    constructor
    · intro h
      rcases ha : f a with e' | c
      · rw [ha] at h
        cases h
        exact ⟨[], a, l, rfl, by simp, ha⟩
      · rcases hl : l.mapM f with e' | cs
        · rw [ha, hl] at h
          cases h
          obtain ⟨before, b, after, rfl, hbefore, hb⟩ := mapM_eq_error_iff.1 hl
          exact ⟨a :: before, b, after, rfl, List.forall_mem_cons.2 ⟨⟨c, ha⟩, hbefore⟩, hb⟩
        · rw [ha, hl] at h
          cases h
    · rintro ⟨_ | ⟨b, before⟩, c, after, hl, hbefore, hc⟩
      · cases hl
        rw [hc]
        rfl
      · rw [List.cons_append, List.cons.injEq] at hl
        obtain ⟨rfl, rfl⟩ := hl
        obtain ⟨⟨b, hb⟩, hbefore⟩ := List.forall_mem_cons.1 hbefore
        rw [hb, mapM_eq_error_iff.2 ⟨before, c, after, rfl, hbefore, hc⟩]
        rfl

theorem forM_eq_ok_iff {f : α → Except ε Unit} : ∀ {l : List α},
    l.forM f = .ok () ↔ ∀ a ∈ l, f a = .ok ()
  | [] => by simp [pure, Except.pure]
  | a :: l => by
    show (f a >>= fun _ => l.forM f) = .ok () ↔ _
    rw [bind_eq_ok_iff, List.forall_mem_cons, ← forM_eq_ok_iff]
    exact ⟨fun ⟨_, ha, hl⟩ => ⟨ha, hl⟩, fun ⟨ha, hl⟩ => ⟨(), ha, hl⟩⟩

/-- Steps that only put together what is got on the way may as well get everything first. -/
theorem foldlM_map (f : α → Except ε β) (g : δ → β → δ) : ∀ (l : List α) (d : δ),
    l.foldlM (fun d a => (f a).map (g d)) d = (l.mapM f).map (·.foldl g d)
  | [], d => rfl
  | a :: l, d => by
    rw [List.foldlM_cons, List.mapM_cons]
    rcases f a with e | b
    · rfl
    · refine (foldlM_map f g l (g d b)).trans ?_
      cases l.mapM f <;> rfl

/-- Steps fail as the first one does that fails, after the ones before it. -/
theorem foldlM_eq_error_iff {f : β → α → Except ε β} {e : ε} : ∀ {l : List α} {b : β},
    l.foldlM f b = .error e ↔
      ∃ before a after b', l = before ++ a :: after ∧ before.foldlM f b = .ok b' ∧
        f b' a = .error e
  | [], b => by simp [pure, Except.pure]
  | a :: l, b => by
    rw [List.foldlM_cons, bind_eq_error_iff]
    constructor
    · rintro (h | ⟨b', hb', h⟩)
      · exact ⟨[], a, l, b, rfl, rfl, h⟩
      · obtain ⟨before, c, after, b'', rfl, hbefore, hc⟩ := foldlM_eq_error_iff.1 h
        refine ⟨a :: before, c, after, b'', rfl, ?_, hc⟩
        rw [List.foldlM_cons, bind_eq_ok_iff]
        exact ⟨b', hb', hbefore⟩
    · rintro ⟨before, c, after, b', hl, hbefore, hc⟩
      rcases before with _ | ⟨d, before⟩
      · cases hl
        cases hbefore
        exact .inl hc
      · cases hl
        rw [List.foldlM_cons, bind_eq_ok_iff] at hbefore
        obtain ⟨b'', hd, hbefore⟩ := hbefore
        exact .inr ⟨b'', hd, foldlM_eq_error_iff.2 ⟨before, c, after, b', rfl, hbefore, hc⟩⟩

namespace Logged

@[simp] theorem value_map (f : α → β) (x : Logged α) : (f <$> x).value = f x.value := rfl

@[simp] theorem records_map (f : α → β) (x : Logged α) : (f <$> x).records = x.records :=
  List.append_nil x.records

theorem value_foldlM (f : β → α → Logged β) : ∀ (l : List α) (b : β),
    (l.foldlM f b).value = l.foldl (fun b a => (f b a).value) b
  | [], b => rfl
  | a :: l, b => by
    rw [List.foldlM_cons, value_bind, List.foldl_cons, value_foldlM f l]

end Logged

namespace Attempt

@[simp] theorem outcome_bind (x : Attempt ε α) (f : α → Attempt ε β) :
    (x >>= f).outcome = x.outcome >>= fun a => (f a).outcome := by
  rcases x with ⟨_ | a, records⟩ <;> rfl

@[simp] theorem outcome_lift (x : Logged α) : (liftM x : Attempt ε α).outcome = .ok x.value := rfl

theorem outcome_foldlM (f : β → α → Attempt ε β) : ∀ (l : List α) (b : β),
    (l.foldlM f b).outcome = l.foldlM (fun b a => (f b a).outcome) b
  | [], b => rfl
  | a :: l, b => by
    simp only [List.foldlM_cons, outcome_bind, outcome_foldlM f l]

end Attempt

end HiddenImports
