import HiddenImports.Builtin
import HiddenImports.Proofs.Resolution

/-!
# Taking names one by one

A call of `next` looks at the companions up to the first one that gives a name, or at all of them
(`exists_seen_next`). So after any calls the companions fall into those seen, which gave the names taken,
and those not yet seen, which give the names to come (`exists_seen_after`); the second part shrinks with
each name and is empty once no name came (`next_of_next_none`). A copy is a value of its own: whatever is
taken from it, the other one still gives the same names (`inTurns_eq`).
-/

namespace HiddenImports

namespace Pending

/-- What is pending after some calls of `next`. -/
def after (pending : Pending) : Nat → Pending
  | 0 => pending
  | calls + 1 => pending.next.2.after calls

/-- The names that some calls of `next` give. -/
def taken (pending : Pending) : Nat → List String
  | 0 => []
  | calls + 1 => pending.next.1.toList ++ pending.next.2.taken calls

/-- What is got from each of two pending answers, and what is pending of it then, when they are asked in
turns: the first one on `true`, the second one on `false`. -/
def inTurns : List Bool → Pending → Pending → (List String × Pending) × (List String × Pending)
  | [], first, second => (([], first), ([], second))
  | true :: turns, first, second =>
    let ((names, rest), others) := inTurns turns first.next.2 second
    ((first.next.1.toList ++ names, rest), others)
  | false :: turns, first, second =>
    let (others, (names, rest)) := inTurns turns first second.next.2
    (others, (second.next.1.toList ++ names, rest))

variable {pending rest : Pending}

@[simp] theorem given_after : ∀ (calls : Nat) (pending : Pending),
    (pending.after calls).given = pending.given
  | 0, _ => rfl
  | calls + 1, pending => by rw [after, given_after calls, given_next]

/-- Where nothing is pending, a call gives nothing and changes nothing. -/
theorem next_of_companions_nil (h : pending.companions = []) : pending.next = (none, pending) := by
  obtain ⟨companions, top, child, runtime⟩ := pending
  cases h
  rfl

/-- Calls go past the companions that they ask, which give the names taken. -/
theorem exists_seen_after : ∀ (calls : Nat) (pending : Pending), ∃ seen,
    pending.companions = seen ++ (pending.after calls).companions ∧
      seen.filterMap pending.given = pending.taken calls
  | 0, _ => ⟨[], rfl, rfl⟩
  | calls + 1, pending => by
    obtain ⟨first, hfirst, hname⟩ := exists_seen_next pending
    obtain ⟨seen, hseen, hnames⟩ := exists_seen_after calls pending.next.2
    refine ⟨first ++ seen, ?_, ?_⟩
    · rw [after, List.append_assoc, ← hseen, ← hfirst]
    · rw [taken, List.filterMap_append, hname, ← hnames, given_next]

theorem taken_append_names (calls : Nat) (pending : Pending) :
    pending.taken calls ++ (pending.after calls).names = pending.names := by
  obtain ⟨seen, hseen, hnames⟩ := exists_seen_after calls pending
  rw [names_eq, names_eq, given_after, hseen, List.filterMap_append, hnames]

theorem after_of_companions_nil (h : pending.companions = []) :
    ∀ calls, pending.after calls = pending
  | 0 => rfl
  | calls + 1 => by
    rw [after, next_of_companions_nil h]
    exact after_of_companions_nil h calls

/-- Once a call has given nothing, nothing is pending and no later call gives anything. -/
theorem next_of_next_none (h : pending.next = (none, rest)) (more : Nat) :
    (rest.after more).bound = 0 ∧ (rest.after more).next.1 = none := by
  have hnil : rest.companions = [] := by
    have := companions_of_next_none (congrArg Prod.fst h)
    rwa [h] at this
  rw [after_of_companions_nil hnil, next_of_companions_nil hnil, bound, hnil]
  exact ⟨rfl, rfl⟩

/-- What is got from one of two pending answers does not depend on the calls to the other. -/
theorem inTurns_eq : ∀ (turns : List Bool) (first second : Pending),
    inTurns turns first second =
      ((first.taken (turns.count true), first.after (turns.count true)),
        (second.taken (turns.count false), second.after (turns.count false)))
  | [], _, _ => rfl
  | true :: turns, first, second => by
    simp [inTurns, inTurns_eq turns, taken, after]
  | false :: turns, first, second => by
    simp [inTurns, inTurns_eq turns, taken, after]

end Pending

namespace ImportIndex

/-- After any calls of `next` on the answer for a name, the companions of the family found are those
seen, which gave the names taken, followed by those not yet seen, which give the names to come. No more
names are to come than the hint says, which sinks with each name and is zero for good once none came.
What is got in turns from the answer and from a copy of it makes up these names on either side. -/
theorem resolve_stepwise {index : ImportIndex} {name : String} {runtime : Version}
    {start pending : Pending} (calls : Nat) (hstart : (index.resolve name runtime).value = start)
    (hpending : start.after calls = pending) :
    (∃ seen, (index.lookup name).elim [] Family.companions = seen ++ pending.companions ∧
      start.taken calls =
        seen.filterMap (·.emit (beforeDot name) ((afterDot? name).map beforeDot) runtime)) ∧
    pending.walk.map Prod.fst = pending.companions.filterMap
      (·.emit (beforeDot name) ((afterDot? name).map beforeDot) runtime) ∧
    pending.sizeHint = (0, some pending.companions.length) ∧
    (pending.walk.map Prod.fst).length ≤ pending.companions.length ∧
    (∀ needed rest, pending.next = (some needed, rest) →
      rest.companions.length < pending.companions.length) ∧
    (∀ rest, pending.next = (none, rest) → ∀ more,
      (rest.after more).sizeHint = (0, some 0) ∧ (rest.after more).next.1 = none) ∧
    ∀ turns names rest names' rest',
      Pending.inTurns turns pending pending = ((names, rest), (names', rest')) →
      names ++ rest.walk.map Prod.fst = pending.walk.map Prod.fst ∧
      names' ++ rest'.walk.map Prod.fst = pending.walk.map Prod.fst := by
  obtain ⟨seen, hseen, htaken⟩ := Pending.exists_seen_after calls start
  rw [hpending] at hseen
  have hgiven : pending.given = start.given := by
    rw [← hpending, Pending.given_after]
  have hsub : seen ⊆ start.companions ∧ pending.companions ⊆ start.companions := by
    rw [hseen]
    exact ⟨List.subset_append_left _ _, List.subset_append_right _ _⟩
  subst hstart
  simp only [Pending.fst_walk]
  refine ⟨⟨seen, ?_, ?_⟩, ?_, rfl, ?_, ?_, ?_, ?_⟩
  · rw [← companions_resolve, hseen]
  · rw [← htaken, filterMap_given_resolve hsub.1]
  · rw [Pending.names_eq, hgiven, filterMap_given_resolve hsub.2]
  · exact List.length_filterMap_le _ _
  · exact fun _ _ h => Pending.bound_next h
  · intro rest h more
    obtain ⟨hbound, hnone⟩ := Pending.next_of_next_none h more
    exact ⟨by rw [Pending.sizeHint, hbound], hnone⟩
  · intro turns names rest names' rest' h
    rw [Pending.inTurns_eq, Prod.mk.injEq, Prod.mk.injEq, Prod.mk.injEq] at h
    obtain ⟨⟨rfl, rfl⟩, rfl, rfl⟩ := h
    exact ⟨Pending.taken_append_names _ pending, Pending.taken_append_names _ pending⟩

/-- The first call on a current runtime goes past a companion for old ones. -/
theorem resolve_stepwise_qt : ∃ start pending,
    ((ofFamilies [Builtin.qt]).resolve "PyQt5.QtWidgets" .default).value = start ∧
    start.after 1 = pending ∧ start.taken 1 = ["sip"] ∧ pending.sizeHint = (0, some 2) ∧
    pending.walk.map Prod.fst = ["PyQt5.QtGui"] ∧
    (pending.after 2).sizeHint = (0, some 0) ∧ (pending.after 2).next.1 = none := by
  have hlookup : (ofFamilies [Builtin.qt]).lookup "PyQt5.QtWidgets" = some Builtin.qt := by
    rw [lookup_ofFamilies]
    decide +kernel
  have hstart := value_resolve_of_lookup hlookup .default
  obtain ⟨-, hnames, hhint, -, -, -, -⟩ := resolve_stepwise 1 hstart rfl
  obtain ⟨-, -, -, -, -, hend, -⟩ := resolve_stepwise 2 hstart rfl
  refine ⟨_, _, hstart, rfl, by decide +kernel, hhint, ?_, ?_⟩
  · rw [hnames]
    decide +kernel
  · exact hend _ (by decide +kernel) 0

end ImportIndex

end HiddenImports
