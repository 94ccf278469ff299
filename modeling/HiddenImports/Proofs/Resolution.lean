import HiddenImports.Proofs.Component
import HiddenImports.Proofs.FirstMatch

/-!
# What an index answers

A call for the next name goes past the companions that it asks (`exists_seen_next`), so the names taken
one by one from what is pending are those that its companions give, in order (`fst_walk`). With that, an
index answers for any text as a search through its families would (`resolve_build`): the first family
counts that asks for the text before the first dot or for the whole text, and all of its companions are
asked.
-/

namespace HiddenImports

namespace Pending

variable {pending after : Pending} {name : String}

/-! ## Names one by one -/

/-- The name that a companion gives for the module asked about. -/
def given (pending : Pending) (companion : Companion) : Option String :=
  companion.emit pending.top pending.child pending.runtime

theorem names_eq (pending : Pending) :
    pending.names = pending.companions.filterMap pending.given := rfl

@[simp] theorem given_next (pending : Pending) : pending.next.2.given = pending.given := rfl

theorem exists_seen_firstOf (top : String) (child : Option String) (runtime : Version) :
    ∀ companions : List Companion, ∃ seen,
      companions = seen ++ (firstOf top child runtime companions).2 ∧
      seen.filterMap (·.emit top child runtime) = (firstOf top child runtime companions).1.toList
  | [] => ⟨[], rfl, rfl⟩
  | companion :: more => by
    rcases h : companion.emit top child runtime with _ | name
    · obtain ⟨seen, hmore, hseen⟩ := exists_seen_firstOf top child runtime more
      refine ⟨companion :: seen, ?_, ?_⟩
      · simp only [firstOf, h, List.cons_append, ← hmore]
      · simp only [firstOf, h, List.filterMap_cons, hseen]
    · refine ⟨[companion], ?_, ?_⟩
      · simp only [firstOf, h, List.singleton_append]
      · simp [firstOf, h]

/-- A call goes past the companions that it asks, the last of which gives the name if there is one. -/
theorem exists_seen_next (pending : Pending) : ∃ seen,
    pending.companions = seen ++ pending.next.2.companions ∧
      seen.filterMap pending.given = pending.next.1.toList :=
  exists_seen_firstOf pending.top pending.child pending.runtime pending.companions

theorem firstOf_eq_none {top : String} {child : Option String} {runtime : Version} :
    ∀ {companions : List Companion}, (firstOf top child runtime companions).1 = none →
      (firstOf top child runtime companions).2 = []
  | [], _ => rfl
  | companion :: more, h => by
    rw [firstOf] at h ⊢
    split at h
    · cases h
    · exact firstOf_eq_none h

theorem companions_of_next_none (h : pending.next.1 = none) : pending.next.2.companions = [] :=
  firstOf_eq_none h

theorem names_next (pending : Pending) :
    pending.names = pending.next.1.toList ++ pending.next.2.names := by
  obtain ⟨seen, hseen, hname⟩ := exists_seen_next pending
  rw [names_eq, names_eq, given_next, ← hname, ← List.filterMap_append, ← hseen]

theorem names_of_next_none (h : pending.next = (none, after)) : pending.names = [] := by
  have hnil := companions_of_next_none (congrArg Prod.fst h)
  rw [names_next, names_eq, hnil, h]
  rfl

theorem names_of_next_some (h : pending.next = (some name, after)) :
    pending.names = name :: after.names := by
  rw [names_next, h]
  rfl

/-- The names taken one by one are the names to come. -/
theorem fst_walk (pending : Pending) : pending.walk.map Prod.fst = pending.names := by
  fun_induction walk pending with
  | case1 pending after h => rw [names_of_next_none h, List.map_nil]
  | case2 pending name after h ih => rw [names_of_next_some h, List.map_cons, ih]

end Pending

/-! ## Patterns -/

namespace Pattern

variable {name : String}

theorem matches_topLevel_iff {names : List String} :
    (topLevel names).Matches name ↔ beforeDot name ∈ names := by
  simp only [Matches, topAndChild_eq]

theorem matches_fullName_iff {names : List ModuleName} :
    (fullName names).Matches name ↔ ∃ m ∈ names, m.text = name := by
  simp only [Matches, List.mem_map]

end Pattern

namespace ImportIndex

theorem value_build (families : List Family) : (build families).value = ofFamilies families := rfl

/-- What is pending for a name are all companions of the family found. -/
theorem value_resolve_of_lookup {index : ImportIndex} {name : String} {family : Family}
    (h : index.lookup name = some family) (runtime : Version) :
    (index.resolve name runtime).value =
      ⟨family.companions, beforeDot name, (afterDot? name).map beforeDot, runtime⟩ := by
  unfold resolve
  simp only [h, topAndChild_eq]
  rfl

theorem companions_resolve (index : ImportIndex) (name : String) (runtime : Version) :
    (index.resolve name runtime).value.companions =
      (index.lookup name).elim [] Family.companions := by
  rcases h : index.lookup name with _ | family
  · rw [resolve_of_lookup_eq_none h]
    rfl
  · rw [value_resolve_of_lookup h]
    rfl

/-- The companions of what is pending for a name are asked for the first two components of the name. -/
theorem filterMap_given_resolve {index : ImportIndex} {name : String} {runtime : Version}
    {part : List Companion} (h : part ⊆ (index.resolve name runtime).value.companions) :
    part.filterMap (index.resolve name runtime).value.given =
      part.filterMap (·.emit (beforeDot name) ((afterDot? name).map beforeDot) runtime) := by
  rcases hf : index.lookup name with _ | family
  · -- there is no companion to be asked
    rw [companions_resolve, hf, Option.elim_none, List.subset_nil] at h
    rw [h, List.filterMap_nil, List.filterMap_nil]
  · rw [value_resolve_of_lookup hf]
    rfl

theorem names_resolve (index : ImportIndex) (name : String) (runtime : Version) :
    (index.resolve name runtime).value.names =
      ((index.lookup name).elim [] Family.companions).filterMap fun companion =>
        companion.emit (beforeDot name) ((afterDot? name).map beforeDot) runtime := by
  rw [Pending.names_eq, filterMap_given_resolve (List.Subset.refl _), companions_resolve]

/-- An index answers as a search through its families in order does, for any text and with any keys:
the family found is the first one that matches, and the names taken from the answer are those that its
companions give for the first two components of the text. -/
theorem resolve_build (families : List Family) (name : String) (runtime : Version) :
    (∀ names, (Pattern.topLevel names).Matches name ↔ beforeDot name ∈ names) ∧
    (∀ names, (Pattern.fullName names).Matches name ↔ ∃ m ∈ names, m.text = name) ∧
    (build families).value.lookup name = families.find? (·.pattern.Matches name) ∧
    (build families).value.position? name = families.findIdx? (·.pattern.Matches name) ∧
    ((build families).value.lookup name = none ↔
      ∀ family ∈ families, ¬ family.pattern.Matches name) ∧
    ((build families).value.resolve name runtime).value.walk.map Prod.fst =
      ((families.find? (·.pattern.Matches name)).elim [] Family.companions).filterMap
        fun companion =>
          companion.emit (beforeDot name) ((afterDot? name).map beforeDot) runtime := by
  rw [value_build, Pending.fst_walk, names_resolve, lookup_ofFamilies]
  refine ⟨fun _ => Pattern.matches_topLevel_iff, fun _ => Pattern.matches_fullName_iff, rfl, ?_, ?_,
    rfl⟩
  · exact position?_ofFamilies families name
  · simp

end ImportIndex

end HiddenImports
