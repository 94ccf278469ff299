import Mathlib.Data.List.Nodup
import HiddenImports.RuleBook
import HiddenImports.Proofs.Acceptance
import HiddenImports.Proofs.FirstMatch

/-!
# Tables that pass the check

A table passes the check exactly if its families are sound, a book of its patches can be made and no
two of its aliases have one source (`check_eq_ok_iff`). Nothing more can go wrong when its rule book is
made, and the rule book holds what the table says (`outcome_compile`).
-/

namespace HiddenImports

/-! ## Families -/

namespace Family

/-- The family has a name to match, and its names that must be single components are. -/
structure Sound (family : Family) : Prop where
  keyed : family.pattern.keyCount ≠ 0
  parts : ∀ part ∈ family.parts, IsComponent part

instance : DecidablePred Sound := fun family =>
  decidable_of_iff (family.pattern.keyCount ≠ 0 ∧ ∀ part ∈ family.parts, IsComponent part)
    ⟨fun h => ⟨h.1, h.2⟩, fun h => ⟨h.keyed, h.parts⟩⟩

theorem checkComponent_eq_ok_iff {text : String} :
    checkComponent text = .ok () ↔ IsComponent text := by
  unfold checkComponent
  split <;> simp_all

theorem check_eq_ok_iff {index : Nat} {family : Family} :
    family.check index = .ok () ↔ family.Sound := by
  unfold check
  split
  · rename_i h
    simp only [reduceCtorEq, false_iff]
    exact fun hs => hs.keyed h
  · rename_i h
    simp only [forM_eq_ok_iff, checkComponent_eq_ok_iff]
    exact ⟨fun hp => ⟨h, hp⟩, fun hs => hs.parts⟩

theorem checkAll_eq_ok_iff : ∀ {families : List Family} {index : Nat},
    checkAll index families = .ok () ↔ ∀ family ∈ families, family.Sound
  | [], index => by simp [checkAll]
  | family :: rest, index => by
    have hfamily : family.check index = .ok () ↔ family.Sound := check_eq_ok_iff
    rw [checkAll, List.forall_mem_cons, ← hfamily]
    rcases family.check index with fault | u
    · simp
    · simp [checkAll_eq_ok_iff]

end Family

/-! ## Aliases -/

namespace AliasTable

theorem foldlM_add_eq_ok_iff {table' : AliasTable} : ∀ {aliases : List Alias} {table : AliasTable},
    aliases.foldlM add table = .ok table' ↔
      ((table.entries ++ aliases).map Alias.source).Nodup ∧ table'.entries = table.entries ++ aliases
  | [], table => by
    simp only [List.foldlM_nil, pure, Except.pure, Except.ok.injEq, List.append_nil]
    constructor
    · rintro rfl
      exact ⟨table.distinct, rfl⟩
    · rintro ⟨-, h⟩
      cases table
      cases table'
      simp_all
  | a :: rest, table => by
    rw [List.foldlM_cons, add]
    split
    · rename_i h
      simp only [bind, Except.bind, reduceCtorEq, false_iff, not_and]
      intro hnodup
      rw [List.map_append, List.nodup_append] at hnodup
      exact absurd rfl (hnodup.2.2 _ h _ (by simp))
    · rename_i h
      simp only [bind, Except.bind]
      rw [foldlM_add_eq_ok_iff]
      simp

theorem ofList_eq_ok_iff {aliases : List Alias} {table : AliasTable} :
    ofList aliases = .ok table ↔ (aliases.map Alias.source).Nodup ∧ table.entries = aliases := by
  rw [ofList, foldlM_add_eq_ok_iff, List.nil_append]

theorem target?_text (table : AliasTable) (source : ModuleName) :
    table.target? source.text = (Alias.find? source table.entries).map ModuleName.text := by
  have hsame : (fun a : Alias => a.source.text == source.text) =
      fun a => decide (a.source = source) := by
    funext a
    rw [Bool.eq_iff_iff, beq_iff_eq, decide_eq_true_iff]
    exact ⟨ModuleName.eq_of_text_eq, fun h => by rw [h]⟩
  rw [target?, hsame, Alias.find?, Option.map_map]
  rfl

theorem target?_eq_none {table : AliasTable} {path : String}
    (h : ∀ a ∈ table.entries, a.source.text ≠ path) : table.target? path = none := by
  rw [target?, Option.map_eq_none_iff, List.find?_eq_none]
  intro a ha
  simpa using h a ha

end AliasTable

/-! ## Silenced modules -/

theorem ModuleName.mem_foldl_addNew {name : ModuleName} : ∀ {more names : List ModuleName},
    name ∈ more.foldl addNew names ↔ name ∈ names ∨ name ∈ more
  | [], names => by simp
  | first :: rest, names => by
    rw [List.foldl_cons, mem_foldl_addNew, addNew, List.mem_cons]
    split
    · rename_i h
      constructor
      · rintro (hm | hm)
        · exact .inl hm
        · exact .inr (.inr hm)
      · rintro (hm | rfl | hm)
        · exact .inl hm
        · exact .inl h
        · exact .inr hm
    · rw [List.mem_append, List.mem_singleton, or_assoc]

theorem Silenced.contains_ofList_iff {modules : List ModuleName} {name : String} :
    (Silenced.ofList modules).contains name = true ↔ ∃ m ∈ modules, m.text = name := by
  simp [contains, ofList, ModuleName.mem_foldl_addNew]

/-! ## Tables -/

namespace RuleTable

variable {table : RuleTable}

theorem check_eq_ok_iff : table.check = .ok () ↔
    (∀ family ∈ table.families, family.Sound) ∧
      (∃ book, PatchBook.build table.patches = .ok book) ∧
      (table.aliases.map Alias.source).Nodup := by
  unfold check
  simp only [bind_eq_ok_iff, AliasTable.ofList_eq_ok_iff]
  constructor
  · rintro ⟨⟨⟩, hfamilies, book, hbook, aliases, ⟨hnodup, -⟩, -⟩
    exact ⟨Family.checkAll_eq_ok_iff.1 hfamilies, ⟨book, hbook⟩, hnodup⟩
  · rintro ⟨hfamilies, ⟨book, hbook⟩, hnodup⟩
    exact ⟨(), Family.checkAll_eq_ok_iff.2 hfamilies, book, hbook, ⟨table.aliases, hnodup⟩,
      ⟨hnodup, rfl⟩, rfl⟩

/-- The rule book holds the families, patches, aliases and suppressed modules of the table, and it can
be made of every table that passes the check. -/
theorem outcome_compile (h : table.check = .ok ()) :
    ∃ patches aliases, PatchBook.build table.patches = .ok patches ∧
      aliases.entries = table.aliases ∧
      table.compile.outcome =
        .ok ⟨.ofFamilies table.families, patches, aliases, .ofList table.suppressed⟩ := by
  obtain ⟨-, ⟨patches, hpatches⟩, hnodup⟩ := check_eq_ok_iff.1 h
  have haliases : AliasTable.ofList table.aliases = .ok ⟨table.aliases, hnodup⟩ :=
    AliasTable.ofList_eq_ok_iff.2 ⟨hnodup, rfl⟩
  refine ⟨patches, ⟨table.aliases, hnodup⟩, hpatches, rfl, ?_⟩
  unfold compile RuleBook.ofTable ImportIndex.build
  simp only [Attempt.outcome_bind, Attempt.outcome_ofExcept, h, hpatches, haliases]
  rfl

/-- A table that does not pass the check has no rule book. -/
theorem outcome_compile_of_error {fault : Fault} (h : table.check = .error fault) :
    table.compile.outcome = .error fault := by
  unfold compile
  rw [Attempt.outcome_bind, Attempt.outcome_ofExcept, h]
  rfl

theorem check_of_outcome_compile {book : RuleBook} (h : table.compile.outcome = .ok book) :
    table.check = .ok () := by
  rcases hcheck : table.check with fault | ⟨⟨⟩⟩
  · rw [outcome_compile_of_error hcheck] at h
    cases h
  · rfl

end RuleTable

end HiddenImports
