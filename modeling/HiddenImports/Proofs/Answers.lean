import HiddenImports.Proofs.Layers

/-!
# What a book of several layers answers

The book of a stack answers from its layers (`combines_stack`), though not by one rule: for what a
module needs the first layer with a family for it counts, for an alias the last one that has it, a
module is silenced by any layer, and the patches of a module are those of all layers in order.
-/

namespace HiddenImports

namespace RuleTable

/-- A family of the table matches the name. -/
def Covers (table : RuleTable) (name : String) : Prop :=
  ∃ family ∈ table.families, family.pattern.Matches name

instance (table : RuleTable) (name : String) : Decidable (table.Covers name) :=
  inferInstanceAs (Decidable (∃ family ∈ table.families, family.pattern.Matches name))

variable {table : RuleTable} {tables lower upper : List RuleTable} {name : String}

theorem not_covers_iff : ¬ table.Covers name ↔
    table.families.find? (·.pattern.Matches name) = none := by
  simp [Covers]

/-- The index of all layers finds the family that the index of the first layer with one finds. -/
theorem lookup_of_first (hsplit : tables = lower ++ table :: upper)
    (hlower : ∀ t ∈ lower, ¬ t.Covers name) (h : table.Covers name) :
    (ImportIndex.ofFamilies (tables.flatMap families)).lookup name =
      (ImportIndex.ofFamilies table.families).lookup name := by
  have hnone : lower.findSome? (·.families.find? (·.pattern.Matches name)) = none := by
    rw [List.findSome?_eq_none_iff]
    exact fun t ht => not_covers_iff.1 (hlower t ht)
  rw [ImportIndex.lookup_ofFamilies, ImportIndex.lookup_ofFamilies, hsplit, List.find?_flatMap,
    List.findSome?_append, hnone, Option.none_or, List.findSome?_cons]
  rcases hf : table.families.find? (·.pattern.Matches name) with _ | family
  · exact absurd h (not_covers_iff.2 hf)
  · simp only [hf]

theorem lookup_of_none (h : ∀ t ∈ tables, ¬ t.Covers name) :
    (ImportIndex.ofFamilies (tables.flatMap families)).lookup name = none := by
  rw [ImportIndex.lookup_ofFamilies, List.find?_flatMap, List.findSome?_eq_none_iff]
  exact fun t ht => not_covers_iff.1 (h t ht)

end RuleTable

open RuleTable

/-- The book answers for some tables, from the lowest to the highest. -/
structure RuleBook.Combines (book : RuleBook) (tables : List RuleTable) : Prop where
  /-- The first table with a family for the name answers as it does by itself. -/
  imports_of_first : ∀ (lower : List RuleTable) (table : RuleTable) (upper : List RuleTable)
    (name : String) (runtime : Version), tables = lower ++ table :: upper →
      (∀ t ∈ lower, ¬ t.Covers name) → table.Covers name →
        ∃ own, table.compile.outcome = .ok own ∧
          book.imports name runtime = own.imports name runtime
  imports_of_none : ∀ (name : String) (runtime : Version), (∀ t ∈ tables, ¬ t.Covers name) →
    (book.imports name runtime).value.names = []
  /-- The last table with the path as a source gives the target. -/
  target_of_last : ∀ (lower : List RuleTable) (table : RuleTable) (upper : List RuleTable)
    (path : String), tables = lower ++ table :: upper →
      (∀ t ∈ upper, ∀ b ∈ t.aliases, b.source.text ≠ path) →
        ∀ a ∈ table.aliases, a.source.text = path → book.target? path = some a.target.text
  target_of_none : ∀ path : String, (∀ t ∈ tables, ∀ a ∈ t.aliases, a.source.text ≠ path) →
    book.target? path = none
  silenced : ∀ name : String,
    book.isSilenced name = true ↔ ∃ t ∈ tables, ∃ m ∈ t.suppressed, m.text = name
  /-- The patches of a module, table by table, make a book that edits alike. -/
  patch : ∀ name : String,
    ∃ own, PatchBook.build (tables.flatMap (·.patches.filter (·.module.text == name))) = .ok own ∧
      ∀ source, book.patch name source = own.edit name source

/-- The book of a stack answers for its layers, if those over the base pass the check. -/
theorem RuleTable.combines_stack {base : RuleTable} {tops : List RuleTable} {book : RuleBook}
    (htops : ∀ top ∈ tops, top.check = .ok ()) (hcheck : (base.stack tops).check = .ok ())
    (hbook : (base.stack tops).compile.outcome = .ok book) : book.Combines (base :: tops) := by
  have hall : ∀ t ∈ base :: tops, t.check = .ok () :=
    List.forall_mem_cons.2 ⟨((check_stack_iff htops).1 hcheck).1, htops⟩
  have hnodup : ∀ t ∈ base :: tops, (t.aliases.map Alias.source).Nodup := fun t ht =>
    (check_eq_ok_iff.1 (hall t ht)).2.2
  have hnodups : ∀ top ∈ tops, (top.aliases.map Alias.source).Nodup := fun top ht =>
    hnodup top (List.mem_cons_of_mem _ ht)
  obtain ⟨patches, aliases, hpatches, haliases, hcompile⟩ := outcome_compile hcheck
  rw [hbook, families_stack] at hcompile
  rw [patches_stack] at hpatches
  cases hcompile
  constructor
  case imports_of_first =>
    intro lower table upper name runtime hsplit hlower hcovers
    obtain ⟨_, _, -, -, hown⟩ := outcome_compile (hall table (by simp [hsplit]))
    exact ⟨_, hown, ImportIndex.resolve_congr (lookup_of_first hsplit hlower hcovers) runtime⟩
  case imports_of_none =>
    intro name runtime hnone
    rw [RuleBook.imports, ImportIndex.resolve_of_lookup_eq_none (lookup_of_none hnone)]
    rfl
  case target_of_last =>
    rintro lower table upper _ hsplit hlast a ha rfl
    have hfind : Alias.find? a.source (base.stack tops).aliases = some a.target :=
      find?_aliases_of_last hnodups hsplit (hnodup table (by simp [hsplit])) ha
        fun t ht b hb hs => hlast t ht b hb (by rw [hs])
    rw [RuleBook.target?, AliasTable.target?_text, haliases, hfind, Option.map_some]
  case target_of_none =>
    intro path hnone
    refine AliasTable.target?_eq_none fun a ha hpath => ?_
    rw [haliases] at ha
    obtain ⟨table, ht, b, hb, hs⟩ := exists_alias_of_mem_stack hnodups ha
    exact hnone table ht b hb (by rw [hs, hpath])
  case silenced =>
    intro name
    rw [RuleBook.isSilenced, Silenced.contains_ofList_iff]
    simp only [mem_suppressed_stack]
    constructor
    · rintro ⟨m, ⟨table, ht, hm⟩, hname⟩
      exact ⟨table, ht, m, hm, hname⟩
    · rintro ⟨table, ht, m, hm, hname⟩
      exact ⟨m, ⟨table, ht, hm⟩, hname⟩
  case patch =>
    intro name
    obtain ⟨own, hown, hsame⟩ := PatchBook.buildWith_filter hpatches name
    rw [List.filter_flatMap] at hown
    exact ⟨own, hown, fun source => (PatchBook.edit_congr hsame source).symm⟩

end HiddenImports
