import HiddenImports.Proofs.Compile

/-!
# Layers put over a base

What a stack of tables says comes from its layers: the families and patches are those of all layers in
order, an alias is that of the last layer with its source (`find?_aliases_stack`) and a module is
suppressed by any layer. Over a base, layers that pass the check by themselves can spoil nothing but
the way in which patches of one module fit together, and they hide no defect of the base
(`check_stack_iff`).
-/

namespace HiddenImports

/-! ## One alias over others -/

namespace Alias

variable {source : ModuleName}

theorem find?_cons (a : Alias) (l : List Alias) :
    find? source (a :: l) = if a.source = source then some a.target else find? source l := by
  unfold find?
  rw [List.find?_cons]
  by_cases h : a.source = source <;> simp [h]

theorem find?_eq_none_iff {l : List Alias} :
    find? source l = none ↔ ∀ a ∈ l, a.source ≠ source := by
  simp [find?]

/-- Of aliases with different sources, the one with a source is the first one. -/
theorem find?_source_eq_some_iff {l : List Alias} (h : (l.map Alias.source).Nodup) {a : Alias} :
    l.find? (·.source = source) = some a ↔ a ∈ l ∧ a.source = source := by
  constructor
  · exact fun ha => ⟨List.mem_of_find?_eq_some ha, by simpa using List.find?_some ha⟩
  · rintro ⟨ha, rfl⟩
    rcases hf : l.find? (·.source = a.source) with _ | b
    · exact absurd (List.find?_eq_none.1 hf a ha) (by simp)
    · have hb : b.source = a.source := by simpa using List.find?_some hf
      rw [hf, List.inj_on_of_nodup_map h (List.mem_of_find?_eq_some hf) ha hb]

theorem find?_of_mem {l : List Alias} (h : (l.map Alias.source).Nodup) {a : Alias} (ha : a ∈ l) :
    find? a.source l = some a.target := by
  rw [find?, (find?_source_eq_some_iff h).2 ⟨ha, rfl⟩, Option.map_some]

theorem find?_put (a : Alias) : ∀ l : List Alias,
    find? source (a.put l) = if a.source = source then some a.target else find? source l
  | [] => find?_cons a []
  | b :: rest => by
    rw [put]
    split
    · rename_i hb
      rw [find?_cons, find?_cons, hb]
      split <;> rfl
    · rename_i hb
      rw [find?_cons, find?_cons, find?_put a rest]
      by_cases ha : a.source = source
      · rw [if_pos ha, if_pos ha, if_neg (fun h => hb (h.trans ha.symm))]
      · rw [if_neg ha, if_neg ha]

theorem find?_foldl_put : ∀ {more : List Alias} (l : List Alias), (more.map Alias.source).Nodup →
    find? source (more.foldl (fun l a => a.put l) l) = (find? source more).or (find? source l)
  | [], l, _ => rfl
  | a :: rest, l, h => by
    obtain ⟨hnew, hrest⟩ := List.nodup_cons.1 h
    rw [List.foldl_cons, find?_foldl_put (a.put l) hrest, find?_put, find?_cons]
    split
    · rename_i ha
      have hnone : find? source rest = none := find?_eq_none_iff.2 fun b hb hs =>
        hnew (List.mem_map.2 ⟨b, hb, hs.trans ha.symm⟩)
      rw [hnone, Option.none_or, Option.some_or]
    · rfl

theorem map_source_put (a : Alias) : ∀ l : List Alias,
    (a.put l).map Alias.source = ModuleName.addNew (l.map Alias.source) a.source
  | [] => rfl
  | b :: rest => by
    have ih := map_source_put a rest
    unfold ModuleName.addNew at ih ⊢
    rw [put]
    by_cases hb : b.source = a.source
    · simp [hb]
    · simp only [if_neg hb, List.map_cons, ih, List.mem_cons, Ne.symm hb, false_or]
      split <;> simp

theorem map_source_foldl_put : ∀ more l : List Alias,
    (more.foldl (fun l a => a.put l) l).map Alias.source =
      (more.map Alias.source).foldl ModuleName.addNew (l.map Alias.source)
  | [], l => rfl
  | a :: rest, l => by
    rw [List.foldl_cons, map_source_foldl_put rest, map_source_put, List.map_cons, List.foldl_cons]

end Alias

theorem ModuleName.prefix_foldl_addNew : ∀ more names : List ModuleName,
    names <+: more.foldl addNew names
  | [], names => List.prefix_refl names
  | name :: rest, names => by
    refine List.IsPrefix.trans ?_ (prefix_foldl_addNew rest (addNew names name))
    unfold addNew
    split
    · exact List.prefix_refl names
    · exact List.prefix_append names [name]

theorem ModuleName.nodup_foldl_addNew_iff {more names : List ModuleName} :
    (more.foldl addNew names).Nodup ↔ names.Nodup :=
  ⟨fun h => h.sublist (prefix_foldl_addNew more names).sublist, nodup_foldl_addNew more⟩

namespace RuleTable

/-! ## Tables over a table -/

variable {base top : RuleTable}

theorem value_overlay (base top : RuleTable) : (base.overlay top).value =
    { families := base.families ++ top.families
      patches := base.patches ++ top.patches
      aliases := top.aliases.foldl (fun l a => a.put l) base.aliases
      suppressed := top.suppressed.foldl ModuleName.addNew base.suppressed } := by
  unfold overlay
  rw [Logged.value_bind, Logged.value_foldlM]
  rfl

/-- A base with tables over it, from the lowest to the highest. -/
def stack (base : RuleTable) (tops : List RuleTable) : RuleTable :=
  tops.foldl (fun below top => (below.overlay top).value) base

theorem stack_cons (base top : RuleTable) (rest : List RuleTable) :
    base.stack (top :: rest) = (base.overlay top).value.stack rest := rfl

theorem families_stack : ∀ (base : RuleTable) (tops : List RuleTable),
    (base.stack tops).families = (base :: tops).flatMap families
  | base, [] => by simp [stack]
  | base, top :: rest => by
    rw [stack_cons, families_stack _ rest, value_overlay]
    simp

theorem forall_families_stack_iff {base : RuleTable} {tops : List RuleTable} {p : Family → Prop} :
    (∀ family ∈ (base.stack tops).families, p family) ↔
      ∀ table ∈ base :: tops, ∀ family ∈ table.families, p family := by
  rw [families_stack]
  exact List.forall_mem_flatMap

theorem patches_stack : ∀ (base : RuleTable) (tops : List RuleTable),
    (base.stack tops).patches = (base :: tops).flatMap patches
  | base, [] => by simp [stack]
  | base, top :: rest => by
    rw [stack_cons, patches_stack _ rest, value_overlay]
    simp

theorem mem_suppressed_stack {m : ModuleName} : ∀ {base : RuleTable} {tops : List RuleTable},
    m ∈ (base.stack tops).suppressed ↔ ∃ table ∈ base :: tops, m ∈ table.suppressed
  | base, [] => by simp [stack]
  | base, top :: rest => by
    rw [stack_cons, mem_suppressed_stack, value_overlay]
    simp [ModuleName.mem_foldl_addNew, or_assoc]

/-- The last layer with an alias for a source gives its target. -/
theorem find?_aliases_stack {source : ModuleName} : ∀ (base : RuleTable) {tops : List RuleTable},
    (∀ top ∈ tops, (top.aliases.map Alias.source).Nodup) →
      Alias.find? source (base.stack tops).aliases =
        (base :: tops).reverse.findSome? (Alias.find? source ·.aliases)
  | base, [], _ => by simp [stack]
  | base, top :: rest, h => by
    obtain ⟨htop, hrest⟩ := List.forall_mem_cons.1 h
    rw [stack_cons, find?_aliases_stack _ hrest, List.reverse_cons, List.reverse_cons,
      List.reverse_cons, List.findSome?_append, List.findSome?_append, List.findSome?_append,
      Option.or_assoc]
    congr 1
    rw [value_overlay, List.findSome?_singleton, List.findSome?_singleton,
      List.findSome?_singleton, Alias.find?_foldl_put _ htop]

theorem nodup_aliases_stack_iff : ∀ {base : RuleTable} {tops : List RuleTable},
    ((base.stack tops).aliases.map Alias.source).Nodup ↔ (base.aliases.map Alias.source).Nodup
  | base, [] => Iff.rfl
  | base, top :: rest => by
    rw [stack_cons, nodup_aliases_stack_iff, value_overlay, Alias.map_source_foldl_put,
      ModuleName.nodup_foldl_addNew_iff]

theorem nodup_aliases_overlay (top : RuleTable) (h : (base.aliases.map Alias.source).Nodup) :
    ((base.overlay top).value.aliases.map Alias.source).Nodup :=
  (@nodup_aliases_stack_iff base [top]).2 h

/-- The target of an alias whose source no higher layer has is not changed by the other layers. -/
theorem find?_aliases_of_last {base table : RuleTable} {tops lower upper : List RuleTable}
    (htops : ∀ top ∈ tops, (top.aliases.map Alias.source).Nodup)
    (hsplit : base :: tops = lower ++ table :: upper)
    (htable : (table.aliases.map Alias.source).Nodup) {a : Alias} (ha : a ∈ table.aliases)
    (hlast : ∀ t ∈ upper, ∀ b ∈ t.aliases, b.source ≠ a.source) :
    Alias.find? a.source (base.stack tops).aliases = some a.target := by
  have hupper : upper.reverse.findSome? (Alias.find? a.source ·.aliases) = none := by
    rw [List.findSome?_eq_none_iff]
    exact fun t ht => Alias.find?_eq_none_iff.2 (hlast t (List.mem_reverse.1 ht))
  rw [find?_aliases_stack base htops, hsplit, List.reverse_append, List.reverse_cons,
    List.findSome?_append, List.findSome?_append, List.findSome?_singleton, hupper,
    Option.none_or, Alias.find?_of_mem htable ha, Option.some_or]

/-- No alias has a source that no layer has. -/
theorem exists_alias_of_mem_stack {base : RuleTable} {tops : List RuleTable}
    (htops : ∀ top ∈ tops, (top.aliases.map Alias.source).Nodup) {a : Alias}
    (ha : a ∈ (base.stack tops).aliases) :
    ∃ table ∈ base :: tops, ∃ b ∈ table.aliases, b.source = a.source := by
  by_contra hnone
  push Not at hnone
  have h : Alias.find? a.source (base.stack tops).aliases = none := by
    rw [find?_aliases_stack base htops, List.findSome?_eq_none_iff]
    exact fun t ht => Alias.find?_eq_none_iff.2 (hnone t (List.mem_reverse.1 ht))
  exact Alias.find?_eq_none_iff.1 h a ha rfl

/-! ## Checks -/

theorem build_of_mem {tables : List RuleTable} {table : RuleTable} (h : table ∈ tables)
    {book : PatchBook} (hb : PatchBook.build (tables.flatMap patches) = .ok book) :
    ∃ own, PatchBook.build table.patches = .ok own := by
  rw [List.flatMap_def] at hb
  exact PatchBook.buildWith_of_sublist (List.sublist_flatten_of_mem (List.mem_map_of_mem h)) hb

/-- Over layers that pass the check, a base with them passes it just if the base does and the patches
of all fit together. -/
theorem check_stack_iff {base : RuleTable} {tops : List RuleTable}
    (htops : ∀ top ∈ tops, top.check = .ok ()) :
    (base.stack tops).check = .ok () ↔ base.check = .ok () ∧
      ∃ book, PatchBook.build ((base :: tops).flatMap patches) = .ok book := by
  have hsound : ∀ top ∈ tops, ∀ family ∈ top.families, family.Sound := fun top ht =>
    (check_eq_ok_iff.1 (htops top ht)).1
  rw [check_eq_ok_iff, check_eq_ok_iff, forall_families_stack_iff, patches_stack,
    nodup_aliases_stack_iff]
  constructor
  · rintro ⟨hfamilies, ⟨book, hbook⟩, hnodup⟩
    exact ⟨⟨hfamilies base (by simp), build_of_mem (by simp) hbook, hnodup⟩, book, hbook⟩
  · rintro ⟨⟨hfamilies, -, hnodup⟩, hbook⟩
    exact ⟨List.forall_mem_cons.2 ⟨hfamilies, hsound⟩, hbook, hnodup⟩

/-- A stack of tables that all pass the check can only have the defects of their joined patches. -/
theorem check_stack_of_error {base : RuleTable} {tops : List RuleTable} {fault : Fault}
    (h : ∀ table ∈ base :: tops, table.check = .ok ())
    (hb : PatchBook.build ((base :: tops).flatMap patches) = .error fault) :
    (base.stack tops).check = .error fault := by
  have hsound : ∀ table ∈ base :: tops, ∀ family ∈ table.families, family.Sound :=
    fun table ht => (check_eq_ok_iff.1 (h table ht)).1
  have hfamilies : Family.checkAll 0 (base.stack tops).families = .ok () :=
    Family.checkAll_eq_ok_iff.2 (forall_families_stack_iff.2 hsound)
  unfold check
  rw [hfamilies, patches_stack, hb]
  rfl

/-! ## Patches of several layers -/

/-- Where an entry stands in the joined lists. -/
theorem flatMap_eq_append_cons {α β : Type} {f : α → List β} {b : β} {after : List β} :
    ∀ {l : List α} {before : List β}, l.flatMap f = before ++ b :: after →
      ∃ lower a upper own rest, l = lower ++ a :: upper ∧ f a = own ++ b :: rest ∧
        before = lower.flatMap f ++ own
  | [], before, h => by simp at h
  | a :: l, before, h => by
    have hlater : ∀ more : List β, l.flatMap f = more ++ b :: after → before = f a ++ more →
        ∃ lower c upper own rest, a :: l = lower ++ c :: upper ∧ f c = own ++ b :: rest ∧
          before = lower.flatMap f ++ own := by
      rintro more hmore rfl
      obtain ⟨lower, c, upper, own, rest, rfl, hc, rfl⟩ := flatMap_eq_append_cons hmore
      exact ⟨a :: lower, c, upper, own, rest, rfl, hc, by simp⟩
    rw [List.flatMap_cons, List.append_eq_append_iff] at h
    rcases h with ⟨more, hbefore, hl⟩ | ⟨_ | ⟨c, rest⟩, ha, hafter⟩
    · exact hlater more hl hbefore
    · exact hlater [] hafter.symm (by simp [ha])
    · cases hafter
      exact ⟨[], a, l, before, rest, rfl, ha, rfl⟩

/-- `patch` stands in a higher layer than `other`; both belong to one module, and their replacers `s`
and `r` can trigger each other. -/
structure CrossClash (tables : List RuleTable) (other patch : Patch) (r s : Replacer) : Prop where
  layers : ∃ lower table upper, tables = lower ++ table :: upper ∧ patch ∈ table.patches ∧
    ∃ below ∈ lower, other ∈ below.patches
  module : other.module.text = patch.module.text
  lower : other.compileWith Regex.engine = .ok r
  upper : patch.compileWith Regex.engine = .ok s
  clash : PatchBook.clash r s = true

/-- Layers whose patches fit together within each one are refused because of patches of two of
them. -/
theorem exists_crossClash {tables : List RuleTable} {fault : Fault}
    (hown : ∀ table ∈ tables, ∃ own, PatchBook.build table.patches = .ok own)
    (h : PatchBook.build (tables.flatMap patches) = .error fault) :
    ∃ other patch r s, CrossClash tables other patch r s ∧
      fault = .invalidPatch patch.module.text (.chains r.describe) := by
  have hall : ∀ patch ∈ tables.flatMap patches, ∃ r, patch.compileWith Regex.engine = .ok r := by
    intro patch hpatch
    obtain ⟨table, ht, hpatch⟩ := List.mem_flatMap.1 hpatch
    obtain ⟨own, hbuild⟩ := hown table ht
    exact PatchBook.exists_compileWith hbuild hpatch
  obtain ⟨before, patch, after, hsplit, other, hother, r, s, hr, hs, hmodule, hclash, hfault⟩ :=
    PatchBook.exists_clash_of_eq_error hall h
  obtain ⟨lower, table, upper, own, rest, htables, htable, rfl⟩ := flatMap_eq_append_cons hsplit
  have hpatch : patch ∈ table.patches := by simp [htable]
  refine ⟨other, patch, r, s, ⟨⟨lower, table, upper, htables, hpatch, ?_⟩, hmodule, hr, hs, hclash⟩,
    hfault⟩
  rcases List.mem_append.1 hother with hother | hother
  · exact List.mem_flatMap.1 hother
  · -- two patches of one layer do not clash, since the layer has a book of its own
    obtain ⟨book, hbuild⟩ := hown table (by simp [htables])
    have hfits : PatchBook.clash r s = false :=
      PatchBook.clash_eq_false hbuild (by simp [htable, hother]) hpatch hmodule hr hs
    rw [hclash] at hfits
    cases hfits

end RuleTable

end HiddenImports
