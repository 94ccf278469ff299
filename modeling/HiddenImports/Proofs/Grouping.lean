import HiddenImports.Proofs.Layers

/-!
# Layers put together in groups

Layers that are put over one another may be put together in any groups first. For families and patches
this is `List.append_assoc`. An alias put over an overlay takes the same place whether it is put into
the upper table or into the whole (`Alias.put_foldl_put`), provided that the upper table has each source
once; otherwise the second entry of a source would come back to the top. So the table of a stack depends
on the order of its layers and not on how they are grouped (`Grouping.table_eq_stack`).
-/

namespace HiddenImports

/-! ## Aliases -/

namespace Alias

variable {a b : Alias} {l more rest : List Alias}

theorem mem_map_source_put : a.source ∈ l.map source → a.source ∈ (b.put l).map source := by
  rw [map_source_put]
  unfold ModuleName.addNew
  split
  · exact id
  · exact List.mem_append_left _

/-- The last of two aliases with one source counts. -/
theorem put_put_of_source_eq (h : b.source = a.source) : ∀ l, a.put (b.put l) = a.put l
  | [] => by simp [put, h]
  | c :: l => by
    by_cases hc : c.source = a.source
    · have hcb : c.source = b.source := hc.trans h.symm
      simp only [put, if_pos hc, if_pos hcb, if_pos h]
    · have hcb : c.source ≠ b.source := fun hcb => hc (hcb.trans h)
      simp only [put, if_neg hc, if_neg hcb, put_put_of_source_eq h l]

/-- An alias that only takes a place which is there already may do so before or after another one. -/
theorem put_put_comm (h : b.source ≠ a.source) :
    ∀ l : List Alias, a.source ∈ l.map source → a.put (b.put l) = b.put (a.put l)
  | [], hl => by cases hl
  | c :: l, hl => by
    by_cases hc : c.source = a.source
    · have hcb : c.source ≠ b.source := fun hcb => h (hcb.symm.trans hc)
      simp only [put, if_pos hc, if_neg hcb, if_neg h.symm]
    · have hl' : a.source ∈ l.map source := (List.mem_cons.1 hl).resolve_left (Ne.symm hc)
      by_cases hcb : c.source = b.source
      · simp only [put, if_pos hcb, if_neg hc, if_neg h]
      · simp only [put, if_neg hcb, if_neg hc, put_put_comm h l hl']

theorem put_foldl_put_comm : ∀ {more l : List Alias}, (∀ b ∈ more, b.source ≠ a.source) →
    a.source ∈ l.map source →
      a.put (more.foldl (fun l b => b.put l) l) = more.foldl (fun l b => b.put l) (a.put l)
  | [], l, _, _ => rfl
  | b :: more, l, hmore, hl => by
    obtain ⟨hb, hmore⟩ := List.forall_mem_cons.1 hmore
    rw [List.foldl_cons, put_foldl_put_comm hmore (mem_map_source_put hl), put_put_comm hb l hl,
      List.foldl_cons]

/-- An alias put over an overlay is as good as put into the upper list, if that has each source once. -/
theorem put_foldl_put : ∀ {more l : List Alias}, (more.map source).Nodup →
    a.put (more.foldl (fun l b => b.put l) l) = (a.put more).foldl (fun l b => b.put l) l
  | [], l, _ => rfl
  | b :: more, l, h => by
    obtain ⟨hnew, hmore⟩ := List.nodup_cons.1 h
    by_cases hb : b.source = a.source
    · -- the entry of `a` replaces `b` in the upper list, and what `b` has left behind in the lower one
      have hapart : ∀ c ∈ more, c.source ≠ a.source := fun c hc hs =>
        hnew (List.mem_map.2 ⟨c, hc, hs.trans hb.symm⟩)
      have hplace : a.source ∈ (b.put l).map source := by
        rw [← hb, map_source_put, ModuleName.addNew]
        split
        · assumption
        · simp
      rw [List.foldl_cons, put_foldl_put_comm hapart hplace, put_put_of_source_eq hb, put, if_pos hb,
        List.foldl_cons]
    · rw [List.foldl_cons, put_foldl_put hmore, put, if_neg hb, List.foldl_cons]

theorem foldl_put_foldl_put : ∀ {rest more l : List Alias}, (more.map source).Nodup →
    rest.foldl (fun l b => b.put l) (more.foldl (fun l b => b.put l) l) =
      (rest.foldl (fun l b => b.put l) more).foldl (fun l b => b.put l) l
  | [], more, l, _ => rfl
  | a :: rest, more, l, h => by
    have hput : ((a.put more).map source).Nodup := by
      rw [map_source_put]
      exact ModuleName.nodup_addNew h a.source
    rw [List.foldl_cons, put_foldl_put h, foldl_put_foldl_put hput, List.foldl_cons]

theorem put_of_notMem : ∀ {l : List Alias}, a.source ∉ l.map source → a.put l = l ++ [a]
  | [], _ => rfl
  | c :: l, h => by
    rw [List.map_cons, List.mem_cons, not_or] at h
    obtain ⟨hc, hl⟩ := h
    rw [put, if_neg (Ne.symm hc), put_of_notMem hl, List.cons_append]

theorem foldl_put_of_nodup : ∀ {more l : List Alias}, ((l ++ more).map source).Nodup →
    more.foldl (fun l b => b.put l) l = l ++ more
  | [], l, _ => (List.append_nil l).symm
  | a :: more, l, h => by
    have hnew : a.source ∉ l.map source := by
      rw [List.map_append] at h
      exact fun hmem => List.disjoint_of_nodup_append h hmem (List.mem_cons_self ..)
    rw [List.append_cons] at h
    rw [List.foldl_cons, put_of_notMem hnew, foldl_put_of_nodup h, ← List.append_cons]

end Alias

/-! ## Suppressed modules -/

namespace ModuleName

theorem addNew_foldl_addNew (more names : List ModuleName) (name : ModuleName) :
    addNew (more.foldl addNew names) name = (addNew more name).foldl addNew names := by
  by_cases h : name ∈ more
  · have hmem : name ∈ more.foldl addNew names := mem_foldl_addNew.2 (.inr h)
    rw [addNew, if_pos hmem, addNew, if_pos h]
  · have hnew : addNew more name = more ++ [name] := if_neg h
    rw [hnew, List.foldl_append]
    rfl

theorem foldl_addNew_foldl_addNew : ∀ rest more names : List ModuleName,
    rest.foldl addNew (more.foldl addNew names) = (rest.foldl addNew more).foldl addNew names
  | [], more, names => rfl
  | name :: rest, more, names => by
    rw [List.foldl_cons, addNew_foldl_addNew, foldl_addNew_foldl_addNew rest, List.foldl_cons]

theorem foldl_addNew_of_nodup : ∀ {more names : List ModuleName}, (names ++ more).Nodup →
    more.foldl addNew names = names ++ more
  | [], names, _ => (List.append_nil names).symm
  | name :: more, names, h => by
    have hnew : name ∉ names := fun hmem =>
      List.disjoint_of_nodup_append h hmem (List.mem_cons_self ..)
    rw [List.append_cons] at h
    rw [List.foldl_cons, addNew, if_neg hnew, foldl_addNew_of_nodup h, ← List.append_cons]

end ModuleName

/-! ## Tables -/

namespace RuleTable

theorem overlay_overlay (base : RuleTable) {middle : RuleTable} (top : RuleTable)
    (h : (middle.aliases.map Alias.source).Nodup) :
    ((base.overlay middle).value.overlay top).value =
      (base.overlay (middle.overlay top).value).value := by
  simp only [value_overlay, List.append_assoc, Alias.foldl_put_foldl_put h,
    ModuleName.foldl_addNew_foldl_addNew]

theorem overlay_empty (table : RuleTable) : (table.overlay .empty).value = table := by
  simp [value_overlay, empty]

/-- A table that repeats nothing is the same over the empty one. -/
theorem empty_overlay {table : RuleTable} (haliases : (table.aliases.map Alias.source).Nodup)
    (hsuppressed : table.suppressed.Nodup) : (RuleTable.empty.overlay table).value = table := by
  have hput := @Alias.foldl_put_of_nodup table.aliases [] haliases
  have hadd := @ModuleName.foldl_addNew_of_nodup table.suppressed [] hsuppressed
  simp only [value_overlay, empty, hput, hadd, List.nil_append]

/-- A stack put over a table is the stack of both. -/
theorem overlay_stack : ∀ {base : RuleTable} (low : RuleTable) (tops : List RuleTable),
    (base.aliases.map Alias.source).Nodup →
      (low.overlay (base.stack tops)).value = low.stack (base :: tops)
  | base, low, [], _ => rfl
  | base, low, top :: rest, h => by
    have hnext := nodup_aliases_overlay top h
    rw [stack_cons, overlay_stack low rest hnext, stack_cons, ← overlay_overlay low top h, stack_cons,
      stack_cons]

/-- Tables to be put over one another, two at a time. -/
inductive Grouping where
  | single (table : RuleTable)
  | pair (lower upper : Grouping)

namespace Grouping

/-- The tables of a grouping, from the lowest to the highest. -/
def tables : Grouping → List RuleTable
  | single table => [table]
  | pair lower upper => lower.tables ++ upper.tables

/-- What the tables are put together to. -/
def table : Grouping → RuleTable
  | single table => table
  | pair lower upper => (lower.table.overlay upper.table).value

theorem exists_tables_eq_cons : ∀ g : Grouping, ∃ base tops, g.tables = base :: tops
  | single table => ⟨table, [], rfl⟩
  | pair lower upper => by
    obtain ⟨base, tops, h⟩ := exists_tables_eq_cons lower
    exact ⟨base, tops ++ upper.tables, by rw [tables, h, List.cons_append]⟩

theorem table_eq_stack : ∀ (g : Grouping) {base : RuleTable} {tops : List RuleTable},
    g.tables = base :: tops → (∀ top ∈ tops, (top.aliases.map Alias.source).Nodup) →
      g.table = base.stack tops
  | single table, base, tops, hg, _ => by
    cases hg
    rfl
  | pair lower upper, base, tops, hg, hdistinct => by
    obtain ⟨low, lows, hlower⟩ := lower.exists_tables_eq_cons
    obtain ⟨up, ups, hupper⟩ := upper.exists_tables_eq_cons
    rw [tables, hlower, hupper, List.cons_append] at hg
    cases hg
    have hlows : ∀ top ∈ lows, (top.aliases.map Alias.source).Nodup := fun top ht =>
      hdistinct top (List.mem_append_left _ ht)
    have hups : ∀ top ∈ up :: ups, (top.aliases.map Alias.source).Nodup := fun top ht =>
      hdistinct top (List.mem_append_right _ ht)
    obtain ⟨hup, hups⟩ := List.forall_mem_cons.1 hups
    calc (pair lower upper).table
        = ((base.stack lows).overlay (up.stack ups)).value := by
          rw [table, table_eq_stack lower hlower hlows, table_eq_stack upper hupper hups]
      _ = (base.stack lows).stack (up :: ups) := overlay_stack _ ups hup
      _ = base.stack (lows ++ up :: ups) := List.foldl_append.symm

end Grouping

/-- Overlaying is associative if the middle table has no two aliases of one source, as the tables that
pass the check. The empty table on top changes nothing, and nothing is lost over an empty table but what
is repeated. So whatever groups the layers over a base are put together in, the result is the same. -/
theorem overlay_assoc :
    (∀ base middle top : RuleTable, (middle.aliases.map Alias.source).Nodup →
      ((base.overlay middle).value.overlay top).value =
        (base.overlay (middle.overlay top).value).value) ∧
    (∀ table : RuleTable, (table.overlay .empty).value = table) ∧
    (∀ table : RuleTable, (table.aliases.map Alias.source).Nodup → table.suppressed.Nodup →
      (RuleTable.empty.overlay table).value = table) ∧
    ∀ g g' : Grouping, g.tables = g'.tables →
      (∀ top ∈ g.tables.tail, (top.aliases.map Alias.source).Nodup) → g.table = g'.table := by
  refine ⟨fun base middle top h => overlay_overlay base top h, overlay_empty,
    fun table haliases hsuppressed => empty_overlay haliases hsuppressed, ?_⟩
  intro g g' hsame hdistinct
  obtain ⟨base, tops, hg⟩ := g.exists_tables_eq_cons
  rw [hg, List.tail_cons] at hdistinct
  rw [g.table_eq_stack hg hdistinct, g'.table_eq_stack (hsame ▸ hg) hdistinct]

/-- The table with aliases of the module `a`. -/
def moved (targets : List ModuleName) : RuleTable where
  aliases := targets.map fun target => ⟨⟨"a", by decide⟩, target⟩

/-- Aliases that are repeated at the bottom, and at the top of three tables, do no harm. -/
theorem overlay_assoc_moved :
    let x : ModuleName := ⟨"x", by decide⟩
    let y : ModuleName := ⟨"y", by decide⟩
    let z : ModuleName := ⟨"z", by decide⟩
    let low := moved [x, z]
    ((moved [y]).aliases.map Alias.source).Nodup ∧
      ((low.overlay (moved [y])).value.overlay (moved [z, x])).value =
        (low.overlay ((moved [y]).overlay (moved [z, x])).value).value ∧
      ((low.overlay (moved [y])).value.overlay (moved [z, x])).value = low ∧
      (RuleTable.empty.overlay (moved [y])).value = moved [y] ∧
      (Grouping.pair (.pair (.single low) (.single (moved [y])))
          (.pair (.single (moved [z])) (.single (moved [x])))).table =
        (Grouping.pair (.single low) (.pair (.single (moved [y]))
          (.pair (.single (moved [z])) (.single (moved [x]))))).table := by
  intro x y z low
  have hdistinct : ∀ target, ((moved [target]).aliases.map Alias.source).Nodup := fun target =>
    List.nodup_singleton _
  obtain ⟨hassoc, -, hempty, hgroups⟩ := overlay_assoc
  exact ⟨hdistinct y, hassoc low (moved [y]) (moved [z, x]) (hdistinct y), by decide,
    hempty (moved [y]) (hdistinct y) List.nodup_nil, hgroups _ _ rfl (by simp [Grouping.tables, hdistinct])⟩

-- repeated in the middle, an alias comes back to the top
example :
    let x : ModuleName := ⟨"x", by decide⟩
    let y : ModuleName := ⟨"y", by decide⟩
    let z : ModuleName := ⟨"z", by decide⟩
    ((RuleTable.empty.overlay (moved [x, y])).value.overlay (moved [z])).value = moved [z] ∧
      (RuleTable.empty.overlay ((moved [x, y]).overlay (moved [z])).value).value = moved [y] := by
  decide

end RuleTable

end HiddenImports
