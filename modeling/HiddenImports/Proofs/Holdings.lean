import Mathlib.Algebra.BigOperators.Group.List.Lemmas
import Mathlib.Algebra.GroupWithZero.Nat
import Mathlib.Data.Finset.Card
import HiddenImports.Proofs.Layers

/-!
# What a rule book holds

The parts of a book are put together by steps of their own, and still their sizes are those of the census
of its table: a patch gives one entry, which counts for its own module alone
(`PatchBook.size_ofEntries`), an alias gives one pair, which a look-up finds
(`AliasTable.target?_eq_some_iff`), and only the suppressed modules are counted without repetitions
(`Silenced.size_ofList`). So compiling neither loses nor doubles anything (`RuleBook.holds_of_compile`).
-/

namespace HiddenImports

namespace PatchBook

variable {engine : Engine} {patches : List Patch} {book : PatchBook}

/-- The modules that have patches, each once. -/
def modules (book : PatchBook) : List String := book.byModule.keys

theorem mem_modules_iff {name : String} : name ∈ book.modules ↔ book.forModule name ≠ [] := by
  rw [modules, Std.HashMap.mem_keys, Std.HashMap.mem_iff_isSome_getElem?, getElem?_byModule]
  split <;> simp_all

/-- A book has as many patches as its modules have together. -/
theorem sum_length_forModule (book : PatchBook) :
    (book.modules.map fun name => (book.forModule name).length).sum = book.size := by
  rw [modules, size, Std.HashMap.fold_eq_foldl_toList, ← Std.HashMap.map_fst_toList_eq_keys,
    List.map_map, ← List.foldl_map, ← List.sum_eq_foldl]
  congr 1
  refine List.map_congr_left fun ⟨name, rs⟩ hmem => ?_
  have hget : book.byModule[name]? = some rs := Std.HashMap.mem_toList_iff_getElem?_eq_some.1 hmem
  simp [forModule, Std.HashMap.getD_eq_getD_getElem?, hget]

theorem modules_ofEntries_perm (entries : List (ModuleName × Replacer)) :
    (ofEntries entries).modules.Perm (entries.map (·.1.text)).dedup := by
  have hnodup : (ofEntries entries).modules.Nodup := Std.HashMap.nodup_keys
  refine (List.perm_ext_iff_of_nodup hnodup (List.nodup_dedup _)).2 fun name => ?_
  rw [mem_modules_iff, forModule_ofEntries]
  simp

/-- Every entry counts for its own module, and for no other one. -/
theorem size_ofEntries (entries : List (ModuleName × Replacer)) :
    (ofEntries entries).size = entries.length := by
  have hcount : ∀ name, ((ofEntries entries).forModule name).length =
      (entries.map (·.1.text)).count name := by
    intro name
    rw [forModule_ofEntries, List.length_map, List.count_eq_length_filter, List.filter_map,
      List.length_map]
    rfl
  calc (ofEntries entries).size
      = ((ofEntries entries).modules.map fun name => (entries.map (·.1.text)).count name).sum := by
        simp only [← hcount, sum_length_forModule]
    _ = ((entries.map (·.1.text)).dedup.map fun name => (entries.map (·.1.text)).count name).sum :=
        ((modules_ofEntries_perm entries).map _).sum_eq
    _ = entries.length := by rw [List.sum_map_count_dedup_eq_length, List.length_map]

theorem size_of_buildWith (hb : buildWith engine patches = .ok book) :
    book.size = patches.length := by
  obtain ⟨entries, hentries, -, rfl⟩ := buildWith_eq_ok_iff.1 hb
  rw [size_ofEntries, hentries.length_eq]

theorem isEmpty_iff_modules (book : PatchBook) : book.isEmpty = true ↔ book.modules = [] := by
  rw [isEmpty, modules, ← Std.HashMap.isEmpty_keys, List.isEmpty_iff]

/-- A module that is in the book has patches, so only the empty book has none. -/
theorem isEmpty_iff_size (book : PatchBook) : book.isEmpty = true ↔ book.size = 0 := by
  rw [isEmpty_iff_modules, ← sum_length_forModule, List.sum_eq_zero_iff_forall_eq_nat]
  constructor
  · intro h
    simp [h]
  · intro h
    refine List.eq_nil_iff_forall_not_mem.2 fun name hname => mem_modules_iff.1 hname ?_
    exact List.length_eq_zero_iff.1 (h _ (List.mem_map_of_mem hname))

end PatchBook

namespace AliasTable

variable {table : AliasTable} {path target : String}

theorem mem_toList_iff : (path, target) ∈ table.toList ↔
    ∃ a ∈ table.entries, a.source.text = path ∧ a.target.text = target := by
  simp only [toList, List.mem_map, Prod.mk.injEq]

/-- A look-up finds just the pairs of the table. -/
theorem target?_eq_some_iff : table.target? path = some target ↔ (path, target) ∈ table.toList := by
  rw [mem_toList_iff]
  constructor
  · intro h
    rw [target?, Option.map_eq_some_iff] at h
    obtain ⟨a, ha, htarget⟩ := h
    exact ⟨a, List.mem_of_find?_eq_some ha, by simpa using List.find?_some ha, htarget⟩
  · rintro ⟨a, ha, rfl, rfl⟩
    rw [target?_text, Alias.find?_of_mem table.distinct ha, Option.map_some]

end AliasTable

namespace Silenced

/-- A set has as many modules as different ones were listed. -/
theorem size_ofList (modules : List ModuleName) :
    (ofList modules).size = modules.toFinset.card := by
  have hsame : (ofList modules).modules.toFinset = modules.toFinset := by
    ext name
    simp [ofList, ModuleName.mem_foldl_addNew]
  rw [size, ← List.toFinset_card_of_nodup (ofList modules).distinct, hsame]

theorem size_ofList_le (modules : List ModuleName) : (ofList modules).size ≤ modules.length := by
  rw [size_ofList]
  exact List.toFinset_card_le modules

theorem size_ofList_eq_iff {modules : List ModuleName} :
    (ofList modules).size = modules.length ↔ modules.Nodup := by
  rw [size_ofList, List.card_toFinset]
  constructor
  · intro h
    rw [← List.dedup_eq_self]
    exact (List.dedup_sublist modules).eq_of_length h
  · intro h
    rw [List.dedup_eq_self.2 h]

end Silenced

theorem RuleTable.isEmpty_iff_census (table : RuleTable) : table.isEmpty = true ↔
    table.census.families = 0 ∧ table.census.patches = 0 ∧ table.census.aliases = 0 ∧
      table.census.suppressed = 0 := by
  simp [isEmpty, census, and_assoc]

namespace RuleBook

variable {table : RuleTable} {book : RuleBook}

/-- The book of a table holds what the census of the table counts: its families in order, its patches,
module by module in order, its aliases as they are, and its suppressed modules without repetitions. A part
of the book counts as empty if nothing is in it, and the table does if nothing is in the census. -/
theorem holds_of_compile (h : table.compile.outcome = .ok book) :
    (book.index.families = table.families ∧
      book.index.families.length = table.census.families) ∧
    (book.patches.size = table.census.patches ∧
      (book.patches.modules.map fun name => (book.patches.forModule name).length).sum =
        book.patches.size ∧
      ∀ name, (table.patches.filter (·.module.text == name)).mapM Patch.compile =
        .ok (book.patches.forModule name)) ∧
    (book.aliases.size = table.census.aliases ∧
      book.aliases.toList = table.aliases.map (fun a => (a.source.text, a.target.text)) ∧
      ∀ path target, book.target? path = some target ↔ (path, target) ∈ book.aliases.toList) ∧
    (book.silenced.size = table.suppressed.toFinset.card ∧
      book.silenced.size ≤ table.census.suppressed ∧
      (book.silenced.size = table.census.suppressed ↔ table.suppressed.Nodup) ∧
      ∀ name, book.isSilenced name = true ↔ ∃ m ∈ table.suppressed, m.text = name) ∧
    ((book.patches.isEmpty = true ↔ book.patches.size = 0) ∧
      (book.patches.isEmpty = true ↔ book.patches.modules = []) ∧
      (book.aliases.isEmpty = true ↔ book.aliases.size = 0) ∧
      (book.silenced.isEmpty = true ↔ book.silenced.size = 0)) ∧
    (table.isEmpty = true ↔ table.census.families = 0 ∧ table.census.patches = 0 ∧
      table.census.aliases = 0 ∧ table.census.suppressed = 0) := by
  obtain ⟨patches, aliases, hpatches, haliases, hbook⟩ :=
    RuleTable.outcome_compile (RuleTable.check_of_outcome_compile h)
  rw [h] at hbook
  cases hbook
  have hfamilies := ImportIndex.families_ofFamilies table.families
  refine ⟨⟨hfamilies, congrArg List.length hfamilies⟩, ⟨?_, ?_, ?_⟩, ⟨?_, ?_, ?_⟩,
    ⟨?_, ?_, ?_, ?_⟩, ⟨?_, ?_, ?_, ?_⟩, table.isEmpty_iff_census⟩
  · exact PatchBook.size_of_buildWith hpatches
  · exact patches.sum_length_forModule
  · exact PatchBook.mapM_compileWith hpatches
  · exact congrArg List.length haliases
  · rw [AliasTable.toList, haliases]
  · exact fun _ _ => AliasTable.target?_eq_some_iff
  · exact Silenced.size_ofList table.suppressed
  · exact Silenced.size_ofList_le table.suppressed
  · exact Silenced.size_ofList_eq_iff
  · exact fun _ => Silenced.contains_ofList_iff
  · exact patches.isEmpty_iff_size
  · exact patches.isEmpty_iff_modules
  · exact List.isEmpty_iff_length_eq_zero
  · exact List.isEmpty_iff_length_eq_zero

/-- Two patches of one module and one of another, and a module that is suppressed twice. -/
def stocked : RuleTable where
  families := [⟨.topLevel ["store"], [.sibling "shelf" "box"]⟩]
  patches := [
    { module := ⟨"store", by decide +kernel⟩, find := "old", replace := "new" },
    { module := ⟨"store.shelf", by decide +kernel⟩, find := "old", replace := "new" },
    { module := ⟨"store", by decide +kernel⟩, find := "foo()", replace := "bar()" }]
  aliases := [⟨⟨"store.bin", by decide +kernel⟩, ⟨"bin", by decide +kernel⟩⟩]
  suppressed := [⟨"cellar", by decide +kernel⟩, ⟨"cellar", by decide +kernel⟩]

theorem holds_of_compile_stocked : ∃ book, stocked.compile.outcome = .ok book ∧
    book.index.families.length = 1 ∧ book.patches.size = 3 ∧
    (book.patches.forModule "store").map Replacer.describe = ["literal: old", "literal: foo()"] ∧
    book.target? "store.bin" = some "bin" ∧ book.silenced.size = 1 ∧
    book.silenced.size ≠ stocked.census.suppressed ∧ book.patches.isEmpty = false := by
  have hcheck : stocked.check = .ok () := RuleTable.check_eq_ok_iff.2 (by decide +kernel)
  obtain ⟨patches, aliases, -, -, hbook⟩ := RuleTable.outcome_compile hcheck
  obtain ⟨⟨-, hfamilies⟩, ⟨hpatches, -, hmodule⟩, ⟨-, hpairs, htarget⟩, ⟨hsilenced, -, hnodup, -⟩,
    ⟨hempty, -⟩, -⟩ := holds_of_compile hbook
  have hdescribe := hmodule "store"
  refine ⟨_, hbook, hfamilies, hpatches, ?_, ?_, ?_, ?_, ?_⟩
  · have hrun : ((stocked.patches.filter (·.module.text == "store")).mapM Patch.compile).map
        (·.map Replacer.describe) = .ok ["literal: old", "literal: foo()"] := by decide +kernel
    rw [hdescribe] at hrun
    exact Except.ok.inj hrun
  · rw [htarget, hpairs]
    decide +kernel
  · rw [hsilenced]
    decide +kernel
  · rw [ne_eq, hnodup]
    decide +kernel
  · rw [← Bool.not_eq_true, hempty, hpatches]
    decide +kernel

end RuleBook

end HiddenImports
