import HiddenImports.Config.Load
import HiddenImports.Proofs.Answers
import HiddenImports.Proofs.Resolution
import HiddenImports.Proofs.Run

/-!
# What is loaded

Loading reads the base and the layers of a configuration and puts the layers over the base
(`outcome_load`). The check of the whole finds again what is wrong with the base, so a book comes out
just if every file can be read, every table passes the check by itself and the patches of all fit
together (`exists_loadBook_iff`).
-/

namespace HiddenImports

open RuleTable

variable {disk : Disk} {config : Config} {base : RuleTable} {tops : List RuleTable} {book : RuleBook}

/-- A book gives the names that the first matching family of its table has for a module. -/
theorem RuleTable.names_imports {table : RuleTable} (h : table.compile.outcome = .ok book)
    (name : String) (runtime : Version) : (book.imports name runtime).value.names =
      ((table.families.find? (·.pattern.Matches name)).elim [] Family.companions).filterMap
        fun companion =>
          companion.emit (beforeDot name) ((afterDot? name).map beforeDot) runtime := by
  obtain ⟨_, _, -, -, hbook⟩ := outcome_compile (check_of_outcome_compile h)
  rw [h] at hbook
  cases hbook
  rw [RuleBook.imports, ImportIndex.names_resolve, ImportIndex.lookup_ofFamilies]

namespace Disk

theorem readLayer_eq_ok_iff {path : String} {table : RuleTable} :
    disk.readLayer path = .ok table ↔ table.check = .ok () ∧ disk.readTable path = .ok table := by
  unfold readLayer
  rcases disk.readTable path with failure | other
  · simp
  · rcases hcheck : other.check with fault | ⟨⟨⟩⟩
    · simp only [hcheck, reduceCtorEq, Except.ok.injEq, false_iff]
      rintro ⟨h, rfl⟩
      rw [hcheck] at h
      cases h
    · simp only [hcheck, Except.ok.injEq]
      constructor
      · rintro rfl
        exact ⟨hcheck, rfl⟩
      · exact And.right

theorem mapM_readLayer_eq_ok_iff {paths : List String} {tables : List RuleTable} :
    paths.mapM disk.readLayer = .ok tables ↔
      (∀ table ∈ tables, table.check = .ok ()) ∧ paths.mapM disk.readTable = .ok tables := by
  simp only [mapM_eq_ok_iff, readLayer_eq_ok_iff]
  exact forall₂_and_right

end Disk

namespace Config

theorem outcome_addLayer (disk : Disk) (below : RuleTable) (path : String) :
    (addLayer disk below path).outcome =
      (disk.readLayer path).map fun layer => (below.overlay layer).value := by
  unfold addLayer
  simp only [Attempt.outcome_bind, Attempt.outcome_ofExcept, Attempt.outcome_lift]
  cases disk.readLayer path <;> rfl

/-- The table of a configuration is its base with its layers over it. -/
theorem outcome_load (disk : Disk) (config : Config) : (config.load disk).outcome =
    config.base disk >>= fun base => (config.layers.mapM disk.readLayer).map base.stack := by
  unfold load
  simp only [Attempt.outcome_bind, Attempt.outcome_ofExcept, Attempt.outcome_foldlM,
    outcome_addLayer, foldlM_map]
  rfl

/-- The base and the layers of a configuration can be read, and these are their tables. -/
structure Reads (config : Config) (disk : Disk) (base : RuleTable) (tops : List RuleTable) :
    Prop where
  base : config.base disk = .ok base
  layers : config.layers.mapM disk.readTable = .ok tops

theorem Reads.unique {base' : RuleTable} {tops' : List RuleTable}
    (h : config.Reads disk base tops) (h' : config.Reads disk base' tops') :
    base = base' ∧ tops = tops' :=
  ⟨Except.ok.inj (h.base.symm.trans h'.base), Except.ok.inj (h.layers.symm.trans h'.layers)⟩

theorem outcome_load_eq_ok_iff {table : RuleTable} : (config.load disk).outcome = .ok table ↔
    ∃ base tops, config.Reads disk base tops ∧ (∀ top ∈ tops, top.check = .ok ()) ∧
      table = base.stack tops := by
  rw [outcome_load, bind_eq_ok_iff]
  constructor
  · rintro ⟨base, hbase, h⟩
    rcases hlayers : config.layers.mapM disk.readLayer with failure | tops
    · rw [hlayers] at h
      cases h
    · rw [hlayers] at h
      cases h
      obtain ⟨htops, hread⟩ := Disk.mapM_readLayer_eq_ok_iff.1 hlayers
      exact ⟨base, tops, ⟨hbase, hread⟩, htops, rfl⟩
  · rintro ⟨base, tops, hreads, htops, rfl⟩
    refine ⟨base, hreads.base, ?_⟩
    rw [Disk.mapM_readLayer_eq_ok_iff.2 ⟨htops, hreads.layers⟩]
    rfl

/-- The book of a configuration is that of its table. -/
theorem outcome_loadBook (disk : Disk) (config : Config) : (config.loadBook disk).outcome =
    (config.load disk).outcome >>= fun table => table.compile.outcome.mapError .badRules := by
  unfold loadBook
  simp only [Attempt.outcome_bind, Attempt.outcome_mapError, Attempt.outcome_lift]
  congr 1
  funext table
  cases table.compile.outcome <;> rfl

theorem outcome_loadBook_eq_ok_iff : (config.loadBook disk).outcome = .ok book ↔
    ∃ base tops, config.Reads disk base tops ∧ (∀ top ∈ tops, top.check = .ok ()) ∧
      (base.stack tops).compile.outcome = .ok book := by
  rw [outcome_loadBook, bind_eq_ok_iff]
  simp only [mapError_eq_ok_iff, outcome_load_eq_ok_iff]
  constructor
  · rintro ⟨_, ⟨base, tops, hreads, htops, rfl⟩, hbook⟩
    exact ⟨base, tops, hreads, htops, hbook⟩
  · rintro ⟨base, tops, hreads, htops, hbook⟩
    exact ⟨_, ⟨base, tops, hreads, htops, rfl⟩, hbook⟩

theorem exists_loadBook_iff : (∃ book, (config.loadBook disk).outcome = .ok book) ↔
    ∃ base tops, config.Reads disk base tops ∧
      (∀ table ∈ base :: tops, table.check = .ok ()) ∧
      ∃ own, PatchBook.build ((base :: tops).flatMap patches) = .ok own := by
  simp only [outcome_loadBook_eq_ok_iff]
  constructor
  · rintro ⟨book, base, tops, hreads, htops, hbook⟩
    obtain ⟨hbase, hown⟩ := (check_stack_iff htops).1 (check_of_outcome_compile hbook)
    exact ⟨base, tops, hreads, List.forall_mem_cons.2 ⟨hbase, htops⟩, hown⟩
  · rintro ⟨base, tops, hreads, hall, hown⟩
    obtain ⟨hbase, htops⟩ := List.forall_mem_cons.1 hall
    obtain ⟨_, _, -, -, hbook⟩ := outcome_compile ((check_stack_iff htops).2 ⟨hbase, hown⟩)
    exact ⟨_, base, tops, hreads, htops, hbook⟩

/-- Files that can be read and tables that pass the check by themselves leave one thing that can go
wrong: two patches of one module in different layers trigger each other. -/
theorem exists_crossClash_of_loadBook {failure : Failure} (hreads : config.Reads disk base tops)
    (hall : ∀ table ∈ base :: tops, table.check = .ok ())
    (h : (config.loadBook disk).outcome = .error failure) :
    ∃ other patch r s, CrossClash (base :: tops) other patch r s ∧
      failure = .badRules (.invalidPatch patch.module.text (.chains r.describe)) := by
  have hload : (config.load disk).outcome = .ok (base.stack tops) :=
    outcome_load_eq_ok_iff.2 ⟨base, tops, hreads, (List.forall_mem_cons.1 hall).2, rfl⟩
  rcases hb : PatchBook.build ((base :: tops).flatMap patches) with fault | own
  · have hcompile : (base.stack tops).compile.outcome = .error fault :=
      outcome_compile_of_error (check_stack_of_error hall hb)
    rw [outcome_loadBook, hload] at h
    simp only [bind, Except.bind, hcompile, Except.mapError, Except.error.injEq] at h
    obtain ⟨other, patch, r, s, hclash, rfl⟩ := exists_crossClash
      (fun table ht => (check_eq_ok_iff.1 (hall table ht)).2.1) hb
    exact ⟨other, patch, r, s, hclash, h.symm⟩
  · obtain ⟨book, hbook⟩ := exists_loadBook_iff.2 ⟨base, tops, hreads, hall, own, hb⟩
    rw [hbook] at h
    cases h

/-- A book that is loaded answers for the base and the layers that were read. -/
theorem combines_of_loadBook (h : (config.loadBook disk).outcome = .ok book) :
    ∃ base tops, config.Reads disk base tops ∧ book.Combines (base :: tops) := by
  obtain ⟨base, tops, hreads, htops, hbook⟩ := outcome_loadBook_eq_ok_iff.1 h
  exact ⟨base, tops, hreads, combines_stack htops (check_of_outcome_compile hbook) hbook⟩

/-- A base with one rule of each kind. -/
def lowTable : RuleTable where
  families := [⟨.topLevel ["k"], [.sibling "a" "b"]⟩]
  patches := [⟨⟨"m", by decide⟩, "a", "b", .literal⟩]
  aliases := [⟨⟨"x", by decide⟩, ⟨"y", by decide⟩⟩]
  suppressed := [⟨"m", by decide⟩]

/-- Another family for the package of `lowTable` and one for a second package, another patch for its
module, another target for its alias and another module that is silenced. -/
def highTable : RuleTable where
  families := [⟨.topLevel ["k", "l"], [.sibling "a" "c"]⟩]
  patches := [⟨⟨"m", by decide⟩, "c", "d", .literal⟩]
  aliases := [⟨⟨"x", by decide⟩, ⟨"z", by decide⟩⟩]
  suppressed := [⟨"x", by decide⟩]

/-- A patch that is triggered by the one of `lowTable`. -/
def chainedTable : RuleTable where
  patches := [⟨⟨"m", by decide⟩, "b", "c", .literal⟩]

/-- A file for each of the three tables. -/
def threeFiles : Disk where
  read
    | "low" => .ok "[[[[\"top_level\",[\"k\"]],[[\"sibling\",\"a\",\"b\"]]]],
        [[\"m\",\"a\",\"b\"]],[[\"x\",\"y\"]],[\"m\"]]".toUTF8
    | "high" => .ok "[[[[\"top_level\",[\"k\",\"l\"]],[[\"sibling\",\"a\",\"c\"]]]],
        [[\"m\",\"c\",\"d\"]],[[\"x\",\"z\"]],[\"x\"]]".toUTF8
    | "chained" => .ok "[[],[[\"m\",\"b\",\"c\"]]]".toUTF8
    | _ => .error .notFound

/-- The file of `lowTable` with another one over it. -/
def overLow (path : String) : Config where
  origin := .file "low"
  layers := [path]

theorem check_lowTable : lowTable.check = .ok () := check_eq_ok_iff.2 (by decide +kernel)

theorem readTable_low : threeFiles.readTable "low" = .ok lowTable := by decide +kernel

theorem reads_high : (overLow "high").Reads threeFiles lowTable [highTable] :=
  ⟨readTable_low, by decide +kernel⟩

theorem reads_chained : (overLow "chained").Reads threeFiles lowTable [chainedTable] :=
  ⟨readTable_low, by decide +kernel⟩

/-- The families and the alias of both tables are in each other's way, their patches and silenced modules
are not. -/
theorem combines_of_loadBook_high :
    ∃ book, ((overLow "high").loadBook threeFiles).outcome = .ok book ∧
      book.Combines [lowTable, highTable] ∧
      (book.imports "k.a" .default).value.names = ["k.b"] ∧
      (book.imports "l.a" .default).value.names = ["l.c"] ∧
      book.target? "x" = some "z" ∧ book.isSilenced "m" = true ∧ book.isSilenced "x" = true ∧
      (book.patch "m" "ac").value = .changed "bd" := by
  have hpatches : ∃ own, PatchBook.build ([lowTable, highTable].flatMap patches) = .ok own := by
    decide +kernel
  have hall : ∀ table ∈ [lowTable, highTable], table.check = .ok () := by
    simp only [check_eq_ok_iff]
    decide +kernel
  obtain ⟨book, h⟩ := exists_loadBook_iff.2 ⟨lowTable, [highTable], reads_high, hall, hpatches⟩
  obtain ⟨base, tops, hreads, hbook⟩ := combines_of_loadBook h
  obtain ⟨rfl, rfl⟩ := hreads.unique reads_high
  refine ⟨book, h, hbook, ?_, ?_, ?_, ?_, ?_, ?_⟩
  · obtain ⟨own, hown, hsame⟩ := hbook.imports_of_first [] lowTable [highTable] "k.a" .default rfl
      (by simp) (by decide +kernel)
    rw [hsame, names_imports hown]
    decide +kernel
  · obtain ⟨own, hown, hsame⟩ := hbook.imports_of_first [lowTable] highTable [] "l.a" .default rfl
      (by decide +kernel) (by decide +kernel)
    rw [hsame, names_imports hown]
    decide +kernel
  · exact hbook.target_of_last [lowTable] highTable [] "x" rfl (by simp) _ (List.Mem.head _) rfl
  · exact (hbook.silenced "m").2 (by decide +kernel)
  · exact (hbook.silenced "x").2 (by decide +kernel)
  · obtain ⟨own, hown, hsame⟩ := hbook.patch "m"
    rw [hsame]
    exact PatchBook.value_edit_of_map hown (by decide +kernel)

/-- A book comes out just if every file can be read, every table passes the check by itself and the
patches of all fit together; if only the last fails, two patches of different layers are named. -/
theorem loadBook_iff (disk : Disk) (config : Config) :
    ((∃ book, (config.loadBook disk).outcome = .ok book) ↔
      ∃ base tops, config.Reads disk base tops ∧
        (∀ table ∈ base :: tops, table.check = .ok ()) ∧
        ∃ own, PatchBook.build ((base :: tops).flatMap patches) = .ok own) ∧
    ∀ base tops, config.Reads disk base tops → (∀ table ∈ base :: tops, table.check = .ok ()) →
      ∀ failure, (config.loadBook disk).outcome = .error failure →
        ∃ other patch r s, CrossClash (base :: tops) other patch r s ∧
          failure = .badRules (.invalidPatch patch.module.text (.chains r.describe)) :=
  ⟨exists_loadBook_iff, fun _ _ hreads hall _ h => exists_crossClash_of_loadBook hreads hall h⟩

theorem loadBook_iff_chained :
    ∃ failure, ((overLow "chained").loadBook threeFiles).outcome = .error failure ∧
      ∃ other patch r s, CrossClash [lowTable, chainedTable] other patch r s ∧
        failure = .badRules (.invalidPatch patch.module.text (.chains r.describe)) := by
  have hclash : ¬ ∃ own, PatchBook.build ([lowTable, chainedTable].flatMap patches) = .ok own := by
    decide +kernel
  have hall : ∀ table ∈ [lowTable, chainedTable], table.check = .ok () := by
    simp only [check_eq_ok_iff]
    decide +kernel
  obtain ⟨hiff, hcross⟩ := loadBook_iff threeFiles (overLow "chained")
  rcases h : ((overLow "chained").loadBook threeFiles).outcome with failure | book
  · exact ⟨failure, rfl, hcross lowTable [chainedTable] reads_chained hall failure h⟩
  · obtain ⟨base, tops, hreads, -, hown⟩ := hiff.1 ⟨book, h⟩
    obtain ⟨rfl, rfl⟩ := hreads.unique reads_chained
    exact absurd hown hclash

end Config

end HiddenImports
