import HiddenImports.Proofs.LiteralRun
import HiddenImports.Proofs.Rerouting
import HiddenImports.Proofs.Validity

/-!
# A table over itself

A valid table over itself has its families and patches twice and is otherwise the same
(`value_overlay_self`). The second copies hold nothing new: validity asks about members and not about
places, the first of two equal families is found, and the second half of a run does what a second run
would do, which is nothing where the run is settled (`value_edit_append_self`). Literal patches always
are, so such a table answers as it does alone (`overlay_self`).
-/

namespace HiddenImports

/-! ## What is put where it is already -/

namespace Alias

variable {l : List Alias} {a : Alias}

theorem put_of_mem : ∀ {l : List Alias}, (l.map source).Nodup → a ∈ l → a.put l = l
  | b :: rest, h, ha => by
    obtain ⟨hnew, hrest⟩ := List.nodup_cons.1 h
    rw [put]
    rcases List.mem_cons.1 ha with rfl | ha
    · rw [if_pos rfl]
    · have hb : b.source ≠ a.source := fun hb => hnew (hb ▸ List.mem_map_of_mem ha)
      rw [if_neg hb, put_of_mem hrest ha]

theorem foldl_put_of_subset (h : (l.map source).Nodup) : ∀ {more : List Alias}, more ⊆ l →
    more.foldl (fun l a => a.put l) l = l
  | [], _ => rfl
  | a :: rest, hmore => by
    obtain ⟨ha, hrest⟩ := List.cons_subset.1 hmore
    rw [List.foldl_cons, put_of_mem h ha, foldl_put_of_subset h hrest]

end Alias

theorem ModuleName.foldl_addNew_of_subset {names : List ModuleName} : ∀ {more : List ModuleName},
    more ⊆ names → more.foldl addNew names = names
  | [], _ => rfl
  | name :: rest, h => by
    obtain ⟨hname, hrest⟩ := List.cons_subset.1 h
    rw [List.foldl_cons, addNew, if_pos hname, foldl_addNew_of_subset hrest]

theorem ImportIndex.lookup_append_self (families : List Family) (name : String) :
    (ofFamilies (families ++ families)).lookup name = (ofFamilies families).lookup name := by
  rw [lookup_ofFamilies, lookup_ofFamilies, List.find?_append, Option.or_self]

/-! ## Replacers that run twice -/

namespace Replacer

variable {rs : List Replacer} {text : String}

theorem run_append : ∀ (rs ss : List Replacer) (text : String),
    run (rs ++ ss) text = run ss (run rs text)
  | [], _, _ => rfl
  | _ :: rest, ss, _ => run_append rest ss _

theorem hits_append_self : Hits (rs ++ rs) text ↔ Hits rs text := by
  simp only [hits_iff, List.mem_append, or_self]

theorem Settled.run_append_self (h : Settled rs text) : run (rs ++ rs) text = run rs text := by
  rw [run_append]
  exact h

theorem Settled.append_self (h : Settled rs text) : Settled (rs ++ rs) text := by
  have hagain : Settled rs (run rs text) := congrArg (run rs) h
  rw [Settled, h.run_append_self, hagain.run_append_self]
  exact h

end Replacer

namespace PatchBook

variable {engine : Engine} {patches more : List Patch} {book other both : PatchBook} {name : String}

theorem forModule_append (hb : buildWith engine patches = .ok book)
    (hother : buildWith engine more = .ok other)
    (hboth : buildWith engine (patches ++ more) = .ok both) (name : String) :
    both.forModule name = book.forModule name ++ other.forModule name := by
  have hrs := mapM_compileWith hboth name
  rw [List.filter_append, List.mapM_append, mapM_compileWith hb, mapM_compileWith hother] at hrs
  exact (Except.ok.inj hrs).symm

/-- Where a second run would change nothing, the patches may as well be declared twice. -/
theorem value_edit_append_self (hb : buildWith engine patches = .ok book)
    (hboth : buildWith engine (patches ++ patches) = .ok both) {source : String}
    (h : Replacer.Settled (book.forModule name) source) :
    (both.edit name source).value = (book.edit name source).value := by
  rw [value_edit, value_edit, forModule_append hb hb hboth]
  simp only [Replacer.hits_append_self, h.run_append_self, h.append_self, h, and_true]

end PatchBook

/-! ## Tables -/

namespace RuleTable

variable {table : RuleTable}

theorem value_overlay_self (h : (table.aliases.map Alias.source).Nodup) :
    (table.overlay table).value =
      { table with
        families := table.families ++ table.families
        patches := table.patches ++ table.patches } := by
  rw [value_overlay, Alias.foldl_put_of_subset h (List.Subset.refl _),
    ModuleName.foldl_addNew_of_subset (List.Subset.refl _)]

theorem records_overlay_self (h : (table.aliases.map Alias.source).Nodup) :
    (table.overlay table).records = [] := by
  have hnone : table.reroutings table = [] := by
    rw [List.eq_nil_iff_forall_not_mem]
    rintro ⟨b, a⟩ hr
    obtain ⟨hb, ha, hsource, htarget⟩ := (mem_reroutings_iff h).1 hr
    exact htarget (congrArg Alias.target (List.inj_on_of_nodup_map h hb ha hsource))
  rw [records_overlay h, hnone, List.map_nil]

theorem valid_overlay_self (h : table.Valid) : (table.overlay table).value.Valid := by
  rw [value_overlay_self h.distinct]
  have htwice : ∀ {α : Type} (l : List α), l ++ l ⊆ l := fun l =>
    List.append_subset.2 ⟨List.Subset.refl l, List.Subset.refl l⟩
  exact h.of_subset (htwice _) (htwice _) h.distinct

/-- A table that passes the check passes it over itself, with nothing to report. Its book then answers
as before about imports, aliases and silenced modules, and edits the sources of modules whose patches are
all literal as before. -/
theorem overlay_self (h : table.check = .ok ()) :
    (table.overlay table).value.check = .ok () ∧ (table.overlay table).records = [] ∧
      ∃ book twice, table.compile.outcome = .ok book ∧
        (table.overlay table).value.compile.outcome = .ok twice ∧
        (∀ name runtime, twice.imports name runtime = book.imports name runtime) ∧
        (∀ path, twice.target? path = book.target? path) ∧
        (∀ name, twice.isSilenced name = book.isSilenced name) ∧
        ∀ name, (∀ patch ∈ table.patches, patch.module.text = name → patch.mode = .literal) →
          ∀ source, (twice.patch name source).value = (book.patch name source).value := by
  have hvalid : table.Valid := check_eq_ok_iff_valid.1 h
  have hagain : (table.overlay table).value.check = .ok () :=
    check_eq_ok_iff_valid.2 (valid_overlay_self hvalid)
  have hvalue := value_overlay_self hvalid.distinct
  obtain ⟨patches, aliases, hpatches, haliases, hbook⟩ := outcome_compile h
  obtain ⟨patches', aliases', hpatches', haliases', htwice⟩ := outcome_compile hagain
  have htwice : (table.overlay table).value.compile.outcome = .ok
      ⟨.ofFamilies (table.families ++ table.families), patches', aliases',
        .ofList table.suppressed⟩ := htwice.trans (by rw [hvalue])
  rw [hvalue] at hpatches' haliases'
  refine ⟨hagain, records_overlay_self hvalid.distinct, _, _, hbook, htwice, ?_, ?_, fun _ => rfl, ?_⟩
  · exact fun name runtime =>
      ImportIndex.resolve_congr (ImportIndex.lookup_append_self table.families name) runtime
  · intro path
    rw [RuleBook.target?, RuleBook.target?, AliasTable.target?, AliasTable.target?, haliases,
      haliases']
  · exact fun name hlit source =>
      PatchBook.value_edit_append_self hpatches hpatches'
        (PatchBook.settled_of_literal hpatches hlit source)

/-- Rules of each kind, with a pattern that can match again what is left of its match. -/
def assorted : RuleTable where
  families := [{ pattern := .topLevel ["django"], companions := [.sibling "io" "core"] }]
  patches := [
    { module := ⟨"django", by decide⟩, find := "old", replace := "new" },
    { module := ⟨"jinja2", by decide⟩, find := "a(b)", replace := "$1", mode := .regex }]
  aliases := [⟨⟨"anydbm", by decide⟩, ⟨"dbm", by decide⟩⟩,
    ⟨⟨"md5", by decide⟩, ⟨"hashlib", by decide⟩⟩]
  suppressed := [⟨"readline", by decide⟩]

theorem overlay_self_assorted : assorted.check = .ok () ∧
    (assorted.overlay assorted).records = [] ∧
      (assorted.overlay assorted).value.patches.length = 4 ∧
      ∃ twice, (assorted.overlay assorted).value.compile.outcome = .ok twice ∧
        twice.target? "md5" = some "hashlib" ∧ twice.isSilenced "readline" = true ∧
        (twice.patch "django" "old oold").value = .changed "new onew" := by
  have hcheck : assorted.check = .ok () := check_eq_ok_iff.2 (by decide +kernel)
  have hlit : ∀ patch ∈ assorted.patches, patch.module.text = "django" → patch.mode = .literal := by
    decide +kernel
  obtain ⟨patches, aliases, hpatches, haliases, hcompile⟩ := outcome_compile hcheck
  obtain ⟨-, hrecords, book, twice, hbook, htwice, -, htarget, hsilenced, hpatch⟩ :=
    overlay_self hcheck
  rw [hbook] at hcompile
  cases hcompile
  have hmd5 : aliases.target? "md5" = some "hashlib" := by
    rw [AliasTable.target?, haliases]
    decide +kernel
  have hreadline : (Silenced.ofList assorted.suppressed).contains "readline" = true := by
    decide +kernel
  have hold : (patches.edit "django" "old oold").value = .changed "new onew" :=
    PatchBook.value_edit_of_map hpatches (by decide +kernel)
  exact ⟨hcheck, hrecords, by decide +kernel, twice, htwice, (htarget "md5").trans hmd5,
    (hsilenced "readline").trans hreadline, (hpatch "django" hlit "old oold").trans hold⟩

-- a pattern that takes two runs to settle is given up, unless it is declared twice
example :
    let patch : Patch :=
      { module := ⟨"lib", by decide⟩, find := "a(b)", replace := "$1", mode := .regex }
    ([patch].mapM Patch.compile).map (fun rs => (PatchBook.editWith rs "lib" "aab").value) =
        .ok .unchanged ∧
      ([patch, patch].mapM Patch.compile).map
        (fun rs => (PatchBook.editWith rs "lib" "aab").value) = .ok (.changed "b") := by
  decide +kernel

end RuleTable

end HiddenImports
