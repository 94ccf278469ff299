import Mathlib.Logic.Basic
import HiddenImports.Proofs.Acceptance

/-!
# Runs of replacers

A run hands a text from one replacer to the next. It changes something only if a replacer finds
something, and the first one to do so finds it in the source itself (`hits_iff`). So `editAll` is the
text of the run or nothing (`editAll_eq`), and a book keeps the run that a second run would not
change (`value_edit`). That alone makes a book idempotent, whatever its patterns do.
-/

namespace HiddenImports

@[simp] theorem Edit.apply_unchanged (source : String) : unchanged.apply source = source := rfl

@[simp] theorem Edit.apply_changed (source text : String) : (changed text).apply source = text := rfl

namespace Replacer

/-- The text after the replacers have run one after the other. -/
def run : List Replacer → String → String
  | [], text => text
  | r :: rest, text => run rest ((r.edit text).apply text)

/-- Some replacer finds something on its turn in the run. -/
def Hits : List Replacer → String → Prop
  | [], _ => False
  | r :: rest, text => r.edit text ≠ .unchanged ∨ Hits rest ((r.edit text).apply text)

instance : ∀ (rs : List Replacer) (text : String), Decidable (Hits rs text)
  | [], _ => inferInstanceAs (Decidable False)
  | r :: rest, text =>
    have := instDecidableHits rest ((r.edit text).apply text)
    inferInstanceAs (Decidable (r.edit text ≠ .unchanged ∨ Hits rest ((r.edit text).apply text)))

/-- A second run does not change the text of the first. -/
def Settled (rs : List Replacer) (text : String) : Prop :=
  run rs (run rs text) = run rs text

instance (rs : List Replacer) (text : String) : Decidable (Settled rs text) :=
  inferInstanceAs (Decidable (run rs (run rs text) = run rs text))

theorem run_of_not_hits : ∀ {rs : List Replacer} {text : String}, ¬ Hits rs text →
    run rs text = text
  | [], _, _ => rfl
  | r :: rest, text, h => by
    have hr : r.edit text = .unchanged := by
      by_contra hr
      exact h (.inl hr)
    have hrest : ¬ Hits rest ((r.edit text).apply text) := fun hrest => h (.inr hrest)
    rw [hr] at hrest
    rw [run, hr]
    exact run_of_not_hits hrest

/-- The first replacer to find something finds it in the source, which no other has changed. -/
theorem hits_iff : ∀ {rs : List Replacer} {text : String},
    Hits rs text ↔ ∃ r ∈ rs, r.edit text ≠ .unchanged
  | [], text => by simp [Hits]
  | r :: rest, text => by
    rw [Hits]
    by_cases hr : r.edit text = .unchanged
    · rw [hr, Edit.apply_unchanged, hits_iff]
      simp [hr]
    · simp [hr]

theorem foldl_editAfter (source : String) : ∀ (rs : List Replacer) (earlier : Edit),
    rs.foldl (editAfter source) earlier =
      if Hits rs (earlier.apply source) then .changed (run rs (earlier.apply source)) else earlier
  | [], earlier => by simp [Hits]
  | r :: rest, earlier => by
    rw [List.foldl_cons, foldl_editAfter source rest, editAfter, run]
    rcases hr : r.edit (earlier.apply source) with _ | text
    · simp [Hits, hr]
    · rw [if_pos (show Hits (r :: rest) (earlier.apply source) from .inl (by simp [hr]))]
      rw [Edit.apply_changed, Edit.apply_changed]
      by_cases h : Hits rest text
      · rw [if_pos h]
      · rw [if_neg h, run_of_not_hits h]

theorem editAll_eq (rs : List Replacer) (source : String) :
    editAll rs source = if Hits rs source then .changed (run rs source) else .unchanged :=
  foldl_editAfter source rs .unchanged

theorem editAll_eq_unchanged_iff {rs : List Replacer} {source : String} :
    editAll rs source = .unchanged ↔ ¬ Hits rs source := by
  rw [editAll_eq]
  split <;> simp_all

@[simp] theorem apply_editAll (rs : List Replacer) (source : String) :
    (editAll rs source).apply source = run rs source := by
  rw [editAll_eq]
  split
  · rfl
  · rename_i h
    rw [run_of_not_hits h, Edit.apply_unchanged]

end Replacer

namespace PatchBook

open Replacer

section

variable (book : PatchBook) (name source : String)

/-- A run that finds nothing, one that is kept and one that is given up, with their records. -/
theorem edit_cases :
    (¬ Hits (book.forModule name) source ∧ (book.edit name source).value = .unchanged ∧
        ∀ record ∈ (book.edit name source).records, record.level = .debug)
      ∨ (Hits (book.forModule name) source ∧ Settled (book.forModule name) source ∧
          book.edit name source = pure (.changed (run (book.forModule name) source)))
      ∨ (Hits (book.forModule name) source ∧ ¬ Settled (book.forModule name) source ∧
          (book.edit name source).value = .unchanged ∧
          ∃ record ∈ (book.edit name source).records, record.level = .warn) := by
  by_cases hnil : book.forModule name = []
  · rw [edit_of_eq_nil hnil]
    simp [hnil, Hits]
  · rw [edit_of_ne_nil hnil]
    unfold editWith Settled
    rw [editAll_eq]
    by_cases h : Hits (book.forModule name) source
    · by_cases hr : run (book.forModule name) (run (book.forModule name) source) =
          run (book.forModule name) source
      · simp [h, hr]
      · simp [h, hr]
    · simp [h]

/-- The book keeps the run of a module's replacers if a second run would not change its text. -/
theorem value_edit :
    (book.edit name source).value =
      if Hits (book.forModule name) source ∧ Settled (book.forModule name) source
      then .changed (run (book.forModule name) source) else .unchanged := by
  rcases edit_cases book name source with ⟨h, hv, -⟩ | ⟨h, hr, he⟩ | ⟨-, hr, hv, -⟩
  · rw [hv, if_neg (fun hc => h hc.1)]
  · rw [he, if_pos ⟨h, hr⟩, Logged.value_pure]
  · rw [hv, if_neg (fun hc => hr hc.2)]

theorem value_edit_eq_unchanged_iff : (book.edit name source).value = .unchanged ↔
    ¬ Hits (book.forModule name) source ∨ ¬ Settled (book.forModule name) source := by
  rw [value_edit]
  split
  · rename_i h
    simp [h]
  · rename_i h
    simpa only [true_iff] using not_and_or.1 h

/-- A run that a second one would not change is kept without a warning. -/
theorem level_ne_warn_of_settled (hr : Settled (book.forModule name) source) :
    ∀ record ∈ (book.edit name source).records, record.level ≠ .warn := by
  intro record hrecord
  rcases edit_cases book name source with ⟨-, -, hdebug⟩ | ⟨-, -, he⟩ | ⟨-, hne, -, -⟩
  · rw [hdebug record hrecord]
    decide
  · rw [he] at hrecord
    cases hrecord
  · exact absurd hr hne

end

/-- What an edit comes to can be got from the patches of the module, without the book. -/
theorem value_edit_of_map {engine : Engine} {patches : List Patch} {book : PatchBook}
    {name source : String} {e : Edit} (hb : buildWith engine patches = .ok book)
    (h : ((patches.filter (·.module.text == name)).mapM (Patch.compileWith engine)).map
      (fun rs => (editWith rs name source).value) = .ok e) :
    (book.edit name source).value = e := by
  rw [map_mapM_compileWith hb, Except.ok.injEq] at h
  rw [← h]
  by_cases hnil : book.forModule name = []
  · rw [edit_of_eq_nil hnil, hnil]
    rfl
  · rw [edit_of_ne_nil hnil]

/-- The source of a module as the book leaves it. -/
def patched (book : PatchBook) (name source : String) : String :=
  (book.edit name source).value.apply source

theorem patched_of_settled {book : PatchBook} {name source : String}
    (h : Settled (book.forModule name) source) :
    book.patched name source = run (book.forModule name) source := by
  rw [patched, value_edit]
  by_cases hhits : Hits (book.forModule name) source
  · rw [if_pos ⟨hhits, h⟩, Edit.apply_changed]
  · rw [if_neg (fun hc => hhits hc.1), Edit.apply_unchanged, run_of_not_hits hhits]

theorem patched_of_run_eq {book : PatchBook} {name text : String}
    (h : run (book.forModule name) text = text) : book.patched name text = text := by
  rw [patched, value_edit]
  split
  · exact h
  · rfl

/-- A book leaves a source as it is, or puts in its place the run of the module's patches in the order
of declaration, which a second run does not change. So editing twice is editing once. The engine may
be any: nothing is asked of what its patterns match or put in. -/
theorem edit_idem {engine : Engine} {patches : List Patch} {book : PatchBook}
    (hb : buildWith engine patches = .ok book) (name source : String) :
    ∃ rs, (patches.filter (·.module.text == name)).mapM (Patch.compileWith engine) = .ok rs ∧
      book.patched name (book.patched name source) = book.patched name source ∧
      ((book.edit name source).value = .unchanged ∨
        (book.edit name source).value = .changed (run rs source) ∧
          run rs (run rs source) = run rs source) ∧
      ((book.edit name source).value = .unchanged ↔
        ¬ Hits rs source ∨ run rs (run rs source) ≠ run rs source) := by
  refine ⟨book.forModule name, mapM_compileWith hb name, ?_, ?_,
    value_edit_eq_unchanged_iff book name source⟩
  · by_cases h : Hits (book.forModule name) source ∧ Settled (book.forModule name) source
    · have hp : book.patched name source = run (book.forModule name) source := by
        rw [patched, value_edit, if_pos h, Edit.apply_changed]
      rw [hp]
      exact patched_of_run_eq h.2
    · have hp : book.patched name source = source := by
        rw [patched, value_edit, if_neg h, Edit.apply_unchanged]
      rw [hp, hp]
  · rw [value_edit]
    split
    · rename_i h
      exact .inr ⟨rfl, h.2⟩
    · exact .inl rfl

/-- A literal patch, and a pattern whose template matches only once its groups are filled in. -/
def growing : List Patch := [
  { module := ⟨"pkg", by decide +kernel⟩, find := "old", replace := "new" },
  { module := ⟨"pkg", by decide +kernel⟩, find := "a(b)", replace := "a$1$1", mode := .regex }]

/-- The pattern would add to its own match in every run, so the whole run is given up. -/
theorem edit_idem_growing : ∃ book rs, build growing = .ok book ∧
    growing.mapM (Patch.compileWith Regex.engine) = .ok rs ∧ Hits rs "xab old" ∧
      (book.edit "pkg" "xab old").value = .unchanged ∧
      run rs (run rs "xab old") ≠ run rs "xab old" := by
  obtain ⟨book, hb⟩ : ∃ book, build growing = .ok book := by decide +kernel
  have hvalue : (book.edit "pkg" "xab old").value = .unchanged :=
    value_edit_of_map hb (by decide +kernel)
  have hhits : (growing.mapM (Patch.compileWith Regex.engine)).map
      (fun rs => decide (Hits rs "xab old")) = .ok true := by decide +kernel
  obtain ⟨rs, hrs, -, -, hiff⟩ := edit_idem hb "pkg" "xab old"
  have hall : growing.filter (·.module.text == "pkg") = growing := by decide +kernel
  rw [hall] at hrs
  rw [hrs] at hhits
  simp only [Except.map, Except.ok.injEq, decide_eq_true_eq] at hhits
  exact ⟨book, rs, hb, hrs, hhits, hvalue, (hiff.1 hvalue).resolve_left (not_not_intro hhits)⟩

end PatchBook

end HiddenImports
