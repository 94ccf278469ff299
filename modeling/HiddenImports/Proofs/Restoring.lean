import HiddenImports.Plugin
import HiddenImports.Proofs.LiteralRun

/-!
# Runs that put back what they found

Whether an edit counts as one is decided by what was found, not by what became of the text. The two
come apart just for a run that finds something and ends in the source itself (`Restores`): its result
is passed on as an edit although nothing is modified (`edit_of_restores_iff`). Literal replacers never
do that, since a run of theirs leaves nothing that they find (`Inert.not_restores`).
-/

namespace HiddenImports

/-- Some replacer finds something in the source, and the run ends in the source again. -/
def Replacer.Restores (rs : List Replacer) (source : String) : Prop :=
  Hits rs source ∧ run rs source = source

theorem Replacer.Inert.not_restores {rs : List Replacer} (h : Inert rs) (source : String) :
    ¬ Restores rs source := by
  rintro ⟨hhits, hrun⟩
  have hquiet := h.not_hits_run source
  rw [hrun] at hquiet
  exact hquiet hhits

namespace PatchBook

open Replacer

section

variable (book : PatchBook) (name source : String)

/-- A run that ends in the source is settled, so the book passes it on as an edit if something was
found on the way. -/
theorem value_edit_eq_changed_self_iff :
    (book.edit name source).value = .changed source ↔ Restores (book.forModule name) source := by
  rw [value_edit, Restores]
  constructor
  · intro h
    split at h
    · rename_i hkept
      exact ⟨hkept.1, by simpa using h⟩
    · cases h
  · rintro ⟨hhits, hrun⟩
    have hsettled : Settled (book.forModule name) source := by rw [Settled, hrun, hrun]
    rw [if_pos ⟨hhits, hsettled⟩, hrun]

/-- A source is left as it is if there is no edit, or one that restores it. -/
theorem patched_eq_self_iff : book.patched name source = source ↔
    (book.edit name source).value = .unchanged ∨ Restores (book.forModule name) source := by
  rw [← value_edit_eq_changed_self_iff, patched]
  rcases (book.edit name source).value with _ | text <;> simp

/-- An edit is made without records. -/
theorem edit_eq_pure_of_changed {text : String} (h : (book.edit name source).value = .changed text) :
    book.edit name source = pure (.changed text) := by
  rcases edit_cases book name source with ⟨-, hv, -⟩ | ⟨-, -, he⟩ | ⟨-, -, hv, -⟩
  · rw [hv] at h
    cases h
  · rw [he, Logged.value_pure] at h
    rw [he, h]
  · rw [hv] at h
    cases h

end

end PatchBook

namespace Plugin

variable (plugin : Plugin) (name source : String)

theorem value_patch :
    (plugin.patch name source).value = (plugin.book.patches.edit name source).value := by
  unfold patch RuleBook.patch
  rw [Logged.value_bind]
  rcases (plugin.book.patches.edit name source).value with _ | text <;> rfl

theorem records_patch_of_changed {text : String}
    (h : (plugin.book.patches.edit name source).value = .changed text) :
    (plugin.patch name source).records = [⟨.debug, s!"Patched source of module {name}"⟩] := by
  unfold patch RuleBook.patch
  rw [PatchBook.edit_eq_pure_of_changed _ _ _ h]
  rfl

end Plugin

namespace PatchBook

open Replacer

variable {engine : Engine} {patches : List Patch} {book : PatchBook}

/-- There is no edit exactly if the source is not modified, unless the run restores the source; then
it is passed on as an edit and a plugin records that the source was patched. A module with literal
patches alone has no such run. -/
theorem edit_of_restores_iff (hb : buildWith engine patches = .ok book) (name source : String) :
    ∃ rs, (patches.filter (·.module.text == name)).mapM (Patch.compileWith engine) = .ok rs ∧
      (((book.edit name source).value = .unchanged ↔ book.patched name source = source) ↔
        ¬ Restores rs source) ∧
      ((book.edit name source).value = .changed source ↔ Restores rs source) ∧
      ((∀ patch ∈ patches, patch.module.text = name → patch.mode = .literal) →
        ¬ Restores rs source) ∧
      ∀ plugin : Plugin, plugin.book.patches = book →
        (plugin.patch name source).value = (book.edit name source).value ∧
        ∀ text, (book.edit name source).value = .changed text →
          (plugin.patch name source).records = [⟨.debug, s!"Patched source of module {name}"⟩] := by
  refine ⟨book.forModule name, mapM_compileWith hb name, ?_, value_edit_eq_changed_self_iff _ _ _,
    fun hlit => (inert_forModule hb hlit).not_restores source, ?_⟩
  · have hself := value_edit_eq_changed_self_iff book name source
    rw [patched_eq_self_iff]
    by_cases hr : Restores (book.forModule name) source
    · simp [hr, hself.2 hr]
    · simp [hr]
  · rintro plugin rfl
    exact ⟨plugin.value_patch name source, fun _ h => plugin.records_patch_of_changed name source h⟩

/-- A pattern whose template puts back the whole match. -/
def restoring : List Patch := [
  { module := ⟨"lib", by decide +kernel⟩, find := "a(b)", replace := "a$1", mode := .regex }]

theorem value_edit_restoring : ∃ book, build restoring = .ok book ∧
    (book.edit "lib" "xab").value = .changed "xab" := by
  obtain ⟨book, hb⟩ : ∃ book, build restoring = .ok book := by decide +kernel
  exact ⟨book, hb, value_edit_of_map hb (by decide +kernel)⟩

/-- The source comes back as it was, but as an edit. -/
theorem edit_ne_unchanged_restoring : ∃ book, build restoring = .ok book ∧
    ¬ ((book.edit "lib" "xab").value = .unchanged ↔ book.patched "lib" "xab" = "xab") := by
  obtain ⟨book, hb, hvalue⟩ := value_edit_restoring
  refine ⟨book, hb, ?_⟩
  simp [patched, hvalue]

theorem edit_of_restores_iff_restoring : ∃ book rs, build restoring = .ok book ∧
    restoring.mapM (Patch.compileWith Regex.engine) = .ok rs ∧ Restores rs "xab" ∧
      (book.edit "lib" "xab").value = .changed "xab" ∧
      ((⟨.own ⟨{}, book, {}, {}⟩, {}⟩ : Plugin).patch "lib" "xab").records =
        [⟨.debug, "Patched source of module lib"⟩] := by
  obtain ⟨book, hb, hvalue⟩ := value_edit_restoring
  obtain ⟨rs, hrs, -, hiff, -, hplugin⟩ := edit_of_restores_iff hb "lib" "xab"
  have hall : restoring.filter (·.module.text == "lib") = restoring := by decide +kernel
  rw [hall] at hrs
  obtain ⟨-, hrecords⟩ := hplugin ⟨.own ⟨{}, book, {}, {}⟩, {}⟩ rfl
  exact ⟨book, rs, hb, hrs, hiff.1 hvalue, hvalue, hrecords "xab" hvalue⟩

end PatchBook

end HiddenImports
