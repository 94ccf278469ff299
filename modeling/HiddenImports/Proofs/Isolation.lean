import HiddenImports.Proofs.Run
import HiddenImports.Proofs.Validity

/-!
# Modules keep to themselves

The patches of all modules are declared in one list, but each module has to do with its own alone. A
list is accepted just if the patches of every module are accepted by themselves
(`exists_buildWith_iff_forall_filter`), and the replacers of a module come from its own patches. So lists
that have the same patches for each module, in the same order, make books that edit alike, wherever the
patches of other modules stand among them (`edit_isolated`).
-/

namespace HiddenImports.PatchBook

variable {engine : Engine} {patches other : List Patch} {book book' : PatchBook}

/-- Every module has the same patches in the same order. -/
def Rearranges (patches other : List Patch) : Prop :=
  ∀ name, other.filter (·.module.text == name) = patches.filter (·.module.text == name)

theorem rearranges_swap {p q : Patch} (h : p.module.text ≠ q.module.text)
    (before after : List Patch) :
    Rearranges (before ++ p :: q :: after) (before ++ q :: p :: after) := by
  intro name
  rw [List.filter_append, List.filter_append]
  congr 1
  by_cases hp : p.module.text = name
  · have hq : q.module.text ≠ name := fun hq => h (hp.trans hq.symm)
    simp [hp, hq]
  · by_cases hq : q.module.text = name <;> simp [hp, hq]

theorem mem_filter_own {patch : Patch} (h : patch ∈ patches) :
    patch ∈ patches.filter (·.module.text == patch.module.text) :=
  List.mem_filter.2 ⟨h, beq_self_eq_true _⟩

/-- Acceptance is decided module by module, since patches are held against those of their own module
only. -/
theorem exists_buildWith_iff_forall_filter : (∃ book, buildWith engine patches = .ok book) ↔
    ∀ name, ∃ own, buildWith engine (patches.filter (·.module.text == name)) = .ok own := by
  constructor
  · rintro ⟨book, hb⟩ name
    obtain ⟨own, hown, -⟩ := buildWith_filter hb name
    exact ⟨own, hown⟩
  · intro hall
    refine exists_buildWith_iff.2 ⟨fun patch hpatch => ?_, fun p hp q hq hpq => ?_⟩
    · obtain ⟨husable, -⟩ := exists_buildWith_iff.1 (hall patch.module.text)
      exact husable patch (mem_filter_own hpatch)
    · obtain ⟨-, hapart⟩ := exists_buildWith_iff.1 (hall p.module.text)
      have hq' : q ∈ patches.filter (·.module.text == p.module.text) := by
        rw [hpq]
        exact mem_filter_own hq
      exact hapart p (mem_filter_own hp) q hq' hpq

theorem exists_buildWith_of_rearranges (hb : buildWith engine patches = .ok book)
    (h : Rearranges patches other) : ∃ book', buildWith engine other = .ok book' := by
  rw [exists_buildWith_iff_forall_filter]
  intro name
  rw [h name]
  exact exists_buildWith_iff_forall_filter.1 ⟨book, hb⟩ name

/-- The replacers of a module are made of its own patches. -/
theorem forModule_congr {name : String} (hb : buildWith engine patches = .ok book)
    (hb' : buildWith engine other = .ok book')
    (h : other.filter (·.module.text == name) = patches.filter (·.module.text == name)) :
    book'.forModule name = book.forModule name := by
  have hrs := mapM_compileWith hb name
  rw [← h, mapM_compileWith hb' name] at hrs
  exact Except.ok.inj hrs

/-- A list is accepted just if the patches of every module are accepted by themselves, and the book of
these edits the sources of the module as the whole book does. Patches of different modules may change
places, and a module without patches keeps its sources as they are. -/
theorem edit_isolated (engine : Engine) (patches : List Patch) :
    ((∃ book, buildWith engine patches = .ok book) ↔
      ∀ name, ∃ own, buildWith engine (patches.filter (·.module.text == name)) = .ok own) ∧
    ∀ book, buildWith engine patches = .ok book →
      (∀ name, ∃ own, buildWith engine (patches.filter (·.module.text == name)) = .ok own ∧
        ∀ source, own.edit name source = book.edit name source) ∧
      (∀ other, Rearranges patches other → ∃ book', buildWith engine other = .ok book' ∧
        ∀ name source, book'.edit name source = book.edit name source) ∧
      ∀ name, (∀ patch ∈ patches, patch.module.text ≠ name) →
        ∀ source, book.edit name source = pure .unchanged := by
  refine ⟨exists_buildWith_iff_forall_filter, fun book hb => ⟨?_, ?_, ?_⟩⟩
  · intro name
    obtain ⟨own, hown, hsame⟩ := buildWith_filter hb name
    exact ⟨own, hown, edit_congr hsame⟩
  · intro other hother
    obtain ⟨book', hb'⟩ := exists_buildWith_of_rearranges hb hother
    exact ⟨book', hb', fun name => edit_congr (forModule_congr hb hb' (hother name))⟩
  · exact fun name hnone => edit_of_ne hb hnone

/-- Patches of `numpy`, and between them one of `scipy` that would take up what the first one puts in. -/
def mixed : List Patch := [
  { module := ⟨"numpy", by decide⟩, find := "a", replace := "b" },
  { module := ⟨"scipy", by decide⟩, find := "b", replace := "c" },
  { module := ⟨"numpy", by decide⟩, find := "x(y)", replace := "z", mode := .regex }]

/-- The same with the patch of `scipy` in front. -/
def parted : List Patch := [
  { module := ⟨"scipy", by decide⟩, find := "b", replace := "c" },
  { module := ⟨"numpy", by decide⟩, find := "a", replace := "b" },
  { module := ⟨"numpy", by decide⟩, find := "x(y)", replace := "z", mode := .regex }]

theorem edit_isolated_mixed : ∃ book own book', build mixed = .ok book ∧
    build (mixed.filter (·.module.text == "numpy")) = .ok own ∧ build parted = .ok book' ∧
      (book.edit "numpy" "axy").value = .changed "bz" ∧ (own.edit "numpy" "axy").value = .changed "bz" ∧
      (book'.edit "numpy" "axy").value = .changed "bz" ∧ book.edit "k" "axy" = pure .unchanged := by
  obtain ⟨book, hb⟩ : ∃ book, build mixed = .ok book := by decide +kernel
  have hvalue : (book.edit "numpy" "axy").value = .changed "bz" :=
    value_edit_of_map hb (by decide +kernel)
  obtain ⟨-, hisolated⟩ := edit_isolated Regex.engine mixed
  obtain ⟨hown, hother, hnone⟩ := hisolated book hb
  obtain ⟨own, hown, hsame⟩ := hown "numpy"
  have hswap : Rearranges mixed parted := rearranges_swap (by decide) [] _
  obtain ⟨book', hb', hsame'⟩ := hother parted hswap
  have habsent : ∀ patch ∈ mixed, patch.module.text ≠ "k" := by decide +kernel
  refine ⟨book, own, book', hb, hown, hb', hvalue, ?_, ?_, hnone "k" habsent "axy"⟩
  · rw [hsame, hvalue]
  · rw [hsame', hvalue]

end HiddenImports.PatchBook
