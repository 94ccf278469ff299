import HiddenImports.Proofs.Acceptance
import HiddenImports.Proofs.Occurrence
import HiddenImports.Proofs.Run

/-!
# Runs of literal replacers

A replacement that passes the check overlaps no occurrence of a search text (`mayRecreate_iff`). So
where the literal replacers of a module were accepted together, replacing brings no search text about
(`Replacer.Inert`), and one run leaves none (`Inert.not_hits_run`).
-/

namespace HiddenImports

/-- The check is exact: it asks whether the search text can overlap the insertion. -/
theorem mayRecreate_iff {find inserted : List Char} (hf : find ≠ []) :
    mayRecreate find inserted = true ↔ Text.Overlaps find inserted := by
  have hpos := List.length_pos_iff.2 hf
  simp only [mayRecreate, Bool.or_eq_true, Bool.and_eq_true, Text.contains_iff, decide_eq_true_eq,
    List.any_eq_true, List.mem_range'_1, List.isPrefixOf_iff_prefix, List.isSuffixOf_iff_suffix,
    or_assoc]
  constructor
  · rintro (h | ⟨-, h⟩ | ⟨k, ⟨hk, hlt⟩, h⟩)
    · exact .inl h
    · exact .inr (.inl h)
    · refine .inr (.inr ⟨find.take k, find.drop k, ?_, ?_, by simp, h.symm⟩)
      · rw [← List.length_pos_iff, List.length_take]
        omega
      · rw [← List.length_pos_iff, List.length_drop]
        omega
  · rintro (h | h | ⟨l, r, hl, hr, rfl, h⟩)
    · exact .inl h
    · by_cases hlen : inserted.length < find.length
      · exact .inr (.inl ⟨hlen, h⟩)
      · have heq := h.eq_of_length_le (by omega)
        rw [heq]
        exact .inl (Text.occurs_refl find)
    · refine .inr (.inr ⟨l.length, ?_, by simpa using h.symm⟩)
      rw [← List.length_pos_iff] at hl hr
      simp only [List.length_append]
      omega

namespace Replacer

/-! ## One literal replacer -/

theorem edit_literal_eq_unchanged_iff {find replace text : String} :
    (literal find replace).edit text = .unchanged ↔ ¬ Text.Occurs find.toList text.toList := by
  rw [edit, ← Text.contains_iff]
  split <;> simp_all

theorem toList_apply_edit_literal (find replace text : String) :
    (((literal find replace).edit text).apply text).toList =
      Text.replaceAll find.toList replace.toList text.toList := by
  rw [edit]
  split
  · simp
  · rename_i h
    rw [Text.contains_iff] at h
    rw [Text.replaceAll_of_not_occurs _ _ h, Edit.apply_unchanged]

/-! ## Replacers that set nothing off -/

/-- No replacer brings about what another one finds, and none leaves what it finds itself. -/
structure Inert (rs : List Replacer) : Prop where
  keeps : ∀ r ∈ rs, ∀ s ∈ rs, ∀ text, s.edit text = .unchanged →
    s.edit ((r.edit text).apply text) = .unchanged
  settles : ∀ r ∈ rs, ∀ text, r.edit ((r.edit text).apply text) = .unchanged

variable {rs : List Replacer}

theorem Inert.keeps_run (h : Inert rs) {s : Replacer} (hs : s ∈ rs) :
    ∀ {part : List Replacer} {text : String}, (∀ r ∈ part, r ∈ rs) →
      s.edit text = .unchanged → s.edit (run part text) = .unchanged
  | [], _, _, ht => ht
  | r :: part, text, hpart, ht => by
    have hrest : ∀ r' ∈ part, r' ∈ rs := fun r' hr' => hpart r' (List.mem_cons_of_mem _ hr')
    rw [run]
    exact h.keeps_run hs hrest (h.keeps r (hpart r (by simp)) s hs text ht)

theorem Inert.edit_run (h : Inert rs) : ∀ {part : List Replacer} {text : String},
    (∀ r ∈ part, r ∈ rs) → ∀ s ∈ part, s.edit (run part text) = .unchanged
  | [], _, _, _, hs => absurd hs List.not_mem_nil
  | r :: part, text, hpart, s, hs => by
    have hrest : ∀ r' ∈ part, r' ∈ rs := fun r' hr' => hpart r' (List.mem_cons_of_mem _ hr')
    rw [run]
    rcases List.mem_cons.1 hs with rfl | hs
    · exact h.keeps_run (hpart s (by simp)) hrest (h.settles s (hpart s (by simp)) text)
    · exact h.edit_run hrest s hs

/-- A run leaves nothing to find. -/
theorem Inert.not_hits_run (h : Inert rs) (text : String) : ¬ Hits rs (run rs text) := by
  rw [hits_iff]
  rintro ⟨r, hr, hedit⟩
  exact hedit (h.edit_run (fun _ hr => hr) r hr)

end Replacer

/-! ## The literal patches of a module -/

namespace PatchBook

variable {engine : Engine} {patches : List Patch} {book : PatchBook} {name : String}

section

variable (hb : buildWith engine patches = .ok book)
  (hlit : ∀ patch ∈ patches, patch.module.text = name → patch.mode = .literal)

include hb hlit

theorem literal_of_mem_forModule {r : Replacer} (hr : r ∈ book.forModule name) :
    ∃ patch ∈ patches, patch.module.text = name ∧ patch.find.toList ≠ [] ∧
      r = .literal patch.find patch.replace := by
  obtain ⟨patch, hpatch, hcomp⟩ := forall₂_exists_left (forall₂_forModule hb name) hr
  simp only [List.mem_filter, beq_iff_eq] at hpatch
  obtain ⟨hmem, hname⟩ := hpatch
  obtain ⟨hfind, hrep, -⟩ := Patch.compileWith_eq_ok_iff.1 hcomp
  simp only [Patch.replacer, hlit patch hmem hname, Except.ok.injEq] at hrep
  exact ⟨patch, hmem, hname, by simpa using hfind, hrep.symm⟩

theorem literal_mem_forModule {patch : Patch} (hmem : patch ∈ patches)
    (hname : patch.module.text = name) : .literal patch.find patch.replace ∈ book.forModule name := by
  have hfilter : patch ∈ patches.filter (·.module.text == name) := by simp [hmem, hname]
  obtain ⟨r, hr, hcomp⟩ := forall₂_exists_right (forall₂_forModule hb name) hfilter
  obtain ⟨-, hrep, -⟩ := Patch.compileWith_eq_ok_iff.1 hcomp
  simp only [Patch.replacer, hlit patch hmem hname, Except.ok.injEq] at hrep
  rw [hrep]
  exact hr

/-- No replacement of the module overlaps a search text of it, its own included. -/
theorem not_overlaps {p q : Patch} (hp : p ∈ patches) (hpn : p.module.text = name)
    (hq : q ∈ patches) (hqn : q.module.text = name) :
    ¬ Text.Overlaps p.find.toList q.replace.toList := by
  have hr := literal_mem_forModule hb hlit hp hpn
  have hs := literal_mem_forModule hb hlit hq hqn
  intro ho
  have := mayRematch_eq_false hb hr hs
  rw [Replacer.mayRematch, Replacer.replacement, (mayRecreate_iff (find_ne_nil hb hp)).2 ho] at this
  cases this

theorem inert_forModule : Replacer.Inert (book.forModule name) := by
  constructor
  case keeps =>
    intro r hr s hs text ht
    obtain ⟨p, hp, hpn, hpf, rfl⟩ := literal_of_mem_forModule hb hlit hr
    obtain ⟨q, hq, hqn, hqf, rfl⟩ := literal_of_mem_forModule hb hlit hs
    have hapart := not_overlaps hb hlit hq hqn hp hpn
    rw [Replacer.edit_literal_eq_unchanged_iff] at ht ⊢
    rw [Replacer.toList_apply_edit_literal]
    exact fun ho => ht (Text.occurs_of_occurs_replaceAll hpf hqf hapart ho)
  case settles =>
    intro r hr text
    obtain ⟨p, hp, hpn, hpf, rfl⟩ := literal_of_mem_forModule hb hlit hr
    rw [Replacer.edit_literal_eq_unchanged_iff, Replacer.toList_apply_edit_literal]
    exact Text.not_occurs_replaceAll hpf (not_overlaps hb hlit hp hpn hp hpn) _

/-- The literal replacers of a module find something in a text exactly if it holds one of the search
texts. -/
theorem hits_forModule_iff {text : String} : Replacer.Hits (book.forModule name) text ↔
      ∃ patch ∈ patches, patch.module.text = name ∧ Text.Occurs patch.find.toList text.toList := by
  rw [Replacer.hits_iff]
  constructor
  · rintro ⟨r, hr, hedit⟩
    obtain ⟨patch, hmem, hname, -, rfl⟩ := literal_of_mem_forModule hb hlit hr
    rw [ne_eq, Replacer.edit_literal_eq_unchanged_iff, not_not] at hedit
    exact ⟨patch, hmem, hname, hedit⟩
  · rintro ⟨patch, hmem, hname, ho⟩
    refine ⟨_, literal_mem_forModule hb hlit hmem hname, ?_⟩
    rw [ne_eq, Replacer.edit_literal_eq_unchanged_iff, not_not]
    exact ho

end

theorem settled_of_literal (hb : buildWith engine patches = .ok book)
    (hlit : ∀ patch ∈ patches, patch.module.text = name → patch.mode = .literal) (source : String) :
    Replacer.Settled (book.forModule name) source :=
  Replacer.run_of_not_hits ((inert_forModule hb hlit).not_hits_run source)

/-- Where all patches of a module are literal, one run over its source leaves no search text, a second
one finds nothing, and the book keeps the run without a warning. -/
theorem edit_of_literal (hb : buildWith engine patches = .ok book) (name : String)
    (hlit : ∀ patch ∈ patches, patch.module.text = name → patch.mode = .literal)
    (source : String) :
    (∀ patch ∈ patches, patch.module.text = name → ¬ Text.Occurs patch.find.toList
        ((Replacer.editAll (book.forModule name) source).apply source).toList) ∧
      Replacer.editAll (book.forModule name)
        ((Replacer.editAll (book.forModule name) source).apply source) = .unchanged ∧
      (∀ record ∈ (book.edit name source).records, record.level ≠ .warn) ∧
      (book.edit name source).value = Replacer.editAll (book.forModule name) source ∧
      ((book.edit name source).value = .unchanged ↔
        ∀ patch ∈ patches, patch.module.text = name →
          ¬ Text.Occurs patch.find.toList source.toList) := by
  have hquiet := (inert_forModule hb hlit).not_hits_run source
  have hagain : Replacer.Settled (book.forModule name) source := Replacer.run_of_not_hits hquiet
  have hvalue : (book.edit name source).value = Replacer.editAll (book.forModule name) source := by
    rw [value_edit, Replacer.editAll_eq]
    simp only [hagain, and_true]
  refine ⟨?_, ?_, level_ne_warn_of_settled book name source hagain, hvalue, ?_⟩
  · intro patch hmem hname ho
    rw [Replacer.apply_editAll] at ho
    exact hquiet ((hits_forModule_iff hb hlit).2 ⟨patch, hmem, hname, ho⟩)
  · rw [Replacer.apply_editAll, Replacer.editAll_eq_unchanged_iff]
    exact hquiet
  · rw [hvalue, Replacer.editAll_eq_unchanged_iff, hits_forModule_iff hb hlit]
    simp only [not_exists, not_and]

theorem isModuleName_pkg : IsModuleName "pkg" := by decide +kernel

/-- Two literal patches of one module, and one of another whose replacement holds a search text of the
first. -/
def renames : List Patch := [
  { module := ⟨"pkg", isModuleName_pkg⟩, find := "foo()", replace := "bar()" },
  { module := ⟨"pkg", isModuleName_pkg⟩, find := "old", replace := "new" },
  { module := ⟨"pkg.sub", by decide +kernel⟩, find := "stale", replace := "an old one" }]

theorem edit_of_literal_renames : ∃ book, build renames = .ok book ∧
    (∀ patch ∈ renames, patch.module.text = "pkg" → patch.mode = .literal) ∧
      (book.edit "pkg" "ffoo()) oold").value = .changed "fbar()) onew" ∧
      (book.edit "pkg" "fbar()) onew").value = .unchanged := by
  obtain ⟨book, hb⟩ : ∃ book, build renames = .ok book := by decide +kernel
  have hlit : ∀ patch ∈ renames, patch.module.text = "pkg" → patch.mode = .literal := by
    decide +kernel
  obtain ⟨-, hagain, -, hfirst, -⟩ := edit_of_literal hb "pkg" hlit "ffoo()) oold"
  obtain ⟨-, -, -, hstill, -⟩ := edit_of_literal hb "pkg" hlit "fbar()) onew"
  have hvalue : (book.edit "pkg" "ffoo()) oold").value = .changed "fbar()) onew" :=
    value_edit_of_map hb (by decide +kernel)
  rw [← hfirst, hvalue] at hagain
  exact ⟨book, hb, hlit, hvalue, hstill.trans hagain⟩

end PatchBook

end HiddenImports
