import Mathlib.Data.List.Pairwise
import HiddenImports.Patch.Book
import HiddenImports.Proofs.Outcome

/-!
# What a book of patches accepts

The patches are added one by one, each against the ones before it, but what is accepted does not
depend on that: every patch has to compile and no two of one module may clash
(`buildWith_eq_ok_iff`). The book is then the one that the entries of the patches make, in order
(`ofEntries`). So a part of an accepted list is accepted, and the replacers of a module are those of its
own patches in order.
-/

namespace HiddenImports

/-! ## One patch -/

namespace Patch

variable {engine : Engine} {patch : Patch} {r : Replacer}

theorem compileWith_eq_ok_iff : patch.compileWith engine = .ok r ↔
    patch.find ≠ "" ∧ patch.replacer engine = .ok r ∧ r.mayRematch patch.replace = false := by
  unfold compileWith
  by_cases hfind : patch.find = ""
  · simp [hfind]
  · rw [if_neg hfind]
    rcases hs : patch.replacer engine with fault | s
    · simp
    · by_cases hre : s.mayRematch patch.replace = true
      · simp only [if_pos hre, reduceCtorEq, Except.ok.injEq, false_iff]
        rintro ⟨-, rfl, h⟩
        simp [hre] at h
      · simp only [if_neg hre, Except.ok.injEq]
        constructor
        · rintro rfl
          exact ⟨hfind, rfl, by simpa using hre⟩
        · exact fun h => h.2.1

theorem replacement_of_replacer (h : patch.replacer engine = .ok r) :
    r.replacement = patch.replace := by
  unfold replacer at h
  split at h
  · cases h
    rfl
  · split at h
    · cases h
      rfl
    · cases h

/-- The place that a patch gets in a book: its module and its replacer. -/
def HasEntry (engine : Engine) (patch : Patch) (entry : ModuleName × Replacer) : Prop :=
  entry.1 = patch.module ∧ patch.compileWith engine = .ok entry.2

/-- The entry of a patch that compiles. -/
def entryWith (engine : Engine) (patch : Patch) : Except Fault (ModuleName × Replacer) :=
  (patch.compileWith engine).map (patch.module, ·)

theorem mapM_entryWith_eq_ok_iff {patches : List Patch} {entries : List (ModuleName × Replacer)} :
    patches.mapM (entryWith engine) = .ok entries ↔
      List.Forall₂ (HasEntry engine) patches entries := by
  have hentry : (fun (p : Patch) e => p.entryWith engine = .ok e) = HasEntry engine := by
    funext p e
    simp only [entryWith, map_eq_ok_iff, HasEntry, Prod.ext_iff, eq_iff_iff]
    constructor
    · rintro ⟨r, hr, hm, rfl⟩
      exact ⟨hm.symm, hr⟩
    · rintro ⟨hm, hr⟩
      exact ⟨e.2, hr, hm.symm, rfl⟩
  rw [mapM_eq_ok_iff, hentry]

theorem HasEntry.mayRematch_self {entry : ModuleName × Replacer}
    (h : patch.HasEntry engine entry) : entry.2.mayRematch entry.2.replacement = false := by
  obtain ⟨-, hr, hre⟩ := compileWith_eq_ok_iff.1 h.2
  rw [replacement_of_replacer hr]
  exact hre

end Patch

/-! ## The replacers of a module -/

namespace PatchBook

variable {engine : Engine} {patches : List Patch} {book own : PatchBook}
  {entry : ModuleName × Replacer} {entries : List (ModuleName × Replacer)} {name : String}

theorem forModule_empty (name : String) : forModule {} name = [] := by simp [forModule]

theorem forModule_put (book : PatchBook) (entry : ModuleName × Replacer) (name : String) :
    (book.put entry).forModule name =
      book.forModule name ++ if entry.1.text = name then [entry.2] else [] := by
  unfold put
  rw [forModule, Std.HashMap.getD_insert]
  by_cases h : entry.1.text = name
  · subst h
    simp
  · simp [h, forModule]

/-- A module without replacers is not in the book at all. -/
theorem getElem?_byModule (book : PatchBook) (name : String) : book.byModule[name]? =
    if book.forModule name = [] then none else some (book.forModule name) := by
  have hne := book.occupied name
  rw [forModule, Std.HashMap.getD_eq_getD_getElem?]
  rcases h : book.byModule[name]? with _ | rs
  · simp
  · have hrs : rs ≠ [] := by
      rintro rfl
      exact hne h
    simp [hrs]

theorem edit_of_eq_nil (h : book.forModule name = []) (source : String) :
    book.edit name source = pure .unchanged := by
  rw [edit, getElem?_byModule, if_pos h]

theorem edit_of_ne_nil (h : book.forModule name ≠ []) (source : String) :
    book.edit name source = editWith (book.forModule name) name source := by
  rw [edit, getElem?_byModule, if_neg h]

/-- An edit depends on the replacers of the module alone. -/
theorem edit_congr (h : own.forModule name = book.forModule name) (source : String) :
    own.edit name source = book.edit name source := by
  rw [edit, edit, getElem?_byModule, getElem?_byModule, h]

/-- The book that some entries make, each put after the earlier ones of its module. -/
def ofEntries (entries : List (ModuleName × Replacer)) : PatchBook := entries.foldl put {}

theorem ofEntries_concat (entries : List (ModuleName × Replacer)) (entry : ModuleName × Replacer) :
    ofEntries (entries ++ [entry]) = (ofEntries entries).put entry := List.foldl_concat ..

theorem forModule_foldl_put (name : String) :
    ∀ (entries : List (ModuleName × Replacer)) (book : PatchBook),
      (entries.foldl put book).forModule name =
        book.forModule name ++ (entries.filter (·.1.text == name)).map Prod.snd
  | [], book => by simp
  | entry :: rest, book => by
    rw [List.foldl_cons, forModule_foldl_put name rest, forModule_put, List.append_assoc]
    by_cases h : entry.1.text = name <;> simp [h]

theorem forModule_ofEntries (entries : List (ModuleName × Replacer)) (name : String) :
    (ofEntries entries).forModule name = (entries.filter (·.1.text == name)).map Prod.snd := by
  rw [ofEntries, forModule_foldl_put, forModule_empty, List.nil_append]

theorem mem_forModule_iff {r : Replacer} : r ∈ (ofEntries entries).forModule name ↔
    ∃ m, (m, r) ∈ entries ∧ m.text = name := by
  simp [forModule_ofEntries]

/-! ## The book -/

/-- Entries of one module that do not trigger each other, or entries of two modules. -/
def Agree (a b : ModuleName × Replacer) : Prop :=
  a.1.text = b.1.text → clash a.2 b.2 = false

theorem clash_comm (r s : Replacer) : clash r s = clash s r := Bool.or_comm _ _

theorem clash_eq_false_iff {r s : Replacer} : clash r s = false ↔
    r.mayRematch s.replacement = false ∧ s.mayRematch r.replacement = false := by
  simp [clash]

instance : Std.Symm Agree where
  symm _ _ h ht := by
    rw [clash_comm]
    exact h ht.symm

theorem add_of_hasEntry {patch : Patch} (h : patch.HasEntry engine entry)
    (hb : ∀ e ∈ entries, Agree e entry) :
    (ofEntries entries).add engine patch = .ok (ofEntries (entries ++ [entry])) := by
  obtain ⟨m, r⟩ := entry
  obtain ⟨rfl, hr⟩ := h
  have hnone : ((ofEntries entries).forModule patch.module.text).find? (clash · r) = none := by
    rw [List.find?_eq_none]
    intro s hs
    obtain ⟨m, hm, ht⟩ := mem_forModule_iff.1 hs
    simpa using hb _ hm ht
  unfold add
  rw [hr]
  simp only [hnone, ofEntries_concat]

theorem add_eq_ok_iff {patch : Patch} : (ofEntries entries).add engine patch = .ok book ↔
    ∃ entry, patch.HasEntry engine entry ∧ (∀ e ∈ entries, Agree e entry) ∧
      book = ofEntries (entries ++ [entry]) := by
  constructor
  · intro h
    unfold add at h
    split at h
    · cases h
    · rename_i r hr
      split at h
      · cases h
      · rename_i hnone
        cases h
        refine ⟨(patch.module, r), ⟨rfl, hr⟩, fun e he ht => ?_, (ofEntries_concat _ _).symm⟩
        rw [List.find?_eq_none] at hnone
        simpa using hnone e.2 (mem_forModule_iff.2 ⟨e.1, he, ht⟩)
  · rintro ⟨entry, hentry, hagree, rfl⟩
    exact add_of_hasEntry hentry hagree

/-- A patch that compiles is refused because of an earlier one of its module. -/
theorem add_eq_error {patch : Patch} {fault : Fault} (hentry : patch.HasEntry engine entry)
    (h : (ofEntries entries).add engine patch = .error fault) :
    ∃ e ∈ entries, e.1.text = patch.module.text ∧ clash e.2 entry.2 = true ∧
      fault = patch.fault (.chains e.2.describe) := by
  unfold add at h
  rw [hentry.2] at h
  simp only at h
  split at h
  · rename_i other hother
    cases h
    obtain ⟨m, hm, ht⟩ := mem_forModule_iff.1 (List.mem_of_find?_eq_some hother)
    have hclash : clash other entry.2 = true := by simpa using List.find?_some hother
    exact ⟨(m, other), hm, ht, hclash, rfl⟩
  · cases h

/-- Patches that are added to a book must also agree with what is in it. -/
theorem foldlM_add_eq_ok_iff : ∀ {patches : List Patch} {before : List (ModuleName × Replacer)},
    patches.foldlM (add engine) (ofEntries before) = .ok book ↔
      ∃ entries, List.Forall₂ (Patch.HasEntry engine) patches entries ∧ entries.Pairwise Agree ∧
        (∀ e ∈ before, ∀ e' ∈ entries, Agree e e') ∧ book = ofEntries (before ++ entries)
  | [], before => by
    simp only [List.foldlM_nil, pure, Except.pure, Except.ok.injEq, List.forall₂_nil_left_iff]
    constructor
    · rintro rfl
      exact ⟨[], rfl, .nil, by simp, by simp⟩
    · rintro ⟨_, rfl, -, -, rfl⟩
      rw [List.append_nil]
  | patch :: rest, before => by
    rw [List.foldlM_cons, bind_eq_ok_iff]
    constructor
    · rintro ⟨middle, hadd, hrest⟩
      obtain ⟨entry, hentry, hagree, rfl⟩ := add_eq_ok_iff.1 hadd
      obtain ⟨entries, hentries, hpair, hafter, hbook⟩ := foldlM_add_eq_ok_iff.1 hrest
      refine ⟨entry :: entries, .cons hentry hentries, .cons ?_ hpair, ?_, by simp [hbook]⟩
      · exact fun e' he' => hafter entry (by simp) e' he'
      · intro e he e' he'
        rcases List.mem_cons.1 he' with rfl | he'
        · exact hagree e he
        · exact hafter e (by simp [he]) e' he'
    · rintro ⟨_, hentries, hpair, hafter, hbook⟩
      obtain ⟨entry, entries, hentry, htail, rfl⟩ := List.forall₂_cons_left_iff.1 hentries
      obtain ⟨hfirst, hpair⟩ := List.pairwise_cons.1 hpair
      refine ⟨ofEntries (before ++ [entry]), add_of_hasEntry hentry fun e he => ?_, ?_⟩
      · exact hafter e he entry (by simp)
      · refine foldlM_add_eq_ok_iff.2 ⟨entries, htail, hpair, ?_, by simp [hbook]⟩
        intro e he e' he'
        rcases List.mem_append.1 he with he | he
        · exact hafter e he e' (List.mem_cons_of_mem _ he')
        · rw [List.mem_singleton.1 he]
          exact hfirst e' he'

/-- A book is made of patches that compile and do not clash. -/
theorem buildWith_eq_ok_iff : buildWith engine patches = .ok book ↔
    ∃ entries, List.Forall₂ (Patch.HasEntry engine) patches entries ∧ entries.Pairwise Agree ∧
      book = ofEntries entries := by
  have hfold : patches.foldlM (add engine) {} = .ok book ↔ _ :=
    @foldlM_add_eq_ok_iff engine book patches []
  simpa [buildWith] using hfold

instance : DecidableRel Agree := fun a b =>
  inferInstanceAs (Decidable (a.1.text = b.1.text → clash a.2 b.2 = false))

/-- Whether there is a book can be told from the entries alone. -/
instance : Decidable (∃ book, buildWith engine patches = .ok book) :=
  match h : patches.mapM (Patch.entryWith engine) with
  | .error _ => .isFalse fun ⟨_, hb⟩ => by
    obtain ⟨entries, hentries, -, -⟩ := buildWith_eq_ok_iff.1 hb
    rw [Patch.mapM_entryWith_eq_ok_iff.2 hentries] at h
    cases h
  | .ok entries => decidable_of_iff (entries.Pairwise Agree) <| by
    constructor
    · intro hpair
      exact ⟨_, buildWith_eq_ok_iff.2 ⟨entries, Patch.mapM_entryWith_eq_ok_iff.1 h, hpair, rfl⟩⟩
    · rintro ⟨_, hb⟩
      obtain ⟨_, hentries, hpair, -⟩ := buildWith_eq_ok_iff.1 hb
      rw [Patch.mapM_entryWith_eq_ok_iff.2 hentries] at h
      cases h
      exact hpair

instance : Decidable (∃ book, build patches = .ok book) :=
  inferInstanceAs (Decidable (∃ book, buildWith Regex.engine patches = .ok book))

theorem exists_compileWith (hb : buildWith engine patches = .ok book) {patch : Patch}
    (hpatch : patch ∈ patches) : ∃ r, patch.compileWith engine = .ok r := by
  obtain ⟨entries, hentries, -, -⟩ := buildWith_eq_ok_iff.1 hb
  obtain ⟨entry, -, -, hr⟩ := forall₂_exists_right hentries hpatch
  exact ⟨entry.2, hr⟩

theorem find_ne_nil (hb : buildWith engine patches = .ok book) {patch : Patch}
    (hpatch : patch ∈ patches) : patch.find.toList ≠ [] := by
  obtain ⟨r, hr⟩ := exists_compileWith hb hpatch
  simpa using (Patch.compileWith_eq_ok_iff.1 hr).1

/-- Entries of one module do not trigger each other, whichever comes first. -/
theorem mayRematch_eq_false (hb : buildWith engine patches = .ok book) {r s : Replacer}
    (hr : r ∈ book.forModule name) (hs : s ∈ book.forModule name) :
    r.mayRematch s.replacement = false := by
  obtain ⟨entries, hentries, hpair, rfl⟩ := buildWith_eq_ok_iff.1 hb
  obtain ⟨m, hm, rfl⟩ := mem_forModule_iff.1 hr
  obtain ⟨n, hn, hnm⟩ := mem_forModule_iff.1 hs
  have hself : ∀ e ∈ entries, Agree e e := fun e he _ => by
    obtain ⟨patch, -, he⟩ := forall₂_exists_left hentries he
    exact clash_eq_false_iff.2 ⟨he.mayRematch_self, he.mayRematch_self⟩
  have hagree : Agree (m, r) (n, s) := hpair.forall_of_forall hself hm hn
  exact (clash_eq_false_iff.1 (hagree hnm.symm)).1

/-- The replacers of a module are those of its patches, in order. -/
theorem forall₂_forModule (hb : buildWith engine patches = .ok book) (name : String) :
    List.Forall₂ (fun p r => p.compileWith engine = .ok r)
      (patches.filter (·.module.text == name)) (book.forModule name) := by
  obtain ⟨entries, hentries, -, rfl⟩ := buildWith_eq_ok_iff.1 hb
  rw [forModule_ofEntries, List.forall₂_map_right_iff]
  refine (List.rel_filter (fun p e hpe => ?_) hentries).imp fun p e hpe => hpe.2
  simp [hpe.1]

theorem mapM_compileWith (hb : buildWith engine patches = .ok book) (name : String) :
    (patches.filter (·.module.text == name)).mapM (Patch.compileWith engine) =
      .ok (book.forModule name) :=
  mapM_eq_ok_iff.2 (forall₂_forModule hb name)

/-- What is got from the replacers of a module is got from its patches. -/
theorem map_mapM_compileWith {β : Type} (hb : buildWith engine patches = .ok book) (name : String)
    (f : List Replacer → β) :
    ((patches.filter (·.module.text == name)).mapM (Patch.compileWith engine)).map f =
      .ok (f (book.forModule name)) := by
  rw [mapM_compileWith hb]
  rfl

/-! ## Parts of an accepted list -/

theorem forall₂_of_sublist {α β : Type} {R : α → β → Prop} {part l : List α}
    (hs : part.Sublist l) : ∀ {l' : List β}, List.Forall₂ R l l' →
      ∃ part', part'.Sublist l' ∧ List.Forall₂ R part part' := by
  induction hs with
  | slnil => exact fun h => ⟨_, List.Sublist.refl _, h⟩
  | cons a _ ih =>
    rintro _ (_ | ⟨hab, h⟩)
    obtain ⟨part', hs', h'⟩ := ih h
    exact ⟨part', hs'.cons _, h'⟩
  | cons_cons a _ ih =>
    rintro _ (_ | ⟨hab, h⟩)
    obtain ⟨part', hs', h'⟩ := ih h
    exact ⟨_ :: part', hs'.cons_cons _, .cons hab h'⟩

/-- A part of an accepted list is accepted. -/
theorem buildWith_of_sublist {part : List Patch} (hs : part.Sublist patches)
    (hb : buildWith engine patches = .ok book) : ∃ own, buildWith engine part = .ok own := by
  obtain ⟨entries, hentries, hpair, -⟩ := buildWith_eq_ok_iff.1 hb
  obtain ⟨some, hs', hpart⟩ := forall₂_of_sublist hs hentries
  exact ⟨ofEntries some, buildWith_eq_ok_iff.2 ⟨some, hpart, hpair.sublist hs', rfl⟩⟩

/-- The patches of one module make a book of their own, with the same replacers for it. -/
theorem buildWith_filter (hb : buildWith engine patches = .ok book) (name : String) :
    ∃ own, buildWith engine (patches.filter (·.module.text == name)) = .ok own ∧
      own.forModule name = book.forModule name := by
  obtain ⟨entries, hentries, hpair, rfl⟩ := buildWith_eq_ok_iff.1 hb
  refine ⟨ofEntries (entries.filter (·.1.text == name)), ?_, by simp [forModule_ofEntries]⟩
  refine buildWith_eq_ok_iff.2 ⟨_, List.rel_filter (fun p e hpe => ?_) hentries, hpair.filter _, rfl⟩
  simp [hpe.1]

/-- A module without patches keeps its source. -/
theorem edit_of_ne (hb : buildWith engine patches = .ok book)
    (h : ∀ patch ∈ patches, patch.module.text ≠ name) (source : String) :
    book.edit name source = pure .unchanged := by
  have hnone : patches.filter (·.module.text == name) = [] := by simpa using h
  have hall := forall₂_forModule hb name
  rw [hnone, List.forall₂_nil_left_iff] at hall
  exact edit_of_eq_nil hall source

/-! ## Lists that are refused -/

theorem clash_eq_false (hb : buildWith engine patches = .ok book) {p q : Patch} {r s : Replacer}
    (hp : p ∈ patches) (hq : q ∈ patches) (hpq : p.module.text = q.module.text)
    (hr : p.compileWith engine = .ok r) (hs : q.compileWith engine = .ok s) :
    clash r s = false := by
  have hmem : ∀ {patch r}, patch ∈ patches → patch.module.text = q.module.text →
      patch.compileWith engine = .ok r → r ∈ book.forModule q.module.text := by
    intro patch r hpatch hname hr
    have hfilter : patch ∈ patches.filter (·.module.text == q.module.text) := by
      simp [hpatch, hname]
    obtain ⟨r', hr', heq⟩ := forall₂_exists_right (forall₂_forModule hb _) hfilter
    rw [hr] at heq
    cases heq
    exact hr'
  have hr' := hmem hp hpq hr
  have hs' := hmem hq rfl hs
  exact clash_eq_false_iff.2 ⟨mayRematch_eq_false hb hr' hs', mayRematch_eq_false hb hs' hr'⟩

/-- Patches that all compile are refused because of two that belong to one module and clash. -/
theorem exists_clash_of_eq_error {fault : Fault}
    (hall : ∀ patch ∈ patches, ∃ r, patch.compileWith engine = .ok r)
    (h : buildWith engine patches = .error fault) :
    ∃ before patch after, patches = before ++ patch :: after ∧ ∃ other ∈ before, ∃ r s,
      other.compileWith engine = .ok r ∧ patch.compileWith engine = .ok s ∧
        other.module.text = patch.module.text ∧ clash r s = true ∧
        fault = patch.fault (.chains r.describe) := by
  obtain ⟨before, patch, after, middle, hsplit, hbefore, hadd⟩ := foldlM_eq_error_iff.1 h
  obtain ⟨s, hs⟩ := hall patch (by simp [hsplit])
  have hentry : patch.HasEntry engine (patch.module, s) := ⟨rfl, hs⟩
  obtain ⟨entries, hentries, -, rfl⟩ := buildWith_eq_ok_iff.1 hbefore
  obtain ⟨e, he, hname, hclash, hfault⟩ := add_eq_error hentry hadd
  obtain ⟨other, hother, hmodule, hr⟩ := forall₂_exists_left hentries he
  exact ⟨before, patch, after, hsplit, other, hother, e.2, s, hr, hs, by rw [← hname, hmodule],
    hclash, hfault⟩

end PatchBook

end HiddenImports
