import HiddenImports.Proofs.Defects

/-!
# Valid tables

What is asked of a table can be said without any order: `Valid` speaks of its families, of its patches
one by one and two by two, and of its aliases as a whole. The check accepts just the valid tables, and of
the others it reports the first defect, which is also why they have no rule book (`check_iff_valid`).
-/

namespace HiddenImports

theorem Family.sound_iff {family : Family} : family.Sound ↔ family.pattern.keyCount ≠ 0 ∧
    (∀ names, family.pattern = .topLevel names → ∀ name ∈ names, IsComponent name) ∧
    ∀ child beside, .sibling child beside ∈ family.companions →
      IsComponent child ∧ IsComponent beside := by
  constructor
  · rintro ⟨hkeyed, hparts⟩
    refine ⟨hkeyed, fun names hnames name hname => ?_, fun child beside hmem => ?_⟩
    · refine hparts name (List.mem_append_left _ ?_)
      rw [hnames]
      exact hname
    · have hsub : ∀ part ∈ (Companion.sibling child beside).parts, IsComponent part :=
        fun part hpart => hparts part
          (List.mem_append_right _ (List.mem_flatMap.2 ⟨_, hmem, hpart⟩))
      exact ⟨hsub child (by simp [Companion.parts]), hsub beside (by simp [Companion.parts])⟩
  · rintro ⟨hkeyed, hnames, hsiblings⟩
    refine ⟨hkeyed, fun part hpart => ?_⟩
    rcases List.mem_append.1 hpart with hpart | hpart
    · rcases hp : family.pattern with names | names
      · rw [hp] at hpart
        exact hnames names hp part hpart
      · rw [hp] at hpart
        cases hpart
    · obtain ⟨_ | ⟨child, beside⟩, hmem, hpart⟩ := List.mem_flatMap.1 hpart
      · cases hpart
      · obtain ⟨hchild, hbeside⟩ := hsiblings child beside hmem
        rcases List.mem_pair.1 hpart with rfl | rfl
        · exact hchild
        · exact hbeside

namespace PatchBook

variable {engine : Engine} {patches : List Patch}

/-- Patches make a book just if each can be used by itself and none matches what one of its module puts
in. -/
theorem exists_buildWith_iff : (∃ book, buildWith engine patches = .ok book) ↔
    (∀ patch ∈ patches, patch.find ≠ "" ∧
      ∃ r, patch.replacer engine = .ok r ∧ r.mayRematch patch.replace = false) ∧
    ∀ p ∈ patches, ∀ q ∈ patches, p.module = q.module →
      ∀ r, p.replacer engine = .ok r → r.mayRematch q.replace = false := by
  constructor
  · rintro ⟨book, hb⟩
    refine ⟨fun patch hpatch => ?_, fun p hp q hq hmodule r hr => ?_⟩
    · obtain ⟨r, hr⟩ := exists_compileWith hb hpatch
      obtain ⟨hfind, hreplacer, hself⟩ := Patch.compileWith_eq_ok_iff.1 hr
      exact ⟨hfind, r, hreplacer, hself⟩
    · obtain ⟨r', hr'⟩ := exists_compileWith hb hp
      obtain ⟨s, hs⟩ := exists_compileWith hb hq
      have hclash := clash_eq_false hb hp hq (congrArg _ hmodule) hr' hs
      obtain ⟨-, hreplacer, -⟩ := Patch.compileWith_eq_ok_iff.1 hr'
      rw [hr] at hreplacer
      cases hreplacer
      rw [← Patch.replacement_of_replacer (Patch.compileWith_eq_ok_iff.1 hs).2.1]
      exact (clash_eq_false_iff.1 hclash).1
  · rintro ⟨hown, hapart⟩
    have hentry : ∀ patch ∈ patches, ∃ entry, patch ∈ patches ∧ patch.HasEntry engine entry := by
      intro patch hpatch
      obtain ⟨hfind, r, hr, hself⟩ := hown patch hpatch
      exact ⟨(patch.module, r), hpatch, rfl, Patch.compileWith_eq_ok_iff.2 ⟨hfind, hr, hself⟩⟩
    obtain ⟨entries, hentries⟩ := exists_forall₂ hentry
    refine ⟨ofEntries entries, buildWith_eq_ok_iff.2
      ⟨entries, hentries.imp fun _ _ h => h.2, List.pairwise_of_forall_mem_list ?_, rfl⟩⟩
    intro a ha b hb hname
    obtain ⟨p, -, hp, ham, ha⟩ := forall₂_exists_left hentries ha
    obtain ⟨q, -, hq, hbm, hb⟩ := forall₂_exists_left hentries hb
    obtain ⟨-, hr, -⟩ := Patch.compileWith_eq_ok_iff.1 ha
    obtain ⟨-, hs, -⟩ := Patch.compileWith_eq_ok_iff.1 hb
    have hmodule : p.module = q.module := by
      rw [← ham, ← hbm]
      exact ModuleName.eq_of_text_eq hname
    rw [clash_eq_false_iff, Patch.replacement_of_replacer hr, Patch.replacement_of_replacer hs]
    exact ⟨hapart p hp q hq hmodule _ hr, hapart q hq p hp hmodule.symm _ hs⟩

end PatchBook

namespace RuleTable

/-- What is asked of a table, in no order. -/
structure Valid (table : RuleTable) : Prop where
  keyed : ∀ family ∈ table.families, family.pattern.keyCount ≠ 0
  topLevel : ∀ family ∈ table.families, ∀ names, family.pattern = .topLevel names →
    ∀ name ∈ names, IsComponent name
  sibling : ∀ family ∈ table.families, ∀ child beside, .sibling child beside ∈ family.companions →
    IsComponent child ∧ IsComponent beside
  /-- Each patch looks for something, compiles and does not match what it puts in. -/
  usable : ∀ patch ∈ table.patches, patch.find ≠ "" ∧
    ∃ r, patch.replacer Regex.engine = .ok r ∧ r.mayRematch patch.replace = false
  /-- No patch matches what one of the same module puts in. -/
  apart : ∀ p ∈ table.patches, ∀ q ∈ table.patches, p.module = q.module →
    ∀ r, p.replacer Regex.engine = .ok r → r.mayRematch q.replace = false
  distinct : (table.aliases.map Alias.source).Nodup

variable {table other : RuleTable}

theorem check_eq_ok_iff_valid : table.check = .ok () ↔ table.Valid := by
  rw [check_eq_ok_iff, PatchBook.build, PatchBook.exists_buildWith_iff]
  simp only [Family.sound_iff]
  constructor
  · rintro ⟨hfamilies, ⟨husable, hapart⟩, hdistinct⟩
    exact ⟨fun family h => (hfamilies family h).1, fun family h => (hfamilies family h).2.1,
      fun family h => (hfamilies family h).2.2, husable, hapart, hdistinct⟩
  · intro h
    exact ⟨fun family hf => ⟨h.keyed family hf, h.topLevel family hf, h.sibling family hf⟩,
      ⟨h.usable, h.apart⟩, h.distinct⟩

/-- Nothing but the members of a table counts, and that no source is repeated. -/
theorem Valid.of_subset (hfamilies : other.families ⊆ table.families)
    (hpatches : other.patches ⊆ table.patches) (haliases : (other.aliases.map Alias.source).Nodup)
    (h : table.Valid) : other.Valid where
  keyed family hf := h.keyed family (hfamilies hf)
  topLevel family hf := h.topLevel family (hfamilies hf)
  sibling family hf := h.sibling family (hfamilies hf)
  usable patch hp := h.usable patch (hpatches hp)
  apart p hp q hq := h.apart p (hpatches hp) q (hpatches hq)
  distinct := haliases

theorem Valid.of_perm (hfamilies : other.families.Perm table.families)
    (hpatches : other.patches.Perm table.patches) (haliases : other.aliases.Perm table.aliases)
    (h : table.Valid) : other.Valid :=
  h.of_subset hfamilies.subset hpatches.subset ((haliases.map _).nodup_iff.2 h.distinct)

/-- The check accepts just the valid tables, in whatever order their parts stand. Of another table it
reports the first defect, and this is what its compilation fails with; the compilation of a valid table
does not fail. -/
theorem check_iff_valid (table : RuleTable) :
    (table.check = .ok () ↔ table.Valid) ∧
    (∀ other : RuleTable, other.families.Perm table.families → other.patches.Perm table.patches →
      other.aliases.Perm table.aliases → (other.check = .ok () ↔ table.check = .ok ())) ∧
    (∀ fault, table.check = .error fault ↔ table.defects.head? = some fault) ∧
    ((∃ book, table.compile.outcome = .ok book) ↔ table.check = .ok ()) ∧
    ∀ fault, table.compile.outcome = .error fault ↔ table.check = .error fault := by
  refine ⟨check_eq_ok_iff_valid, fun other hf hp ha => ?_, table.reports_check, ?_, fun fault => ?_⟩
  · rw [check_eq_ok_iff_valid, check_eq_ok_iff_valid]
    exact ⟨.of_perm hf.symm hp.symm ha.symm, .of_perm hf hp ha⟩
  · constructor
    · rintro ⟨book, hbook⟩
      exact check_of_outcome_compile hbook
    · intro hcheck
      obtain ⟨_, _, -, -, hbook⟩ := outcome_compile hcheck
      exact ⟨_, hbook⟩
  · constructor
    · intro hcompile
      rcases hcheck : table.check with fault | ⟨⟨⟩⟩
      · rw [outcome_compile_of_error hcheck] at hcompile
        cases hcompile
        rfl
      · obtain ⟨_, _, -, -, hbook⟩ := outcome_compile hcheck
        rw [hbook] at hcompile
        cases hcompile
    · exact outcome_compile_of_error

end RuleTable

end HiddenImports
