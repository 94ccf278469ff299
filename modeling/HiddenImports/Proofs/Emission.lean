import HiddenImports.Proofs.Compile
import HiddenImports.Proofs.Resolution

/-!
# The names that are emitted

A name is asked about as it comes, and a sibling's name is put together from its first component
without a check. Still, the names that a book gives are module names (`imports_wellFormed`): a family
that matches does so by a component that the check has seen or by a module name, so the first component
of what it is asked about is sound (`Family.Sound.isComponent_beforeDot`).
-/

namespace HiddenImports

variable {family : Family} {name needed : String}

namespace Family

/-- A sound family matches only texts that begin with a component. -/
theorem Sound.isComponent_beforeDot (hsound : family.Sound)
    (hmatch : family.pattern.Matches name) : IsComponent (beforeDot name) := by
  rcases hp : family.pattern with names | names
  · rw [hp, Pattern.matches_topLevel_iff] at hmatch
    exact hsound.parts _ (List.mem_append_left _ (by rw [hp]; exact hmatch))
  · rw [hp, Pattern.matches_fullName_iff] at hmatch
    obtain ⟨m, -, rfl⟩ := hmatch
    exact isComponent_beforeDot m.valid

theorem Sound.isComponent_sibling (hsound : family.Sound) {wanted beside : String}
    (h : Companion.sibling wanted beside ∈ family.companions) : IsComponent beside := by
  refine hsound.parts _ (List.mem_append_right _ (List.mem_flatMap.2 ⟨_, h, ?_⟩))
  simp [Companion.parts]

end Family

theorem Companion.emit_sibling_eq_some_iff {wanted beside top : String} {child : Option String}
    {runtime : Version} : (sibling wanted beside).emit top child runtime = some needed ↔
      child = some wanted ∧ joinComponents top beside = needed := by
  simp only [emit, Option.ite_none_right_eq_some, Option.some.injEq]

theorem Companion.emit_module_eq_some_iff {m : ModuleName} {on : VersionRange} {top : String}
    {child : Option String} {runtime : Version} :
    (module m on).emit top child runtime = some needed ↔ on.holds runtime = true ∧ m.text = needed := by
  simp only [emit, Option.ite_none_right_eq_some, Option.some.injEq]

/-- What a companion of a sound family gives for a text that the family matches is a module name. -/
theorem Family.Sound.isModuleName_emit (hsound : family.Sound) (hmatch : family.pattern.Matches name)
    {companion : Companion} (hc : companion ∈ family.companions) {child : Option String}
    {runtime : Version} (hemit : companion.emit (beforeDot name) child runtime = some needed) :
    IsModuleName needed := by
  rcases companion with ⟨m, on⟩ | ⟨wanted, beside⟩
  · obtain ⟨-, rfl⟩ := Companion.emit_module_eq_some_iff.1 hemit
    exact m.valid
  · obtain ⟨-, rfl⟩ := Companion.emit_sibling_eq_some_iff.1 hemit
    exact isModuleName_joinComponents (hsound.isComponent_beforeDot hmatch)
      (hsound.isComponent_sibling hc)

theorem ModuleName.ofText_of_isModuleName (h : IsModuleName needed) :
    ∃ m, ofText needed = .ok m ∧ m.text = needed := by
  refine ⟨⟨needed, h⟩, ?_, rfl⟩
  rw [ofText, ofText?_text ⟨needed, h⟩]

namespace RuleBook

variable {table : RuleTable} {book : RuleBook}

/-- A book of a table gives nothing, or what a sound family that matches gives. -/
theorem imports_cases (h : table.compile.outcome = .ok book) (name : String) (runtime : Version) :
    (book.imports name runtime).value = .empty ∨
      ∃ family : Family, family.Sound ∧ family.pattern.Matches name ∧
        (book.imports name runtime).value =
          ⟨family.companions, beforeDot name, (afterDot? name).map beforeDot, runtime⟩ := by
  have hcheck := RuleTable.check_of_outcome_compile h
  obtain ⟨patches, aliases, -, -, hbook⟩ := RuleTable.outcome_compile hcheck
  rw [h] at hbook
  cases hbook
  -- what the check found of all families holds of the one that the search finds
  rcases hf : table.families.find? (·.pattern.Matches name) with _ | family
  · left
    rw [RuleBook.imports, ImportIndex.resolve_of_lookup_eq_none]
    · rfl
    · rw [ImportIndex.lookup_ofFamilies, hf]
  · right
    refine ⟨family, ?_, by simpa using List.find?_some hf, ?_⟩
    · exact (RuleTable.check_eq_ok_iff.1 hcheck).1 family (List.mem_of_find?_eq_some hf)
    · exact ImportIndex.value_resolve_of_lookup (by rw [ImportIndex.lookup_ofFamilies, hf]) runtime

/-- Whatever text a book is asked about, the names that it gives are module names, and a sibling's name
is the first component of that text with the sibling as its second and last one. -/
theorem imports_wellFormed (h : table.compile.outcome = .ok book) (name : String)
    (runtime : Version) :
    (∀ needed ∈ (book.imports name runtime).value.walk.map Prod.fst,
      ∃ m, ModuleName.ofText needed = .ok m ∧ m.text = needed) ∧
    ∀ pending, (book.imports name runtime).value = pending → ∀ wanted beside needed,
      Companion.sibling wanted beside ∈ pending.companions →
      (Companion.sibling wanted beside).emit pending.top pending.child pending.runtime =
        some needed →
      ∃ top, (components name).head? = some top ∧ components needed = [top, beside] := by
  rcases imports_cases h name runtime with hnone | ⟨family, hsound, hmatch, hsome⟩
  · rw [hnone]
    refine ⟨?_, ?_⟩
    · rw [Pending.fst_walk]
      simp [Pending.names, Pending.empty]
    · rintro _ rfl wanted beside needed hmem
      simp [Pending.empty] at hmem
  · rw [hsome]
    refine ⟨?_, ?_⟩
    · intro needed hneeded
      rw [Pending.fst_walk, Pending.names, List.mem_filterMap] at hneeded
      obtain ⟨companion, hc, hemit⟩ := hneeded
      exact ModuleName.ofText_of_isModuleName (hsound.isModuleName_emit hmatch hc hemit)
    · rintro _ rfl wanted beside needed hmem hemit
      obtain ⟨-, rfl⟩ := Companion.emit_sibling_eq_some_iff.1 hemit
      refine ⟨beforeDot name, by rw [components_eq]; rfl, ?_⟩
      exact components_joinComponents (dot_notMem_beforeDot name)
        (hsound.isComponent_sibling hmem).2

/-- A package whose submodule `b` needs its submodule `c`. -/
def siblingTable : RuleTable where
  families := [⟨.topLevel ["a"], [.sibling "b" "c"]⟩]

/-- The text asked about ends in two dots. -/
theorem imports_wellFormed_ragged : ∃ book, siblingTable.compile.outcome = .ok book ∧
    (book.imports "a.b.." .default).value.walk.map Prod.fst = ["a.c"] ∧
    (∃ m, ModuleName.ofText "a.c" = .ok m ∧ m.text = "a.c") ∧ components "a.c" = ["a", "c"] := by
  obtain ⟨patches, aliases, -, -, hbook⟩ :=
    RuleTable.outcome_compile (show siblingTable.check = .ok () by decide +kernel)
  refine ⟨_, hbook, ?_⟩
  have hlookup : (ImportIndex.ofFamilies siblingTable.families).lookup "a.b.." =
      some ⟨.topLevel ["a"], [.sibling "b" "c"]⟩ := by
    rw [ImportIndex.lookup_ofFamilies]
    decide +kernel
  have hpending := ImportIndex.value_resolve_of_lookup hlookup .default
  obtain ⟨hnames, hsibling⟩ := imports_wellFormed hbook "a.b.." .default
  have hwalk : (ImportIndex.resolve (.ofFamilies siblingTable.families) "a.b.." .default).value.walk.map
      Prod.fst = ["a.c"] := by
    rw [Pending.fst_walk, hpending]
    decide +kernel
  obtain ⟨top, htop, hparts⟩ := hsibling _ hpending "b" "c" "a.c" (by simp) (by decide +kernel)
  refine ⟨hwalk, hnames "a.c" ?_, ?_⟩
  · rw [imports, hwalk]
    exact List.mem_singleton_self _
  · have hhead : (components "a.b..").head? = some "a" := by decide +kernel
    rw [hhead] at htop
    cases htop
    exact hparts

end RuleBook

end HiddenImports
