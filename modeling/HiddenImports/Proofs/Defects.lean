import HiddenImports.Proofs.Compile
import HiddenImports.Proofs.Report

/-!
# The defects of a table

`RuleTable.defects` lists all that is wrong with a table: family by family, then patch by patch, each
patch by itself and then against the earlier ones of its module, then the aliases that repeat a source.
-/

namespace HiddenImports

/-! ## Families -/

/-- What is wrong with a text that must be a single component. -/
def componentDefects (text : String) : List Fault :=
  if IsComponent text then [] else [.invalidModuleName text]

/-- The names of packages that are no components. -/
def Pattern.defects : Pattern → List Fault
  | topLevel names => names.flatMap componentDefects
  | fullName _ => []

/-- The parts of a sibling that are no components. -/
def Companion.defects : Companion → List Fault
  | module _ _ => []
  | sibling child beside => componentDefects child ++ componentDefects beside

/-- What is wrong with the family that comes after others: no name to match, then its names, then its
companions. -/
def Family.defects (before : List Family) (family : Family) : List Fault :=
  (if family.pattern.keyCount = 0 then [.emptyPattern before.length] else []) ++
    (family.pattern.defects ++ family.companions.flatMap Companion.defects)

theorem reports_checkComponent (text : String) :
    Reports (checkComponent text) (componentDefects text) := by
  unfold checkComponent componentDefects
  split
  · exact .ok ()
  · exact .error _ _

namespace Family

theorem flatMap_parts (family : Family) : family.parts.flatMap componentDefects =
    family.pattern.defects ++ family.companions.flatMap Companion.defects := by
  rw [parts, List.flatMap_append, List.flatMap_assoc]
  congr 1
  · cases family.pattern <;> rfl
  · congr 1
    funext companion
    cases companion <;> simp [Companion.parts, Companion.defects]

theorem reports_check (before : List Family) (family : Family) :
    Reports (family.check before.length) (family.defects before) := by
  unfold check defects
  split
  · exact .error _ _
  · rw [List.nil_append, ← flatMap_parts]
    exact .forM reports_checkComponent family.parts

theorem checkAll_cons (index : Nat) (family : Family) (rest : List Family) :
    checkAll index (family :: rest) = family.check index >>= fun _ => checkAll (index + 1) rest := by
  rw [checkAll]
  rcases family.check index with fault | u <;> rfl

theorem reports_checkAll : ∀ families before : List Family,
    Reports (checkAll before.length families) (defectsAfter defects before families)
  | [], _ => .ok ()
  | family :: rest, before => by
    have hrest := reports_checkAll rest (before ++ [family])
    rw [List.length_append, List.length_singleton] at hrest
    rw [checkAll_cons, defectsAfter]
    exact (reports_check before family).bind fun _ _ => hrest

end Family

/-! ## Patches -/

namespace Patch

variable (engine : Engine)

/-- What is wrong with a patch by itself: nothing to find, a pattern that does not compile, or a
replacement that brings back what is looked for. -/
def defects (patch : Patch) : List Fault :=
  (if patch.find = "" then [patch.fault .emptySearch] else []) ++
    match patch.replacer engine with
    | .error fault => [fault]
    | .ok r => if r.mayRematch patch.replace then [patch.fault .recreatesSearch] else []

/-- Either of two patches of one module may match what the other one puts in. -/
def chainDefects (patch other : Patch) : List Fault :=
  match other.replacer engine, patch.replacer engine with
  | .ok r, .ok s =>
    if other.module = patch.module ∧ (r.mayRematch patch.replace || s.mayRematch other.replace) = true
    then [patch.fault (.chains r.describe)] else []
  | _, _ => []

/-- What is wrong with a patch after others: in itself, then with the earlier ones. -/
def defectsAmong (before : List Patch) (patch : Patch) : List Fault :=
  patch.defects engine ++ before.flatMap (patch.chainDefects engine)

theorem reports_compileWith (patch : Patch) :
    Reports (patch.compileWith engine) (patch.defects engine) := by
  unfold compileWith defects
  split
  · exact .error _ _
  · rcases patch.replacer engine with fault | r
    · exact .error _ _
    · simp only [List.nil_append]
      split
      · exact .error _ _
      · exact .ok r

end Patch

namespace PatchBook

variable {engine : Engine}

theorem chainDefects_of_hasEntry {patch other : Patch} {entry : ModuleName × Replacer} {s : Replacer}
    (hother : other.HasEntry engine entry) (hs : patch.compileWith engine = .ok s) :
    patch.chainDefects engine other =
      if entry.1.text = patch.module.text ∧ clash entry.2 s = true then
        [patch.fault (.chains entry.2.describe)] else [] := by
  obtain ⟨hmodule, hr⟩ := hother
  obtain ⟨-, hr, -⟩ := Patch.compileWith_eq_ok_iff.1 hr
  obtain ⟨-, hs, -⟩ := Patch.compileWith_eq_ok_iff.1 hs
  have htext : entry.1.text = patch.module.text ↔ other.module = patch.module := by
    rw [hmodule]
    exact ⟨ModuleName.eq_of_text_eq, congrArg _⟩
  simp only [Patch.chainDefects, hr, hs, clash, Patch.replacement_of_replacer hr,
    Patch.replacement_of_replacer hs, htext]

/-- The first patch to chain with is the first one of the module that clashes. -/
theorem head?_flatMap_chainDefects {patch : Patch} {s : Replacer}
    (hs : patch.compileWith engine = .ok s) {before : List Patch}
    {entries : List (ModuleName × Replacer)}
    (h : List.Forall₂ (Patch.HasEntry engine) before entries) :
    (before.flatMap (patch.chainDefects engine)).head? =
      (((ofEntries entries).forModule patch.module.text).find? (clash · s)).map
        fun other => patch.fault (.chains other.describe) := by
  rw [forModule_ofEntries]
  induction h with
  | nil => rfl
  | @cons other entry before entries hother _ ih =>
    rw [List.flatMap_cons, List.head?_append, chainDefects_of_hasEntry hother hs, ih]
    by_cases hname : entry.1.text = patch.module.text
    · by_cases hclash : clash entry.2 s = true
      · simp [hname, hclash]
      · simp [hname, hclash]
    · simp [hname]

theorem reports_add {before : List Patch} {entries : List (ModuleName × Replacer)}
    (h : List.Forall₂ (Patch.HasEntry engine) before entries) (patch : Patch) :
    Reports ((ofEntries entries).add engine patch) (patch.defectsAmong engine before) := by
  have hown := patch.reports_compileWith engine
  unfold add Patch.defectsAmong
  rcases hs : patch.compileWith engine with fault | s
  · rw [hs] at hown
    obtain ⟨more, hmore⟩ := hown.exists_cons_of_error
    rw [hmore, List.cons_append]
    exact .error _ _
  · rw [hown.eq_nil_iff.2 ⟨s, hs⟩, List.nil_append]
    have hchain := head?_flatMap_chainDefects hs h
    intro fault
    simp only [hchain]
    rcases ((ofEntries entries).forModule patch.module.text).find? (clash · s) with _ | other <;>
      simp

theorem reports_buildWith (patches : List Patch) :
    Reports (buildWith engine patches) (defectsAfter (Patch.defectsAmong engine) [] patches) := by
  have hstep : ∀ (before : List Patch) (book : PatchBook) (patch : Patch),
      (∃ entries, List.Forall₂ (Patch.HasEntry engine) before entries ∧ book = ofEntries entries) →
        Reports (book.add engine patch) (patch.defectsAmong engine before) ∧
          ∀ book', book.add engine patch = .ok book' → ∃ entries,
            List.Forall₂ (Patch.HasEntry engine) (before ++ [patch]) entries ∧
              book' = ofEntries entries := by
    rintro before _ patch ⟨entries, hentries, rfl⟩
    refine ⟨reports_add hentries patch, fun book' hadd => ?_⟩
    obtain ⟨entry, hentry, -, hbook'⟩ := add_eq_ok_iff.1 hadd
    exact ⟨_, List.rel_append hentries (.cons hentry .nil), hbook'⟩
  exact .foldlM hstep patches [] {} ⟨[], .nil, rfl⟩

end PatchBook

/-! ## Aliases and tables -/

/-- The alias has the source of an earlier one. -/
def Alias.defectsAmong (before : List Alias) (a : Alias) : List Fault :=
  if a.source ∈ before.map Alias.source then [.duplicateAlias a.source.text] else []

theorem AliasTable.reports_ofList (aliases : List Alias) :
    Reports (ofList aliases) (defectsAfter Alias.defectsAmong [] aliases) := by
  have hstep : ∀ (before : List Alias) (table : AliasTable) (a : Alias), table.entries = before →
      Reports (table.add a) (a.defectsAmong before) ∧
        ∀ table', table.add a = .ok table' → table'.entries = before ++ [a] := by
    rintro _ table a rfl
    unfold add Alias.defectsAmong
    split
    · refine ⟨.error _ _, fun table' h => ?_⟩
      cases h
    · refine ⟨.ok _, fun table' h => ?_⟩
      cases h
      rfl
  exact .foldlM hstep aliases [] {} rfl

namespace RuleTable

/-- All that is wrong with a table, in the order in which it is looked for. -/
def defects (table : RuleTable) : List Fault :=
  defectsAfter Family.defects [] table.families ++
    (defectsAfter (Patch.defectsAmong Regex.engine) [] table.patches ++
      defectsAfter Alias.defectsAmong [] table.aliases)

/-- The check reports the first defect of a table. -/
theorem reports_check (table : RuleTable) : Reports table.check table.defects := by
  have haliases := (AliasTable.reports_ofList table.aliases).bind fun _ _ => .ok ()
  rw [List.append_nil] at haliases
  exact (Family.reports_checkAll table.families []).bind fun _ _ =>
    (PatchBook.reports_buildWith table.patches).bind fun _ _ => haliases

end RuleTable

end HiddenImports
