import HiddenImports.Proofs.BufferedValue
import HiddenImports.Proofs.Outcome
import HiddenImports.Proofs.VersionText
import HiddenImports.RuleTable.Document

/-!
# Written tables are read back

Each part of a table is read back from what is written for it, from the names and versions up to the
table as a whole, and so every table is what is read from its own text and bytes (`ofBytes_toBytes`).
What the writer leaves out, the bounds and the range that do not bound, is just what the reader puts in
for a field that is missing.
-/

namespace HiddenImports

open Json

/-- Written elements are got back together if each of them is. -/
theorem mapM_map_eq_ok {α β ε : Type} {f : α → β} {g : β → Except ε α}
    (h : ∀ a, g (f a) = .ok a) (l : List α) : (l.map f).mapM g = .ok l :=
  mapM_eq_ok_iff.2 (List.forall₂_map_left_iff.2 (List.forall₂_same.2 fun a _ => h a))

theorem takes_map {α : Type} {item : Nat → Reader α} {depth : Nat} {toValue : α → Value}
    (h : ∀ a, Takes (item depth) (toValue a) a) (l : List α) :
    Takes (readList (depth + 1) item) (.array (l.map toValue)) l :=
  takes_list (List.forall₂_map_left_iff.2 (List.forall₂_same.2 fun a _ => h a))

theorem fits_map {α : Type} {toValue : α → Value} {depth : Nat} (h : ∀ a, (toValue a).Fits depth)
    (l : List α) : (Value.array (l.map toValue)).Fits (depth + 1) := by
  refine .array fun v hv => ?_
  obtain ⟨a, -, rfl⟩ := List.mem_map.1 hv
  exact h a

/-! ## Names and versions -/

namespace ModuleName

theorem refine_text (name : ModuleName) : refine name.text = .ok name := by
  rw [refine, ofText, ofText?_text]
  rfl

theorem takes (name : ModuleName) : Takes reader name.toValue name :=
  (takes_stringAs "a string" name.text).refine (refine_text name)

theorem ofValue_toValue (name : ModuleName) : ofValue name.toValue = .ok name :=
  refine_text name

theorem fits_toValue (name : ModuleName) (depth : Nat) : name.toValue.Fits depth :=
  .string depth name.text

end ModuleName

theorem Version.ofValue_toValue (version : Version) :
    Version.ofValue version.toValue = .ok version := by
  have hrefine : Version.refine version.render = .ok version := by
    rw [refine, ofText, read?_render]
    rfl
  simp only [ofValue, toValue, Value.asString, bind, Except.bind, hrefine]

namespace VersionRange

theorem ofValue_toValue (range : VersionRange) : ofValue range.toValue = .ok range := by
  have hoption : ∀ version : Version,
      version.toValue.asOption Version.ofValue = .ok (some version) := fun version => by
    have hversion := Version.ofValue_toValue version
    rw [Version.toValue] at hversion ⊢
    simp only [Value.asOption, hversion]
    rfl
  obtain ⟨_ | below, _ | atLeast⟩ := range
  · rfl
  all_goals simp [toValue, ofValue, Value.foldMembers, fieldOfValue, once, hoption, Partial.finish]

theorem fits_toValue (range : VersionRange) (depth : Nat) : range.toValue.Fits (depth + 1) := by
  refine .object fun m hm => ?_
  rw [List.mem_append, List.mem_map, List.mem_map] at hm
  rcases hm with ⟨version, -, rfl⟩ | ⟨version, -, rfl⟩
  · exact .string depth version.render
  · exact .string depth version.render

/-- A range that does not bound is what stands for a range left out. -/
theorem eq_always_of_isAlways {range : VersionRange} (h : range.isAlways = true) :
    range = .always := by
  obtain ⟨_ | below, _ | atLeast⟩ := range
  · rfl
  all_goals simp [isAlways] at h

end VersionRange

/-! ## Patterns and companions -/

namespace Pattern

theorem Kind.takes (kind : Kind) : Takes Kind.reader (.string kind.name) kind :=
  (takes_stringAs _ kind.name).refine (by cases kind <;> rfl)

theorem build_topLevel (names : List String) :
    Kind.build .topLevel (.array (names.map .string)) = .ok (.topLevel names) := by
  have hnames : (names.map Value.string).mapM Value.asString = .ok names :=
    mapM_map_eq_ok (g := Value.asString) (fun _ => rfl) names
  rw [Kind.build, Value.asList, hnames]
  rfl

theorem build_fullName (names : List ModuleName) :
    Kind.build .fullName (.array (names.map ModuleName.toValue)) = .ok (.fullName names) := by
  rw [Kind.build, Value.asList, mapM_map_eq_ok ModuleName.ofValue_toValue names]
  rfl

theorem ofTagged_names {kind : Kind} {names : Value} {pattern : Pattern}
    (h : kind.build names = .ok pattern) :
    ofTagged ⟨kind, .object [("names", names)]⟩ = .ok pattern := by
  simp only [ofTagged, Value.foldMembers, field, once, h]
  rfl

theorem takes (pattern : Pattern) (depth : Nat) :
    Takes (reader (depth + 2)) pattern.toValue pattern := by
  rcases pattern with names | names
  · refine (takes_tagged (Kind.takes .topLevel) ?_).refine (ofTagged_names (build_topLevel names))
    simpa using fits_map (Value.Fits.string depth) names
  · refine (takes_tagged (Kind.takes .fullName) ?_).refine (ofTagged_names (build_fullName names))
    simpa using fits_map (fun name => ModuleName.fits_toValue name depth) names

end Pattern

namespace Companion

theorem Kind.takes (kind : Kind) : Takes Kind.reader (.string kind.name) kind :=
  (takes_stringAs _ kind.name).refine (by cases kind <;> rfl)

theorem ofTagged_module (name : ModuleName) (on : VersionRange) :
    ofTagged ⟨.module, .object (("name", name.toValue) ::
      if on.isAlways then [] else [("when", on.toValue)])⟩ = .ok (.module name on) := by
  have hname := ModuleName.ofValue_toValue name
  by_cases h : on.isAlways = true
  -- a range that does not bound is left out, and comes back as the one that is put in for it
  · rw [if_pos h, VersionRange.eq_always_of_isAlways h]
    simp only [ofTagged, Value.foldMembers, moduleField, once, hname]
    rfl
  · have hon := VersionRange.ofValue_toValue on
    rw [if_neg h]
    simp [ofTagged, Value.foldMembers, moduleField, once, hname, hon, required, bind, Except.bind,
      pure, Except.pure]

theorem takes (companion : Companion) (depth : Nat) :
    Takes (reader (depth + 2)) companion.toValue companion := by
  rcases companion with ⟨name, on⟩ | ⟨child, beside⟩
  · refine (takes_tagged (Kind.takes .module) ?_).refine (ofTagged_module name on)
    have hname : name.toValue.Fits (depth + 1) := name.fits_toValue _
    have hon : on.toValue.Fits (depth + 1) := on.fits_toValue depth
    split_ifs
    · simp [hname]
    · simp [hname, hon]
  · refine (takes_tagged (Kind.takes .sibling) ?_).refine rfl
    simpa using ⟨Value.Fits.string _ child, Value.Fits.string _ beside⟩

end Companion

/-! ## Families, patches and aliases -/

theorem Family.takes (family : Family) (depth : Nat) :
    Takes (Family.reader (depth + 4)) family.toValue family := by
  have hpattern := family.pattern.takes (depth + 1)
  have hcompanions := takes_map (fun companion => companion.takes depth) family.companions
  refine takes_record (.cons rfl (hpattern.map _) (.cons rfl (hcompanions.map _) (.nil _))) ?_
  rfl

namespace Patch

theorem Mode.takes (mode : Mode) (depth : Nat) :
    Takes (Mode.reader depth) (.string mode.name) mode where
  opens := ⟨some '"', _, rfl, rfl, by decide⟩
  read_append rest := by
    have hname : Takes Mode.nameReader (.string mode.name) mode :=
      (takes_stringAs _ mode.name).refine (by cases mode <;> rfl)
    have hread := hname.read_append rest
    rw [written_string, writtenString_append] at hread ⊢
    unfold reader
    rw [skipGap_cons rfl]
    exact hread

theorem takes (patch : Patch) (depth : Nat) :
    Takes (Patch.reader (depth + 1)) patch.toValue patch := by
  have hmodule := patch.module.takes
  have hmode := patch.mode.takes depth
  refine takes_record (.cons rfl (hmodule.map _) (.cons rfl ((takes_stringAs _ patch.find).map _)
    (.cons rfl ((takes_stringAs _ patch.replace).map _) (.cons rfl (hmode.map _) (.nil _))))) ?_
  rfl

end Patch

theorem Alias.takes (a : Alias) (depth : Nat) : Takes (Alias.reader (depth + 1)) a.toValue a := by
  refine takes_record (.cons rfl (a.source.takes.map _)
    (.cons rfl (a.target.takes.map _) (.nil _))) ?_
  rfl

/-! ## Tables -/

namespace RuleTable

theorem takes (table : RuleTable) (depth : Nat) :
    Takes (reader (depth + 6)) table.toValue table := by
  have hfamilies := takes_map (fun family => Family.takes family depth) table.families
  have hpatches := takes_map (fun patch => Patch.takes patch (depth + 3)) table.patches
  have haliases := takes_map (fun a => Alias.takes a (depth + 3)) table.aliases
  have hsuppressed : Takes (readList (depth + 5) fun _ => ModuleName.reader)
      (.array (table.suppressed.map ModuleName.toValue)) table.suppressed :=
    takes_map ModuleName.takes table.suppressed
  refine takes_record_map (.cons rfl (hfamilies.map _) (.cons rfl (hpatches.map _)
    (.cons rfl (haliases.map _) (.cons rfl (hsuppressed.map _) (.nil _))))) ?_
  rfl

theorem ofText_toText (table : RuleTable) : ofText table.toText = .ok table := by
  have hinput : Json.ofText table.toText = table.toValue.written := by
    rw [Json.ofText, toText, Value.render, String.toList_ofList, Value.written]
  have htakes : Takes (reader maxDepth) table.toValue table := table.takes 121
  rw [ofText, readWhole, hinput, readDocument_written htakes]

/-- Every table is what is read from its text, and from the bytes that encode this text. -/
theorem ofBytes_toBytes (table : RuleTable) :
    String.fromUTF8? table.toBytes = some table.toText ∧
    ofBytes table.toBytes = .ok table ∧ ofText table.toText = .ok table := by
  have htext : String.fromUTF8? table.toBytes = some table.toText :=
    dif_pos table.toText.isValidUTF8
  refine ⟨htext, ?_, ofText_toText table⟩
  rw [ofBytes, Json.ofBytes, htext]
  exact ofText_toText table

end RuleTable

end HiddenImports
