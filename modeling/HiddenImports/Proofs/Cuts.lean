import HiddenImports.Proofs.LiteralRun

/-!
# What a run of literal patches rewrites

Replacing acts on both sides of an insertion that the search text does not overlap as if the insertion
were not there (`replaceAll_around`). So each replacer of a module only cuts up the gaps that the
earlier ones left of the source (`Woven.edit`). After the run the source and its rewriting have the same
gaps, with search texts between them in the one and their replacements in the other
(`exists_cuts`): no replacement is cut, and nothing is cut twice.
-/

namespace HiddenImports

/-! ## Replacing around an insertion -/

namespace Text

variable {find inserted before after : List Char}

/-- A beginning of a join is one of the first part, or it goes on into the second. -/
theorem prefix_append_cases (h : find <+: before ++ after) :
    find <+: before ∨ ∃ beyond, beyond ≠ [] ∧ find = before ++ beyond ∧ beyond <+: after := by
  obtain ⟨rest, hrest⟩ := h
  rcases List.append_eq_append_iff.1 hrest with ⟨more, hmore, -⟩ | ⟨_ | ⟨c, beyond⟩, hfind, hafter⟩
  · exact .inl ⟨more, hmore.symm⟩
  · exact .inl ⟨[], by simp [hfind]⟩
  · exact .inr ⟨c :: beyond, by simp, hfind, rest, hafter.symm⟩

/-- An insertion that `find` does not overlap is passed over from any place inside it. -/
theorem replaceAll_suffix_append (h : ¬ Overlaps find inserted) (replacement after : List Char) :
    ∀ tail : List Char, tail <:+ inserted →
      replaceAll find replacement (tail ++ after) = tail ++ replaceAll find replacement after
  | [], _ => rfl
  | c :: tail, hsuffix => by
    have hp : ¬ find <+: (c :: tail) ++ after := by
      intro hp
      rcases prefix_append_cases hp with ⟨more, hmore⟩ | ⟨beyond, hbeyond, hfind, -⟩
      · obtain ⟨before, rfl⟩ := hsuffix
        exact h (.inl ⟨before, more, by rw [← hmore, List.append_assoc]⟩)
      · exact h (.inr (.inr ⟨c :: tail, beyond, by simp, hbeyond, hfind, .inl hsuffix⟩))
    rw [List.cons_append] at hp ⊢
    rw [replaceAll_cons replacement hp,
      replaceAll_suffix_append h replacement after tail ((List.suffix_cons c tail).trans hsuffix),
      List.cons_append]

/-- A text that does not begin with `find` does not begin with it before an insertion either, if `find`
does not overlap that. -/
theorem not_prefix_around (h : ¬ Overlaps find inserted) (hb : before ≠ [])
    (hp : ¬ find <+: before) (after : List Char) : ¬ find <+: before ++ (inserted ++ after) := by
  intro hp'
  obtain ⟨beyond, hbeyond, rfl, hin⟩ := (prefix_append_cases hp').resolve_left hp
  rcases prefix_append_cases hin with hin | ⟨more, -, rfl, -⟩
  · exact h (.inr (.inr ⟨before, beyond, hb, hbeyond, rfl, .inr hin⟩))
  · exact h (.inr (.inl ⟨before, more, by simp⟩))

/-- Replacing acts on both sides of an insertion that `find` does not overlap. -/
theorem replaceAll_around (hf : find ≠ []) (h : ¬ Overlaps find inserted)
    (replacement before after : List Char) :
    replaceAll find replacement (before ++ (inserted ++ after)) =
      replaceAll find replacement before ++ (inserted ++ replaceAll find replacement after) := by
  by_cases hp : find <+: before
  · obtain ⟨tail, rfl⟩ := hp
    have hlen : tail.length < (find ++ tail).length := by
      have := List.length_pos_iff.2 hf
      simp only [List.length_append]
      omega
    rw [List.append_assoc, replaceAll_find_append replacement hf,
      replaceAll_around hf h replacement tail after, replaceAll_find_append replacement hf,
      List.append_assoc]
  · rcases before with _ | ⟨c, tail⟩
    · exact replaceAll_suffix_append h replacement after inserted (List.suffix_refl _)
    · have hp' := not_prefix_around h (by simp) hp after
      rw [List.cons_append] at hp' ⊢
      rw [replaceAll_cons replacement hp', replaceAll_around hf h replacement tail after,
        replaceAll_cons replacement hp, List.cons_append]
termination_by before.length

end Text

/-! ## Texts with cuts -/

/-- A place where a patch is applied, and the text from there to the next such place. -/
structure Cut where
  patch : Patch
  gap : List Char

namespace Cut

/-- A beginning and then, for each cut, what is put there for its patch and the gap behind it. -/
def weave (put : Patch → String) : List Char → List Cut → List Char
  | lead, [] => lead
  | lead, cut :: rest => lead ++ ((put cut.patch).toList ++ weave put cut.gap rest)

theorem weave_append (put : Patch → String) (lead : List Char) (cuts : List Cut) (cut : Cut)
    (more : List Cut) : weave put lead (cuts ++ cut :: more) =
      weave put lead cuts ++ ((put cut.patch).toList ++ weave put cut.gap more) := by
  induction cuts generalizing lead with
  | nil => rfl
  | cons first rest ih => simp only [List.cons_append, weave, ih, List.append_assoc]

/-- Cuts by one patch leave the pieces of the text. -/
theorem weave_map_mk (put : Patch → String) (patch : Patch) (first : List Char)
    (pieces : List (List Char)) : weave put first (pieces.map (Cut.mk patch)) =
      (put patch).toList.intercalate (first :: pieces) := by
  induction pieces generalizing first with
  | nil => simp [weave]
  | cons second rest ih =>
    rw [List.map_cons, weave, ih, List.intercalate_cons_cons, List.append_assoc]

/-- Replacing in a woven text cuts up the gaps alone. -/
theorem exists_recut {ps : List Patch} {q : Patch} (hq : q ∈ ps) (hfind : q.find.toList ≠ [])
    (hapart : ∀ p ∈ ps, ¬ Text.Overlaps q.find.toList p.replace.toList) :
    ∀ (cuts : List Cut) (lead : List Char), (∀ cut ∈ cuts, cut.patch ∈ ps) →
      ∃ lead' cuts', (∀ cut ∈ cuts', cut.patch ∈ ps) ∧
        weave Patch.find lead' cuts' = weave Patch.find lead cuts ∧
        weave Patch.replace lead' cuts' =
          Text.replaceAll q.find.toList q.replace.toList (weave Patch.replace lead cuts)
  | [], lead, _ => by
    obtain ⟨first, pieces, hjoin, -, hreplace⟩ := Text.exists_pieces hfind lead
    refine ⟨first, pieces.map (Cut.mk q), ?_, ?_, ?_⟩
    · simp [hq]
    · rw [weave_map_mk, hjoin, weave]
    · rw [weave_map_mk, weave, hreplace]
  | cut :: rest, lead, hps => by
    obtain ⟨hcut, hrest⟩ := List.forall_mem_cons.1 hps
    obtain ⟨gap, cuts, hcuts, hsource, htext⟩ := exists_recut hq hfind hapart rest cut.gap hrest
    obtain ⟨first, pieces, hjoin, -, hreplace⟩ := Text.exists_pieces hfind lead
    refine ⟨first, pieces.map (Cut.mk q) ++ ⟨cut.patch, gap⟩ :: cuts, ?_, ?_, ?_⟩
    · intro c hc
      rcases List.mem_append.1 hc with hc | hc
      · obtain ⟨piece, -, rfl⟩ := List.mem_map.1 hc
        exact hq
      · rcases List.mem_cons.1 hc with rfl | hc
        · exact hcut
        · exact hcuts c hc
    · rw [weave_append, weave_map_mk, hjoin, hsource, weave]
    · rw [weave_append, weave_map_mk, htext, weave,
        Text.replaceAll_around hfind (hapart cut.patch hcut), hreplace]

/-- What stands in a gap stands in the whole text. -/
theorem occurs_weave (put : Patch → String) {find gap : List Char} (h : Text.Occurs find gap) :
    ∀ {cuts : List Cut} {lead : List Char}, gap ∈ lead :: cuts.map Cut.gap →
      Text.Occurs find (weave put lead cuts)
  | [], lead, hgap => by
    rw [List.map_nil, List.mem_singleton] at hgap
    rw [weave, ← hgap]
    exact h
  | cut :: rest, lead, hgap => by
    rcases List.mem_cons.1 hgap with rfl | hgap
    · exact h.append_right _
    · exact ((occurs_weave put h hgap).append_left _).append_left _

end Cut

/-- The text is the source with patches from `ps` applied at some places. -/
def Woven (ps : List Patch) (source text : List Char) : Prop :=
  ∃ lead cuts, (∀ cut ∈ cuts, cut.patch ∈ ps) ∧
    Cut.weave Patch.find lead cuts = source ∧ Cut.weave Patch.replace lead cuts = text

namespace Woven

variable {ps : List Patch} {source : List Char}

theorem refl (ps : List Patch) (source : List Char) : Woven ps source source :=
  ⟨source, [], by simp, rfl, rfl⟩

theorem edit {q : Patch} (hq : q ∈ ps) (hfind : q.find.toList ≠ [])
    (hapart : ∀ p ∈ ps, ¬ Text.Overlaps q.find.toList p.replace.toList) {text : String}
    (h : Woven ps source text.toList) :
    Woven ps source (((Replacer.literal q.find q.replace).edit text).apply text).toList := by
  obtain ⟨lead, cuts, hcuts, hsource, htext⟩ := h
  obtain ⟨lead', cuts', hcuts', hsource', htext'⟩ := Cut.exists_recut hq hfind hapart cuts lead hcuts
  refine ⟨lead', cuts', hcuts', hsource'.trans hsource, ?_⟩
  rw [htext', htext, Replacer.toList_apply_edit_literal]

/-- Patches whose search texts overlap none of the replacements keep the text woven. -/
theorem run (hfind : ∀ p ∈ ps, p.find.toList ≠ [])
    (hapart : ∀ q ∈ ps, ∀ p ∈ ps, ¬ Text.Overlaps q.find.toList p.replace.toList) :
    ∀ {rs : List Replacer} {text : String}, (∀ r ∈ rs, ∃ p ∈ ps, r = .literal p.find p.replace) →
      Woven ps source text.toList → Woven ps source (Replacer.run rs text).toList
  | [], _, _, h => h
  | r :: rest, text, hrs, h => by
    obtain ⟨⟨q, hq, rfl⟩, hrest⟩ := List.forall_mem_cons.1 hrs
    rw [Replacer.run]
    exact run hfind hapart hrest (h.edit hq (hfind q hq) (hapart q hq))

end Woven

namespace PatchBook

variable {engine : Engine} {patches : List Patch} {book : PatchBook}

/-- Where all patches of a module are literal, its source and what the book makes of it have the same
gaps: between them stand search texts in the source and the replacements of the same patches in the
result. So each replacement stands for a stretch of the source and is kept as it is, and the gaps hold
nothing that is left to replace. -/
theorem exists_cuts (hb : buildWith engine patches = .ok book) (name : String)
    (hlit : ∀ patch ∈ patches, patch.module.text = name → patch.mode = .literal)
    (source : String) :
    ∃ lead cuts, (∀ cut ∈ cuts, cut.patch ∈ patches ∧ cut.patch.module.text = name) ∧
      source.toList = Cut.weave Patch.find lead cuts ∧
      (book.patched name source).toList = Cut.weave Patch.replace lead cuts ∧
      ∀ gap ∈ lead :: cuts.map Cut.gap, ∀ patch ∈ patches, patch.module.text = name →
        ¬ Text.Occurs patch.find.toList gap := by
  have hrun := patched_of_settled (settled_of_literal hb hlit source)
  have hown : ∀ p ∈ patches.filter (·.module.text == name),
      p ∈ patches ∧ p.module.text = name := by simp
  have hreplacers : ∀ r ∈ book.forModule name,
      ∃ p ∈ patches.filter (·.module.text == name), r = .literal p.find p.replace := by
    intro r hr
    obtain ⟨p, hp, hname, -, rfl⟩ := literal_of_mem_forModule hb hlit hr
    exact ⟨p, by simp [hp, hname], rfl⟩
  have hwoven : Woven (patches.filter (·.module.text == name)) source.toList
      (Replacer.run (book.forModule name) source).toList := by
    refine Woven.run (fun p hp => find_ne_nil hb (hown p hp).1) ?_ hreplacers (.refl _ _)
    exact fun q hq p hp => not_overlaps hb hlit (hown q hq).1 (hown q hq).2 (hown p hp).1 (hown p hp).2
  obtain ⟨lead, cuts, hcuts, hsource, htext⟩ := hwoven
  refine ⟨lead, cuts, fun cut hcut => hown _ (hcuts cut hcut), hsource.symm, ?_, ?_⟩
  · rw [hrun, htext]
  · intro gap hgap patch hpatch hname ho
    have hquiet := (inert_forModule hb hlit).not_hits_run source
    rw [hits_forModule_iff hb hlit] at hquiet
    exact hquiet ⟨patch, hpatch, hname, by rw [← htext]; exact Cut.occurs_weave _ ho hgap⟩

/-- Search texts that overlap each other, of which only one is found where they do. -/
def overlapping : List Patch := [
  { module := ⟨"pkg", isModuleName_pkg⟩, find := "abc", replace := "X" },
  { module := ⟨"pkg", isModuleName_pkg⟩, find := "cd", replace := "Y" }]

theorem exists_cuts_overlapping : ∃ book, build overlapping = .ok book ∧
    (∀ patch ∈ overlapping, patch.module.text = "pkg" → patch.mode = .literal) ∧
    book.patched "pkg" "abcd cd" = "Xd Y" ∧
    ∃ lead cuts, (∀ cut ∈ cuts, cut.patch ∈ overlapping ∧ cut.patch.module.text = "pkg") ∧
      "abcd cd".toList = Cut.weave Patch.find lead cuts ∧
      "Xd Y".toList = Cut.weave Patch.replace lead cuts := by
  obtain ⟨book, hb⟩ : ∃ book, build overlapping = .ok book := by decide +kernel
  have hlit : ∀ patch ∈ overlapping, patch.module.text = "pkg" → patch.mode = .literal := by
    decide +kernel
  have hvalue : (book.edit "pkg" "abcd cd").value = .changed "Xd Y" :=
    value_edit_of_map hb (by decide +kernel)
  have hpatched : book.patched "pkg" "abcd cd" = "Xd Y" := by rw [patched, hvalue]; rfl
  obtain ⟨lead, cuts, hcuts, hsource, htext, -⟩ := exists_cuts hb "pkg" hlit "abcd cd"
  rw [hpatched] at htext
  exact ⟨book, hb, hlit, hpatched, lead, cuts, hcuts, hsource, htext⟩

end PatchBook

end HiddenImports
