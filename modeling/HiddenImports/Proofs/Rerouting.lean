import HiddenImports.Proofs.Layers

/-!
# Overridden aliases are reported

An overlay looks an alias up in the list that it changes on the way. As no source is met twice, what it
finds is still the alias of the base, so the records are those of the sources that both tables have with
two targets (`reroutings`), in the order of the upper table. They tell all that changes for the sources
of the base: the others keep their targets and their places (`overlay_reports_reroutings`).
-/

namespace HiddenImports

namespace Alias

variable {a b : Alias} {l : List Alias}

/-! ## Records -/

theorem records_override_put (h : a.source ≠ b.source) :
    (override (a.put l) b).records = (override l b).records := by
  unfold override
  rw [find?_put, if_neg h]

/-- The aliases put in before do not count, since they have other sources. -/
theorem records_foldlM_override : ∀ {top l : List Alias}, (top.map source).Nodup →
    (top.foldlM override l).records = top.flatMap fun a => (override l a).records
  | [], l, _ => rfl
  | a :: rest, l, h => by
    obtain ⟨hnew, hrest⟩ := List.nodup_cons.1 h
    have hsame : ∀ b ∈ rest, (override (a.put l) b).records = (override l b).records := by
      intro b hb
      refine records_override_put fun hs => hnew ?_
      rw [hs]
      exact List.mem_map_of_mem hb
    rw [List.foldlM_cons, Logged.records_bind, List.flatMap_cons]
    congr 1
    exact (records_foldlM_override hrest).trans (List.flatMap_congr hsame)

theorem exists_of_find?_eq_some {s t : ModuleName} (h : find? s l = some t) :
    ∃ a ∈ l, a.source = s ∧ a.target = t := by
  rw [find?, Option.map_eq_some_iff] at h
  obtain ⟨a, ha, htarget⟩ := h
  exact ⟨a, List.mem_of_find?_eq_some ha, by simpa using List.find?_some ha, htarget⟩

/-- The alias from which `a` takes the place, if the targets differ. -/
def rerouted? (l : List Alias) (a : Alias) : Option Alias :=
  (l.find? (·.source = a.source)).filter (·.target ≠ a.target)

theorem records_override (l : List Alias) (a : Alias) : (override l a).records =
    (rerouted? l a).toList.map fun b => a.overridden b.target := by
  simp only [override, find?, rerouted?]
  rcases hf : l.find? (·.source = a.source) with _ | b
  · rw [hf]
    rfl
  · rw [hf, Option.map_some, Option.filter_some, Option.filter_some]
    split <;> rfl

theorem rerouted?_eq_some_iff (h : (l.map source).Nodup) : rerouted? l a = some b ↔
    b ∈ l ∧ b.source = a.source ∧ b.target ≠ a.target := by
  rw [rerouted?, Option.filter_eq_some_iff, find?_source_eq_some_iff h, decide_eq_true_iff, and_assoc]

end Alias

namespace RuleTable

variable {base top : RuleTable} {a b : Alias}

/-- The aliases of the base that get another target from above, each with the one that gives it, in the
order of the upper table. -/
def reroutings (base top : RuleTable) : List (Alias × Alias) :=
  top.aliases.filterMap fun a => (Alias.rerouted? base.aliases a).map (·, a)

theorem mem_reroutings_iff (h : (base.aliases.map Alias.source).Nodup) :
    (b, a) ∈ base.reroutings top ↔
      b ∈ base.aliases ∧ a ∈ top.aliases ∧ b.source = a.source ∧ b.target ≠ a.target := by
  simp only [reroutings, List.mem_filterMap, Option.map_eq_some_iff, Prod.mk.injEq,
    Alias.rerouted?_eq_some_iff h]
  constructor
  · rintro ⟨_, ha, _, ⟨hb, hsource, htarget⟩, rfl, rfl⟩
    exact ⟨hb, ha, hsource, htarget⟩
  · rintro ⟨hb, ha, hsource, htarget⟩
    exact ⟨a, ha, b, ⟨hb, hsource, htarget⟩, rfl, rfl⟩

theorem map_snd_reroutings_sublist (base top : RuleTable) :
    ((base.reroutings top).map Prod.snd).Sublist top.aliases := by
  unfold reroutings
  induction top.aliases with
  | nil => exact List.Sublist.refl _
  | cons a rest ih =>
    rw [List.filterMap_cons]
    rcases Alias.rerouted? base.aliases a with _ | b
    · exact ih.cons a
    · exact ih.cons_cons a

theorem records_overlay (h : (top.aliases.map Alias.source).Nodup) :
    (base.overlay top).records = (base.reroutings top).map fun r => r.2.overridden r.1.target := by
  unfold overlay reroutings
  rw [Logged.records_bind, Alias.records_foldlM_override h]
  simp only [Logged.records_pure, List.append_nil, Alias.records_override]
  induction top.aliases with
  | nil => rfl
  | cons a rest ih =>
    rw [List.flatMap_cons, List.filterMap_cons, ih]
    rcases Alias.rerouted? base.aliases a with _ | b <;> rfl

/-! ## Targets -/

theorem find?_aliases_overlay (h : (top.aliases.map Alias.source).Nodup) (source : ModuleName) :
    Alias.find? source (base.overlay top).value.aliases =
      (Alias.find? source top.aliases).or (Alias.find? source base.aliases) := by
  rw [value_overlay]
  exact Alias.find?_foldl_put base.aliases h

/-- A source of the base leads elsewhere just if it is rerouted. -/
theorem find?_aliases_overlay_ne_iff (hbase : (base.aliases.map Alias.source).Nodup)
    (htop : (top.aliases.map Alias.source).Nodup) (hb : b ∈ base.aliases) :
    Alias.find? b.source (base.overlay top).value.aliases ≠ some b.target ↔
      ∃ r ∈ base.reroutings top, r.1.source = b.source := by
  rw [find?_aliases_overlay htop, Alias.find?_of_mem hbase hb]
  constructor
  · intro hne
    rcases hf : Alias.find? b.source top.aliases with _ | target
    · rw [hf, Option.none_or] at hne
      exact absurd rfl hne
    · obtain ⟨a, ha, hsource, rfl⟩ := Alias.exists_of_find?_eq_some hf
      rw [hf, Option.some_or] at hne
      have htarget : b.target ≠ a.target := fun h => hne (congrArg some h.symm)
      exact ⟨(b, a), (mem_reroutings_iff hbase).2 ⟨hb, ha, hsource.symm, htarget⟩, rfl⟩
  · rintro ⟨⟨c, a⟩, hr, hcb⟩
    obtain ⟨hc, ha, hsource, htarget⟩ := (mem_reroutings_iff hbase).1 hr
    obtain rfl : c = b := List.inj_on_of_nodup_map hbase hc hb hcb
    rw [hsource, Alias.find?_of_mem htop ha, Option.some_or]
    exact fun h => htarget (Option.some.inj h).symm

/-- A source of the base keeps its place. -/
theorem exists_getElem?_aliases_overlay (top : RuleTable) {i : Nat} (hb : base.aliases[i]? = some b) :
    ∃ c, (base.overlay top).value.aliases[i]? = some c ∧ c.source = b.source := by
  have hprefix : base.aliases.map Alias.source <+:
      (base.overlay top).value.aliases.map Alias.source := by
    rw [value_overlay, Alias.map_source_foldl_put]
    exact ModuleName.prefix_foldl_addNew _ _
  obtain ⟨more, hmore⟩ := hprefix
  have hi : (base.aliases.map Alias.source)[i]? = some b.source := by simp [hb]
  have hwhole : ((base.overlay top).value.aliases.map Alias.source)[i]? = some b.source := by
    obtain ⟨hlt, -⟩ := List.getElem?_eq_some_iff.1 hi
    rw [← hmore, List.getElem?_append_left hlt, hi]
  simpa using hwhole

theorem getElem?_aliases_overlay (hbase : (base.aliases.map Alias.source).Nodup)
    (htop : (top.aliases.map Alias.source).Nodup) {i : Nat} (hb : base.aliases[i]? = some b)
    (hkept : ∀ r ∈ base.reroutings top, r.1.source ≠ b.source) :
    (base.overlay top).value.aliases[i]? = some b := by
  obtain ⟨c, hc, hsource⟩ := exists_getElem?_aliases_overlay top hb
  have htarget : Alias.find? b.source (base.overlay top).value.aliases = some b.target := by
    by_contra hne
    obtain ⟨r, hr, hrb⟩ :=
      (find?_aliases_overlay_ne_iff hbase htop (List.mem_of_getElem? hb)).1 hne
    exact hkept r hr hrb
  rw [← hsource, Alias.find?_of_mem (nodup_aliases_overlay top hbase) (List.mem_of_getElem? hc),
    Option.some.injEq] at htarget
  rw [hc, Option.some.injEq]
  cases b
  cases c
  cases hsource
  cases htarget
  rfl

/-- An overlay reports, in the order of the upper table, just the sources that both tables have with
different targets. So a source of the base leads elsewhere in the whole just if that is reported, and
any other one keeps its target and its place. -/
theorem overlay_reports_reroutings (hbase : (base.aliases.map Alias.source).Nodup)
    (htop : (top.aliases.map Alias.source).Nodup) :
    (base.overlay top).records = (base.reroutings top).map (fun r =>
        ⟨.warn, s!"Module alias overridden: {r.1.source} ({r.1.target} -> {r.2.target})"⟩) ∧
      ((base.reroutings top).map Prod.snd).Sublist top.aliases ∧
      (∀ b a, (b, a) ∈ base.reroutings top ↔
        b ∈ base.aliases ∧ a ∈ top.aliases ∧ b.source = a.source ∧ b.target ≠ a.target) ∧
      ∃ below whole, AliasTable.ofList base.aliases = .ok below ∧
        AliasTable.ofList (base.overlay top).value.aliases = .ok whole ∧
        (∀ b ∈ base.aliases, whole.target? b.source.text ≠ below.target? b.source.text ↔
          ∃ r ∈ base.reroutings top, r.1.source = b.source) ∧
        ∀ (i : Nat) (b : Alias), base.aliases[i]? = some b →
          (∀ r ∈ base.reroutings top, r.1.source ≠ b.source) →
            (base.overlay top).value.aliases[i]? = some b := by
  have hwhole := nodup_aliases_overlay top hbase
  refine ⟨?_, map_snd_reroutings_sublist base top, fun b a => mem_reroutings_iff hbase,
    ⟨base.aliases, hbase⟩, ⟨_, hwhole⟩, AliasTable.ofList_eq_ok_iff.2 ⟨hbase, rfl⟩,
    AliasTable.ofList_eq_ok_iff.2 ⟨hwhole, rfl⟩, fun b hb => ?_,
    fun i b hb hkept => getElem?_aliases_overlay hbase htop hb hkept⟩
  · rw [records_overlay htop]
    refine List.map_congr_left fun r hr => ?_
    obtain ⟨-, -, hsource, -⟩ := (mem_reroutings_iff hbase).1 hr
    rw [hsource]
    rfl
  · rw [← find?_aliases_overlay_ne_iff hbase htop hb, AliasTable.target?_text,
      AliasTable.target?_text, Alias.find?_of_mem hbase hb]
    have htext : Function.Injective ModuleName.text := fun _ _ => ModuleName.eq_of_text_eq
    exact (Option.map_injective htext).ne_iff

theorem overlay_reports_reroutings_moved :
    let a : ModuleName := ⟨"a", by decide⟩
    let b : ModuleName := ⟨"b", by decide⟩
    let c : ModuleName := ⟨"c", by decide⟩
    let x : ModuleName := ⟨"x", by decide⟩
    let y : ModuleName := ⟨"y", by decide⟩
    let base : RuleTable := { aliases := [⟨a, x⟩, ⟨b, x⟩, ⟨c, x⟩] }
    let top : RuleTable := { aliases := [⟨c, y⟩, ⟨x, y⟩, ⟨b, x⟩, ⟨a, y⟩] }
    (base.aliases.map Alias.source).Nodup ∧ (top.aliases.map Alias.source).Nodup ∧
      (base.overlay top).records = [⟨.warn, "Module alias overridden: c (x -> y)"⟩,
        ⟨.warn, "Module alias overridden: a (x -> y)"⟩] ∧
      (base.overlay top).value.aliases[1]? = some ⟨b, x⟩ := by
  intro a b c x y base top
  have hbase : (base.aliases.map Alias.source).Nodup := by decide
  have htop : (top.aliases.map Alias.source).Nodup := by decide
  obtain ⟨hrecords, -, -, _, _, -, -, -, hkept⟩ := overlay_reports_reroutings hbase htop
  exact ⟨hbase, htop, hrecords.trans (by decide), hkept 1 ⟨b, x⟩ rfl (by decide)⟩

end RuleTable

end HiddenImports
