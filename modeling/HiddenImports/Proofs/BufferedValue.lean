import HiddenImports.Proofs.WrittenValue

/-!
# Buffered values are read back

A value that is made of strings and not nested too deeply is read back as it is (`takes_value`), with
one level less left in each container. A tagged object is read back as its tag and the members behind
it (`takes_tagged`).
-/

namespace HiddenImports.Json

variable {α τ : Type} {rest : Input}

/-- The value is made of strings alone and nested to at most the given depth. -/
inductive Value.Fits : Nat → Value → Prop
  | string (depth : Nat) (text : String) : Fits depth (.string text)
  | array {depth : Nat} {vs : List Value} (h : ∀ v ∈ vs, Fits depth v) : Fits (depth + 1) (.array vs)
  | object {depth : Nat} {ms : List (String × Value)} (h : ∀ m ∈ ms, Fits depth m.2) :
    Fits (depth + 1) (.object ms)

theorem readMembers_written {item : Reader α} {ms : List (String × Value)} {as : List (String × α)}
    (h : List.Forall₂ (fun m a => m.1 = a.1 ∧ Takes item m.2 a.2) ms as) :
    ∀ {fuel : Nat} {first : Bool}, ms.length < fuel →
      readMembers item fuel first (writtenMembers first ms ++ some '\x7d' :: rest) =
        .ok (as, some '\x7d' :: rest) := by
  induction h with
  | nil =>
    intro fuel first hfuel
    obtain ⟨fuel, rfl⟩ := Nat.exists_eq_succ_of_ne_zero (Nat.ne_zero_of_lt hfuel)
    rw [writtenMembers, List.nil_append, readMembers, nextKey_end]
  | @cons m a more as hma _ ih =>
    intro fuel first hfuel
    obtain ⟨fuel, rfl⟩ := Nat.exists_eq_succ_of_ne_zero (Nat.ne_zero_of_lt hfuel)
    obtain ⟨key, v⟩ := m
    obtain ⟨key', b⟩ := a
    obtain ⟨rfl, hread⟩ := hma
    simp only [writtenMembers, List.append_assoc, List.cons_append]
    rw [readMembers, nextKey_written]
    simp only [colon_cons, hread.read_append, ih (Nat.lt_of_succ_lt_succ hfuel)]

theorem readValue_string (depth : Nat) (text : String) (rest : Input) :
    readValue depth (writtenString text ++ rest) = .ok (.string text, rest) := by
  rw [writtenString_append]
  unfold readValue
  rw [skipGap_cons rfl]
  simp only [stringBody_escaped]
  rfl

/-- A value that fits is read back. -/
theorem takes_value {depth : Nat} {v : Value} (h : v.Fits depth) : Takes (readValue depth) v v := by
  induction h with
  | string depth text =>
    refine ⟨⟨some '"', _, rfl, rfl, by decide⟩, fun rest => ?_⟩
    rw [written_string]
    exact readValue_string depth text rest
  | @array depth vs _ ih =>
    have hvs : List.Forall₂ (Takes (readValue depth)) vs vs := List.forall₂_same.2 ih
    refine takes_array fun rest => ?_
    unfold readValue
    rw [skipGap_cons rfl]
    simp only [Reader.map]
    rw [closedBy_elements hvs rest]
  | @object depth ms _ ih =>
    have hms : List.Forall₂ (fun m a => m.1 = a.1 ∧ Takes (readValue depth) m.2 a.2) ms ms :=
      List.forall₂_same.2 fun m hm => ⟨rfl, ih m hm⟩
    refine takes_object fun rest => ?_
    unfold readValue
    rw [skipGap_cons rfl]
    simp only [Reader.map]
    rw [closedBy_of_ok (readMembers_written hms (lt_length_writtenMembers_append _ _ _)) rfl]

/-! ## Tagged objects -/

/-- The loop over the members behind the tag takes all of them. -/
theorem taggedMembers_written {tagName : String} {tag : Reader τ} {item : Reader α} {t : τ}
    {ms : List (String × Value)} {as : List (String × α)} (hname : ∀ m ∈ ms, m.1 ≠ tagName)
    (h : List.Forall₂ (fun m a => m.1 = a.1 ∧ Takes item m.2 a.2) ms as) :
    ∀ {fuel : Nat} {first : Bool}, ms.length < fuel →
      taggedMembers tagName tag item fuel first (some t)
          (writtenMembers first ms ++ some '\x7d' :: rest) =
        .ok ((some t, as), some '\x7d' :: rest) := by
  -- the tag is known already, so a member with its name would be taken for a second one
  induction h with
  | nil =>
    intro fuel first hfuel
    obtain ⟨fuel, rfl⟩ := Nat.exists_eq_succ_of_ne_zero (Nat.ne_zero_of_lt hfuel)
    rw [writtenMembers, List.nil_append, taggedMembers, nextKey_end]
  | @cons m a more as hma _ ih =>
    intro fuel first hfuel
    obtain ⟨fuel, rfl⟩ := Nat.exists_eq_succ_of_ne_zero (Nat.ne_zero_of_lt hfuel)
    obtain ⟨key, v⟩ := m
    obtain ⟨key', b⟩ := a
    obtain ⟨rfl, hread⟩ := hma
    obtain ⟨hkey, hmore⟩ := List.forall_mem_cons.1 hname
    simp only [writtenMembers, List.append_assoc, List.cons_append]
    rw [taggedMembers, nextKey_written]
    simp only [beq_iff_eq, hkey, if_false, colon_cons, hread.read_append,
      ih hmore (Nat.lt_of_succ_lt_succ hfuel)]

/-- A tagged object is read back as its tag and the members behind it. -/
theorem takes_tagged {what tagName : String} {tag : Reader τ} {kind : Value} {t : τ} {depth : Nat}
    {ms : List (String × Value)} (htag : Takes tag kind t)
    (hms : ∀ m ∈ ms, m.1 ≠ tagName ∧ m.2.Fits depth) :
    Takes (readTagged what tagName tag (depth + 1)) (.object ((tagName, kind) :: ms))
      ⟨t, .object ms⟩ := by
  have hvalues : List.Forall₂ (fun m a => m.1 = a.1 ∧ Takes (readValue depth) m.2 a.2) ms ms :=
    List.forall₂_same.2 fun m hm => ⟨rfl, takes_value (hms m hm).2⟩
  refine readRecord_object fun rest => ?_
  have hfuel := lt_length_writtenMembers_append true ((tagName, kind) :: ms) (some '\x7d' :: rest)
  simp only [writtenMembers, List.append_assoc, List.cons_append, List.length_cons] at hfuel ⊢
  rw [taggedMembers, nextKey_written]
  simp only [beq_self_eq_true, if_true, colon_cons, htag.read_append]
  rw [taggedMembers_written (fun m hm => (hms m hm).1) hvalues (Nat.lt_of_succ_lt_succ hfuel)]

end HiddenImports.Json
