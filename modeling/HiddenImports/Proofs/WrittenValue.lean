import Mathlib.Data.List.Forall2
import HiddenImports.Proofs.EscapedText

/-!
# Written values are read back

`Takes` says of a reader that it takes a written value off the front of any input. A list takes its
elements if the reader of its elements does (`takes_list`), and a record takes its members if each of
its fields takes the value of its member (`Fills`); the loops behind them go from separator to
separator, and their fuel suffices because each separator is a part of the input.
-/

namespace HiddenImports.Json

variable {α β σ τ : Type} {rest : Input}

/-- The written form of a value, as input. -/
def Value.written (v : Value) : Input := (renderValue v).map some

/-- The reader takes the written form of `v` off the front of any input, and gives `a`. A list sees from
the first glyph that the value is no end. -/
structure Takes (read : Reader α) (v : Value) (a : α) : Prop where
  opens : ∃ g tail, v.written = g :: tail ∧ isGap g = false ∧ g ≠ some ']'
  read_append : ∀ rest, read (v.written ++ rest) = .ok (a, rest)

theorem skipGap_cons {g : Glyph} (h : isGap g = false) (rest : Input) :
    skipGap (g :: rest) = g :: rest := by
  rw [skipGap, List.dropWhile_cons_of_neg (by simp [h])]

namespace Takes

variable {read : Reader α} {v : Value} {a : α}

theorem map (h : Takes read v a) (f : α → β) : Takes (Reader.map f read) v (f a) where
  opens := h.opens
  read_append rest := by rw [Reader.map, h.read_append]

theorem refine (h : Takes read v a) {f : α → Except Mismatch β} {b : β} (hf : f a = .ok b) :
    Takes (Reader.refine read f) v b where
  opens := h.opens
  read_append rest := by
    rw [Reader.refine, h.read_append]
    simp only [hf]

end Takes

/-! ## Strings -/

/-- A written string, as input. -/
def writtenString (text : String) : Input := (renderString text).map some

theorem writtenString_append (text : String) (rest : Input) : writtenString text ++ rest =
    some '"' :: ((text.toList.flatMap escapeChar).map some ++ some '"' :: rest) := by
  simp [writtenString, renderString]

theorem written_string (text : String) : (Value.string text).written = writtenString text := by
  rw [Value.written, renderValue, writtenString]

theorem takes_stringAs (expected text : String) :
    Takes (readStringAs expected) (.string text) text where
  opens := ⟨some '"', _, rfl, rfl, by decide⟩
  read_append rest := by
    rw [written_string, writtenString_append, readStringAs, skipGap_cons rfl]
    exact stringBody_escaped text rest

/-! ## Arrays -/

/-- What stands before an element or a member that is not the first one. -/
def separator (first : Bool) : Input := if first then [] else [some ',']

/-- Written elements with their separators, where `first` tells whether none stands before them. -/
def writtenElements (first : Bool) : List Value → Input
  | [] => []
  | v :: more => separator first ++ v.written ++ writtenElements false more

theorem map_renderElements : ∀ vs : List Value,
    (renderElements vs).map some = writtenElements true vs
  | [] => rfl
  | [v] => by simp [renderElements, writtenElements, separator, Value.written]
  | v :: w :: more => by
    have ih := map_renderElements (w :: more)
    rw [renderElements, List.map_append, List.map_cons, ih]
    · simp [writtenElements, separator, Value.written]
    · simp

theorem length_le_writtenElements : ∀ vs : List Value,
    vs.length ≤ (writtenElements false vs).length
  | [] => by simp
  | v :: more => by
    have ih := length_le_writtenElements more
    simp only [writtenElements, separator, List.length_append, List.length_cons, List.length_nil,
      Bool.false_eq_true, if_false]
    omega

theorem length_le_writtenElements_succ (first : Bool) : ∀ vs : List Value,
    vs.length ≤ (writtenElements first vs).length + 1
  | [] => by simp
  | v :: more => by
    have ih := length_le_writtenElements more
    simp only [writtenElements, List.length_append, List.length_cons]
    omega

section Elements

variable {item : Reader α} {vs : List Value} {as : List α}

theorem nextElement_end (first : Bool) :
    nextElement first item (some ']' :: rest) = .ok (none, some ']' :: rest) := by
  rw [nextElement, skipGap_cons rfl]
  rfl

theorem nextElement_written {v : Value} {a : α} (h : Takes item v a) (first : Bool) (rest : Input) :
    nextElement first item (separator first ++ v.written ++ rest) = .ok (some a, rest) := by
  obtain ⟨g, tail, hwritten, hgap, hend⟩ := h.opens
  have hitem := (h.map some).read_append rest
  rw [hwritten] at hitem ⊢
  -- the first element is at the front, and any other one behind its comma
  cases first with
  | true =>
    rw [separator, if_pos rfl, List.nil_append, List.cons_append, nextElement, skipGap_cons hgap]
    simpa [hend] using hitem
  | false =>
    rw [separator, if_neg (by decide), List.cons_append, List.nil_append, List.cons_append,
      List.cons_append, nextElement, skipGap_cons rfl]
    simp only [skipGap_cons hgap]
    simpa [hend] using hitem

/-- The loop over elements takes all of them and stops at the end of the array. -/
theorem elements_written (h : List.Forall₂ (Takes item) vs as) :
    ∀ {fuel : Nat} {first : Bool}, vs.length < fuel →
      elements item fuel first (writtenElements first vs ++ some ']' :: rest) =
        .ok (as, some ']' :: rest) := by
  -- each element costs one unit of fuel, and finding the end costs the last one
  induction h with
  | nil =>
    intro fuel first hfuel
    obtain ⟨fuel, rfl⟩ := Nat.exists_eq_succ_of_ne_zero (Nat.ne_zero_of_lt hfuel)
    rw [writtenElements, List.nil_append, elements, nextElement_end]
  | cons hitem _ ih =>
    intro fuel first hfuel
    obtain ⟨fuel, rfl⟩ := Nat.exists_eq_succ_of_ne_zero (Nat.ne_zero_of_lt hfuel)
    rw [writtenElements, List.append_assoc, elements, nextElement_written hitem]
    simp only
    rw [ih (Nat.lt_of_succ_lt_succ hfuel)]

end Elements

theorem close_cons (closing : Char) (h : isGap (some closing) = false) (rest : Input) :
    close closing (some closing :: rest) = .ok rest := by
  rw [close, skipGap_cons h]
  simp

theorem closedBy_of_ok {inner : Reader α} {closing : Char} {input : Input} {a : α}
    (h : inner input = .ok (a, some closing :: rest)) (hgap : isGap (some closing) = false) :
    closedBy closing inner input = .ok (a, rest) := by
  rw [closedBy, h]
  simp only [close_cons closing hgap]

theorem written_array (vs : List Value) :
    (Value.array vs).written = some '[' :: (writtenElements true vs ++ [some ']']) := by
  simp [Value.written, renderValue, map_renderElements]

theorem takes_array {read : Reader α} {vs : List Value} {a : α}
    (h : ∀ rest, read (some '[' :: (writtenElements true vs ++ some ']' :: rest)) = .ok (a, rest)) :
    Takes read (.array vs) a where
  opens := ⟨some '[', _, written_array vs, rfl, by decide⟩
  read_append rest := by
    rw [written_array, List.cons_append, List.append_assoc, List.singleton_append]
    exact h rest

/-- The contents of an array, up to its closing bracket. -/
theorem closedBy_elements {item : Reader α} {vs : List Value} {as : List α}
    (h : List.Forall₂ (Takes item) vs as) (rest : Input) :
    closedBy ']' (elements item ((writtenElements true vs ++ some ']' :: rest).length + 1) true)
      (writtenElements true vs ++ some ']' :: rest) = .ok (as, rest) := by
  have hfuel : vs.length < (writtenElements true vs ++ some ']' :: rest).length + 1 := by
    have := length_le_writtenElements_succ true vs
    rw [List.length_append, List.length_cons]
    omega
  exact closedBy_of_ok (elements_written h hfuel) rfl

/-- A list is read back if its elements are. -/
theorem takes_list {item : Nat → Reader α} {depth : Nat} {vs : List Value} {as : List α}
    (h : List.Forall₂ (Takes (item depth)) vs as) :
    Takes (readList (depth + 1) item) (.array vs) as := by
  refine takes_array fun rest => ?_
  rw [readList, skipGap_cons rfl]
  exact closedBy_elements h rest

/-! ## Objects -/

/-- Written members with their separators, where `first` tells whether none stands before them. -/
def writtenMembers (first : Bool) : List (String × Value) → Input
  | [] => []
  | (key, v) :: more =>
    separator first ++ (writtenString key ++ some ':' :: (v.written ++ writtenMembers false more))

theorem map_renderMembers : ∀ ms : List (String × Value),
    (renderMembers ms).map some = writtenMembers true ms
  | [] => rfl
  | [(key, v)] => by simp [renderMembers, writtenMembers, separator, Value.written, writtenString]
  | (key, v) :: m :: more => by
    have ih := map_renderMembers (m :: more)
    rw [renderMembers, List.map_append, List.map_cons, ih]
    · simp [writtenMembers, separator, Value.written, writtenString]
    · simp

theorem length_le_writtenMembers (first : Bool) : ∀ ms : List (String × Value),
    ms.length ≤ (writtenMembers first ms).length
  | [] => by simp
  | (key, v) :: more => by
    have ih := length_le_writtenMembers false more
    simp only [writtenMembers, List.length_append, List.length_cons]
    omega

theorem lt_length_writtenMembers_append (first : Bool) (ms : List (String × Value))
    (rest : Input) : ms.length < (writtenMembers first ms ++ rest).length + 1 := by
  have := length_le_writtenMembers first ms
  rw [List.length_append]
  omega

theorem written_object (ms : List (String × Value)) :
    (Value.object ms).written = some '\x7b' :: (writtenMembers true ms ++ [some '\x7d']) := by
  simp [Value.written, renderValue, map_renderMembers]

theorem takes_object {read : Reader α} {ms : List (String × Value)} {a : α}
    (h : ∀ rest, read (some '\x7b' :: (writtenMembers true ms ++ some '\x7d' :: rest)) =
      .ok (a, rest)) : Takes read (.object ms) a where
  opens := ⟨some '\x7b', _, written_object ms, rfl, by decide⟩
  read_append rest := by
    rw [written_object, List.cons_append, List.append_assoc, List.singleton_append]
    exact h rest

theorem nextKey_end (first : Bool) :
    nextKey first (some '\x7d' :: rest) = .ok (none, some '\x7d' :: rest) := by
  rw [nextKey, skipGap_cons rfl]
  rfl

theorem nextKey_written (first : Bool) (key : String) (rest : Input) :
    nextKey first (separator first ++ (writtenString key ++ rest)) = .ok (some key, rest) := by
  have hbody := stringBody_escaped key rest
  rw [writtenString_append]
  cases first with
  | true =>
    rw [separator, if_pos rfl, List.nil_append, nextKey, skipGap_cons rfl]
    simp [Reader.map, hbody]
  | false =>
    rw [separator, if_neg (by decide), List.singleton_append, nextKey, skipGap_cons rfl]
    simp only [skipGap_cons (g := some '"') rfl]
    simp [Reader.map, hbody]

theorem colon_cons (rest : Input) : colon (some ':' :: rest) = .ok rest :=
  close_cons ':' rfl rest

/-- The members of an object, each taken by its field, lead from one state to another. -/
inductive Fills (field : σ → String → Except Mismatch (Option (Reader σ))) :
    σ → List (String × Value) → σ → Prop
  | nil (s : σ) : Fills field s [] s
  | cons {s s' s'' : σ} {key : String} {v : Value} {more : List (String × Value)} {read : Reader σ}
    (hfield : field s key = .ok (some read)) (hread : Takes read v s')
    (hmore : Fills field s' more s'') : Fills field s ((key, v) :: more) s''

/-- The loop over members takes all of them and stops at the end of the object. -/
theorem members_written {field : σ → String → Except Mismatch (Option (Reader σ))} {s s' : σ}
    {ms : List (String × Value)} (h : Fills field s ms s') :
    ∀ {fuel : Nat} {first : Bool}, ms.length < fuel →
      members field fuel first s (writtenMembers first ms ++ some '\x7d' :: rest) =
        .ok (s', some '\x7d' :: rest) := by
  induction h with
  | nil =>
    intro fuel first hfuel
    obtain ⟨fuel, rfl⟩ := Nat.exists_eq_succ_of_ne_zero (Nat.ne_zero_of_lt hfuel)
    rw [writtenMembers, List.nil_append, members, nextKey_end]
  | cons hfield hread _ ih =>
    intro fuel first hfuel
    obtain ⟨fuel, rfl⟩ := Nat.exists_eq_succ_of_ne_zero (Nat.ne_zero_of_lt hfuel)
    simp only [writtenMembers, List.append_assoc, List.cons_append]
    rw [members, nextKey_written]
    simp only [hfield, colon_cons, hread.read_append]
    exact ih (Nat.lt_of_succ_lt_succ hfuel)

theorem readRecord_object {what : String} {depth : Nat} {object array : Nat → Reader α}
    {ms : List (String × Value)} {a : α}
    (h : ∀ rest, object depth (writtenMembers true ms ++ some '\x7d' :: rest) =
      .ok (a, some '\x7d' :: rest)) :
    Takes (readRecord what (depth + 1) object array) (.object ms) a := by
  refine takes_object fun rest => ?_
  rw [readRecord, skipGap_cons rfl]
  exact closedBy_of_ok (h rest) rfl

section Fields

variable {what : String} {depth : Nat} {array : Nat → Reader α}
  {field : Nat → σ → String → Except Mismatch (Option (Reader σ))} {s₀ s : σ}
  {ms : List (String × Value)} {a : α}

theorem members_append (h : Fills (field depth) s₀ ms s) (rest : Input) :
    members (field depth) ((writtenMembers true ms ++ some '\x7d' :: rest).length + 1) true s₀
      (writtenMembers true ms ++ some '\x7d' :: rest) = .ok (s, some '\x7d' :: rest) :=
  members_written h (lt_length_writtenMembers_append _ _ _)

/-- A record is read back if its fields take their members and what they leave can be put together. -/
theorem takes_record {finish : σ → Except Mismatch α} (h : Fills (field depth) s₀ ms s)
    (hs : finish s = .ok a) :
    Takes (readRecord what (depth + 1)
      (fun depth input => (members (field depth) (input.length + 1) true s₀).refine finish input)
      array) (.object ms) a := by
  refine readRecord_object fun rest => ?_
  simp only [Reader.refine, members_append h, hs]

theorem takes_record_map {finish : σ → α} (h : Fills (field depth) s₀ ms s) (hs : finish s = a) :
    Takes (readRecord what (depth + 1)
      (fun depth input => (members (field depth) (input.length + 1) true s₀).map finish input)
      array) (.object ms) a := by
  refine readRecord_object fun rest => ?_
  simp only [Reader.map, members_append h, hs]

end Fields

/-- A document that holds just a written value is read back. -/
theorem readDocument_written {read : Reader α} {v : Value} {a : α} (h : Takes read v a) :
    readDocument read v.written = .ok a := by
  have hread := h.read_append []
  rw [List.append_nil] at hread
  rw [readDocument, hread]
  rfl

end HiddenImports.Json
