import Mathlib.Data.List.TakeWhile
import Mathlib.Tactic.SplitIfs
import HiddenImports.Fault
import HiddenImports.Proofs.VersionText

/-!
# The grammar of versions

A version is written as one, two or three numbers with dots between them and blanks around them, and a
number as digits after an optional plus sign (`Version.Spells`). Reading accepts just that, whatever
zeros lead a number, and any other text is refused as it was given (`ofText_iff_spells`).
-/

namespace HiddenImports

/-! ## Trimming -/

namespace Text

variable {before body after : List Char}

theorem trim_append (hbefore : ∀ c ∈ before, isBlank c = true) (hbody : ∀ c ∈ body, isBlank c = false)
    (hafter : ∀ c ∈ after, isBlank c = true) : trim (before ++ body ++ after) = body := by
  have hback : ∀ c ∈ after.reverse, isBlank c = true := fun c hc => hafter c (List.mem_reverse.1 hc)
  have hbody' : ∀ c ∈ body.reverse, isBlank c = false := fun c hc => hbody c (List.mem_reverse.1 hc)
  rw [trim, List.append_assoc, List.dropWhile_append_of_pos hbefore]
  rcases body with _ | ⟨c, rest⟩
  · have hnil : after.dropWhile isBlank = [] := List.dropWhile_eq_nil_iff.2 hafter
    rw [List.nil_append, hnil]
    rfl
  · rw [List.cons_append, List.dropWhile_cons_of_neg (by simp [hbody c]), ← List.cons_append,
      List.reverse_append, List.dropWhile_append_of_pos hback, dropWhile_isBlank hbody',
      List.reverse_reverse]

theorem exists_eq_append_trim (cs : List Char) : ∃ before after, cs = before ++ trim cs ++ after ∧
    (∀ c ∈ before, isBlank c = true) ∧ ∀ c ∈ after, isBlank c = true := by
  refine ⟨cs.takeWhile isBlank, ((cs.dropWhile isBlank).reverse.takeWhile isBlank).reverse, ?_,
    fun c hc => List.mem_takeWhile_imp hc, fun c hc => List.mem_takeWhile_imp (List.mem_reverse.1 hc)⟩
  rw [trim, List.append_assoc, ← List.reverse_append, List.takeWhile_append_dropWhile,
    List.reverse_reverse, List.takeWhile_append_dropWhile]

theorem mem_intercalate {sep : List Char} {c : Char} : ∀ {parts : List (List Char)},
    c ∈ List.intercalate sep parts → c ∈ sep ∨ ∃ part ∈ parts, c ∈ part
  | [], h => by simp at h
  | [part], h => .inr ⟨part, by simp, by simpa using h⟩
  | part :: next :: rest, h => by
    rw [List.intercalate_cons_cons, List.append_assoc] at h
    rcases List.mem_append.1 h with h | h
    · exact .inr ⟨part, by simp, h⟩
    · rcases List.mem_append.1 h with h | h
      · exact .inl h
      · rcases mem_intercalate h with h | ⟨other, hother, h⟩
        · exact .inl h
        · exact .inr ⟨other, List.mem_cons_of_mem _ hother, h⟩

end Text

namespace Version

/-! ## Numbers -/

/-- The text is an optional plus sign and then digits, at least one, with the value `n`. -/
def Numeral (text : List Char) (n : UInt8) : Prop :=
  ∃ sign digits, text = sign ++ digits ∧ (sign = [] ∨ sign = ['+']) ∧ digits ≠ [] ∧
    (∀ c ∈ digits, c.isDigit = true) ∧ Nat.ofDigitChars 10 digits 0 = n.toNat

variable {text : List Char} {n : UInt8}

theorem readNumber?_plus {digits : List Char} (hdigits : ∀ c ∈ digits, c.isDigit = true) :
    readNumber? ('+' :: digits) = readNumber? digits := by
  unfold readNumber?
  rcases digits with _ | ⟨c, rest⟩
  · rfl
  · have hc : c ≠ '+' := by
      rintro rfl
      exact absurd (hdigits '+' (by simp)) (by decide)
    simp [hc]

theorem readNumber?_of_numeral (h : Numeral text n) : readNumber? text = some n := by
  obtain ⟨sign, digits, rfl, hsign, hne, hdigits, hvalue⟩ := h
  have hsmall : n.toNat ≤ 255 := by
    have := n.toNat_lt
    omega
  have hread : readNumber? digits = some n := by
    rw [readNumber?_of_digits hne hdigits, readDigits_eq, hvalue, if_pos hsmall, UInt8.ofNat_toNat]
  rcases hsign with rfl | rfl
  · exact hread
  · exact (readNumber?_plus hdigits).trans hread

theorem numeral_of_readNumber? (h : readNumber? text = some n) : Numeral text n := by
  obtain ⟨sign, digits, rfl, hsign, hread⟩ : ∃ sign digits, text = sign ++ digits ∧
      (sign = [] ∨ sign = ['+']) ∧ (if digits.isEmpty || !digits.all Char.isDigit then none
        else if readDigits digits ≤ 255 then some (UInt8.ofNat (readDigits digits)) else none) =
          some n := by
    unfold readNumber? at h
    split at h
    · exact ⟨['+'], _, rfl, .inr rfl, h⟩
    · exact ⟨[], text, rfl, .inl rfl, h⟩
  split_ifs at hread with hbad hsmall
  simp only [Bool.or_eq_true, List.isEmpty_iff, Bool.not_eq_true', List.all_eq_false, not_or,
    not_exists, not_and, Bool.not_eq_true, Bool.not_eq_false] at hbad
  cases hread
  refine ⟨sign, digits, rfl, hsign, hbad.1, hbad.2, ?_⟩
  rw [← readDigits_eq, UInt8.toNat_ofNat_of_lt']
  exact Nat.lt_succ_of_le hsmall

theorem readNumber?_eq_some_iff : readNumber? text = some n ↔ Numeral text n :=
  ⟨numeral_of_readNumber?, readNumber?_of_numeral⟩

theorem Numeral.mem_cases (h : Numeral text n) {c : Char} (hc : c ∈ text) :
    c = '+' ∨ c.isDigit = true := by
  obtain ⟨sign, digits, rfl, hsign, -, hdigits, -⟩ := h
  rcases List.mem_append.1 hc with hc | hc
  · rcases hsign with rfl | rfl
    · cases hc
    · exact .inl (List.mem_singleton.1 hc)
  · exact .inr (hdigits c hc)

theorem Numeral.dot_notMem (h : Numeral text n) : '.' ∉ text := by
  intro hc
  rcases h.mem_cases hc with hc | hc
  · exact absurd hc (by decide)
  · exact absurd hc (by decide)

theorem Numeral.not_blank (h : Numeral text n) {c : Char} (hc : c ∈ text) :
    Text.isBlank c = false := by
  rcases h.mem_cases hc with rfl | hc
  · decide
  · exact Text.isBlank_of_isDigit hc

/-! ## Versions -/

/-- The parts of a version: a major number, a minor one or none for zero, and perhaps a third one that
does not count. -/
inductive Spelled : List (List Char) → Version → Prop where
  | major {a : List Char} {m : UInt8} : Numeral a m → Spelled [a] ⟨m, 0⟩
  | minor {a b : List Char} {m n : UInt8} : Numeral a m → Numeral b n → Spelled [a, b] ⟨m, n⟩
  | micro {a b c : List Char} {m n k : UInt8} : Numeral a m → Numeral b n → Numeral c k →
    Spelled [a, b, c] ⟨m, n⟩

/-- The text is a version: its parts joined by dots, with blanks around them. -/
def Spells (text : String) (v : Version) : Prop :=
  ∃ before parts after, text.toList = before ++ List.intercalate ['.'] parts ++ after ∧
    (∀ c ∈ before, Text.isBlank c = true) ∧ (∀ c ∈ after, Text.isBlank c = true) ∧ Spelled parts v

variable {parts : List (List Char)} {v : Version}

theorem Spelled.ne_nil (h : Spelled parts v) : parts ≠ [] := by
  rcases h with _ | _ | _ <;> simp

theorem Spelled.numeral (h : Spelled parts v) {part : List Char} (hpart : part ∈ parts) :
    ∃ n, Numeral part n := by
  rcases h with ha | ⟨ha, hb⟩ | ⟨ha, hb, hc⟩ <;>
    simp only [List.mem_cons, List.not_mem_nil, or_false] at hpart
  · exact hpart ▸ ⟨_, ha⟩
  · rcases hpart with rfl | rfl
    · exact ⟨_, ha⟩
    · exact ⟨_, hb⟩
  · rcases hpart with rfl | rfl | rfl
    · exact ⟨_, ha⟩
    · exact ⟨_, hb⟩
    · exact ⟨_, hc⟩

theorem Spelled.splitOn (h : Spelled parts v) :
    List.splitOn '.' (List.intercalate ['.'] parts) = parts := by
  refine List.splitOn_intercalate '.' (fun part hpart => ?_) h.ne_nil
  obtain ⟨n, hn⟩ := h.numeral hpart
  exact hn.dot_notMem

theorem Spelled.not_blank (h : Spelled parts v) :
    ∀ c ∈ List.intercalate ['.'] parts, Text.isBlank c = false := by
  intro c hc
  rcases Text.mem_intercalate hc with hc | ⟨part, hpart, hc⟩
  · rw [List.mem_singleton.1 hc]
    decide
  · obtain ⟨n, hn⟩ := h.numeral hpart
    exact hn.not_blank hc

theorem read?_eq_some_iff_spelled {text : String} :
    read? text = some v ↔ Spelled (List.splitOn '.' (Text.trim text.toList)) v := by
  unfold read?
  generalize List.splitOn '.' (Text.trim text.toList) = parts
  constructor
  · intro h
    split at h
    case h_4 => cases h
    all_goals simp only [Option.bind_eq_bind, Option.bind_eq_some_iff, Option.pure_def,
      Option.some.injEq, readNumber?_eq_some_iff] at h
    · obtain ⟨m, hm, rfl⟩ := h
      exact .major hm
    · obtain ⟨m, hm, n, hn, rfl⟩ := h
      exact .minor hm hn
    · obtain ⟨m, hm, n, hn, k, hk, rfl⟩ := h
      exact .micro hm hn hk
  · rintro (hm | ⟨hm, hn⟩ | ⟨hm, hn, hk⟩)
    · simp [readNumber?_of_numeral hm]
    · simp [readNumber?_of_numeral hm, readNumber?_of_numeral hn]
    · simp [readNumber?_of_numeral hm, readNumber?_of_numeral hn, readNumber?_of_numeral hk]

theorem read?_eq_some_iff_spells {text : String} : read? text = some v ↔ Spells text v := by
  rw [read?_eq_some_iff_spelled]
  constructor
  · intro h
    obtain ⟨before, after, htext, hbefore, hafter⟩ := Text.exists_eq_append_trim text.toList
    have hparts := @List.intercalate_splitOn _ (Text.trim text.toList) _ _ '.'
    exact ⟨before, _, after, by rw [hparts, ← htext], hbefore, hafter, h⟩
  · rintro ⟨before, parts, after, htext, hbefore, hafter, h⟩
    rw [htext, Text.trim_append hbefore h.not_blank hafter, h.splitOn]
    exact h

/-- A text is read as a version just if it spells that version, and any other text is refused as it
stands, blanks and all. -/
theorem ofText_iff_spells (text : String) :
    (∀ v, ofText text = .ok v ↔ Spells text v) ∧
      ∀ fault, ofText text = .error fault ↔
        fault = .invalidVersion text ∧ ∀ v, ¬ Spells text v := by
  simp only [← read?_eq_some_iff_spells]
  unfold ofText
  rcases read? text with _ | version
  · simp [eq_comm]
  · simp

-- zeros in front do not count, and neither does a third number
example : ofText " +3.011.0004\t" = .ok ⟨3, 11⟩ := by decide +kernel

end Version

end HiddenImports
