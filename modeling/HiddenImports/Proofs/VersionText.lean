import HiddenImports.Version

/-!
# Written versions are read back

The two numbers of a version are written with digits alone, so the dot between them is the only one
and no blank is trimmed (`read?_render`).
-/

namespace HiddenImports

theorem Text.isBlank_of_isDigit {c : Char} (h : c.isDigit = true) : isBlank c = false := by
  simp only [Char.isDigit, Bool.and_eq_true, decide_eq_true_eq] at h
  have hlow : 48 ≤ c.toNat := h.1
  have hhigh : c.toNat ≤ 57 := h.2
  simp only [isBlank, Bool.or_eq_false_iff, Bool.and_eq_false_iff, decide_eq_false_iff_not,
    beq_eq_false_iff_ne]
  omega

theorem Text.dropWhile_isBlank {cs : List Char} (h : ∀ c ∈ cs, isBlank c = false) :
    cs.dropWhile isBlank = cs := by
  cases cs with
  | nil => rfl
  | cons c cs => rw [List.dropWhile_cons_of_neg (by simp [h c])]

/-- A text without blanks is its own trimmed form. -/
theorem Text.trim_of_forall_not_blank {cs : List Char} (h : ∀ c ∈ cs, isBlank c = false) :
    trim cs = cs := by
  rw [trim, dropWhile_isBlank h, dropWhile_isBlank, List.reverse_reverse]
  intro c hc
  exact h c (List.mem_reverse.1 hc)

namespace Version

theorem readDigits_eq (digits : List Char) : readDigits digits = Nat.ofDigitChars 10 digits 0 := by
  have hsame : (fun (n : Nat) (c : Char) => n * 10 + (c.toNat - 48)) =
      fun n c => 10 * n + (c.toNat - '0'.toNat) := by
    funext n c
    rw [Nat.mul_comm]
    rfl
  rw [readDigits, hsame, ← Nat.ofDigitChars_eq_foldl]

theorem readDigits_toDigits (n : Nat) : readDigits (Nat.toDigits 10 n) = n := by
  rw [readDigits_eq, Nat.ofDigitChars_ten_toDigits]

theorem isDigit_of_mem_toDigits {n : Nat} {c : Char} (h : c ∈ Nat.toDigits 10 n) :
    c.isDigit = true :=
  Nat.isDigit_of_mem_toDigits (by decide) (by decide) h

theorem dot_notMem_toDigits (n : Nat) : '.' ∉ Nat.toDigits 10 n := by
  intro h
  exact absurd (isDigit_of_mem_toDigits h) (by decide)

/-- Digits without a sign are a number if they do not exceed the largest one. -/
theorem readNumber?_of_digits {digits : List Char} (hne : digits ≠ [])
    (hdigits : ∀ c ∈ digits, c.isDigit = true) : readNumber? digits =
      if readDigits digits ≤ 255 then some (UInt8.ofNat (readDigits digits)) else none := by
  have hall : ¬ ((digits.isEmpty || !digits.all Char.isDigit) = true) := by
    simp [hne, List.all_eq_true.2 hdigits]
  unfold readNumber?
  -- a sign in front would be no digit
  split
  · rename_i rest
    exact absurd (hdigits '+' (by simp)) (by decide)
  · exact if_neg hall

theorem readNumber?_toDigits (n : UInt8) : readNumber? (Nat.toDigits 10 n.toNat) = some n := by
  have hsmall : n.toNat ≤ 255 := by
    have := n.toNat_lt
    omega
  rw [readNumber?_of_digits Nat.toDigits_ne_nil fun c hc => isDigit_of_mem_toDigits hc,
    readDigits_toDigits, if_pos hsmall, UInt8.ofNat_toNat]

theorem toList_render (v : Version) : v.render.toList =
    Nat.toDigits 10 v.major.toNat ++ '.' :: Nat.toDigits 10 v.minor.toNat := by
  simp [render, toString, Nat.toList_repr]

/-- A written version is read back. -/
theorem read?_render (v : Version) : read? v.render = some v := by
  have hblank : ∀ c ∈ v.render.toList, Text.isBlank c = false := by
    intro c hc
    rw [toList_render, List.mem_append, List.mem_cons] at hc
    rcases hc with hc | rfl | hc
    · exact Text.isBlank_of_isDigit (isDigit_of_mem_toDigits hc)
    · decide
    · exact Text.isBlank_of_isDigit (isDigit_of_mem_toDigits hc)
  have hsplit : List.splitOn '.' v.render.toList =
      [Nat.toDigits 10 v.major.toNat, Nat.toDigits 10 v.minor.toNat] := by
    rw [toList_render, List.splitOn_append_cons_self_of_not_mem (dot_notMem_toDigits _),
      List.splitOn_eq_singleton (dot_notMem_toDigits _)]
  rw [read?, Text.trim_of_forall_not_blank hblank, hsplit]
  simp [readNumber?_toDigits]

end Version

end HiddenImports
