import Mathlib.Tactic.SplitIfs
import HiddenImports.Json.Value

/-!
# Written strings are read back

Reading undoes the escape of each character (`stringBody_escapeChar`), so a written string is read
back whatever its characters are and whatever follows it (`stringBody_escaped`).
-/

namespace HiddenImports.Json

theorem hexDigit?_hexDigit : ∀ n < 16, hexDigit? (hexDigit n) = some n := by decide

theorem hexDigit_utf8Size : ∀ n < 16, (hexDigit n).utf8Size = 1 := by decide

theorem toNat_lt_of_lt_space {c : Char} (h : c < ' ') : c.toNat < 32 := h

/-- The four digits of an escaped control character give its number. -/
theorem stringBody_hex {n : Nat} (h : n < 256) (done : List Glyph) (rest : Input) :
    stringBody (.hex 4 0 none) done
        (some '0' :: some '0' :: some (hexDigit (n / 16)) :: some (hexDigit (n % 16)) :: rest) =
      stringBody .plain (some (Char.ofNat n) :: done) rest := by
  have hhigh := hexDigit?_hexDigit (n / 16) (by omega)
  have hlow := hexDigit?_hexDigit (n % 16) (by omega)
  have hzero : hexDigit? '0' = some 0 := by decide
  have hvalue : n / 16 * 16 + n % 16 = n := by omega
  have hfinish : finishHex n none = .ok ([some (Char.ofNat n)], .plain) := by
    unfold finishHex
    rw [if_neg, if_neg]
    · simp only [Bool.and_eq_true, decide_eq_true_eq]
      omega
    · simp only [Bool.and_eq_true, decide_eq_true_eq]
      omega
  simp [stringBody, hzero, hhigh, hlow, hvalue, hfinish]

theorem roomForHex_hex {n : Nat} (h : n < 256) (rest : Input) :
    roomForHex (some '0' :: some '0' :: some (hexDigit (n / 16)) :: some (hexDigit (n % 16)) :: rest)
      = true := by
  have hhigh := hexDigit_utf8Size (n / 16) (by omega)
  have hlow := hexDigit_utf8Size (n % 16) (by omega)
  have hzero : '0'.utf8Size = 1 := by decide
  simp [roomForHex, Glyph.size, hhigh, hlow, hzero]

/-- Reading a written character puts it after those read before. -/
theorem stringBody_escapeChar (c : Char) (done : List Glyph) (rest : Input) :
    stringBody .plain done ((escapeChar c).map some ++ rest) =
      stringBody .plain (some c :: done) rest := by
  unfold escapeChar
  -- one case for each letter escape, then the numeric one, then the characters written as they are
  split_ifs with h1 h2 h3 h4 h5 h6 h7 h8
  · rw [h1]; rfl
  · rw [h2]; rfl
  · rw [h3]; rfl
  · rw [h4]; rfl
  · rw [h5]; rfl
  · rw [h6]; rfl
  · rw [h7]; rfl
  · have hsmall : c.toNat < 256 := by
      have := toNat_lt_of_lt_space h8
      omega
    have hroom := roomForHex_hex hsmall rest
    have hhex := stringBody_hex hsmall done rest
    simp only [List.map_cons, List.map_nil, List.cons_append, List.nil_append]
    rw [Char.ofNat_toNat] at hhex
    rw [← hhex]
    simp [stringBody, hroom]
  · simp [stringBody, h1, h2, h8]

theorem stringBody_flatMap_escapeChar (cs : List Char) : ∀ (done : List Glyph) (rest : Input),
    stringBody .plain done ((cs.flatMap escapeChar).map some ++ rest) =
      stringBody .plain ((cs.map some).reverse ++ done) rest := by
  induction cs with
  | nil => intro done rest; rfl
  | cons c cs ih =>
    intro done rest
    rw [List.flatMap_cons, List.map_append, List.append_assoc, stringBody_escapeChar, ih]
    simp

theorem textOf_reverse_map_some (cs : List Char) :
    textOf (cs.map some).reverse = .ok (String.ofList cs) := by
  have hall : (cs.map some).mapM id = some cs := by
    induction cs with
    | nil => rfl
    | cons c cs ih => simp [ih]
  rw [textOf, List.reverse_reverse, hall]

/-- A written string, whatever its characters and whatever comes behind it, is read back. -/
theorem stringBody_escaped (text : String) (rest : Input) :
    stringBody .plain [] ((text.toList.flatMap escapeChar).map some ++ some '"' :: rest) =
      .ok (text, rest) := by
  rw [stringBody_flatMap_escapeChar, List.append_nil, stringBody]
  simp [textOf_reverse_map_some]

end HiddenImports.Json
