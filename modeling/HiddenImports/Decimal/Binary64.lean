/-!
# Double-precision numbers, exactly

A finite double is a sign, a mantissa below `2 ^ 53` and a power of two. Arithmetic on doubles is
exact arithmetic followed by one rounding, to the nearest double and to the even one of two that are
equally near: `Binary64.ofRatio` is that rounding.
-/

namespace HiddenImports.Decimal

/-- The finite double `± mantissa * 2 ^ exponent`. The mantissa has 53 bits unless the exponent is the
least one, `-1074`. -/
structure Binary64 where
  negative : Bool
  mantissa : Nat
  exponent : Int
  deriving DecidableEq, Repr

namespace Binary64

def zero : Binary64 := ⟨false, 0, -1074⟩

def negate (x : Binary64) : Binary64 := { x with negative := !x.negative }

/-- The quotient rounded to the nearest natural number, a half to the even one. -/
def roundDiv (num den : Nat) : Nat :=
  let q := num / den
  let r := num % den
  if 2 * r < den then q
  else if 2 * r > den then q + 1
  else if q % 2 == 0 then q else q + 1

/-- `num / (den * 2 ^ e)`, rounded. -/
def scaledDiv (num den : Nat) (e : Int) : Nat :=
  if 0 ≤ e then roundDiv num (den * Nat.pow 2 e.toNat)
  else roundDiv (num * Nat.pow 2 (-e).toNat) den

/-- The double nearest to `num / den`; `none` when it is beyond the largest one. -/
def ofRatio (num den : Nat) : Option Binary64 :=
  if num == 0 then some zero
  else
    let guess : Int := (num.log2 : Int) - (den.log2 : Int) - 52
    let short :=
      if 0 ≤ guess then num < den * Nat.pow 2 (guess.toNat + 52)
      else num * Nat.pow 2 (-guess).toNat < den * Nat.pow 2 52
    let e := max (if short then guess - 1 else guess) (-1074)
    let m := scaledDiv num den e
    let (m, e) := if m == Nat.pow 2 53 then (Nat.pow 2 52, e + 1) else (m, e)
    if e > 971 then none else some ⟨false, m, e⟩

/-- The absolute value as a quotient of natural numbers. -/
def ratio (x : Binary64) : Nat × Nat :=
  if 0 ≤ x.exponent then (x.mantissa * Nat.pow 2 x.exponent.toNat, 1)
  else (x.mantissa, Nat.pow 2 (-x.exponent).toNat)

/-- The rounded product of two doubles that are not negative. -/
def mul (x y : Binary64) : Option Binary64 :=
  ofRatio (x.ratio.1 * y.ratio.1) (x.ratio.2 * y.ratio.2)

/-- The rounded quotient of two doubles that are not negative, the second not zero. -/
def div (x y : Binary64) : Option Binary64 :=
  ofRatio (x.ratio.1 * y.ratio.2) (x.ratio.2 * y.ratio.1)

/-- The double nearest to `10 ^ k`, for `k ≤ 308`. -/
def powerOfTen (k : Nat) : Binary64 :=
  (ofRatio (Nat.pow 10 k) 1).getD zero

end Binary64

end HiddenImports.Decimal
