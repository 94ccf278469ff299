import HiddenImports.Decimal.Binary64

/-!
# The shortest decimal text of a double

Of the decimals that read back as a given double, `shortest` takes one with the fewest digits, and of
those the nearest. It tries the grids of one, two, … seventeen significant digits in turn, and on each
the two neighbours of the value. `Binary64.render` writes the digits: positional notation for moderate
exponents, otherwise with an exponent that has a sign.
-/

namespace HiddenImports.Decimal

/-- The decimal exponent of the leading digit of `num / den`, for a positive quotient. -/
def leadingExponent (num den : Nat) : Int :=
  if den ≤ num then ((Nat.toDigits 10 (num / den)).length : Int) - 1 else below num 1100
where
  /-- The exponent of a quotient below one, one step per power of ten. -/
  below (num : Nat) : Nat → Int
    | 0 => 0
    | steps + 1 => if den ≤ num then 0 else below (num * 10) steps - 1

/-- The digits, as a number, and the exponent of the last one. -/
structure Digits where
  value : Nat
  exponent : Int

/-- The nearer neighbour of `num / den` on the grid of step `10 ^ step` that lies between the bounds
`lo / den` and `hi / den`; `closed` tells whether the bounds count. -/
def onGrid (num lo hi den : Nat) (closed : Bool) (step : Int) : Option Nat :=
  let grid := Nat.pow 10 step.natAbs
  -- everything over one denominator, so that a grid point `k` stands at `k * unit`
  let (v, l, h, unit) :=
    if 0 ≤ step then (num, lo, hi, den * grid) else (num * grid, lo * grid, hi * grid, den)
  let fits := fun k : Nat =>
    if closed then l ≤ k * unit && k * unit ≤ h else l < k * unit && k * unit < h
  let near := Binary64.roundDiv v unit
  let far := if near * unit ≤ v then near + 1 else near - 1
  if near != 0 && fits near then some near
  else if far != 0 && fits far then some far
  else none

/-- The shortest decimal that reads back as a positive double. -/
def shortest (x : Binary64) : Digits :=
  let (num, den) := x.ratio
  -- four times the value, so that the bounds are whole numbers over the same denominator
  let value := 4 * num
  let unit := if 0 ≤ x.exponent then Nat.pow 2 x.exponent.toNat else 1
  let below := if x.mantissa == Nat.pow 2 52 && x.exponent > -1074 then unit else 2 * unit
  let lead := leadingExponent num den
  let pick := fun digits : Nat =>
    let step : Int := lead + 1 - digits
    (onGrid value (value - below) (value + 2 * unit) (4 * den) (x.mantissa % 2 == 0) step).map
      fun k => (⟨k, step⟩ : Digits)
  ((List.range 17).findSome? fun i => pick (i + 1)).getD ⟨0, 0⟩

namespace Binary64

/-- Digits with the point after the first `place` of them, or with zeros filled in where it lies
outside. -/
def positional (digits : List Char) (place : Int) : List Char :=
  if place ≤ 0 then ['0', '.'] ++ List.replicate (-place).toNat '0' ++ digits
  else if place.toNat < digits.length then
    digits.take place.toNat ++ ['.'] ++ digits.drop place.toNat
  else digits ++ List.replicate (place.toNat - digits.length) '0' ++ ['.', '0']

/-- The text of a double: positional for numbers from `1e-5` up to `1e16`, and with an exponent
beyond. -/
def render (x : Binary64) : String :=
  let sign := if x.negative then "-" else ""
  if x.mantissa == 0 then sign ++ "0.0"
  else
    let found := shortest x
    let all := Nat.toDigits 10 found.value
    let digits := (all.reverse.dropWhile (· == '0')).reverse
    let lead : Int := found.exponent + all.length - 1
    if -5 ≤ lead && lead ≤ 15 then
      sign ++ String.ofList (positional digits (lead + 1))
    else
      let point := match digits with
        | [d] => [d]
        | d :: rest => d :: '.' :: rest
        | [] => []
      let mark := if lead < 0 then "e-" else "e+"
      sign ++ String.ofList point ++ mark ++ toString lead.natAbs

end Binary64

end HiddenImports.Decimal
