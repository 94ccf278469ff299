import HiddenImports.Json.Input

/-!
# Numbers in a document

`scanNumeral` takes a numeral off the input as its parts, and `Numeral.value` gives the number: a
whole number of 64 bits if it is one, otherwise a double. The double is computed as the leading digits
that fit 64 bits, times one power of ten, so it can be off the nearest one by a last place.
-/

namespace HiddenImports.Json

/-- The parts of a numeral. -/
structure Numeral where
  negative : Bool
  whole : List Char
  fraction : Option (List Char) := none
  /-- The digits of the exponent, and whether a minus sign stands before them. -/
  exponent : Option (Bool × List Char) := none

/-- The glyph is a decimal digit. -/
def isDigitGlyph (g : Glyph) : Bool :=
  g.any Char.isDigit

/-- The digits at the front of the input. -/
def takeDigits (input : Input) : List Char × Input :=
  ((input.takeWhile isDigitGlyph).filterMap id, input.dropWhile isDigitGlyph)

/-- At least one digit; `atEnd` is the error of an input that is over. -/
def someDigits (atEnd : Error) (input : Input) : Except Error (List Char × Input) :=
  match takeDigits input with
  | ([], []) => .error atEnd
  | ([], _) => .error .malformed
  | (digits, rest) => .ok (digits, rest)

/-- The exponent of a numeral, if the input goes on with one. -/
def scanExponent (atEnd : Error) (numeral : Numeral) (input : Input) :
    Except Error (Numeral × Input) :=
  match input with
  | some 'e' :: rest | some 'E' :: rest =>
    let (negative, rest) := match rest with
      | some '+' :: rest => (false, rest)
      | some '-' :: rest => (true, rest)
      | rest => (false, rest)
    do
      let (digits, rest) ← someDigits atEnd rest
      return ({ numeral with exponent := some (negative, digits) }, rest)
  | _ => .ok (numeral, input)

/-- The fraction of a numeral, if the input goes on with one, and the exponent. -/
def scanFraction (atEnd : Error) (numeral : Numeral) (input : Input) :
    Except Error (Numeral × Input) :=
  match input with
  | some '.' :: rest => do
    let (digits, rest) ← someDigits atEnd rest
    scanExponent atEnd { numeral with fraction := some digits } rest
  | _ => scanExponent atEnd numeral input

/-- The numeral at the front of the input. No digit follows a leading zero. -/
def scanNumeral (atEnd : Error) (input : Input) : Except Error (Numeral × Input) :=
  let (negative, input) := match input with
    | some '-' :: rest => (true, rest)
    | _ => (false, input)
  do
    let (digits, rest) ← someDigits atEnd input
    match digits with
    | '0' :: _ :: _ => .error .malformed
    | _ => scanFraction atEnd ⟨negative, digits, none, none⟩ rest

/-- The largest whole number of 64 bits. -/
def wordMax : Nat := Nat.pow 2 64 - 1

/-- Appends digits to a number as long as it fits 64 bits; the digits left over are returned. -/
def fillWord (n : Nat) : List Char → Nat × List Char
  | [] => (n, [])
  | c :: rest =>
    let next := n * 10 + (c.toNat - 48)
    if next ≤ wordMax then fillWord next rest else (n, c :: rest)

/-- `x` times ten to the power `e`, with one rounding per step of the table of powers, which ends at
`10 ^ 308`; `none` when it grows beyond the largest double. -/
def scale (x : Decimal.Binary64) (e : Int) : Nat → Option Decimal.Binary64
  | 0 => some x
  | steps + 1 =>
    if e.natAbs ≤ 308 then
      if 0 ≤ e then x.mul (.powerOfTen e.natAbs) else x.div (.powerOfTen e.natAbs)
    else if x.mantissa == 0 then some x
    else if 0 ≤ e then none
    else
      match x.div (.powerOfTen 308) with
      | some y => scale y (e + 308) steps
      | none => none

/-- The largest exponent that is taken as it stands. -/
def exponentMax : Nat := Nat.pow 2 31 - 1

/-- The exponent as a number, capped above the largest one that counts. -/
def exponentValue (digits : List Char) : Nat :=
  digits.foldl (fun n c => min (n * 10 + (c.toNat - 48)) (exponentMax + 1)) 0

namespace Numeral

/-- The double that a numeral stands for; `none` when it is beyond the largest one. -/
def double (numeral : Numeral) : Option Decimal.Binary64 :=
  let (significand, dropped) := fillWord 0 numeral.whole
  let fraction := numeral.fraction.getD []
  let (significand, used) :=
    let (n, left) := fillWord significand fraction
    (n, fraction.length - left.length)
  let shift : Int := dropped.length - used
  let unsigned :=
    match numeral.exponent with
    | some (minus, digits) =>
      let e := exponentValue digits
      if e > exponentMax then
        if significand != 0 && !minus then none else some Decimal.Binary64.zero
      else
        (Decimal.Binary64.ofRatio significand 1).bind fun x =>
          scale x (if minus then shift - (e : Int) else shift + (e : Int)) 5
    | none => (Decimal.Binary64.ofRatio significand 1).bind fun x => scale x shift 5
  unsigned.map fun x => if numeral.negative then x.negate else x

/-- The number that a numeral stands for. Minus zero is a double. -/
def value (numeral : Numeral) : Option Number :=
  let whole := Nat.ofDigitChars 10 numeral.whole 0
  let isWhole := numeral.fraction.isNone && numeral.exponent.isNone
  if isWhole && !numeral.negative && whole ≤ wordMax then some (.integer whole)
  else if isWhole && numeral.negative && whole != 0 && whole ≤ Nat.pow 2 63 then
    some (.integer (-(whole : Int)))
  else numeral.double.map .floating

end Numeral

/-- The number at the front of the input. -/
def readNumber : Reader Number := fun input =>
  match scanNumeral .truncated input with
  | .error e => .error e
  | .ok (numeral, rest) =>
    match numeral.value with
    | some number => .ok (number, rest)
    | none => .error .malformed

/-- The input behind a number whose size does not matter. -/
def skipNumber (input : Input) : Except Error Input :=
  match scanNumeral .malformed input with
  | .error e => .error e
  | .ok (_, rest) => .ok rest

end HiddenImports.Json
