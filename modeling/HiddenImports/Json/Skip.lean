import HiddenImports.Json.Text
import HiddenImports.Json.Numeral

/-!
# Skipping a value

The value of an unknown field is passed over without being decoded: only its form is checked, and it
may be nested to any depth. `skipLoop` keeps the open containers on a list.
-/

namespace HiddenImports.Json

/-- The rest of a literal word. -/
def readWord : List Char → Input → Except Error Input
  | [], input => .ok input
  | _ :: _, [] => .error .truncated
  | c :: cs, g :: rest => if g == some c then readWord cs rest else .error .malformed

/-- A container that is open while skipping. -/
inductive Container where
  | array
  | object
  deriving DecidableEq, Repr

/-- The rest of an object from where a key has to stand to behind the colon. -/
def skipKey (input : Input) : Except Error Input :=
  match skipGap input with
  | [] => .error .truncated
  | some '"' :: rest => do
    match skipGap (← skipString .plain rest) with
    | [] => .error .truncated
    | some ':' :: rest => .ok rest
    | _ => .error .malformed
  | _ => .error .malformed

/-- What the skipping has to do next. -/
inductive SkipStep where
  /-- A value follows. -/
  | value (opened : List Container)
  /-- A container was just opened or a value in it is over: its end or a comma follows. -/
  | next (afterValue : Bool) (opened : List Container)

/-- Skips on until no container is open; `fuel` exceeds the steps that the input allows. -/
def skipLoop : Nat → SkipStep → Input → Except Error Input
  | 0, _, _ => .error .malformed
  | fuel + 1, .value opened, input =>
    match skipGap input with
    | [] => .error .truncated
    | some 'n' :: rest => do skipLoop fuel (.next true opened) (← readWord ['u', 'l', 'l'] rest)
    | some 't' :: rest => do skipLoop fuel (.next true opened) (← readWord ['r', 'u', 'e'] rest)
    | some 'f' :: rest => do
      skipLoop fuel (.next true opened) (← readWord ['a', 'l', 's', 'e'] rest)
    | some '"' :: rest => do skipLoop fuel (.next true opened) (← skipString .plain rest)
    | some '[' :: rest => skipLoop fuel (.next false (.array :: opened)) rest
    | some '\x7b' :: rest => skipLoop fuel (.next false (.object :: opened)) rest
    | g :: rest =>
      if g == some '-' || isDigitGlyph g then do
        skipLoop fuel (.next true opened) (← skipNumber (g :: rest))
      else .error .malformed
  | _ + 1, .next _ [], input => .ok input
  | fuel + 1, .next afterValue (container :: opened), input =>
    match skipGap input with
    | [] => .error .truncated
    | g :: rest =>
      let closing := match container with
        | .array => ']'
        | .object => '\x7d'
      if g == some closing then skipLoop fuel (.next true opened) rest
      else if afterValue && g != some ',' then .error .malformed
      else
        let input := if afterValue then rest else g :: rest
        match container with
        | .array => skipLoop fuel (.value (.array :: opened)) input
        | .object => do skipLoop fuel (.value (.object :: opened)) (← skipKey input)

/-- The input behind the next value. -/
def skipValue (input : Input) : Except Error Input :=
  skipLoop (2 * input.length + 2) (.value []) input

end HiddenImports.Json
