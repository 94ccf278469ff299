import HiddenImports.Unicode.CodeSet

/-!
# Sets of characters as sets of byte strings

The encodings of the characters of a set are described by shapes: a shape is a range of bytes for each
place, and it stands for all strings with their bytes in these ranges. `CodeSet.shapes` lists the shapes
of a set in ascending order; no two of them have a string in common.
-/

namespace HiddenImports.Unicode

/-- The bytes from the first to the second, both included. -/
abbrev ByteRange := Nat × Nat

/-- A range of bytes for each place. -/
abbrev Shape := List ByteRange

/-- The continuation bytes. -/
def continuation : ByteRange := (0x80, 0xBF)

/-- The shapes of the numbers from `lo` to `hi`, written with `places` continuation bytes; `mark` is what
the first byte adds to its digit. -/
def shapesOf (mark : Nat) : (places lo hi : Nat) → List Shape
  | 0, lo, hi => [[(mark + lo, mark + hi)]]
  | places + 1, lo, hi =>
    let unit := Nat.pow 64 (places + 1)
    let below := fun (digit lo hi : Nat) =>
      (shapesOf 0x80 places lo hi).map ((mark + digit, mark + digit) :: ·)
    let a := lo / unit
    let b := hi / unit
    if a == b then below a (lo % unit) (hi % unit)
    else
      let first := if lo % unit == 0 then [] else below a (lo % unit) (unit - 1)
      let last := if hi % unit == unit - 1 then [] else below b 0 (hi % unit)
      let start := if lo % unit == 0 then a else a + 1
      let stop := if hi % unit == unit - 1 then b else b - 1
      let middle :=
        if start ≤ stop then [(mark + start, mark + stop) :: List.replicate (places + 1) continuation]
        else []
      first ++ middle ++ last

/-- The code points with encodings of one length, surrogates left out: the first and the last of them,
what the first byte adds, and the number of continuation bytes. -/
def encodedPlanes : List (Nat × Nat × Nat × Nat) :=
  [(0, 0x7F, 0, 0), (0x80, 0x7FF, 0xC0, 1), (0x800, 0xD7FF, 0xE0, 2), (0xE000, 0xFFFF, 0xE0, 2),
    (0x10000, 0x10FFFF, 0xF0, 3)]

/-- The shapes of the encodings of the characters of a set. -/
def CodeSet.shapes (s : CodeSet) : List Shape :=
  s.ranges.flatMap fun (lo, hi) => encodedPlanes.flatMap fun (first, last, mark, places) =>
    if max lo first ≤ min hi last then shapesOf mark places (max lo first) (min hi last) else []

/-- Neighbouring shapes with the same first range, taken together: that range and what follows it. -/
def branches (shapes : List Shape) : List (ByteRange × List Shape) :=
  (shapes.splitBy fun s t => s.head? == t.head?).filterMap fun group =>
    match group with
    | (range :: _) :: _ => some (range, group.map List.tail)
    | _ => none

end HiddenImports.Unicode
