/-!
# Sets of code points

A set is kept as the ascending list of the points at which membership flips, starting from "outside":
`[65, 91]` is the set of the capital letters `A` to `Z`. Boolean operations are one merge of two such
lists, `combine`, and the complement only flips the start.
-/

namespace HiddenImports.Unicode

/-- The first number that is no code point. -/
def codeLimit : Nat := 0x110000

/-- A set of code points, as its flip points in ascending order. -/
structure CodeSet where
  flips : Array Nat
  deriving DecidableEq, Repr

namespace CodeSet

/-- The set without members. -/
def empty : CodeSet := ⟨#[]⟩

/-- The set of all code points. -/
def full : CodeSet := ⟨#[0, codeLimit]⟩

/-- The code points from `lo` to `hi`, both included; none when `hi < lo`. -/
def range (lo hi : Nat) : CodeSet :=
  if lo ≤ hi then ⟨#[lo, hi + 1]⟩ else empty

/-- How many entries of an ascending array are at most `c`, when those before `lo` are and those from
`hi` on are not. -/
def rank (a : Array Nat) (c lo hi : Nat) : Nat :=
  if lo < hi then
    let mid := (lo + hi) / 2
    if a[mid]?.getD 0 ≤ c then rank a c (mid + 1) hi else rank a c lo mid
  else lo
termination_by hi - lo

/-- Membership: an odd number of flips lies at or before the point. -/
def contains (s : CodeSet) (c : Nat) : Bool :=
  rank s.flips c 0 s.flips.size % 2 == 1

/-- The merge behind `combine`: `inA` and `inB` say on which side of the two sets the walk stands. -/
def combineFrom (f : Bool → Bool → Bool) (inA inB : Bool) : List Nat → List Nat → List Nat
  | [], [] => []
  | a :: as, [] =>
    let rest := combineFrom f (!inA) inB as []
    if f (!inA) inB == f inA inB then rest else a :: rest
  | [], b :: bs =>
    let rest := combineFrom f inA (!inB) [] bs
    if f inA (!inB) == f inA inB then rest else b :: rest
  | a :: as, b :: bs =>
    if a < b then
      let rest := combineFrom f (!inA) inB as (b :: bs)
      if f (!inA) inB == f inA inB then rest else a :: rest
    else if b < a then
      let rest := combineFrom f inA (!inB) (a :: as) bs
      if f inA (!inB) == f inA inB then rest else b :: rest
    else
      let rest := combineFrom f (!inA) (!inB) as bs
      if f (!inA) (!inB) == f inA inB then rest else a :: rest
termination_by as bs => as.length + bs.length

/-- The points `c` with `f (c ∈ s) (c ∈ t)`, for an `f` that is false outside both sets. -/
def combine (f : Bool → Bool → Bool) (s t : CodeSet) : CodeSet :=
  ⟨(combineFrom f false false s.flips.toList t.flips.toList).toArray⟩

def union (s t : CodeSet) : CodeSet := combine or s t

def inter (s t : CodeSet) : CodeSet := combine and s t

def diff (s t : CodeSet) : CodeSet := combine (fun a b => a && !b) s t

def symmDiff (s t : CodeSet) : CodeSet := combine xor s t

/-- The code points outside a set. -/
def compl (s : CodeSet) : CodeSet := diff full s

/-- The maximal runs of a set, with both ends. -/
def ranges (s : CodeSet) : List (Nat × Nat) :=
  pairs s.flips.toList
where
  /-- Flip points taken two by two. -/
  pairs : List Nat → List (Nat × Nat)
    | lo :: hi :: rest => (lo, hi - 1) :: pairs rest
    | _ => []

/-- The set of the given points. -/
def ofList (points : List Nat) : CodeSet :=
  ⟨(go (points.mergeSort (fun a b => a ≤ b))).toArray⟩
where
  /-- Flip points of an ascending list of points. -/
  go : List Nat → List Nat
    | [] => []
    | p :: rest =>
      match go rest with
      | q :: more => if q == p then q :: more else if q == p + 1 then p :: more else p :: (p + 1) :: q :: more
      | [] => [p, p + 1]

/-- Every member is an ASCII character. -/
def isAscii (s : CodeSet) : Bool :=
  s.flips.size % 2 == 0 && s.flips.back?.getD 0 ≤ 0x80

/-- The set whose flip points lie at the running totals of the numbers, separated by blanks. -/
def ofGaps (text : String) : CodeSet :=
  ⟨go text.toList 0 0 #[]⟩
where
  /-- `total` is the last flip point and `n` the number being read. -/
  go : List Char → Nat → Nat → Array Nat → Array Nat
    | [], total, n, acc => acc.push (total + n)
    | c :: rest, total, n, acc =>
      if c == ' ' || c == '\n' then go rest (total + n) 0 (acc.push (total + n))
      else go rest total (n * 10 + (c.toNat - 48)) acc

end CodeSet

/-! ## Partitions -/

/-- All code points cut into labelled runs, given by the lengths of the runs in order. -/
structure Partition where
  runs : List (Nat × String)

namespace Partition

/-- Reads runs such as `33Zyyy26Latn`: a length, then a label without digits. Line ends may stand
anywhere. -/
def read (text : String) : Partition :=
  ⟨go text.toList 0 []⟩
where
  /-- `n` is the length read so far and `label` the label, in reverse. -/
  go : List Char → Nat → List Char → List (Nat × String)
    | [], n, label => if label.isEmpty then [] else [(n, String.ofList label.reverse)]
    | c :: rest, n, label =>
      if c == '\n' then go rest n label
      else if c.isDigit then
        if label.isEmpty then go rest (n * 10 + (c.toNat - 48)) []
        else (n, String.ofList label.reverse) :: go rest (c.toNat - 48) []
      else go rest n (c :: label)

/-- The points whose label satisfies `keep`. -/
def select (p : Partition) (keep : String → Bool) : CodeSet :=
  ⟨(go p.runs 0 false).toArray⟩
where
  /-- Flip points from `start` on; `inside` tells whether the run before was kept. -/
  go : List (Nat × String) → Nat → Bool → List Nat
    | [], start, inside => if inside then [start] else []
    | (n, label) :: rest, start, inside =>
      let now := keep label
      if now == inside then go rest (start + n) inside else start :: go rest (start + n) now

end Partition

end HiddenImports.Unicode
