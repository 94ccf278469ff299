import HiddenImports.Regex.Form

/-!
# Patterns that stand for a few texts

Some patterns match a few texts and nothing else. Those are searched for as they are, without an
automaton. `Expr.beginnings` tells what the matches of an expression begin with, as long as these are few
and short; a text that is the whole of a match is marked. A pattern is fixed when all its beginnings are
whole, and when it is not better to look for something shorter that they have in common.
-/

namespace HiddenImports.Regex

open Unicode (CodeSet)

/-- Bytes with which a match begins; they are all of it if `whole`. -/
structure Beginning where
  bytes : List Nat
  whole : Bool
  deriving DecidableEq, Repr

/-- What the matches begin with, in order of preference; `none` when they are not known. -/
abbrev Beginnings := Option (List Beginning)

namespace Beginnings

/-- The most beginnings that are kept. -/
def most : Nat := 250

/-- The most bytes that are kept of one. -/
def longest : Nat := 100

/-- The most rounds of a repetition, and the most members of a set, that are looked at. -/
def rounds : Nat := 10

/-- The beginning cut off behind some bytes. -/
def cut (n : Nat) (b : Beginning) : Beginning :=
  if b.bytes.length ≤ n then b else ⟨b.bytes.take n, false⟩

/-- Takes equal beginnings next to each other together. -/
def merged : List Beginning → List Beginning
  | [] => []
  | b :: rest =>
    match merged rest with
    | c :: more => if b.bytes == c.bytes then ⟨b.bytes, b.whole && c.whole⟩ :: more else b :: c :: more
    | [] => [b]

/-- The empty text. -/
def nothing : Beginnings := some [⟨[], true⟩]

/-- None of the matches is known as a whole. -/
def isOpen (s : Beginnings) : Bool :=
  match s with
  | none => true
  | some s => s.all (!·.whole)

/-- The same beginnings, of longer matches. -/
def opened (s : Beginnings) : Beginnings :=
  s.map fun s => s.map fun b => { b with whole := false }

/-- What matches of either kind begin with. Too many are cut off to have more in common. -/
def either (s t : Beginnings) : Beginnings := do
  let s ← s
  let t ← t
  if s.length + t.length ≤ most then return merged (s ++ t)
  let s := merged (s.map (cut 4))
  let t := merged (t.map (cut 4))
  if s.length + t.length ≤ most then return merged (s ++ t)
  none

/-- What a match followed by another one begins with. -/
def followed (s t : Beginnings) : Beginnings := do
  let s ← s
  let t := t.filter fun t => s.length * t.length ≤ most
  let joined ← match t with
    | some t => some (merged (s.flatMap fun b =>
        if b.whole then t.map fun c => ⟨b.bytes ++ c.bytes, c.whole⟩ else [b]))
    | none => if s.any (·.bytes.isEmpty) then none else opened (some s)
  return joined.map (cut longest)

/-- Up to `n` matches in a row. -/
def inRow (s : Beginnings) : Nat → Beginnings → Beginnings
  | 0, before => before
  | n + 1, before => if isOpen before then before else inRow s n (followed before s)

end Beginnings

open Beginnings

/-- The bytes of a text. -/
def bytesOf (chars : List Char) : List Nat :=
  (String.ofList chars).toUTF8.toList.map UInt8.toNat

/-- How many characters a set has. -/
def sizeOfSet (chars : CodeSet) : Nat :=
  chars.ranges.foldl (fun n (lo, hi) => n + (hi + 1 - lo)) 0

/-- The characters of a set. -/
def membersOf (chars : CodeSet) : List Char :=
  chars.ranges.flatMap fun (lo, hi) => (List.range (hi + 1 - lo)).map fun i => Char.ofNat (lo + i)

mutual

/-- What the matches of an expression begin with. -/
def Expr.beginnings : Expr → Beginnings
  | .empty => nothing
  | .text chars => some [cut longest ⟨bytesOf chars, true⟩]
  | .set chars =>
    if sizeOfSet chars ≤ rounds then some ((membersOf chars).map fun c => ⟨bytesOf [c], true⟩)
    else none
  | .look _ => nothing
  | .repeat body min max greedy =>
    let once := body.beginnings
    if min == 0 then
      let taken := if max == some 1 then once else opened once
      if greedy then either taken nothing else either nothing taken
    else
      let all := inRow once (Nat.min min rounds) nothing
      if max == some min && min ≤ rounds then all else opened all
  | .group _ body => body.beginnings
  | .seq parts => beginningsInOrder parts nothing
  | .choice branches => beginningsOfAny branches (some [])

/-- What a sequence begins with, behind the given beginnings. -/
def beginningsInOrder : List Expr → Beginnings → Beginnings
  | [], before => before
  | e :: more, before =>
    if isOpen before then before else beginningsInOrder more (followed before e.beginnings)

/-- What any of some branches begins with, besides the given beginnings. -/
def beginningsOfAny : List Expr → Beginnings → Beginnings
  | [], before => before
  | e :: more, before => beginningsOfAny more (either before e.beginnings)

end

mutual

/-- The expression holds no assertions and no groups. -/
def Expr.isBare : Expr → Bool
  | .look _ => false
  | .group _ _ => false
  | .repeat body _ _ _ => body.isBare
  | .seq parts => allBare parts
  | .choice branches => allBare branches
  | _ => true

def allBare : List Expr → Bool
  | [] => true
  | e :: more => e.isBare && allBare more

end

/-! ## What is looked for -/

/-- The beginnings without those that start with one before them, which is preferred. -/
def minimal (s : List Beginning) : List Beginning :=
  (s.foldl (fun kept b => if kept.any (·.bytes.isPrefixOf b.bytes) then kept else b :: kept) []).reverse

/-- How many bytes two strings have in common at their beginnings. -/
def commonLength : List Nat → List Nat → Nat
  | a :: s, b :: t => if a == b then commonLength s t + 1 else 0
  | _, _ => 0

/-- What all strings begin with. -/
def commonBytes : List Beginning → List Nat
  | [] => []
  | b :: more => more.foldl (fun s c => s.take (commonLength s c.bytes)) b.bytes

/-- The bytes that occur often in texts. -/
def isFrequent (byte : Nat) : Bool :=
  0x80 ≤ byte || "\n\r (),-./0129:_abcdefghilmnoprstuvxy|".toList.any (·.toNat == byte)

/-- Beginnings of few bytes, fewer when they are many: the bytes kept, with the number above which that
is done. -/
def shortened : List (Nat × Nat) → List Beginning → List Beginning
  | [], s => s
  | (keep, limit) :: more, s =>
    if s.length ≤ limit then s else shortened more (minimal (s.map (cut keep)))

/-- Whole texts are looked for as they are, unless they share a telling beginning or can be shortened to
few that are still telling. -/
def keptWhole (s : List Beginning) : Bool :=
  let texts := minimal s
  let common := commonBytes texts
  if 1 < s.length && common.length ≤ 3 && (common.head?.any (!isFrequent ·)) then
    texts.all (·.bytes.length ≤ 1)
  else if 4 < common.length || (1 < common.length && 16 < texts.length) then texts.length ≤ 1
  else
    let short := shortened [(5, 10), (4, 10), (3, 64), (2, 64), (1, 10)] texts
    short.all (·.whole) || short.any (·.bytes.length ≤ 2) || 64 < short.length

/-- From this number of texts on, a choice among them is always searched for without an automaton. -/
def manyTexts : Nat := 3000

/-- A choice among many texts. -/
def Expr.isWordList : Expr → Bool
  | .choice branches => manyTexts ≤ branches.length && branches.all fun
    | .text _ => true
    | _ => false
  | _ => false

/-- The expression stands for a few texts that are searched for as they are. -/
def Expr.isFixed (e : Expr) : Bool :=
  e.isBare && match e.beginnings with
    | some (b :: more) => (b :: more).all (fun b => b.whole && !b.bytes.isEmpty) && keptWhole (b :: more)
    | _ => false

end HiddenImports.Regex
