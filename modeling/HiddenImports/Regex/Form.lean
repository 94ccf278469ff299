import HiddenImports.Regex.Syntax

/-!
# The simplest form of an expression

Expressions are put together by functions that leave out what has no effect. A sequence holds neither
sequences nor empty parts, and no two texts next to each other; a choice holds no choices, a choice
among single characters or among sets is one set, and what all branches of a choice begin with is moved
in front of it. A branch is then chosen after that beginning has been matched.
-/

namespace HiddenImports.Regex

open Unicode (CodeSet)

/-! ## Lengths -/

mutual

/-- The least number of characters of a match; `none` for a set without members and what contains it. -/
def Expr.minLength : Expr → Option Nat
  | .empty => some 0
  | .text chars => some chars.length
  | .set chars => if chars.flips.isEmpty then none else some 1
  | .look _ => some 0
  | .repeat body min _ _ => body.minLength.map (· * min)
  | .group _ body => body.minLength
  | .seq parts => minLengths parts
  | .choice branches => minLengthOf branches

/-- The least number of characters of a sequence. -/
def minLengths : List Expr → Option Nat
  | [] => some 0
  | e :: more =>
    match e.minLength, minLengths more with
    | some n, some k => some (n + k)
    | _, _ => none

/-- The least number of characters of any branch. -/
def minLengthOf : List Expr → Option Nat
  | [] => none
  | [e] => e.minLength
  | e :: more =>
    match e.minLength, minLengthOf more with
    | some n, some k => some (min n k)
    | _, _ => none

end

mutual

/-- The most characters that a match can have, `none` when there is no bound. -/
def Expr.maxLength : Expr → Option Nat
  | .empty => some 0
  | .text chars => some chars.length
  | .set chars => if chars.flips.isEmpty then none else some 1
  | .look _ => some 0
  | .repeat body _ max _ =>
    match body.maxLength, max with
    | some n, some k => some (n * k)
    | _, _ => none
  | .group _ body => body.maxLength
  | .seq parts => maxLengths parts
  | .choice branches => maxLengthOf branches

/-- The most characters of a sequence. -/
def maxLengths : List Expr → Option Nat
  | [] => some 0
  | e :: more =>
    match e.maxLength, maxLengths more with
    | some n, some k => some (n + k)
    | _, _ => none

/-- The most characters of any branch. -/
def maxLengthOf : List Expr → Option Nat
  | [] => some 0
  | e :: more =>
    match e.maxLength, maxLengthOf more with
    | some n, some k => some (max n k)
    | _, _ => none

end

/-- Every match is known to take a character. -/
def Expr.consumes (e : Expr) : Bool :=
  match e.minLength with
  | some n => n != 0
  | none => false

/-- A match never takes a character. -/
def Expr.takesNothing (e : Expr) : Bool :=
  e.maxLength == some 0

/-! ## Comparison -/

mutual

/-- Two expressions are written alike, down to the numbers of their groups. -/
def Expr.same : Expr → Expr → Bool
  | .empty, .empty => true
  | .text s, .text t => s == t
  | .set s, .set t => s == t
  | .look l, .look k => l == k
  | .repeat e min max greedy, .repeat f min' max' greedy' =>
    min == min' && max == max' && greedy == greedy' && e.same f
  | .group i e, .group j f => i == j && e.same f
  | .seq es, .seq fs => allSame es fs
  | .choice es, .choice fs => allSame es fs
  | _, _ => false

def allSame : List Expr → List Expr → Bool
  | [], [] => true
  | e :: es, f :: fs => e.same f && allSame es fs
  | _, _ => false

end

/-- How many expressions two lists have in common at their beginnings. -/
def sharedLength : List Expr → List Expr → Nat
  | e :: es, f :: fs => if e.same f then sharedLength es fs + 1 else 0
  | _, _ => 0

/-! ## Composition -/

/-- One character out of a set: a text when there is only one. No text has surrogates. -/
def Expr.ofSet (chars : CodeSet) : Expr :=
  let chars := chars.diff (CodeSet.range 0xD800 0xDFFF)
  match chars.ranges with
  | [(lo, hi)] => if lo == hi then .text [Char.ofNat lo] else .set chars
  | _ => .set chars

/-- What an expression adds to a sequence. -/
def Expr.parts : Expr → List Expr
  | .empty => []
  | .seq parts => parts
  | e => [e]

/-- Texts next to each other, taken together. -/
def joinTexts : List Expr → List Expr
  | [] => []
  | .text s :: rest =>
    match joinTexts rest with
    | .text t :: more => .text (s ++ t) :: more
    | rest => .text s :: rest
  | e :: rest => e :: joinTexts rest

/-- Expressions one after the other. -/
def Expr.inOrder (parts : List Expr) : Expr :=
  match joinTexts (parts.flatMap Expr.parts) with
  | [] => .empty
  | [e] => e
  | parts => .seq parts

/-- What an expression adds to a choice. -/
def Expr.branches : Expr → List Expr
  | .choice branches => branches
  | e => [e]

/-- The character of a text of one character. -/
def Expr.char? : Expr → Option Nat
  | .text [c] => some c.toNat
  | _ => none

def Expr.set? : Expr → Option CodeSet
  | .set chars => some chars
  | _ => none

/-- The set that stands for a choice among single characters, or for one among sets. -/
def oneSet? (branches : List Expr) : Option CodeSet :=
  (branches.mapM Expr.char?).map CodeSet.ofList <|>
    (branches.mapM Expr.set?).map fun sets => sets.foldl CodeSet.union CodeSet.empty

/-- The parts of a sequence. -/
def Expr.seq? : Expr → Option (List Expr)
  | .seq parts => some parts
  | _ => none

mutual

/-- The number of expressions that an expression is made of. -/
def Expr.count : Expr → Nat
  | .repeat body _ _ _ => body.count + 1
  | .group _ body => body.count + 1
  | .seq parts => counts parts + 1
  | .choice branches => counts branches + 1
  | _ => 1

def counts : List Expr → Nat
  | [] => 0
  | e :: more => e.count + counts more

end

/-- A choice. What its branches begin with is moved in front of a choice among their rests, which are
smaller, so that a `fuel` of the size of the branches is enough. -/
def choiceOf : (fuel : Nat) → List Expr → Expr
  | 0, branches => .choice branches
  | fuel + 1, branches =>
    match branches.flatMap Expr.branches with
    | [e] => e
    | branches =>
      match oneSet? branches, branches.mapM Expr.seq? with
      | some chars, _ => Expr.ofSet chars
      | none, some (first :: others) =>
        let shared := (others.map (sharedLength first)).foldl min first.length
        if shared == 0 then .choice branches
        else
          let rests := (first :: others).map fun parts => Expr.inOrder (parts.drop shared)
          Expr.inOrder (first.take shared ++ [choiceOf fuel rests])
      | _, _ => .choice branches

/-- The first of some branches that leads to a match. -/
def Expr.anyOf (branches : List Expr) : Expr :=
  choiceOf (counts branches) branches

/-- A repetition; of something that only matches the empty text, one round is as good as many. -/
def Expr.times (body : Expr) (min : Nat) (max : Option Nat) (greedy : Bool) : Expr :=
  let (min, max) :=
    if body.takesNothing then (Min.min min 1, some ((max.map (Min.min · 1)).getD 1)) else (min, max)
  if max == some 0 then .empty
  else if min == 1 && max == some 1 then body
  else .repeat body min max greedy

end HiddenImports.Regex
