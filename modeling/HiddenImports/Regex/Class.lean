import HiddenImports.Regex.Escape

/-!
# Bracketed classes

A class in brackets is a union of items; classes can be nested and joined by `&&`, `--` and `~~`, which
bind weaker than the union and group to the left. The reader keeps the classes and operations that are
open on a list and takes one item at a time.
-/

namespace HiddenImports.Regex

open Unicode (CodeSet)

/-- A union under construction: its characters, the number of items, and how deep they nest. -/
structure Union where
  chars : CodeSet := CodeSet.empty
  items : Nat := 0
  depth : Nat := 0

/-- Adds an item to a union. -/
def Union.add (u : Union) (chars : CodeSet) (depth : Nat := 0) : Union :=
  ⟨u.chars.union chars, u.items + 1, max u.depth depth⟩

/-- A finished class: its characters and how deep it nests. -/
structure Nested where
  chars : CodeSet
  depth : Nat

/-- Two or more items nest one level deeper than one. -/
def Union.finish (u : Union) : Nested :=
  ⟨u.chars, if u.items ≤ 1 then u.depth else u.depth + 1⟩

/-- How two classes are joined. -/
inductive SetOp where
  | inter
  | diff
  | symmDiff

def SetOp.apply (op : SetOp) (s t : CodeSet) : CodeSet :=
  match op with
  | .inter => s.inter t
  | .diff => s.diff t
  | .symmDiff => s.symmDiff t

/-- The operation at the front of the source. -/
def setOp? : Source → Option (SetOp × Source)
  | '&' :: '&' :: rest => some (.inter, rest)
  | '-' :: '-' :: rest => some (.diff, rest)
  | '~' :: '~' :: rest => some (.symmDiff, rest)
  | _ => none

/-- What is open around the union that is being read. -/
inductive OpenClass where
  /-- A bracket, with the union outside it. -/
  | bracket (outside : Union) (negated : Bool)
  /-- An operation, with its left operand. -/
  | operation (op : SetOp) (left : Nested)

/-- Joins the operand just read with the open operation, if there is one. -/
def closeOperation (flags : Flags) (right : Nested) : List OpenClass → Nested × List OpenClass
  | .operation op left :: rest =>
    (⟨op.apply (flags.fold left.chars) (flags.fold right.chars), max left.depth right.depth + 1⟩, rest)
  | opened => (right, opened)

/-- The start of a class, from behind its bracket: whether it is negated, and the leading characters
that stand for themselves there, hyphens and a closing bracket. -/
def openBracket (flags : Flags) (source : Source) : Except Error (Bool × Union × Source) :=
  let source := flags.gap source
  let (negated, source) := match source with
    | '^' :: rest => (true, flags.gap rest)
    | _ => (false, source)
  let rec hyphens : Nat → Union → Source → Union × Source
    | fuel + 1, u, '-' :: rest => hyphens fuel (u.add (CodeSet.range 0x2D 0x2D)) (flags.gap rest)
    | _, u, source => (u, source)
  let (u, source) := hyphens source.length {} source
  match source with
  | [] => .error .classUnclosed
  | ']' :: rest =>
    if u.items == 0 then
      match flags.gap rest with
      | [] => .error .classUnclosed
      | rest => .ok (negated, u.add (CodeSet.range 0x5D 0x5D), rest)
    else .ok (negated, u, source)
  | _ => .ok (negated, u, source)

/-- A class such as `:alpha:` in its own brackets, from behind the first bracket. -/
def namedAscii? (flags : Flags) (source : Source) : Option (Except Error CodeSet × Source) :=
  match source with
  | ':' :: rest =>
    let (negated, rest) := match rest with
      | '^' :: rest => (true, rest)
      | _ => (false, rest)
    let name := rest.takeWhile (· != ':')
    match rest.dropWhile (· != ':') with
    | ':' :: ']' :: rest => do
      let s := flags.fold (← asciiClass? (String.ofList name))
      return (if negated then flags.negate s else .ok s, rest)
    | _ => none
  | _ => none

/-- An item of a class. -/
def classItem (flags : Flags) (source : Source) : Except Error (Item × Source) :=
  match source with
  | [] => .error .classUnclosed
  | '\\' :: rest => escapeItem flags rest
  | c :: rest => .ok (.char c false, rest)

/-- The characters of an item. -/
def Item.chars (flags : Flags) : Item → Except Error CodeSet
  | .char c _ => flags.classLiteral c
  | .class s => .ok s
  | .look _ => .error .classItem

/-- The second character of the source, without what does not count. A comment hides only its mark. -/
def secondChar (flags : Flags) : Source → Option Char
  | [] => none
  | _ :: rest =>
    if !flags.ignoreBlanks then rest.head?
    else
      let rest' := rest.dropWhile Text.isBlank
      match rest' with
      | '#' :: more =>
        match more.dropWhile Text.isBlank with
        | [] => rest.head?
        | c :: _ => some c
      | [] => rest.head?
      | c :: _ => some c

/-- A range or a single item. -/
def classRange (flags : Flags) (source : Source) : Except Error (CodeSet × Source) := do
  let (first, rest) ← classItem flags source
  match flags.gap rest with
  | [] => .error .classUnclosed
  | '-' :: more =>
    let next := secondChar flags ('-' :: more)
    if next == some ']' || next == some '-' then return (← first.chars flags, '-' :: more)
    else
      match flags.gap more with
      | [] => .error .classUnclosed
      | more =>
        let (last, rest) ← classItem flags more
        match first, last with
        | .char lo _, .char hi _ =>
          if hi < lo then .error .classRange
          else
            let _ ← flags.classLiteral lo
            let _ ← flags.classLiteral hi
            return (CodeSet.range lo.toNat hi.toNat, rest)
        | _, _ => .error .classRange
  | rest => return (← first.chars flags, rest)

/-- Reads on in a class until all brackets are closed; `fuel` exceeds the length of the source. -/
def classLoop (flags : Flags) : Nat → List OpenClass → Union → Source → Except Error (Nested × Source)
  | 0, _, _, _ => .error .classUnclosed
  | fuel + 1, opened, u, source =>
    match flags.gap source with
    | [] => .error .classUnclosed
    | '[' :: rest =>
      match namedAscii? flags rest with
      | some (found, rest) => do classLoop flags fuel opened (u.add (← found)) rest
      | none => do
        let (negated, inner, rest) ← openBracket flags rest
        classLoop flags fuel (.bracket u negated :: opened) inner rest
    | ']' :: rest => do
      let (whole, opened) := closeOperation flags u.finish opened
      match opened with
      | .bracket outside negated :: opened =>
        let folded := flags.fold whole.chars
        let s ← if negated then flags.negate folded else .ok folded
        let closed : Nested := ⟨s, whole.depth + 1⟩
        if opened.isEmpty then return (closed, rest)
        else classLoop flags fuel opened (outside.add closed.chars closed.depth) rest
      | _ => .error .classUnclosed
    | source =>
      match setOp? source with
      | some (op, rest) =>
        let (left, opened) := closeOperation flags u.finish opened
        classLoop flags fuel (.operation op left :: opened) {} rest
      | none => do
        let (s, rest) ← classRange flags source
        classLoop flags fuel opened (u.add s) rest

/-- The class whose bracket stands at the front of the source. -/
def readClass (flags : Flags) (source : Source) : Except Error (Nested × Source) := do
  let (negated, inner, rest) ← openBracket flags (source.drop 1)
  classLoop flags (source.length + 1) [.bracket {} negated] inner rest

end HiddenImports.Regex
