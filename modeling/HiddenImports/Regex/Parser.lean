import HiddenImports.Regex.Class
import HiddenImports.Regex.Form
import HiddenImports.Unicode.Recent

/-!
# Reading patterns

`Pattern.read` turns the text of a pattern into an expression. The reader takes one item at a time and
keeps the groups that are open on a list, so that patterns can nest to any depth until the finished
expression is found to be deeper than `nestLimit`.
-/

namespace HiddenImports.Regex

open Unicode (CodeSet)

/-- How deep a pattern may nest. -/
def nestLimit : Nat := 250

/-- A part of a sequence: an expression and how deep it nests, or a change of flags, which nothing can
be repeated of. -/
structure Part where
  expr : Expr
  depth : Nat := 0
  repeatable : Bool := true

/-- A group or the whole pattern, as far as it was read: finished branches and the parts of the current
branch, both in reverse. -/
structure Body where
  branches : List Part := []
  parts : List Part := []

/-- The parts of a branch, in reverse, as one part. -/
def sequenceOf : List Part → Part
  | [] => ⟨.empty, 0, false⟩
  | [p] => p
  | parts => ⟨.inOrder (parts.reverse.map Part.expr), (parts.map Part.depth).foldl max 0 + 1, true⟩

/-- A finished group or pattern as one part. -/
def Body.finish (b : Body) : Part :=
  let last := sequenceOf b.parts
  if b.branches.isEmpty then last
  else
    let all := last :: b.branches
    ⟨.anyOf (all.reverse.map Part.expr), (all.map Part.depth).foldl max 0 + 1, true⟩

/-- An open group: what was read before it, the flags to go back to, and its number if it has one. -/
structure OpenGroup where
  outside : Body
  flags : Flags
  index : Option Nat

/-- The state of the reader. -/
structure Reading where
  flags : Flags := {}
  body : Body := {}
  opened : List OpenGroup := []
  /-- The groups so far, with their names, the last one first. -/
  groups : List (Option String) := []

def Reading.push (r : Reading) (part : Part) : Reading :=
  { r with body := { r.body with parts := part :: r.body.parts } }

/-! ## Groups -/

/-- The letters of names. -/
def nameLetters : Unicode.CodeSet := Unicode.alphabetic.union Unicode.recentAlphabetic

/-- Letters may begin the name of a group. -/
def nameStart (c : Char) : Bool :=
  c == '_' || nameLetters.contains c.toNat

/-- The numbers of names. -/
def nameNumbers : Unicode.CodeSet :=
  (Unicode.ofCategories ["Nd", "Nl", "No"]).union Unicode.recentNumeric

/-- A character inside the name of a group. -/
def nameChar (c : Char) : Bool :=
  nameStart c || c == '.' || c == '[' || c == ']' || nameNumbers.contains c.toNat

/-- The name of a group, from behind the angle bracket. -/
def groupName (source : Source) : Except Error (String × Source) :=
  let name := source.takeWhile (· != '>')
  match source.dropWhile (· != '>') with
  | [] => .error .groupName
  | _ :: rest =>
    match name with
    | [] => .error .groupName
    | c :: more =>
      if nameStart c && more.all nameChar then .ok (String.ofList name, rest)
      else .error .groupName

/-- Sets one flag. -/
def Flags.set (flags : Flags) (letter : Char) (value : Bool) : Option Flags :=
  match letter with
  | 'i' => some { flags with ignoreCase := value }
  | 'm' => some { flags with multiLine := value }
  | 's' => some { flags with dotAll := value }
  | 'U' => some { flags with swapGreed := value }
  | 'u' => some { flags with unicode := value }
  | 'R' => some { flags with anyLineEnd := value }
  | 'x' => some { flags with ignoreBlanks := value }
  | _ => none

/-- Reads flags up to a colon or a closing parenthesis, which stays. `seen` holds the letters so far
and the minus sign. -/
def readFlags (flags : Flags) (seen : List Char) : Source → Except Error (Flags × List Char × Source)
  | [] => .error .flag
  | c :: rest =>
    if c == ':' || c == ')' then
      if seen.head? == some '-' then .error .flag else .ok (flags, seen, c :: rest)
    else if seen.contains c then .error .flag
    else if c == '-' then readFlags flags (c :: seen) rest
    else
      match flags.set c (!seen.contains '-') with
      | some flags => readFlags flags (c :: seen) rest
      | none => .error .flag

/-- Opens a group, or changes the flags, from behind an opening parenthesis. -/
def openGroup (r : Reading) (source : Source) : Except Error (Reading × Source) :=
  let enter := fun (flags : Flags) (index : Option Nat) (groups : List (Option String)) =>
    ({ flags := flags, opened := ⟨r.body, r.flags, index⟩ :: r.opened, groups := groups } : Reading)
  let named := fun (source : Source) => do
    let (name, rest) ← groupName source
    if r.groups.contains (some name) then .error .duplicateGroupName
    else return (enter r.flags (some (r.groups.length + 1)) (some name :: r.groups), rest)
  match r.flags.gap source with
  | '?' :: '=' :: _ | '?' :: '!' :: _ | '?' :: '<' :: '=' :: _ | '?' :: '<' :: '!' :: _ =>
    .error .lookAround
  | '?' :: 'P' :: '<' :: rest => named rest
  | '?' :: '<' :: rest => named rest
  | '?' :: rest => do
    let (flags, seen, rest) ← readFlags r.flags [] rest
    match rest with
    | ':' :: rest => return (enter flags none r.groups, rest)
    | rest =>
      if seen.isEmpty then .error .repetitionMissing
      else return ({ r with flags := flags }.push ⟨.empty, 0, false⟩, rest.drop 1)
  | source => .ok (enter r.flags (some (r.groups.length + 1)) (none :: r.groups), source)

/-- Closes the innermost group. -/
def closeGroup (r : Reading) : Except Error Reading :=
  match r.opened with
  | [] => .error .groupUnopened
  | g :: opened =>
    let inner := r.body.finish
    let expr := match g.index with
      | some index => .group index inner.expr
      | none => inner.expr
    .ok (({ r with flags := g.flags, body := g.outside, opened := opened } : Reading).push
      ⟨expr, inner.depth + 1, true⟩)

/-! ## Repetitions -/

/-- The source without leading blanks. -/
def dropSpaces (source : Source) : Source := source.dropWhile Text.isBlank

/-- The digits of a count, between which the flags may allow blanks. `fuel` exceeds the length of the
source. -/
def countDigits (flags : Flags) : Nat → Source → List Char × Source
  | fuel + 1, c :: rest =>
    if c.isDigit then
      let (more, rest) := countDigits flags fuel (flags.gap rest)
      (c :: more, rest)
    else ([], c :: rest)
  | _, source => ([], source)

/-- A count, with blanks around it; `none` if there are no digits. -/
def readCount (flags : Flags) (source : Source) : Except Error (Option Nat × Source) :=
  let source := dropSpaces source
  let (digits, rest) := countDigits flags (source.length + 1) source
  let rest := dropSpaces rest
  if digits.isEmpty then .ok (none, rest)
  else
    let n := Nat.ofDigitChars 10 digits 0
    if n < Nat.pow 2 32 then .ok (some n, rest) else .error .repetitionCount

/-- The least and greatest number of rounds, from behind an opening brace. -/
def readBounds (flags : Flags) (source : Source) :
    Except Error (Nat × Option Nat × Source) := do
  let (low, rest) ← readCount flags (flags.gap source)
  match low, rest with
  | none, _ => .error .repetitionCount
  | some low, ',' :: rest =>
    match flags.gap rest with
    | '\x7d' :: rest => return (low, none, rest)
    | rest =>
      let (high, rest) ← readCount flags rest
      match high, rest with
      | some high, '\x7d' :: rest =>
        if low ≤ high then return (low, some high, rest) else .error .repetitionCount
      | _, _ => .error .repetitionCount
  | some low, '\x7d' :: rest => return (low, some low, rest)
  | _, _ => .error .repetitionCount

/-- Repeats the last part; a question mark at the front of the source asks for as few rounds as
possible. -/
def repeatLast (r : Reading) (min : Nat) (max : Option Nat) (source : Source) :
    Except Error (Reading × Source) :=
  match r.body.parts with
  | [] => .error .repetitionMissing
  | part :: parts =>
    if !part.repeatable then .error .repetitionMissing
    else
      let (lazy, rest) := match source with
        | '?' :: rest => (true, rest)
        | _ => (false, source)
      let expr := part.expr.times min max (lazy == r.flags.swapGreed)
      .ok ({ r with body := { r.body with parts := ⟨expr, part.depth + 1, true⟩ :: parts } }, rest)

/-! ## The whole pattern -/

/-- A single character as an expression. `byte` tells that it was written as a number of one byte. -/
def Flags.literal (flags : Flags) (c : Char) (byte : Bool) : Except Error Expr :=
  if !flags.unicode && byte && c.toNat > 0x7F then .error .invalidText
  else if !flags.ignoreCase then .ok (.text [c])
  else .ok (.ofSet (flags.fold (CodeSet.range c.toNat c.toNat)))

/-- Takes one item off the source, which is not empty. -/
def readItem (r : Reading) (c : Char) (rest : Source) : Except Error (Reading × Source) :=
  match c with
  | '(' => openGroup r rest
  | ')' => do return (← closeGroup r, rest)
  | '|' => .ok ({ r with body := ⟨sequenceOf r.body.parts :: r.body.branches, []⟩ }, rest)
  | '[' => do
    let (s, rest) ← readClass r.flags (c :: rest)
    return (r.push ⟨.ofSet s.chars, s.depth, true⟩, rest)
  | '?' => repeatLast r 0 (some 1) rest
  | '*' => repeatLast r 0 none rest
  | '+' => repeatLast r 1 none rest
  | '\x7b' => do
    let (low, high, rest) ← readBounds r.flags rest
    repeatLast r low high (r.flags.gap rest)
  | '.' => do return (r.push ⟨.ofSet (← r.flags.dot), 0, true⟩, rest)
  | '^' => .ok (r.push ⟨.look r.flags.lineStart, 0, true⟩, rest)
  | '$' => .ok (r.push ⟨.look r.flags.lineEnd, 0, true⟩, rest)
  | '\\' => do
    let (item, rest) ← escapeItem r.flags rest
    match item with
    | .char c byte => return (r.push ⟨← r.flags.literal c byte, 0, true⟩, rest)
    | .class s => return (r.push ⟨.ofSet s, 0, true⟩, rest)
    | .look l => return (r.push ⟨.look l, 0, true⟩, rest)
  | c => do return (r.push ⟨← r.flags.literal c false, 0, true⟩, rest)

/-- Reads the source to its end; `fuel` exceeds its length. -/
def readItems : Nat → Reading → Source → Except Error Reading
  | 0, r, _ => .ok r
  | fuel + 1, r, source =>
    match r.flags.gap source with
    | [] => .ok r
    | c :: rest => do
      let (r, rest) ← readItem r c rest
      readItems fuel r rest

/-- A pattern: its expression and the names of its groups, in order. -/
structure Parsed where
  expr : Expr
  names : List (Option String)

/-- Reads a pattern. -/
def parse (pattern : String) : Except Error Parsed := do
  let source := pattern.toList
  let r ← readItems (source.length + 1) {} source
  if !r.opened.isEmpty then .error .groupUnclosed
  else
    let whole := r.body.finish
    if whole.depth > nestLimit then .error .nestedTooDeep
    else return ⟨whole.expr, r.groups.reverse⟩

end HiddenImports.Regex
