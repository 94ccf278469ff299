import HiddenImports.Regex.Parser
import HiddenImports.Regex.Search
import HiddenImports.Regex.Size
import HiddenImports.Regex.Template

/-!
# Compiled patterns

A `Regex` is a pattern ready for searching. It tells whether a text holds a match, and replaces all
matches by the expansion of a template. Matches do not overlap, and an empty one does not directly
follow the match before it.
-/

namespace HiddenImports

open Regex

/-- A compiled pattern. -/
structure Regex where
  pattern : String
  program : Program
  /-- The names of the groups, in order. -/
  names : List (Option String)

namespace Regex

/-- Compiles a pattern. -/
def compilePattern (pattern : String) : Except Error Regex := do
  let parsed ← parse pattern
  if !parsed.expr.fits then throw .tooLarge
  return ⟨pattern, Program.ofExpr parsed.expr, parsed.names⟩

/-- How many positions the groups note. -/
def slotCount (r : Regex) : Nat := 2 * (r.names.length + 1)

/-- The text holds a match. -/
def isMatch (r : Regex) (text : String) : Bool :=
  (findFrom r.program r.slotCount none 0 text.toList).isSome

/-- The next match at or after a position, where `last` is the end of the match before it. An empty match
there is passed over. -/
def nextMatch (r : Regex) (last : Option Nat) (before : Option Char) (position : Nat)
    (text : List Char) : Option Match :=
  match findFrom r.program r.slotCount before position text with
  | none => none
  | some m =>
    if m.start == m.stop && last == some m.stop then
      match text with
      | [] => none
      | c :: rest => findFrom r.program r.slotCount (some c) (position + 1) rest
    else some m

/-- All matches at or after a position. Each one ends behind the one before it, so a `fuel` of two more
than there are characters is enough. -/
def matchesFrom (r : Regex) :
    (fuel : Nat) → Option Nat → Option Char → Nat → List Char → List Match
  | 0, _, _, _, _ => []
  | fuel + 1, last, before, position, text =>
    match r.nextMatch last before position text with
    | none => []
    | some m =>
      let walked := m.stop - position
      let before := if walked == 0 then before else text[walked - 1]?
      m :: matchesFrom r fuel (some m.stop) before m.stop (text.drop walked)

/-- What a group matched. -/
def groupText (r : Regex) (chars : Array Char) (m : Match) (ref : GroupRef) : List Char :=
  let index := match ref with
    | .number i => some i
    | .name name => (r.names.findIdx? (· == some name)).map (· + 1)
  let span := fun (i : Nat) => if i == 0 then some (m.start, m.stop) else do
    let start ← (← m.slots[2 * i]?)
    let stop ← (← m.slots[2 * i + 1]?)
    return (start, stop)
  match index.bind span with
  | some (start, stop) => (chars.extract start stop).toList
  | none => []

/-- The text with the given matches replaced; `position` is where it starts. -/
def splice (replacement : Match → List Char) : List Match → Nat → List Char → List Char
  | [], _, text => text
  | m :: more, position, text =>
    text.take (m.start - position) ++ replacement m
      ++ splice replacement more m.stop (text.drop (m.stop - position))

/-- The text with all matches replaced by what the template expands to, or nothing if there is no
match. -/
def replaceAll? (r : Regex) (template text : String) : Option String :=
  let cs := text.toList
  match matchesFrom r (cs.length + 2) none none 0 cs with
  | [] => none
  | found =>
    let chars := cs.toArray
    let pieces := templatePieces 0 template.toList
    some (String.ofList (splice (fun m => expand (r.groupText chars m) pieces) found 0 cs))

end Regex

end HiddenImports
