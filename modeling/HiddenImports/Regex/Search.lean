import HiddenImports.Regex.Program

/-!
# Searching

A search runs all threads of a program side by side, one character at a time, in the order of
preference. A thread that reaches an instruction at which another one already stands is dropped, so the
time is bounded by the length of the text times the size of the program. The match that is found is the
leftmost one, and of those the preferred one.
-/

namespace HiddenImports.Regex

open Unicode (CodeSet)

/-- The positions that a thread has noted: the start and end of each group. -/
abbrev Slots := Array (Option Nat)

structure Thread where
  address : Nat
  /-- Where the match starts. -/
  start : Nat
  slots : Slots

/-- A place in a text: the characters before and after it, and its position. -/
structure Place where
  before : Option Char
  after : Option Char
  position : Nat

def isWord (unicode : Bool) (c : Option Char) : Bool :=
  match c with
  | none => false
  | some c => if unicode then wordChars.contains c.toNat else asciiWordChars.contains c.toNat

/-- The assertion holds at the place. -/
def Look.holds (look : Look) (p : Place) : Bool :=
  match look with
  | .textStart => p.before.isNone
  | .textEnd => p.after.isNone
  | .lineStart => p.before.isNone || p.before == some '\n'
  | .lineEnd => p.after.isNone || p.after == some '\n'
  | .anyLineStart =>
    p.before.isNone || p.before == some '\n' || (p.before == some '\r' && p.after != some '\n')
  | .anyLineEnd =>
    p.after.isNone || p.after == some '\r' || (p.after == some '\n' && p.before != some '\r')
  | .boundary u => isWord u p.before != isWord u p.after
  | .noBoundary u => isWord u p.before == isWord u p.after
  | .wordStart u => !isWord u p.before && isWord u p.after
  | .wordEnd u => isWord u p.before && !isWord u p.after
  | .wordStartHalf u => !isWord u p.before
  | .wordEndHalf u => !isWord u p.after

/-- The threads that stand at one position, in order of preference and reversed, and for each address
the last position, plus one, at which it was reached. -/
structure Crowd where
  threads : List Thread := []
  reached : Array Nat

/-- Follows the code from each pending thread to the instructions that take a character or accept.
`fuel` bounds the steps. -/
def follow (p : Program) (place : Place) : Nat → List Thread → Crowd → Crowd
  | 0, _, crowd => crowd
  | _ + 1, [], crowd => crowd
  | fuel + 1, t :: pending, crowd =>
    if crowd.reached[t.address]?.getD 0 == place.position + 1 then follow p place fuel pending crowd
    else
      let crowd := { crowd with
        reached := crowd.reached.setIfInBounds t.address (place.position + 1) }
      match p.code[t.address]? with
      | some (.fork nexts) =>
        follow p place fuel (nexts.map (fun a => { t with address := a }) ++ pending) crowd
      | some (.save slot next) =>
        let slots := t.slots.setIfInBounds slot (some place.position)
        follow p place fuel ({ t with address := next, slots := slots } :: pending) crowd
      | some (.assert look next) =>
        if look.holds place then follow p place fuel ({ t with address := next } :: pending) crowd
        else follow p place fuel pending crowd
      | _ => follow p place fuel pending { crowd with threads := t :: crowd.threads }

/-- A match: where it starts and ends, and what the groups noted. -/
structure Match where
  start : Nat
  stop : Nat
  slots : Slots

/-- One step of all threads: those that take the character `c` go on at the place behind it, and the
first one that accepts ends the step, as all later ones are less preferred. -/
def stepAll (p : Program) (edges : Nat) (here : Nat) (c : Option Char) (next : Place) :
    List Thread → Crowd → Option Match → Crowd × Option Match
  | [], crowd, best => (crowd, best)
  | t :: more, crowd, best =>
    match p.code[t.address]? with
    | some .accept => (crowd, some ⟨t.start, here, t.slots⟩)
    | some (.take chars address) =>
      let crowd :=
        if c.any (fun c => chars.contains c.toNat) then
          follow p next edges [{ t with address := address }] crowd
        else crowd
      stepAll p edges here c next more crowd best
    | _ => stepAll p edges here c next more crowd best

/-- Runs the threads over the rest of a text. As long as nothing matched, a new thread starts at every
position. -/
def run (p : Program) (edges slots : Nat) (before : Option Char) (position : Nat) (crowd : Crowd)
    (best : Option Match) (text : List Char) : Option Match :=
  let place : Place := ⟨before, text.head?, position⟩
  let crowd :=
    if best.isSome then crowd
    else follow p place edges [⟨p.start, position, Array.replicate slots none⟩] crowd
  let next : Place := ⟨text.head?, text[1]?, position + 1⟩
  let (after, best) :=
    stepAll p edges position text.head? next crowd.threads.reverse ⟨[], crowd.reached⟩ best
  match text with
  | [] => best
  | c :: rest =>
    if best.isSome && after.threads.isEmpty then best
    else run p edges slots (some c) (position + 1) after best rest

/-- The first match at or after a position: `text` is the text from there on and `before` the
character before it. -/
def findFrom (p : Program) (slots : Nat) (before : Option Char) (position : Nat) (text : List Char) :
    Option Match :=
  run p (p.edges + p.code.size) slots before position ⟨[], Array.replicate p.code.size 0⟩ none text

end HiddenImports.Regex
