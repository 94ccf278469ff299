import Std.Data.HashMap
import HiddenImports.Unicode.Encoded

/-!
# The room of an automaton

An automaton that reads encoded text is laid out as numbered states, some of which hold lists of ways
on. `Room` keeps the count. Texts, choices among texts and sets of ASCII characters take a number of
states that can be read off them. Any other set is laid out by its shapes: states that go on alike are
shared, as long as they are remembered, and the memory has a slot for each remainder of a hash.
-/

namespace HiddenImports.Regex

open Unicode (Shape ByteRange CodeSet)

/-- What the states laid out so far take: their number, and the bytes of the lists they hold. -/
structure Room where
  states : Nat := 0
  lists : Nat := 0

namespace Room

/-- One state, in bytes. -/
def stateSize : Nat := 32

/-- One range of bytes that leads on from a state, in bytes. -/
def rangeSize : Nat := 8

/-- One way on without reading, in bytes. -/
def branchSize : Nat := 4

/-- The most bytes that an automaton may take. -/
def limit : Nat := 10 * Nat.pow 2 20

/-- The room in bytes. -/
def total (r : Room) : Nat := r.states * stateSize + r.lists

/-- The room is within the limit. -/
def fits (r : Room) : Bool := r.total ≤ limit

/-- Adds states that hold no list. -/
def plain (r : Room) (n : Nat) : Room := { r with states := r.states + n }

/-- Adds a state with ways on without reading. -/
def fork (r : Room) (ways : Nat) : Room := ⟨r.states + 1, r.lists + ways * branchSize⟩

/-- Adds a state that reads a byte in one of the ranges. -/
def reader (r : Room) (ranges : Nat) : Room := ⟨r.states + 1, r.lists + ranges * rangeSize⟩

end Room

/-! ## Choices among texts -/

/-- Cuts a list of byte strings at the empty ones. -/
def cutAtEmpty : List (List Nat) → List (List (List Nat))
  | [] => [[]]
  | [] :: rest => [] :: cutAtEmpty rest
  | s :: rest =>
    match cutAtEmpty rest with
    | part :: parts => (s :: part) :: parts
    | [] => [[s]]

/-- How many of the given empty strings end a match of their own: all that stand behind another string,
and one of those before. -/
def endings : List (List Nat) → Nat
  | [] => 0
  | [] :: rest => if rest.all List.isEmpty then 1 else
    (rest.dropWhile List.isEmpty).countP List.isEmpty + 1
  | _ :: rest => rest.countP List.isEmpty

/-- Adds a tree that reads one of the strings, in their order of preference: a string that ends where
others go on parts those before it from those behind it. No string is longer than `depth`. -/
def layTree : (depth : Nat) → List (List Nat) → Room → Room
  | 0, _, room => room
  | depth + 1, strings, room =>
    if strings.all List.isEmpty then room
    else
      let parts := (cutAtEmpty strings).filter (!·.isEmpty)
      let room := parts.foldl (fun room part =>
        let heads := (part.filterMap List.head?).eraseDups
        let room := heads.foldl (fun room head =>
          layTree depth ((part.filter (·.head? == some head)).map List.tail) room) room
        if heads.length == 1 then room.plain 1 else room.reader heads.length) room
      room.fork (parts.length + endings strings)

/-- Adds a choice among texts, given by their bytes. -/
def Room.texts (room : Room) (strings : List (List Nat)) : Room :=
  layTree ((strings.map List.length).foldl max 0 + 1) strings (room.plain 1)

/-! ## Sets -/

/-- A number mixed into a hash. -/
def mix (hash : UInt64) (n : Nat) : UInt64 := (hash ^^^ n.toUInt64) * 1099511628211

/-- The hash of some numbers. -/
def hashOf (numbers : List Nat) : UInt64 := numbers.foldl mix 14695981039346656037

/-- What is remembered: in each slot the thing that came last, with the number of its state. -/
abbrev Memory (α : Type) := Std.HashMap Nat (α × Nat)

/-- The number under which a thing is remembered. -/
def numberOf? {α : Type} [BEq α] (memory : Memory α) (slot : Nat) (thing : α) : Option Nat :=
  match memory[slot]? with
  | some (other, number) => if other == thing then some number else none
  | none => none

/-- A state that reads: its ranges and the states they lead to. -/
abbrev Ways := List (ByteRange × Nat)

/-- The number of slots for states that read from the first byte on. -/
def forwardSlots : Nat := 10000

/-- The number of slots for states that read from the last byte on. -/
def backwardSlots : Nat := 1000

/-- The slot of a state that reads from the first byte on. -/
def slotOf (ways : Ways) : Nat :=
  (hashOf (ways.flatMap fun ((lo, hi), next) => [lo, hi, next])).toNat % forwardSlots

/-- Lays out the states that read one of the shapes and go on at `goal`, each after those it leads to,
and gives the number of the first one. No shape is longer than `depth`. -/
def layShapes (goal : Nat) : (depth : Nat) → List Shape → Room × Memory Ways → Nat × Room × Memory Ways
  | 0, _, laid => (goal, laid)
  | depth + 1, shapes, laid =>
    if shapes.all List.isEmpty then (goal, laid)
    else
      let (ways, room, memory) := (Unicode.branches shapes).foldl (fun (ways, laid) (range, rests) =>
        let (next, laid) := layShapes goal depth rests laid
        (ways ++ [(range, next)], laid)) (([] : Ways), laid)
      match numberOf? memory (slotOf ways) ways with
      | some number => (number, room, memory)
      | none => (room.states, room.reader ways.length, memory.insert (slotOf ways) (ways, room.states))

/-- Lays out one shape from its end, in front of the state `goal`, and gives the number of the last
state that was reached. -/
def layBackwards (goal : Nat) (shape : Shape) (laid : Room × Memory (Nat × ByteRange)) :
    Nat × Room × Memory (Nat × ByteRange) :=
  shape.foldl (fun (goal, room, memory) range =>
    let slot := (hashOf [goal, range.1, range.2]).toNat % backwardSlots
    match numberOf? memory slot (goal, range) with
    | some number => (number, room, memory)
    | none => (room.states, room.plain 1, memory.insert slot ((goal, range), room.states)))
    (goal, laid)

/-- The longest encoding of a character. -/
def longestEncoding : Nat := 4

/-- Adds a set of characters, read from the first byte on. -/
def Room.setForward (room : Room) (chars : CodeSet) : Room :=
  if chars.isAscii then (room.plain 1).reader chars.ranges.length
  else (layShapes room.states (longestEncoding + 1) chars.shapes (room.plain 1, {})).2.1

/-- Adds a set of characters, read from the last byte on. -/
def Room.setBackward (room : Room) (chars : CodeSet) : Room :=
  if chars.isAscii then (room.plain 1).reader chars.ranges.length
  else
    let shapes := chars.shapes
    let goal := room.states + 1
    let laid := shapes.foldl (fun laid shape => (layBackwards goal shape laid).2)
      ((room.fork shapes.length).plain 1, ({} : Memory (Nat × ByteRange)))
    laid.1

end HiddenImports.Regex
