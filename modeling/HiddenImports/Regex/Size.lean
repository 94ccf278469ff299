import HiddenImports.Regex.Fixed
import HiddenImports.Regex.Room

/-!
# The size of a pattern

A pattern is refused when the automaton that reads encoded text by its rules would take more than a fixed
room, in either direction of reading. The room is reckoned from the expression, state by state and in the
order in which the states are laid out, since the states of a set depend on the numbers they get.
-/

namespace HiddenImports.Regex

/-- Adds the same thing up to `n` times, as long as the room fits. -/
def Room.times (lay : Room → Room) : Nat → Room → Room
  | 0, room => room
  | n + 1, room => if room.fits then Room.times lay n (lay room) else room

/-- Adds a thing exactly `n` times; no time at all takes a state too. -/
def Room.exactly (lay : Room → Room) (n : Nat) (room : Room) : Room :=
  if n == 0 then room.plain 1 else room.times lay n

/-- Adds a repetition of a thing; `consumes` tells that each round takes a character. -/
def Room.repetition (lay : Room → Room) (min : Nat) (max : Option Nat) (consumes : Bool)
    (room : Room) : Room :=
  match max with
  | none =>
    if min == 0 then
      if consumes then lay (room.fork 2) else (((lay room).fork 2).fork 2).plain 1
    else (room.times lay min).fork 2
  | some max =>
    if min == max then room.exactly lay min
    else if min == 0 && max == 1 then (lay (room.fork 2)).plain 1
    else ((room.exactly lay min).plain 1).times (fun room => lay (room.fork 2)) (max - min)

/-- The bytes of a text of an expression. -/
def Expr.bytes? : Expr → Option (List Nat)
  | .text chars => some (bytesOf chars)
  | _ => none

mutual

/-- Adds an expression that is read from its beginning. -/
def Expr.layForward : Expr → Room → Room
  | .empty, room => room.plain 1
  | .text chars, room => room.plain (String.ofList chars).utf8ByteSize
  | .set chars, room => room.setForward chars
  | .look _, room => room.plain 1
  | .repeat body min max _, room => room.repetition body.layForward min max body.consumes
  | .group _ body, room => (body.layForward (room.plain 1)).plain 1
  | .seq parts, room => laySeqForward parts room
  | .choice branches, room =>
    match branches.mapM Expr.bytes? with
    | some strings => room.texts strings
    | none => layBranchesForward branches.length 0 branches room

/-- Adds expressions from the first to the last. -/
def laySeqForward : List Expr → Room → Room
  | [], room => room
  | e :: more, room => laySeqForward more (e.layForward room)

/-- Adds branches; where they part and meet is added behind the second one. -/
def layBranchesForward (ways : Nat) : (before : Nat) → List Expr → Room → Room
  | _, [], room => room
  | before, e :: more, room =>
    let room := e.layForward room
    layBranchesForward ways (before + 1) more
      (if before == 1 then (room.fork ways).plain 1 else room)

end

mutual

/-- Adds an expression that is read from its end. Groups are not noted there. -/
def Expr.layBackward : Expr → Room → Room
  | .empty, room => room.plain 1
  | .text chars, room => room.plain (String.ofList chars).utf8ByteSize
  | .set chars, room => room.setBackward chars
  | .look _, room => room.plain 1
  | .repeat body min max _, room => room.repetition body.layBackward min max body.consumes
  | .group _ body, room => body.layBackward room
  | .seq parts, room => laySeqBackward parts room
  | .choice branches, room =>
    match branches.mapM Expr.bytes? with
    | some strings => room.texts (strings.map List.reverse)
    | none => layBranchesBackward branches.length 0 branches room

/-- Adds branches; where they part and meet is added behind the second one. -/
def layBranchesBackward (ways : Nat) : (before : Nat) → List Expr → Room → Room
  | _, [], room => room
  | before, e :: more, room =>
    let room := e.layBackward room
    layBranchesBackward ways (before + 1) more
      (if before == 1 then (room.fork ways).plain 1 else room)

/-- Adds expressions from the last to the first. -/
def laySeqBackward : List Expr → Room → Room
  | [], room => room
  | e :: more, room => e.layBackward (laySeqBackward more room)

end

/-! ## Anchors -/

mutual

/-- Every match starts at the start of the text. -/
def Expr.atStart : Expr → Bool
  | .look look => look == .textStart
  | .repeat body min _ _ => min != 0 && body.atStart
  | .group _ body => body.atStart
  | .seq parts => startsAtStart parts
  | .choice branches => allAtStart branches
  | _ => false

/-- A sequence starts there if one of its parts does that is only preceded by parts that take nothing. -/
def startsAtStart : List Expr → Bool
  | [] => false
  | e :: more => e.atStart || (e.takesNothing && startsAtStart more)

def allAtStart : List Expr → Bool
  | [] => true
  | e :: more => e.atStart && allAtStart more

end

mutual

/-- Every match ends at the end of the text. -/
def Expr.atEnd : Expr → Bool
  | .look look => look == .textEnd
  | .repeat body min _ _ => min != 0 && body.atEnd
  | .group _ body => body.atEnd
  | .seq parts => endsAtEnd parts
  | .choice branches => allAtEnd branches
  | _ => false

/-- A sequence ends there if one of its parts does that is only followed by parts that take nothing. -/
def endsAtEnd : List Expr → Bool
  | [] => false
  | e :: more => endsAtEnd more || (e.atEnd && more.all Expr.takesNothing)

def allAtEnd : List Expr → Bool
  | [] => true
  | e :: more => e.atEnd && allAtEnd more

end

/-- The states that skip what comes before a match; none of it can be skipped if matches are anchored. -/
def skipping (anchored : Bool) : Room :=
  if anchored then ({} : Room).plain 1 else ((({} : Room).fork 2).plain 1).reader 1

/-- The room for reading from the beginning, with the states that note where a match starts and ends, and
the last one. -/
def Expr.forwardRoom (e : Expr) : Room :=
  (e.layForward ((skipping e.atStart).plain 1)).plain 2

/-- The room for reading from the end. -/
def Expr.backwardRoom (e : Expr) : Room :=
  (e.layBackward (skipping e.atEnd)).plain 1

/-- The pattern fits the room in both directions of reading, or needs none. -/
def Expr.fits (e : Expr) : Bool :=
  e.forwardRoom.fits && e.backwardRoom.fits || e.isFixed || e.isWordList

end HiddenImports.Regex
