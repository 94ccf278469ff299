import HiddenImports.Regex.Error
import HiddenImports.Regex.Property

/-!
# Regular expressions

`Expr` is a pattern in which flags, classes and names are already resolved: what is left are texts, sets
of characters, assertions about a position, repetitions, groups, sequences and choices. `Flags` are the
settings that a pattern can change on its way.
-/

namespace HiddenImports.Regex

open Unicode (CodeSet)

/-- What an assertion demands of a position. A word boundary goes by its own notion of word. -/
inductive Look where
  | textStart
  | textEnd
  | lineStart
  | lineEnd
  /-- As `lineStart`, where a carriage return and line feed end a line together. -/
  | anyLineStart
  | anyLineEnd
  | boundary (unicode : Bool)
  | noBoundary (unicode : Bool)
  | wordStart (unicode : Bool)
  | wordEnd (unicode : Bool)
  | wordStartHalf (unicode : Bool)
  | wordEndHalf (unicode : Bool)
  deriving DecidableEq, Repr

/-- A regular expression. -/
inductive Expr where
  | empty
  /-- These characters, one after the other. -/
  | text (chars : List Char)
  /-- One character out of a set. -/
  | set (chars : CodeSet)
  | look (look : Look)
  /-- At least `min` and at most `max` times, as often as possible if `greedy`. -/
  | repeat (body : Expr) (min : Nat) (max : Option Nat) (greedy : Bool)
  /-- A group that remembers what it matched. -/
  | group (index : Nat) (body : Expr)
  | seq (parts : List Expr)
  /-- The first choice that leads to a match counts. -/
  | choice (branches : List Expr)

/-- The settings of a pattern. -/
structure Flags where
  ignoreCase : Bool := false
  multiLine : Bool := false
  dotAll : Bool := false
  swapGreed : Bool := false
  unicode : Bool := true
  anyLineEnd : Bool := false
  ignoreBlanks : Bool := false
  deriving DecidableEq, Repr

namespace Flags

/-- A set with all characters that differ from a member in case only, if the case does not count. -/
def fold (flags : Flags) (s : CodeSet) : CodeSet :=
  if !flags.ignoreCase then s
  else if flags.unicode then Unicode.closeUnderFolding s
  else
    let letters := ofRanges [('A', 'Z'), ('a', 'z')]
    let twins := ((s.inter letters).ranges.flatMap fun (lo, hi) =>
      (List.range (hi + 1 - lo)).map fun i => (lo + i).xor 0x20)
    s.union (CodeSet.ofList twins)

/-- The complement of a class. Without the full character set, it would hold parts of characters. -/
def negate (flags : Flags) (s : CodeSet) : Except Error CodeSet :=
  if flags.unicode then .ok s.compl else .error .invalidText

/-- The class behind the letter `d`, `s` or `w`. -/
def letterClass (flags : Flags) (letter : Char) : CodeSet :=
  match letter with
  | 'd' => if flags.unicode then digits else asciiDigits
  | 's' => if flags.unicode then blanks else asciiBlanks
  | _ => if flags.unicode then wordChars else asciiWordChars

/-- A single character as a member of a class. -/
def classLiteral (flags : Flags) (c : Char) : Except Error CodeSet :=
  if !flags.unicode && c.toNat > 0x7F then .error .invalidText
  else .ok (CodeSet.range c.toNat c.toNat)

/-- What a dot matches: any character, but for line ends unless they are included. -/
def dot (flags : Flags) : Except Error CodeSet :=
  if !flags.unicode then .error .invalidText
  else if flags.dotAll then .ok CodeSet.full
  else if flags.anyLineEnd then .ok (CodeSet.ofList [0x0A, 0x0D]).compl
  else .ok (CodeSet.ofList [0x0A]).compl

/-- What a caret asserts. -/
def lineStart (flags : Flags) : Look :=
  if !flags.multiLine then .textStart else if flags.anyLineEnd then .anyLineStart else .lineStart

/-- What a dollar sign asserts. -/
def lineEnd (flags : Flags) : Look :=
  if !flags.multiLine then .textEnd else if flags.anyLineEnd then .anyLineEnd else .lineEnd

end Flags

end HiddenImports.Regex
