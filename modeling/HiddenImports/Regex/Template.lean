/-!
# Replacement templates

A template is the text that replaces a match. `$name` and `${name}` stand for what a group matched,
`$$` for a dollar sign, and any other dollar sign for itself. A name that reads as a number is the
number of a group.
-/

namespace HiddenImports.Regex

/-- Which group a template refers to. -/
inductive GroupRef where
  | number (index : Nat)
  | name (name : String)
  deriving DecidableEq, Repr

/-- A piece of a template. -/
inductive Piece where
  | char (c : Char)
  | group (ref : GroupRef)
  deriving DecidableEq, Repr

/-- A character of a name that is not in braces. -/
def isNameChar (c : Char) : Bool :=
  c.isAlphanum || c == '_'

/-- The group with the given name. Names of digits, with an optional plus sign, are numbers if they fit
64 bits. -/
def GroupRef.ofName (name : List Char) : GroupRef :=
  let digits := match name with
    | '+' :: rest => rest
    | _ => name
  let n := Nat.ofDigitChars 10 digits 0
  if !digits.isEmpty && digits.all Char.isDigit && n < Nat.pow 2 64 then .number n
  else .name (String.ofList name)

/-- The reference behind a dollar sign and the number of characters it takes. -/
def groupRef? (text : List Char) : Option (GroupRef × Nat) :=
  match text with
  | '\x7b' :: rest =>
    let name := rest.takeWhile (· != '\x7d')
    if name.length < rest.length then some (.ofName name, name.length + 2) else none
  | _ =>
    let name := text.takeWhile isNameChar
    if name.isEmpty then none else some (.ofName name, name.length)

/-- The pieces of a template, the first `skip` characters of which belong to the piece before. -/
def templatePieces : Nat → List Char → List Piece
  | _, [] => []
  | skip + 1, _ :: rest => templatePieces skip rest
  | 0, c :: rest =>
    if c != '$' then .char c :: templatePieces 0 rest
    else
      match rest with
      | '$' :: _ => .char '$' :: templatePieces 1 rest
      | _ =>
        match groupRef? rest with
        | some (ref, size) => .group ref :: templatePieces size rest
        | none => .char '$' :: templatePieces 0 rest

/-- The text of a template, where `valueOf` gives what a group matched. -/
def expand (valueOf : GroupRef → List Char) (pieces : List Piece) : List Char :=
  pieces.flatMap fun
    | .char c => [c]
    | .group ref => valueOf ref

end HiddenImports.Regex
