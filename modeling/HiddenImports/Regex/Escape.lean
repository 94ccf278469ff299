import HiddenImports.Regex.Syntax
import HiddenImports.Text.Blank

/-!
# Single items of a pattern

What a pattern is made of at the lowest level, inside and outside of classes: characters written as
themselves or by an escape, classes of one letter, properties and assertions. Where the flags say that
blanks do not count, blanks and comments may stand between the parts of most escapes.
-/

namespace HiddenImports.Regex

open Unicode (CodeSet)

/-- The pattern that is still to be read. -/
abbrev Source := List Char

/-- The source after blanks and comments; `inComment` tells that a comment is open. -/
def dropBlanks (inComment : Bool) : Source → Source
  | [] => []
  | c :: rest =>
    if inComment then dropBlanks (c != '\n') rest
    else if Text.isBlank c then dropBlanks false rest
    else if c == '#' then dropBlanks true rest
    else c :: rest

/-- The source after what does not count under the flags. -/
def Flags.gap (flags : Flags) (source : Source) : Source :=
  if flags.ignoreBlanks then dropBlanks false source else source

/-- A single item of a pattern. -/
inductive Item where
  /-- A character; `byte` tells that it was written as a number of one byte. -/
  | char (c : Char) (byte : Bool)
  | class (chars : CodeSet)
  | look (look : Look)

/-- The characters with a meaning of their own in patterns. -/
def isMeta (c : Char) : Bool :=
  ['\\', '.', '+', '*', '?', '(', ')', '|', '[', ']', '\x7b', '\x7d', '^', '$', '#', '&', '-',
    '~'].contains c

/-- A backslash may stand before the character without need: it is ASCII, and neither a letter, a
digit nor an angle bracket. -/
def mayBeEscaped (c : Char) : Bool :=
  isMeta c || (c.toNat ≤ 0x7F && !c.isAlphanum && c != '<' && c != '>')

def isHex (c : Char) : Bool :=
  c.isDigit || ('a' ≤ c && c ≤ 'f') || ('A' ≤ c && c ≤ 'F')

/-- The character with the number written by some hexadecimal digits. -/
def hexChar (digits : List Char) : Except Error Char :=
  let n := digits.foldl
    (fun n c => n * 16 + (if c.isDigit then c.toNat - 48 else c.toLower.toNat - 87)) 0
  if n.isValidChar then .ok (Char.ofNat n) else .error .hexadecimal

/-- Exactly `count` hexadecimal digits. -/
def hexDigits (flags : Flags) : Nat → Source → Except Error (List Char × Source)
  | 0, source => .ok ([], source)
  | _ + 1, [] => .error .escape
  | count + 1, c :: rest =>
    if isHex c then do
      let (more, rest) ← hexDigits flags count (flags.gap rest)
      return (c :: more, rest)
    else .error .hexadecimal

/-- The source up to a closing brace, without what does not count, and the source behind the brace.
`fuel` exceeds its length. -/
def braced (flags : Flags) : Nat → Source → Option (List Char × Source)
  | 0, _ => none
  | fuel + 1, source =>
    match flags.gap source with
    | [] => none
    | c :: rest =>
      if c == '\x7d' then some ([], rest)
      else (braced flags fuel rest).map fun (more, rest) => (c :: more, rest)

/-- A character written by its number, from the letter `x`, `u` or `U` on. -/
def hexItem (flags : Flags) (letter : Char) (source : Source) : Except Error (Item × Source) :=
  match flags.gap source with
  | [] => .error .escape
  | '\x7b' :: rest =>
    match braced flags (rest.length + 1) rest with
    | none => .error .escape
    | some (digits, rest) =>
      if digits.isEmpty || !digits.all isHex then .error .hexadecimal
      else do return (.char (← hexChar digits) false, flags.gap rest)
  | source => do
    let count := if letter == 'x' then 2 else if letter == 'u' then 4 else 8
    let (digits, rest) ← hexDigits flags count source
    return (.char (← hexChar digits) (letter == 'x'), rest)

/-- The class of a property, from behind the letter `p`; `negated` tells that the letter was `P`. -/
def propertyItem (flags : Flags) (negated : Bool) (source : Source) : Except Error (Item × Source) := do
  let (name, rest) ← match flags.gap source with
    | [] => .error .escape
    | '\x7b' :: rest =>
      match braced flags (rest.length + 1) rest with
      | none => .error .escape
      | some found => .ok found
    | '\\' :: _ => .error .unknownProperty
    | c :: rest => .ok ([c], flags.gap rest)
  if !flags.unicode then .error .unknownProperty
  else
    let oneLetter := match flags.gap source with
      | '\x7b' :: _ => false
      | _ => true
    let found := if oneLetter then (named? name).map fun s => (false, s) else property? name
    match found with
    | none => .error .unknownProperty
    | some (complement, s) =>
      let s := flags.fold s
      return (.class (if negated != complement then s.compl else s), rest)

/-- The word boundary behind `\b`: one of the special ones in braces, or the plain one. Braces that do
not begin like a special one are left for a repetition. -/
def boundaryItem (flags : Flags) (source : Source) : Except Error (Item × Source) :=
  let plain := (Item.look (.boundary flags.unicode), source)
  match source with
  | '\x7b' :: rest =>
    let isName := fun c : Char => c.isAlpha || c == '-'
    match flags.gap rest with
    | [] => .error .wordBoundary
    | c :: _ =>
      if !isName c then .ok plain
      else
        match braced flags (rest.length + 1) rest with
        | none => .error .wordBoundary
        | some (name, rest) =>
          match String.ofList name with
          | "start" => .ok (.look (.wordStart flags.unicode), rest)
          | "end" => .ok (.look (.wordEnd flags.unicode), rest)
          | "start-half" => .ok (.look (.wordStartHalf flags.unicode), rest)
          | "end-half" => .ok (.look (.wordEndHalf flags.unicode), rest)
          | _ => .error .wordBoundary
  | _ => .ok plain

/-- The item behind a backslash. -/
def escapeItem (flags : Flags) (source : Source) : Except Error (Item × Source) :=
  match source with
  | [] => .error .escape
  | c :: rest =>
    if c.isDigit then .error .backReference
    else if c == 'x' || c == 'u' || c == 'U' then hexItem flags c rest
    else if c == 'p' || c == 'P' then propertyItem flags (c == 'P') rest
    else if c == 'd' || c == 's' || c == 'w' then .ok (.class (flags.letterClass c), rest)
    else if c == 'D' || c == 'S' || c == 'W' then do
      return (.class (← flags.negate (flags.letterClass c.toLower)), rest)
    else if mayBeEscaped c then .ok (.char c false, rest)
    else
      match c with
      | 'a' => .ok (.char '\x07' false, rest)
      | 'f' => .ok (.char '\x0c' false, rest)
      | 't' => .ok (.char '\t' false, rest)
      | 'n' => .ok (.char '\n' false, rest)
      | 'r' => .ok (.char '\r' false, rest)
      | 'v' => .ok (.char '\x0b' false, rest)
      | 'A' => .ok (.look .textStart, rest)
      | 'z' => .ok (.look .textEnd, rest)
      | 'b' => boundaryItem flags rest
      | 'B' => .ok (.look (.noBoundary flags.unicode), rest)
      | '<' => .ok (.look (.wordStart flags.unicode), rest)
      | '>' => .ok (.look (.wordEnd flags.unicode), rest)
      | _ => .error .escape

end HiddenImports.Regex
