import HiddenImports.Json.Reader

/-!
# Buffered values

A value whose shape depends on a tag inside it is first read whole, as a `Value`, and then taken
apart. `Value.render` writes a value in its most compact form.
-/

namespace HiddenImports.Json

/-- A value of a document; the members of an object keep their order. -/
inductive Value where
  | null
  | boolean (value : Bool)
  | number (value : Number)
  | string (value : String)
  | array (elements : List Value)
  | object (members : List (String × Value))

namespace Value

/-- The kind of a value, as a mismatch reports it. -/
def found : Value → Found
  | null => .null
  | boolean b => .boolean b
  | number n => .number n
  | string s => .string s
  | array _ => .sequence
  | object _ => .map

/-- The mismatch of a value that should be something else. -/
def mismatch (v : Value) (expected : String) : Mismatch :=
  .invalidType v.found expected

end Value

/-! ## Reading -/

/-- The remaining members of an open object, each value read by `item`; the closing brace stays. -/
def readMembers {α : Type} (item : Reader α) : Nat → Bool → Reader (List (String × α))
  | 0, _, _ => .error .malformed
  | fuel + 1, first, input =>
    match nextKey first input with
    | .error e => .error e
    | .ok (none, rest) => .ok ([], rest)
    | .ok (some key, rest) =>
      match colon rest with
      | .error e => .error e
      | .ok rest =>
        match item rest with
        | .error e => .error e
        | .ok (value, rest) =>
          match readMembers item fuel false rest with
          | .error e => .error e
          | .ok (more, rest) => .ok ((key, value) :: more, rest)

/-- A value with at most `depth` open containers. -/
def readValue : Nat → Reader Value
  | depth, input =>
    match skipGap input with
    | [] => .error .truncated
    | some 'n' :: rest => do return (.null, ← readWord ['u', 'l', 'l'] rest)
    | some 't' :: rest => do return (.boolean true, ← readWord ['r', 'u', 'e'] rest)
    | some 'f' :: rest => do return (.boolean false, ← readWord ['a', 'l', 's', 'e'] rest)
    | some '"' :: rest => (stringBody .plain []) rest |>.map fun (s, rest) => (.string s, rest)
    | some '[' :: rest =>
      match depth with
      | 0 => .error .malformed
      | depth + 1 =>
        Reader.map .array (closedBy ']' (elements (readValue depth) (rest.length + 1) true)) rest
    | some '\x7b' :: rest =>
      match depth with
      | 0 => .error .malformed
      | depth + 1 =>
        Reader.map .object (closedBy '\x7d' (readMembers (readValue depth) (rest.length + 1) true)) rest
    | g :: rest =>
      if g == some '-' || isDigitGlyph g then Reader.map .number readNumber (g :: rest)
      else .error .malformed

/-! ## Taking values apart -/

namespace Value

/-- A string. -/
def asString : Value → Except Mismatch String
  | string s => .ok s
  | v => .error (v.mismatch "a string")

/-- An array of like elements. -/
def asList {α : Type} (item : Value → Except Mismatch α) : Value → Except Mismatch (List α)
  | array elements => elements.mapM item
  | v => .error (v.mismatch "a sequence")

/-- A value that `null` stands for the absence of. -/
def asOption {α : Type} (item : Value → Except Mismatch α) : Value → Except Mismatch (Option α)
  | null => .ok none
  | v => (item v).map some

/-- Walks through the members of an object. For each key, `field` refuses it, passes over it, or gives
what the value does to the state. -/
def foldMembers {σ : Type} (field : σ → String → Except Mismatch (Option (Value → Except Mismatch σ))) :
    σ → List (String × Value) → Except Mismatch σ
  | state, [] => .ok state
  | state, (key, value) :: rest =>
    match field state key with
    | .error cause => .error cause
    | .ok none => foldMembers field state rest
    | .ok (some update) =>
      match update value with
      | .error cause => .error cause
      | .ok state => foldMembers field state rest

/-- The array of `count` fields has no elements beyond them; `total` is its length. -/
def noSurplus (count total : Nat) : Except Mismatch Unit :=
  if total ≤ count then .ok ()
  else
    let noun := if count == 1 then "element" else "elements"
    .error (.invalidLength total s!"{count} {noun} in sequence")

end Value

/-! ## Tagged values -/

/-- The members of a tagged object, read by `item`: the tag among them, and the others in order. -/
def taggedMembers {τ α : Type} (tagName : String) (tag : Reader τ) (item : Reader α) :
    Nat → Bool → Option τ → Reader (Option τ × List (String × α))
  | 0, _, _, _ => .error .malformed
  | fuel + 1, first, known, input =>
    match nextKey first input with
    | .error e => .error e
    | .ok (none, rest) => .ok ((known, []), rest)
    | .ok (some key, rest) =>
      if key == tagName then
        match known with
        | some _ => .error (.mismatch (.duplicateField tagName))
        | none =>
          match colon rest with
          | .error e => .error e
          | .ok rest =>
            match tag rest with
            | .error e => .error e
            | .ok (t, rest) => taggedMembers tagName tag item fuel false (some t) rest
      else
        match colon rest with
        | .error e => .error e
        | .ok rest =>
          match item rest with
          | .error e => .error e
          | .ok (value, rest) =>
            match taggedMembers tagName tag item fuel false known rest with
            | .error e => .error e
            | .ok ((t, more), rest) => .ok ((t, (key, value) :: more), rest)

/-- A tag and the values beside it, still to be taken apart: the members of an object or the elements
of an array, of which the tag is the first. -/
structure Tagged (τ : Type) where
  tag : τ
  contents : Value

/-- A tagged value. `what` words it. -/
def readTagged {τ : Type} (what tagName : String) (tag : Reader τ) (depth : Nat) :
    Reader (Tagged τ) :=
  readRecord what depth
    (fun depth input =>
      match taggedMembers tagName tag (readValue depth) (input.length + 1) true none input with
      | .error e => .error e
      | .ok ((some t, more), rest) => .ok (⟨t, .object more⟩, rest)
      | .ok ((none, _), _) => .error (.mismatch (.missingField tagName)))
    (fun depth input =>
      match nextElement true tag input with
      | .error e => .error e
      | .ok (none, _) => .error (.mismatch (.missingField tagName))
      | .ok (some t, rest) =>
        match elements (readValue depth) (rest.length + 1) false rest with
        | .error e => .error e
        | .ok (more, rest) => .ok (⟨t, .array more⟩, rest))

/-! ## Writing -/

/-- A hexadecimal digit, in lower case. -/
def hexDigit (n : Nat) : Char :=
  Char.ofNat (if n < 10 then n + 48 else n + 87)

/-- A character inside a written string: only quotes, backslashes and control characters need an
escape. -/
def escapeChar (c : Char) : List Char :=
  if c = '"' then ['\\', '"']
  else if c = '\\' then ['\\', '\\']
  else if c = '\x08' then ['\\', 'b']
  else if c = '\x0c' then ['\\', 'f']
  else if c = '\n' then ['\\', 'n']
  else if c = '\r' then ['\\', 'r']
  else if c = '\t' then ['\\', 't']
  else if c < ' ' then ['\\', 'u', '0', '0', hexDigit (c.toNat / 16), hexDigit (c.toNat % 16)]
  else [c]

/-- A string between its quotes. -/
def renderString (text : String) : List Char :=
  '"' :: (text.toList.flatMap escapeChar ++ ['"'])

/-- The text of a number. -/
def renderNumber : Number → List Char
  | .integer n => (toString n).toList
  | .floating x => x.render.toList

mutual

/-- A value without any blanks. -/
def renderValue : Value → List Char
  | .null => ['n', 'u', 'l', 'l']
  | .boolean true => ['t', 'r', 'u', 'e']
  | .boolean false => ['f', 'a', 'l', 's', 'e']
  | .number n => renderNumber n
  | .string s => renderString s
  | .array elements => '[' :: renderElements elements ++ [']']
  | .object members => '\x7b' :: renderMembers members ++ ['\x7d']

/-- Elements with commas between them. -/
def renderElements : List Value → List Char
  | [] => []
  | [v] => renderValue v
  | v :: more => renderValue v ++ ',' :: renderElements more

/-- Members with commas between them. -/
def renderMembers : List (String × Value) → List Char
  | [] => []
  | [(key, v)] => renderString key ++ ':' :: renderValue v
  | (key, v) :: more => renderString key ++ ':' :: renderValue v ++ ',' :: renderMembers more

end

/-- The most compact text of a value. -/
def Value.render (v : Value) : String :=
  String.ofList (renderValue v)

end HiddenImports.Json
