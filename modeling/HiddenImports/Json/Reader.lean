import HiddenImports.Json.Skip

/-!
# Readers

The parts from which readers of typed values are made: a string, a list, the elements of an array one
by one, and the members of an object. A reader that meets a value of another kind names what it found,
for which it looks at the value just far enough.

Containers may be nested to `maxDepth`; a reader of a container is given the number of levels that are
left. Loops over elements and members run on fuel that exceeds the length of the input.
-/

namespace HiddenImports.Json

/-- How many containers may be open at once. -/
def maxDepth : Nat := 127

/-- The error of a value that is not of the expected kind; the input begins with the value. -/
def unexpected (expected : String) (input : Input) : Error :=
  let found := fun (result : Except Error Found) =>
    match result with
    | .ok found => .mismatch (.invalidType found expected)
    | .error e => e
  match skipGap input with
  | [] => .truncated
  | some 'n' :: rest => found do
    let _ ← readWord ['u', 'l', 'l'] rest
    return .null
  | some 't' :: rest => found do
    let _ ← readWord ['r', 'u', 'e'] rest
    return .boolean true
  | some 'f' :: rest => found do
    let _ ← readWord ['a', 'l', 's', 'e'] rest
    return .boolean false
  | some '"' :: rest => found do
    let (text, _) ← stringBody .plain [] rest
    return .string text
  | some '[' :: _ => found (.ok .sequence)
  | some '\x7b' :: _ => found (.ok .map)
  | g :: rest =>
    if g == some '-' || isDigitGlyph g then found do
      let (number, _) ← readNumber (g :: rest)
      return .number number
    else .malformed

/-- A string; `expected` words what stands here if it is none. -/
def readStringAs (expected : String) : Reader String := fun input =>
  match skipGap input with
  | some '"' :: rest => stringBody .plain [] rest
  | other => .error (unexpected expected other)

/-- A string. -/
def readString : Reader String := readStringAs "a string"

/-- The value of a reader, changed or refused by `f`. -/
def Reader.refine {α β : Type} (read : Reader α) (f : α → Except Mismatch β) : Reader β := fun input =>
  match read input with
  | .error e => .error e
  | .ok (a, rest) =>
    match f a with
    | .ok b => .ok (b, rest)
    | .error cause => .error (.mismatch cause)

/-- The value of a reader, changed by `f`. -/
def Reader.map {α β : Type} (f : α → β) (read : Reader α) : Reader β := fun input =>
  match read input with
  | .error e => .error e
  | .ok (a, rest) => .ok (f a, rest)

/-! ## Arrays -/

/-- The next element of an open array, or nothing before its closing bracket, which stays. -/
def nextElement {α : Type} (first : Bool) (item : Reader α) (input : Input) :
    Except Error (Option α × Input) :=
  match skipGap input with
  | [] => .error .truncated
  | g :: rest =>
    if g == some ']' then .ok (none, g :: rest)
    else if first then (item.map some) (g :: rest)
    else if g == some ',' then
      match skipGap rest with
      | [] => .error .truncated
      | g :: rest =>
        if g == some ']' then .error .malformed else (item.map some) (g :: rest)
    else .error .malformed

/-- The remaining elements of an open array; its closing bracket stays. -/
def elements {α : Type} (item : Reader α) : Nat → Bool → Reader (List α)
  | 0, _, _ => .error .malformed
  | fuel + 1, first, input =>
    match nextElement first item input with
    | .error e => .error e
    | .ok (none, rest) => .ok ([], rest)
    | .ok (some a, rest) =>
      match elements item fuel false rest with
      | .error e => .error e
      | .ok (as, rest) => .ok (a :: as, rest)

/-- The input behind the closing bracket `closing`, which has to come next. -/
def close (closing : Char) (input : Input) : Except Error Input :=
  match skipGap input with
  | [] => .error .truncated
  | g :: rest => if g == some closing then .ok rest else .error .malformed

/-- What `body` reads, and the closing bracket behind it. -/
def closedBy {α : Type} (closing : Char) (body : Reader α) : Reader α := fun input =>
  match body input with
  | .error e => .error e
  | .ok (a, rest) =>
    match close closing rest with
    | .error e => .error e
    | .ok rest => .ok (a, rest)

/-- A container's contents, if there is a level left for it. -/
def nested {α : Type} (depth : Nat) (body : Nat → Reader α) : Reader α := fun input =>
  match depth with
  | 0 => .error .malformed
  | depth + 1 => body depth input

/-- An array of like elements. -/
def readList {α : Type} (depth : Nat) (item : Nat → Reader α) : Reader (List α) := fun input =>
  match skipGap input with
  | some '[' :: rest =>
    nested depth
      (fun depth => closedBy ']' (elements (item depth) (rest.length + 1) true)) rest
  | other => .error (unexpected "a sequence" other)

/-! ## Objects -/

/-- The next key of an open object, or nothing before its closing brace, which stays. -/
def nextKey (first : Bool) (input : Input) : Except Error (Option String × Input) :=
  let key := fun (g : Glyph) (rest : Input) =>
    if g == some '"' then (Reader.map some (stringBody .plain [])) rest else .error .malformed
  match skipGap input with
  | [] => .error .truncated
  | g :: rest =>
    if g == some '\x7d' then .ok (none, g :: rest)
    else if first then key g rest
    else if g == some ',' then
      match skipGap rest with
      | [] => .error .truncated
      | g :: rest => key g rest
    else .error .malformed

/-- The input behind the colon after a key. -/
def colon (input : Input) : Except Error Input :=
  close ':' input

/-- The remaining members of an open object; its closing brace stays. For each key, `field` refuses it,
passes over its value (`none`), or gives the reader of the value, which updates the state. -/
def members {σ : Type} (field : σ → String → Except Mismatch (Option (Reader σ))) :
    Nat → Bool → σ → Reader σ
  | 0, _, _, _ => .error .malformed
  | fuel + 1, first, state, input =>
    match nextKey first input with
    | .error e => .error e
    | .ok (none, rest) => .ok (state, rest)
    | .ok (some key, rest) =>
      match field state key with
      | .error cause => .error (.mismatch cause)
      | .ok reader =>
        match colon rest with
        | .error e => .error e
        | .ok rest =>
          match reader with
          | none =>
            match skipValue rest with
            | .error e => .error e
            | .ok rest => members field fuel false state rest
          | some read =>
            match read rest with
            | .error e => .error e
            | .ok (state, rest) => members field fuel false state rest

/-- The reader of a field that may occur once: `current` is what an earlier occurrence gave. -/
def once {α β : Type} (name : String) (current : Option α) (read : β) :
    Except Mismatch (Option β) :=
  match current with
  | none => .ok (some read)
  | some _ => .error (.duplicateField name)

/-- A field that has to occur. -/
def required {α : Type} (name : String) : Option α → Except Mismatch α
  | some a => .ok a
  | none => .error (.missingField name)

/-- A value that is written as an object or as the array of its fields. `what` words it; `object` and
`array` read the contents of the open container. -/
def readRecord {α : Type} (what : String) (depth : Nat) (object : Nat → Reader α)
    (array : Nat → Reader α) : Reader α := fun input =>
  match skipGap input with
  | some '[' :: rest => nested depth (fun depth => closedBy ']' (array depth)) rest
  | some '\x7b' :: rest => nested depth (fun depth => closedBy '\x7d' (object depth)) rest
  | other => .error (unexpected what other)

/-- An element of an array that stands for a field; `index` fields come before it. -/
def position {α : Type} (index : Nat) (expected : String) (item : Reader α) : Reader α := fun input =>
  match nextElement (index == 0) item input with
  | .error e => .error e
  | .ok (some a, rest) => .ok (a, rest)
  | .ok (none, _) => .error (.mismatch (.invalidLength index expected))

/-- An element of an array that stands for a field with a default. -/
def positionOr {α : Type} (index : Nat) (default : α) (item : Reader α) : Reader α := fun input =>
  match nextElement (index == 0) item input with
  | .error e => .error e
  | .ok (some a, rest) => .ok (a, rest)
  | .ok (none, rest) => .ok (default, rest)

/-! ## Whole documents -/

/-- The value of a document that holds nothing else. -/
def readDocument {α : Type} (read : Reader α) (input : Input) : Except Error α :=
  match read input with
  | .error e => .error e
  | .ok (a, rest) => if (skipGap rest).isEmpty then .ok a else .error .malformed

end HiddenImports.Json
