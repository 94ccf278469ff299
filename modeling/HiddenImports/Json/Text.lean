import HiddenImports.Json.Input

/-!
# Strings in a document

A string is read one glyph at a time by a small state machine; `stringBody` starts behind the opening
quote. Decoding joins surrogate pairs and refuses lone surrogates and stray bytes; `skipString` checks
the form alone and lets both pass.
-/

namespace HiddenImports.Json

/-- The character after a backslash that stands for a single character. -/
def shortEscape? : Char → Option Char
  | '"' => some '"'
  | '\\' => some '\\'
  | '/' => some '/'
  | 'b' => some '\x08'
  | 'f' => some '\x0c'
  | 'n' => some '\n'
  | 'r' => some '\r'
  | 't' => some '\t'
  | _ => none

/-- The value of a hexadecimal digit. -/
def hexDigit? (c : Char) : Option Nat :=
  if '0' ≤ c && c ≤ '9' then some (c.toNat - 48)
  else if 'a' ≤ c && c ≤ 'f' then some (c.toNat - 87)
  else if 'A' ≤ c && c ≤ 'F' then some (c.toNat - 55)
  else none

/-- Where the reading of a string stands. -/
inductive StringState where
  /-- Between characters. -/
  | plain
  /-- Behind a backslash. -/
  | escape
  /-- Inside a `\u` escape: digits still to come, the value so far, and the leading surrogate that the
  escape has to complete. -/
  | hex (left : Nat) (value : Nat) (leading : Option Nat)
  /-- Behind a leading surrogate, before the backslash of the second escape. -/
  | pairSlash (leading : Nat)
  /-- Behind that backslash, before its `u`. -/
  | pairMark (leading : Nat)

/-- Four more bytes have to follow the mark of a `\u` escape. -/
def roomForHex (input : Input) : Bool :=
  4 ≤ (input.take 4).foldl (fun n g => n + Glyph.size g) 0

/-- What a finished `\u` escape adds: a character, or a wait for the second half of a pair. -/
def finishHex (value : Nat) : Option Nat → Except Error (List Glyph × StringState)
  | none =>
    if 0xDC00 ≤ value && value ≤ 0xDFFF then .error .malformed
    else if 0xD800 ≤ value && value ≤ 0xDBFF then .ok ([], .pairSlash value)
    else .ok ([some (Char.ofNat value)], .plain)
  | some leading =>
    if 0xDC00 ≤ value && value ≤ 0xDFFF then
      .ok ([some (Char.ofNat (0x10000 + (leading - 0xD800) * 0x400 + (value - 0xDC00)))], .plain)
    else .error .malformed

/-- The text of a string whose glyphs are all characters. -/
def textOf (reversed : List Glyph) : Except Error String :=
  match reversed.reverse.mapM id with
  | some cs => .ok (String.ofList cs)
  | none => .error .malformed

/-- The rest of a string; `done` holds its glyphs so far, in reverse. -/
def stringBody : StringState → List Glyph → Input → Except Error (String × Input)
  | _, _, [] => .error .truncated
  | .plain, done, g :: rest =>
    if g == some '"' then
      match textOf done with
      | .ok text => .ok (text, rest)
      | .error e => .error e
    else if g == some '\\' then stringBody .escape done rest
    else if g.any (fun c => decide (c < ' ')) then .error .malformed
    else stringBody .plain (g :: done) rest
  | .escape, done, g :: rest =>
    if g == some 'u' then
      if roomForHex rest then stringBody (.hex 4 0 none) done rest else .error .truncated
    else
      match g.bind shortEscape? with
      | some c => stringBody .plain (some c :: done) rest
      | none => .error .malformed
  | .hex left value leading, done, g :: rest =>
    match g.bind hexDigit? with
    | none => .error .malformed
    | some digit =>
      let value := value * 16 + digit
      if left ≤ 1 then
        match finishHex value leading with
        | .ok (added, state) => stringBody state (added ++ done) rest
        | .error e => .error e
      else stringBody (.hex (left - 1) value leading) done rest
  | .pairSlash leading, done, g :: rest =>
    if g == some '\\' then stringBody (.pairMark leading) done rest else .error .malformed
  | .pairMark leading, done, g :: rest =>
    if g == some 'u' then
      if roomForHex rest then stringBody (.hex 4 0 (some leading)) done rest else .error .truncated
    else .error .malformed

/-- The input behind a string that is not decoded; `state` as in `stringBody`, but only `plain`,
`escape` and `hex` occur. -/
def skipString : StringState → Input → Except Error Input
  | _, [] => .error .truncated
  | .escape, g :: rest =>
    if g == some 'u' then
      if roomForHex rest then skipString (.hex 4 0 none) rest else .error .truncated
    else if (g.bind shortEscape?).isSome then skipString .plain rest
    else .error .malformed
  | .hex left value leading, g :: rest =>
    if (g.bind hexDigit?).isNone then .error .malformed
    else if left ≤ 1 then skipString .plain rest
    else skipString (.hex (left - 1) value leading) rest
  | _, g :: rest =>
    if g == some '"' then .ok rest
    else if g == some '\\' then skipString .escape rest
    else if g.any (fun c => decide (c < ' ')) then .error .malformed
    else skipString .plain rest

end HiddenImports.Json
