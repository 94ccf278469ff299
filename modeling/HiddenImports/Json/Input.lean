import HiddenImports.Json.Error

/-!
# Document text

A document is read from a text or from bytes. `Glyph` is one unit of it: a character, or `none` for a
byte that belongs to no encoded character, which only a skipped string may hold. A `Reader` takes a
value off the front of the input.
-/

namespace HiddenImports.Json

/-- A character, or a byte that belongs to none. -/
abbrev Glyph := Option Char

abbrev Input := List Glyph

/-- Takes a value off the front of the input and leaves the rest. -/
abbrev Reader (α : Type) := Input → Except Error (α × Input)

/-- A text as input. -/
def ofText (text : String) : Input :=
  text.toList.map some

/-- The value of a continuation byte. -/
def continuation? (b : UInt8) : Option Nat :=
  if 0x80 ≤ b && b < 0xC0 then some (b.toNat - 0x80) else none

/-- The character at the front of some bytes and the number of bytes it takes, if one is encoded
there in the shortest way. -/
def firstChar? : List UInt8 → Option (Char × Nat)
  | [] => none
  | a :: rest =>
    let code := fun (n size : Nat) (least : Nat) =>
      if least ≤ n ∧ n.isValidChar then some (Char.ofNat n, size) else none
    if a < 0x80 then some (Char.ofNat a.toNat, 1)
    else if a < 0xC0 then none
    else if a < 0xE0 then
      match rest with
      | b :: _ => do code ((a.toNat - 0xC0) * 64 + (← continuation? b)) 2 0x80
      | _ => none
    else if a < 0xF0 then
      match rest with
      | b :: c :: _ => do
        code (((a.toNat - 0xE0) * 64 + (← continuation? b)) * 64 + (← continuation? c)) 3 0x800
      | _ => none
    else if a < 0xF8 then
      match rest with
      | b :: c :: d :: _ => do
        code ((((a.toNat - 0xF0) * 64 + (← continuation? b)) * 64 + (← continuation? c)) * 64
          + (← continuation? d)) 4 0x10000
      | _ => none
    else none

/-- Bytes as glyphs, `skip` of which belong to a character already taken. -/
def glyphs : Nat → List UInt8 → Input
  | _, [] => []
  | skip + 1, _ :: rest => glyphs skip rest
  | 0, a :: rest =>
    match firstChar? (a :: rest) with
    | some (c, size) => some c :: glyphs (size - 1) rest
    | none => none :: glyphs 0 rest

/-- Bytes as input. -/
def ofBytes (bytes : ByteArray) : Input :=
  match String.fromUTF8? bytes with
  | some text => ofText text
  | none => glyphs 0 bytes.toList

/-- The number of bytes that a glyph takes in the document. -/
def Glyph.size : Glyph → Nat
  | some c => c.utf8Size
  | none => 1

/-- The blanks between the parts of a document. -/
def isGap (g : Glyph) : Bool :=
  g == some ' ' || g == some '\n' || g == some '\t' || g == some '\r'

/-- The input after its leading blanks. -/
def skipGap (input : Input) : Input :=
  input.dropWhile isGap

end HiddenImports.Json
