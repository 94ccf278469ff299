import HiddenImports.Unicode.Category
import HiddenImports.Unicode.Property
import HiddenImports.Unicode.Recent

/-!
# Quoted text in messages

A message shows a text between double quotes, in one line and without invisible characters: quotes,
backslashes and the usual control characters have short escapes, and any other character that is not
printable, that is shown as nothing, or that would attach itself to the character before it, is written
by its number.
-/

namespace HiddenImports.Text

/-- The characters that cannot be shown: control and format characters, separators but the space, and
code points without a character of their own. -/
def unprintable : Unicode.CodeSet :=
  ((Unicode.ofCategories ["Cc", "Cf", "Cs", "Co", "Cn", "Zl", "Zp", "Zs"]).diff
    (Unicode.CodeSet.range 0x20 0x20)).diff Unicode.recent

/-- The characters that attach themselves to the one before. The two halfwidth marks of sound stand in
a cell of their own and do not count. -/
def attaching : Unicode.CodeSet :=
  (Unicode.graphemeExtend.union Unicode.recentExtend).diff (Unicode.CodeSet.range 0xFF9E 0xFF9F)

/-- The characters written by their number: those that cannot be shown, those shown as nothing, and
those that attach themselves to the character before. -/
def numbered : Unicode.CodeSet :=
  (unprintable.union Unicode.defaultIgnorable).union attaching

/-- One character between the quotes. -/
def quoteChar (c : Char) : List Char :=
  if c == '"' then ['\\', '"']
  else if c == '\\' then ['\\', '\\']
  else if c == '\n' then ['\\', 'n']
  else if c == '\r' then ['\\', 'r']
  else if c == '\t' then ['\\', 't']
  else if c == '\x00' then ['\\', '0']
  else if numbered.contains c.toNat then
    ['\\', 'u', '{'] ++ Nat.toDigits 16 c.toNat ++ ['}']
  else [c]

/-- A text between double quotes, on one line. -/
def quote (text : String) : String :=
  String.ofList ('"' :: text.toList.flatMap quoteChar ++ ['"'])

end HiddenImports.Text
