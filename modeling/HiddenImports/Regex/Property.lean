import HiddenImports.Unicode.Age
import HiddenImports.Unicode.Break
import HiddenImports.Unicode.Category
import HiddenImports.Unicode.Folding
import HiddenImports.Unicode.Property
import HiddenImports.Unicode.Script

/-!
# Character classes with names

The sets behind `\d`, `\s` and `\w`, the bracketed ASCII classes, and the classes of `\p`, which are
looked up by name. Names of properties are compared loosely: case, blanks, underscores, hyphens and a
leading `is` do not count.
-/

namespace HiddenImports.Regex

open Unicode (CodeSet)

/-! ## Classes of one letter -/

/-- Decimal digits, the class of `\d`. -/
def digits : CodeSet := Unicode.ofCategories ["Nd"]

/-- White space, the class of `\s`. -/
def blanks : CodeSet := Unicode.whiteSpace

/-- Characters of words, the class of `\w`: letters, marks, digits, connectors and joiners. -/
def wordChars : CodeSet :=
  (Unicode.alphabetic.union (Unicode.ofCategories ["Mn", "Mc", "Me", "Nd", "Pc"])).union
    Unicode.joinControl

/-- The union of some ranges of characters. -/
def ofRanges (ranges : List (Char × Char)) : CodeSet :=
  ranges.foldl (fun s (lo, hi) => s.union (CodeSet.range lo.toNat hi.toNat)) CodeSet.empty

def asciiDigits : CodeSet := ofRanges [('0', '9')]

def asciiBlanks : CodeSet := ofRanges [('\t', '\r'), (' ', ' ')]

def asciiWordChars : CodeSet := ofRanges [('0', '9'), ('A', 'Z'), ('_', '_'), ('a', 'z')]

/-- The classes that are named between `[:` and `:]`. -/
def asciiClass? (name : String) : Option CodeSet :=
  match name with
  | "alnum" => some (ofRanges [('0', '9'), ('A', 'Z'), ('a', 'z')])
  | "alpha" => some (ofRanges [('A', 'Z'), ('a', 'z')])
  | "ascii" => some (ofRanges [('\x00', '\x7f')])
  | "blank" => some (ofRanges [('\t', '\t'), (' ', ' ')])
  | "cntrl" => some (ofRanges [('\x00', '\x1f'), ('\x7f', '\x7f')])
  | "digit" => some asciiDigits
  | "graph" => some (ofRanges [('!', '~')])
  | "lower" => some (ofRanges [('a', 'z')])
  | "print" => some (ofRanges [(' ', '~')])
  | "punct" => some (ofRanges [('!', '/'), (':', '@'), ('[', '\x60'), ('\x7b', '~')])
  | "space" => some asciiBlanks
  | "upper" => some (ofRanges [('A', 'Z')])
  | "word" => some asciiWordChars
  | "xdigit" => some (ofRanges [('0', '9'), ('A', 'F'), ('a', 'f')])
  | _ => none

/-! ## Names of properties -/

/-- A name of a property as it is compared. -/
def looseName (name : List Char) : String :=
  let (body, cut) := match name with
    | a :: b :: rest => if a.toLower == 'i' && b.toLower == 's' then (rest, true) else (name, false)
    | _ => (name, false)
  let kept := (body.filter fun c => c.toNat ≤ 0x7F && c != ' ' && c != '_' && c != '-').map Char.toLower
  -- `isc` is a name of its own
  if cut && kept == ['c'] then "isc" else String.ofList kept

/-- One of the names is the loosely written one. -/
def hasLooseName (loose : String) (names : List String) : Bool :=
  names.any fun name => looseName name.toList == loose

/-- The class of a general category or a group of them. -/
def category? (loose : String) : Option CodeSet :=
  match loose with
  | "any" => some CodeSet.full
  | "ascii" => some (ofRanges [('\x00', '\x7f')])
  | "assigned" => some (Unicode.ofCategories ["Cn"]).compl
  | _ => (Unicode.categoryNames.find? (hasLooseName loose ·.1)).map fun (_, codes) =>
    Unicode.ofCategories codes

/-- The code that stands first among the names of which one is the loosely written one. -/
def codeOf? (loose : String) (names : List (List String)) : Option String :=
  (names.find? (hasLooseName loose)).bind List.head?

/-- The code of a script. -/
def scriptCode? (loose : String) : Option String :=
  codeOf? loose Unicode.scriptNames

/-- The code points that an edition of the standard and those before it assign. -/
def age? (loose : String) : Option CodeSet :=
  (Unicode.editions.findIdx? (hasLooseName loose ·.2)).map fun i =>
    Unicode.ofEditions ((Unicode.editions.take (i + 1)).map Prod.fst)

/-- A class of a classification for the breaks of texts. -/
def break? (breaks : Unicode.Breaks) (loose : String) : Option CodeSet :=
  (codeOf? loose breaks.names).map breaks.select

/-- The class of a binary property. -/
def binary? (loose : String) : Option CodeSet :=
  (Unicode.propertyTable.find? (hasLooseName loose ·.1)).map fun (_, gaps) => CodeSet.ofGaps gaps

/-- The class of a single name: a binary property, a general category or a script. Three names are
categories in the first place. -/
def named? (name : List Char) : Option CodeSet :=
  let loose := looseName name
  let binary := if ["cf", "sc", "lc"].contains loose then none else binary? loose
  binary <|> category? loose <|> (scriptCode? loose).map Unicode.ofScript

/-- The class of a property that has the given value. -/
def valued? (property value : List Char) : Option CodeSet :=
  let loose := looseName value
  match looseName property with
  | "gc" | "generalcategory" => category? loose
  | "sc" | "script" => (scriptCode? loose).map Unicode.ofScript
  | "scx" | "scriptextensions" => (scriptCode? loose).map Unicode.ofScriptExtension
  | "age" => age? loose
  | "gcb" | "graphemeclusterbreak" => break? Unicode.graphemeBreaks loose
  | "wb" | "wordbreak" => break? Unicode.wordBreaks loose
  | "sb" | "sentencebreak" => break? Unicode.sentenceBreaks loose
  | _ => none

/-- A text cut in two at the first occurrence of a mark. -/
def cutAt? (mark : List Char) : List Char → Option (List Char × List Char)
  | [] => none
  | c :: rest =>
    if mark.isPrefixOf (c :: rest) then some ([], (c :: rest).drop mark.length)
    else (cutAt? mark rest).map fun (before, after) => (c :: before, after)

/-- The class of what stands between the braces of `\p`, before any folding, and whether its
complement is meant. -/
def property? (text : List Char) : Option (Bool × CodeSet) :=
  match cutAt? ['!', '='] text with
  | some (name, value) => (valued? name value).map fun s => (true, s)
  | none =>
    let plain := match cutAt? [':'] text with
      | some (name, value) => valued? name value
      | none =>
        match cutAt? ['='] text with
        | some (name, value) => valued? name value
        | none => named? text
    plain.map fun s => (false, s)

end HiddenImports.Regex
