import HiddenImports.Text.Blank

/-!
# One-line previews

A preview folds each run of blanks to one space and shows at most a given number of characters,
with an ellipsis when something was left out. `Text.preview` does both in one pass; `collapse` is the
folding alone. A list of names shows its first ten entries.
-/

namespace HiddenImports.Text

/-- Every maximal run of blanks becomes one space. -/
def collapse : List Char → List Char
  | [] => []
  | c :: rest =>
    if isBlank c then
      match rest with
      | d :: _ => if isBlank d then collapse rest else ' ' :: collapse rest
      | [] => [' ']
    else c :: collapse rest

/-- The pass behind `preview`: `room` characters may still be shown, and `inBlank` says that the last
character read was a blank, whose space is already out. -/
def previewFrom (room : Nat) (inBlank : Bool) : List Char → List Char
  | [] => []
  | c :: rest =>
    match room with
    | 0 => ['…']
    | room + 1 =>
      if isBlank c then
        if inBlank then previewFrom (room + 1) true rest else ' ' :: previewFrom room true rest
      else c :: previewFrom room false rest

/-- A text on one line, cut after `limit` characters. -/
def preview (limit : Nat) (text : String) : String :=
  String.ofList (previewFrom limit false text.toList)

/-- How many names a preview of a list shows. -/
def listedNames : Nat := 10

/-- How many characters of each name it shows. -/
def listedLength : Nat := 40

/-- A list of names in brackets, with the total when some are left out. -/
def previewList (names : List String) : String :=
  if names.isEmpty then "[empty]"
  else
    let shown := ", ".intercalate ((names.take listedNames).map (preview listedLength))
    let more := if names.length > listedNames then s!"… (total: {names.length})" else ""
    s!"[{shown}{more}]"

end HiddenImports.Text
