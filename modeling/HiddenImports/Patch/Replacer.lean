import HiddenImports.Fault
import HiddenImports.Regex
import HiddenImports.RuleTable
import HiddenImports.Text.Substring

/-!
# Replacers

A patch that is fit for use is a `Replacer`. A patch is refused when its replacement, put between any
texts, could bring about what the patch looks for: for literal texts `mayRecreate` decides that exactly,
for patterns only the template itself is tried.

A pattern enters only through what it does to texts, a `Matcher`; nothing here depends on how it is
matched.
-/

namespace HiddenImports

/-- What an editing step makes of a text: nothing, if there was nothing to replace, or a new text. -/
inductive Edit where
  | unchanged
  | changed (text : String)
  deriving DecidableEq, Repr

/-- The text after an edit of `source`. -/
def Edit.apply (source : String) : Edit → String
  | unchanged => source
  | changed text => text

/-- A pattern as a way to search and replace. -/
structure Matcher where
  pattern : String
  /-- The text holds a match. -/
  isMatch : String → Bool
  /-- The text with all matches replaced by a template, or nothing if there is no match. -/
  replaceAll? : (template text : String) → Option String

/-- How patterns are compiled. -/
abbrev Engine := String → Except Regex.Error Matcher

/-- A compiled pattern as a matcher. -/
def Regex.matcher (r : Regex) : Matcher :=
  ⟨r.pattern, r.isMatch, r.replaceAll?⟩

/-- The engine for regular expressions. -/
def Regex.engine : Engine := fun pattern => (Regex.compilePattern pattern).map Regex.matcher

/-- A patch ready for use. -/
inductive Replacer where
  | literal (find replace : String)
  | regex (matcher : Matcher) (replace : String)

/-- The text `find` can come about when `inserted` is put between two texts: it lies inside `inserted`,
it encloses `inserted`, or it ends or begins with a part of it. -/
def mayRecreate (find inserted : List Char) : Bool :=
  Text.contains find inserted
    || (inserted.length < find.length && Text.contains inserted find)
    || (List.range' 1 (find.length - 1)).any fun k =>
      (find.drop k).isPrefixOf inserted || (find.take k).isSuffixOf inserted

namespace Replacer

/-- What stands in place of what was found. -/
def replacement : Replacer → String
  | literal _ replace => replace
  | regex _ replace => replace

/-- After `inserted` was put into a text, the replacer may find something again. -/
def mayRematch (r : Replacer) (inserted : String) : Bool :=
  match r with
  | literal find _ => mayRecreate find.toList inserted.toList
  | regex matcher _ => matcher.isMatch inserted

/-- The replacer's kind and what it looks for. -/
def describe : Replacer → String
  | literal find _ => s!"literal: {find}"
  | regex matcher _ => s!"regex: {matcher.pattern}"

/-- Edits a text once. -/
def edit (r : Replacer) (text : String) : Edit :=
  match r with
  | literal find replace =>
    if Text.contains find.toList text.toList then
      .changed (String.ofList (Text.replaceAll find.toList replace.toList text.toList))
    else .unchanged
  | regex matcher replace =>
    match matcher.replaceAll? replace text with
    | some text => .changed text
    | none => .unchanged

/-- Edits what an earlier step made of a source. -/
def editAfter (source : String) (earlier : Edit) (r : Replacer) : Edit :=
  match r.edit (earlier.apply source) with
  | .unchanged => earlier
  | .changed text => .changed text

/-- Runs replacers one after the other. -/
def editAll (rs : List Replacer) (source : String) : Edit :=
  rs.foldl (editAfter source) .unchanged

end Replacer

namespace Patch

/-- A defect of this patch. -/
def fault (patch : Patch) (reason : PatchFault) : Fault :=
  .invalidPatch patch.module.text reason

/-- The replacer of a patch, before its replacement is looked at. -/
def replacer (engine : Engine) (patch : Patch) : Except Fault Replacer :=
  match patch.mode with
  | .literal => .ok (.literal patch.find patch.replace)
  | .regex =>
    match engine patch.find with
    | .ok matcher => .ok (.regex matcher patch.replace)
    | .error cause => .error (.badRegex cause)

/-- Makes a patch ready for use, with a given engine for patterns. -/
def compileWith (engine : Engine) (patch : Patch) : Except Fault Replacer :=
  if patch.find = "" then .error (patch.fault .emptySearch)
  else
    match patch.replacer engine with
    | .error fault => .error fault
    | .ok r =>
      if r.mayRematch patch.replace then .error (patch.fault .recreatesSearch) else .ok r

/-- Makes a patch ready for use. -/
def compile (patch : Patch) : Except Fault Replacer :=
  patch.compileWith Regex.engine

end Patch

end HiddenImports
