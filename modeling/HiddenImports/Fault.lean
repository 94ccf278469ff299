import HiddenImports.Json.Error
import HiddenImports.ModuleName
import HiddenImports.Regex.Error
import HiddenImports.Version

/-!
# What can be wrong with rules

A `Fault` is a defect of a rule table or of a part of it, as its cause; `Fault.message` words it.
-/

namespace HiddenImports

/-- Why a source patch is refused. -/
inductive PatchFault where
  /-- The text to find is empty. -/
  | emptySearch
  /-- The replacement could bring the text to find back. -/
  | recreatesSearch
  /-- The patch and another one of the same module, described here, could trigger each other. -/
  | chains (other : String)
  deriving DecidableEq, Repr

def PatchFault.message : PatchFault → String
  | .emptySearch => "empty search text"
  | .recreatesSearch => "replacement can recreate the search text"
  | .chains other => s!"chains with another patch ({other})"

/-- A defect of a rule table. -/
inductive Fault where
  /-- The document is no rule table. -/
  | badDocument (cause : Json.Error)
  | invalidModuleName (text : String)
  | invalidVersion (text : String)
  /-- Two aliases of one table have the same source. -/
  | duplicateAlias (path : String)
  | invalidPatch (module : String) (reason : PatchFault)
  /-- The family with this index has no name to match. -/
  | emptyPattern (index : Nat)
  | badRegex (cause : Regex.Error)
  deriving DecidableEq, Repr

def Fault.message : Fault → String
  | .badDocument cause => s!"Rule table parse failed: {cause.message}"
  | .invalidModuleName text => s!"Invalid module name: {Text.quote text}"
  | .invalidVersion text => s!"Invalid python version: {Text.quote text}"
  | .duplicateAlias path => s!"Duplicate module alias: {path}"
  | .invalidPatch module reason => s!"Invalid source patch for module {module}: {reason.message}"
  | .emptyPattern index => s!"Rule family #{index} has an empty match key"
  | .badRegex cause => s!"Regex compilation failed: {cause.message}"

/-- The module name with the given text. The fault holds the text as it was given. -/
def ModuleName.ofText (text : String) : Except Fault ModuleName :=
  match ofText? text with
  | some name => .ok name
  | none => .error (.invalidModuleName text)

/-- The version written by a text. The fault holds the text as it was given, blanks included. -/
def Version.ofText (text : String) : Except Fault Version :=
  match read? text with
  | some version => .ok version
  | none => .error (.invalidVersion text)

end HiddenImports
