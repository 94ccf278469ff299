import HiddenImports.Decimal.Shortest
import HiddenImports.Text.Quoted

/-!
# Why a document cannot be read

Reading goes strictly from left to right and stops at the first problem: text that is no document
(`malformed`), text that ends inside one (`truncated`), or a well-formed part of the wrong shape
(`mismatch`). A mismatch is kept as its cause; `Mismatch.message` words it.
-/

namespace HiddenImports.Json

/-- A number as the document gives it: whole numbers of 64 bits are kept, all others are doubles. -/
inductive Number where
  | integer (value : Int)
  | floating (value : Decimal.Binary64)
  deriving DecidableEq, Repr

/-- What was found where something else was expected. -/
inductive Found where
  | null
  | boolean (value : Bool)
  | number (value : Number)
  | string (value : String)
  | sequence
  | map
  deriving DecidableEq, Repr

/-- How a well-formed part of a document can have the wrong shape. -/
inductive Mismatch where
  /-- A value of another kind than expected. -/
  | invalidType (found : Found) (expected : String)
  /-- An array with too few or too many elements. -/
  | invalidLength (length : Nat) (expected : String)
  /-- A field without default does not occur. -/
  | missingField (name : String)
  /-- A field occurs twice. -/
  | duplicateField (name : String)
  /-- A name that is none of the choices. -/
  | unknownVariant (name : String) (choices : List String)
  /-- The value itself is refused. -/
  | refused (reason : String)
  deriving DecidableEq, Repr

inductive Error where
  | malformed
  | truncated
  | mismatch (cause : Mismatch)
  deriving DecidableEq, Repr

/-- The found value in words. -/
def Found.message : Found → String
  | .null => "null"
  | .boolean true => "boolean `true`"
  | .boolean false => "boolean `false`"
  | .number (.integer n) => "integer `" ++ toString n ++ "`"
  | .number (.floating x) => "floating point `" ++ x.render ++ "`"
  | .string s => s!"string {Text.quote s}"
  | .sequence => "sequence"
  | .map => "map"

/-- A choice of names in words. -/
def oneOf : List String → String
  | [] => "there are no variants"
  | [a] => "expected `" ++ a ++ "`"
  | [a, b] => "expected `" ++ a ++ "` or `" ++ b ++ "`"
  | names => "expected one of " ++ ", ".intercalate (names.map fun name => "`" ++ name ++ "`")

/-- The mismatch in words. -/
def Mismatch.message : Mismatch → String
  | .invalidType found expected => s!"invalid type: {found.message}, expected {expected}"
  | .invalidLength length expected => s!"invalid length {length}, expected {expected}"
  | .missingField name => "missing field `" ++ name ++ "`"
  | .duplicateField name => "duplicate field `" ++ name ++ "`"
  | .unknownVariant name choices => "unknown variant `" ++ name ++ "`, " ++ oneOf choices
  | .refused reason => reason

/-- The error in words. -/
def Error.message : Error → String
  | .malformed => "malformed document"
  | .truncated => "the document ends inside a value"
  | .mismatch cause => cause.message

end HiddenImports.Json
