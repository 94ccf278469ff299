import HiddenImports.ModuleName
import HiddenImports.Version

/-!
# Rule tables

A rule table is what is known about modules whose imports cannot be seen: families of companions,
source patches, aliases of moved modules, and modules whose unresolved import is no problem. It is plain
data, in the order in which it was declared.
-/

namespace HiddenImports

/-- Which modules a family is about: those of certain packages, or exactly the named ones. -/
inductive Pattern where
  /-- The first component is one of the names. -/
  | topLevel (names : List String)
  /-- The whole name is one of the names. -/
  | fullName (names : List ModuleName)
  deriving DecidableEq

namespace Pattern

/-- How many names can match. -/
def keyCount : Pattern → Nat
  | topLevel names => names.length
  | fullName names => names.length

/-- The pattern matches the module of the given name. -/
def Matches (pattern : Pattern) (name : String) : Prop :=
  match pattern with
  | topLevel names => (topAndChild name).1 ∈ names
  | fullName names => name ∈ names.map ModuleName.text

instance (pattern : Pattern) (name : String) : Decidable (pattern.Matches name) := by
  unfold Matches
  cases pattern <;> infer_instance

end Pattern

/-- A module that is needed along with another one. -/
inductive Companion where
  /-- The module `name`, on runtimes in the range `on`. -/
  | module (name : ModuleName) (on : VersionRange)
  /-- The submodule `sibling` of the same package, beside its submodule `child`. -/
  | sibling (child sibling : String)
  deriving DecidableEq

namespace Companion

/-- The name of the module that is needed beside `top.child`, if one is. -/
def emit (companion : Companion) (top : String) (child : Option String) (runtime : Version) :
    Option String :=
  match companion with
  | module name on => if on.holds runtime then some name.text else none
  | sibling wanted beside => if child = some wanted then some (joinComponents top beside) else none

/-- The companion is needed on some runtimes only. -/
def isConditional : Companion → Bool
  | module _ on => !on.isAlways
  | sibling _ _ => false

end Companion

/-- What the modules that match a pattern need, in order. -/
structure Family where
  pattern : Pattern
  companions : List Companion := []
  deriving DecidableEq

/-- How the text to find is understood. -/
inductive Patch.Mode where
  | literal
  | regex
  deriving DecidableEq, Repr

/-- In the source of `module`, what `find` finds is to be replaced by `replace`. -/
structure Patch where
  module : ModuleName
  find : String
  replace : String
  mode : Patch.Mode := .literal
  deriving DecidableEq

/-- The module once found at `source` is now called `target`. -/
structure Alias where
  source : ModuleName
  target : ModuleName
  deriving DecidableEq

/-- All rules of one document. -/
structure RuleTable where
  families : List Family := []
  patches : List Patch := []
  aliases : List Alias := []
  suppressed : List ModuleName := []
  deriving DecidableEq

/-- The table without rules. -/
def RuleTable.empty : RuleTable := {}

/-- The table has no rules. -/
def RuleTable.isEmpty (table : RuleTable) : Bool :=
  table.families.isEmpty && table.patches.isEmpty && table.aliases.isEmpty && table.suppressed.isEmpty

end HiddenImports
