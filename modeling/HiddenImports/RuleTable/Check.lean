import HiddenImports.AliasTable
import HiddenImports.Patch.Book

/-!
# The check of a table

A table is fit for use if every family has a name to match, the names in family patterns and siblings
are single components, its patches fit together and its aliases have different sources. `check` reports
the first defect, family by family, then among the patches, then among the aliases.
-/

namespace HiddenImports

/-- A text that must be a single component. -/
def checkComponent (text : String) : Except Fault Unit :=
  if IsComponent text then .ok () else .error (.invalidModuleName text)

namespace Pattern

/-- The texts in a pattern that must be single components. -/
def parts : Pattern → List String
  | topLevel names => names
  | fullName _ => []

end Pattern

namespace Companion

/-- The texts in a companion that must be single components. -/
def parts : Companion → List String
  | module _ _ => []
  | sibling child beside => [child, beside]

end Companion

namespace Family

/-- The texts in a family that must be single components, in order. -/
def parts (family : Family) : List String :=
  family.pattern.parts ++ family.companions.flatMap Companion.parts

/-- Checks the family with a given index. -/
def check (index : Nat) (family : Family) : Except Fault Unit :=
  if family.pattern.keyCount = 0 then .error (.emptyPattern index)
  else family.parts.forM checkComponent

end Family

/-- Checks families from a given index on. -/
def Family.checkAll (index : Nat) : List Family → Except Fault Unit
  | [] => .ok ()
  | family :: rest =>
    match family.check index with
    | .error fault => .error fault
    | .ok () => checkAll (index + 1) rest

/-- The first defect of a table, if it has one. -/
def RuleTable.check (table : RuleTable) : Except Fault Unit := do
  Family.checkAll 0 table.families
  let _ ← PatchBook.build table.patches
  let _ ← AliasTable.ofList table.aliases

end HiddenImports
