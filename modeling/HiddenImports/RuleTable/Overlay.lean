import HiddenImports.Log
import HiddenImports.RuleTable

/-!
# Layers of rules

`RuleTable.overlay` puts one table over another. Families and patches of the upper table come after
those of the lower one. An alias of the upper table takes the place of the one with its source, and a
record tells when that changes the target. A suppressed module is listed once more only if it is new.
-/

namespace HiddenImports

/-- Adds a name at the end of a list, unless it is there. -/
def ModuleName.addNew (names : List ModuleName) (name : ModuleName) : List ModuleName :=
  if name ∈ names then names else names ++ [name]

namespace Alias

/-- Puts an alias in the place of the first one with its source, or else at the end. -/
def put (a : Alias) : List Alias → List Alias
  | [] => [a]
  | b :: rest => if b.source = a.source then a :: rest else b :: put a rest

/-- The target of the first alias with a source. -/
def find? (source : ModuleName) (aliases : List Alias) : Option ModuleName :=
  (aliases.find? (·.source = source)).map Alias.target

/-- The record of an alias that gets another target. -/
def overridden (a : Alias) (target : ModuleName) : Record :=
  ⟨.warn, s!"Module alias overridden: {a.source} ({target} -> {a.target})"⟩

/-- Puts an alias into a list of aliases, with a record if it changes a target. -/
def override (aliases : List Alias) (a : Alias) : Logged (List Alias) :=
  ⟨a.put aliases,
    ((find? a.source aliases).filter (· ≠ a.target)).toList.map a.overridden⟩

end Alias

namespace RuleTable

/-- The table `base` under the table `top`. -/
def overlay (base top : RuleTable) : Logged RuleTable := do
  let aliases ← top.aliases.foldlM Alias.override base.aliases
  return {
    families := base.families ++ top.families
    patches := base.patches ++ top.patches
    aliases := aliases
    suppressed := top.suppressed.foldl ModuleName.addNew base.suppressed }

end RuleTable

end HiddenImports
