import HiddenImports.RuleTable

/-!
# How much a table holds
-/

namespace HiddenImports

/-- The sizes of a table. -/
structure Census where
  families : Nat
  /-- The names in all patterns. -/
  keys : Nat
  companions : Nat
  /-- The companions that are needed on some runtimes only. -/
  conditional : Nat
  patches : Nat
  aliases : Nat
  suppressed : Nat
  deriving DecidableEq, Repr

/-- Counts what is in a table. -/
def RuleTable.census (table : RuleTable) : Census :=
  let companions := table.families.flatMap Family.companions
  { families := table.families.length
    keys := table.families.foldl (fun n family => n + family.pattern.keyCount) 0
    companions := companions.length
    conditional := companions.countP Companion.isConditional
    patches := table.patches.length
    aliases := table.aliases.length
    suppressed := table.suppressed.length }

/-- The sizes in one line. -/
def Census.summary (c : Census) : String :=
  s!"Rule table: families={c.families}, keys={c.keys}, productions={c.companions} "
    ++ s!"(conditional={c.conditional}), patches={c.patches}, aliases={c.aliases}, "
    ++ s!"suppressions={c.suppressed}"

end HiddenImports
