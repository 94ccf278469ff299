import HiddenImports.Fault
import HiddenImports.RuleTable

/-!
# Aliases

An `AliasTable` leads from an old path to the name that the module has now. No path is in it twice, so
the order of its entries does not matter to `target?`.
-/

namespace HiddenImports

/-- Aliases with different sources. -/
structure AliasTable where
  entries : List Alias := []
  distinct : (entries.map Alias.source).Nodup := by exact List.nodup_nil

namespace AliasTable

/-- How many aliases there are. -/
def size (table : AliasTable) : Nat := table.entries.length

def isEmpty (table : AliasTable) : Bool := table.entries.isEmpty

/-- Adds an alias, whose source must be new. -/
def add (table : AliasTable) (a : Alias) : Except Fault AliasTable :=
  if h : a.source ∈ table.entries.map Alias.source then .error (.duplicateAlias a.source.text)
  else .ok
    { entries := table.entries ++ [a]
      distinct := by
        rw [List.map_append, List.nodup_append]
        refine ⟨table.distinct, by simp, ?_⟩
        rintro source hs _ hm rfl
        simp only [List.map_cons, List.map_nil, List.mem_singleton] at hm
        exact h (hm ▸ hs) }

/-- The table of some aliases. -/
def ofList (aliases : List Alias) : Except Fault AliasTable :=
  aliases.foldlM add {}

/-- The present name of the module once found at exactly this path. -/
def target? (table : AliasTable) (path : String) : Option String :=
  (table.entries.find? (·.source.text == path)).map (·.target.text)

/-- All aliases as pairs of source and target. -/
def toList (table : AliasTable) : List (String × String) :=
  table.entries.map fun a => (a.source.text, a.target.text)

end AliasTable

end HiddenImports
