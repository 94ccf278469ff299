import HiddenImports.RuleTable.Overlay

/-!
# Silenced modules

The modules whose unresolved import is no problem, each listed once.
-/

namespace HiddenImports

theorem ModuleName.nodup_addNew {names : List ModuleName} (h : names.Nodup) (name : ModuleName) :
    (addNew names name).Nodup := by
  unfold addNew
  split
  · exact h
  · rename_i hn
    rw [List.nodup_append]
    exact ⟨h, by simp, by rintro m hm _ hs rfl; simp_all⟩

theorem ModuleName.nodup_foldl_addNew (more : List ModuleName) {names : List ModuleName}
    (h : names.Nodup) : (more.foldl addNew names).Nodup := by
  induction more generalizing names with
  | nil => exact h
  | cons name rest ih => exact ih (nodup_addNew h name)

/-- A set of modules. -/
structure Silenced where
  modules : List ModuleName := []
  distinct : modules.Nodup := by exact List.nodup_nil

namespace Silenced

/-- The set of the modules in a list. -/
def ofList (modules : List ModuleName) : Silenced :=
  ⟨modules.foldl ModuleName.addNew [], ModuleName.nodup_foldl_addNew modules List.nodup_nil⟩

/-- How many modules there are. -/
def size (set : Silenced) : Nat := set.modules.length

def isEmpty (set : Silenced) : Bool := set.modules.isEmpty

/-- The module with exactly this name is in the set. -/
def contains (set : Silenced) (name : String) : Bool :=
  set.modules.any (·.text == name)

end Silenced

end HiddenImports
