import HiddenImports.AliasTable
import HiddenImports.ImportIndex
import HiddenImports.Patch.Replacer

/-!
# Hooks

What a host asks of a plugin, at four points of its work. Each hook has an answer for everything, and the
answer of a plugin that knows nothing is that there is nothing to do.
-/

namespace HiddenImports

/-- A line of a file, where a diagnostic belongs. -/
structure SourceRef where
  file : String
  line : UInt32
  deriving DecidableEq, Repr

instance : ToString SourceRef := ⟨fun ref => s!"{ref.file}:{ref.line}"⟩

/-- A plugin as its host sees it. -/
structure Hooks where
  name : String
  /-- The modules needed along with the named one. -/
  imports : String → Logged Pending := fun _ => pure .empty
  /-- What becomes of the source of the named module. -/
  patch : (name source : String) → Logged Edit := fun _ _ => pure .unchanged
  /-- The import of the named module, not resolved at that place, is no problem. -/
  silences : String → SourceRef → Logged Bool := fun _ _ => pure false
  aliases : AliasTable := {}

/-- The present name of the module once found at a path. -/
def Hooks.target? (hooks : Hooks) (path : String) : Option String :=
  hooks.aliases.target? path

end HiddenImports
