import HiddenImports.Builtin
import HiddenImports.Config
import HiddenImports.Failure
import HiddenImports.RuleTable.Document
import HiddenImports.RuleTable.Overlay

/-!
# Loading the rules of a configuration

The table of a configuration is its base with its layers put over it one after another. Each layer has to
pass the check by itself before it is put over what lies below; the base is checked as part of the whole,
when the book is made. The first file with a problem ends the work.
-/

namespace HiddenImports

/-- The table in a file. -/
def Disk.readTable (disk : Disk) (path : String) : Except Failure RuleTable :=
  match disk.read path with
  | .error cause => .error (.unreadable path cause)
  | .ok bytes => (RuleTable.ofBytes bytes).mapError (.undecodable path)

/-- The table in a file, which has to pass the check. -/
def Disk.readLayer (disk : Disk) (path : String) : Except Failure RuleTable :=
  match disk.readTable path with
  | .error failure => .error failure
  | .ok table =>
    match table.check with
    | .error fault => .error (.badLayer path fault)
    | .ok () => .ok table

namespace Config

/-- The table below all layers. -/
def base (disk : Disk) (config : Config) : Except Failure RuleTable :=
  match config.origin with
  | .builtin => .ok Builtin.table
  | .file path => disk.readTable path

/-- Puts the table of a file over another table. -/
def addLayer (disk : Disk) (below : RuleTable) (path : String) : Attempt Failure RuleTable := do
  let layer ← Attempt.ofExcept (disk.readLayer path)
  (log .debug s!"Merging user rule file: {path}" : Logged Unit)
  (below.overlay layer : Logged RuleTable)

/-- The table of a configuration. -/
def load (disk : Disk) (config : Config) : Attempt Failure RuleTable := do
  let base ← Attempt.ofExcept (config.base disk)
  config.layers.foldlM (addLayer disk) base

/-- The book of a configuration. -/
def loadBook (disk : Disk) (config : Config) : Attempt Failure RuleBook := do
  let table ← config.load disk
  let book ← table.compile.mapError .badRules
  (log .info (s!"Rule table compiled: origin={config.origin.describe}, "
    ++ s!"extra_files={config.layers.length}") : Logged Unit)
  return book

end Config

end HiddenImports
