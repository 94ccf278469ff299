import HiddenImports.ImportIndex
import HiddenImports.RuleTable.Census
import HiddenImports.RuleTable.Check
import HiddenImports.Silenced

/-!
# Rule books

A `RuleBook` is a rule table in the form that answers questions: the index of its families, the book of
its patches, its aliases and its silenced modules. `RuleTable.compile` makes one of a table that passes
the check.
-/

namespace HiddenImports

/-- What answers questions about modules. -/
structure RuleBook where
  index : ImportIndex := {}
  patches : PatchBook := {}
  aliases : AliasTable := {}
  silenced : Silenced := {}

namespace RuleBook

/-- The book without rules. -/
def empty : RuleBook := {}

/-- The book of a table. Only what would make the book ambiguous is refused: the table is not checked. -/
def ofTable (table : RuleTable) : Attempt Fault RuleBook := do
  let index ← (ImportIndex.build table.families : Logged ImportIndex)
  let patches ← Attempt.ofExcept (PatchBook.build table.patches)
  let aliases ← Attempt.ofExcept (AliasTable.ofList table.aliases)
  return ⟨index, patches, aliases, .ofList table.suppressed⟩

/-- What a module needs on a runtime. -/
def imports (book : RuleBook) (name : String) (runtime : Version) : Logged Pending :=
  book.index.resolve name runtime

/-- What the patches make of the source of a module. -/
def patch (book : RuleBook) (name source : String) : Logged Edit :=
  book.patches.edit name source

/-- The present name of the module once found at a path. -/
def target? (book : RuleBook) (path : String) : Option String :=
  book.aliases.target? path

/-- The unresolved import of the module is no problem. -/
def isSilenced (book : RuleBook) (name : String) : Bool :=
  book.silenced.contains name

end RuleBook

/-- Checks a table and makes its book. -/
def RuleTable.compile (table : RuleTable) : Attempt Fault RuleBook := do
  Attempt.ofExcept table.check
  let book ← RuleBook.ofTable table
  (log .debug table.census.summary : Logged Unit)
  return book

end HiddenImports
