import HiddenImports.Config.Load
import HiddenImports.Hooks

/-!
# The plugin

A `Plugin` answers a host's questions from a rule book, for the runtime of its configuration. Plugins
with nothing but the built-in rules share one book.
-/

namespace HiddenImports

/-- The rules behind a plugin. -/
inductive Plugin.Rules where
  /-- The book of the built-in rules, which all plugins share. -/
  | builtin
  /-- A book of the plugin's own. -/
  | own (book : RuleBook)

def Plugin.Rules.book : Plugin.Rules → RuleBook
  | .builtin => Builtin.book
  | .own book => book

structure Plugin where
  rules : Plugin.Rules
  config : Config

namespace Plugin

/-- The name under which the plugin is known. -/
def name : String := "implicit-imports"

/-- The book that answers. -/
def book (plugin : Plugin) : RuleBook := plugin.rules.book

/-- The runtime that the answers are for. -/
def runtime (plugin : Plugin) : Version := plugin.config.runtime

/-! ## Making plugins -/

/-- A plugin with given rules. -/
def ofRules (rules : Rules) (config : Config) : Logged Plugin := do
  let book := rules.book
  log .info (s!"ImplicitImportsPlugin ready: python={config.runtime}, "
    ++ s!"families={book.index.families.length}, patches={book.patches.size}, "
    ++ s!"aliases={book.aliases.size}, suppressions={book.silenced.size}")
  return ⟨rules, config⟩

/-- A plugin with the built-in rules, whatever the configuration says about rules. -/
def builtin (config : Config) : Logged Plugin :=
  ofRules .builtin config

/-- A plugin with the rules of a table, whatever the configuration says about rules. -/
def ofTable (table : RuleTable) (config : Config) : Attempt Failure Plugin := do
  let book ← table.compile.mapError .badRules
  (ofRules (.own book) config : Logged Plugin)

/-- The plugin of a configuration. -/
def ofConfig (disk : Disk) (config : Config) : Attempt Failure Plugin := do
  if config.usesBuiltinOnly then
    (builtin config : Logged Plugin)
  else
    let book ← config.loadBook disk
    (ofRules (.own book) config : Logged Plugin)

/-! ## Answers -/

/-- What a module needs. -/
def imports (plugin : Plugin) (name : String) : Logged Pending := do
  let pending ← plugin.book.imports name plugin.runtime
  log .trace s!"Implicit imports of {name}: {Text.previewList pending.names}"
  return pending

/-- What becomes of the source of a module. -/
def patch (plugin : Plugin) (name source : String) : Logged Edit := do
  match ← plugin.book.patch name source with
  | .unchanged => return .unchanged
  | .changed text =>
    log .debug s!"Patched source of module {name}"
    return .changed text

/-- The unresolved import of a module at some place is no problem. -/
def silences (plugin : Plugin) (name : String) (place : SourceRef) : Logged Bool := do
  if plugin.book.isSilenced name then
    log .debug s!"Suppressed unresolved import warning | Module: {name} | At: {place}"
    return true
  else return false

/-- The plugin as its host sees it. -/
def hooks (plugin : Plugin) : Hooks where
  name := name
  imports := plugin.imports
  patch := plugin.patch
  silences := plugin.silences
  aliases := plugin.book.aliases

end Plugin

end HiddenImports
