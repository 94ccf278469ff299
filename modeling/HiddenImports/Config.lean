import HiddenImports.Text.Quoted
import HiddenImports.Version

/-!
# Configurations

A `Config` says which table is the base, for which runtime the answers are, and which files of further
rules are put over the base, in order. It is made from the default one by a list of changes.
-/

namespace HiddenImports

/-- Where the base table comes from. -/
inductive Origin where
  | builtin
  | file (path : String)
  deriving DecidableEq, Repr

/-- The origin as it stands in a record. -/
def Origin.describe : Origin → String
  | .builtin => "Embedded"
  | .file path => s!"LocalFile({Text.quote path})"

structure Config where
  origin : Origin := .builtin
  runtime : Version := Version.default
  /-- The files of the tables over the base, from the lowest to the highest. -/
  layers : List String := []
  deriving DecidableEq, Repr

namespace Config

/-- The configuration with a file as its base. -/
def ofFile (path : String) : Config := { origin := .file path }

/-- The built-in table is all that is asked for. -/
def usesBuiltinOnly (config : Config) : Bool :=
  config.origin == .builtin && config.layers.isEmpty

/-- One change to a configuration. -/
inductive Change where
  | origin (origin : Origin)
  | runtime (runtime : Version)
  | layer (path : String)
  | layers (paths : List String)
  deriving DecidableEq, Repr

/-- Changes a configuration. Layers are added above those it has; all else is replaced. -/
def apply (config : Config) : Change → Config
  | .origin origin => { config with origin := origin }
  | .runtime runtime => { config with runtime := runtime }
  | .layer path => { config with layers := config.layers ++ [path] }
  | .layers paths => { config with layers := config.layers ++ paths }

/-- The default configuration after some changes. -/
def ofChanges (changes : List Change) : Config := changes.foldl apply {}

end Config

end HiddenImports
