import HiddenImports.Plugin

/-!
# The shared plugin

A `Session` holds the one plugin that all parts of a host share. The first attempt to make it that
succeeds decides which one it is; an attempt that fails leaves the session as it was, and once there is a
plugin further attempts do nothing.
-/

namespace HiddenImports

/-- The state shared by all parts of a host. -/
structure Session where
  plugin : Option Plugin := none
  /-- How many times a plugin was put in place. -/
  placed : Nat := 0
  /-- Something receives the log records. -/
  listening : Bool := false

namespace Session

/-- Puts a plugin in place. -/
def place (session : Session) (plugin : Plugin) : Session :=
  { session with plugin := some plugin, placed := session.placed + 1 }

/-- Makes the shared plugin, if there is none, by an attempt whose errors are put in other terms. -/
def initWith (make : Attempt Failure Plugin) (refusal : Failure → Failure) (skipped done : String)
    (session : Session) : Logged (Except Failure Unit × Session) := do
  match session.plugin with
  | some _ =>
    log .debug skipped
    return (.ok (), session)
  | none =>
    match ← ExceptT.run make with
    | .error cause => return (.error (refusal cause), session)
    | .ok plugin =>
      log .info done
      return (.ok (), session.place plugin)

/-- Makes the shared plugin from a configuration. -/
def init (disk : Disk) (config : Config) : Session → Logged (Except Failure Unit × Session) :=
  initWith (Plugin.ofConfig disk config) .notCreated
    "Global plugin already initialized, skip reinitialization"
    "Global ImplicitImportsPlugin initialized successfully"

/-- Makes the shared plugin from a table. -/
def initFromTable (table : RuleTable) (config : Config) :
    Session → Logged (Except Failure Unit × Session) :=
  initWith (Plugin.ofTable table config) .notCreatedFromTable
    "Global plugin already initialized, skip reinitialization with custom rules"
    "Global ImplicitImportsPlugin initialized with custom rule table"

/-- The shared plugin. -/
def get (session : Session) : Except Failure Plugin :=
  match session.plugin with
  | some plugin => .ok plugin
  | none => .error .notInitialized

/-- The shared plugin, made from the default configuration if there is none. -/
def getOrInit (disk : Disk) (session : Session) : Logged (Except Failure Plugin × Session) := do
  match session.plugin with
  | some plugin => return (.ok plugin, session)
  | none =>
    log .debug "Lazy initializing global plugin with default config"
    match ← session.init disk {} with
    | (.error failure, session) => return (.error failure, session)
    | (.ok (), session) => return (session.get, session)

/-- Lets something receive the log records, which only one thing can. -/
def listen (session : Session) : Except Failure Unit × Session :=
  if session.listening then (.error .logTaken, session)
  else (.ok (), { session with listening := true })

end Session

end HiddenImports
