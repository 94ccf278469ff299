import HiddenImports.CommandLine.Arguments
import HiddenImports.CommandLine.Printed
import HiddenImports.Plugin

/-!
# The command line

A call answers one question and says by its exit code how that went: 0 for an answer, 1 if a path has no
alias, 2 if the arguments, the rules or a file cannot be used.
-/

namespace HiddenImports.CommandLine

/-- What a call leaves behind. -/
structure Reply where
  code : UInt8 := 0
  output : String := ""
  errors : String := ""
  deriving DecidableEq, Repr

/-- The name of the program and its version. -/
def versionLine : String := "implicit-deps 0.1.0"

/-- A text as one line. -/
def line (text : String) : String := text ++ "\n"

/-- How the program is called. -/
def usage : String :=
  line "Usage: implicit-deps [--base FILE] [--rules FILE]... [--python X.Y] COMMAND"
    ++ line "Commands: imports MODULE, patch MODULE FILE, alias PATH, suppress MODULE, check FILE"

/-- The sizes of a table, one to a line. -/
def sizes (census : Census) : String :=
  let entry := fun (name : String) (size : Nat) => line s!"    {name}: {size},"
  line "TableStats \x7b"
    ++ entry "families" census.families
    ++ entry "match_keys" census.keys
    ++ entry "productions" census.companions
    ++ entry "conditional_productions" census.conditional
    ++ entry "patches" census.patches
    ++ entry "aliases" census.aliases
    ++ entry "suppressions" census.suppressed
    ++ line "\x7d"

/-- Checks a file, and prints what is in it if it passes. -/
def checkFile (disk : Disk) (file : String) : Printed UInt8 := do
  let table ← .ofExcept (disk.readTable file)
  .ofExcept (table.check.mapError .badRules)
  print (line s!"{file}: ok")
  print (sizes table.census)
  return 0

/-- Where the command line asks about unresolved imports. -/
def place : SourceRef := ⟨"<cli>", 0⟩

/-- Asks a plugin and prints its answer. The code tells whether there is one. -/
def answer (disk : Disk) (plugin : Plugin) : Question → Printed UInt8
  | .imports module => do
    (plugin.imports module).value.names.forM fun name => print (line name)
    return 0
  | .patch module file => do
    let source ← .ofExcept ((disk.readText file).mapError .io)
    print ((plugin.patch module source).value.apply source)
    return 0
  | .target path =>
    match plugin.hooks.target? path with
    | none => return 1
    | some target => do
      print (line target)
      return 0
  | .suppress module => do
    print (line (toString (plugin.silences module place).value))
    return 0

/-- What a command does. -/
def perform (disk : Disk) (config : Config) : Command → Printed UInt8
  | .check file => checkFile disk file
  | .ask question => do
    let plugin ← .ofExcept (Plugin.ofConfig disk config).outcome
    answer disk plugin question

/-- The reply to a command. What was printed before a failure is part of it. -/
def run (disk : Disk) (config : Config) (command : Command) : Reply :=
  let performed := perform disk config command
  match performed.outcome with
  | .error failure =>
    { code := 2, output := performed.output, errors := line s!"error: {failure.message}" }
  | .ok code => { code, output := performed.output }

/-- The reply to a call. -/
def reply (disk : Disk) (arguments : List String) : Reply :=
  match request arguments with
  | .run config command => run disk config command
  | .version => { output := line versionLine }
  | .help => { output := usage }
  | .refused => { code := 2, errors := usage }

/-- The files that a request is about. -/
def Request.files : Request → List String
  | .run config command =>
    (match config.origin with
      | .file path => [path]
      | .builtin => [])
      ++ config.layers
      ++ (match command with
        | .ask (.patch _ file) => [file]
        | .check file => [file]
        | _ => [])
  | _ => []

end HiddenImports.CommandLine
