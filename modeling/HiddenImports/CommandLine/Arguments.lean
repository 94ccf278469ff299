import HiddenImports.Config

/-!
# The arguments of the command line

The arguments are options, then the name of a command and what the command is about. They are read from
left to right, and the first thing that cannot be read, or that asks for help or for the version, decides.
The value of an option is looked at when the next option has been named or all else has been read.
-/

namespace HiddenImports.CommandLine

/-- What a plugin can be asked. -/
inductive Question where
  /-- The names that a module needs. -/
  | imports (module : String)
  /-- The patched source in a file. -/
  | patch (module file : String)
  /-- The present name of a module. -/
  | target (path : String)
  /-- Whether a module is silenced. -/
  | suppress (module : String)
  deriving DecidableEq, Repr

/-- What can be asked for. -/
inductive Command where
  | ask (question : Question)
  /-- Whether a file holds a table that passes the check. -/
  | check (file : String)
  deriving DecidableEq, Repr

/-- What the arguments amount to. -/
inductive Request where
  | run (config : Config) (command : Command)
  | version
  | help
  /-- The arguments cannot be read. -/
  | refused
  deriving DecidableEq, Repr

/-! ## Commands -/

/-- What a command is about. -/
inductive Operand where
  /-- Any text. -/
  | text
  /-- A file, whose path is not empty. -/
  | file
  deriving DecidableEq, Repr

/-- The commands with what each is about. -/
def commands : List (String × List Operand) :=
  [("imports", [.text]), ("patch", [.text, .file]), ("alias", [.text]), ("suppress", [.text]),
    ("check", [.file])]

/-- The command that lists the others. -/
def helpCommand : String := "help"

/-- The command with a name and its operands. -/
def command? : String → List String → Option Command
  | "imports", [module] => some (.ask (.imports module))
  | "patch", [module, file] => some (.ask (.patch module file))
  | "alias", [path] => some (.ask (.target path))
  | "suppress", [module] => some (.ask (.suppress module))
  | "check", [file] => some (.check file)
  | _, _ => none

/-- A text can be what an operand stands for. -/
def Operand.accepts : Operand → String → Bool
  | text, _ => true
  | file, path => path != ""

/-- An argument as its form shows it. -/
inductive Form where
  /-- Two dashes: what follows is never an option. -/
  | divider
  /-- An option by its name, with a value after an equals sign if there is one. -/
  | long (name : String) (value : Option String)
  /-- Options of one letter each, of which this is the first. -/
  | short (letter : Char)
  | plain
  deriving DecidableEq, Repr

/-- The form of an argument. A dash alone is a plain text. -/
def form (argument : String) : Form :=
  match argument.toList with
  | ['-', '-'] => .divider
  | '-' :: '-' :: body =>
    let value := body.dropWhile (· != '=')
    .long (String.ofList (body.takeWhile (· != '=')))
      (if value.isEmpty then none else some (String.ofList value.tail))
  | '-' :: letter :: _ => .short letter
  | _ => .plain

/-- The argument asks for help. -/
def Form.asksHelp : Form → Bool
  | long name value => name == "help" && value.isNone
  | short letter => letter == 'h'
  | _ => false

/-- The argument asks for the version. -/
def Form.asksVersion : Form → Bool
  | long name value => name == "version" && value.isNone
  | short letter => letter == 'V'
  | _ => false

/-- What the arguments after the name of a command amount to: its operands, or something else. -/
def operands (wanted : List Operand) (divided : Bool) (given : List String) :
    List String → Except Request (List String)
  | [] => if wanted.isEmpty then .ok given else .error .refused
  | argument :: rest =>
    let form := if divided then .plain else form argument
    if form.asksHelp then .error .help
    else
      match form with
      | .divider => operands wanted true given rest
      | .plain =>
        match wanted with
        | [] => .error .refused
        | operand :: wanted =>
          if operand.accepts argument then operands wanted divided (given ++ [argument]) rest
          else .error .refused
      | _ => .error .refused

/-- What the arguments after the help command amount to. -/
def helpRequest : List String → Request
  | [] => .help
  | [name] => if name = helpCommand || commands.any (·.1 == name) then .help else .refused
  | _ => .refused

/-! ## Options -/

/-- The options with a value. -/
inductive Setting where
  /-- The file of the base table. -/
  | base
  /-- The file of a layer. -/
  | rules
  /-- The runtime. -/
  | python
  deriving DecidableEq, Repr

def Setting.ofName? : String → Option Setting
  | "base" => some .base
  | "rules" => some .rules
  | "python" => some .python
  | _ => none

/-- The settings so far. -/
structure Settings where
  base : Option String := none
  rules : List String := []
  runtime : Option Version := none

namespace Settings

/-- Takes a value for a setting. Only layers can be given more than once. -/
def set (settings : Settings) (setting : Setting) (value : String) : Option Settings :=
  match setting with
  | .base =>
    if settings.base.isSome || value = "" then none else some { settings with base := some value }
  | .rules =>
    if value = "" then none else some { settings with rules := settings.rules ++ [value] }
  | .python =>
    if settings.runtime.isSome then none
    else (Version.read? value).map fun runtime => { settings with runtime := some runtime }

/-- Takes the value that has not been looked at yet. -/
def settle (settings : Settings) : Option (Setting × String) → Option Settings
  | none => some settings
  | some (setting, value) => settings.set setting value

/-- The configuration that the settings describe. -/
def config (settings : Settings) : Config :=
  Config.ofChanges [
    .origin (match settings.base with
      | some path => .file path
      | none => .builtin),
    .runtime (settings.runtime.getD .default),
    .layers settings.rules]

end Settings

/-- What the arguments from the name of a command on amount to. -/
def commandRequest (settings : Option Settings) (name : String) (wanted : List Operand)
    (rest : List String) : Request :=
  match operands wanted false [] rest with
  | .error request => request
  | .ok given =>
    match settings, command? name given with
    | some settings, some command => .run settings.config command
    | _, _ => .refused

/-- The argument can be the value of the option before it. -/
def isValue (argument : String) : Bool := form argument == .plain

/-- What the arguments amount to, after some settings and a value not looked at yet. -/
def requestFrom (settings : Settings) (value : Option (Setting × String)) : List String → Request
  | [] => .refused
  | argument :: rest =>
    if argument = helpCommand then helpRequest rest
    else
      match commands.find? (·.1 == argument) with
      | some (name, wanted) => commandRequest (settings.settle value) name wanted rest
      | none =>
        let form := form argument
        match settings.settle value with
        | none => .refused
        | some settings =>
          if form.asksHelp then .help
          else if form.asksVersion then .version
          else
            match form with
            | .long name (some value) =>
              match Setting.ofName? name with
              | none => .refused
              | some setting =>
                match settings.set setting value with
                | none => .refused
                | some settings => requestFrom settings none rest
            | .long name none =>
              match Setting.ofName? name, rest with
              | some setting, value :: rest =>
                if isValue value then requestFrom settings (some (setting, value)) rest else .refused
              | _, _ => .refused
            | _ => .refused

/-- What the arguments of a call amount to. -/
def request (arguments : List String) : Request :=
  requestFrom {} none arguments

end HiddenImports.CommandLine
