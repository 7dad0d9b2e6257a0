/-
# Help texts

* `Command.helpText`: the help text of a command, in short or in full.
* `Command.usageLine`: the usage line.
-/
import HttpResource.CommandLine.Setting

namespace HttpResource

/-- What the program is asked to do. -/
inductive Command
  | main
  | controller
  | help
deriving DecidableEq, Repr

namespace Command

/-- The command with the ones before it. -/
def path : Command → String
  | main => "http-provider"
  | controller => "http-provider controller"
  | help => "http-provider help"

def usageLine : Command → String
  | main => "Usage: http-provider [OPTIONS] [COMMAND]"
  | controller => "Usage: http-provider controller [OPTIONS]"
  | help => "Usage: http-provider help [COMMAND]..."

/-- The names of the commands below a command. -/
def subcommandNames : Command → List String
  | main => ["controller", "help"]
  | _ => []

/-- The one line about a command. -/
def summary : Command → String
  | main => "Kubernetes controller that drives HTTP-only external resources toward their declared state"
  | controller => "Run the controllers (default mode)"
  | help => "Print this message or the help of the given subcommand(s)"

/-- What the full help text says besides. -/
def detail? : Command → Option String
  | controller => some ("Watches Request, NamespacedRequest, and DisposableRequest objects and "
      ++ "reconciles each against its external HTTP API.")
  | _ => none

/-! ### Options -/

/-- An option with its text and with notes on it. -/
structure OptionHelp where
  usage : String
  text : String
  notes : List String := []

def margin : String := "          "

/-- The lines of an option. In the full help text notes stand on lines of their own. -/
def OptionHelp.lines (full : Bool) (o : OptionHelp) : String :=
  if full && !o.notes.isEmpty then
    let notes := o.notes.map fun note => "\n" ++ margin ++ note
    o.usage ++ "\n" ++ margin ++ o.text ++ "\n" ++ margin ++ String.join notes ++ "\n"
  else
    let words := " ".intercalate (o.text :: o.notes)
    o.usage ++ "\n" ++ margin ++ words ++ "\n"

/-- A setting, with the value that the environment gives it. -/
def settingHelp (env : Environment) (s : Setting) : OptionHelp where
  usage := "      " ++ s.usage
  text := s.help
  notes :=
    let value := (env.lookup s.variableName).getD ""
    s!"[env: {s.variableName}={value}]"
      :: (match s.default? with
        | some value => [s!"[default: {value}]"]
        | none => [])

/-- What the help option says of itself. -/
def helpHint (full : Bool) : Command → String
  | controller =>
    if full then "Print help (see a summary with '-h')" else "Print help (see more with '--help')"
  | _ => "Print help"

def options (env : Environment) (full : Bool) (c : Command) : List OptionHelp :=
  let settings := Setting.all.map (settingHelp env)
  let helpOption : OptionHelp := ⟨"  -h, --help", c.helpHint full, []⟩
  match c with
  | main =>
    ⟨"      --crd", "Print CRD manifests as YAML and exit", []⟩ :: settings
      ++ [helpOption, ⟨"  -V, --version", "Print version", []⟩]
  | controller => settings ++ [helpOption]
  | help => []

/-! ### Whole texts -/

/-- The list of commands. -/
def commandList : Command → String
  | main =>
    "Commands:\n  controller  " ++ summary controller ++ "\n  help        " ++ summary help ++ "\n\n"
  | _ => ""

/-- The options. In the full help text there are blank lines between them. -/
def optionList (env : Environment) (full : Bool) (c : Command) : String :=
  let gap := if full then "\n" else ""
  match c with
  | help => "Arguments:\n  [COMMAND]...  Print help for the subcommand(s)\n"
  | _ => "Options:\n" ++ gap.intercalate ((c.options env full).map (OptionHelp.lines full))

/-- The help text. A command without more to say of itself has only the short one. -/
def helpText (env : Environment) (full : Bool) (c : Command) : String :=
  let full := full && c.detail?.isSome
  let about := match c.detail?, full with
    | some detail, true => s!"{c.summary}\n\n{detail}"
    | _, _ => c.summary
  s!"{about}\n\n{c.usageLine}\n\n{c.commandList}{c.optionList env full}"

end Command

end HttpResource
