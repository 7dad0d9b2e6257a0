/-
# Misuse of the command line

* `Misuse.message`: what the user is told.
-/
import HttpResource.CommandLine.Help
import HttpResource.Text.Similar

namespace HttpResource

/-- Why a command line is not understood. -/
inductive Misuse
  /-- An argument that is not known, with the options given before it. -/
  | unexpectedArgument (command : Command) (used : List String) (argument : String)
  | unknownOption (command : Command) (used : List String) (name : String)
  | unknownCommand (command : Command) (argument : String)
  /-- Help was asked for on a command that there is not. -/
  | unknownTopic (command : Command) (topic : String)
  /-- A command after two dashes. -/
  | hiddenCommand (command : Command) (argument : String)
  | unexpectedValue (command : Command) (used : List String) (option value : String)
  | repeated (command : Command) (option : String)
  | value (e : Setting.ValueError)
deriving DecidableEq, Repr

namespace Misuse

/-- The usage of a command with some options. -/
def usageWith (c : Command) (used : List String) : String :=
  if used.isEmpty then c.usageLine
  else "Usage: " ++ " ".intercalate (c.path :: used.eraseDups)

/-- The long options of a command and how usage texts show them. -/
def longOptions (c : Command) : List (String × String) :=
  let settings := Setting.all.map fun s => (s.name, s.usage)
  match c with
  | .main => ("crd", "--crd") :: settings ++ [("help", "--help"), ("version", "--version")]
  | .controller => settings ++ [("help", "--help")]
  | .help => []

def tip (text : String) : String := s!"\n\n  tip: {text}"

/-- The commands that may be meant. -/
def similarCommands (c : Command) (argument : String) : String :=
  match (Text.similarWords argument c.subcommandNames).map fun name => s!"'{name}'" with
  | [] => ""
  | [name] => tip s!"a similar subcommand exists: {name}"
  | names => tip ("some similar subcommands exist: " ++ ", ".intercalate names)

/-- What is wrong, and the usage. -/
def parts : Misuse → String × Option String
  | unexpectedArgument c used argument =>
    (s!"unexpected argument '{argument}' found", some (usageWith c used))
  | unknownOption c used name =>
    let found := s!"unexpected argument '--{name}' found"
    match Text.mostSimilar? name ((longOptions c).map (·.1)) with
    | some similar =>
      let shown := ((longOptions c).lookup similar).getD ""
      (found ++ tip s!"a similar argument exists: '--{similar}'",
        some (usageWith c (used ++ [shown])))
    | none => (found, some (usageWith c used))
  | unknownCommand c argument =>
    (s!"unrecognized subcommand '{argument}'" ++ similarCommands c argument, some c.usageLine)
  | unknownTopic c topic => (s!"unrecognized subcommand '{topic}'", some c.usageLine)
  | hiddenCommand c argument =>
    (s!"unexpected argument '{argument}' found"
      ++ tip s!"subcommand '{argument}' exists; to use it, remove the '--' before it",
      some c.usageLine)
  | unexpectedValue c used option given =>
    (s!"unexpected value '{given}' for '{option}' found; no more were expected",
      some (usageWith c (used ++ [option])))
  | repeated c option =>
    (s!"the argument '{option}' cannot be used multiple times", some c.usageLine)
  | value e => (e.message, none)

def message (m : Misuse) : String :=
  let (text, usage) := m.parts
  let usage := match usage with
    | some usage => "\n\n" ++ usage
    | none => ""
  s!"error: {text}{usage}\n\nFor more information, try '--help'.\n"

end Misuse

end HttpResource
