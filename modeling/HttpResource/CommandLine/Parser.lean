/-
# Reading the command line

Arguments are read from left to right, and the first thing that settles the matter does so: a fault, or
a wish for help. A value that stands apart from its option is checked when the next thing is read.

* `CommandLine.parse`: what the arguments and the environment ask for.
-/
import HttpResource.CommandLine.Misuse
import HttpResource.Text.Split

namespace HttpResource

namespace CommandLine

/-- What ends the reading before its time. -/
inductive Stop
  | help (full : Bool) (c : Command)
  | version
  | misuse (m : Misuse)
deriving DecidableEq, Repr

/-- What has been given to one command. -/
structure Given where
  crd : Bool := false
  settings : List (Setting × String) := []
  /-- The options given, as usage texts show them. -/
  used : List String := []
  /-- A setting whose value has not been checked yet, or not been given. -/
  pending : Option (Setting × Option String) := none
deriving DecidableEq, Repr

namespace Given

/-- Takes the value of a setting. -/
def set (c : Command) (g : Given) (s : Setting) (value : String) : Except Stop Given :=
  if g.settings.any (·.1 = s) then .error (.misuse (.repeated c s.usage))
  else
    match s.check value with
    | .error e => .error (.misuse (.value e))
    | .ok () => .ok { g with settings := g.settings ++ [(s, value)], used := g.used ++ [s.usage] }

/-- Checks what is pending. -/
def settle (c : Command) (g : Given) : Except Stop Given :=
  match g.pending with
  | none => .ok g
  | some (s, none) => .error (.misuse (.value (.missing s)))
  | some (s, some value) => ({ g with pending := none }).set c s value

/-- The options given, with one whose value is still pending. -/
def usedSoFar (g : Given) : List String :=
  match g.pending with
  | some (s, some _) => g.used ++ [s.usage]
  | _ => g.used

end Given

/-- The setting of a name. -/
def settingOf? (name : String) : Option Setting := Setting.all.find? fun s => s.name = name

/-- A flag of a command. -/
inductive Flag
  | crd
  | help
  | version
deriving DecidableEq, Repr

def flagOf? (c : Command) (name : String) : Option Flag :=
  if name = "help" then some .help
  else if c = .main && name = "crd" then some .crd
  else if c = .main && name = "version" then some .version
  else none

/-- Reads a flag. -/
def readFlag (c : Command) (g : Given) (f : Flag) : Except Stop Given := do
  let g ← g.settle c
  match f with
  | .help => throw (.help true c)
  | .version => throw .version
  | .crd =>
    if g.crd then throw (.misuse (.repeated c "--crd"))
    return { g with crd := true, used := g.used ++ ["--crd"] }

/-- Reads a setting with its value, if it is attached. -/
def readSetting (c : Command) (g : Given) (s : Setting) (value : Option String) :
    Except Stop Given := do
  let g ← g.settle c
  match value with
  | some value => g.set c s value
  | none => return { g with pending := some (s, none) }

/-- Reads a long option. -/
def readLong (c : Command) (g : Given) (name : String) (value : Option String) :
    Except Stop Given :=
  match flagOf? c name, value with
  | some f, none => readFlag c g f
  | some _, some value => .error (.misuse (.unexpectedValue c g.used s!"--{name}" value))
  | none, _ =>
    match settingOf? name with
    | some s => readSetting c g s value
    | none => .error (.misuse (.unknownOption c g.usedSoFar name))

/-- Reads a short option, which always ends the reading. -/
def readShort (c : Command) (g : Given) (letter : Char) : Stop :=
  let settled (stop : Stop) : Stop :=
    match g.settle c with
    | .ok _ => stop
    | .error e => e
  if letter = 'h' then settled (.help false c)
  else if letter = 'V' && c = .main then settled .version
  else .misuse (.unexpectedArgument c [] s!"-{letter}")

/-- The help on a command. -/
def helpOn (c : Command) : List String → Stop
  | [] => .help true c
  | name :: rest =>
    if c = .main && name = "controller" then helpOn .controller rest
    else if c = .main && name = "help" then helpOn .help rest
    else .misuse (.unknownTopic c name)

/-- What is wrong with an argument that is no option. -/
def strayArgument (c : Command) (afterDashes : Bool) (argument : String) : Misuse :=
  if afterDashes && c.subcommandNames.contains argument then .hiddenCommand c argument
  else if c = .main then .unknownCommand c argument
  else .unexpectedArgument c [] argument

/-- The name of a long option and its value. -/
def splitLong (s : List Char) : String × Option String :=
  match Text.splitOnce '=' s with
  | some (name, value) => (String.ofList name, some (String.ofList value))
  | none => (String.ofList s, none)

/-- Reads the arguments of a command, up to the name of another command, with the arguments after
it. -/
def scan (c : Command) (g : Given) : List String → Except Stop (Given × Option (List String))
  | [] => .ok (g, none)
  | argument :: rest =>
    match argument.toList with
    | ['-', '-'] =>
      match rest with
      | [] => .ok (g, none)
      | next :: _ => .error (.misuse (strayArgument c true next))
    | '-' :: '-' :: long => do
      let (name, value) := splitLong long
      scan c (← readLong c g name value) rest
    | '-' :: letter :: _ => .error (readShort c g letter)
    | _ =>
      match g.pending with
      | some (s, none) => scan c { g with pending := some (s, some argument) } rest
      | _ =>
        if c = .main && argument = "controller" then .ok (g, some rest)
        else if c = .main && argument = "help" then .error (helpOn .main rest)
        else .error (.misuse (strayArgument c false argument))

/-- Checks what is still pending, and then the variables of settings that were not given. -/
def finish (c : Command) (env : Environment) (g : Given) : Except Stop Given := do
  let g ← g.settle c
  let others := Setting.all.filter fun s => !g.settings.any (·.1 = s)
  for s in others do
    match env.lookup s.variableName with
    | some value =>
      match s.check value with
      | .ok () => pure ()
      | .error e => throw (.misuse (.value e))
    | none => pure ()
  return g

/-- What a user asks for. -/
structure Invocation where
  crd : Bool
  /-- The settings given, those of the inner command first. -/
  settings : List (Setting × String)
  env : Environment
deriving Repr

/-- The value of a setting: from the command line, else from the environment, else the default. -/
def Invocation.value? (i : Invocation) (s : Setting) : Option String :=
  (i.settings.lookup s).or ((i.env.lookup s.variableName).or s.default?)

/-- What the arguments and the environment ask for. An inner command is checked before the outer
one. -/
def parse (env : Environment) (arguments : List String) : Except Stop Invocation := do
  let (outer, rest) ← scan .main {} arguments
  let inner ← match rest with
    | some rest =>
      let (inner, _) ← scan .controller {} rest
      finish .controller env inner
    | none => pure {}
  let outer ← finish .main env outer
  return { crd := outer.crd, settings := inner.settings ++ outer.settings, env }

end CommandLine

end HttpResource
