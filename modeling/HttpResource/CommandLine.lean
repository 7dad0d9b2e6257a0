/-
# The program

* `CommandLine.run`: what the program prints and how it ends, or with what it starts the controllers.
-/
import HttpResource.CommandLine.Parser
import HttpResource.Controller
import HttpResource.Definition
import HttpResource.Text.Quoted

namespace HttpResource

namespace CommandLine

/-- How the program ends. -/
structure Exit where
  code : UInt32
  stdout : String := ""
  stderr : String := ""
deriving DecidableEq, Repr

/-- Why a file cannot be read. -/
inductive FileError
  | notFound
  | notDirectory
  | isDirectory
  | denied
  | other (message : String)
deriving DecidableEq, Repr

def FileError.message : FileError → String
  | notFound => "No such file or directory (os error 2)"
  | notDirectory => "Not a directory (os error 20)"
  | isDirectory => "Is a directory (os error 21)"
  | denied => "Permission denied (os error 13)"
  | other message => message

/-- What comes of a command line. -/
inductive Outcome
  | ends (exit : Exit)
  /-- The controllers start, with the text of a configuration. -/
  | starts (settings : Settings) (config : String)

def versionText : String := "http-provider 0.1.0\n"

def Stop.exit (env : Environment) : Stop → Exit
  | help full c => ⟨0, c.helpText env full, ""⟩
  | version => ⟨0, versionText, ""⟩
  | misuse m => ⟨2, "", m.message⟩

/-- The end after an error. -/
def failure (message : String) : Exit := ⟨1, "", s!"Error: {message}\n"⟩

/-! ### Configuration of the cluster -/

def readProblem (path : String) (e : FileError) : String :=
  s!"failed to read kubeconfig from '{Text.quoted path}': {e.message}"

/-- What is wrong with a configuration that has been read. -/
def contentProblem? (config : String) : Option String :=
  if Text.holds "current-context".toList config.toList then none
  else some "failed to determine current context"

/-- What the program says where it finds no configuration: the failure and what caused it. -/
def inferenceProblem (problem : String) (causes : List String) : String :=
  let inCluster := "failed to read an incluster environment variable: environment variable not found"
  let inference :=
    s!"failed to infer config: in-cluster: ({inCluster}), kubeconfig: ({problem})"
  let chain := inference :: problem :: causes
  let lines := chain.zipIdx.map fun (text, i) => s!"\n    {i}: {text}"
  s!"Failed to infer configuration: {inference}\n\nCaused by:{String.join lines}"

/-- The file of the user's own configuration. -/
def defaultPath (env : Environment) : String := (env.lookup "HOME").getD "" ++ "/.kube/config"

/-- The intervals of an invocation. -/
def Invocation.intervals (i : Invocation) : Settings :=
  let duration (s : Setting) (default : Duration) : Duration :=
    match (i.value? s).map Duration.parse with
    | some (.ok d) => d
    | _ => default
  let standard : Settings := {}
  { pollInterval := duration .pollInterval standard.pollInterval
    defaultTimeout := duration .defaultTimeout standard.defaultTimeout }

/-- Starts with the configuration that was asked for. -/
def startWith (i : Invocation) (path : String) (file : Except FileError String) : Outcome :=
  match file with
  | .error e =>
    .ends (failure s!"Failed to read kubeconfig {Text.quoted path}: {readProblem path e}")
  | .ok config =>
    match contentProblem? config with
    | some problem => .ends (failure s!"Invalid kubeconfig {Text.quoted path}: {problem}")
    | none => .starts i.intervals config

/-- Starts with the user's own configuration. -/
def startDefault (i : Invocation) (path : String) (file : Except FileError String) : Outcome :=
  match file with
  | .error e => .ends (failure (inferenceProblem (readProblem path e) [e.message]))
  | .ok config =>
    match contentProblem? config with
    | some problem => .ends (failure (inferenceProblem problem []))
    | none => .starts i.intervals config

/-- What comes of an invocation, given what files there are. -/
def start (i : Invocation) (read : String → Except FileError String) : Outcome :=
  if i.crd then .ends ⟨0, definitions, ""⟩
  else
    match i.value? .kubeconfig with
    | some path => startWith i path (read path)
    | none => startDefault i (defaultPath i.env) (read (defaultPath i.env))

/-- What comes of a command line. -/
def run (env : Environment) (arguments : List String) (read : String → Except FileError String) :
    Outcome :=
  match parse env arguments with
  | .error stop => .ends (stop.exit env)
  | .ok i => start i read

/-- The file that a command line needs. -/
def fileNeeded? (env : Environment) (arguments : List String) : Option String :=
  match parse env arguments with
  | .error _ => none
  | .ok i => if i.crd then none else some ((i.value? .kubeconfig).getD (defaultPath env))

end CommandLine

end HttpResource
