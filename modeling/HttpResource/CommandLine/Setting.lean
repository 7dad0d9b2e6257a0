/-
# Settings

What a user may set on the command line or by variables of the environment.

* `Setting`: the settings with their names and texts.
* `Setting.check`: whether a text is a value of a setting.
-/
import HttpResource.Duration
import HttpResource.LogFormat

namespace HttpResource

inductive Setting
  | logFormat
  | pollInterval
  | defaultTimeout
  | kubeconfig
deriving DecidableEq, Repr

namespace Setting

/-- All settings, in the order in which they are shown and checked. -/
def all : List Setting := [logFormat, pollInterval, defaultTimeout, kubeconfig]

/-- The name on the command line. -/
def name : Setting → String
  | logFormat => "log-format"
  | pollInterval => "poll-interval"
  | defaultTimeout => "default-timeout"
  | kubeconfig => "kubeconfig"

/-- The name of a value. -/
def valueName : Setting → String
  | logFormat => "LOG_FORMAT"
  | pollInterval => "POLL_INTERVAL"
  | defaultTimeout => "DEFAULT_TIMEOUT"
  | kubeconfig => "KUBECONFIG"

/-- The variable of the environment. -/
def variableName : Setting → String
  | logFormat => "HTTP_PROVIDER_LOG_FORMAT"
  | pollInterval => "HTTP_PROVIDER_POLL_INTERVAL"
  | defaultTimeout => "HTTP_PROVIDER_DEFAULT_TIMEOUT"
  | kubeconfig => "KUBECONFIG"

def default? : Setting → Option String
  | logFormat => some "text"
  | pollInterval => some "1m"
  | defaultTimeout => some "30s"
  | kubeconfig => none

def help : Setting → String
  | logFormat => "Log output format (text or json)"
  | pollInterval => "Requeue interval for managed requests without nextReconcile"
  | defaultTimeout => "Request deadline for resources without waitTimeout"
  | kubeconfig => "Path to a kubeconfig file; in-cluster or default config when unset"

/-- The setting as usage texts show it. -/
def usage (s : Setting) : String := s!"--{s.name} <{s.valueName}>"

/-- What is wrong with a value. -/
inductive ValueError
  | missing (s : Setting)
  | invalid (s : Setting) (value reason : String)
deriving DecidableEq, Repr

def ValueError.message : ValueError → String
  | missing s => s!"a value is required for '{s.usage}' but none was supplied"
  | invalid s value reason => s!"invalid value '{value}' for '{s.usage}': {reason}"

/-- Checks a value. -/
def check (s : Setting) (value : String) : Except ValueError Unit :=
  match s with
  | logFormat =>
    match LogFormat.parse value with
    | .ok _ => .ok ()
    | .error reason => .error (.invalid s value reason)
  | kubeconfig => if value.isEmpty then .error (.missing s) else .ok ()
  | _ =>
    match Duration.parse value with
    | .ok _ => .ok ()
    | .error e => .error (.invalid s value e.message)

end Setting

/-- The variables of the environment. -/
abbrev Environment := List (String × String)

end HttpResource
