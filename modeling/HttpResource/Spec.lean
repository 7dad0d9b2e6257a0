/-
# Specifications

What a resource of any kind asks for, with all defaults resolved.

* `Spec.mapping?`: the request template of an action.
* `Spec.assess`: what a response tells about the external resource.
-/
import HttpResource.Check

namespace HttpResource

/-- A response field and the secret key that takes its value. -/
structure Injection where
  inNamespace : String
  name : String
  key : String
  responsePath : String
deriving DecidableEq, Repr

/-- The secret key as messages show it. -/
def Injection.describe (i : Injection) : String := s!"{i.inNamespace}/{i.name}[{i.key}]"

structure Spec where
  mappings : List Mapping
  payload : Payload
  headers : Headers
  expectedCheck : Check
  removedCheck : Check
  injections : List Injection
  /-- The namespace of secret references that name none. -/
  secretNamespace : Option String
  waitTimeout : Duration
  insecureSkipTlsVerify : Bool
  retriesLimit : Option Int32
  shouldLoop : Bool
  nextReconcile : Option Duration
deriving DecidableEq

/-- What is known of the external resource after a probe. -/
inductive Observation
  /-- It has not been created yet. -/
  | absent
  /-- It existed and is gone. -/
  | removed
  /-- It exists, in the desired state or not. -/
  | present (upToDate : Bool)
deriving DecidableEq, Repr

def Observation.needsCreate : Observation → Bool
  | absent => true
  | removed => true
  | present _ => false

def Observation.needsUpdate : Observation → Bool
  | present upToDate => !upToDate
  | _ => false

namespace Spec

/-- The request template of an action: the first that names it, or else the first that names no action
and has a method that stands for it. -/
def mapping? (mappings : List Mapping) (action : Action) : Option Mapping :=
  match mappings.find? fun m => m.action = some action with
  | some m => some m
  | none =>
    mappings.find? fun m => m.action.isNone && Action.impliedByMethod m.method = some action

/-- What a response tells: the check for removal comes first. -/
def assess (s : Spec) (r : Response) : Except Predicate.Error Observation := do
  if ← s.removedCheck.passes r then return .removed
  return .present (← s.expectedCheck.passes r)

/-- The limit on failures in a row, if it has been reached. -/
def limitReached (failed : Int32) (limit : Option Int32) : Option Int32 :=
  limit.filter fun l => l ≤ failed

end Spec

/-- What to do at the limit on failures in a row. -/
inductive RetryPolicy
  | halt
  | proceed
deriving DecidableEq, Repr

end HttpResource
