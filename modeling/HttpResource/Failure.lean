/-
# Failures

Why a call did not reach its goal, and for which action it was made.

* `Cause.message`: the text that a status keeps.
* `Failure.message`: the text with the action.
-/
import HttpResource.Rendering

namespace HttpResource

inductive Cause
  /-- The declaration has no meaning. -/
  | configuration (reason : String)
  | noMapping (action : Action)
  | render (e : RenderError)
  | transport (e : TransportError)
  | unexpectedStatus (statusCode : UInt16)
  | predicate (e : Predicate.Error)
  /-- The response is not the expected one. -/
  | mismatch
  | retriesExhausted (failed limit : Int32)
deriving Repr

def Cause.message : Cause → String
  | configuration reason => s!"configuration error: {reason}"
  | noMapping action => s!"no mapping for action {action.name}"
  | render e => s!"failed to render request: {e.message}"
  | transport e => s!"failed to send request: {e.message}"
  | unexpectedStatus statusCode => s!"unexpected response status {statusCode}"
  | predicate e => s!"failed to evaluate response check: {e.message}"
  | mismatch => "response does not match expected response"
  | retriesExhausted failed limit =>
    s!"retry limit reached after {failed} consecutive failures (limit {limit})"

/-- A cause, and the action of the call that it ended. -/
structure Failure where
  cause : Cause
  action : Option Action := none
deriving Repr

namespace Failure

/-- Names the action of a call, unless one has been named already. -/
def forAction (action : Action) (f : Failure) : Failure :=
  { f with action := f.action.or (some action) }

def message (f : Failure) : String :=
  match f.action with
  | some action => s!"{action.name} request failed: {f.cause.message}"
  | none => f.cause.message

/-- Whether the limit on failures in a row was reached. -/
def isExhausted (f : Failure) : Bool :=
  match f.cause with
  | .retriesExhausted .. => true
  | _ => false

/-- Whether the declaration is at fault. -/
def isConfiguration (f : Failure) : Bool :=
  match f.cause with
  | .configuration _ => true
  | _ => false

end Failure

end HttpResource
