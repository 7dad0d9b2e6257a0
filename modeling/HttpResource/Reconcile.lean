/-
# Calls

A call brings the external resource closer to its specification, or finds out how close it is. It sends
one request at most, and reports its result with the status to keep, if there is a new one.

* `observe`: a probe.
* `deploy`: a request to create, update or remove.
* `dispatch`: the request of a disposable resource.
* `Call.perform`: any of them.
-/
import HttpResource.Failure
import HttpResource.Injecting

namespace HttpResource

/-- The result of a call, and the status that takes the place of the old one. -/
structure Report (α : Type) where
  result : Except Failure α
  status : Option Status := none

/-- How far a request got. -/
inductive Attempt
  | unrendered (e : RenderError)
  | unanswered (request : RequestDetails) (e : TransportError)
  | answered (request : RequestDetails) (response : Response)

namespace Attempt

def request? : Attempt → Option RequestDetails
  | unrendered _ => none
  | unanswered request _ => some request
  | answered request _ => some request

def response? : Attempt → Option Response
  | answered _ response => some response
  | _ => none

/-- Whether a response of success came back. -/
def isSuccess (a : Attempt) : Bool := a.response?.any Response.isSuccess

end Attempt

variable [Template.Engine] [Url.Reader]

/-- Renders a request and sends it. -/
def attempt (spec : Spec) (status : Status) (action : Action) (m : Mapping) : Act Attempt := do
  match ← renderRequest spec status action m with
  | .error e => return .unrendered e
  | .ok request =>
    match ← World.send spec.waitTimeout spec.insecureSkipTlsVerify request with
    | .error e => return .unanswered request e
    | .ok response => return .answered request response

namespace Report

variable {α β : Type}

def map (f : α → β) (r : Report α) : Report β := ⟨r.result.map f, r.status⟩

/-- The end of a call that leaves the status as it is. -/
def unchanged (result : Except Failure α) : Report α := { result }

/-- The end of a call that fails and leaves the status as it is. -/
def refused (action : Action) (cause : Cause) : Report α :=
  unchanged (.error ((Failure.mk cause none).forAction action))

/-- The end of a call whose failure is recorded. -/
def failed (action : Action) (status : Status) (time : Timestamp) (a : Attempt) (cause : Cause) :
    Report α where
  result := .error ((Failure.mk cause none).forAction action)
  status := some (status.record (.failed a.request? a.response? cause.message) time)

/-- The end of a call with a response. -/
def completed (status : Status) (time : Timestamp) (request : RequestDetails) (response : Response)
    (synced : Bool) (value : α) : Report α where
  result := .ok value
  status := some (status.record (.completed request response synced) time)

end Report

/-- Probes the external resource. As long as it has not been created, a probe without a response of
success means that it is absent; later on a failed probe is a failure. Absence and removal are not
recorded. -/
def observe (spec : Spec) (status : Status) (time : Timestamp) : Act (Report Observation) := do
  match Spec.mapping? spec.mappings .observe with
  | none => return .refused .observe (.noMapping .observe)
  | some m =>
    let a ← attempt spec status .observe m
    if status.notCreated && !a.isSuccess then return .unchanged (.ok .absent)
    match a with
    | .unrendered e => return .failed .observe status time a (.render e)
    | .unanswered _ e => return .failed .observe status time a (.transport e)
    | .answered request response =>
      inject spec.waitTimeout spec.injections response
      match spec.assess response with
      | .ok .removed => return .unchanged (.ok .removed)
      | .ok o => return .completed status time request response (o = .present true) o
      | .error e => return .failed .observe status time a (.predicate e)

/-- Sends a request that changes the external resource, unless the limit on failures in a row forbids
it. The verdict says what is wrong with a response. -/
def deliver (policy : RetryPolicy) (action : Action) (m : Mapping) (spec : Spec) (status : Status)
    (time : Timestamp) (verdict : Response → Option Cause) : Act (Report Unit) := do
  match Spec.limitReached status.failed spec.retriesLimit, policy with
  | some limit, .halt => return .refused action (.retriesExhausted status.failed limit)
  | _, _ =>
    let a ← attempt spec status action m
    match a with
    | .unrendered e => return .failed action status time a (.render e)
    | .unanswered _ e => return .failed action status time a (.transport e)
    | .answered request response =>
      inject spec.waitTimeout spec.injections response
      match verdict response with
      | some cause => return .failed action status time a cause
      | none => return .completed status time request response true ()

/-- What is wrong with the response to a request that changes a managed resource. -/
def deployVerdict (response : Response) : Option Cause :=
  if response.isSuccess then none else some (.unexpectedStatus response.statusCode)

/-- What is wrong with the response to a disposable request. -/
def disposableVerdict (check : Check) (response : Response) : Option Cause :=
  if response.isSuccess then
    match check.passes response with
    | .ok true => none
    | .ok false => some .mismatch
    | .error e => some (.predicate e)
  else some (.unexpectedStatus response.statusCode)

/-- Creates, updates or removes the external resource; an action without a template needs nothing to
be done. -/
def deploy (policy : RetryPolicy) (action : Action) (spec : Spec) (status : Status)
    (time : Timestamp) : Act (Report Unit) :=
  match Spec.mapping? spec.mappings action with
  | none => pure (.unchanged (.ok ()))
  | some m => deliver policy action m spec status time deployVerdict

/-- What became of a disposable request. -/
inductive Dispatch
  | alreadySynced
  | sent
deriving DecidableEq, Repr

/-- Sends a disposable request, unless an earlier one was successful and is not to be repeated. -/
def dispatch (policy : RetryPolicy) (spec : Spec) (status : Status) (time : Timestamp) :
    Act (Report Dispatch) :=
  if status.synced && !spec.shouldLoop then pure (.unchanged (.ok .alreadySynced))
  else
    match Spec.mapping? spec.mappings .create with
    | none => pure (.refused .create (.noMapping .create))
    | some m => do
      let r ← deliver policy .create m spec status time (disposableVerdict spec.expectedCheck)
      return r.map fun _ => .sent

/-! ### Calls as data -/

inductive Call
  | observe
  | create
  | update
  | remove
  | dispatch
deriving DecidableEq, Repr

/-- The result of any call. -/
inductive Answer
  | observed (o : Observation)
  | deployed
  | dispatched (d : Dispatch)
deriving DecidableEq, Repr

namespace Call

/-- The action that a call is made for. -/
def action : Call → Action
  | observe => .observe
  | create => .create
  | update => .update
  | remove => .remove
  | dispatch => .create

def perform (policy : RetryPolicy) (spec : Spec) (status : Status) (time : Timestamp) (c : Call) :
    Act (Report Answer) := do
  match c with
  | observe => return (← HttpResource.observe spec status time).map .observed
  | dispatch => return (← HttpResource.dispatch policy spec status time).map .dispatched
  | c => return (← deploy policy c.action spec status time).map fun _ => .deployed

end Call

end HttpResource
