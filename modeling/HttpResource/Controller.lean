/-
# Passes

A pass looks at one resource of the cluster, makes the calls that it needs and keeps what they report.
A managed resource is held back by a finalizer until its external resource has been removed.

* `pass`: one pass over a resource of any kind.
* `Next`: when the resource is looked at again.
* `Resource.after`: what the cluster makes of a request.
-/
import HttpResource.Reconcile
import HttpResource.Resource

namespace HttpResource

variable [Template.Engine] [Url.Reader]

structure Settings where
  /-- After how long a managed resource that sets no interval is looked at again. -/
  pollInterval : Duration := .ofSeconds 60
  /-- The deadline of requests for resources that set none. -/
  defaultTimeout : Duration := .ofSeconds 30
deriving DecidableEq, Repr

/-- The time of calls, and the time of day by which invalid declarations are recorded. -/
structure Clock where
  time : Timestamp
  wallTime : Timestamp
deriving DecidableEq, Repr

/-- When a resource is looked at again. -/
inductive Next
  | onChange
  | after (d : Duration)
deriving DecidableEq, Repr

/-- After how long a failed pass is repeated. -/
def retryInterval : Duration := .ofSeconds 30

inductive PassError
  | missingField (name : String)
  | cluster (e : ClusterError)
  | call (f : Failure)
deriving Repr

/-- A step of a pass. -/
abbrev Pass := ExceptT PassError Act

namespace Pass

/-- Something done in the world. -/
def act {α : Type} (a : Act α) : Pass α := ExceptT.lift a

/-- A request to the cluster; a refusal ends the pass. -/
def callCluster (c : ClusterCall) : Pass Unit := do
  match ← act (World.call c) with
  | .ok () => return ()
  | .error e => throw (.cluster e)

/-- Keeps a status that a call reported, and gives the status then in effect. -/
def persist (key : ResourceKey) (update : Option Status) (current : Status) : Pass Status :=
  match update with
  | some status => do
    callCluster (.patchStatus key status)
    return status
  | none => return current

/-- Records what is wrong with a declaration. Nothing else is done until it changes. -/
def reject (clock : Clock) (key : ResourceKey) (status : Status) (e : ConfigError) : Pass Next := do
  let cause : Cause := .configuration e.message
  let status := status.record (.failed none none cause.message) clock.wallTime
  callCluster (.patchStatus key status)
  return .onChange

/-- At the limit on failures in a row a resource waits for a change. Any other failure ends the
pass. -/
def haltOrFail (f : Failure) : Pass Next :=
  if f.isExhausted then return .onChange else throw (.call f)

/-! ### Managed resources -/

/-- The call that an observation asks for. -/
def nextAction? : Observation → Option Action
  | .absent => some .create
  | .removed => some .create
  | .present false => some .update
  | .present true => none

/-- Brings an external resource about or up to date: it is probed, and then what the probe asks for is
done. -/
def sustainExternal (settings : Settings) (clock : Clock) (key : ResourceKey) (spec : Spec)
    (status : Status) : Pass Next := do
  let observed ← act (observe spec status clock.time)
  let status ← persist key observed.status status
  let next : Next := .after (spec.nextReconcile.getD settings.pollInterval)
  match observed.result with
  | .error f => throw (.call f)
  | .ok o =>
    match nextAction? o with
    | none => return next
    | some action =>
      let deployed ← act (deploy .halt action spec status clock.time)
      let _ ← persist key deployed.status status
      match deployed.result with
      | .error f => haltOrFail f
      | .ok () => return next

/-- A pass over a managed resource that is to exist. -/
def sustain (settings : Settings) (clock : Clock) (key : ResourceKey) (r : Resource) : Pass Next := do
  let status := r.currentStatus
  match r.spec settings.defaultTimeout with
  | .error e => reject clock key status e
  | .ok spec =>
    if !r.hasFinalizer then callCluster (.addFinalizer key Resource.finalizer)
    sustainExternal settings clock key spec status

/-- Lets the cluster delete a resource. -/
def release (key : ResourceKey) : Pass Next := do
  callCluster (.removeFinalizer key Resource.finalizer)
  return .onChange

/-- Whether a probe has shown that there is nothing to remove. -/
def isGone : Except Failure Observation → Bool
  | .ok o => o.needsCreate
  | .error _ => false

/-- Removes an external resource that was created at some time. It is probed first, and removed also
where the probe fails. -/
def removeExternal (clock : Clock) (key : ResourceKey) (spec : Spec) (status : Status) :
    Pass Next := do
  let observed ← act (observe spec status clock.time)
  let status ← persist key observed.status status
  if isGone observed.result then release key
  else
    let removed ← act (deploy .halt .remove spec status clock.time)
    let _ ← persist key removed.status status
    match removed.result with
    | .error f => haltOrFail f
    | .ok () => release key

/-- A pass over a managed resource that is being deleted. There is nothing to remove where nothing was
created, and no way to remove it where the declaration is invalid. -/
def finalize (settings : Settings) (clock : Clock) (key : ResourceKey) (r : Resource) :
    Pass Next := do
  let status := r.currentStatus
  if !r.hasFinalizer then return .onChange
  match r.spec settings.defaultTimeout with
  | .error _ => release key
  | .ok spec => if status.notCreated then release key else removeExternal clock key spec status

/-! ### Disposable resources -/

/-- What follows from the result of a disposable request. -/
def disposableNext (settings : Settings) (spec : Spec) : Except Failure Dispatch → Pass Next
  | .ok .alreadySynced => return .onChange
  | .ok .sent =>
    if spec.shouldLoop then return .after (spec.nextReconcile.getD settings.pollInterval)
    else return .onChange
  | .error f =>
    if f.isExhausted then return .onChange
    else
      match spec.nextReconcile with
      | some interval => return .after interval
      | none => throw (.call f)

/-- A pass over a disposable resource. -/
def deliverOnce (settings : Settings) (clock : Clock) (key : ResourceKey) (r : Resource) :
    Pass Next := do
  let status := r.currentStatus
  match r.spec settings.defaultTimeout with
  | .error e => reject clock key status e
  | .ok spec =>
    let dispatched ← act (dispatch .halt spec status clock.time)
    let _ ← persist key dispatched.status status
    disposableNext settings spec dispatched.result

/-- A pass over a resource of any kind. -/
def run (settings : Settings) (clock : Clock) (r : Resource) : Pass Next := do
  match r.key? with
  | none => throw (.missingField "metadata.name")
  | some key =>
    match r.declaration.kind with
    | .disposableRequest => deliverOnce settings clock key r
    | _ =>
      if r.isBeingDeleted then finalize settings clock key r
      else sustain settings clock key r

end Pass

/-- One pass over a resource. -/
def pass (settings : Settings) (clock : Clock) (r : Resource) : Act (Except PassError Next) :=
  ExceptT.run (Pass.run settings clock r)

/-! ### What the cluster keeps -/

namespace ClusterCall

/-- The list of finalizers after an edit. -/
def edited (wanted : Bool) (finalizer : String) (finalizers : Option (List String)) :
    Option (List String) :=
  (editFinalizers wanted finalizer (finalizers.getD [])).or finalizers

/-- The list of finalizers after a request. -/
def finalizersAfter (finalizers : Option (List String)) : ClusterCall → Option (List String)
  | patchStatus .. => finalizers
  | addFinalizer _ f => edited true f finalizers
  | removeFinalizer _ f => edited false f finalizers

/-- The status after a request. -/
def statusAfter (status : Option Status) : ClusterCall → Option Status
  | patchStatus _ s => some s
  | _ => status

end ClusterCall

namespace Resource

/-- The resource after a request. -/
def after (r : Resource) (c : ClusterCall) : Resource :=
  { r with
    status := c.statusAfter r.status
    metadata.finalizers := c.finalizersAfter r.metadata.finalizers }

/-- The resource after everything that the world's cluster has not refused. -/
def afterEvents (r : Resource) (w : World) : Resource :=
  w.events.foldl
    (fun r e =>
      match e with
      | .called c => if (w.refusal c).isNone then r.after c else r
      | _ => r)
    r

end Resource

end HttpResource
