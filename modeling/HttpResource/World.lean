/-
# The world around a resource

What calls act on: the external system, the secrets and the cluster. Everything that is done is
recorded in order.

* `World.send`, `World.readSecret`, `World.writeSecret`, `World.call`: the effects.
* `Event`: one of them as recorded.
-/
import HttpResource.SecretStore
import HttpResource.Status
import HttpResource.Transport

namespace HttpResource

inductive ResourceKind
  | request
  | namespacedRequest
  | disposableRequest
deriving DecidableEq, Repr

def ResourceKind.name : ResourceKind → String
  | request => "Request"
  | namespacedRequest => "NamespacedRequest"
  | disposableRequest => "DisposableRequest"

/-- The address of a resource in the cluster. -/
structure ResourceKey where
  kind : ResourceKind
  name : String
  inNamespace : Option String
deriving DecidableEq, Repr

/-- A request to the cluster. -/
inductive ClusterCall
  | patchStatus (key : ResourceKey) (status : Status)
  | addFinalizer (key : ResourceKey) (finalizer : String)
  | removeFinalizer (key : ResourceKey) (finalizer : String)
deriving DecidableEq

/-- A refusal by the cluster. -/
structure ClusterError where
  code : Nat
  message : String
deriving DecidableEq, Repr

inductive Event
  | sent (request : RequestDetails) (insecure : Bool)
  | readSecret (key : SecretKey)
  | wroteSecret (key : SecretKey) (value : String)
  | called (call : ClusterCall)
deriving DecidableEq

structure World where
  /-- How the external system will behave towards the requests to come. -/
  replies : List Reply := []
  /-- How it will behave after that. -/
  otherwise : Reply := .hangs
  secrets : SecretStore := {}
  /-- Which requests the cluster refuses. -/
  refusal : ClusterCall → Option ClusterError := fun _ => none
  events : List Event := []

/-- Something done in the world. -/
abbrev Act := StateM World

namespace World

/-- The world with one more event. -/
def record (w : World) (e : Event) : World := { w with events := w.events ++ [e] }

/-- Sends a request and waits for its response. -/
def send (deadline : Duration) (insecure : Bool) (request : RequestDetails) :
    Act (Except TransportError Response) := fun w =>
  let w' := w.record (.sent request insecure)
  match w.replies with
  | [] => (w.otherwise.within deadline, w')
  | reply :: rest => (reply.within deadline, { w' with replies := rest })

/-- Reads a secret. -/
def readSecret (deadline : Duration) (k : SecretKey) : Act (Except StoreError (Option String)) :=
  fun w => (w.secrets.read deadline k, w.record (.readSecret k))

/-- Writes a secret. -/
def writeSecret (deadline : Duration) (k : SecretKey) (value : String) : Act (Except StoreError Unit) :=
  fun w =>
    let w' := w.record (.wroteSecret k value)
    match w.secrets.write deadline k value with
    | .ok s => (.ok (), { w' with secrets := s })
    | .error e => (.error e, w')

/-- Makes a request to the cluster. -/
def call (c : ClusterCall) : Act (Except ClusterError Unit) := fun w =>
  (match w.refusal c with
    | some e => .error e
    | none => .ok (), w.record (.called c))

end World

end HttpResource
