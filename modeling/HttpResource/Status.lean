/-
# Status

The status of a resource is what is remembered of it: the last request and response, the number of
failures in a row and the last failure.

* `Outcome`: what happened in one call.
* `Status.record`: the status after a call; nothing else changes a status.
* `Status.notCreated`: whether the external resource has never been created.
-/
import HttpResource.Exchange
import HttpResource.Timestamp

namespace HttpResource

/-- The last response with the time it was received. -/
structure Cache where
  lastUpdated : String := ""
  response : Response := {}
deriving DecidableEq, Repr

namespace Cache

def fieldNames : List String := ["lastUpdated", "response"]

instance : Wire Cache where
  toJson c := .ofFields [("lastUpdated", .string c.lastUpdated), ("response", Wire.toJson c.response)]
  ofJson? v := do
    let fields ← v.record? fieldNames
    return {
      lastUpdated := ← field? fields "lastUpdated" ""
      response := ← field? fields "response" {} }

end Cache

structure Status where
  response : Response := {}
  cache : Cache := {}
  failed : Int32 := 0
  error : String := ""
  synced : Bool := false
  requestDetails : RequestDetails := {}
  lastReconcileTime : Option String := none
deriving DecidableEq

/-- What happened in one call. -/
structure Outcome where
  request : Option RequestDetails := none
  response : Option Response := none
  synced : Bool := false
  error : Option String := none
deriving DecidableEq

namespace Outcome

/-- A call that received a response without a failure. -/
def completed (request : RequestDetails) (response : Response) (synced : Bool) : Outcome :=
  { request := some request, response := some response, synced }

/-- A call that ended in a failure. -/
def failed (request : Option RequestDetails) (response : Option Response) (error : String) :
    Outcome :=
  { request, response, error := some error }

end Outcome

/-- The next number of failures; the greatest one stays. -/
def countFailure (failed : Int32) : Int32 :=
  if failed = Int32.maxValue then failed else failed + 1

namespace Status

/-- Whether a response has ever been recorded. -/
def hasResponse (s : Status) : Bool := s.response.statusCode != 0

/-- The status after an outcome at a time. A failure is counted and its message kept; being in the
desired state clears both, even beside a failure; any response received is kept and cached. -/
def record (s : Status) (o : Outcome) (time : Timestamp) : Status :=
  let s := match o.request with
    | some request => { s with requestDetails := request }
    | none => s
  let s := match o.error with
    | some message => { s with failed := countFailure s.failed, error := message }
    | none => s
  let s := if o.synced then { s with synced := true, failed := 0, error := "" }
    else { s with synced := false }
  let s := match o.response with
    | some response => { s with response, cache := ⟨time.text, response⟩ }
    | none => s
  { s with lastReconcileTime := some time.text }

/-- Whether two texts are equal up to ASCII case. -/
def equalIgnoringCase (a b : String) : Bool := a.map Char.toLower == b.map Char.toLower

/-- Whether the last request was one to create. -/
def lastWasCreate (s : Status) : Bool :=
  match s.requestDetails.action with
  | some action => action = .create
  | none => equalIgnoringCase s.requestDetails.method "POST"

/-- Whether the external resource has never been created: nothing was ever received, or the last
request was one to create and its response is an HTTP error. -/
def notCreated (s : Status) : Bool :=
  !s.hasResponse || (s.lastWasCreate && s.response.isHttpError)

def fieldNames : List String :=
  ["response", "cache", "failed", "error", "synced", "requestDetails", "lastReconcileTime"]

instance : Wire Status where
  toJson s :=
    .ofPresent [("response", some (Wire.toJson s.response)), ("cache", some (Wire.toJson s.cache)),
      ("failed", some (Wire.toJson s.failed)), ("error", some (.string s.error)),
      ("synced", some (.bool s.synced)), ("requestDetails", some (Wire.toJson s.requestDetails)),
      ("lastReconcileTime", present s.lastReconcileTime)]
  ofJson? v := do
    let fields ← v.record? fieldNames
    return {
      response := ← field? fields "response" {}
      cache := ← field? fields "cache" {}
      failed := ← field? fields "failed" 0
      error := ← field? fields "error" ""
      synced := ← field? fields "synced" false
      requestDetails := ← field? fields "requestDetails" {}
      lastReconcileTime := ← field? fields "lastReconcileTime" none }

end Status

end HttpResource
