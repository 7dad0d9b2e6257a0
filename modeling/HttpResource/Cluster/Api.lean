/-
# The cluster's interface

Requests to the cluster and its replies. A reply of an error status is a refusal, any other one has to be
an object of the expected form.

* `Api.exchange`: one request and its reply.
* `ApiReply.read`: what a reply says.
-/
import HttpResource.Json.Wire
import HttpResource.Json.Parser
import HttpResource.SecretStore
import HttpResource.Text.Quoted

namespace HttpResource

/-- How a request changes an object. -/
inductive ApiMethod
  | get
  | post
  /-- A patch that replaces the fields that it names. -/
  | merge
  /-- A patch that says all that its author wants. -/
  | apply
deriving DecidableEq, Repr

namespace ApiMethod

def name : ApiMethod → String
  | get => "GET"
  | post => "POST"
  | merge => "PATCH"
  | apply => "PATCH"

/-- The form of the body. -/
def contentType? : ApiMethod → Option String
  | get => none
  | post => some "application/json"
  | merge => some "application/merge-patch+json"
  | apply => some "application/apply-patch+yaml"

end ApiMethod

structure ApiRequest where
  method : ApiMethod
  /-- Path and query. -/
  address : String
  body : Option Json := none

structure ApiReply where
  status : Nat
  body : String
deriving DecidableEq, Repr

/-- What the cluster says of a request that it refuses. -/
structure Refusal where
  code : Nat
  reason : String
  message : String
deriving DecidableEq, Repr

/-- Why a request did not reach its goal. -/
inductive ApiError
  | refused (r : Refusal)
  /-- The reply is not what was asked for. -/
  | unreadable
  /-- The request cannot be written down. -/
  | malformed
  | missingField (name : String)
  | notText (key : SecretKey)
deriving DecidableEq, Repr

namespace Refusal

def fieldNames : List String := ["status", "message", "reason", "code"]

def ofJson? (v : Json) : Option Refusal := do
  let fields ← v.record? fieldNames
  let _ ← (required? fields "status" : Option String)
  let code ← (required? fields "code" : Option UInt16)
  return {
    code := code.toNat
    reason := ← field? fields "reason" ""
    message := ← field? fields "message" "" }

/-- The refusal of an error status. A body that says nothing of it is quoted. -/
def ofReply (r : ApiReply) : Refusal :=
  match (Json.document? r.body).bind ofJson? with
  | some refusal => refusal
  | none => ⟨r.status, "Failed to parse error data", Text.quoted r.body⟩

end Refusal

/-- What a reply says. -/
def ApiReply.read {α : Type} (decode : Json → Option α) (r : ApiReply) : Except ApiError α :=
  if 400 ≤ r.status && r.status < 600 then .error (.refused (.ofReply r))
  else
    match (Json.document? r.body).bind decode with
    | some a => .ok a
    | none => .error .unreadable

/-- The requests made so far, and the replies to those to come. -/
structure ApiSession where
  replies : List ApiReply := []
  /-- The reply to requests after those. -/
  otherwise : ApiReply := ⟨500, ""⟩
  sent : List ApiRequest := []

/-- A step of talking to the cluster. -/
abbrev Api := ExceptT ApiError (StateM ApiSession)

namespace Api

/-- Makes a request and reads its reply. -/
def exchange {α : Type} (decode : Json → Option α) (request : ApiRequest) : Api α :=
  ExceptT.mk fun s =>
    let s' := { s with sent := s.sent ++ [request] }
    match s.replies with
    | [] => (s.otherwise.read decode, s')
    | reply :: rest => (reply.read decode, { s' with replies := rest })

/-- Who the cluster notes as the author of changes. -/
def fieldManager : String := "http-provider-controller"

/-- Characters that an address may have. -/
def isAddressChar (c : Char) : Bool := 0x20 < c.toNat && c.toNat ≠ 0x7f && !"<>`".toList.contains c

/-- The address of an object. A name must not be empty. -/
def objectAddress (collection name : String) : Api String := do
  let address := s!"{collection}/{name}"
  if name.isEmpty || !address.toList.all isAddressChar then throw .malformed
  return address

end Api

end HttpResource
