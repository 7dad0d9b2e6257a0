/-
# Declarations

What a user declares of an external resource. A managed declaration has a request template for each
action and is kept in its declared state; a disposable one sends a single request.

* `Mapping`, `Payload`: templates and the static data they may use.
* `CheckDeclaration`: a response check by its type and logic.
* `InjectionDeclaration`: a response field to be copied into a secret.
* `ManagedDeclaration`, `DisposableDeclaration`.
-/
import HttpResource.Exchange

namespace HttpResource

/-- The request template of one action, which its method implies where it is not named. -/
structure Mapping where
  action : Option Action := none
  method : String
  url : String
  body : Option String := none
  headers : Headers := .empty
deriving DecidableEq, Repr

namespace Mapping

def fieldNames : List String := ["action", "method", "url", "body", "headers"]

instance : Wire Mapping where
  toJson m :=
    .ofPresent [("action", present m.action), ("method", some (.string m.method)),
      ("url", some (.string m.url)), ("body", present m.body),
      ("headers", presentUnless Table.isEmpty m.headers)]
  ofJson? v := do
    let fields ← v.record? fieldNames
    return {
      action := ← field? fields "action" none
      method := ← required? fields "method"
      url := ← required? fields "url"
      body := ← field? fields "body" none
      headers := ← field? fields "headers" .empty }

end Mapping

/-- Static data for templates. -/
structure Payload where
  baseUrl : Option String := none
  body : Option String := none
deriving DecidableEq, Repr

namespace Payload

def fieldNames : List String := ["baseUrl", "body"]

instance : Wire Payload where
  toJson p := .ofPresent [("baseUrl", present p.baseUrl), ("body", present p.body)]
  ofJson? v := do
    let fields ← v.record? fieldNames
    return { baseUrl := ← field? fields "baseUrl" none, body := ← field? fields "body" none }

end Payload

/-- A response check as declared. -/
structure CheckDeclaration where
  type : String := ""
  logic : Option String := none
deriving DecidableEq, Repr

namespace CheckDeclaration

def fieldNames : List String := ["type", "logic"]

instance : Wire CheckDeclaration where
  toJson c := .ofPresent [("type", some (.string c.type)), ("logic", present c.logic)]
  ofJson? v := do
    let fields ← v.record? fieldNames
    return { type := ← field? fields "type" "", logic := ← field? fields "logic" none }

end CheckDeclaration

/-- A secret by name, its namespace perhaps left to the resource. -/
structure SecretTarget where
  name : String
  inNamespace : Option String := none
deriving DecidableEq, Repr

namespace SecretTarget

def fieldNames : List String := ["name", "namespace"]

instance : Wire SecretTarget where
  toJson s := .ofPresent [("name", some (.string s.name)), ("namespace", present s.inNamespace)]
  ofJson? v := do
    let fields ← v.record? fieldNames
    return { name := ← required? fields "name", inNamespace := ← field? fields "namespace" none }

end SecretTarget

/-- A response field and the secret key that takes its value. -/
structure InjectionDeclaration where
  target : SecretTarget
  key : String
  responsePath : String
deriving DecidableEq, Repr

namespace InjectionDeclaration

def fieldNames : List String := ["secretRef", "secretKey", "responsePath"]

instance : Wire InjectionDeclaration where
  toJson i :=
    .ofFields [("secretRef", Wire.toJson i.target), ("secretKey", .string i.key),
      ("responsePath", .string i.responsePath)]
  ofJson? v := do
    let fields ← v.record? fieldNames
    return {
      target := ← required? fields "secretRef"
      key := ← required? fields "secretKey"
      responsePath := ← required? fields "responsePath" }

end InjectionDeclaration

/-- The desired state of a managed resource. -/
structure ManagedDeclaration where
  mappings : List Mapping := []
  payload : Payload := {}
  headers : Headers := .empty
  expectedResponseCheck : Option CheckDeclaration := none
  isRemovedCheck : Option CheckDeclaration := none
  injections : List InjectionDeclaration := []
  waitTimeout : Option String := none
  insecureSkipTlsVerify : Bool := false
  retriesLimit : Option Int32 := none
  nextReconcile : Option String := none
deriving DecidableEq

namespace ManagedDeclaration

def fieldNames : List String :=
  ["mappings", "payload", "headers", "expectedResponseCheck", "isRemovedCheck",
    "secretInjectionConfigs", "waitTimeout", "insecureSkipTLSVerify", "rollbackRetriesLimit",
    "nextReconcile"]

instance : Wire ManagedDeclaration where
  toJson d :=
    .ofPresent [("mappings", some (Wire.toJson d.mappings)), ("payload", some (Wire.toJson d.payload)),
      ("headers", presentUnless Table.isEmpty d.headers),
      ("expectedResponseCheck", present d.expectedResponseCheck),
      ("isRemovedCheck", present d.isRemovedCheck),
      ("secretInjectionConfigs", presentUnless List.isEmpty d.injections),
      ("waitTimeout", present d.waitTimeout),
      ("insecureSkipTLSVerify", some (.bool d.insecureSkipTlsVerify)),
      ("rollbackRetriesLimit", present d.retriesLimit), ("nextReconcile", present d.nextReconcile)]
  ofJson? v := do
    let fields ← v.record? fieldNames
    return {
      mappings := ← field? fields "mappings" []
      payload := ← field? fields "payload" {}
      headers := ← field? fields "headers" .empty
      expectedResponseCheck := ← field? fields "expectedResponseCheck" none
      isRemovedCheck := ← field? fields "isRemovedCheck" none
      injections := ← field? fields "secretInjectionConfigs" []
      waitTimeout := ← field? fields "waitTimeout" none
      insecureSkipTlsVerify := ← field? fields "insecureSkipTLSVerify" false
      retriesLimit := ← field? fields "rollbackRetriesLimit" none
      nextReconcile := ← field? fields "nextReconcile" none }

end ManagedDeclaration

/-- One request to be delivered. -/
structure DisposableDeclaration where
  url : String
  method : String
  headers : Headers := .empty
  body : Option String := none
  expectedResponse : Option String := none
  waitTimeout : Option String := none
  insecureSkipTlsVerify : Bool := false
  retriesLimit : Option Int32 := none
  shouldLoop : Bool := false
  nextReconcile : Option String := none
  injections : List InjectionDeclaration := []
deriving DecidableEq

namespace DisposableDeclaration

def fieldNames : List String :=
  ["url", "method", "headers", "body", "expectedResponse", "waitTimeout", "insecureSkipTLSVerify",
    "rollbackRetriesLimit", "shouldLoopInfinitely", "nextReconcile", "secretInjectionConfigs"]

instance : Wire DisposableDeclaration where
  toJson d :=
    .ofPresent [("url", some (.string d.url)), ("method", some (.string d.method)),
      ("headers", presentUnless Table.isEmpty d.headers), ("body", present d.body),
      ("expectedResponse", present d.expectedResponse), ("waitTimeout", present d.waitTimeout),
      ("insecureSkipTLSVerify", some (.bool d.insecureSkipTlsVerify)),
      ("rollbackRetriesLimit", present d.retriesLimit),
      ("shouldLoopInfinitely", some (.bool d.shouldLoop)),
      ("nextReconcile", present d.nextReconcile),
      ("secretInjectionConfigs", presentUnless List.isEmpty d.injections)]
  ofJson? v := do
    let fields ← v.record? fieldNames
    return {
      url := ← required? fields "url"
      method := ← required? fields "method"
      headers := ← field? fields "headers" .empty
      body := ← field? fields "body" none
      expectedResponse := ← field? fields "expectedResponse" none
      waitTimeout := ← field? fields "waitTimeout" none
      insecureSkipTlsVerify := ← field? fields "insecureSkipTLSVerify" false
      retriesLimit := ← field? fields "rollbackRetriesLimit" none
      shouldLoop := ← field? fields "shouldLoopInfinitely" false
      nextReconcile := ← field? fields "nextReconcile" none
      injections := ← field? fields "secretInjectionConfigs" [] }

end DisposableDeclaration

end HttpResource
