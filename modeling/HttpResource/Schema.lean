/-
# Schemas

What the cluster is told of the form of resources: a schema is a set of keywords.

* `Schema.text`, `Schema.record`, …: schemas of values.
* `Schema.described`, `Schema.withDefault`, `Schema.nullable`: further keywords.
-/
import HttpResource.Declaration
import HttpResource.Status

namespace HttpResource

/-- Keywords with their values. -/
structure Schema where
  keywords : List (String × Json)

namespace Schema

def toJson (s : Schema) : Json := .ofFields s.keywords

/-- A value of a type, with what else is said of it. -/
def ofType (type : String) (keywords : List (String × Json)) : Schema :=
  ⟨("type", .string type) :: keywords⟩

def add (s : Schema) (name : String) (v : Json) : Schema := ⟨s.keywords ++ [(name, v)]⟩

def described (s : Schema) (description : String) : Schema := s.add "description" (.string description)

def withDefault {α : Type} [Wire α] (s : Schema) (default : α) : Schema :=
  s.add "default" (Wire.toJson default)

def nullable (s : Schema) : Schema := s.add "nullable" (.bool true)

def text : Schema := ofType "string" []

/-- One of some texts. -/
def choice (options : List String) : Schema := ofType "string" [("enum", Wire.toJson options)]

def flag : Schema := ofType "boolean" []

def int32 : Schema := ofType "integer" [("format", .string "int32")]

def uint16 : Schema :=
  ofType "integer" [("format", .string "uint16"), ("minimum", .number (.double .zero))]

def list (item : Schema) : Schema := ofType "array" [("items", item.toJson)]

/-- Values of one schema by any names. -/
def table (value : Schema) : Schema := ofType "object" [("additionalProperties", value.toJson)]

/-- Fields by their names, some of which are required. -/
def record (required : List String) (fields : List (String × Schema)) : Schema :=
  ofType "object" <|
    [("properties", .ofFields (fields.map fun (name, s) => (name, s.toJson)))]
      ++ if required.isEmpty then [] else [("required", Wire.toJson required)]

end Schema

open Schema

/-! ### Parts of resources -/

def actionSchema : Schema :=
  choice ([Action.create, .observe, .update, .remove].map Action.name)

def headersSchema : Schema := table (list text)

def mappingSchema : Schema :=
  described (record ["method", "url"] [
    ("action", (actionSchema.described
      "Action this mapping serves; inferred from the method when unset").nullable),
    ("method", text.described "HTTP method (GET, POST, PUT, PATCH, DELETE, ...)"),
    ("url", text.described "URL template"),
    ("body", (text.described "Body template").nullable),
    ("headers", headersSchema.described
      "Header templates, merged over the resource's default headers")])
    ("One action's request template\n\n`url`, `body`, and header values are templates rendered "
      ++ "against the payload, the cached response, and secret references.")

def payloadSchema : Schema :=
  record [] [
    ("baseUrl", (text.described "Base URL, available as `$\x7b payload.baseUrl \x7d`").nullable),
    ("body", (text.described
      "Body, available as `$\x7b payload.body \x7d` (parsed when it is JSON)").nullable)]

def checkSchema : Schema :=
  record [] [
    ("type", (text.described "Check kind").withDefault ""),
    ("logic", (text.described "Predicate expression, required for `CUSTOM`").nullable)]

def secretTargetSchema : Schema :=
  record ["name"] [
    ("name", text.described "Secret name"),
    ("namespace", (text.described
      "Secret namespace; defaults to the resource's namespace when it has one").nullable)]

def injectionSchema : Schema :=
  described (record ["responsePath", "secretKey", "secretRef"] [
    ("secretRef", secretTargetSchema.described "Target secret"),
    ("secretKey", text.described "Key within the secret to write"),
    ("responsePath", text.described "Path into the response context, e.g. `.body.token`")])
    "Copy one response field into a secret key"

/-- What declarations of all kinds have in common. -/
def commonFields (intervalText limitText : String) : List (String × Schema) := [
  ("waitTimeout", (text.described "Per-request deadline (e.g. \"30s\")").nullable),
  ("insecureSkipTLSVerify", (flag.described "Skip TLS certificate verification").withDefault false),
  ("rollbackRetriesLimit", (int32.described limitText).nullable),
  ("nextReconcile", (text.described intervalText).nullable),
  ("secretInjectionConfigs",
    (list injectionSchema).described "Response fields to copy into secrets")]

def managedSchema : Schema :=
  record [] <| [
    ("mappings", ((list mappingSchema).described "Per-action request templates").withDefault
      ([] : List Mapping)),
    ("payload", (payloadSchema.described "Static template data").withDefault ({} : Payload)),
    ("headers", headersSchema.described "Default headers, merged under each mapping's headers"),
    ("expectedResponseCheck", (checkSchema.described
      "Decides whether an observed resource is up to date").nullable),
    ("isRemovedCheck", (checkSchema.described
      "Decides whether an observed resource has been removed").nullable)]
    ++ commonFields "Interval between reconciliations (e.g. \"5m\")"
      "Consecutive failures after which mutating requests stop"

def disposableSchema : Schema :=
  record ["method", "url"] <| [
    ("url", text.described "URL template"),
    ("method", text.described "HTTP method"),
    ("headers", headersSchema.described "Header templates"),
    ("body", (text.described "Body template").nullable),
    ("expectedResponse", (text.described
      "Predicate the response must satisfy; any 2xx when unset").nullable),
    ("shouldLoopInfinitely", (flag.described "Keep sending after a matching response").withDefault
      false)]
    ++ commonFields "Interval between sends when looping or retrying"
      "Consecutive failures after which the request is no longer sent"

def responseSchema : Schema :=
  record [] [
    ("statusCode", (uint16.described
      "HTTP status code; zero when nothing has been received").withDefault (0 : UInt16)),
    ("body", (text.described "Raw body").withDefault ""),
    ("headers", (headersSchema.described "Response headers").withDefault (.empty : Headers))]

def cacheSchema : Schema :=
  record [] [
    ("lastUpdated", (text.described "RFC 3339 timestamp of the cached response").withDefault ""),
    ("response", (responseSchema.described "Cached response").withDefault ({} : Response))]

def requestDetailsSchema : Schema :=
  record [] [
    ("action", (actionSchema.described "Action the request was sent for").nullable),
    ("method", (text.described "HTTP method").withDefault ""),
    ("url", (text.described "Rendered URL").withDefault ""),
    ("body", (text.described "Rendered body").withDefault ""),
    ("headers", (headersSchema.described "Rendered headers").withDefault (.empty : Headers))]

def statusSchema : Schema :=
  described (record [] [
    ("response", (responseSchema.described "Most recent response").withDefault ({} : Response)),
    ("cache", (cacheSchema.described
      "Most recent successfully received response and its timestamp").withDefault ({} : Cache)),
    ("failed", (int32.described "Consecutive failed reconciliations").withDefault (0 : Int32)),
    ("error", (text.described "Last failure message, empty when clear").withDefault ""),
    ("synced", (flag.described
      "Whether the last reconciliation found the resource up to date").withDefault false),
    ("requestDetails", (requestDetailsSchema.described "Last request dispatched").withDefault
      ({} : RequestDetails)),
    ("lastReconcileTime", (text.described
      "RFC 3339 timestamp of the last reconciliation").nullable)])
    "Persisted status shared by all request kinds"

end HttpResource
