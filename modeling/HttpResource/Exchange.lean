/-
# Requests and responses

The request that was sent to the external system and the response that came back.

* `Response`: status code, body and headers; code zero stands for no response at all.
* `Response.context`: what predicates and paths are evaluated on.
* `RequestDetails`: a request as it went out.
-/
import HttpResource.Action
import HttpResource.Json.Parser

namespace HttpResource

/-- Values by header name, in order. -/
abbrev Headers := Table (List String)

structure Response where
  statusCode : UInt16 := 0
  body : String := ""
  headers : Headers := .empty
deriving DecidableEq, Repr, Inhabited

namespace Response

/-- Whether the status code is one of success. -/
def isSuccess (r : Response) : Bool := 200 ≤ r.statusCode && r.statusCode < 300

/-- Whether the status code is one of a client or server error. -/
def isHttpError (r : Response) : Bool := 400 ≤ r.statusCode

/-- The body as JSON where it is JSON, and as a string otherwise. -/
def parsedBody (r : Response) : Json := .parseOrString r.body

/-- The values that predicates and paths refer to. -/
def context (r : Response) : Json :=
  .ofFields [("statusCode", .nat r.statusCode.toNat), ("status", .nat r.statusCode.toNat),
    ("headers", Wire.toJson r.headers), ("body", r.parsedBody)]

def fieldNames : List String := ["statusCode", "body", "headers"]

instance : Wire Response where
  toJson r :=
    .ofFields [("statusCode", Wire.toJson r.statusCode), ("body", .string r.body),
      ("headers", Wire.toJson r.headers)]
  ofJson? v := do
    let fields ← v.record? fieldNames
    return {
      statusCode := ← field? fields "statusCode" 0
      body := ← field? fields "body" ""
      headers := ← field? fields "headers" .empty }

end Response

structure RequestDetails where
  action : Option Action := none
  method : String := ""
  url : String := ""
  body : String := ""
  headers : Headers := .empty
deriving DecidableEq, Repr, Inhabited

namespace RequestDetails

def fieldNames : List String := ["action", "method", "url", "body", "headers"]

instance : Wire RequestDetails where
  toJson r :=
    .ofPresent [("action", present r.action), ("method", some (.string r.method)),
      ("url", some (.string r.url)), ("body", some (.string r.body)),
      ("headers", some (Wire.toJson r.headers))]
  ofJson? v := do
    let fields ← v.record? fieldNames
    return {
      action := ← field? fields "action" none
      method := ← field? fields "method" ""
      url := ← field? fields "url" ""
      body := ← field? fields "body" ""
      headers := ← field? fields "headers" .empty }

end RequestDetails

end HttpResource
