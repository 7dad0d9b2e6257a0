/-
# Definitions of the kinds

What the cluster is told of each kind of resource: its names, the columns of lists and its schema.

* `ResourceKind.definition`: the definition of a kind.
* `definitions`: all of them as documents.
-/
import HttpResource.Cluster.Object
import HttpResource.Json.Yaml
import HttpResource.Schema

namespace HttpResource

/-- A column of a list of resources. -/
structure Column where
  name : String
  type : String
  path : String

def Column.toJson (c : Column) : Json :=
  .ofFields [("name", .string c.name), ("type", .string c.type), ("jsonPath", .string c.path)]

namespace ResourceKind

def singular : ResourceKind → String
  | request => "request"
  | namespacedRequest => "namespacedrequest"
  | disposableRequest => "disposablerequest"

def shortName : ResourceKind → String
  | request => "hreq"
  | namespacedRequest => "nreq"
  | disposableRequest => "dreq"

def description : ResourceKind → String
  | request => "Cluster-scoped HTTP resource driven through per-action requests"
  | namespacedRequest =>
    "Namespaced HTTP resource driven through per-action requests\n\nSecret references and injection "
      ++ "targets without a namespace resolve to the resource's own namespace."
  | disposableRequest => "One-shot HTTP request"

def declarationSchema : ResourceKind → Schema
  | disposableRequest => disposableSchema
  | _ => managedSchema

/-- The columns of lists: the state, one column of the kind's own, and the age. -/
def columns (k : ResourceKind) : List Column :=
  let own : Column := match k with
    | disposableRequest => ⟨"Status", "integer", ".status.response.statusCode"⟩
    | _ => ⟨"Failed", "integer", ".status.failed"⟩
  [⟨"Synced", "boolean", ".status.synced"⟩, own, ⟨"Age", "date", ".metadata.creationTimestamp"⟩]

/-- The schema of a resource. -/
def schema (k : ResourceKind) : Schema :=
  let desired := Schema.record ["forProvider"] [
    ("forProvider", k.declarationSchema.described "Request parameters")]
  (((Schema.record ["spec"] [
    ("spec", desired.described k.description),
    ("status", statusSchema.nullable)]).described
      s!"Auto-generated derived type for {k.name}Spec via `CustomResource`").add
    "title" (.string k.name))

/-- The names of the kind. -/
def names (k : ResourceKind) : Json :=
  .ofFields [("categories", .array []), ("kind", .string k.name), ("plural", .string k.plural),
    ("shortNames", .array [.string k.shortName]), ("singular", .string k.singular)]

/-- The only version of the kind. -/
def version (k : ResourceKind) : Json :=
  .ofFields [("name", .string versionName), ("served", .bool true), ("storage", .bool true),
    ("additionalPrinterColumns", .array (k.columns.map Column.toJson)),
    ("schema", .ofFields [("openAPIV3Schema", k.schema.toJson)]),
    ("subresources", .ofFields [("status", .ofFields [])])]

/-- The definition of a kind. -/
def definition (k : ResourceKind) : Json :=
  .ofFields [("apiVersion", .string "apiextensions.k8s.io/v1"),
    ("kind", .string "CustomResourceDefinition"),
    ("metadata", .ofFields [("name", .string s!"{k.plural}.{apiGroup}")]),
    ("spec", .ofFields [("group", .string apiGroup), ("names", k.names),
      ("scope", .string (if k.isNamespaced then "Namespaced" else "Cluster")),
      ("versions", .array [k.version])])]

end ResourceKind

/-- The definitions of all kinds, each as a document of its own. -/
def definitions : String :=
  String.join ([ResourceKind.request, .namespacedRequest, .disposableRequest].map fun k =>
    s!"---\n{k.definition.yaml}\n")

end HttpResource
