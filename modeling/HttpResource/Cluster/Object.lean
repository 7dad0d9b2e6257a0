/-
# Resources in the cluster

* `Api.patchStatus`: replaces the status of a resource.
* `Api.setFinalizer`: adds a finalizer to a resource or removes it.
-/
import HttpResource.Cluster.Api
import HttpResource.Resource

namespace HttpResource

/-- The group that the kinds belong to. -/
def apiGroup : String := "http.provider.dev"

/-- The version of the kinds. -/
def versionName : String := "v1alpha1"

/-- The interface that the kinds belong to. -/
def apiVersion : String := s!"{apiGroup}/{versionName}"

def ResourceKind.plural : ResourceKind → String
  | .request => "requests"
  | .namespacedRequest => "namespacedrequests"
  | .disposableRequest => "disposablerequests"

/-- Whether resources of the kind are in namespaces. -/
def ResourceKind.isNamespaced : ResourceKind → Bool
  | .request => false
  | _ => true

namespace Api

/-- The address of a collection of resources. -/
def collectionAddress (key : ResourceKey) : Api String :=
  if key.kind.isNamespaced then
    match key.inNamespace with
    | some space => return s!"/apis/{apiVersion}/namespaces/{space}/{key.kind.plural}"
    | none => throw (.missingField "metadata.namespace")
  else return s!"/apis/{apiVersion}/{key.kind.plural}"

/-- The address of a resource. -/
def resourceAddress (key : ResourceKey) : Api String := do
  objectAddress (← collectionAddress key) key.name

/-- Replaces the status. All of it is applied, so nothing of an earlier one is left. -/
def patchStatus (key : ResourceKey) (status : Status) : Api Unit := do
  let address ← resourceAddress key
  let body := Json.ofFields [("apiVersion", .string apiVersion), ("kind", .string key.kind.name),
    ("status", Wire.toJson status)]
  let _ ← exchange (Resource.ofJson? key.kind) {
    method := .apply
    address := s!"{address}/status?&force=true&fieldManager={fieldManager}"
    body := some body }
  return ()

/-- Adds a finalizer or removes it: reads those of the resource, and writes them all where that makes a
difference. -/
def setFinalizer (wanted : Bool) (key : ResourceKey) (finalizer : String) : Api Unit := do
  let address ← resourceAddress key
  let r ← exchange (Resource.ofJson? key.kind) { method := .get, address }
  match editFinalizers wanted finalizer (r.metadata.finalizers.getD []) with
  | none => return ()
  | some finalizers =>
    let metadata := Json.ofFields [("finalizers", Wire.toJson finalizers)]
    let _ ← exchange (Resource.ofJson? key.kind) {
      method := .merge
      address := s!"{address}?&fieldManager={fieldManager}"
      body := some (.ofFields [("metadata", metadata)]) }
    return ()

end Api

/-- Makes a request to the cluster. -/
def ClusterCall.perform : ClusterCall → Api Unit
  | patchStatus key status => Api.patchStatus key status
  | addFinalizer key finalizer => Api.setFinalizer true key finalizer
  | removeFinalizer key finalizer => Api.setFinalizer false key finalizer

end HttpResource
