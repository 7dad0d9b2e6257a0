/-
# Resources

A resource of the cluster: its metadata, its declaration and its status. All kinds come down to the same
specification.

* `Resource.spec`: the specification, or what is wrong with the declaration.
* `Resource.ofJson?`: a resource from its JSON form.
-/
import HttpResource.Spec
import HttpResource.World

namespace HttpResource

/-- What a resource declares, by its kind. -/
inductive Declaration
  | request (d : ManagedDeclaration)
  | namespacedRequest (d : ManagedDeclaration)
  | disposableRequest (d : DisposableDeclaration)
deriving DecidableEq

def Declaration.kind : Declaration → ResourceKind
  | request _ => .request
  | namespacedRequest _ => .namespacedRequest
  | disposableRequest _ => .disposableRequest

structure Metadata where
  name : Option String := none
  inNamespace : Option String := none
  generation : Option Int64 := none
  finalizers : Option (List String) := none
  /-- When deletion was asked for. -/
  deletionTimestamp : Option Timestamp := none
deriving DecidableEq

structure Resource where
  metadata : Metadata
  declaration : Declaration
  status : Option Status
deriving DecidableEq

/-! ### Specifications -/

/-- The secret keys that take response fields. Secrets that name no namespace are in the default one. -/
def resolveInjections (default : Option String) :
    List InjectionDeclaration → Except ConfigError (List Injection)
  | [] => .ok []
  | d :: rest =>
    match d.target.inNamespace.or default with
    | none => .error (.missingNamespace d.target.name)
    | some space =>
      (resolveInjections default rest).map (⟨space, d.target.name, d.key, d.responsePath⟩ :: ·)

/-- The deadline of a declaration. -/
def resolveTimeout (default : Duration) (s : Option String) : Except ConfigError Duration :=
  match s with
  | none => .ok default
  | some s => (Duration.parse s).mapError .badTimeout

/-- The interval of a declaration. -/
def resolveInterval (s : Option String) : Except ConfigError (Option Duration) :=
  match s with
  | none => .ok none
  | some s => (Duration.parse s).map some |>.mapError .badInterval

/-- The specification of a managed declaration in a namespace, or in none. -/
def ManagedDeclaration.spec (d : ManagedDeclaration) (space : Option String)
    (defaultTimeout : Duration) : Except ConfigError Spec := do
  let expectedCheck ← Check.ofDeclaration "expectedResponseCheck" .success d.expectedResponseCheck
  let removedCheck ← Check.ofDeclaration "isRemovedCheck" .notFound d.isRemovedCheck
  let injections ← resolveInjections space d.injections
  let waitTimeout ← resolveTimeout defaultTimeout d.waitTimeout
  let nextReconcile ← resolveInterval d.nextReconcile
  return {
    mappings := d.mappings, payload := d.payload, headers := d.headers
    expectedCheck, removedCheck, injections
    secretNamespace := space, waitTimeout
    insecureSkipTlsVerify := d.insecureSkipTlsVerify
    retriesLimit := d.retriesLimit, shouldLoop := false, nextReconcile }

/-- The specification of a disposable declaration: a single request to create. -/
def DisposableDeclaration.spec (d : DisposableDeclaration) (space : Option String)
    (defaultTimeout : Duration) : Except ConfigError Spec := do
  let injections ← resolveInjections space d.injections
  let waitTimeout ← resolveTimeout defaultTimeout d.waitTimeout
  let nextReconcile ← resolveInterval d.nextReconcile
  return {
    mappings := [{ action := some .create, method := d.method, url := d.url, body := d.body }]
    payload := {}, headers := d.headers
    expectedCheck := (Check.ofLogic? d.expectedResponse).getD .success
    removedCheck := .notFound, injections
    secretNamespace := space, waitTimeout
    insecureSkipTlsVerify := d.insecureSkipTlsVerify
    retriesLimit := d.retriesLimit, shouldLoop := d.shouldLoop, nextReconcile }

/-- The list of finalizers with or without one of them, if that is not the list as it is. -/
def editFinalizers (wanted : Bool) (finalizer : String) (current : List String) :
    Option (List String) :=
  if current.contains finalizer = wanted then none
  else some (if wanted then current ++ [finalizer] else current.filter (· != finalizer))

namespace Resource

/-- The specification of a resource. One that belongs to the whole cluster has no namespace of its
own, whatever its metadata say. -/
def spec (r : Resource) (defaultTimeout : Duration) : Except ConfigError Spec :=
  match r.declaration with
  | .request d => d.spec none defaultTimeout
  | .namespacedRequest d => d.spec r.metadata.inNamespace defaultTimeout
  | .disposableRequest d => d.spec r.metadata.inNamespace defaultTimeout

/-- The status, empty if there is none yet. -/
def currentStatus (r : Resource) : Status := r.status.getD {}

/-- What keeps a managed resource in the cluster until it has been finalized. -/
def finalizer : String := "http.provider.dev/finalizer"

def hasFinalizer (r : Resource) : Bool := (r.metadata.finalizers.getD []).contains finalizer

def isBeingDeleted (r : Resource) : Bool := r.metadata.deletionTimestamp.isSome

/-- The address, if the resource has a name. -/
def key? (r : Resource) : Option ResourceKey :=
  r.metadata.name.map fun name => ⟨r.declaration.kind, name, r.metadata.inNamespace⟩

end Resource

/-! ### JSON -/

/-- A time as metadata give it. -/
def timeOfJson? : Json → Option (Option Timestamp)
  | .null => some none
  | .string s => (Timestamp.parse? s).map some
  | _ => none

namespace Metadata

/-- Metadata from their JSON form. -/
def ofJson? : Json → Option Metadata
  | .object fields => do
    let deletionTimestamp ← match fields.lookup "deletionTimestamp" with
      | none => some none
      | some v => timeOfJson? v
    return {
      name := ← field? fields "name" none
      inNamespace := ← field? fields "namespace" none
      generation := ← field? fields "generation" none
      finalizers := ← field? fields "finalizers" none
      deletionTimestamp }
  | _ => none

end Metadata

/-- The declaration inside the desired state of a resource. -/
def declarationOfJson? (kind : ResourceKind) (v : Json) : Option Declaration := do
  let fields ← v.record? ["forProvider"]
  match kind with
  | .request => (required? fields "forProvider").map .request
  | .namespacedRequest => (required? fields "forProvider").map .namespacedRequest
  | .disposableRequest => (required? fields "forProvider").map .disposableRequest

/-- A resource of a kind from its JSON form. -/
def Resource.ofJson? (kind : ResourceKind) (v : Json) : Option Resource := do
  let fields ← v.record? ["metadata", "spec", "status"]
  return {
    metadata := ← (fields.lookup "metadata").bind Metadata.ofJson?
    declaration := ← (fields.lookup "spec").bind (declarationOfJson? kind)
    status := ← field? fields "status" none }

end HttpResource
