/-
# Secrets in the cluster

* `Api.readSecret`: the value of one key.
* `Api.writeSecret`: sets the value of one key, and leaves the other ones alone.
-/
import HttpResource.Base64
import HttpResource.Cluster.Api
import HttpResource.Resource

namespace HttpResource

/-- The data of a secret. -/
structure SecretData where
  entries : List (String × List UInt8)

namespace SecretData

/-- A value in base 64. One that is null has no bytes. -/
def valueOfJson? : Json → Option (List UInt8)
  | .null => some []
  | .string s => (Base64.decode (Text.bytesOf s)).toOption
  | _ => none

def entriesOfJson? : List (String × Json) → Option (List (String × List UInt8))
  | [] => some []
  | (key, v) :: rest => do return (key, ← valueOfJson? v) :: (← entriesOfJson? rest)

/-- The data of an object that may have none. -/
def dataOfJson? : Option Json → Option (List (String × List UInt8))
  | none => some []
  | some .null => some []
  | some (.object fields) => entriesOfJson? fields
  | some _ => none

/-- Whether a field is absent or has a value. -/
def hasOnly (fields : List (String × Json)) (name value : String) : Bool :=
  match fields.lookup name with
  | none => true
  | some (.string s) => s = value
  | some _ => false

/-- A secret from its JSON form. -/
def ofJson? : Json → Option SecretData
  | .object fields =>
    if hasOnly fields "apiVersion" "v1" && hasOnly fields "kind" "Secret" then do
      if let some metadata := fields.lookup "metadata" then
        let _ ← Metadata.ofJson? metadata
      return ⟨← dataOfJson? (fields.lookup "data")⟩
    else none
  | _ => none

/-- The value of a key; the last one wins where there are several. -/
def get? (d : SecretData) (key : String) : Option (List UInt8) := d.entries.reverse.lookup key

end SecretData

namespace Api

/-- The address of the secrets of a namespace. -/
def secretsAddress (space : String) : String := s!"/api/v1/namespaces/{space}/secrets"

/-- Goes on without an object that the cluster says it does not have. -/
def orAbsent {α : Type} (a : Api α) : Api (Option α) :=
  ExceptT.mk do
    match ← a.run with
    | .ok x => return .ok (some x)
    | .error (.refused r) =>
      return if r.reason = "NotFound" then .ok none else .error (.refused r)
    | .error e => return .error e

/-- A secret, if there is one of the name. -/
def getSecret? (k : SecretKey) : Api (Option SecretData) := do
  let address ← objectAddress (secretsAddress k.inNamespace) k.name
  orAbsent (exchange SecretData.ofJson? { method := .get, address })

/-- The value of a key, or nothing where the secret or the key does not exist. -/
def readSecret (k : SecretKey) : Api (Option String) := do
  match (← getSecret? k).bind (·.get? k.key) with
  | none => return none
  | some bytes =>
    match Text.ofBytes? bytes with
    | some s => return some s
    | none => throw (.notText k)

/-- Writes the value of a key, into a new secret where there is none. -/
def writeSecret (k : SecretKey) (value : String) : Api Unit := do
  let data : String × Json := ("stringData", .ofFields [(k.key, .string value)])
  match ← getSecret? k with
  | none =>
    let metadata := Json.ofFields [("name", .string k.name), ("namespace", .string k.inNamespace)]
    let _ ← exchange SecretData.ofJson? {
      method := .post
      address := s!"{secretsAddress k.inNamespace}?"
      body := some (.ofFields [("apiVersion", .string "v1"), ("kind", .string "Secret"),
        ("metadata", metadata), data]) }
    return ()
  | some _ =>
    let address ← objectAddress (secretsAddress k.inNamespace) k.name
    let _ ← exchange SecretData.ofJson? {
      method := .merge
      address := s!"{address}?&fieldManager={fieldManager}"
      body := some (.ofFields [data]) }
    return ()

end Api

end HttpResource
