/-
# Response fields in secrets

Values of a response are copied into secret keys. This is done as far as it goes: a field that is not
there and a store that does not answer change nothing else, and no error leaves this module.

* `inject`: all copies of a specification.
* `secretText`: the text that a secret keeps of a value.
-/
import HttpResource.Json.Printer
import HttpResource.Spec
import HttpResource.World

namespace HttpResource

/-- Strings as they are, and all else as JSON. -/
def secretText : Json → String
  | .string s => s
  | v => v.text

/-- The text to be copied, if the response has one at the path. -/
def Injection.text? (i : Injection) (response : Response) : Option String :=
  match Predicate.extract i.responsePath response.context with
  | .ok v => v.map secretText
  | .error _ => none

/-- The key that takes the text. -/
def Injection.target (i : Injection) : SecretKey := ⟨i.inNamespace, i.name, i.key⟩

/-- Writes a secret that has another value, or none. A key that cannot be read is not written. -/
def writeChanged (deadline : Duration) (k : SecretKey) (value : String) : Act Unit := do
  match ← World.readSecret deadline k with
  | .error _ => return ()
  | .ok current =>
    if current = some value then return ()
    let _ ← World.writeSecret deadline k value
    return ()

def injectOne (deadline : Duration) (response : Response) (i : Injection) : Act Unit :=
  match i.text? response with
  | none => pure ()
  | some value => writeChanged deadline i.target value

def injectAll (deadline : Duration) (response : Response) : List Injection → Act Unit
  | [] => pure ()
  | i :: rest => do
    injectOne deadline response i
    injectAll deadline response rest

/-- Copies the fields of a response. -/
def inject (deadline : Duration) (injections : List Injection) (response : Response) : Act Unit :=
  if response.statusCode = 0 then pure () else injectAll deadline response injections

end HttpResource
