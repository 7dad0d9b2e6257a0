/-
# Rendering of requests

A request template and a specification give a request. References to secrets are resolved through the
secret store, each key at most once; then address, body and headers are rendered, in that order, and
the first failure ends it. The engine for templates and the reader of addresses are parameters.

* `renderRequest`: the request, or why there is none.
* `checkUrl`: what is wrong with an address.
-/
import HttpResource.SecretRef
import HttpResource.Spec
import HttpResource.Template.Engine
import HttpResource.Url.Reader
import HttpResource.World

namespace HttpResource

/-- Why no request can be made of a template. -/
inductive RenderError
  | template (e : Template.Error)
  | invalidSecretRef (token : String)
  | noNamespace (name key : String)
  | missingSecret (key : SecretKey)
  | secretLookup (e : StoreError)
  | malformedUrl (url reason : String)
  | unsupportedScheme (url scheme : String)
deriving Repr

namespace RenderError

def message : RenderError → String
  | template e => s!"template render error: {e.message}"
  | invalidSecretRef token => s!"invalid secret reference: {token}"
  | noNamespace name key =>
    s!"invalid secret reference: secret.{name}.{key} must name a namespace (secret.NAMESPACE/NAME.KEY)"
  | missingSecret k => s!"secret {k.inNamespace}/{k.name} has no key '{k.key}'"
  | secretLookup e => s!"secret lookup failed: {e.message}"
  | malformedUrl url reason => s!"invalid URL '{url}': {reason}"
  | unsupportedScheme url scheme => s!"invalid URL '{url}': unsupported scheme '{scheme}'"

end RenderError

/-- Refuses all but absolute addresses of the two schemes. -/
def checkUrl [Url.Reader] (url : String) : Except RenderError Unit :=
  match Url.Reader.scheme url with
  | .error reason => .error (.malformedUrl url reason)
  | .ok scheme =>
    if scheme = "http" || scheme = "https" then .ok ()
    else .error (.unsupportedScheme url scheme)

/-- What a rendering knows: the world and the secrets that it has read. -/
structure RenderSession where
  world : World
  resolved : List (SecretKey × String) := []

/-- A step of a rendering. -/
abbrev Rendering := ExceptT RenderError (StateM RenderSession)

namespace Rendering

/-- Something done in the world. -/
def act {α : Type} (a : Act α) : Rendering α :=
  ExceptT.mk fun s =>
    let (x, world) := a s.world
    (.ok x, { s with world })

/-- Keeps the value of a secret. -/
def remember (k : SecretKey) (value : String) : Rendering Unit :=
  ExceptT.mk fun s => (.ok (), { s with resolved := (k, value) :: s.resolved })

/-- The value of a secret, if it has been read. -/
def recalled (k : SecretKey) : Rendering (Option String) :=
  ExceptT.mk fun s => (.ok (s.resolved.lookup k), s)

/-- The value of a secret that has not been read yet. -/
def readSecret (deadline : Duration) (k : SecretKey) : Rendering String := do
  match ← act (World.readSecret deadline k) with
  | .error e => throw (.secretLookup e)
  | .ok none => throw (.missingSecret k)
  | .ok (some value) =>
    remember k value
    return value

/-- The value that a reference stands for. -/
def resolve (spec : Spec) (r : SecretRef) : Rendering String := do
  match r.inNamespace.or spec.secretNamespace with
  | none => throw (.noNamespace r.name r.key)
  | some space =>
    let k : SecretKey := ⟨space, r.name, r.key⟩
    match ← recalled k with
    | some value => return value
    | none => readSecret spec.waitTimeout k

/-- The values of references by their aliases, counted from an index. -/
def resolveAll (spec : Spec) (index : Nat) : List SecretRef → Rendering (List (String × String))
  | [] => return []
  | r :: rest => do
    let value ← resolve spec r
    return (SecretRef.aliasOf index, value) :: (← resolveAll spec (index + 1) rest)

section

variable [Template.Engine]

/-- The text of one template. A text without delimiters is returned as it is. -/
def renderText (spec : Spec) (status : Status) (template : String) : Rendering String := do
  if !Template.isTemplate template then return template
  match SecretRef.extract template with
  | .error token => throw (.invalidSecretRef token)
  | .ok (rewritten, refs) =>
    let secrets ← resolveAll spec 0 refs
    let context := Template.context spec.payload status.cache.response (.ofList secrets)
    match Template.render context rewritten with
    | .ok s => return s
    | .error e => throw (.template e)

def renderEach (spec : Spec) (status : Status) : List String → Rendering (List String)
  | [] => return []
  | template :: rest => do
    return (← renderText spec status template) :: (← renderEach spec status rest)

def renderHeaders (spec : Spec) (status : Status) :
    List (String × List String) → Rendering (List (String × List String))
  | [] => return []
  | (name, templates) :: rest => do
    return (name, ← renderEach spec status templates) :: (← renderHeaders spec status rest)

/-- The request of a template. The template's headers replace those of the specification that have the
same name. -/
def request [Url.Reader] (spec : Spec) (status : Status) (action : Action) (m : Mapping) :
    Rendering RequestDetails := do
  let url ← renderText spec status m.url
  match checkUrl url with
  | .error e => throw e
  | .ok () =>
    let body ← match m.body with
      | some template => renderText spec status template
      | none => pure ""
    let headers ← renderHeaders spec status (spec.headers.union m.headers).entries
    return {
      action := some action, method := m.method.map Char.toUpper, url, body
      headers := .ofList headers }

end

end Rendering

/-- The request of a template for an action. -/
def renderRequest [Template.Engine] [Url.Reader] (spec : Spec) (status : Status) (action : Action)
    (m : Mapping) : Act (Except RenderError RequestDetails) := fun w =>
  let (result, session) := (Rendering.request spec status action m).run ⟨w, []⟩
  (result, session.world)

end HttpResource
