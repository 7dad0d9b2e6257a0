/-
# Watching resources

A watch lists all resources of a kind, page by page, and then follows their changes from the version of
the list on. After a failure it goes on, from the start where the version is not known or has expired.

* `Watch.events`: what a watch reports, for a list of replies.
* `Watch.passed`: the reports to act on.
-/
import HttpResource.Cluster.Object
import HttpResource.Text.Split
import HttpResource.Watch

namespace HttpResource

namespace Watch

/-- A resource with the version of the cluster that it belongs to. -/
structure Versioned where
  resource : Resource
  version : String

/-- The field of an object as a text, empty where there is none. -/
def versionOf (v : Json) : Option String :=
  match (v.field? "metadata").bind (Json.field? "resourceVersion") with
  | none => some ""
  | some .null => some ""
  | some (.string s) => some s
  | some _ => none

def Versioned.ofJson? (kind : ResourceKind) (v : Json) : Option Versioned := do
  return ⟨← Resource.ofJson? kind v, ← versionOf v⟩

/-! ### Lists -/

/-- A page of a list. -/
structure Page where
  items : List Versioned
  version : String
  /-- What to ask for the next page with. -/
  continuation : String

def itemsOf (kind : ResourceKind) : Option Json → Option (List Versioned)
  | some (.array items) => items.mapM (Versioned.ofJson? kind)
  | some .null => some []
  | _ => none

def continuationOf (v : Json) : Option String :=
  match (v.field? "metadata").bind (Json.field? "continue") with
  | none => some ""
  | some .null => some ""
  | some (.string s) => some s
  | some _ => none

def Page.ofJson? (kind : ResourceKind) (v : Json) : Option Page := do
  return {
    items := ← itemsOf kind (v.field? "items")
    version := ← versionOf v
    continuation := ← continuationOf v }

/-! ### Changes -/

/-- A line of a stream of changes. -/
inductive Change
  | applied (r : Versioned)
  | deleted (r : Versioned)
  /-- Nothing has changed up to a version. -/
  | bookmark
  /-- The stream reports an error. -/
  | failure (r : Refusal)
  /-- The line makes no sense. -/
  | unreadable

def Change.ofParts? (kind : ResourceKind) (type : String) (v : Json) : Option Change :=
  match type with
  | "ADDED" => (Versioned.ofJson? kind v).map .applied
  | "MODIFIED" => (Versioned.ofJson? kind v).map .applied
  | "DELETED" => (Versioned.ofJson? kind v).map .deleted
  | "BOOKMARK" => (versionOf v).bind fun version => if version.isEmpty then none else some .bookmark
  | "ERROR" => (Refusal.ofJson? v).map .failure
  | _ => none

def Change.ofLine (kind : ResourceKind) (line : String) : Change :=
  (do
    let v ← Json.document? line
    match v.field? "type", v.field? "object" with
    | some (.string type), some object => Change.ofParts? kind type object
    | _, _ => none).getD .unreadable

/-! ### Watching -/

/-- Where a watch stands. -/
inductive Phase
  | listing
  | following
deriving DecidableEq, Repr

/-- A report on a resource. -/
def report (r : Versioned) : WatchEvent Resource :=
  .object ⟨r.resource.metadata.name.getD "", r.resource.metadata.inNamespace⟩
    r.resource.metadata.generation r.resource

/-- What the lines of a stream report, and where the watch stands after them. -/
def follow : List Change → List (WatchEvent Resource) × Phase
  | [] => ([], .following)
  | .applied r :: rest =>
    if r.version.isEmpty then ([.failure], .listing)
    else
      let (events, phase) := follow rest
      (report r :: events, phase)
  | .deleted r :: rest => if r.version.isEmpty then ([.failure], .listing) else follow rest
  | .bookmark :: rest => follow rest
  | .failure r :: _ => ([.failure], if r.code = 410 then .listing else .following)
  | .unreadable :: rest =>
    let (events, phase) := follow rest
    (.failure :: events, phase)

/-- What a page of a list reports, and where the watch stands after it. -/
def turnPage : Except ApiError Page → List (WatchEvent Resource) × Phase
  | .error _ => ([.failure], .listing)
  | .ok page =>
    if page.version.isEmpty && page.continuation.isEmpty then ([.failure], .listing)
    else
      (page.items.map report, if page.continuation.isEmpty then .following else .listing)

/-- The lines of a text that are not empty. -/
def linesOf (s : String) : List String :=
  ((Text.splitAll '\n' s.toList).filter (!·.isEmpty)).map String.ofList

/-- What one reply reports. -/
def step (kind : ResourceKind) (phase : Phase) (r : ApiReply) : List (WatchEvent Resource) × Phase :=
  match phase with
  | .listing => turnPage (r.read (Page.ofJson? kind))
  | .following => follow ((linesOf r.body).map (Change.ofLine kind))

/-- What a watch reports for replies. -/
def eventsFrom (kind : ResourceKind) (phase : Phase) : List ApiReply → List (WatchEvent Resource)
  | [] => []
  | reply :: rest =>
    let (events, phase) := step kind phase reply
    events ++ eventsFrom kind phase rest

def events (kind : ResourceKind) (replies : List ApiReply) : List (WatchEvent Resource) :=
  eventsFrom kind .listing replies

/-- The first reports to act on. After the last reply there are only failures. -/
def passed (kind : ResourceKind) (count : Nat) (replies : List ApiReply) :
    List (WatchEvent Resource) :=
  (specChanges (events kind replies) ++ List.replicate count WatchEvent.failure).take count

end Watch

end HttpResource
