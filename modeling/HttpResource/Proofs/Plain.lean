/-
# Templates of plain text

A template without delimiters is its own text. A request all of whose templates are plain is therefore
always rendered, whatever the payload, the last response and the secrets are, and no secret is read for
it; all that can be wrong with it is its address.

Key definitions: `Headers.IsPlain`, `Mapping.IsPlain`, `Mapping.plainRequest`.
Key theorems: `Rendering.renderText_plain`, `renderRequest_plain`.
-/
import HttpResource.Proofs.Fields
import HttpResource.Proofs.Trace

namespace HttpResource

/-! ### Entries of a union -/

section

variable {β : Type} {P : String × β → Prop}

/-- What holds of all entries of two tables holds of all entries of their union. -/
theorem Table.forall_union {t u : Table β} (ht : ∀ e ∈ t.entries, P e) (hu : ∀ e ∈ u.entries, P e) :
    ∀ e ∈ (t.union u).entries, P e := by
  unfold union
  generalize u.entries = entries at hu
  induction entries generalizing t with
  | nil => exact ht
  | cons first rest ih =>
    obtain ⟨hfirst, hrest⟩ := List.forall_mem_cons.mp hu
    exact ih (forall_insertEntry hfirst t.entries ht) hrest

end

/-! ### Plain templates -/

/-- The templates of all values are plain. -/
def Headers.IsPlain (t : Headers) : Prop :=
  ∀ e ∈ t.entries, ∀ template ∈ e.2, Template.isTemplate template = false

theorem Headers.IsPlain.union {t u : Headers} (ht : Headers.IsPlain t) (hu : Headers.IsPlain u) :
    Headers.IsPlain (t.union u) := Table.forall_union ht hu

namespace Mapping

/-- All templates of the request are plain. -/
structure IsPlain (m : Mapping) : Prop where
  url : Template.isTemplate m.url = false
  body : ∀ template, m.body = some template → Template.isTemplate template = false
  headers : Headers.IsPlain m.headers

/-- The request of plain templates. -/
def plainRequest (spec : Spec) (action : Action) (m : Mapping) : RequestDetails where
  action := some action
  method := m.method.map Char.toUpper
  url := m.url
  body := m.body.getD ""
  headers := .ofList (spec.headers.union m.headers).entries

end Mapping

namespace Rendering

variable [Template.Engine] (spec : Spec) (status : Status)

theorem renderText_plain {template : String} (h : Template.isTemplate template = false) :
    renderText spec status template = pure template := by
  unfold renderText
  simp [h]

theorem renderEach_plain : ∀ templates : List String,
    (∀ template ∈ templates, Template.isTemplate template = false) →
      renderEach spec status templates = pure templates
  | [], _ => rfl
  | template :: rest, h => by
    unfold renderEach
    rw [renderText_plain spec status (h template List.mem_cons_self),
      renderEach_plain rest fun t ht => h t (List.mem_cons_of_mem _ ht)]
    simp

theorem renderHeaders_plain : ∀ headers : List (String × List String),
    (∀ e ∈ headers, ∀ template ∈ e.2, Template.isTemplate template = false) →
      renderHeaders spec status headers = pure headers
  | [], _ => rfl
  | (name, templates) :: rest, h => by
    unfold renderHeaders
    rw [renderEach_plain spec status templates (h (name, templates) List.mem_cons_self),
      renderHeaders_plain rest fun e he => h e (List.mem_cons_of_mem _ he)]
    simp

theorem request_plain [Url.Reader] (action : Action) {m : Mapping} (hm : m.IsPlain)
    (hdefaults : Headers.IsPlain spec.headers) :
    request spec status action m =
      match checkUrl m.url with
      | .error e => throw e
      | .ok () => pure (m.plainRequest spec action) := by
  unfold request Mapping.plainRequest
  rw [renderText_plain spec status hm.url,
    renderHeaders_plain spec status _ (hdefaults.union hm.headers)]
  simp only [pure_bind]
  cases checkUrl m.url with
  | error e => rfl
  | ok _ =>
    cases hbody : m.body with
    | none => simp
    | some template =>
      simp only [renderText_plain spec status (hm.body template hbody)]
      simp

end Rendering

/-- **A request of plain templates is rendered as it stands** if its address is valid, and nothing is done
for it. -/
theorem renderRequest_plain [Template.Engine] [Url.Reader] (spec : Spec) (status : Status)
    (action : Action) {m : Mapping} (hm : m.IsPlain) (hdefaults : Headers.IsPlain spec.headers) (w : World) :
    renderRequest spec status action m w =
      ((checkUrl m.url).map fun _ => m.plainRequest spec action, w) := by
  unfold renderRequest
  rw [Rendering.request_plain spec status action hm hdefaults]
  cases checkUrl m.url <;> rfl

end HttpResource
