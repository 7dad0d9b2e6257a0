/-
# What a request takes from its specification

A request is made of its templates, and these take from the specification the payload, the default headers
and the values of secrets. The namespace of the specification matters for a reference only if that names
none itself. So two specifications that agree on the rest, and in which the references of the templates
mean the same secrets, make the same request by the same accesses (`renderRequest_congr`).

Key definitions: `SecretRef.foundIn`, `Mapping.templatesWith`, `Spec.TextsAs`, `Spec.RendersAs`.
Key theorems: `Rendering.renderText_congr`, `renderRequest_congr`, `attempt_congr`.
-/
import HttpResource.Proofs.Plain
import HttpResource.Reconcile

namespace HttpResource

/-- The references in a template. One with a malformed reference is not looked at any further. -/
def SecretRef.foundIn (template : String) : List SecretRef :=
  match extract template with
  | .ok (_, refs) => refs
  | .error _ => []

/-- The namespace of the secret that a reference means. -/
def SecretRef.spaceIn (spec : Spec) (r : SecretRef) : Option String :=
  r.inNamespace.or spec.secretNamespace

/-- The templates of all values. -/
def Headers.templates (t : Headers) : List String := t.entries.flatMap (·.2)

/-- The templates of a mapping itself. -/
def Mapping.templates (m : Mapping) : List String :=
  m.url :: (m.body.toList ++ Headers.templates m.headers)

/-- The templates that a request is made of, with those default headers that the mapping does not replace. -/
def Mapping.templatesWith (defaults : Headers) (m : Mapping) : List String :=
  m.url :: (m.body.toList ++ Headers.templates (defaults.union m.headers))

theorem Mapping.templatesWith_subset {defaults : Headers} {m : Mapping} {template : String}
    (h : template ∈ m.templatesWith defaults) :
    template ∈ Headers.templates defaults ∨ template ∈ m.templates := by
  have hunion : ∀ e ∈ (defaults.union m.headers).entries, ∀ t ∈ e.2,
      t ∈ Headers.templates defaults ∨ t ∈ m.templates := by
    refine Table.forall_union (fun e he t ht => .inl ?_) (fun e he t ht => .inr ?_)
    · exact List.mem_flatMap.mpr ⟨e, he, ht⟩
    · exact List.mem_cons_of_mem _ (List.mem_append_right _ (List.mem_flatMap.mpr ⟨e, he, ht⟩))
  unfold templatesWith at h
  rcases List.mem_cons.mp h with rfl | h
  · exact .inr List.mem_cons_self
  · rcases List.mem_append.mp h with h | h
    · exact .inr (List.mem_cons_of_mem _ (List.mem_append_left _ h))
    · obtain ⟨e, he, ht⟩ := List.mem_flatMap.mp h
      exact hunion e he template ht

/-- Two specifications give the same texts for some templates, whatever their default headers are: they
agree on what texts take from them, and the references mean the same secrets in both. -/
structure Spec.TextsAs (templates : List String) (s s' : Spec) : Prop where
  payload : s.payload = s'.payload
  waitTimeout : s.waitTimeout = s'.waitTimeout
  spaces : ∀ template ∈ templates, ∀ r ∈ SecretRef.foundIn template, r.spaceIn s = r.spaceIn s'

/-- Two specifications make the same of some templates: they give the same texts, and have the same default
headers. -/
structure Spec.RendersAs (templates : List String) (s s' : Spec) : Prop
    extends Spec.TextsAs templates s s' where
  headers : s.headers = s'.headers

namespace Rendering

variable {templates : List String} {s s' : Spec} (h : Spec.TextsAs templates s s')

include h

theorem resolve_congr {r : SecretRef} (hspace : r.spaceIn s = r.spaceIn s') :
    resolve s r = resolve s' r := by
  unfold SecretRef.spaceIn at hspace
  unfold resolve
  rw [hspace, h.waitTimeout]

theorem resolveAll_congr : ∀ (index : Nat) (refs : List SecretRef),
    (∀ r ∈ refs, r.spaceIn s = r.spaceIn s') → resolveAll s index refs = resolveAll s' index refs
  | _, [], _ => rfl
  | index, r :: rest, hspaces => by
    obtain ⟨hspace, hrest⟩ := List.forall_mem_cons.mp hspaces
    unfold resolveAll
    rw [resolve_congr h hspace, resolveAll_congr (index + 1) rest hrest]

variable [Template.Engine] (status : Status)

theorem renderText_congr {template : String} (ht : template ∈ templates) :
    renderText s status template = renderText s' status template := by
  have hspaces := h.spaces template ht
  unfold SecretRef.foundIn at hspaces
  unfold renderText
  cases hextract : SecretRef.extract template with
  | error token => rfl
  | ok found =>
    obtain ⟨rewritten, refs⟩ := found
    rw [hextract] at hspaces
    simp only
    rw [resolveAll_congr h 0 refs hspaces, h.payload]

theorem renderEach_congr : ∀ ts : List String, (∀ t ∈ ts, t ∈ templates) →
    renderEach s status ts = renderEach s' status ts
  | [], _ => rfl
  | template :: rest, hts => by
    obtain ⟨ht, hrest⟩ := List.forall_mem_cons.mp hts
    unfold renderEach
    rw [renderText_congr h status ht, renderEach_congr rest hrest]

theorem renderHeaders_congr : ∀ headers : List (String × List String),
    (∀ e ∈ headers, ∀ t ∈ e.2, t ∈ templates) →
      renderHeaders s status headers = renderHeaders s' status headers
  | [], _ => rfl
  | (name, values) :: rest, hts => by
    obtain ⟨hvalues, hrest⟩ := List.forall_mem_cons.mp hts
    unfold renderHeaders
    rw [renderEach_congr h status values hvalues, renderHeaders_congr rest hrest]

end Rendering

section

variable [Template.Engine] [Url.Reader] {m : Mapping} {s s' : Spec}

/-- Two specifications that give the same texts make the same request of a mapping if its headers merged
with theirs are the same. -/
theorem renderRequest_of_textsAs (h : Spec.TextsAs (m.templatesWith s.headers) s s')
    (hheaders : s.headers.union m.headers = s'.headers.union m.headers) (status : Status)
    (action : Action) :
    renderRequest s status action m = renderRequest s' status action m := by
  have hurl : m.url ∈ m.templatesWith s.headers := List.mem_cons_self
  have hbody : ∀ template, m.body = some template → template ∈ m.templatesWith s.headers := by
    intro template hbody
    simp [Mapping.templatesWith, hbody]
  have hvalues : ∀ e ∈ (s.headers.union m.headers).entries, ∀ t ∈ e.2, t ∈ m.templatesWith s.headers := by
    intro e he t ht
    refine List.mem_cons_of_mem _ (List.mem_append_right _ ?_)
    exact List.mem_flatMap.mpr ⟨e, he, ht⟩
  have hrequest : Rendering.request s status action m = Rendering.request s' status action m := by
    unfold Rendering.request
    rw [Rendering.renderText_congr h status hurl, Rendering.renderHeaders_congr h status _ hvalues,
      hheaders]
    cases hm : m.body with
    | none => rfl
    | some template =>
      simp only
      rw [Rendering.renderText_congr h status (hbody template hm)]
  unfold renderRequest
  rw [hrequest]

variable (h : Spec.RendersAs (m.templatesWith s.headers) s s') (status : Status) (action : Action)

include h

/-- **Two specifications that make the same of the templates make the same request of them**, and access
the same secrets for it. -/
theorem renderRequest_congr : renderRequest s status action m = renderRequest s' status action m :=
  renderRequest_of_textsAs h.toTextsAs (congrArg (Table.union · m.headers) h.headers) status action

theorem attempt_congr (hinsecure : s.insecureSkipTlsVerify = s'.insecureSkipTlsVerify) :
    attempt s status action m = attempt s' status action m := by
  unfold attempt
  rw [renderRequest_congr h, h.waitTimeout, hinsecure]

end

end HttpResource
