/-
# Managed resources of the cluster and of a namespace

A managed resource may belong to the whole cluster or to a namespace. Its namespace stands in for the
one that a secret leaves open, and has no other use. So where every secret names its namespace the two
kinds are the same: one declaration is valid for both or for neither, and every call does and reports
the same for both (`ManagedDeclaration.scope_irrelevant`).

Key definitions: `ManagedDeclaration.templates`, `ManagedDeclaration.NamesSpaces`.
Key theorems: `ManagedDeclaration.spec_inSpace`, `Call.perform_inSpace`,
`ManagedDeclaration.scope_irrelevant`.
-/
import HttpResource.Resource
import HttpResource.Template
import HttpResource.Url
import HttpResource.Proofs.References
import HttpResource.Proofs.Turn

namespace HttpResource

/-! ### Declarations -/

namespace ManagedDeclaration

/-- All templates of a declaration. -/
def templates (d : ManagedDeclaration) : List String :=
  Headers.templates d.headers ++ d.mappings.flatMap Mapping.templates

/-- Every secret that the declaration writes or reads comes with its namespace. -/
structure NamesSpaces (d : ManagedDeclaration) : Prop where
  injections : ∀ i ∈ d.injections, i.target.inNamespace.isSome = true
  references : ∀ template ∈ d.templates, ∀ r ∈ SecretRef.foundIn template, r.inNamespace.isSome = true

instance (d : ManagedDeclaration) : Decidable d.NamesSpaces :=
  decidable_of_iff
    ((∀ i ∈ d.injections, i.target.inNamespace.isSome = true) ∧
      ∀ template ∈ d.templates, ∀ r ∈ SecretRef.foundIn template, r.inNamespace.isSome = true)
    ⟨fun h => ⟨h.1, h.2⟩, fun h => ⟨h.injections, h.references⟩⟩

end ManagedDeclaration

/-- The default namespace is not looked at where none is left open. -/
theorem resolveInjections_of_named (default : Option String) : ∀ injections : List InjectionDeclaration,
    (∀ i ∈ injections, i.target.inNamespace.isSome = true) →
      resolveInjections default injections = resolveInjections none injections
  | [], _ => rfl
  | i :: rest, h => by
    obtain ⟨hfirst, hrest⟩ := List.forall_mem_cons.mp h
    obtain ⟨space, hspace⟩ := Option.isSome_iff_exists.mp hfirst
    unfold resolveInjections
    rw [hspace, resolveInjections_of_named default rest hrest]
    rfl

/-- The specification of a resource in a namespace. -/
def Spec.inSpace (s : Spec) (space : Option String) : Spec := { s with secretNamespace := space }

namespace ManagedDeclaration

theorem spec_templates {d : ManagedDeclaration} {space : Option String}
    {defaultTimeout : Duration} {s : Spec} (h : d.spec space defaultTimeout = .ok s) :
    s.mappings = d.mappings ∧ s.headers = d.headers := by
  unfold spec at h
  obtain ⟨expected, -, h⟩ := Except.bind_eq_ok_iff.mp h
  obtain ⟨removed, -, h⟩ := Except.bind_eq_ok_iff.mp h
  obtain ⟨injections, -, h⟩ := Except.bind_eq_ok_iff.mp h
  obtain ⟨waitTimeout, -, h⟩ := Except.bind_eq_ok_iff.mp h
  obtain ⟨nextReconcile, -, h⟩ := Except.bind_eq_ok_iff.mp h
  cases h
  exact ⟨rfl, rfl⟩

/-- A declaration that names all namespaces is valid in any of them or in none. -/
theorem spec_inSpace {d : ManagedDeclaration} (h : d.NamesSpaces) (space : Option String)
    (defaultTimeout : Duration) : d.spec space defaultTimeout =
    (d.spec none defaultTimeout).map (Spec.inSpace · space) := by
  unfold spec
  rw [resolveInjections_of_named space d.injections h.injections]
  rcases Check.ofDeclaration "expectedResponseCheck" .success d.expectedResponseCheck with e | expected
  · rfl
  rcases Check.ofDeclaration "isRemovedCheck" .notFound d.isRemovedCheck with e | removed
  · rfl
  rcases resolveInjections none d.injections with e | injections
  · rfl
  rcases resolveTimeout defaultTimeout d.waitTimeout with e | waitTimeout
  · rfl
  rcases resolveInterval d.nextReconcile with e | nextReconcile
  · rfl
  rfl

end ManagedDeclaration

/-! ### Calls -/

theorem Spec.mem_of_mapping? {mappings : List Mapping} {action : Action} {m : Mapping}
    (h : mapping? mappings action = some m) : m ∈ mappings := by
  unfold mapping? at h
  split at h
  · rename_i m' hfound
    cases h
    exact List.mem_of_find?_eq_some hfound
  · exact List.mem_of_find?_eq_some h

section

variable {s : Spec} (space : Option String)

theorem SecretRef.spaceIn_inSpace {r : SecretRef} (h : r.inNamespace.isSome = true) :
    r.spaceIn s = r.spaceIn (s.inSpace space) := by
  obtain ⟨named, hnamed⟩ := Option.isSome_iff_exists.mp h
  simp [spaceIn, hnamed]

/-- A call does not look at the namespace of the specification if every reference that its templates may
hold names one. -/
theorem Call.perform_inSpace [Template.Engine] [Url.Reader]
    (hnamed : ∀ m ∈ s.mappings, ∀ template ∈ m.templatesWith s.headers,
      ∀ r ∈ SecretRef.foundIn template, r.inNamespace.isSome = true)
    (policy : RetryPolicy) (status : Status) (time : Timestamp) (c : Call) (w : World) :
    c.perform policy (s.inSpace space) status time w = c.perform policy s status time w := by
  rw [Call.perform_eq, Call.perform_eq,
    show c.plan policy (s.inSpace space) status = c.plan policy s status from rfl]
  cases hplan : c.plan policy s status with
  | ends r => rfl
  | attempts m =>
    have hm := Spec.mem_of_mapping? (plan_attempts hplan).1
    have hrenders : Spec.RendersAs (m.templatesWith s.headers) s (s.inSpace space) :=
      ⟨⟨rfl, rfl, fun template ht r hr =>
        SecretRef.spaceIn_inSpace space (hnamed m hm template ht r hr)⟩, rfl⟩
    simp only
    rw [← attempt_congr hrenders status c.action rfl]
    rfl

end

/-! ### The two kinds -/

namespace ManagedDeclaration

/-- **Where all secrets name their namespaces, it makes no difference whether a managed resource belongs to
the cluster or to a namespace.** The declaration is refused for the same reason, or every call reports
and does the same. -/
theorem scope_irrelevant [Template.Engine] [Url.Reader] {d : ManagedDeclaration} (h : d.NamesSpaces)
    (wide confined : Metadata) (stored : Option Status) (defaultTimeout : Duration) :
    let r : Resource := ⟨wide, .request d, stored⟩
    let r' : Resource := ⟨confined, .namespacedRequest d, stored⟩
    (∃ e, r.spec defaultTimeout = .error e ∧ r'.spec defaultTimeout = .error e) ∨
      ∃ s s', r.spec defaultTimeout = .ok s ∧ r'.spec defaultTimeout = .ok s' ∧
        ∀ (policy : RetryPolicy) (status : Status) (time : Timestamp) (c : Call) (w : World),
          c.perform policy s status time w = c.perform policy s' status time w := by
  intro r r'
  have hspec : r'.spec defaultTimeout =
      (r.spec defaultTimeout).map (Spec.inSpace · confined.inNamespace) :=
    spec_inSpace h confined.inNamespace defaultTimeout
  cases hwide : r.spec defaultTimeout with
  | error e => exact .inl ⟨e, rfl, by rw [hspec, hwide]; rfl⟩
  | ok s =>
    obtain ⟨hmappings, hheaders⟩ := spec_templates hwide
    have hnamed : ∀ m ∈ s.mappings, ∀ template ∈ m.templatesWith s.headers,
        ∀ ref ∈ SecretRef.foundIn template, ref.inNamespace.isSome = true := by
      intro m hm template ht
      refine h.references template (List.mem_append.mpr ?_)
      rw [hheaders] at ht
      rw [hmappings] at hm
      exact (Mapping.templatesWith_subset ht).imp id fun ht => List.mem_flatMap.mpr ⟨m, hm, ht⟩
    refine .inr ⟨s, s.inSpace confined.inNamespace, rfl, by rw [hspec, hwide]; rfl, ?_⟩
    intro policy status time c w
    exact (Call.perform_inSpace confined.inNamespace hnamed policy status time c w).symm

/-- An item whose token is kept in a vault, where its identifier is to be put as well. -/
def vaultedItem : ManagedDeclaration where
  mappings := [{ action := some .observe, method := "GET", url := "http://store/items/1" }]
  headers := .ofList [("Authorization", ["Bearer $\x7bsecret.vault/store.token\x7d"])]
  injections :=
    [{ target := { name := "items", inNamespace := some "vault" }, key := "id", responsePath := ".body.id" }]

/-- It is read in the same way as an item of the cluster and as one of the shop. -/
theorem vaultedItem_anywhere :
    vaultedItem.NamesSpaces ∧
      ∃ s s', Resource.spec ⟨{}, .request vaultedItem, none⟩ (.ofSeconds 30) = .ok s ∧
        Resource.spec ⟨{ inNamespace := some "shop" }, .namespacedRequest vaultedItem, none⟩
          (.ofSeconds 30) = .ok s' ∧
        s ≠ s' ∧
        ∀ (policy : RetryPolicy) (status : Status) (time : Timestamp) (c : Call) (w : World),
          c.perform policy s status time w = c.perform policy s' status time w := by
  have hnames : vaultedItem.NamesSpaces := by decide +kernel
  refine ⟨hnames, ?_⟩
  rcases scope_irrelevant hnames {} { inNamespace := some "shop" } none (.ofSeconds 30) with
    ⟨e, hwide, -⟩ | ⟨s, s', hwide, hconfined, hsame⟩
  · cases hwide
  · refine ⟨s, s', hwide, hconfined, ?_, hsame⟩
    cases hwide
    cases hconfined
    decide +kernel

end ManagedDeclaration

end HttpResource
