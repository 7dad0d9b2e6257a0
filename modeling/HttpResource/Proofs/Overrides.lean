/-
# Headers of a request

The headers of a mapping are put over the default ones before anything is rendered. So a request has the
names of both, each with the values that the templates of the winning header give, in their order, and
what a default header would have been makes no difference where the mapping has the name
(`renderRequest_overrides`).

Key definitions: `Rendering.Yields`.
Key theorems: `Rendering.renderHeaders_eq_ok_iff`, `Rendering.headers_of_request`,
`renderRequest_overrides`.
-/
import HttpResource.Template
import HttpResource.Url
import HttpResource.Proofs.Reads

namespace HttpResource

/-! ### What templates give -/

namespace Rendering

section

variable [Template.Engine] (store : SecretStore) (spec : Spec) (status : Status)

/-- With these secrets the template gives this text. -/
def Yields (template text : String) : Prop :=
  (renderText spec status template).resultIn store = .ok text

theorem renderEach_eq_ok_iff : ∀ {templates texts : List String},
    (renderEach spec status templates).resultIn store = .ok texts ↔
      List.Forall₂ (Yields store spec status) templates texts
  | [], texts => by
    rw [List.forall₂_nil_left_iff]
    exact (Except.ok.injEq [] texts).to_iff.trans eq_comm
  | template :: rest, texts => by
    unfold renderEach
    rw [resultIn_both (renderText_reads spec status template) (renderEach_reads spec status rest),
      List.forall₂_cons_left_iff]
    refine exists₂_congr fun text texts => and_congr_right fun _ => and_congr_left fun _ => ?_
    exact renderEach_eq_ok_iff

theorem renderHeaders_eq_ok_iff : ∀ {headers sent : List (String × List String)},
    (renderHeaders spec status headers).resultIn store = .ok sent ↔
      Entrywise (List.Forall₂ (Yields store spec status)) headers sent
  | [], sent => by
    rw [Entrywise, List.forall₂_nil_left_iff]
    exact (Except.ok.injEq [] sent).to_iff.trans eq_comm
  | (name, templates) :: rest, sent => by
    unfold renderHeaders
    rw [resultIn_both (renderEach_reads spec status templates) (renderHeaders_reads spec status rest),
      Entrywise, List.forall₂_cons_left_iff]
    constructor
    · rintro ⟨texts, others, htexts, hothers, rfl⟩
      exact ⟨(name, texts), others, ⟨rfl, (renderEach_eq_ok_iff store spec status).mp htexts⟩,
        renderHeaders_eq_ok_iff.mp hothers, rfl⟩
    · rintro ⟨⟨_, texts⟩, others, ⟨rfl, htexts⟩, hothers, rfl⟩
      exact ⟨texts, others, (renderEach_eq_ok_iff store spec status).mpr htexts,
        renderHeaders_eq_ok_iff.mpr hothers, rfl⟩

end

section

variable [Template.Engine] [Url.Reader] {store : SecretStore} {spec : Spec} {status : Status}
  {action : Action} {m : Mapping}

/-- The headers of a request are what the templates of the merged headers give. -/
theorem headers_of_request {q : RequestDetails}
    (h : (request spec status action m).resultIn store = .ok q) :
    Entrywise (List.Forall₂ (Yields store spec status)) (spec.headers.union m.headers).entries
      q.headers.entries := by
  rw [resultIn_request] at h
  obtain ⟨url, -, h⟩ := Except.bind_eq_ok_iff.mp h
  obtain ⟨_, -, h⟩ := Except.bind_eq_ok_iff.mp h
  obtain ⟨body, -, h⟩ := Except.bind_eq_ok_iff.mp h
  obtain ⟨sent, hsent, h⟩ := Except.bind_eq_ok_iff.mp h
  obtain rfl := Except.ok.inj h
  have hyields := (renderHeaders_eq_ok_iff store spec status).mp hsent
  have hascending : Ascending sent := by
    unfold Ascending
    rw [← hyields.names_eq]
    exact (spec.headers.union m.headers).ascending
  rwa [Table.entries_ofList hascending]

/-- A name has the values that the templates of the winning header give. -/
theorem values_of_request {q : RequestDetails}
    (h : (request spec status action m).resultIn store = .ok q) {name : String} {templates : List String}
    (htemplates : m.header? spec.headers name = some templates) :
    ∃ values, q.headers.get? name = some values ∧
      List.Forall₂ (Yields store spec status) templates values := by
  have hlookup := (headers_of_request h).lookup name
  have hmerged : (spec.headers.union m.headers).entries.lookup name = some templates :=
    (Table.get?_union ..).trans htemplates
  rw [hmerged] at hlookup
  cases hvalues : q.headers.entries.lookup name with
  | none =>
    rw [hvalues] at hlookup
    cases hlookup
  | some values =>
    rw [hvalues] at hlookup
    cases hlookup with
    | some hyields => exact ⟨values, hvalues, hyields⟩

theorem mem_names_of_request {q : RequestDetails}
    (h : (request spec status action m).resultIn store = .ok q) {name : String} :
    name ∈ q.headers.names ↔ name ∈ spec.headers.names ∨ name ∈ m.headers.names := by
  have hnames : (spec.headers.union m.headers).names = q.headers.names :=
    (headers_of_request h).names_eq
  rw [← hnames, Table.mem_names_union_iff]

end

end Rendering

/-! ### Default headers of which the mapping has the name -/

/-- **A default header counts only where the mapping does not have its name.** A request has the names of
the mapping and of the defaults, each with what the templates of the winning header give, one value for
each of them; and with other defaults under names that the mapping has, the result and all that is done
are the same. -/
theorem renderRequest_overrides [Template.Engine] [Url.Reader] (spec : Spec) (status : Status)
    (action : Action) (m : Mapping) (w : World) :
    (∀ q, (renderRequest spec status action m w).1 = .ok q →
      (∀ name, name ∈ q.headers.names ↔ name ∈ spec.headers.names ∨ name ∈ m.headers.names) ∧
      ∀ name templates, m.header? spec.headers name = some templates →
        ∃ values, q.headers.get? name = some values ∧
          List.Forall₂ (Rendering.Yields w.secrets spec status) templates values) ∧
    ∀ defaults : Headers,
      (∀ name, name ∉ m.headers.names → defaults.get? name = spec.headers.get? name) →
        renderRequest { spec with headers := defaults } status action m w =
          renderRequest spec status action m w := by
  refine ⟨fun q hq => ?_, fun defaults hdefaults => ?_⟩
  · rw [renderRequest_result] at hq
    exact ⟨fun name => Rendering.mem_names_of_request hq,
      fun name templates htemplates => Rendering.values_of_request hq htemplates⟩
  · -- The merged headers are the same, and the defaults are looked at for nothing else.
    have hunion := Table.union_congr hdefaults
    have htexts : Spec.TextsAs (m.templatesWith defaults) { spec with headers := defaults } spec :=
      ⟨rfl, rfl, fun _ _ _ _ => rfl⟩
    exact congrFun (renderRequest_of_textsAs htexts hunion status action) w

/-- A specification with two default headers, one of which takes a secret. -/
def loginSpec : Spec where
  mappings := []
  payload := {}
  headers := .ofList [("Accept", ["text/plain", "text/html"]),
    ("Authorization", ["Bearer $\x7bsecret.vault.token\x7d"])]
  expectedCheck := .success
  removedCheck := .notFound
  injections := []
  secretNamespace := some "team-a"
  waitTimeout := .ofSeconds 5
  insecureSkipTlsVerify := false
  retriesLimit := none
  shouldLoop := false
  nextReconcile := none

/-- A login that brings its own credentials. -/
def login : Mapping where
  method := "POST"
  url := "https://api.example.com/login"
  headers := .ofList [("Authorization", ["Basic bWU6bXk="])]

/-- The request for the login, with the default header that the mapping does not have. -/
def loginRequest : RequestDetails where
  action := some .create
  method := "POST"
  url := "https://api.example.com/login"
  headers := .ofList [("Accept", ["text/plain", "text/html"]), ("Authorization", ["Basic bWU6bXk="])]

theorem login_rendered : (renderRequest loginSpec {} .create login {}).1 = .ok loginRequest :=
  Except.toOption_eq_some_iff.mp (by decide +kernel)

/-- The login is made without the secret, and would be if the default header were no template at all. -/
theorem login_overrides :
    (renderRequest loginSpec {} .create login {}).1 = .ok loginRequest ∧
      renderRequest { loginSpec with headers := loginSpec.headers.insert "Authorization" ["$\x7b"] } {}
        .create login {} = renderRequest loginSpec {} .create login {} := by
  refine ⟨login_rendered, ?_⟩
  refine (renderRequest_overrides loginSpec {} .create login {}).2 _ fun name hname => ?_
  have hother : name ≠ "Authorization" := fun h => hname (h ▸ by decide)
  rw [Table.get?_insert, if_neg hother]

end HttpResource
