/-
# Invalid declarations

A declaration is invalid if one of its fields is: a check of an unknown type or a custom one without a
predicate, a time that cannot be read, or a secret left without a namespace where the resource has none to
stand in. The fields are looked at one after the other, and none of them excuses another, so the declaration
is rejected exactly if any of them is invalid (`Resource.spec_fails_iff`). A pass then does a single thing: it
has the cluster store what is wrong, in a status that differs from the last one in the account of failures
and in the time (`pass_of_invalid`).

Key definitions: `CheckDeclaration.IsInvalid`, `Resource.IsInvalid`, `Status.rejected`.
Key theorems: `Check.ofDeclaration_fails_iff`, `resolveInjections_fails_iff`, `Resource.spec_fails_iff`,
`Pass.exec_reject`, `pass_of_invalid`.
-/
import HttpResource.Proofs.Delivery
import HttpResource.Proofs.Sustain
import Mathlib.Data.List.TakeWhile

namespace HttpResource

/-- Nothing but blanks is trimmed to nothing. -/
theorem Text.trim_eq_nil_iff {s : List Char} : trim s = [] ↔ ∀ c ∈ s, isBlank c = true := by
  constructor
  · intro h
    have hblank : ∀ c ∈ trimStart s, isBlank c = true := by
      have hreverse := List.dropWhile_eq_nil_iff.mp (List.reverse_eq_nil_iff.mp h)
      exact fun c hc => hreverse c (List.mem_reverse.mpr hc)
    -- the text that is left would begin with a character that is not blank
    refine List.dropWhile_eq_nil_iff.mp ?_
    cases hstart : trimStart s with
    | nil => exact hstart
    | cons c rest =>
      have hfirst := List.head?_dropWhile_not isBlank s
      rw [show s.dropWhile isBlank = c :: rest from hstart] at hfirst
      have hc := hblank c (hstart ▸ List.mem_cons_self)
      simp [hc] at hfirst
  · intro h
    have hstart : trimStart s = [] := List.dropWhile_eq_nil_iff.mpr h
    rw [trim, hstart]
    rfl

/-! ### Fields -/

/-- A check of an unknown type, or a custom one whose predicate is missing or blank. -/
def CheckDeclaration.IsInvalid (c : CheckDeclaration) : Prop :=
  (c.type ≠ "" ∧ c.type ≠ "DEFAULT" ∧ c.type ≠ "CUSTOM") ∨
    (c.type = "CUSTOM" ∧ ∀ logic ∈ c.logic, ∀ x ∈ logic.toList, Text.isBlank x = true)

/-- A time that is given and cannot be read. -/
def IsUnreadable (time : Option String) : Prop := ∃ s, time = some s ∧ ∀ d, Duration.parse s ≠ .ok d

theorem Check.ofLogic?_eq_none_iff {logic : Option String} :
    ofLogic? logic = none ↔ ∀ text ∈ logic, ∀ x ∈ text.toList, Text.isBlank x = true := by
  cases logic with
  | none => simp [ofLogic?]
  | some text =>
    have hempty : (Text.trimmed text).isEmpty = true ↔ ∀ x ∈ text.toList, Text.isBlank x = true := by
      rw [String.isEmpty_iff, Text.trimmed, String.ofList_eq_empty_iff, Text.trim_eq_nil_iff]
    simp only [ofLogic?, Option.map_some, Option.mem_some_iff, forall_eq', ← hempty]
    split <;> simp_all

theorem Check.ofDeclaration_fails_iff (field : String) (default : Check) (d : Option CheckDeclaration) :
    (∃ e, ofDeclaration field default d = .error e) ↔ ∃ c, d = some c ∧ c.IsInvalid := by
  cases d with
  | none => simp [ofDeclaration]
  | some c =>
    simp only [Option.some.injEq, exists_eq_left', CheckDeclaration.IsInvalid, ← ofLogic?_eq_none_iff,
      ofDeclaration]
    by_cases hdefault : c.type = "" ∨ c.type = "DEFAULT"
    · rcases hdefault with htype | htype <;> simp [htype]
    · rw [not_or] at hdefault
      by_cases hcustom : c.type = "CUSTOM"
      · cases ofLogic? c.logic <;> simp [hcustom]
      · simp [hdefault, hcustom]

/-- A secret is left without a namespace only where there is no default one. -/
theorem resolveInjections_fails_iff (default : Option String) (injections : List InjectionDeclaration) :
    (∃ e, resolveInjections default injections = .error e) ↔
      default = none ∧ ∃ i ∈ injections, i.target.inNamespace = none := by
  induction injections with
  | nil => simp [resolveInjections]
  | cons i rest ih =>
    rw [resolveInjections]
    cases hspace : i.target.inNamespace.or default with
    | none =>
      obtain ⟨hnone, hdefault⟩ := Option.or_eq_none_iff.mp hspace
      exact ⟨fun _ => ⟨hdefault, i, List.mem_cons_self, hnone⟩, fun _ => ⟨_, rfl⟩⟩
    | some space =>
      refine Except.map_fails_iff.trans (ih.trans (and_congr_right fun hdefault => ?_))
      have hnamed : i.target.inNamespace ≠ none := by
        rw [hdefault, Option.or_none] at hspace
        simp [hspace]
      simp [hnamed]

theorem Duration.parse_fails_iff (s : String) :
    (∃ e, parse s = .error e) ↔ ∀ d, parse s ≠ .ok d := by
  cases parse s <;> simp

theorem resolveTimeout_fails_iff (default : Duration) (time : Option String) :
    (∃ e, resolveTimeout default time = .error e) ↔ IsUnreadable time := by
  cases time with
  | none => simp [resolveTimeout, IsUnreadable]
  | some s =>
    simp only [resolveTimeout, IsUnreadable, Option.some.injEq, exists_eq_left', ← Duration.parse_fails_iff]
    exact Except.mapError_fails_iff

theorem resolveInterval_fails_iff (time : Option String) :
    (∃ e, resolveInterval time = .error e) ↔ IsUnreadable time := by
  cases time with
  | none => simp [resolveInterval, IsUnreadable]
  | some s =>
    simp only [resolveInterval, IsUnreadable, Option.some.injEq, exists_eq_left', ← Duration.parse_fails_iff]
    exact Except.mapError_fails_iff.trans Except.map_fails_iff

/-! ### Declarations -/

namespace Declaration

/-- The checks that are declared. A disposable request has none of a type. -/
@[simp]
def checks : Declaration → List CheckDeclaration
  | request d => d.expectedResponseCheck.toList ++ d.isRemovedCheck.toList
  | namespacedRequest d => d.expectedResponseCheck.toList ++ d.isRemovedCheck.toList
  | disposableRequest _ => []

@[simp]
def injections : Declaration → List InjectionDeclaration
  | request d => d.injections
  | namespacedRequest d => d.injections
  | disposableRequest d => d.injections

@[simp]
def waitTimeout : Declaration → Option String
  | request d => d.waitTimeout
  | namespacedRequest d => d.waitTimeout
  | disposableRequest d => d.waitTimeout

@[simp]
def nextReconcile : Declaration → Option String
  | request d => d.nextReconcile
  | namespacedRequest d => d.nextReconcile
  | disposableRequest d => d.nextReconcile

end Declaration

/-- What is wrong with the declaration of a resource, where something is. -/
inductive Resource.IsInvalid (r : Resource) : Prop
  | check {c : CheckDeclaration} (declared : c ∈ r.declaration.checks) (invalid : c.IsInvalid)
  | waitTimeout (unreadable : IsUnreadable r.declaration.waitTimeout)
  | nextReconcile (unreadable : IsUnreadable r.declaration.nextReconcile)
  | injection {i : InjectionDeclaration} (declared : i ∈ r.declaration.injections)
      (nameless : i.target.inNamespace = none)
      (homeless : r.declaration.kind = .request ∨ r.metadata.inNamespace = none)

theorem ManagedDeclaration.spec_fails_iff (d : ManagedDeclaration) (space : Option String)
    (defaultTimeout : Duration) : (∃ e, d.spec space defaultTimeout = .error e) ↔
      (∃ c, d.expectedResponseCheck = some c ∧ c.IsInvalid) ∨
        (∃ c, d.isRemovedCheck = some c ∧ c.IsInvalid) ∨
        (space = none ∧ ∃ i ∈ d.injections, i.target.inNamespace = none) ∨
        IsUnreadable d.waitTimeout ∨ IsUnreadable d.nextReconcile := by
  unfold spec
  rw [← Check.ofDeclaration_fails_iff "expectedResponseCheck" .success,
    ← Check.ofDeclaration_fails_iff "isRemovedCheck" .notFound, ← resolveInjections_fails_iff,
    ← resolveTimeout_fails_iff defaultTimeout, ← resolveInterval_fails_iff,
    ← or_false (∃ e, resolveInterval _ = _)]
  refine Except.bind_fails_iff fun _ => Except.bind_fails_iff fun _ => Except.bind_fails_iff fun _ =>
    Except.bind_fails_iff fun _ => Except.bind_fails_iff fun _ => ?_
  exact ⟨nofun, nofun⟩

theorem DisposableDeclaration.spec_fails_iff (d : DisposableDeclaration) (space : Option String)
    (defaultTimeout : Duration) : (∃ e, d.spec space defaultTimeout = .error e) ↔
      (space = none ∧ ∃ i ∈ d.injections, i.target.inNamespace = none) ∨
        IsUnreadable d.waitTimeout ∨ IsUnreadable d.nextReconcile := by
  unfold spec
  rw [← resolveInjections_fails_iff, ← resolveTimeout_fails_iff defaultTimeout,
    ← resolveInterval_fails_iff, ← or_false (∃ e, resolveInterval _ = _)]
  refine Except.bind_fails_iff fun _ => Except.bind_fails_iff fun _ => Except.bind_fails_iff fun _ => ?_
  exact ⟨nofun, nofun⟩

namespace Resource

theorem isInvalid_iff (r : Resource) : r.IsInvalid ↔
    (∃ c ∈ r.declaration.checks, c.IsInvalid) ∨
      ((r.declaration.kind = .request ∨ r.metadata.inNamespace = none) ∧
        ∃ i ∈ r.declaration.injections, i.target.inNamespace = none) ∨
        IsUnreadable r.declaration.waitTimeout ∨ IsUnreadable r.declaration.nextReconcile := by
  constructor
  · intro h
    cases h with
    | check declared invalid => exact .inl ⟨_, declared, invalid⟩
    | injection declared nameless homeless => exact .inr (.inl ⟨homeless, _, declared, nameless⟩)
    | waitTimeout unreadable => exact .inr (.inr (.inl unreadable))
    | nextReconcile unreadable => exact .inr (.inr (.inr unreadable))
  · rintro (⟨_, declared, invalid⟩ | ⟨homeless, _, declared, nameless⟩ | unreadable | unreadable)
    · exact .check declared invalid
    · exact .injection declared nameless homeless
    · exact .waitTimeout unreadable
    · exact .nextReconcile unreadable

/-- A declaration is rejected exactly if something is wrong with it. -/
theorem spec_fails_iff (r : Resource) (defaultTimeout : Duration) :
    (∃ e, r.spec defaultTimeout = .error e) ↔ r.IsInvalid := by
  rw [isInvalid_iff]
  unfold spec
  cases r.declaration with
  | request d =>
    refine (d.spec_fails_iff none defaultTimeout).trans ?_
    simp [Declaration.kind, or_and_right, exists_or, or_assoc]
  | namespacedRequest d =>
    refine (d.spec_fails_iff r.metadata.inNamespace defaultTimeout).trans ?_
    simp [Declaration.kind, or_and_right, exists_or, or_assoc]
  | disposableRequest d =>
    refine (d.spec_fails_iff r.metadata.inNamespace defaultTimeout).trans ?_
    simp [Declaration.kind]

end Resource

/-! ### Passes -/

/-- The status that an invalid declaration leaves. What is known of the external resource stays. -/
def Status.rejected (s : Status) (e : ConfigError) (time : Timestamp) : Status :=
  { s with
    failed := countFailure s.failed
    error := (Cause.configuration e.message).message
    synced := false
    lastReconcileTime := some time.text }

namespace Pass

/-- All that is done about an invalid declaration is to have the cluster store what is wrong. -/
theorem exec_reject (clock : Clock) (key : ResourceKey) (status : Status) (e : ConfigError) (w : World) :
    (reject clock key status e).exec w =
      (match w.refusal (.patchStatus key (status.rejected e clock.wallTime)) with
        | some refused => .error (.cluster refused)
        | none => .ok .onChange,
        w.record (.called (.patchStatus key (status.rejected e clock.wallTime)))) := by
  have hstatus : status.record (.failed none none (Cause.configuration e.message).message) clock.wallTime =
      status.rejected e clock.wallTime := Status.record_failed ..
  unfold reject
  simp only [hstatus]
  rw [exec_bind, exec_callCluster]
  cases w.refusal (.patchStatus key (status.rejected e clock.wallTime)) <;> rfl

theorem sustain_of_invalid [Template.Engine] [Url.Reader] {settings : Settings} (clock : Clock)
    (key : ResourceKey) {r : Resource} {e : ConfigError}
    (hinvalid : r.spec settings.defaultTimeout = .error e) :
    sustain settings clock key r = reject clock key r.currentStatus e := by
  unfold sustain
  rw [hinvalid]

end Pass

/-- **Invalid declarations are contained.** A declaration is rejected exactly if something is wrong with it.
Then a pass over a resource that has a name, and is no managed one that is being deleted, only has the cluster
store the status, with one more failure if that can be counted and the reason why the declaration is rejected.
The next pass waits for a change, unless the cluster refuses. -/
theorem pass_of_invalid [Template.Engine] [Url.Reader] (settings : Settings) (clock : Clock)
    (r : Resource) (w : World) :
    ((∃ e, r.spec settings.defaultTimeout = .error e) ↔ r.IsInvalid) ∧
      (r.IsInvalid → ∀ key, r.key? = some key →
        (r.declaration.kind = .disposableRequest ∨ r.isBeingDeleted = false) →
        ∃ e stored, r.spec settings.defaultTimeout = .error e ∧
          stored = { r.currentStatus with
            failed := stored.failed
            error := (Cause.configuration e.message).message
            synced := false
            lastReconcileTime := some clock.wallTime.text } ∧
          stored.failed.toInt = min 2147483647 (r.currentStatus.failed.toInt + 1) ∧
          pass settings clock r w =
            (match w.refusal (.patchStatus key stored) with
              | some refused => .error (.cluster refused)
              | none => .ok .onChange,
              w.record (.called (.patchStatus key stored)))) := by
  refine ⟨r.spec_fails_iff _, fun hinvalid key hkey hpresent => ?_⟩
  obtain ⟨e, he⟩ := (r.spec_fails_iff settings.defaultTimeout).mpr hinvalid
  have hreject : pass settings clock r w = (Pass.reject clock key r.currentStatus e).exec w := by
    by_cases hkind : r.declaration.kind = .disposableRequest
    · rw [pass_of_disposable settings clock w hkey hkind, Pass.deliverOnce_of_invalid clock key he]
    · have hlive := hpresent.resolve_left hkind
      rw [pass_of_live settings clock w hkey hkind hlive, Pass.sustain_of_invalid clock key he]
  refine ⟨e, r.currentStatus.rejected e clock.wallTime, he, rfl, toInt_countFailure _, ?_⟩
  rw [hreject, Pass.exec_reject]

/-- A webhook that is being deleted, with a secret that has no namespace and a deadline that is none. Its
failures can be counted no further. -/
def strayWebhook : Resource where
  metadata := { name := some "notify", deletionTimestamp := some ⟨1714564800, false⟩ }
  declaration := .disposableRequest {
    url := "https://hooks.example.com/notify", method := "POST", waitTimeout := some "soon"
    injections := [⟨{ name := "receipt" }, "id", "body.id"⟩] }
  status := some { failed := 2147483647, synced := true, response := { statusCode := 200 } }

/-- A cluster that takes nothing. -/
def closedCluster : World where
  refusal := fun _ => some ⟨503, "shutting down"⟩

theorem pass_of_invalid_strayWebhook :
    strayWebhook.IsInvalid ∧
      ∃ stored : Status, stored.failed.toInt = 2147483647 ∧ stored.response.statusCode = 200 ∧
        stored.error = "configuration error: " ++
          "secretInjectionConfigs entry for secret 'receipt' must set a namespace" ∧
        pass {} ⟨⟨1714564800, false⟩, ⟨1714564800, false⟩⟩ strayWebhook closedCluster =
          (.error (.cluster ⟨503, "shutting down"⟩), closedCluster.record (.called (.patchStatus
            ⟨.disposableRequest, "notify", none⟩ stored))) := by
  have hinvalid : strayWebhook.IsInvalid := .injection List.mem_cons_self rfl (.inr rfl)
  have hcontained :=
    (pass_of_invalid {} ⟨⟨1714564800, false⟩, ⟨1714564800, false⟩⟩ strayWebhook closedCluster).2 hinvalid
  obtain ⟨e, stored, he, hstored, hfailed, hpass⟩ := hcontained _ rfl (.inl rfl)
  cases he
  refine ⟨hinvalid, stored, hfailed, ?_, ?_, hpass⟩
  · rw [hstored]
    rfl
  · rw [hstored]
    rfl

end HttpResource
