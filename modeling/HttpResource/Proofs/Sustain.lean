/-
# A pass over a managed resource that is to exist

The finalizer comes before everything that happens outside of the cluster, a probe before what it asks
for, and every status is kept before anything else is done.

Key definitions: `Guarded`, `Sustaining`, `Sustained`.
Key theorems: `Pass.sustainExternal_ensures`, `pass_sustained`.
-/
import HttpResource.Template
import HttpResource.Url
import HttpResource.Proofs.Pass

namespace HttpResource

/-- Whatever happens outside of the cluster comes after the request `c`, which the cluster accepts. -/
def Guarded (w : World) (c : ClusterCall) (es : List Event) : Prop :=
  ∀ before e after, es = before ++ e :: after → e.clusterCall? = none →
    .called c ∈ before ∧ w.refusal c = none

/-- The request `c` guards what follows it. If it is refused, that is nothing. -/
theorem guarded_cons {w : World} {c : ClusterCall} {es : List Event}
    (h : es = [] ∨ w.refusal c = none) : Guarded w c (.called c :: es) := by
  intro before e after hes he
  cases before with
  | nil =>
    simp only [List.nil_append, List.cons.injEq] at hes
    rw [← hes.1] at he
    cases he
  | cons first before =>
    simp only [List.cons_append, List.cons.injEq] at hes
    obtain ⟨rfl, hes⟩ := hes
    refine ⟨List.mem_cons_self, ?_⟩
    rcases h with rfl | h
    · simp at hes
    · exact h

section

variable [Template.Engine] [Url.Reader]

/-- The calls that bring an external resource about or up to date: a probe at most, and then at most
what the probe asks for, with the status that it has left. -/
inductive Sustaining (spec : Spec) (time : Timestamp) (status : Status) : List Turn → Prop
  | none : Sustaining spec time status []
  | probe (w : World) : Sustaining spec time status [.ofPass spec time .observe status w]
  | create (w w' : World) (o : Observation) (missing : o = .absent ∨ o = .removed)
      (seen : (Turn.ofPass spec time .observe status w).report.result = .ok (.observed o)) :
      Sustaining spec time status [.ofPass spec time .observe status w,
        .ofPass spec time .create (Turn.ofPass spec time .observe status w).after w']
  | update (w w' : World)
      (seen : (Turn.ofPass spec time .observe status w).report.result =
        .ok (.observed (.present false))) :
      Sustaining spec time status [.ofPass spec time .observe status w,
        .ofPass spec time .update (Turn.ofPass spec time .observe status w).after w']

/-- A probe whose status was kept, with what follows it. -/
theorem Sustaining.of_probe {spec : Spec} {time : Timestamp} {status : Status} {key : ResourceKey}
    {p : Turn} {w w' : World} {ds : List Deed} {α : Type} {result : Except PassError α}
    (haccepted : ∀ s, p.report.status = some s → w.refusal (.patchStatus key s) = .none)
    (hds : Deeds w (p.kept key) w') (hcalls : Sustaining spec time status (p :: callsOf ds))
    (horder : Orderly key w' ds result) :
    Sustaining spec time status (callsOf (p.kept key ++ ds)) ∧ callsOf (p.kept key ++ ds) ≠ [] ∧
      Orderly key w (p.kept key ++ ds) result := by
  have hprobe : Orderly key w (p.kept key) (.ok () : Except PassError Unit) := .kept haccepted
  rw [callsOf_append, callsOf_kept]
  exact ⟨hcalls, by simp, hprobe.append hds horder⟩

namespace Pass

section

variable (settings : Settings) (clock : Clock) (key : ResourceKey) (spec : Spec) (status : Status)

/-- The last part of a pass, after the probe. -/
theorem deployKept_ensures {c : Call} {action : Action} (next : Next) {w : World}
    (hc : c.perform .halt spec status clock.time = do
      return (← deploy .halt action spec status clock.time).map fun _ => .deployed) :
    Ensures (do
        let deployed ← act (deploy .halt action spec status clock.time)
        let _ ← persist key deployed.status status
        match deployed.result with
        | .error f => haltOrFail f
        | .ok () => return next) w
      fun ds r => ds = (Turn.ofPass spec clock.time c status w).kept key ∧ Orderly key w ds r := by
  refine Ensures.callKept hc (fun r w' _ haccepted _ => ?_) fun s e hs hrefused => ?_
  · have hdone : ∀ result : Except PassError Next,
        (Turn.ofPass spec clock.time c status w).kept key ++ [] =
          (Turn.ofPass spec clock.time c status w).kept key ∧
        Orderly key w ((Turn.ofPass spec clock.time c status w).kept key ++ []) result := by
      intro result
      rw [List.append_nil]
      exact ⟨rfl, .kept haccepted⟩
    cases r.result with
    | ok _ => exact .pure (hdone _)
    | error f =>
      unfold haltOrFail
      simp only
      split
      · exact .pure (hdone _)
      · exact .throw (hdone _)
  · exact ⟨rfl, .kept_of_refused hs hrefused⟩

theorem sustainExternal_ensures (w : World) :
    Ensures (sustainExternal settings clock key spec status) w fun ds r =>
      Sustaining spec clock.time status (callsOf ds) ∧ callsOf ds ≠ [] ∧ Orderly key w ds r := by
  unfold sustainExternal
  refine Ensures.callKept (c := .observe) (f := .observed) rfl
    (fun r w' hr haccepted hds => ?_) fun s e hs hrefused => ?_
  · have hresult : (Turn.ofPass spec clock.time .observe status w).report.result =
        r.result.map .observed := by rw [hr]; rfl
    rcases hobserved : r.result with f | o
    · exact .throw (Sustaining.of_probe haccepted hds (.probe w) .none)
    · rw [hobserved] at hresult
      cases o with
      | absent =>
        refine (deployKept_ensures clock key spec _ (c := .create) _ rfl).mono fun ds r' h => ?_
        obtain ⟨rfl, horder⟩ := h
        refine Sustaining.of_probe haccepted hds ?_ horder
        rw [callsOf_kept]
        exact .create w w' .absent (.inl rfl) hresult
      | removed =>
        refine (deployKept_ensures clock key spec _ (c := .create) _ rfl).mono fun ds r' h => ?_
        obtain ⟨rfl, horder⟩ := h
        refine Sustaining.of_probe haccepted hds ?_ horder
        rw [callsOf_kept]
        exact .create w w' .removed (.inr rfl) hresult
      | present upToDate =>
        cases upToDate with
        | true => exact .pure (Sustaining.of_probe haccepted hds (.probe w) .none)
        | false =>
          refine (deployKept_ensures clock key spec _ (c := .update) _ rfl).mono fun ds r' h => ?_
          obtain ⟨rfl, horder⟩ := h
          refine Sustaining.of_probe haccepted hds ?_ horder
          rw [callsOf_kept]
          exact .update w w' hresult
  · rw [callsOf_kept]
    exact ⟨.probe w, by simp, .kept_of_refused hs hrefused⟩

end

end Pass

/-- What a pass over a managed resource does that is to exist: its deeds `ds` lead from `w` to `w'` and
have a result. -/
structure Sustained (clock : Clock) (r : Resource) (spec : Spec) (key : ResourceKey) (w : World)
    (ds : List Deed) (result : Except PassError Next) (w' : World) : Prop where
  deeds : Deeds w ds w'
  events : w'.events = w.events ++ eventsOf ds
  guarded : r.hasFinalizer = true ∨ Guarded w (.addFinalizer key Resource.finalizer) (eventsOf ds)
  calls : Sustaining spec clock.time r.currentStatus (callsOf ds)
  /-- Only where the finalizer is refused there is not even a probe. -/
  probed : callsOf ds = [] → r.hasFinalizer = false ∧
    ∃ e, w.refusal (.addFinalizer key Resource.finalizer) = some e
  requests : requests (eventsOf ds) = (callsOf ds).filterMap Turn.request?
  actions : ∀ t ∈ callsOf ds, ∀ q, t.request? = some q → q.action = some t.call.action
  persisted : Persisted key ds
  stops : Stops w result ds

namespace Pass

/-- The part of a pass that follows the choice of the resource's kind. -/
theorem sustain_ensures (settings : Settings) (clock : Clock) (key : ResourceKey) (r : Resource)
    {spec : Spec} (hvalid : r.spec settings.defaultTimeout = .ok spec) (w : World) :
    Ensures (sustain settings clock key r) w fun ds result =>
      (r.hasFinalizer = true ∨ Guarded w (.addFinalizer key Resource.finalizer) (eventsOf ds)) ∧
      Sustaining spec clock.time r.currentStatus (callsOf ds) ∧
      (callsOf ds = [] → r.hasFinalizer = false ∧
        ∃ e, w.refusal (.addFinalizer key Resource.finalizer) = some e) ∧
      Orderly key w ds result := by
  unfold sustain
  simp only [hvalid]
  cases hfinalizer : r.hasFinalizer with
  | true =>
    refine (sustainExternal_ensures settings clock key spec r.currentStatus w).mono fun ds result h => ?_
    exact ⟨.inl rfl, h.1, fun hnone => absurd hnone h.2.1, h.2.2⟩
  | false =>
    refine Ensures.bind (Ensures.callCluster (fun haccepted w' hw' => ?_) fun e hrefused => ?_)
    · refine (sustainExternal_ensures settings clock key spec r.currentStatus w').mono
        fun ds result h => ?_
      have hfirst : Orderly key w [.cluster (.addFinalizer key Resource.finalizer)]
          (.ok () : Except PassError Unit) :=
        ⟨.finalizer (fun _ _ h => by cases h) .none, .accepted haccepted .none⟩
      exact ⟨.inr (guarded_cons (.inr haccepted)), h.1, fun hnone => absurd hnone h.2.1,
        hfirst.append hw' h.2.2⟩
    · exact ⟨.inr (guarded_cons (.inl rfl)), .none, fun _ => ⟨rfl, e, hrefused⟩,
        .finalizer (fun _ _ h => by cases h) .none, .refused hrefused rfl⟩

end Pass

theorem pass_of_live (settings : Settings) (clock : Clock) {r : Resource} (w : World)
    {key : ResourceKey} (hkey : r.key? = some key) (hmanaged : r.declaration.kind ≠ .disposableRequest)
    (hlive : r.isBeingDeleted = false) :
    pass settings clock r w = (Pass.sustain settings clock key r).exec w := by
  rw [pass_of_managed settings clock w hkey hmanaged, if_neg (by rw [hlive]; exact Bool.false_ne_true)]

/-- **A pass over a managed resource that is to exist and has a valid declaration.** Nothing happens
outside of the cluster before the finalizer is there; the external system is asked for a probe at most,
and then at most for a create where nothing was found, or an update where something was found that
differs; each status reported is kept at once, and nothing else is; and the first refusal of the cluster
is the end and the result. A resource without a name is left alone. -/
theorem pass_sustained (settings : Settings) (clock : Clock) (r : Resource) (w : World) {spec : Spec}
    (hmanaged : r.declaration.kind ≠ .disposableRequest) (hlive : r.isBeingDeleted = false)
    (hvalid : r.spec settings.defaultTimeout = .ok spec) :
    match r.key? with
    | none => pass settings clock r w = (.error (.missingField "metadata.name"), w)
    | some key => ∃ ds,
      Sustained clock r spec key w ds (pass settings clock r w).1 (pass settings clock r w).2 := by
  cases hkey : r.key? with
  | none => exact pass_of_nameless settings clock w hkey
  | some key =>
    simp only
    rw [pass_of_live settings clock w hkey hmanaged hlive]
    obtain ⟨ds, hds, hguarded, hcalls, hprobed, horder⟩ :=
      Pass.sustain_ensures settings clock key r hvalid w
    exact ⟨ds, {
      deeds := hds
      events := hds.grows.events
      guarded := hguarded
      calls := hcalls
      probed := hprobed
      requests := Deeds.requests_eventsOf ds
      actions := fun t _ _ => t.request?_action
      persisted := horder.persisted
      stops := horder.stops }⟩

end

/-- An order that can be probed and created, and has not been looked at. -/
def newOrder : Resource where
  metadata := { name := some "order-1", inNamespace := some "shop" }
  declaration := .namespacedRequest {
    mappings := [
      { action := some .observe, method := "GET", url := "https://api.example.com/orders/1" },
      { action := some .create, method := "POST", url := "https://api.example.com/orders" }] }
  status := none

/-- An external system that does not know of the order, and takes it. -/
def takesOrder : World where
  replies := [.answers { statusCode := 404 } (.ofSeconds 0), .answers { statusCode := 201 } (.ofSeconds 0)]

theorem pass_sustained_newOrder :
    newOrder.declaration.kind ≠ .disposableRequest ∧ newOrder.isBeingDeleted = false ∧
      ∃ spec, newOrder.spec (.ofSeconds 30) = .ok spec ∧ ∃ ds,
        Sustained ⟨⟨1714564800, false⟩, ⟨1714564800, false⟩⟩ newOrder spec
          ⟨.namespacedRequest, "order-1", some "shop"⟩ takesOrder ds
          (pass {} ⟨⟨1714564800, false⟩, ⟨1714564800, false⟩⟩ newOrder takesOrder).1
          (pass {} ⟨⟨1714564800, false⟩, ⟨1714564800, false⟩⟩ newOrder takesOrder).2 :=
  ⟨by decide, rfl, _, rfl, pass_sustained {} _ newOrder takesOrder (by decide) rfl rfl⟩

end HttpResource
