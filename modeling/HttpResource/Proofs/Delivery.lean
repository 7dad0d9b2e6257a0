/-
# Deliveries

A disposable request is to be sent until it has been delivered, and then no more. What holds back the
passes after a delivery is one bit of the status, and a pass that rejects the declaration clears it like
any other failure. So a request is sent again exactly when a declaration is rejected after the delivery
and a later one can be sent (`Visit.sent_once_iff`), and this does happen (`Visit.repairedOrder_resent`).

Key definitions: `DisposableDeclaration.Specified`, `Visit`, `Visit.isReady`, `Visit.rejects`.
Key theorems: `DisposableDeclaration.specified_of_spec`, `Visit.account`, `Visit.sends_iff`,
`Visit.synced_of_quiet`.
-/
import HttpResource.Template
import HttpResource.Url
import HttpResource.Proofs.Pass
import HttpResource.Proofs.Run

namespace HttpResource

/-! ### What is stored after a pass -/

namespace Resource

theorem afterEvents_append (r : Resource) (w : World) (es fs : List Event) :
    r.afterEvents { w with events := es ++ fs } =
      (r.afterEvents { w with events := es }).afterEvents { w with events := fs } :=
  List.foldl_append

theorem afterEvents_of_noCalls (r : Resource) (w : World) :
    ∀ es : List Event, (∀ e ∈ es, e.clusterCall? = none) → r.afterEvents { w with events := es } = r
  | [], _ => rfl
  | e :: es, h => by
    have he := h e List.mem_cons_self
    have hrest := afterEvents_of_noCalls r w es fun e he => h e (List.mem_cons_of_mem _ he)
    cases e with
    | called c => cases he
    | _ => exact hrest

theorem afterEvents_called (r : Resource) (w : World) (c : ClusterCall) :
    r.afterEvents { w with events := [.called c] } =
      if (w.refusal c).isNone then r.after c else r := rfl

theorem afterEvents_patched (r : Resource) {w : World} {key : ResourceKey} {s : Status}
    (haccepted : w.refusal (.patchStatus key s) = none) :
    (r.afterEvents { w with events := [.called (.patchStatus key s)] }).status = some s := by
  rw [afterEvents_called, haccepted]
  rfl

/-- Nothing else of a world matters than its events and what its cluster refuses. -/
theorem afterEvents_of_grows (r : Resource) {w w' : World} {es : List Event} (hunseen : w.events = [])
    (hgrows : w.Grows es w') : r.afterEvents w' = r.afterEvents { w with events := es } := by
  unfold afterEvents
  rw [hgrows.events, hgrows.refusal, hunseen]
  rfl

/-- A resource after a call whose status was kept. -/
theorem afterEvents_kept [Template.Engine] [Url.Reader] (r : Resource) {w : World} {key : ResourceKey} (t : Turn)
    (haccepted : ∀ s, w.refusal (.patchStatus key s) = none) :
    (r.afterEvents { w with events := eventsOf (t.kept key) }).status =
      t.report.status.or r.status := by
  have hcalls := afterEvents_of_noCalls r w t.events t.clusterCall?_events
  unfold Turn.kept eventsOf
  rw [List.flatMap_cons, afterEvents_append]
  show ((r.afterEvents { w with events := t.events }).afterEvents _).status = _
  rw [hcalls]
  cases t.report.status with
  | none => rfl
  | some s => exact afterEvents_patched r (haccepted s)

end Resource

/-! ### The turn of a disposable request -/

/-- The template of a disposable request. -/
def DisposableDeclaration.template (d : DisposableDeclaration) : Mapping :=
  { action := some .create, method := d.method, url := d.url, body := d.body }

/-- What a specification has of the disposable declaration that it stands for. -/
structure DisposableDeclaration.Specified (d : DisposableDeclaration) (space : Option String)
    (defaultTimeout : Duration) (s : Spec) : Prop where
  mappings : s.mappings = [d.template]
  payload : s.payload = {}
  headers : s.headers = d.headers
  expectedCheck : s.expectedCheck = (Check.ofLogic? d.expectedResponse).getD .success
  removedCheck : s.removedCheck = .notFound
  injections : resolveInjections space d.injections = .ok s.injections
  secretNamespace : s.secretNamespace = space
  waitTimeout : resolveTimeout defaultTimeout d.waitTimeout = .ok s.waitTimeout
  insecureSkipTlsVerify : s.insecureSkipTlsVerify = d.insecureSkipTlsVerify
  retriesLimit : s.retriesLimit = d.retriesLimit
  shouldLoop : s.shouldLoop = d.shouldLoop
  nextReconcile : resolveInterval d.nextReconcile = .ok s.nextReconcile

theorem DisposableDeclaration.specified_of_spec {d : DisposableDeclaration} {space : Option String}
    {defaultTimeout : Duration} {s : Spec} (h : d.spec space defaultTimeout = .ok s) :
    d.Specified space defaultTimeout s := by
  unfold DisposableDeclaration.spec at h
  obtain ⟨injections, hinjections, h⟩ := Except.bind_eq_ok_iff.mp h
  obtain ⟨waitTimeout, hwaitTimeout, h⟩ := Except.bind_eq_ok_iff.mp h
  obtain ⟨nextReconcile, hnextReconcile, h⟩ := Except.bind_eq_ok_iff.mp h
  cases h
  exact {
    mappings := rfl
    payload := rfl
    headers := rfl
    expectedCheck := rfl
    removedCheck := rfl
    injections := hinjections
    secretNamespace := rfl
    waitTimeout := hwaitTimeout
    insecureSkipTlsVerify := rfl
    retriesLimit := rfl
    shouldLoop := rfl
    nextReconcile := hnextReconcile }

theorem DisposableDeclaration.Specified.mapping {d : DisposableDeclaration} {space : Option String}
    {defaultTimeout : Duration} {s : Spec} (h : d.Specified space defaultTimeout s) :
    Spec.mapping? s.mappings .create = some d.template := by
  rw [h.mappings]
  simp [Spec.mapping?, template]

theorem Call.plan_dispatch {spec : Spec} {m : Mapping}
    (hm : Spec.mapping? spec.mappings .create = some m) (status : Status) :
    Call.dispatch.plan .halt spec status =
      if status.synced && !spec.shouldLoop then .ends (.unchanged (.ok (.dispatched .alreadySynced)))
      else .deliver .halt .create m spec status := by
  unfold Call.plan Call.action
  rw [hm]

section

variable [Template.Engine] [Url.Reader] {spec : Spec} {m : Mapping}
  (hm : Spec.mapping? spec.mappings .create = some m)

include hm

/-- A disposable request is sent exactly if it is still to be delivered, the limit on failures allows it
and it can be rendered. -/
theorem Turn.dispatch_sends_iff (time : Timestamp) (status : Status) (w : World) :
    (Turn.ofPass spec time .dispatch status w).request?.isSome = true ↔
      (status.synced && !spec.shouldLoop) = false ∧
        Spec.limitReached status.failed spec.retriesLimit = none ∧
        (renderRequest spec status .create m w).1.isOk = true := by
  rw [Turn.request?_isSome_iff]
  show (∃ m', Call.dispatch.plan .halt spec status = .attempts m' ∧ _) ↔ _
  rw [Call.plan_dispatch hm]
  unfold Plan.deliver
  cases status.synced && !spec.shouldLoop <;>
    rcases Spec.limitReached status.failed spec.retriesLimit with _ | limit <;>
      simp [Turn.ofPass, Call.action]

variable (hloop : spec.shouldLoop = false)

include hloop

/-- Where nothing is sent, whether the request has been delivered does not change. -/
theorem Turn.dispatch_synced_of_quiet {time : Timestamp} {status : Status} {w : World}
    (hquiet : (Turn.ofPass spec time .dispatch status w).request? = none) :
    (Turn.ofPass spec time .dispatch status w).after.synced = status.synced := by
  have hbefore : (Turn.ofPass spec time .dispatch status w).before = status := rfl
  cases hsynced : status.synced with
  | true =>
    have hplan := Call.plan_dispatch hm status
    rw [hsynced, hloop] at hplan
    have houtcome := Turn.outcome_of_ends (t := .ofPass spec time .dispatch status w) hplan
    unfold after report
    rw [houtcome]
    exact hsynced
  | false =>
    generalize Turn.ofPass spec time .dispatch status w = t at *
    unfold after
    cases t.recorded with
    | nothing nothing =>
      rw [nothing, Option.getD_none, hbefore]
      exact hsynced
    | failure cause result recorded =>
      rw [recorded, Status.record_failed]
      rfl
    | completion request _ _ _ sent _ _ _ => cases hquiet.symm.trans sent

end

/-! ### Passes over a disposable request -/

namespace Pass

variable [Template.Engine] [Url.Reader]

theorem disposableNext_ensures (settings : Settings) (spec : Spec) (result : Except Failure Dispatch)
    (w : World) : Ensures (disposableNext settings spec result) w fun ds _ => ds = [] := by
  unfold disposableNext
  split
  · exact .pure rfl
  · split <;> exact .pure rfl
  · split
    · exact .pure rfl
    · split
      · exact .pure rfl
      · exact .throw rfl

theorem deliverOnce_of_invalid {settings : Settings} (clock : Clock) (key : ResourceKey) {r : Resource}
    {e : ConfigError} (hinvalid : r.spec settings.defaultTimeout = .error e) :
    deliverOnce settings clock key r = reject clock key r.currentStatus e := by
  unfold deliverOnce
  rw [hinvalid]

theorem deliverOnce_ensures {settings : Settings} (clock : Clock) (key : ResourceKey) {r : Resource}
    {spec : Spec} (hvalid : r.spec settings.defaultTimeout = .ok spec) (w : World) :
    Ensures (deliverOnce settings clock key r) w fun ds _ =>
      ds = (Turn.ofPass spec clock.time .dispatch r.currentStatus w).kept key := by
  unfold deliverOnce
  simp only [hvalid]
  refine Ensures.callKept (c := .dispatch) (f := .dispatched) rfl (fun r w' _ _ _ => ?_)
    fun _ _ _ _ => rfl
  refine (disposableNext_ensures settings spec r.result w').mono fun ds _ hds => ?_
  rw [hds, List.append_nil]

end Pass

/-- Whether a request to the cluster stores a status by which the disposable request is delivered. -/
def ClusterCall.storesDelivery : ClusterCall → Bool
  | patchStatus _ s => s.synced
  | _ => false

/-- A pass over a disposable request that is not to be repeated: all that it meets but the status that
is stored. The cluster takes every status. -/
structure Visit where
  settings : Settings
  clock : Clock
  metadata : Metadata
  declaration : DisposableDeclaration
  world : World
  once : declaration.shouldLoop = false
  unseen : world.events = []
  accepted : ∀ key status, world.refusal (.patchStatus key status) = none

namespace Visit

def resource (v : Visit) (stored : Option Status) : Resource :=
  ⟨v.metadata, .disposableRequest v.declaration, stored⟩

def key? (v : Visit) : Option ResourceKey := (v.resource none).key?

def spec (v : Visit) : Except ConfigError Spec := (v.resource none).spec v.settings.defaultTimeout

/-- Whether the visit finds its declaration invalid. -/
def rejects (v : Visit) : Bool := v.key?.isSome && !v.spec.isOk

theorem specified {v : Visit} {s : Spec} (valid : v.spec = .ok s) :
    v.declaration.Specified v.metadata.inNamespace v.settings.defaultTimeout s :=
  DisposableDeclaration.specified_of_spec valid

theorem shouldLoop_eq_false {v : Visit} {s : Spec} (valid : v.spec = .ok s) : s.shouldLoop = false :=
  (specified valid).shouldLoop.trans v.once

section

variable [Template.Engine] [Url.Reader] (v : Visit) (stored : Option Status)

def worldAfter : World := (pass v.settings v.clock (v.resource stored) v.world).2

/-- The status that is stored after the visit. -/
def after : Option Status := ((v.resource stored).afterEvents (v.worldAfter stored)).status

def sends : Bool := !(requests (v.worldAfter stored).events).isEmpty

/-- Whether the visit stores that the request has been delivered. -/
def delivers : Bool :=
  (v.worldAfter stored).events.any fun e => e.clusterCall?.any ClusterCall.storesDelivery

/-- Whether the visit would send the request if it had not been delivered: the declaration is valid, the
limit on failures has not been reached and the request can be rendered. -/
def isReady : Bool :=
  match v.key?, v.spec with
  | some _, .ok spec =>
    (Spec.limitReached (stored.getD {}).failed spec.retriesLimit).isNone &&
      (renderRequest spec (stored.getD {}) .create v.declaration.template v.world).1.isOk
  | _, _ => false

/-- All that can become of a visit. -/
inductive Account : Prop
  | nameless (name : v.key? = none) (events : (v.worldAfter stored).events = [])
      (after : v.after stored = stored)
  | rejected (key : ResourceKey) (name : v.key? = some key) (e : ConfigError) (invalid : v.spec = .error e)
      (s : Status) (synced : s.synced = false)
      (events : (v.worldAfter stored).events = [.called (.patchStatus key s)])
      (after : v.after stored = some s)
  | dispatched (key : ResourceKey) (name : v.key? = some key) (spec : Spec) (valid : v.spec = .ok spec)
      (t : Turn) (turn : t = .ofPass spec v.clock.time .dispatch (stored.getD {}) v.world)
      (events : (v.worldAfter stored).events = eventsOf (t.kept key))
      (after : v.after stored = t.report.status.or stored)

theorem account : v.Account stored := by
  cases hkey : v.key? with
  | none =>
    have hpass := pass_of_nameless v.settings v.clock (r := v.resource stored) v.world hkey
    have hworld : v.worldAfter stored = v.world := congrArg Prod.snd hpass
    refine .nameless hkey (hworld ▸ v.unseen) ?_
    unfold after Resource.afterEvents
    rw [hworld, v.unseen]
    rfl
  | some key =>
    have hpass : v.worldAfter stored =
        ((Pass.deliverOnce v.settings v.clock key (v.resource stored)).exec v.world).2 :=
      congrArg Prod.snd (pass_of_disposable v.settings v.clock v.world hkey rfl)
    have hevents {es : List Event} (h : v.world.Grows es (v.worldAfter stored)) :
        (v.worldAfter stored).events = es := by rw [h.events, v.unseen, List.nil_append]
    cases hspec : v.spec with
    | error e =>
      obtain ⟨_, hds, rfl⟩ := Pass.reject_ensures v.clock key (stored.getD {}) e v.world
      have hrejects : Pass.deliverOnce v.settings v.clock key (v.resource stored) =
          Pass.reject v.clock key (stored.getD {}) e :=
        Pass.deliverOnce_of_invalid v.clock key (r := v.resource stored) hspec
      rw [← hrejects, ← hpass] at hds
      refine .rejected key hkey e hspec _ ?_ (hevents hds.grows) ?_
      · rw [Status.record_failed]
      · unfold after
        rw [(v.resource stored).afterEvents_of_grows v.unseen hds.grows]
        exact Resource.afterEvents_patched _ (v.accepted key _)
    | ok spec =>
      obtain ⟨_, hds, rfl⟩ := Pass.deliverOnce_ensures v.clock key (r := v.resource stored) hspec v.world
      rw [← hpass] at hds
      refine .dispatched key hkey spec hspec _ rfl (hevents hds.grows) ?_
      unfold after
      rw [(v.resource stored).afterEvents_of_grows v.unseen hds.grows]
      exact Resource.afterEvents_kept _ _ (v.accepted key)

variable {v stored}

theorem sends_eq_of_kept {key : ResourceKey} {t : Turn}
    (events : (v.worldAfter stored).events = eventsOf (t.kept key)) :
    v.sends stored = t.request?.isSome := by
  unfold sends
  rw [events, Deeds.requests_eventsOf, callsOf_kept]
  cases h : t.request? <;> simp [h]

theorem synced_of_kept {t : Turn} (hbefore : t.before = stored.getD {})
    (after : v.after stored = t.report.status.or stored) :
    ((v.after stored).getD {}).synced = t.after.synced := by
  rw [after, Turn.after, hbefore]
  cases t.report.status <;> rfl

/-- A visit sends the request exactly if it has not been delivered and can be sent. -/
theorem sends_iff (v : Visit) (stored : Option Status) : v.sends stored = true ↔
    (stored.getD {}).synced = false ∧ v.isReady stored = true := by
  unfold isReady
  cases v.account stored with
  | nameless name events _ =>
    rw [name]
    simp [sends, events, requests]
  | rejected key name e invalid s _ events _ =>
    rw [name, invalid]
    simp [sends, events, requests, Event.request?]
  | dispatched key name spec valid t turn events _ =>
    have hloop := shouldLoop_eq_false valid
    have hm := (specified valid).mapping
    rw [sends_eq_of_kept events, turn, Turn.dispatch_sends_iff hm, name, valid]
    simp [hloop]

/-- A visit that sends nothing leaves a delivered request delivered, unless it finds its declaration
invalid. -/
theorem synced_of_quiet (hquiet : v.sends stored = false) :
    ((v.after stored).getD {}).synced = ((stored.getD {}).synced && !v.rejects) := by
  unfold rejects
  cases v.account stored with
  | nameless name _ after =>
    rw [name, after]
    simp
  | rejected key name e invalid s synced _ after =>
    rw [name, invalid, after]
    simpa [Except.isOk, Except.toBool] using synced
  | dispatched key name spec valid t turn events after =>
    have hloop := shouldLoop_eq_false valid
    have hm := (specified valid).mapping
    rw [sends_eq_of_kept events] at hquiet
    rw [synced_of_kept (by rw [turn]; rfl) after, name, valid]
    subst turn
    rw [Turn.dispatch_synced_of_quiet hm hloop (by simpa using hquiet)]
    simp [Except.isOk, Except.toBool]

theorem synced_of_delivers (h : v.delivers stored = true) : ((v.after stored).getD {}).synced = true := by
  unfold delivers at h
  cases v.account stored with
  | nameless _ events _ => simp [events] at h
  | rejected key _ e _ s synced events _ =>
    simp [events, Event.clusterCall?, ClusterCall.storesDelivery, synced] at h
  | dispatched key _ spec _ t turn events after =>
    have hcalls : (t.events.any fun e => e.clusterCall?.any ClusterCall.storesDelivery) = false :=
      List.any_eq_false.mpr fun e he => by simp [t.clusterCall?_events e he]
    rw [after]
    rw [events] at h
    unfold Turn.kept eventsOf at h
    rw [List.flatMap_cons, List.any_append] at h
    simp only [Deed.events, hcalls, Bool.false_or] at h
    cases hstatus : t.report.status with
    | none => simp [hstatus] at h
    | some s =>
      simpa [hstatus, Deed.events, Event.clusterCall?, ClusterCall.storesDelivery] using h

end

/-! ### Runs of visits -/

/-- What holds of every visit of a run and the visits before it. -/
def Throughout (p : List Visit → Visit → Prop) (run : List Visit) : Prop :=
  ∀ later v earlier, run = later ++ v :: earlier → p earlier v

theorem throughout_cons {p : List Visit → Visit → Prop} {v : Visit} {earlier : List Visit} :
    Throughout p (v :: earlier) ↔ p earlier v ∧ Throughout p earlier := by
  constructor
  · intro h
    refine ⟨h [] v earlier rfl, fun later u before heq => h (v :: later) u before ?_⟩
    rw [heq]
    rfl
  · rintro ⟨hv, h⟩ later u before heq
    cases later with
    | nil =>
      simp only [List.nil_append, List.cons.injEq] at heq
      obtain ⟨rfl, rfl⟩ := heq
      exact hv
    | cons x later =>
      simp only [List.cons_append, List.cons.injEq] at heq
      exact h later u before heq.2

section

variable [Template.Engine] [Url.Reader]

/-- The status stored after a run of visits, which is listed from its latest visit back. -/
def storedAfter (start : Option Status) : List Visit → Option Status
  | [] => start
  | v :: earlier => v.after (storedAfter start earlier)

/-- A run that sends nothing leaves a delivered request delivered, unless some visit finds its
declaration invalid. -/
theorem synced_of_quiet_run {start : Option Status} (hstart : (start.getD {}).synced = true) :
    ∀ run : List Visit, Throughout (fun before u => u.sends (storedAfter start before) = false) run →
      ((storedAfter start run).getD {}).synced = run.all fun x => !x.rejects
  | [], _ => hstart
  | u :: earlier, h => by
    obtain ⟨hu, hearlier⟩ := throughout_cons.mp h
    rw [storedAfter, synced_of_quiet hu, synced_of_quiet_run hstart earlier hearlier, List.all_cons,
      Bool.and_comm]

/-- **A delivered request is not sent again, exactly as long as no declaration is found invalid before a
visit that is ready to send.** -/
theorem sent_once_iff (v : Visit) (stored : Option Status) (hdelivered : v.delivers stored = true)
    (run : List Visit) :
    Throughout (fun before u => u.sends (storedAfter (v.after stored) before) = false) run ↔
      Throughout (fun before u => u.isReady (storedAfter (v.after stored) before) = true →
        ∀ x ∈ before, x.rejects = false) run := by
  have hstart := synced_of_delivers hdelivered
  induction run with
  | nil => exact ⟨fun _ later u before h => by simp at h, fun _ later u before h => by simp at h⟩
  | cons u earlier ih =>
    -- what holds `u` back is that no visit before it was found invalid
    have hstep (hquiet : Throughout (fun before u => u.sends (storedAfter (v.after stored) before) = false)
        earlier) : u.sends (storedAfter (v.after stored) earlier) = false ↔
          (u.isReady (storedAfter (v.after stored) earlier) = true → ∀ x ∈ earlier, x.rejects = false) := by
      have hsends := sends_iff u (storedAfter (v.after stored) earlier)
      rw [synced_of_quiet_run hstart earlier hquiet] at hsends
      have hall : (∀ x ∈ earlier, x.rejects = false) ↔ (earlier.all fun x => !x.rejects) = true := by
        simp
      rw [← Bool.not_eq_true, hsends, hall]
      cases earlier.all fun x => !x.rejects <;> simp
    constructor
    · intro h
      obtain ⟨hu, hquiet⟩ := throughout_cons.mp h
      exact throughout_cons.mpr ⟨(hstep hquiet).mp hu, ih.mp hquiet⟩
    · intro h
      obtain ⟨hu, hearlier⟩ := throughout_cons.mp h
      have hquiet := ih.mpr hearlier
      exact throughout_cons.mpr ⟨(hstep hquiet).mpr hu, hquiet⟩

end

/-! ### An order that is delivered twice -/

/-- A visit to an order with a deadline, which is declared as a text. It is taken by the external
system. -/
def orderVisit (url : String) (waitTimeout : Option String) : Visit where
  settings := {}
  clock := ⟨⟨1714564800, false⟩, ⟨1714564800, false⟩⟩
  metadata := { name := some "order-1", inNamespace := some "shop" }
  declaration := { url, method := "POST", waitTimeout }
  world := { otherwise := .answers { statusCode := 200 } (.ofSeconds 0) }
  once := rfl
  unseen := rfl
  accepted := fun _ _ => rfl

/-- The order is delivered; its deadline is edited to a text that is none, and then repaired. -/
theorem repairedOrder_resent :
    (orderVisit "http://shop/orders" none).delivers none = true ∧
      ¬Throughout (fun before u => u.sends (storedAfter
          ((orderVisit "http://shop/orders" none).after none) before) = false)
        [orderVisit "http://shop/orders" none,
          orderVisit "http://shop/orders" (some "soon")] :=
  ⟨by decide +kernel, fun h => absurd (h [] _ _ rfl) (by decide +kernel)⟩

/-- An edit that leaves the declaration valid does not send the order again. -/
theorem editedOrder_unsent :
    (orderVisit "http://shop/orders" none).delivers none = true ∧
      Throughout (fun before u => u.sends (storedAfter
          ((orderVisit "http://shop/orders" none).after none) before) = false)
        [orderVisit "http://shop/v2" (some "5s")] := by
  have hdelivered : (orderVisit "http://shop/orders" none).delivers none = true := by
    decide +kernel
  refine ⟨hdelivered, (sent_once_iff _ none hdelivered _).mpr ?_⟩
  exact throughout_cons.mpr ⟨fun _ x hx => by simp at hx, fun later u before h => by simp at h⟩

end Visit

end HttpResource
