/-
# A disposable request at the limit on failures

A pass that finds a disposable request at the limit does nothing and waits for a change. What holds the
request back is the count of failures, and nothing that is edited sets that back: the count stays what it
was, or grows where a declaration is invalid. So an edit has the request sent again only if it lifts the
limit itself above the count (`Round.resumes_of_lifts`); with the limit left as it is the request is never sent
again, whatever else is edited and however often (`Round.IsHalted.sent_of_leadsTo`).

Key definitions: `Round`, `Round.IsHalted`, `Round.Follows`, `Round.LeadsTo`, `Round.Lifts`.
Key theorems: `Turn.dispatch_isExhausted_iff`, `Round.outcome_of_blocked`, `Round.resumes_of_lifts`.
-/
import HttpResource.Proofs.Delivery
import HttpResource.Proofs.RetryLimit

namespace HttpResource

/-! ### The call of a disposable request -/

section

variable [Template.Engine] [Url.Reader] {spec : Spec} {m : Mapping}
  (hm : Spec.mapping? spec.mappings .create = some m)

include hm

/-- A disposable request is refused exactly if it is still to be delivered and the limit is reached. -/
theorem Turn.dispatch_isExhausted_iff (time : Timestamp) (status : Status) (w : World) :
    (Turn.ofPass spec time .dispatch status w).isExhausted = true ↔
      (status.synced && !spec.shouldLoop) = false ∧
        Spec.limitReached status.failed spec.retriesLimit ≠ none := by
  have hplan := Call.plan_dispatch hm status
  generalize ht : Turn.ofPass spec time .dispatch status w = t
  have hplan' : t.call.plan t.policy t.spec t.before = Call.dispatch.plan .halt spec status := by
    rw [← ht]
    rfl
  rw [hplan] at hplan'
  unfold Plan.deliver at hplan'
  cases hdue : (status.synced && !spec.shouldLoop) with
  | true =>
    simp only [hdue, if_true] at hplan'
    unfold isExhausted report
    rw [outcome_of_ends hplan']
    simp [Report.unchanged]
  | false =>
    simp only [hdue, Bool.false_eq_true, if_false] at hplan'
    cases hlimit : Spec.limitReached status.failed spec.retriesLimit with
    | none =>
      rw [hlimit] at hplan'
      simp [isExhausted_of_attempts (m := m) hplan']
    | some limit =>
      rw [hlimit] at hplan'
      unfold isExhausted report
      rw [outcome_of_ends hplan']
      simp [Report.refused, Report.unchanged, Failure.isExhausted, Failure.forAction]

/-- A disposable request that has been delivered or is at the limit is left alone. -/
theorem dispatch_of_blocked (time : Timestamp) {status : Status} (w : World)
    (h : (status.synced && !spec.shouldLoop) = true ∨
      Spec.limitReached status.failed spec.retriesLimit ≠ none) :
    ∃ result, dispatch .halt spec status time w = (.unchanged result, w) ∧
      (result = .ok .alreadySynced ∨ ∃ f, result = .error f ∧ f.isExhausted = true) := by
  unfold dispatch
  cases hdue : (status.synced && !spec.shouldLoop) with
  | true => exact ⟨_, rfl, .inl rfl⟩
  | false =>
    obtain ⟨limit, hlimit⟩ := Option.ne_none_iff_exists'.mp (h.resolve_left (by simp [hdue]))
    simp only [Bool.false_eq_true, if_false, hm, Act.bind_apply, deliver_eq, hlimit]
    exact ⟨_, rfl, .inr ⟨_, rfl, rfl⟩⟩

end

/-- After such a call the pass ends, and the resource waits for a change. -/
theorem Pass.deliverOnce_of_blocked [Template.Engine] [Url.Reader] {settings : Settings}
    (clock : Clock) (key : ResourceKey) {r : Resource} {spec : Spec} {m : Mapping}
    (hvalid : r.spec settings.defaultTimeout = .ok spec)
    (hm : Spec.mapping? spec.mappings .create = some m) (w : World)
    (h : (r.currentStatus.synced && !spec.shouldLoop) = true ∨
      Spec.limitReached r.currentStatus.failed spec.retriesLimit ≠ none) :
    (deliverOnce settings clock key r).exec w = (.ok .onChange, w) := by
  obtain ⟨result, hdispatch, hresult⟩ := dispatch_of_blocked hm clock.time w h
  unfold deliverOnce
  simp only [hvalid, exec_bind, exec_act, hdispatch]
  show (disposableNext settings spec result).exec w = _
  rcases hresult with rfl | ⟨f, rfl, hexhausted⟩
  · rfl
  · unfold disposableNext
    simp only [hexhausted, if_true]
    rfl

/-! ### Rounds -/

/-- A pass over a disposable request, with everything that it meets. -/
structure Round where
  settings : Settings
  clock : Clock
  metadata : Metadata
  declaration : DisposableDeclaration
  /-- The status that is stored. -/
  stored : Option Status
  world : World
  unseen : world.events = []

namespace Round

def resource (x : Round) : Resource := ⟨x.metadata, .disposableRequest x.declaration, x.stored⟩

def spec (x : Round) : Except ConfigError Spec := x.resource.spec x.settings.defaultTimeout

/-- The status that the pass goes by. -/
def status (x : Round) : Status := x.stored.getD {}

/-- Whether there is still something to deliver. -/
def isDue (x : Round) : Bool := !(x.status.synced && !x.declaration.shouldLoop)

/-- The declaration sets no limit, or one above the failures that another pass went by. -/
def Lifts (x o : Round) : Prop :=
  ∀ l, x.declaration.retriesLimit = some l → o.status.failed.toInt < l.toInt

theorem specified {x : Round} {s : Spec} (hvalid : x.spec = .ok s) :
    x.declaration.Specified x.metadata.inNamespace x.settings.defaultTimeout s :=
  DisposableDeclaration.specified_of_spec hvalid

theorem mapping_of_spec {x : Round} {s : Spec} (hvalid : x.spec = .ok s) :
    Spec.mapping? s.mappings .create = some x.declaration.template :=
  (specified hvalid).mapping

theorem due_of_spec {x : Round} {s : Spec} (hvalid : x.spec = .ok s) :
    (x.status.synced && !s.shouldLoop) = !x.isDue := by
  unfold isDue
  rw [(specified hvalid).shouldLoop, Bool.not_not]

theorem limit_of_spec {x : Round} {s : Spec} (hvalid : x.spec = .ok s) :
    Spec.limitReached x.status.failed s.retriesLimit = none ↔ x.Lifts x := by
  rw [(specified hvalid).retriesLimit, Spec.limitReached_eq_none_iff]
  rfl

section

variable [Template.Engine] [Url.Reader]

def outcome (x : Round) : Except PassError Next × World := pass x.settings x.clock x.resource x.world

/-- The requests that the pass sent. -/
def sent (x : Round) : List RequestDetails := requests x.outcome.2.events

/-- The status that is stored after the pass. -/
def after (x : Round) : Option Status := (x.resource.afterEvents x.outcome.2).status

/-- The request that the declaration stands for, or why there is none. -/
def rendered (x : Round) (spec : Spec) : Except RenderError RequestDetails :=
  (renderRequest spec x.status .create x.declaration.template x.world).1

/-- The pass finds its declaration valid, and its call is refused at the limit on failures. -/
structure IsHalted (x : Round) : Prop where
  named : x.resource.key?.isSome = true
  exhausted : ∃ spec, x.spec = .ok spec ∧
    (Turn.ofPass spec x.clock.time .dispatch x.status x.world).isExhausted = true

/-- The pass is over the resource that another pass has left, however the declaration was edited. -/
structure Follows (x earlier : Round) : Prop where
  key : x.resource.key? = earlier.resource.key?
  stored : x.stored = earlier.after

/-- A pass comes after another, and the declarations in between keep to its limit. -/
inductive LeadsTo (o : Round) : Round → Prop
  | next {x : Round} (follows : x.Follows o) : LeadsTo o x
  | later {x y : Round} (leads : LeadsTo o x)
      (kept : x.declaration.retriesLimit = o.declaration.retriesLimit) (follows : y.Follows x) :
      LeadsTo o y

variable {o x y : Round}

theorem outcome_eq {key : ResourceKey} (hkey : x.resource.key? = some key) :
    x.outcome = (Pass.deliverOnce x.settings x.clock key x.resource).exec x.world :=
  pass_of_disposable x.settings x.clock x.world hkey rfl

/-- At its limit, or with nothing to deliver, a pass does nothing and waits for a change. -/
theorem outcome_of_blocked (hnamed : x.resource.key?.isSome = true) {spec : Spec}
    (hvalid : x.spec = .ok spec) (h : ¬(x.isDue = true ∧ x.Lifts x)) :
    x.outcome = (.ok .onChange, x.world) := by
  obtain ⟨key, hkey⟩ := Option.isSome_iff_exists.mp hnamed
  rw [outcome_eq hkey]
  refine Pass.deliverOnce_of_blocked x.clock key hvalid (mapping_of_spec hvalid) x.world ?_
  show (x.status.synced && !spec.shouldLoop) = true ∨ Spec.limitReached x.status.failed _ ≠ none
  rw [due_of_spec hvalid, ne_eq, limit_of_spec hvalid]
  cases hdue : x.isDue with
  | false => exact .inl rfl
  | true => exact .inr fun hlifts => h ⟨hdue, hlifts⟩

/-- Below its limit a pass with something to deliver sends what can be rendered. -/
theorem sent_of_lifts (hnamed : x.resource.key?.isSome = true) {spec : Spec} (hvalid : x.spec = .ok spec)
    (hdue : x.isDue = true) (hlifts : x.Lifts x) : x.sent = (x.rendered spec).toOption.toList := by
  obtain ⟨key, hkey⟩ := Option.isSome_iff_exists.mp hnamed
  obtain ⟨ds, hds, hkept⟩ :=
    Pass.deliverOnce_ensures x.clock key (r := x.resource) hvalid x.world
  unfold sent
  rw [outcome_eq hkey, hds.grows.events, x.unseen, List.nil_append, hkept, Deeds.requests_eventsOf,
    callsOf_kept]
  have hplan := Call.plan_dispatch (mapping_of_spec hvalid) x.status
  unfold Plan.deliver at hplan
  rw [due_of_spec hvalid, hdue, (limit_of_spec hvalid).mpr hlifts] at hplan
  have hrequest := Turn.request?_of_attempts
    (t := .ofPass spec x.clock.time .dispatch x.status x.world) hplan
  show [Turn.ofPass spec x.clock.time .dispatch x.status x.world].filterMap Turn.request? = _
  rw [List.filterMap_cons, hrequest]
  show _ = (renderRequest spec x.status .create x.declaration.template x.world).1.toOption.toList
  unfold Turn.rendered
  cases h : (renderRequest spec x.status .create x.declaration.template x.world).1 <;>
    simp [Turn.ofPass, Call.action, h, Except.toOption]

/-- The pass over an invalid declaration sends nothing, and counts a failure unless the cluster refuses its
status. -/
theorem quiet_of_invalid (hnamed : x.resource.key?.isSome = true) {e : ConfigError}
    (hinvalid : x.spec = .error e) :
    x.sent = [] ∧ x.status.failed.toInt ≤ (x.after.getD {}).failed.toInt := by
  obtain ⟨key, hkey⟩ := Option.isSome_iff_exists.mp hnamed
  obtain ⟨ds, hds, hreject⟩ := Pass.reject_ensures x.clock key x.status e x.world
  have houtcome : x.outcome = (Pass.reject x.clock key x.status e).exec x.world := by
    rw [outcome_eq hkey, Pass.deliverOnce_of_invalid x.clock key hinvalid]
    rfl
  rw [← houtcome] at hds
  have hevents : eventsOf ds = [.called (.patchStatus key (x.status.record
      (.failed none none (Cause.configuration e.message).message) x.clock.wallTime))] := by
    rw [hreject]
    rfl
  refine ⟨?_, ?_⟩
  · unfold sent
    rw [hds.grows.events, x.unseen, hevents]
    rfl
  · unfold after
    rw [x.resource.afterEvents_of_grows x.unseen hds.grows, hevents, Resource.afterEvents_called]
    split
    · have hcount := toInt_countFailure x.status.failed
      have hbound := x.status.failed.toInt_lt
      show _ ≤ (x.status.record (.failed none none (Cause.configuration e.message).message)
        x.clock.wallTime).failed.toInt
      rw [Status.record_failed]
      simp only
      omega
    · exact Int.le_refl _

/-- A pass that is not to send anything leaves a count of failures that is no smaller. -/
theorem quiet_of_not_lifts (hnamed : x.resource.key?.isSome = true) (h : ¬x.Lifts x) :
    x.sent = [] ∧ x.status.failed.toInt ≤ (x.after.getD {}).failed.toInt := by
  cases hspec : x.spec with
  | ok spec =>
    have houtcome := outcome_of_blocked hnamed hspec fun hlifts => h hlifts.2
    unfold sent after Resource.afterEvents
    rw [houtcome, x.unseen]
    exact ⟨rfl, Int.le_refl _⟩
  | error e => exact quiet_of_invalid hnamed hspec

/-! ### After a pass that was halted -/

namespace IsHalted

variable (halted : o.IsHalted)

include halted

theorem isDue_and_not_lifts : o.isDue = true ∧ ¬o.Lifts o := by
  obtain ⟨spec, hvalid, hexhausted⟩ := halted.exhausted
  rw [Turn.dispatch_isExhausted_iff (mapping_of_spec hvalid), due_of_spec hvalid, ne_eq,
    limit_of_spec hvalid] at hexhausted
  exact ⟨by simpa using hexhausted.1, hexhausted.2⟩

/-- The limit still holds where no fewer failures have been counted. -/
theorem not_lifts_of_kept (kept : x.declaration.retriesLimit = o.declaration.retriesLimit)
    (hfailed : o.status.failed.toInt ≤ x.status.failed.toInt) : ¬x.Lifts x := by
  intro hlifts
  refine halted.isDue_and_not_lifts.2 fun l hl => ?_
  exact Int.lt_of_le_of_lt hfailed (hlifts l (kept.trans hl))

/-- Such a pass did nothing, so the next one goes by the same status. -/
theorem status_of_follows (follows : x.Follows o) : x.status = o.status := by
  obtain ⟨spec, hvalid, -⟩ := halted.exhausted
  have houtcome := outcome_of_blocked halted.named hvalid fun h => halted.isDue_and_not_lifts.2 h.2
  have hafter : o.after = o.stored := by
    unfold after Resource.afterEvents
    rw [houtcome, o.unseen]
    rfl
  unfold status
  rw [follows.stored, hafter]

/-- As long as the limit is kept, no failure that was counted is forgotten. -/
theorem failed_le_of_leadsTo (leads : o.LeadsTo x) :
    x.resource.key?.isSome = true ∧ o.status.failed.toInt ≤ x.status.failed.toInt := by
  induction leads with
  | next follows =>
    rw [follows.key, halted.status_of_follows follows]
    exact ⟨halted.named, Int.le_refl _⟩
  | @later x y _ kept follows ih =>
    obtain ⟨hnamed, hfailed⟩ := ih
    have hquiet := quiet_of_not_lifts hnamed (halted.not_lifts_of_kept kept hfailed)
    refine ⟨by rw [follows.key]; exact hnamed, ?_⟩
    unfold status
    rw [follows.stored]
    exact Int.le_trans hfailed hquiet.2

/-- So nothing is sent, whatever else is edited. -/
theorem sent_of_leadsTo (leads : o.LeadsTo x)
    (kept : x.declaration.retriesLimit = o.declaration.retriesLimit) : x.sent = [] := by
  obtain ⟨hnamed, hfailed⟩ := halted.failed_le_of_leadsTo leads
  exact (quiet_of_not_lifts hnamed (halted.not_lifts_of_kept kept hfailed)).1

end IsHalted

/-- **A disposable request that was halted is sent again exactly after an edit that lifts its limit.** The
first pass after a valid edit sends what can be rendered if the limit is now above the count of failures,
and does nothing otherwise. With the limit left as it is no pass ever sends anything. -/
theorem resumes_of_lifts (halted : o.IsHalted) :
    (∀ (x : Round) (spec : Spec), x.Follows o → x.spec = .ok spec →
      (x.isDue = true ∧ x.Lifts o → x.sent = (x.rendered spec).toOption.toList) ∧
        (¬(x.isDue = true ∧ x.Lifts o) → x.outcome = (.ok .onChange, x.world))) ∧
      ∀ x : Round, o.LeadsTo x → x.declaration.retriesLimit = o.declaration.retriesLimit →
        x.sent = [] := by
  refine ⟨fun x spec follows hvalid => ?_, fun x leads kept => halted.sent_of_leadsTo leads kept⟩
  have hnamed : x.resource.key?.isSome = true := by rw [follows.key]; exact halted.named
  have hlifts : x.Lifts o ↔ x.Lifts x := by
    unfold Lifts
    rw [halted.status_of_follows follows]
  rw [hlifts]
  exact ⟨fun h => sent_of_lifts hnamed hvalid h.1 h.2, outcome_of_blocked hnamed hvalid⟩

end

/-! ### An order that is never sent again -/

/-- A pass over an order that is to fail no more often than a limit. -/
def orderRound (url : String) (limit : Option Int32) (stored : Option Status) (code : UInt16) : Round where
  settings := {}
  clock := ⟨⟨1714564800, false⟩, ⟨1714564800, false⟩⟩
  metadata := { name := some "order-1", inNamespace := some "shop" }
  declaration := { url, method := "POST", retriesLimit := limit }
  stored
  world := { otherwise := .answers { statusCode := code } (.ofSeconds 0) }
  unseen := rfl

/-- The order has failed once, and one failure is all that its limit allows. -/
def haltedOrder : Round :=
  orderRound "http://shop/orders" (some 1)
    (orderRound "http://shop/orders" (some 1) none 500).after 200

/-- The address of the order has been edited. -/
def movedOrder (limit : Option Int32) : Round :=
  orderRound "http://shop/v2/orders" limit haltedOrder.after 200

theorem haltedOrder_isHalted : haltedOrder.IsHalted where
  named := rfl
  exhausted := ⟨_, rfl, by decide +kernel⟩

/-- The edit does not have the order sent, though it could be. -/
theorem movedOrder_unsent :
    haltedOrder.IsHalted ∧ (movedOrder (some 1)).Follows haltedOrder ∧
      (movedOrder (some 1)).declaration.retriesLimit = haltedOrder.declaration.retriesLimit ∧
      (movedOrder (some 1)).declaration.url ≠ haltedOrder.declaration.url ∧
      ∃ spec, (movedOrder (some 1)).spec = .ok spec ∧
        ((movedOrder (some 1)).rendered spec).isOk = true ∧ (movedOrder (some 1)).sent = [] :=
  ⟨haltedOrder_isHalted, ⟨rfl, rfl⟩, rfl, by decide, _, rfl, by decide +kernel, by decide +kernel⟩

/-- An edit that also allows a second failure does. -/
theorem movedOrder_sent :
    haltedOrder.IsHalted ∧ (movedOrder (some 2)).Follows haltedOrder ∧
      (movedOrder (some 2)).isDue = true ∧ (movedOrder (some 2)).Lifts haltedOrder ∧
      ∃ spec, (movedOrder (some 2)).spec = .ok spec ∧
        (movedOrder (some 2)).sent = ((movedOrder (some 2)).rendered spec).toOption.toList ∧
        (movedOrder (some 2)).sent.length = 1 := by
  have hfollows : (movedOrder (some 2)).Follows haltedOrder := ⟨rfl, rfl⟩
  have hdue : (movedOrder (some 2)).isDue = true := by decide +kernel
  have hlifts : (movedOrder (some 2)).Lifts haltedOrder := by
    intro l hl
    cases hl
    decide +kernel
  have hsent := ((resumes_of_lifts haltedOrder_isHalted).1 _ _ hfollows rfl).1 ⟨hdue, hlifts⟩
  exact ⟨haltedOrder_isHalted, hfollows, hdue, hlifts, _, rfl, hsent, by decide +kernel⟩

end Round

end HttpResource
