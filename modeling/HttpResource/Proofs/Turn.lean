/-
# What a call does, and what it reports

Every call has the same three parts. Its plan is to end at once or to make a request of a template; the
attempt at that request is all that it does outside of the cluster, apart from copying response fields
into secrets; and what it reports depends on the attempt alone (`Call.perform_eq`). A turn is a call
with everything that it meets, and `Turn.account` says all that can become of one.

Key definitions: `Call.plan`, `Call.report`, `Ending`, `Turn`, `Turn.Account`.
Key theorems: `attempt_attempted`, `Call.perform_eq`, `Turn.account`.
-/
import HttpResource.Proofs.Trace
import HttpResource.Reconcile

namespace HttpResource

/-! ### Attempts -/

section

variable [Template.Engine] [Url.Reader]
  (spec : Spec) (status : Status) (action : Action) (m : Mapping) (w : World)

theorem attempt_eq : attempt spec status action m w =
    match renderRequest spec status action m w with
    | (.error e, w') => (.unrendered e, w')
    | (.ok request, w') =>
      match World.send spec.waitTimeout spec.insecureSkipTlsVerify request w' with
      | (.error e, w'') => (.unanswered request e, w'')
      | (.ok response, w'') => (.answered request response, w'') := by
  unfold attempt
  rw [Act.bind_apply]
  rcases renderRequest spec status action m w with ⟨_ | request, w'⟩
  · rfl
  · simp only [Act.bind_apply]
    rcases World.send spec.waitTimeout spec.insecureSkipTlsVerify request w' with ⟨_ | _, _⟩ <;> rfl

/-- An attempt goes as far as its request can be rendered and is answered in time. -/
theorem attempt_fst : (attempt spec status action m w).1 =
    match (renderRequest spec status action m w).1 with
    | .error e => .unrendered e
    | .ok request =>
      match w.reply.within spec.waitTimeout with
      | .error e => .unanswered request e
      | .ok response => .answered request response := by
  obtain ⟨reads, -, hw⟩ := renderRequest_world spec status action m w
  rw [attempt_eq]
  generalize renderRequest spec status action m w = rendered at *
  obtain ⟨e | request, w'⟩ := rendered
  · rfl
  · have hsend := w'.send_result spec.waitTimeout spec.insecureSkipTlsVerify request
    -- the secrets read for the request leave the reply to it as it is
    have hreply : w'.reply = w.reply := by
      rw [show w' = w.recordAll reads from hw]
      rfl
    rw [hreply] at hsend
    simp only
    rw [← hsend]
    rcases World.send spec.waitTimeout spec.insecureSkipTlsVerify request w' with ⟨_ | _, _⟩ <;> rfl

/-- What can be seen of an attempt `a` that has changed a world. It reads secrets, then sends at most one
request. The request carries the action, and the response is the next reply of the external system, if
it is in time. -/
structure Attempted (a : Attempt) (w' : World) : Prop where
  grows : ∃ reads, (∀ e ∈ reads, e.isSecretRead = true) ∧
    w.Grows (reads ++ a.request?.toList.map (.sent · spec.insecureSkipTlsVerify)) w'
  action : ∀ q, a.request? = some q → q.action = some action
  response : a.response? = a.request?.bind fun _ => (w.reply.within spec.waitTimeout).toOption

theorem attempt_attempted :
    Attempted spec action w (attempt spec status action m w).1 (attempt spec status action m w).2 := by
  obtain ⟨reads, hreads, hw⟩ := renderRequest_world spec status action m w
  have haction : ∀ q, (renderRequest spec status action m w).1 = .ok q → q.action = some action :=
    fun _ => renderRequest_action spec status action m w
  rw [attempt_eq]
  generalize renderRequest spec status action m w = rendered at hw haction ⊢
  rcases rendered with ⟨e | request, w'⟩
  · -- nothing is sent where there is no request
    simp only at hw ⊢
    subst hw
    exact ⟨⟨reads, hreads, by simpa [Attempt.request?] using World.Grows.recordAll w reads⟩,
      by simp [Attempt.request?], rfl⟩
  · simp only at hw ⊢
    subst hw
    have hsend := (w.recordAll reads).send_result spec.waitTimeout spec.insecureSkipTlsVerify request
    have hgrows := (World.Grows.recordAll w reads).trans
      ((w.recordAll reads).send_grows spec.waitTimeout spec.insecureSkipTlsVerify request)
    have hreply : (w.recordAll reads).reply = w.reply := rfl
    have hcarries : ∀ q, some request = some q → q.action = some action := by
      intro q hq
      cases hq
      exact haction _ rfl
    generalize World.send spec.waitTimeout spec.insecureSkipTlsVerify request (w.recordAll reads) =
      answer at hsend hgrows ⊢
    rcases answer with ⟨e | response, w''⟩
    all_goals
      simp only [hreply] at hsend hgrows ⊢
      exact ⟨⟨reads, hreads, hgrows⟩, hcarries, by simp [Attempt.response?, Attempt.request?, ← hsend,
        Except.toOption]⟩

end

/-! ### The parts of a call -/

theorem Report.map_map {α β γ : Type} (f : α → β) (g : β → γ) (r : Report α) :
    (r.map f).map g = r.map (g ∘ f) := by
  rcases r with ⟨_ | _, _⟩ <;> rfl

/-- What a call comes to before it does anything: its end, or a template to make a request of. -/
inductive Plan
  | ends (r : Report Answer)
  | attempts (m : Mapping)

/-- The plan of a request that changes the external resource. -/
def Plan.deliver (policy : RetryPolicy) (action : Action) (m : Mapping) (spec : Spec)
    (status : Status) : Plan :=
  match Spec.limitReached status.failed spec.retriesLimit, policy with
  | some limit, .halt => .ends (.refused action (.retriesExhausted status.failed limit))
  | _, _ => .attempts m

/-- Whether a cause ends a call before it makes a request. -/
def Cause.isRefusal : Cause → Bool
  | noMapping _ => true
  | retriesExhausted .. => true
  | _ => false

namespace Attempt

/-- What a probe reports. -/
def probeReport (spec : Spec) (status : Status) (time : Timestamp) (a : Attempt) :
    Report Observation :=
  if status.notCreated && !a.isSuccess then .unchanged (.ok .absent)
  else
    match a with
    | .unrendered e => .failed .observe status time a (.render e)
    | .unanswered _ e => .failed .observe status time a (.transport e)
    | .answered request response =>
      match spec.assess response with
      | .ok .removed => .unchanged (.ok .removed)
      | .ok o => .completed status time request response (o = .present true) o
      | .error e => .failed .observe status time a (.predicate e)

/-- The response of a probe that is copied into secrets. -/
def probeCopied? (status : Status) (a : Attempt) : Option Response :=
  if status.notCreated && !a.isSuccess then none else a.response?

/-- What a request reports that changes the external resource. -/
def deliveryReport (action : Action) (status : Status) (time : Timestamp)
    (verdict : Response → Option Cause) (a : Attempt) : Report Unit :=
  match a with
  | .unrendered e => .failed action status time a (.render e)
  | .unanswered _ e => .failed action status time a (.transport e)
  | .answered request response =>
    match verdict response with
    | some cause => .failed action status time a cause
    | none => .completed status time request response true ()

end Attempt

/-- Copies a response into secrets, if there is one to be copied. -/
def copyInto (spec : Spec) : Option Response → Act Unit
  | some response => inject spec.waitTimeout spec.injections response
  | none => pure ()

theorem Act.AccessClosed.copyInto {P : ∀ {α : Type}, Act α → Prop} (h : AccessClosed P) (spec : Spec) :
    ∀ response?, P (copyInto spec response?)
  | some _ => h.inject _ _ _
  | none => h.pure _

theorem copyInto_accesses (spec : Spec) (response? : Option Response) :
    OnlyAccesses (copyInto spec response?) := OnlyAccesses.accessClosed.copyInto spec response?

section

variable [Template.Engine] [Url.Reader]
  (policy : RetryPolicy) (spec : Spec) (status : Status) (time : Timestamp) (w : World)

theorem observe_eq : observe spec status time w =
    match Spec.mapping? spec.mappings .observe with
    | none => (.refused .observe (.noMapping .observe), w)
    | some m =>
      let (a, w') := attempt spec status .observe m w
      (a.probeReport spec status time, (copyInto spec (a.probeCopied? status) w').2) := by
  unfold observe
  cases Spec.mapping? spec.mappings .observe with
  | none => rfl
  | some m =>
    simp only [Act.bind_apply]
    generalize attempt spec status .observe m w = tried
    obtain ⟨a, w'⟩ := tried
    unfold Attempt.probeReport Attempt.probeCopied?
    by_cases h : (status.notCreated && !a.isSuccess) = true
    · simp only [h, if_true]
      rfl
    · simp only [h, Bool.false_eq_true, if_false]
      cases a with
      | unrendered e => rfl
      | unanswered request e => rfl
      | answered request response =>
        simp only [Act.bind_apply, Attempt.response?, copyInto]
        rcases spec.assess response with e | _ | _ | _ <;> rfl

theorem deliver_eq (action : Action) (m : Mapping) (verdict : Response → Option Cause) :
    deliver policy action m spec status time verdict w =
      match Spec.limitReached status.failed spec.retriesLimit, policy with
      | some limit, .halt => (.refused action (.retriesExhausted status.failed limit), w)
      | _, _ =>
        let (a, w') := attempt spec status action m w
        (a.deliveryReport action status time verdict, (copyInto spec a.response? w').2) := by
  unfold deliver
  rcases Spec.limitReached status.failed spec.retriesLimit with _ | limit <;> cases policy
  case some.halt => rfl
  all_goals
    simp only [Act.bind_apply]
    generalize attempt spec status action m w = tried
    obtain ⟨a, w'⟩ := tried
    cases a with
    | unrendered e => rfl
    | unanswered request e => rfl
    | answered request response =>
      simp only [Act.bind_apply, Attempt.response?, copyInto, Attempt.deliveryReport]
      cases verdict response <;> rfl

end

namespace Call

/-- Whether and of which template a call makes a request. -/
def plan (policy : RetryPolicy) (spec : Spec) (status : Status) (c : Call) : Plan :=
  match c, Spec.mapping? spec.mappings c.action with
  | observe, none => .ends (.refused .observe (.noMapping .observe))
  | observe, some m => .attempts m
  | dispatch, m? =>
    if status.synced && !spec.shouldLoop then .ends (.unchanged (.ok (.dispatched .alreadySynced)))
    else
      match m? with
      | none => .ends (.refused .create (.noMapping .create))
      | some m => .deliver policy .create m spec status
  | _, none => .ends (.unchanged (.ok .deployed))
  | c, some m => .deliver policy c.action m spec status

/-- What a call reports after its attempt. -/
def report (spec : Spec) (status : Status) (time : Timestamp) (c : Call) (a : Attempt) :
    Report Answer :=
  match c with
  | observe => (a.probeReport spec status time).map .observed
  | dispatch =>
    (a.deliveryReport .create status time (disposableVerdict spec.expectedCheck)).map fun _ =>
      .dispatched .sent
  | c => (a.deliveryReport c.action status time deployVerdict).map fun _ => .deployed

/-- The response that a call copies into secrets. -/
def copied? (status : Status) (c : Call) (a : Attempt) : Option Response :=
  match c with
  | observe => a.probeCopied? status
  | _ => a.response?

/-- **A call is its plan, an attempt, and a report that depends on the attempt alone.** -/
theorem perform_eq [Template.Engine] [Url.Reader] (policy : RetryPolicy) (spec : Spec) (status : Status)
    (time : Timestamp) (c : Call) (w : World) :
    c.perform policy spec status time w =
      match c.plan policy spec status with
      | .ends r => (r, w)
      | .attempts m =>
        let (a, w') := attempt spec status c.action m w
        (c.report spec status time a, (copyInto spec (c.copied? status a) w').2) := by
  have hdeploy (c : Call) (hne : c ≠ .observe ∧ c ≠ .dispatch) :
      (do return (← deploy policy c.action spec status time).map fun _ => .deployed : Act (Report Answer))
        w = match c.plan policy spec status with
      | .ends r => (r, w)
      | .attempts m =>
        let (a, w') := attempt spec status c.action m w
        (c.report spec status time a, (copyInto spec (c.copied? status a) w').2) := by
    simp only [Act.bind_apply, Act.pure_apply]
    cases c with
    | observe => exact absurd rfl hne.1
    | dispatch => exact absurd rfl hne.2
    | _ =>
      unfold deploy plan
      simp only [action]
      cases Spec.mapping? spec.mappings _ with
      | none => rfl
      | some m =>
        simp only [deliver_eq, Plan.deliver]
        rcases Spec.limitReached status.failed spec.retriesLimit with _ | limit <;> cases policy <;> rfl
  cases c with
  | create => exact hdeploy .create (by decide)
  | update => exact hdeploy .update (by decide)
  | remove => exact hdeploy .remove (by decide)
  | observe =>
    unfold perform plan
    simp only [Act.bind_apply, Act.pure_apply, observe_eq, action]
    cases Spec.mapping? spec.mappings .observe <;> rfl
  | dispatch =>
    unfold perform plan HttpResource.dispatch
    simp only [Act.bind_apply, Act.pure_apply, action]
    split
    · rfl
    · cases Spec.mapping? spec.mappings .create with
      | none => rfl
      | some m =>
        simp only [Act.bind_apply, Act.pure_apply, deliver_eq, Plan.deliver, Report.map_map]
        rcases Spec.limitReached status.failed spec.retriesLimit with _ | limit <;> cases policy <;> rfl

/-- A call that ends at once succeeds without a word, or is refused. -/
theorem plan_ends {policy : RetryPolicy} {spec : Spec} {status : Status} {c : Call} {r : Report Answer}
    (h : c.plan policy spec status = .ends r) :
    (∃ x, r = .unchanged (.ok x)) ∨ ∃ cause, cause.isRefusal = true ∧ r = .refused c.action cause := by
  have hdeliver (action : Action) (m : Mapping) (h : Plan.deliver policy action m spec status = .ends r) :
      ∃ cause, cause.isRefusal = true ∧ r = .refused action cause := by
    unfold Plan.deliver at h
    split at h
    · cases h
      exact ⟨_, rfl, rfl⟩
    · cases h
  unfold plan at h
  split at h
  · cases h
    exact .inr ⟨_, rfl, rfl⟩
  · cases h
  · split at h
    · cases h
      exact .inl ⟨_, rfl⟩
    · split at h
      · cases h
        exact .inr ⟨_, rfl, rfl⟩
      · exact .inr (hdeliver _ _ h)
  · cases h
    exact .inl ⟨_, rfl⟩
  · exact .inr (hdeliver _ _ h)

/-- A call that makes a request has a template for it and, if it is to change the external resource, has
not been stopped by the limit on failures. -/
theorem plan_attempts {policy : RetryPolicy} {spec : Spec} {status : Status} {c : Call} {m : Mapping}
    (h : c.plan policy spec status = .attempts m) :
    Spec.mapping? spec.mappings c.action = some m ∧
      (c = .observe ∨ policy = .proceed ∨ Spec.limitReached status.failed spec.retriesLimit = none) := by
  have hdeliver {action : Action} {m' : Mapping}
      (h : Plan.deliver policy action m' spec status = .attempts m) :
      m' = m ∧ (policy = .proceed ∨ Spec.limitReached status.failed spec.retriesLimit = none) := by
    unfold Plan.deliver at h
    cases hlimit : Spec.limitReached status.failed spec.retriesLimit with
    | none =>
      rw [hlimit] at h
      cases h
      exact ⟨rfl, .inr rfl⟩
    | some limit =>
      rw [hlimit] at h
      cases policy with
      | halt => cases h
      | proceed =>
        cases h
        exact ⟨rfl, .inl rfl⟩
  unfold plan at h
  split at h
  · cases h
  · cases h
    exact ⟨‹_›, .inl rfl⟩
  · split at h
    · cases h
    · split at h
      · cases h
      · obtain ⟨rfl, hlimit⟩ := hdeliver h
        exact ⟨‹_›, .inr hlimit⟩
  · cases h
  · obtain ⟨rfl, hlimit⟩ := hdeliver h
    exact ⟨‹_›, .inr hlimit⟩

end Call

/-! ### Endings -/

/-- The ways in which a call ends after an attempt. -/
inductive Ending (c : Call) (status : Status) (time : Timestamp) (a : Attempt) : Report Answer → Prop
  /-- A probe finds nothing there, and nothing is recorded. -/
  | unrecorded (o : Observation) (probe : c = .observe) (gone : o.needsCreate = true) :
      Ending c status time a (.unchanged (.ok (.observed o)))
  | failed (cause : Cause) (tried : cause.isRefusal = false) :
      Ending c status time a (.failed c.action status time a cause)
  | completed (request : RequestDetails) (response : Response) (synced : Bool) (x : Answer)
      (answered : a = .answered request response) :
      Ending c status time a (.completed status time request response synced x)

theorem deployVerdict_isRefusal {response : Response} {cause : Cause}
    (h : deployVerdict response = some cause) : cause.isRefusal = false := by
  unfold deployVerdict at h
  split at h <;> cases h
  rfl

theorem disposableVerdict_isRefusal {check : Check} {response : Response} {cause : Cause}
    (h : disposableVerdict check response = some cause) : cause.isRefusal = false := by
  unfold disposableVerdict at h
  split at h
  · split at h <;> cases h <;> rfl
  · cases h
    rfl

namespace Call

variable {spec : Spec} {status : Status} {time : Timestamp}

theorem probe_ending (a : Attempt) : Ending .observe status time a (observe.report spec status time a) := by
  unfold report
  simp only
  unfold Attempt.probeReport
  split
  · exact .unrecorded .absent rfl rfl
  · cases a with
    | unrendered e => exact .failed (.render e) rfl
    | unanswered request e => exact .failed (.transport e) rfl
    | answered request response =>
      simp only
      split
      · exact .unrecorded .removed rfl rfl
      · exact .completed request response _ _ rfl
      · exact .failed (.predicate _) rfl

theorem delivery_ending (c : Call) (verdict : Response → Option Cause) (x : Answer)
    (hverdict : ∀ response cause, verdict response = some cause → cause.isRefusal = false) (a : Attempt) :
    Ending c status time a ((a.deliveryReport c.action status time verdict).map fun _ => x) := by
  unfold Attempt.deliveryReport
  cases a with
  | unrendered e => exact .failed (.render e) rfl
  | unanswered request e => exact .failed (.transport e) rfl
  | answered request response =>
    simp only
    split
    · rename_i cause h
      exact .failed cause (hverdict response cause h)
    · exact .completed request response true x rfl

theorem report_ending (c : Call) (a : Attempt) : Ending c status time a (c.report spec status time a) := by
  cases c with
  | observe => exact probe_ending a
  | dispatch => exact delivery_ending .dispatch _ _ (fun _ _ => disposableVerdict_isRefusal) a
  | create => exact delivery_ending .create _ _ (fun _ _ => deployVerdict_isRefusal) a
  | update => exact delivery_ending .update _ _ (fun _ _ => deployVerdict_isRefusal) a
  | remove => exact delivery_ending .remove _ _ (fun _ _ => deployVerdict_isRefusal) a

end Call

/-! ### Turns -/

/-- A call with everything that it meets. -/
structure Turn where
  call : Call
  policy : RetryPolicy
  spec : Spec
  time : Timestamp
  world : World
  /-- The status that the call is given. -/
  before : Status

namespace Turn

variable [Template.Engine] [Url.Reader]

def outcome (t : Turn) : Report Answer × World :=
  t.call.perform t.policy t.spec t.before t.time t.world

def report (t : Turn) : Report Answer := t.outcome.1

def worldAfter (t : Turn) : World := t.outcome.2

/-- The status in effect after the call: the new one, or the old one where there is none. -/
def after (t : Turn) : Status := t.report.status.getD t.before

/-- What the call did. -/
def events (t : Turn) : List Event := t.worldAfter.events.drop t.world.events.length

/-- The request that the call sent. -/
def request? (t : Turn) : Option RequestDetails := (requests t.events).head?

/-- The response that the call received: what the external system answered to its request, if that was in
time. -/
def response? (t : Turn) : Option Response :=
  t.request?.bind fun _ => (t.world.reply.within t.spec.waitTimeout).toOption

/-- What the attempt `a` makes of a turn. -/
structure Tried (t : Turn) (a : Attempt) : Prop where
  grows : t.world.Grows t.events t.worldAfter
  requests : requests t.events = a.request?.toList
  cluster : ∀ e ∈ t.events, e.clusterCall? = none
  action : ∀ q, a.request? = some q → q.action = some t.call.action
  response : t.response? = a.response?
  ending : Ending t.call t.before t.time a t.report

/-- All that can become of a turn. -/
inductive Account (t : Turn) : Prop
  | idle (x : Answer) (world : t.worldAfter = t.world) (report : t.report = .unchanged (.ok x))
  | refused (cause : Cause) (early : cause.isRefusal = true) (world : t.worldAfter = t.world)
      (report : t.report = .refused t.call.action cause)
  | attempted (a : Attempt) (tried : t.Tried a)

theorem request?_of_requests {t : Turn} {q? : Option RequestDetails}
    (h : requests t.events = q?.toList) : t.request? = q? := by
  unfold request?
  rw [h]
  cases q? <;> rfl

theorem outcome_of_ends {t : Turn} {r : Report Answer}
    (h : t.call.plan t.policy t.spec t.before = .ends r) : t.outcome = (r, t.world) := by
  unfold outcome
  rw [Call.perform_eq, h]

theorem outcome_of_attempts {t : Turn} {m : Mapping}
    (h : t.call.plan t.policy t.spec t.before = .attempts m) :
    let tried := attempt t.spec t.before t.call.action m t.world
    t.outcome = (t.call.report t.spec t.before t.time tried.1,
      (copyInto t.spec (t.call.copied? t.before tried.1) tried.2).2) := by
  unfold outcome
  rw [Call.perform_eq, h]
  rfl

theorem report_of_attempts {t : Turn} {m : Mapping}
    (h : t.call.plan t.policy t.spec t.before = .attempts m) :
    t.report = t.call.report t.spec t.before t.time
      (attempt t.spec t.before t.call.action m t.world).1 :=
  congrArg Prod.fst (outcome_of_attempts h)

/-- The events of an attempt are the reads of its rendering, then the request, then the copies. -/
theorem grows_of_attempts {t : Turn} {m : Mapping}
    (h : t.call.plan t.policy t.spec t.before = .attempts m) :
    let a := (attempt t.spec t.before t.call.action m t.world).1
    ∃ reads copies, (∀ e ∈ reads, e.isSecretRead = true) ∧ (∀ e ∈ copies, e.isSecretAccess = true) ∧
      (t.call.copied? t.before a = none → copies = []) ∧
      t.world.Grows (reads ++ a.request?.toList.map (.sent · t.spec.insecureSkipTlsVerify) ++ copies)
        t.worldAfter := by
  have houtcome := outcome_of_attempts h
  obtain ⟨⟨reads, hreads, hgrows⟩, -, -⟩ :=
    attempt_attempted t.spec t.before t.call.action m t.world
  unfold worldAfter
  generalize attempt t.spec t.before t.call.action m t.world = tried at *
  obtain ⟨a, w⟩ := tried
  simp only at houtcome hgrows ⊢
  rw [houtcome]
  cases hcopied : t.call.copied? t.before a with
  | none => exact ⟨reads, [], hreads, by simp, fun _ => rfl, by rw [List.append_nil]; exact hgrows⟩
  | some response =>
    obtain ⟨copies, hcopies, hcopy⟩ := copyInto_accesses t.spec (some response) w
    exact ⟨reads, copies, hreads, hcopies, nofun, hgrows.trans hcopy⟩

theorem tried_of_attempts {t : Turn} {m : Mapping}
    (h : t.call.plan t.policy t.spec t.before = .attempts m) :
    t.Tried (attempt t.spec t.before t.call.action m t.world).1 := by
  obtain ⟨-, haction, hresponse⟩ := attempt_attempted t.spec t.before t.call.action m t.world
  obtain ⟨reads, copies, hreads, hcopies, -, hgrows⟩ := grows_of_attempts h
  have hreport := report_of_attempts h
  have hevents := hgrows.drop_events
  change t.events = _ at hevents
  generalize (attempt t.spec t.before t.call.action m t.world).1 = a at *
  have hrequests : requests t.events = a.request?.toList := by
    rw [hevents, requests_append, requests_append, requests_of_secretAccess hcopies,
      requests_of_secretAccess fun e he => Event.isSecretAccess_of_isSecretRead (hreads e he)]
    cases a.request? <;> rfl
  refine ⟨?_, hrequests, fun e he => ?_, haction, ?_, ?_⟩
  · rw [hevents]
    exact hgrows
  · rw [hevents, List.mem_append, List.mem_append] at he
    rcases he with (he | he) | he
    · exact Event.clusterCall?_of_isSecretAccess (Event.isSecretAccess_of_isSecretRead (hreads e he))
    · obtain ⟨q, -, rfl⟩ := List.mem_map.mp he
      rfl
    · exact Event.clusterCall?_of_isSecretAccess (hcopies e he)
  · unfold response?
    rw [request?_of_requests hrequests, hresponse]
  · rw [hreport]
    exact t.call.report_ending a

/-- The request that a turn makes of a template, or why there is none. -/
def rendered (t : Turn) (m : Mapping) : Except RenderError RequestDetails :=
  (renderRequest t.spec t.before t.call.action m t.world).1

/-- What comes of a request of the turn before its deadline. -/
def answer (t : Turn) : Except TransportError Response := t.world.reply.within t.spec.waitTimeout

/-- A turn that comes to an attempt sends what it has rendered. -/
theorem request?_of_attempts {t : Turn} {m : Mapping}
    (h : t.call.plan t.policy t.spec t.before = .attempts m) :
    t.request? = (t.rendered m).toOption := by
  rw [request?_of_requests (tried_of_attempts h).requests, attempt_fst]
  unfold rendered
  rcases (renderRequest t.spec t.before t.call.action m t.world).1 with e | q
  · rfl
  · rcases t.world.reply.within t.spec.waitTimeout with e | r <;> rfl

/-- And it receives the answer to that. -/
theorem response?_of_attempts {t : Turn} {m : Mapping}
    (h : t.call.plan t.policy t.spec t.before = .attempts m) :
    t.response? = (t.rendered m).toOption.bind fun _ => t.answer.toOption := by
  unfold response?
  rw [request?_of_attempts h]
  rfl

/-- **A turn is idle, refused, or an attempt that ends in a known way.** -/
theorem account (t : Turn) : t.Account := by
  cases h : t.call.plan t.policy t.spec t.before with
  | attempts m => exact .attempted _ (tried_of_attempts h)
  | ends r =>
    have houtcome := outcome_of_ends h
    have hworld : t.worldAfter = t.world := congrArg Prod.snd houtcome
    have hreport : t.report = r := congrArg Prod.fst houtcome
    rcases Call.plan_ends h with ⟨x, rfl⟩ | ⟨cause, hcause, rfl⟩
    · exact .idle x hworld hreport
    · exact .refused cause hcause hworld hreport

theorem events_of_worldAfter {t : Turn} (h : t.worldAfter = t.world) : t.events = [] := by
  simp [events, h]

/-- A call appends to the events of its world and leaves the cluster's refusals. -/
theorem grows (t : Turn) : t.world.Grows t.events t.worldAfter := by
  cases t.account with
  | idle x world _ => rw [events_of_worldAfter world, world]; exact .refl _
  | refused cause _ world _ => rw [events_of_worldAfter world, world]; exact .refl _
  | attempted a tried => exact tried.grows

/-- A call sends at most one request. -/
theorem requests_events (t : Turn) : requests t.events = t.request?.toList := by
  cases t.account with
  | idle x world _ => simp [request?, requests, events_of_worldAfter world]
  | refused cause _ world _ => simp [request?, requests, events_of_worldAfter world]
  | attempted a tried => rw [request?_of_requests tried.requests, tried.requests]

theorem request?_action {t : Turn} {q : RequestDetails} (hq : t.request? = some q) :
    q.action = some t.call.action := by
  cases t.account with
  | idle x world _ => simp [request?, requests, events_of_worldAfter world] at hq
  | refused cause _ world _ => simp [request?, requests, events_of_worldAfter world] at hq
  | attempted a tried => exact tried.action q (request?_of_requests tried.requests ▸ hq)

/-- A call sends a request exactly if it comes to an attempt and the request can be rendered. -/
theorem request?_isSome_iff (t : Turn) : t.request?.isSome = true ↔
    ∃ m, t.call.plan t.policy t.spec t.before = .attempts m ∧
      (renderRequest t.spec t.before t.call.action m t.world).1.isOk = true := by
  cases h : t.call.plan t.policy t.spec t.before with
  | ends r =>
    have hworld : t.worldAfter = t.world := congrArg Prod.snd (outcome_of_ends h)
    simp [request?, requests, events_of_worldAfter hworld]
  | attempts m =>
    rw [request?_of_attempts h]
    unfold rendered
    cases hrendered : (renderRequest t.spec t.before t.call.action m t.world).1 <;>
      simp [hrendered, Except.toOption, Except.isOk, Except.toBool]

/-- A call makes no request to the cluster. -/
theorem clusterCall?_events (t : Turn) : ∀ e ∈ t.events, e.clusterCall? = none := by
  cases t.account with
  | idle x world _ => simp [events_of_worldAfter world]
  | refused cause _ world _ => simp [events_of_worldAfter world]
  | attempted a tried => exact tried.cluster

/-- What a turn records: nothing, or what it sent and received with its failure or its success. -/
inductive Recorded (t : Turn) : Prop
  | nothing (status : t.report.status = none)
  | failure (cause : Cause) (result : t.report.result = .error ⟨cause, some t.call.action⟩)
      (status : t.report.status =
        some (t.before.record (.failed t.request? t.response? cause.message) t.time))
  | completion (request : RequestDetails) (response : Response) (synced : Bool) (x : Answer)
      (sent : t.request? = some request) (received : t.response? = some response)
      (result : t.report.result = .ok x)
      (status : t.report.status =
        some (t.before.record (.completed request response synced) t.time))

theorem recorded (t : Turn) : t.Recorded := by
  cases t.account with
  | idle x _ report => exact .nothing (by rw [report]; rfl)
  | refused cause _ _ report => exact .nothing (by rw [report]; rfl)
  | attempted a tried =>
    have hrequest := request?_of_requests tried.requests
    have hresponse := tried.response
    have hending := tried.ending
    generalize hr : t.report = r at hending
    cases hending with
    | unrecorded o _ _ => exact .nothing (by rw [hr]; rfl)
    | failed cause _ =>
      exact .failure cause (by rw [hr]; rfl) (by rw [hr, hrequest, hresponse]; rfl)
    | completed q p synced x answered =>
      subst answered
      exact .completion q p synced x hrequest hresponse (by rw [hr]; rfl) (by rw [hr]; rfl)

end Turn

end HttpResource
