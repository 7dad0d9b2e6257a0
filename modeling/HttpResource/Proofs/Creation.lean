/-
# Whether the external resource was ever created

A run shows whether its resource was ever created: no response was recorded, or the latest one recorded
is an HTTP error that answered a request to create. The status judges by other means, the latest request
recorded together with the latest response, and the two need not belong to each other, since a request
without a response replaces the one field and not the other. So the status agrees with the run exactly
when that mixture makes no difference (`Run.notCreated_eq_neverCreated_iff`), and there are runs where
it does (`Run.timedOutCreate_misjudged`).

Key definitions: `Run.neverCreated`, `Run.lastExchange?`, `Run.lastRequest?`, `Recollects`.
-/
import HttpResource.Template
import HttpResource.Url
import HttpResource.Proofs.Run

namespace HttpResource

/-- Whether a reply that is an answer has a status code. -/
def Reply.hasCode : Reply → Bool
  | answers response _ => response.statusCode != 0
  | _ => true

def RequestDetails.asksToCreate (q : RequestDetails) : Bool := q.action = some .create

section

variable [Template.Engine] [Url.Reader]

namespace Turn

/-- The request that a turn recorded. -/
def recordedRequest? (t : Turn) : Option RequestDetails :=
  if t.report.status.isSome then t.request? else none

/-- The response that a turn recorded, with the request that it answered. -/
def exchange? (t : Turn) : Option (RequestDetails × Response) :=
  t.recordedRequest?.bind fun q => t.response?.map fun r => (q, r)

end Turn

namespace Run

/-- The latest request recorded. -/
def lastRequest? (h : List Turn) : Option RequestDetails := h.findSome? Turn.recordedRequest?

/-- The latest response recorded, with the request that it answered. -/
def lastExchange? (h : List Turn) : Option (RequestDetails × Response) := h.findSome? Turn.exchange?

/-- Whether turns show that the external resource was never created: no response was recorded, or the
latest one is an HTTP error that was received for a request to create. -/
def neverCreated (h : List Turn) : Bool :=
  match lastExchange? h with
  | none => true
  | some (q, r) => q.asksToCreate && r.isHttpError

end Run

/-- What a status still knows of the turns `h`. -/
structure Recollects (h : List Turn) (s : Status) : Prop where
  request : s.requestDetails = (Run.lastRequest? h).getD {}
  response : s.response = ((Run.lastExchange? h).map Prod.snd).getD {}
  /-- Requests name their action. -/
  action : ∀ q, Run.lastRequest? h = some q → q.action.isSome = true
  code : ∀ q r, Run.lastExchange? h = some (q, r) → r.statusCode ≠ 0
  /-- A response recorded comes with a request recorded. -/
  requested : ∀ q r, Run.lastExchange? h = some (q, r) → ∃ q', Run.lastRequest? h = some q'

theorem Turn.response?_code {t : Turn} (hcode : t.world.reply.hasCode = true) {r : Response}
    (hr : t.response? = some r) : r.statusCode ≠ 0 := by
  unfold response? at hr
  obtain ⟨q, -, hr⟩ := Option.bind_eq_some_iff.mp hr
  cases hreply : t.world.reply with
  | answers response delay =>
    rw [hreply] at hcode hr
    unfold Reply.within at hr
    simp only at hr
    split at hr
    · simp [Except.toOption] at hr
    · simp only [Except.toOption, Option.some.injEq] at hr
      subst hr
      simpa [Reply.hasCode] using hcode
  | fails e => simp [hreply, Reply.within, Except.toOption] at hr
  | hangs => simp [hreply, Reply.within, Except.toOption] at hr

/-- A turn that records an outcome records its own request and response. -/
theorem Turn.recollects_outcome {t : Turn} {h : List Turn} (hcode : t.world.reply.hasCode = true)
    (hs : Recollects h t.before) {o : Outcome}
    (hstatus : t.report.status = some (t.before.record o t.time)) (hq : o.request = t.request?)
    (hr : o.response = t.response?) : Recollects (t :: h) t.after := by
  have hafter : t.after = t.before.record o t.time := by simp [after, hstatus]
  have hrequest : t.recordedRequest? = t.request? := by simp [recordedRequest?, hstatus]
  have hexchange : t.exchange? = t.request?.bind fun q => t.response?.map fun r => (q, r) := by
    simp [exchange?, hrequest]
  rw [hafter]
  cases hreq : t.request? with
  | none =>
    -- nothing was sent, so nothing was received, and the status knows what it knew
    have hres : t.response? = none := by simp [response?, hreq]
    rw [hreq] at hrequest hexchange hq
    rw [hres] at hr
    have hlast : Run.lastRequest? (t :: h) = Run.lastRequest? h := by simp [Run.lastRequest?, hrequest]
    have hlast' : Run.lastExchange? (t :: h) = Run.lastExchange? h := by
      simp [Run.lastExchange?, hexchange]
    refine ⟨?_, ?_, hlast ▸ hs.action, hlast' ▸ hs.code, hlast' ▸ hlast ▸ hs.requested⟩
    · rw [Status.record_requestDetails, hq, hlast]
      exact hs.request
    · rw [Status.record_response, hr, hlast']
      exact hs.response
  | some q =>
    rw [hreq] at hrequest hexchange hq
    have hlast : Run.lastRequest? (t :: h) = some q := by simp [Run.lastRequest?, hrequest]
    have hnames : q.action.isSome = true := by simp [request?_action hreq]
    cases hres : t.response? with
    | none =>
      rw [hres] at hexchange hr
      have hlast' : Run.lastExchange? (t :: h) = Run.lastExchange? h := by
        simp [Run.lastExchange?, hexchange]
      refine ⟨?_, ?_, ?_, hlast' ▸ hs.code, fun _ _ _ => ⟨q, hlast⟩⟩
      · rw [Status.record_requestDetails, hq, hlast]
        rfl
      · rw [Status.record_response, hr, hlast']
        exact hs.response
      · rw [hlast]
        rintro q' ⟨⟩
        exact hnames
    | some r =>
      rw [hres] at hexchange hr
      have hlast' : Run.lastExchange? (t :: h) = some (q, r) := by simp [Run.lastExchange?, hexchange]
      refine ⟨?_, ?_, ?_, ?_, fun _ _ _ => ⟨q, hlast⟩⟩
      · rw [Status.record_requestDetails, hq, hlast]
        rfl
      · rw [Status.record_response, hr, hlast']
        rfl
      · rw [hlast]
        rintro q' ⟨⟩
        exact hnames
      · rw [hlast']
        rintro q' r' ⟨⟩
        exact response?_code hcode hres

theorem Turn.keeps_recollection {t : Turn} {h : List Turn} (hcode : t.world.reply.hasCode = true)
    (hs : Recollects h t.before) : Recollects (t :: h) t.after := by
  cases t.recorded with
  | nothing status =>
    have hrequest : t.recordedRequest? = none := by simp [recordedRequest?, status]
    have hexchange : t.exchange? = none := by simp [exchange?, hrequest]
    have hlast : Run.lastRequest? (t :: h) = Run.lastRequest? h := by simp [Run.lastRequest?, hrequest]
    have hlast' : Run.lastExchange? (t :: h) = Run.lastExchange? h := by
      simp [Run.lastExchange?, hexchange]
    have hafter : t.after = t.before := by simp [after, status]
    rw [hafter]
    exact ⟨hlast ▸ hs.request, hlast' ▸ hs.response, hlast ▸ hs.action, hlast' ▸ hs.code,
      hlast' ▸ hlast ▸ hs.requested⟩
  | failure cause result status => exact recollects_outcome hcode hs status rfl rfl
  | completion request response synced x sent received result status =>
    exact recollects_outcome hcode hs status sent.symm received.symm

theorem Run.recollects : ∀ steps : List Run.Step, (∀ x ∈ steps, x.world.reply.hasCode = true) →
    Recollects (turns {} steps) (statusAfter {} steps)
  | [], _ => ⟨rfl, rfl, by simp [turns, lastRequest?], by simp [turns, lastExchange?],
      by simp [turns, lastExchange?]⟩
  | x :: earlier, h =>
    Turn.keeps_recollection (h x List.mem_cons_self)
      (Run.recollects earlier fun y hy => h y (List.mem_cons_of_mem _ hy))

/-- What a status makes of the turns that it recollects: the latest response is taken for one to the
latest request. -/
theorem Recollects.notCreated {h : List Turn} {s : Status} (hs : Recollects h s) :
    s.notCreated =
      match Run.lastExchange? h with
      | none => true
      | some (_, r) => (Run.lastRequest? h).any RequestDetails.asksToCreate && r.isHttpError := by
  have hresponse := hs.response
  unfold Status.notCreated Status.hasResponse
  cases hlast : Run.lastExchange? h with
  | none =>
    rw [hlast] at hresponse
    rw [hresponse]
    rfl
  | some e =>
    obtain ⟨q, r⟩ := e
    have hcode := hs.code q r hlast
    obtain ⟨q', hq'⟩ := hs.requested q r hlast
    have haction := hs.action q' hq'
    have hrequest := hs.request
    rw [hlast] at hresponse
    rw [hq'] at hrequest
    rw [hresponse]
    obtain ⟨a, ha⟩ := Option.isSome_iff_exists.mp haction
    simp only [Option.map_some, Option.getD_some, hq', Option.any_some] at hrequest ⊢
    simp [Status.lastWasCreate, hrequest, ha, hcode, RequestDetails.asksToCreate]

/-- **The status agrees with its run on whether the external resource was ever created, exactly when it
may take the latest response for one to the latest request.** That is so unless the latest response is an
HTTP error and only one of two requests was to create, the latest one and the one that got this
response. -/
theorem Run.notCreated_eq_neverCreated_iff (steps : List Run.Step)
    (hcodes : ∀ x ∈ steps, x.world.reply.hasCode = true) :
    (statusAfter {} steps).notCreated = neverCreated (turns {} steps) ↔
      ∀ q r q', lastExchange? (turns {} steps) = some (q, r) →
        lastRequest? (turns {} steps) = some q' → r.isHttpError = true →
          q'.asksToCreate = q.asksToCreate := by
  have hs := Run.recollects steps hcodes
  rw [hs.notCreated]
  unfold neverCreated
  cases hlast : lastExchange? (turns {} steps) with
  | none => simp
  | some e =>
    obtain ⟨q, r⟩ := e
    obtain ⟨q', hq'⟩ := hs.requested q r hlast
    rw [hq']
    cases hr : r.isHttpError
    · simp [hr]
    · simp [hr]

namespace Run

/-! ### Runs that only create -/

theorem asksToCreate_of_lastRequest? {h : List Turn} (hcreates : ∀ t ∈ h, t.call.action = .create)
    {q : RequestDetails} (hq : lastRequest? h = some q) : q.asksToCreate = true := by
  obtain ⟨t, ht, hq⟩ := List.exists_of_findSome?_eq_some hq
  unfold Turn.recordedRequest? at hq
  split at hq
  · simp [RequestDetails.asksToCreate, Turn.request?_action hq, hcreates t ht]
  · cases hq

theorem asksToCreate_of_lastExchange? {h : List Turn} (hcreates : ∀ t ∈ h, t.call.action = .create)
    {q : RequestDetails} {r : Response} (hq : lastExchange? h = some (q, r)) : q.asksToCreate = true := by
  obtain ⟨t, ht, hexchange⟩ := List.exists_of_findSome?_eq_some hq
  unfold Turn.exchange? Turn.recordedRequest? at hexchange
  split at hexchange
  · obtain ⟨q', hq', hr⟩ := Option.bind_eq_some_iff.mp hexchange
    obtain ⟨r', -, heq⟩ := Option.map_eq_some_iff.mp hr
    cases heq
    simp [RequestDetails.asksToCreate, Turn.request?_action hq', hcreates t ht]
  · cases hexchange

end Run

end

/-! ### A create without a response -/

namespace Run

/-- An item that can be created and observed, with default checks. -/
def itemSpec : Spec where
  mappings := [
    { action := some .create, method := "POST", url := "http://shop/items" },
    { action := some .observe, method := "GET", url := "http://shop/items/1" }]
  payload := {}
  headers := .empty
  expectedCheck := .success
  removedCheck := .notFound
  injections := []
  secretNamespace := some "default"
  waitTimeout := .ofSeconds 5
  insecureSkipTlsVerify := false
  retriesLimit := none
  shouldLoop := false
  nextReconcile := none

/-- A call for the item that meets a reply. -/
def itemStep (call : Call) (reply : Reply) : Step :=
  { call, policy := .halt, spec := itemSpec, time := ⟨1714564800, false⟩
    world := { otherwise := reply } }

/-- The item is created, fails when it is observed, and a second request to create it is not answered. -/
def timedOutCreate : List Step :=
  [itemStep .create (.fails (.failed "connection refused")),
    itemStep .observe (.answers { statusCode := 500 } (.ofSeconds 0)),
    itemStep .create (.answers { statusCode := 201 } (.ofSeconds 0))]

/-- The error that was received for the probe is taken for the answer to the create: the status has it
that the item was never created. -/
theorem timedOutCreate_misjudged :
    (∀ x ∈ timedOutCreate, x.world.reply.hasCode = true) ∧
      (statusAfter {} timedOutCreate).notCreated = true ∧
      neverCreated (turns {} timedOutCreate) = false := by
  decide +kernel

/-- The item is rejected, and a second request to create it is not answered. -/
def rejectedCreate : List Step :=
  [itemStep .create (.fails (.failed "connection refused")),
    itemStep .create (.answers { statusCode := 500 } (.ofSeconds 0))]

/-- Both requests were to create, so status and run agree. -/
theorem rejectedCreate_agrees :
    (statusAfter {} rejectedCreate).notCreated = neverCreated (turns {} rejectedCreate) := by
  have hcodes : ∀ x ∈ rejectedCreate, x.world.reply.hasCode = true := by decide
  have hcreates : ∀ t ∈ turns {} rejectedCreate, t.call.action = .create := by
    intro t ht
    simp only [rejectedCreate, turns, List.mem_cons, List.not_mem_nil, or_false] at ht
    rcases ht with rfl | rfl <;> rfl
  refine (notCreated_eq_neverCreated_iff rejectedCreate hcodes).mpr fun q r q' hexchange hrequest _ => ?_
  rw [asksToCreate_of_lastRequest? hcreates hrequest, asksToCreate_of_lastExchange? hcreates hexchange]

end Run

end HttpResource
