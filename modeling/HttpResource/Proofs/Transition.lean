/-
# The transition of a call

Whatever it meets, a call sends one request at most. If it fails, the failure names its action and, unless
the call was refused before it did anything, is counted in a new status; a refused call leaves no trace at
all. And a new status, after a failure or a success, has the request and the response of this call and its
time, and keeps the earlier request or response where the call had none.

Key definitions: `Turn.Fails`, `Turn.Transition`.
Key theorems: `Turn.failure_cases`, `Turn.transition`.
-/
import HttpResource.Proofs.Run

namespace HttpResource

namespace Turn

variable [Template.Engine] [Url.Reader]

/-- The turn ends in a failure, which is recorded with what was sent and received. -/
def Fails (t : Turn) (cause : Cause) : Prop :=
  t.report.result = .error ⟨cause, some t.call.action⟩ ∧
    t.report.status = some (t.before.record (.failed t.request? t.response? cause.message) t.time)

theorem fails_of_tried {t : Turn} {a : Attempt} {cause : Cause} (tried : t.Tried a)
    (h : t.report = .failed t.call.action t.before t.time a cause) : t.Fails cause := by
  unfold Fails
  rw [h, request?_of_requests tried.requests, tried.response]
  exact ⟨rfl, rfl⟩

/-- A failure is that of a call that was refused and did nothing, or it is recorded. -/
theorem failure_cases {t : Turn} {f : Failure} (h : t.report.result = .error f) :
    f.action = some t.call.action ∧
      (f.cause.isRefusal = true ∧ t.worldAfter = t.world ∧ t.report.status = none ∨
        f.cause.isRefusal = false ∧ t.Fails f.cause) := by
  cases t.account with
  | idle x _ report =>
    rw [report] at h
    cases h
  | refused cause early world report =>
    rw [report] at h
    cases h
    exact ⟨rfl, .inl ⟨early, world, by rw [report]; rfl⟩⟩
  | attempted a tried =>
    have hending := tried.ending
    generalize hr : t.report = r at h hending
    cases hending with
    | unrecorded o _ _ => cases h
    | completed q p synced x _ => cases h
    | failed cause attempted =>
      cases h
      exact ⟨rfl, .inr ⟨attempted, fails_of_tried tried hr⟩⟩

/-- A status that a turn records has what the turn sent and received, and what was there before in the
place of what it did not. -/
structure Retains (t : Turn) (s : Status) : Prop where
  request : s.requestDetails = t.request?.getD t.before.requestDetails
  response : s.response = t.response?.getD t.before.response
  cache : s.cache = (t.response?.map (Cache.mk t.time.text)).getD t.before.cache
  time : s.lastReconcileTime = some t.time.text

theorem retains {t : Turn} {s : Status} (h : t.report.status = some s) : t.Retains s := by
  cases t.recorded with
  | nothing status => cases h.symm.trans status
  | failure cause _ status =>
    cases h.symm.trans status
    rw [Status.record_failed]
    exact ⟨rfl, rfl, rfl, rfl⟩
  | completion request response synced x sent received _ status =>
    cases h.symm.trans status
    rw [Status.record_completed]
    exact ⟨by rw [sent]; rfl, by rw [received]; rfl, by rw [received]; rfl, rfl⟩

/-- What a call does and what it makes of the status that it is given. -/
structure Transition (t : Turn) : Prop where
  single : (requests t.events).length ≤ 1
  /-- A failure names the action of the call, whatever its cause. -/
  named : ∀ f, t.report.result = .error f → f.action = some t.call.action
  /-- A failure is counted, unless the call had no template or was at the limit on failures. -/
  counted : ∀ f, t.report.result = .error f → f.cause.isRefusal = false →
    ∃ s, t.report.status = some s ∧ s.failed.toInt = min 2147483647 (t.before.failed.toInt + 1) ∧
      s.error = f.cause.message ∧ s.synced = false
  /-- In these two cases nothing is recorded, nothing is sent and no secret is touched. -/
  refused : ∀ f, t.report.result = .error f → f.cause.isRefusal = true →
    t.report.status = none ∧ t.request? = none ∧ t.events = []
  retains : ∀ s, t.report.status = some s → t.Retains s

/-- **Every call makes such a transition**, of whatever kind it is and whatever it meets. -/
theorem transition (t : Turn) : t.Transition where
  single := by
    rw [requests_events]
    cases t.request? <;> simp
  named f h := (failure_cases h).1
  counted f h hcause := by
    rcases (failure_cases h).2 with ⟨hrefusal, -, -⟩ | ⟨-, -, hstatus⟩
    · rw [hcause] at hrefusal
      cases hrefusal
    · refine ⟨_, hstatus, ?_⟩
      rw [Status.record_failed]
      exact ⟨toInt_countFailure _, rfl, rfl⟩
  refused f h hcause := by
    rcases (failure_cases h).2 with ⟨-, hworld, hstatus⟩ | ⟨hattempted, -⟩
    · have hevents := events_of_worldAfter hworld
      exact ⟨hstatus, by simp [request?, hevents, requests], hevents⟩
    · rw [hcause] at hattempted
      cases hattempted
  retains _ h := retains h

end Turn

end HttpResource
