/-
# The limit on failures in a row

A request that changes the external resource either brings it in sync or is counted as a failure, and at
the limit no such request is sent. So the failures still allowed by the limit bound the requests that a
run can send before it brings the resource in sync: each of them takes one (`Turn.spends`), whatever the
probes in between take beside, and nothing gives one back (`Run.spends`).

Key definitions: `Run.untilSync`, `Run.mutations`, `Status.retriesLeft`, `Turn.isExhausted`.
Key theorems: `Turn.spends`, `Run.spends`, `Run.mutations_le_limit`.
-/
import HttpResource.Proofs.Accounting
import HttpResource.Proofs.Creation
import HttpResource.Proofs.Transition
import Mathlib.Data.List.DropRight

namespace HttpResource

namespace Spec

theorem limitReached_eq_none_iff {failed : Int32} {limit : Option Int32} :
    limitReached failed limit = none ↔ ∀ l, limit = some l → failed.toInt < l.toInt := by
  unfold limitReached
  rw [Option.filter_eq_none_iff]
  simp only [decide_eq_true_eq, Int32.le_iff_toInt_le, Int.not_le]

end Spec

/-- Whether a request is one to change the external resource. -/
def RequestDetails.isMutating (q : RequestDetails) : Bool := q.action.any Action.isMutating

/-- The failures in a row that a limit still allows. -/
def Status.retriesLeft (limit : Int32) (s : Status) : Nat := (limit.toInt - s.failed.toInt).toNat

/-! ### Requests that change the external resource -/

/-- Such a request fails or brings the resource in sync. -/
theorem Attempt.deliveryReport_cases (action : Action) (status : Status) (time : Timestamp)
    (verdict : Response → Option Cause) (a : Attempt) :
    (∃ cause, a.deliveryReport action status time verdict = .failed action status time a cause) ∨
      ∃ request response,
        a.deliveryReport action status time verdict = .completed status time request response true () := by
  unfold deliveryReport
  cases a with
  | unrendered e => exact .inl ⟨_, rfl⟩
  | unanswered request e => exact .inl ⟨_, rfl⟩
  | answered request response =>
    simp only
    split
    · exact .inl ⟨_, rfl⟩
    · exact .inr ⟨request, response, rfl⟩

namespace Call

variable {spec : Spec} {status : Status} {time : Timestamp} {c : Call}
  (hc : c.action.isMutating = true)

include hc

theorem report_of_mutating (a : Attempt) :
    (∃ cause, c.report spec status time a = .failed c.action status time a cause) ∨
      ∃ request response x, c.report spec status time a = .completed status time request response true x := by
  have hreport : ∃ verdict, ∃ x : Answer, c.report spec status time a =
      (a.deliveryReport c.action status time verdict).map fun _ => x := by
    cases c with
    | observe => cases hc
    | _ => exact ⟨_, _, rfl⟩
  obtain ⟨verdict, x, hreport⟩ := hreport
  rw [hreport]
  rcases a.deliveryReport_cases c.action status time verdict with
    ⟨cause, h⟩ | ⟨request, response, h⟩
  · exact .inl ⟨cause, by rw [h]; rfl⟩
  · exact .inr ⟨request, response, x, by rw [h]; rfl⟩

/-- At the limit no such request is planned. -/
theorem limitReached_of_attempts {m : Mapping} (hplan : c.plan .halt spec status = .attempts m) :
    Spec.limitReached status.failed spec.retriesLimit = none := by
  rcases (plan_attempts hplan).2 with rfl | hpolicy | hlimit
  · cases hc
  · cases hpolicy
  · exact hlimit

end Call

section

variable [Template.Engine] [Url.Reader]

namespace Turn

/-- Whether the call was refused at the limit on failures. -/
def isExhausted (t : Turn) : Bool :=
  match t.report.result with
  | .error f => f.isExhausted
  | .ok _ => false

/-- A call that is refused at the limit does nothing and records nothing. -/
theorem idle_of_isExhausted {t : Turn} (h : t.isExhausted = true) :
    t.worldAfter = t.world ∧ t.report.status = none := by
  unfold isExhausted at h
  cases hresult : t.report.result with
  | ok x =>
    rw [hresult] at h
    cases h
  | error f =>
    rw [hresult] at h
    have hrefusal : f.cause.isRefusal = true := by
      simp only [Failure.isExhausted] at h
      split at h
      · rename_i hcause
        rw [hcause]
        rfl
      · cases h
    rcases (failure_cases hresult).2 with ⟨-, hworld, hstatus⟩ | ⟨htried, -⟩
    · exact ⟨hworld, hstatus⟩
    · rw [hrefusal] at htried
      cases htried

/-- A call that comes to an attempt was not refused. -/
theorem isExhausted_of_attempts {t : Turn} {m : Mapping}
    (h : t.call.plan t.policy t.spec t.before = .attempts m) : t.isExhausted = false := by
  rw [← Bool.not_eq_true]
  intro hexhausted
  have hnothing := (idle_of_isExhausted hexhausted).2
  have hending := (tried_of_attempts h).ending
  unfold isExhausted at hexhausted
  generalize t.report = r at hnothing hending hexhausted
  cases hending with
  | unrecorded o _ _ => cases hexhausted
  | failed cause _ => cases hnothing
  | completed request response synced x _ => cases hnothing

section

variable {t : Turn} (hunsynced : t.recordsSync = false)

include hunsynced

/-- Only being in sync sets the count of failures back. -/
theorem failed_le_after : t.before.failed.toInt ≤ t.after.failed.toInt := by
  unfold recordsSync at hunsynced
  unfold after
  cases t.recorded with
  | nothing status =>
    rw [status]
    exact Int.le_refl _
  | failure cause _ status =>
    rw [status, Option.getD_some, Status.record_failed]
    have hcount := toInt_countFailure t.before.failed
    have hbound := t.before.failed.toInt_lt
    simp only
    omega
  | completion request response synced _ _ _ _ status =>
    rw [status, Status.record_completed] at hunsynced ⊢
    simp only [Option.any_some] at hunsynced
    subst hunsynced
    exact Int.le_refl _

variable (hcall : t.call.action.isMutating = true) (hsent : t.request?.isSome = true)

include hcall hsent

/-- A request that did not bring the resource in sync is counted. -/
theorem counted_of_mutation : t.after.failed = countFailure t.before.failed := by
  obtain ⟨m, hplan, -⟩ := t.request?_isSome_iff.mp hsent
  have hreport := report_of_attempts hplan
  unfold recordsSync at hunsynced
  unfold after
  rcases Call.report_of_mutating hcall
      (attempt t.spec t.before t.call.action m t.world).1 with ⟨cause, h⟩ | ⟨request, response, x, h⟩
  · rw [hreport, h]
    show (t.before.record (.failed _ _ _) t.time).failed = _
    rw [Status.record_failed]
  · rw [hreport, h] at hunsynced
    cases hunsynced

variable {limit : Int32} (hpolicy : t.policy = .halt) (hlimit : t.spec.retriesLimit = some limit)

include hpolicy hlimit

/-- So it takes one of the failures that were left. -/
theorem retriesLeft_of_mutation : t.after.retriesLeft limit + 1 = t.before.retriesLeft limit := by
  obtain ⟨m, hplan, -⟩ := t.request?_isSome_iff.mp hsent
  rw [hpolicy] at hplan
  have hbelow : t.before.failed.toInt < limit.toInt :=
    Spec.limitReached_eq_none_iff.mp (Call.limitReached_of_attempts hcall hplan) limit hlimit
  have hbound := limit.toInt_lt
  unfold Status.retriesLeft
  rw [counted_of_mutation hunsynced hcall hsent, toInt_countFailure]
  omega

end

end Turn

/-! ### Runs -/

namespace Run

/-- The turns before the first one that recorded the resource as in sync. -/
def untilSync (h : List Turn) : List Turn := h.rtakeWhile fun t => !t.recordsSync

/-- The requests to change the external resource that turns have sent. -/
def mutations (h : List Turn) : List RequestDetails :=
  (h.flatMap fun t => requests t.events).filter RequestDetails.isMutating

theorem mutations_cons (t : Turn) (h : List Turn) : mutations (t :: h) = mutations [t] ++ mutations h := by
  simp [mutations]

/-- A turn sends one such request if it sends any request for an action of that kind. -/
theorem length_mutations_turn (t : Turn) :
    (mutations [t]).length = if t.call.action.isMutating && t.request?.isSome then 1 else 0 := by
  unfold mutations
  rw [List.flatMap_singleton, t.requests_events]
  cases hq : t.request? with
  | none => simp
  | some q =>
    have haction : q.isMutating = t.call.action.isMutating := by
      unfold RequestDetails.isMutating
      rw [Turn.request?_action hq]
      rfl
    cases hcall : t.call.action.isMutating <;> simp [haction, hcall]

end Run

/-- **What a turn sends it takes from the failures that are left**, unless it brings the resource in
sync. -/
theorem Turn.spends {t : Turn} {limit : Int32} (hpolicy : t.policy = .halt)
    (hlimit : t.spec.retriesLimit = some limit) (hunsynced : t.recordsSync = false) :
    (Run.mutations [t]).length + t.after.retriesLeft limit ≤ t.before.retriesLeft limit := by
  rw [Run.length_mutations_turn]
  split
  · rename_i hsent
    rw [Bool.and_eq_true] at hsent
    have hleft := retriesLeft_of_mutation hunsynced hsent.1 hsent.2 hpolicy hlimit
    omega
  · have hkept := failed_le_after hunsynced
    unfold Status.retriesLeft
    omega

namespace Run

variable {start : Status} {limit : Int32}

/-- So does a run that never brings the resource in sync. -/
theorem spends : ∀ steps : List Step, (∀ x ∈ steps, x.spec.retriesLimit = some limit) →
    (∀ x ∈ steps, x.policy = .halt) → (∀ t ∈ turns start steps, t.recordsSync = false) →
      (mutations (turns start steps)).length + (statusAfter start steps).retriesLeft limit ≤
        start.retriesLeft limit
  | [], _, _, _ => by simp [mutations, turns, statusAfter]
  | x :: earlier, hlimit, hpolicy, hunsynced => by
    obtain ⟨hlimit, hlimits⟩ := List.forall_mem_cons.mp hlimit
    obtain ⟨hpolicy, hpolicies⟩ := List.forall_mem_cons.mp hpolicy
    obtain ⟨hturn, hearlier⟩ := List.forall_mem_cons.mp hunsynced
    have hspent := Turn.spends (t := x.turn (statusAfter start earlier)) hpolicy hlimit hturn
    have ih := spends earlier hlimits hpolicies hearlier
    change _ + (statusAfter start (x :: earlier)).retriesLeft limit ≤
      (statusAfter start earlier).retriesLeft limit at hspent
    rw [turns, mutations_cons, List.length_append]
    omega

/-- The turns that a run begins with are the turns of the steps that it begins with. -/
theorem exists_steps_of_suffix : ∀ (steps : List Step) {h : List Turn}, h <:+ turns start steps →
    ∃ steps', steps' <:+ steps ∧ turns start steps' = h
  | [], _, hh => ⟨[], List.suffix_rfl, (List.suffix_nil.mp hh).symm⟩
  | x :: earlier, _, hh => by
    rcases List.suffix_cons_iff.mp hh with rfl | hh
    · exact ⟨x :: earlier, List.suffix_rfl, rfl⟩
    · obtain ⟨steps', hsuffix, hturns⟩ := exists_steps_of_suffix earlier hh
      exact ⟨steps', hsuffix.trans (List.suffix_cons x earlier), hturns⟩

/-- **The limit bounds what a run sends.** Where every call keeps to one limit, no more requests to change
the external resource are sent before it is recorded as in sync than the limit allows failures from the
start on; and a call that is refused at the limit does nothing and records nothing. -/
theorem mutations_le_limit (start : Status) (limit : Int32) (steps : List Step)
    (hlimit : ∀ x ∈ steps, x.spec.retriesLimit = some limit) (hpolicy : ∀ x ∈ steps, x.policy = .halt) :
    ((mutations (untilSync (turns start steps))).length : Int) ≤
        max 0 (limit.toInt - start.failed.toInt) ∧
      ∀ t ∈ turns start steps, t.isExhausted = true → t.events = [] ∧ t.report.status = none := by
  refine ⟨?_, fun t _ h => (Turn.idle_of_isExhausted h).imp_left Turn.events_of_worldAfter⟩
  obtain ⟨steps', hsuffix, hturns⟩ := exists_steps_of_suffix steps
    (List.rtakeWhile_suffix (fun t : Turn => !t.recordsSync) (turns start steps))
  have hunsynced : ∀ t ∈ turns start steps', t.recordsSync = false := by
    intro t ht
    rw [hturns] at ht
    simpa using List.mem_rtakeWhile_imp ht
  have hspent := spends steps' (fun x hx => hlimit x (hsuffix.mem hx))
    (fun x hx => hpolicy x (hsuffix.mem hx)) hunsynced
  rw [hturns] at hspent
  change (mutations (untilSync (turns start steps))).length + _ ≤ _ at hspent
  unfold Status.retriesLeft at hspent
  omega

end Run

end

namespace Run

/-- A call for the item that keeps to a limit of two failures. -/
def limitedStep (call : Call) (reply : Reply) : Step :=
  { itemStep call reply with spec := { itemSpec with retriesLimit := some 2 } }

/-- The item is never created: two requests are not answered, and the third is not sent. -/
def unansweredItem : List Step :=
  [limitedStep .create .hangs, limitedStep .create .hangs,
    limitedStep .observe (.answers { statusCode := 404 } (.ofSeconds 0)), limitedStep .create .hangs]

theorem unansweredItem_limited :
    (∀ x ∈ unansweredItem, x.spec.retriesLimit = some 2) ∧ (∀ x ∈ unansweredItem, x.policy = .halt) ∧
      (mutations (untilSync (turns {} unansweredItem))).length = 2 ∧
      ((mutations (untilSync (turns {} unansweredItem))).length : Int) ≤
        max 0 ((2 : Int32).toInt - (0 : Int32).toInt) ∧
      ∃ t ∈ turns {} unansweredItem, t.isExhausted = true ∧ t.events = [] ∧ t.report.status = none := by
  have hlimit : ∀ x ∈ unansweredItem, x.spec.retriesLimit = some 2 := by decide
  have hpolicy : ∀ x ∈ unansweredItem, x.policy = .halt := by decide
  obtain ⟨hsent, hrefused⟩ := mutations_le_limit {} 2 unansweredItem hlimit hpolicy
  have hlast : ((turns {} unansweredItem).head (by simp [unansweredItem, turns])).isExhausted = true := by
    decide +kernel
  exact ⟨hlimit, hpolicy, by decide +kernel, hsent, _, List.head_mem _, hlast,
    hrefused _ (List.head_mem _) hlast⟩

end Run

end HttpResource
