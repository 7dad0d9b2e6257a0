/-
# What a probe finds

What a probe may conclude depends on whether the external resource was ever created. If it was, then only
a response that passes the check for removal says that it is gone; whatever else goes wrong is a failure
and recorded as one. If it was not, then whatever falls short of a response of success says that it is
absent, and leaves no trace in the status or in a secret.

Key definitions: `Attempt.judged`, `Turn.FindsExisting`, `Turn.FindsUncreated`.
Key theorems: `Turn.probe_ne_absent`, `Turn.probe_classified`.
-/
import HttpResource.Template
import HttpResource.Url
import HttpResource.Proofs.Transition

namespace HttpResource

/-! ### What a response tells -/

namespace Spec

variable {s : Spec} {r : Response}

theorem assess_eq_removed_iff : s.assess r = .ok .removed ↔ s.removedCheck.passes r = .ok true := by
  unfold assess
  rcases s.removedCheck.passes r with e | _ | _
  · exact ⟨nofun, nofun⟩
  · rcases s.expectedCheck.passes r with e | upToDate <;> exact ⟨nofun, nofun⟩
  · exact ⟨fun _ => rfl, fun _ => rfl⟩

theorem assess_ne_absent : s.assess r ≠ .ok .absent := by
  unfold assess
  rcases s.removedCheck.passes r with e | _ | _
  · exact nofun
  · rcases s.expectedCheck.passes r with e | upToDate <;> exact nofun
  · exact nofun

theorem assess_of_removedCheck {e : Predicate.Error} (h : s.removedCheck.passes r = .error e) :
    s.assess r = .error e := by
  unfold assess
  rw [h]
  rfl

theorem assess_of_expectedCheck {e : Predicate.Error} (hremoved : s.removedCheck.passes r = .ok false)
    (h : s.expectedCheck.passes r = .error e) : s.assess r = .error e := by
  unfold assess
  rw [hremoved, h]
  rfl

end Spec

theorem Report.map_result_eq_ok_iff {r : Report Observation} {o : Observation} :
    (r.map Answer.observed).result = .ok (.observed o) ↔ r.result = .ok o := by
  rcases r with ⟨f | o', s⟩
  · exact ⟨nofun, nofun⟩
  · simp [Report.map, Except.map]

namespace Attempt

variable {spec : Spec} {status : Status} {time : Timestamp} {a : Attempt}

theorem eq_answered_of_response? {r : Response} (h : a.response? = some r) : ∃ q, a = .answered q r := by
  cases a with
  | unrendered e => cases h
  | unanswered q e => cases h
  | answered q r' =>
    cases h
    exact ⟨q, rfl⟩

theorem isSuccess_iff : a.isSuccess = true ↔ ∃ r, a.response? = some r ∧ r.isSuccess = true := by
  unfold isSuccess
  cases a.response? <;> simp

/-- What a probe reports whose attempt says more than that nothing is there yet. -/
def judged (spec : Spec) (status : Status) (time : Timestamp) (a : Attempt) : Report Observation :=
  match a with
  | .unrendered e => .failed .observe status time a (.render e)
  | .unanswered _ e => .failed .observe status time a (.transport e)
  | .answered request response =>
    match spec.assess response with
    | .ok .removed => .unchanged (.ok .removed)
    | .ok o => .completed status time request response (o = .present true) o
    | .error e => .failed .observe status time a (.predicate e)

theorem probeReport_eq : a.probeReport spec status time =
    if status.notCreated && !a.isSuccess then .unchanged (.ok .absent)
    else a.judged spec status time := rfl

theorem probeReport_of_created (hcreated : status.notCreated = false) :
    a.probeReport spec status time = a.judged spec status time := by
  rw [probeReport_eq, hcreated]
  rfl

theorem probeReport_of_uncreated (huncreated : status.notCreated = true) (ha : a.isSuccess = false) :
    a.probeReport spec status time = .unchanged (.ok .absent) := by
  rw [probeReport_eq, huncreated, ha]
  rfl

/-- An attempt that is judged never says that the resource is absent. -/
theorem judged_ne_absent : (a.judged spec status time).result ≠ .ok .absent := by
  cases a with
  | unrendered e => exact nofun
  | unanswered q e => exact nofun
  | answered q r =>
    intro h
    unfold judged at h
    simp only at h
    split at h
    · cases h
    · rename_i hassess
      cases h
      exact Spec.assess_ne_absent hassess
    · cases h

/-- It says that the resource is removed only of a response that passes the check for that. -/
theorem judged_removed (h : (a.judged spec status time).result = .ok .removed) :
    ∃ r, a.response? = some r ∧ spec.removedCheck.passes r = .ok true := by
  cases a with
  | unrendered e => cases h
  | unanswered q e => cases h
  | answered q r =>
    unfold judged at h
    simp only at h
    split at h
    · rename_i hassess
      exact ⟨r, rfl, Spec.assess_eq_removed_iff.mp hassess⟩
    · rename_i hne _
      cases h
      exact absurd rfl hne
    · cases h

end Attempt

/-! ### Probes -/

namespace Turn

theorem plan_of_probe {t : Turn} (hcall : t.call = .observe) :
    t.call.plan t.policy t.spec t.before =
      match Spec.mapping? t.spec.mappings .observe with
      | none => .ends (.refused .observe (.noMapping .observe))
      | some m => .attempts m := by
  rw [hcall]
  unfold Call.plan Call.action
  cases Spec.mapping? t.spec.mappings .observe <;> rfl

section

variable [Template.Engine] [Url.Reader]

/-- The probe finds nothing, records nothing and writes no secret. -/
def FindsNothing (t : Turn) : Prop :=
  t.report = .unchanged (.ok (.observed .absent)) ∧ ∀ e ∈ t.events, e.isSecretWrite = false

/-- What a probe finds, made of the template `m`, after the external resource was created. -/
structure FindsExisting (t : Turn) (m : Mapping) : Prop where
  present : t.report.result ≠ .ok (.observed .absent)
  removed : t.report.result = .ok (.observed .removed) →
    ∃ r, t.response? = some r ∧ t.spec.removedCheck.passes r = .ok true
  unrendered : ∀ e, t.rendered m = .error e → t.Fails (.render e)
  unanswered : ∀ q e, t.rendered m = .ok q → t.answer = .error e → t.Fails (.transport e)
  undecided : ∀ r e, t.response? = some r →
    t.spec.removedCheck.passes r = .error e ∨
      t.spec.removedCheck.passes r = .ok false ∧ t.spec.expectedCheck.passes r = .error e →
    t.Fails (.predicate e)

/-- What a probe finds, made of the template `m`, before the external resource is created. -/
structure FindsUncreated (t : Turn) (m : Mapping) : Prop where
  unrendered : ∀ e, t.rendered m = .error e → t.FindsNothing
  unanswered : ∀ q e, t.rendered m = .ok q → t.answer = .error e → t.FindsNothing
  rejected : ∀ r, t.response? = some r → r.isSuccess = false → t.FindsNothing
  answered : t.report.result ≠ .ok (.observed .absent) →
    ∃ r, t.response? = some r ∧ r.isSuccess = true

section

variable {t : Turn} (hcall : t.call = .observe)

include hcall

theorem report_of_probe : t.report =
    match Spec.mapping? t.spec.mappings .observe with
    | none => .refused .observe (.noMapping .observe)
    | some m => ((attempt t.spec t.before t.call.action m t.world).1.probeReport t.spec t.before
        t.time).map .observed := by
  have hplan := plan_of_probe hcall
  cases hm : Spec.mapping? t.spec.mappings .observe with
  | none =>
    rw [hm] at hplan
    exact congrArg Prod.fst (outcome_of_ends hplan)
  | some m =>
    rw [hm] at hplan
    refine (report_of_attempts hplan).trans ?_
    rw [hcall]
    rfl

/-- A resource that was created is never reported as absent. -/
theorem probe_ne_absent (hcreated : t.before.notCreated = false) :
    t.report.result ≠ .ok (.observed .absent) := by
  rw [report_of_probe hcall]
  cases Spec.mapping? t.spec.mappings .observe with
  | none => exact nofun
  | some m =>
    simp only
    rw [Attempt.probeReport_of_created hcreated, ne_eq, Report.map_result_eq_ok_iff]
    exact Attempt.judged_ne_absent

variable {m : Mapping} (hm : Spec.mapping? t.spec.mappings .observe = some m)

include hm

theorem finds_existing (hcreated : t.before.notCreated = false) : t.FindsExisting m := by
  have hplan := plan_of_probe hcall
  have hreport := report_of_probe hcall
  have hpresent := probe_ne_absent hcall hcreated
  rw [hm] at hplan hreport
  have tried := tried_of_attempts hplan
  have hmet := attempt_fst t.spec t.before t.call.action m t.world
  simp only at hreport
  rw [Attempt.probeReport_of_created hcreated] at hreport
  generalize (attempt t.spec t.before t.call.action m t.world).1 = a at *
  have hfails {cause : Cause} (h : a.judged t.spec t.before t.time =
      .failed .observe t.before t.time a cause) : t.Fails cause := by
    refine fails_of_tried tried ?_
    rw [hreport, h, hcall]
    rfl
  refine ⟨hpresent, fun h => ?_, fun e he => ?_, fun q e hq he => ?_, fun r e hr he => ?_⟩
  · rw [hreport, Report.map_result_eq_ok_iff] at h
    rw [tried.response]
    exact Attempt.judged_removed h
  · unfold rendered at he
    rw [he] at hmet
    subst hmet
    exact hfails rfl
  · unfold rendered at hq
    unfold answer at he
    rw [hq, he] at hmet
    subst hmet
    exact hfails rfl
  · rw [tried.response] at hr
    obtain ⟨q, rfl⟩ := Attempt.eq_answered_of_response? hr
    have hassess : t.spec.assess r = .error e := by
      rcases he with he | ⟨hremoved, he⟩
      · exact Spec.assess_of_removedCheck he
      · exact Spec.assess_of_expectedCheck hremoved he
    refine hfails ?_
    unfold Attempt.judged
    simp only [hassess]

/-- Without a response of success nothing is found of a resource that was not created. -/
theorem finds_nothing (huncreated : t.before.notCreated = true)
    (hanswer : ∀ r, t.response? = some r → r.isSuccess = false) : t.FindsNothing := by
  have hplan := plan_of_probe hcall
  have hreport := report_of_probe hcall
  rw [hm] at hplan hreport
  have tried := tried_of_attempts hplan
  obtain ⟨reads, copies, hreads, -, hnone, hgrows⟩ := grows_of_attempts hplan
  have hevents := hgrows.drop_events
  change t.events = _ at hevents
  simp only at hreport
  generalize (attempt t.spec t.before t.call.action m t.world).1 = a at *
  have ha : a.isSuccess = false := by
    rw [tried.response] at hanswer
    rw [← Bool.not_eq_true, Attempt.isSuccess_iff]
    rintro ⟨r, hr, hsuccess⟩
    rw [hanswer r hr] at hsuccess
    cases hsuccess
  -- what was received is not copied, so no secret is written
  have hcopies : copies = [] := by
    refine hnone ?_
    rw [hcall]
    show a.probeCopied? t.before = none
    unfold Attempt.probeCopied?
    rw [huncreated, ha]
    rfl
  refine ⟨?_, fun e he => ?_⟩
  · rw [hreport, Attempt.probeReport_of_uncreated huncreated ha]
    rfl
  · rw [hevents, hcopies, List.append_nil, List.mem_append] at he
    rcases he with he | he
    · exact Event.isSecretWrite_of_isSecretRead (hreads e he)
    · obtain ⟨q, -, rfl⟩ := List.mem_map.mp he
      rfl

theorem finds_uncreated (huncreated : t.before.notCreated = true) : t.FindsUncreated m := by
  have hplan := plan_of_probe hcall
  rw [hm] at hplan
  have hmet := response?_of_attempts hplan
  refine ⟨fun e he => ?_, fun q e hq he => ?_, fun r hr hfails => ?_, fun h => ?_⟩
  · rw [he] at hmet
    exact finds_nothing hcall hm huncreated fun r hr => nomatch hmet.symm.trans hr
  · rw [hq, he] at hmet
    exact finds_nothing hcall hm huncreated fun r hr => nomatch hmet.symm.trans hr
  · refine finds_nothing hcall hm huncreated fun r' hr' => ?_
    cases hr.symm.trans hr'
    exact hfails
  · refine Classical.byContradiction fun hnone => h ?_
    have hnothing := finds_nothing hcall hm huncreated fun r hr => by
      rw [← Bool.not_eq_true]
      exact fun hsuccess => hnone ⟨r, hr, hsuccess⟩
    rw [hnothing.1]
    rfl

end

/-- **A probe is classified by whether the external resource was created.** -/
theorem probe_classified (t : Turn) {m : Mapping} (hcall : t.call = .observe)
    (hm : Spec.mapping? t.spec.mappings .observe = some m) :
    (t.before.notCreated = false → t.FindsExisting m) ∧
      (t.before.notCreated = true → t.FindsUncreated m) :=
  ⟨finds_existing hcall hm, finds_uncreated hcall hm⟩

end

def itemProbe : Mapping where
  action := some .observe
  method := "GET"
  url := "https://api.example.com/items/1"

/-- A probe that gets no response, of an item that was created. -/
def lostItem : Turn where
  call := .observe
  policy := .halt
  spec := {
    mappings := [itemProbe], payload := {}, headers := .empty, expectedCheck := .success
    removedCheck := .notFound, injections := [], secretNamespace := none, waitTimeout := .ofSeconds 30
    insecureSkipTlsVerify := false, retriesLimit := none, shouldLoop := false, nextReconcile := none }
  time := ⟨1714564800, false⟩
  world := { otherwise := .fails (.failed "connection refused") }
  before := { response := { statusCode := 201 }, requestDetails := { action := some .create } }

theorem probe_classified_lostItem :
    lostItem.call = .observe ∧ Spec.mapping? lostItem.spec.mappings .observe = some itemProbe ∧
      lostItem.before.notCreated = false ∧ lostItem.FindsExisting itemProbe :=
  ⟨rfl, rfl, by decide, (probe_classified lostItem rfl rfl).1 (by decide)⟩

end Turn

end HttpResource
