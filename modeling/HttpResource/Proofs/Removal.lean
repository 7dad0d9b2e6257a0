/-
# The removal of a resource that cannot be probed

A pass over a resource that is being deleted goes on to the remove where its probe has failed. But the
failure has been counted by then, and it is the new count that is held against the limit. So the failure
of the probe stands in the way of the remove if it is the last one that the limit allows; only a probe
for which there is no template fails without being counted.

Key definitions: `Removable`.
Key theorems: `Turn.after_failedProbe`, `Turn.remove_request?`, `pass_removes_iff`.
-/
import HttpResource.Proofs.Finalize
import HttpResource.Proofs.Plain
import HttpResource.Proofs.RetryLimit

namespace HttpResource

section

variable [Template.Engine] [Url.Reader]

namespace Turn

/-- A failed probe is counted, unless there was no template of one. -/
theorem after_failedProbe {t : Turn} {f : Failure} (hcall : t.call = .observe)
    (hfailed : t.report.result = .error f) :
    t.after.failed = match Spec.mapping? t.spec.mappings .observe with
      | none => t.before.failed
      | some _ => countFailure t.before.failed := by
  have hplan := plan_of_probe hcall
  unfold after
  cases hm : Spec.mapping? t.spec.mappings .observe with
  | none =>
    rw [report_of_probe hcall, hm]
    rfl
  | some m =>
    rw [hm] at hplan
    have hending := (tried_of_attempts hplan).ending
    generalize t.report = r at hfailed hending
    cases hending with
    | unrecorded o _ _ => cases hfailed
    | completed q p synced x _ => cases hfailed
    | failed cause _ =>
      show (t.before.record (.failed _ _ _) t.time).failed = _
      rw [Status.record_failed]

theorem probe_failed {spec : Spec} {time : Timestamp} {status : Status} {w : World}
    (h : (observe spec status time w).1.result.isOk = false) :
    ∃ f, (Turn.ofPass spec time .observe status w).report.result = .error f := by
  show ∃ f, ((observe spec status time w).1.map Answer.observed).result = .error f
  unfold Report.map
  cases hresult : (observe spec status time w).1.result with
  | error f => exact ⟨f, rfl⟩
  | ok o =>
    rw [hresult] at h
    cases h

/-- A remove of plain templates is sent exactly if the limit on failures allows it. -/
theorem remove_request? {t : Turn} {m : Mapping} (hcall : t.call = .remove) (hpolicy : t.policy = .halt)
    (hm : Spec.mapping? t.spec.mappings .remove = some m) (hplain : m.IsPlain)
    (hurl : (checkUrl m.url).isOk = true) (hdefaults : Headers.IsPlain t.spec.headers) :
    t.request? = match Spec.limitReached t.before.failed t.spec.retriesLimit with
      | some _ => none
      | none => some (m.plainRequest t.spec .remove) := by
  have hplan : t.call.plan t.policy t.spec t.before = .deliver .halt .remove m t.spec t.before := by
    rw [hcall, hpolicy]
    unfold Call.plan Call.action
    rw [hm]
  unfold Plan.deliver at hplan
  cases hlimit : Spec.limitReached t.before.failed t.spec.retriesLimit with
  | some limit =>
    rw [hlimit] at hplan
    have hworld : t.worldAfter = t.world := congrArg Prod.snd (outcome_of_ends hplan)
    simp [request?, requests, events_of_worldAfter hworld]
  | none =>
    rw [hlimit] at hplan
    rw [request?_of_attempts hplan]
    unfold rendered
    rw [renderRequest_plain t.spec t.before t.call.action hplain hdefaults t.world, hcall]
    cases haddress : checkUrl m.url with
    | error e =>
      rw [haddress] at hurl
      cases hurl
    | ok _ => rfl

end Turn

/-! ### The pass -/

/-- A resource that is to be removed, with its specification and the template of the remove: nothing but
the probe can stand in the way. -/
structure Removable (settings : Settings) (r : Resource) (spec : Spec) (m : Mapping) : Prop where
  managed : r.declaration.kind ≠ .disposableRequest
  deleted : r.isBeingDeleted = true
  named : r.metadata.name.isSome = true
  held : r.hasFinalizer = true
  valid : r.spec settings.defaultTimeout = .ok spec
  created : r.currentStatus.notCreated = false
  mapped : Spec.mapping? spec.mappings .remove = some m
  plain : m.IsPlain
  address : (checkUrl m.url).isOk = true
  defaults : Headers.IsPlain spec.headers
  below : ∀ l, spec.retriesLimit = some l → r.currentStatus.failed < l

/-- A failed probe whose status is kept is followed by the remove. -/
theorem Removing.of_failedProbe {key : ResourceKey} {spec : Spec} {time : Timestamp} {status : Status}
    {w : World} {f : Failure} {calls : List Turn} (h : Removing key spec time status w calls)
    (hfailed : (Turn.ofPass spec time .observe status w).report.result = .error f)
    (haccepts : ∀ c, w.refusal c = none) :
    ∃ w', calls = [.ofPass spec time .observe status w,
      .ofPass spec time .remove (Turn.ofPass spec time .observe status w).after w'] := by
  cases h with
  | unkept _ refused => cases (haccepts _).symm.trans refused
  | gone seen => cases hfailed.symm.trans seen
  | remove w' _ => exact ⟨w', rfl⟩

namespace Removable

variable {settings : Settings} {r : Resource} {spec : Spec} {m : Mapping}
  (h : Removable settings r spec m)

include h

/-- All that the pass does is to remove the external resource. -/
theorem pass_eq (clock : Clock) (w : World) : ∃ key,
    pass settings clock r w = (Pass.removeExternal clock key spec r.currentStatus).exec w := by
  obtain ⟨name, hname⟩ := Option.isSome_iff_exists.mp h.named
  have hkey : r.key? = some ⟨r.declaration.kind, name, r.metadata.inNamespace⟩ := by
    unfold Resource.key?
    rw [hname]
    rfl
  refine ⟨⟨r.declaration.kind, name, r.metadata.inNamespace⟩, ?_⟩
  rw [pass_of_deleted settings clock w hkey h.managed h.deleted]
  unfold Pass.finalize
  simp only [h.held, h.valid, h.created]
  rfl

/-- After a failed probe the limit is not reached exactly if the probe was not counted or one more
failure is allowed. -/
theorem limit_after_failedProbe {t : Turn} {f : Failure} (hspec : t.spec = spec)
    (hbefore : t.before = r.currentStatus) (hcall : t.call = .observe)
    (hfailed : t.report.result = .error f) :
    Spec.limitReached t.after.failed spec.retriesLimit = none ↔
      Spec.mapping? spec.mappings .observe = none ∨
        ∀ l, spec.retriesLimit = some l → r.currentStatus.failed.toInt + 1 < l.toInt := by
  rw [Spec.limitReached_eq_none_iff, Turn.after_failedProbe hcall hfailed, hspec, hbefore]
  cases Spec.mapping? spec.mappings .observe with
  | none =>
    simp only [true_or, iff_true]
    exact fun l hl => Int32.lt_iff_toInt_lt.mp (h.below l hl)
  | some _ =>
    simp only [reduceCtorEq, false_or, toInt_countFailure]
    -- no limit is beyond the count at which counting stops
    refine forall_congr' fun l => forall_congr' fun _ => ?_
    have hbound := l.toInt_lt
    omega

/-- After a failed probe the remove is sent exactly if the limit is not reached then, and no other
request to remove is. -/
theorem remove_mem_iff {p d : Turn} {q : RequestDetails} (hp : p.call = .observe)
    (hd : d = .ofPass spec p.time .remove p.after d.world) (hq : q.action = some .remove) :
    q ∈ [p, d].filterMap Turn.request? ↔
      Spec.limitReached p.after.failed spec.retriesLimit = none ∧ q = m.plainRequest spec .remove := by
  have hprobe : p.request? ≠ some q := by
    intro hsent
    have haction := Turn.request?_action hsent
    rw [hp, hq] at haction
    cases haction
  have hremove : d.request? = match Spec.limitReached p.after.failed spec.retriesLimit with
      | some _ => none
      | none => some (m.plainRequest spec .remove) := by
    rw [hd]
    exact Turn.remove_request? rfl rfl h.mapped h.plain h.address h.defaults
  have hmem : q ∈ [p, d].filterMap Turn.request? ↔ d.request? = some q := by
    simp [hprobe]
  rw [hmem, hremove]
  cases Spec.limitReached p.after.failed spec.retriesLimit with
  | some l => simp
  | none => simp [eq_comm]

end Removable

/-- **The pass over a removable resource whose probe has failed** sends the remove exactly if there was no
template of the probe, or the limit allows one more failure. It sends no other remove. -/
theorem pass_removes_iff (settings : Settings) (clock : Clock) (r : Resource) (w : World) {spec : Spec}
    {m : Mapping} (h : Removable settings r spec m)
    (hfailed : (observe spec r.currentStatus clock.time w).1.result.isOk = false)
    (haccepts : ∀ c, w.refusal c = none) :
    let sent := requests ((pass settings clock r w).2.events.drop w.events.length)
    (m.plainRequest spec .remove ∈ sent ↔ Spec.mapping? spec.mappings .observe = none ∨
      ∀ l, spec.retriesLimit = some l → r.currentStatus.failed.toInt + 1 < l.toInt) ∧
    ∀ q ∈ sent, q.action = some .remove → q = m.plainRequest spec .remove := by
  obtain ⟨key, hpass⟩ := h.pass_eq clock w
  obtain ⟨ds, hds, hremoving, -⟩ :=
    Pass.removeExternal_ensures settings r key clock spec h.created w
  obtain ⟨f, hprobe⟩ := Turn.probe_failed hfailed
  obtain ⟨w', hcalls⟩ := hremoving.of_failedProbe hprobe haccepts
  rw [hpass, hds.grows.drop_events, Deeds.requests_eventsOf, hcalls]
  have hlimit := h.limit_after_failedProbe rfl rfl rfl hprobe
  have hmem {q : RequestDetails} (hq : q.action = some .remove) :=
    h.remove_mem_iff (p := .ofPass spec clock.time .observe r.currentStatus w)
      (d := .ofPass spec clock.time .remove _ w') rfl rfl hq
  refine ⟨?_, fun q hsent hq => ((hmem hq).mp hsent).2⟩
  rw [hmem rfl, and_iff_left rfl, hlimit]

end

/-! ### An order that is not removed -/

/-- The specification of a deleted order. -/
def deletedSpec (limit : Option Int32) : Spec where
  mappings := [orderProbe, orderRemoval]
  payload := {}
  headers := .empty
  expectedCheck := .success
  removedCheck := .notFound
  injections := []
  secretNamespace := some "shop"
  waitTimeout := .ofSeconds 30
  insecureSkipTlsVerify := false
  retriesLimit := limit
  shouldLoop := false
  nextReconcile := none

/-- An external system that fails once, and then removes the order. -/
def failsOnce : World where
  replies := [.fails (.failed "connection refused"), .answers { statusCode := 204 } (.ofSeconds 0)]

theorem deletedOrder_removable {limit : Option Int32} (h : ∀ l, limit = some l → 0 < l) :
    Removable {} (deletedOrder limit) (deletedSpec limit) orderRemoval where
  managed := nofun
  deleted := rfl
  named := rfl
  held := rfl
  valid := rfl
  created := rfl
  mapped := rfl
  plain := ⟨by decide, nofun, fun _ he => nomatch he⟩
  address := by decide +kernel
  defaults := fun _ he => nomatch he
  below := h

/-- With a limit of one the failure of the probe is the last one, and the order is not removed. -/
theorem deletedOrder_unremoved :
    Removable {} (deletedOrder (some 1)) (deletedSpec (some 1)) orderRemoval ∧
      (observe (deletedSpec (some 1)) (deletedOrder (some 1)).currentStatus ⟨1714564800, false⟩
        failsOnce).1.result.isOk = false ∧
      (∀ c, failsOnce.refusal c = none) ∧
      ∀ q ∈ requests ((pass {} ⟨⟨1714564800, false⟩, ⟨1714564800, false⟩⟩ (deletedOrder (some 1))
        failsOnce).2.events.drop failsOnce.events.length), q.action ≠ some .remove :=
  ⟨deletedOrder_removable fun l hl => by cases hl; decide, by decide +kernel, fun _ => rfl,
    by decide +kernel⟩

/-- With a limit of two the order is removed. -/
theorem deletedOrder_removed :
    Removable {} (deletedOrder (some 2)) (deletedSpec (some 2)) orderRemoval ∧
      (observe (deletedSpec (some 2)) (deletedOrder (some 2)).currentStatus ⟨1714564800, false⟩
        failsOnce).1.result.isOk = false ∧
      (∀ c, failsOnce.refusal c = none) ∧
      orderRemoval.plainRequest (deletedSpec (some 2)) .remove ∈
        requests ((pass {} ⟨⟨1714564800, false⟩, ⟨1714564800, false⟩⟩ (deletedOrder (some 2))
          failsOnce).2.events.drop failsOnce.events.length) := by
  have hremovable : Removable {} (deletedOrder (some 2)) (deletedSpec (some 2)) orderRemoval :=
    deletedOrder_removable fun l hl => by cases hl; decide
  have hfailed : (observe (deletedSpec (some 2)) (deletedOrder (some 2)).currentStatus
      ⟨1714564800, false⟩ failsOnce).1.result.isOk = false := by decide +kernel
  have hsends := pass_removes_iff {} ⟨⟨1714564800, false⟩, ⟨1714564800, false⟩⟩ _ failsOnce hremovable
    hfailed fun _ => rfl
  exact ⟨hremovable, hfailed, fun _ => rfl, hsends.1.mpr (.inr fun l hl => by cases hl; decide)⟩

end HttpResource
