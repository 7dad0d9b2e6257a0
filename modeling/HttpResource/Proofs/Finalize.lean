/-
# A pass over a managed resource that is being deleted

A resource is let go by taking its finalizer away. That is the last thing that a pass does, it happens only
for one of four reasons, and only after every status reported has been kept. A pass that does not let go
of a resource with the finalizer has failed, or it was halted at the limit on failures.

Key definitions: `Releasable`, `Removing`, `Parting`, `Finalized`.
Key theorems: `Parting.kept`, `Pass.removeExternal_ensures`, `pass_finalized`.
-/
import HttpResource.Template
import HttpResource.Url
import HttpResource.Proofs.Pass
import HttpResource.Proofs.Probe

namespace HttpResource

/-! ### Deeds -/

/-- The deed by which a resource is let go. -/
def Deed.letGo (key : ResourceKey) : Deed := .cluster (.removeFinalizer key Resource.finalizer)

theorem turn_mem_of_mem_callsOf {t : Turn} {ds : List Deed} (h : t ∈ callsOf ds) : .turn t ∈ ds := by
  obtain ⟨d, hd, ht⟩ := List.mem_filterMap.mp h
  cases d with
  | cluster c => cases ht
  | turn t' =>
    cases ht
    exact hd

/-- Only the last deed can be refused. -/
theorem Stops.accepted_of_append {α : Type} {w : World} {result : Except PassError α} {d : Deed}
    {c : ClusterCall} {before : List Deed} (h : Stops w result (before ++ [d]))
    (hc : .cluster c ∈ before) : w.refusal c = .none := by
  induction before with
  | nil => cases hc
  | cons first before ih =>
    rw [List.cons_append] at h
    generalize hrest : before ++ [d] = rest at h
    cases h with
    | turn h =>
      subst hrest
      rcases List.mem_cons.mp hc with hc | hc
      · cases hc
      · exact ih h hc
    | accepted accepted h =>
      subst hrest
      rcases List.mem_cons.mp hc with hc | hc
      · cases hc
        exact accepted
      · exact ih h hc
    | refused => simp at hrest

theorem Pass.isGone_iff {result : Except Failure Observation} (h : result ≠ .ok .absent) :
    isGone result = true ↔ result = .ok .removed := by
  rcases result with f | _ | _ | upToDate
  · exact ⟨nofun, nofun⟩
  · exact absurd rfl h
  · exact ⟨fun _ => rfl, fun _ => rfl⟩
  · exact ⟨nofun, nofun⟩

section

variable [Template.Engine] [Url.Reader]

/-- What is asked of the cluster is asked by a pass itself and not by a call. -/
theorem called_mem_eventsOf_iff {c : ClusterCall} {ds : List Deed} :
    .called c ∈ eventsOf ds ↔ .cluster c ∈ ds := by
  unfold eventsOf
  rw [List.mem_flatMap]
  constructor
  · rintro ⟨d, hd, hc⟩
    cases d with
    | cluster c' =>
      cases List.mem_singleton.mp hc
      exact hd
    | turn t => cases t.clusterCall?_events _ hc
  · intro h
    exact ⟨_, h, List.mem_singleton_self _⟩

theorem patchStatus_of_mem_kept {key : ResourceKey} {t : Turn} {c : ClusterCall}
    (h : .cluster c ∈ t.kept key) : ∃ s, c = .patchStatus key s := by
  unfold Turn.kept at h
  cases hs : t.report.status with
  | none => simp [hs] at h
  | some s =>
    simp only [hs, Option.map_some, Option.toList_some, List.mem_cons, reduceCtorEq,
      List.not_mem_nil, or_false, false_or, Deed.cluster.injEq] at h
    exact ⟨s, h⟩

theorem Persisted.mem {key : ResourceKey} {ds : List Deed} (h : Persisted key ds) {t : Turn} {s : Status}
    (ht : .turn t ∈ ds) (hs : t.report.status = some s) : .cluster (.patchStatus key s) ∈ ds := by
  induction h with
  | none => cases ht
  | finalizer other _ ih =>
    rcases List.mem_cons.mp ht with ht | ht
    · cases ht
    · exact List.mem_cons_of_mem _ (ih ht)
  | silent nothing _ ih =>
    rcases List.mem_cons.mp ht with ht | ht
    · cases ht
      cases hs.symm.trans nothing
    · exact List.mem_cons_of_mem _ (ih ht)
  | stored reported _ ih =>
    rcases List.mem_cons.mp ht with ht | ht
    · cases ht
      cases hs.symm.trans reported
      exact List.mem_cons_of_mem _ List.mem_cons_self
    · rcases List.mem_cons.mp ht with ht | ht
      · cases ht
      · exact List.mem_cons_of_mem _ (List.mem_cons_of_mem _ (ih ht))

/-- What calls send, they send for their actions and in their order. -/
theorem requests_action_sublist : ∀ ts : List Turn,
    ((ts.filterMap Turn.request?).map (·.action)).Sublist (ts.map fun t => some t.call.action)
  | [] => .slnil
  | t :: ts => by
    have ih := requests_action_sublist ts
    rw [List.map_cons, List.filterMap_cons]
    cases hq : t.request? with
    | none => exact .cons _ ih
    | some q =>
      simp only [List.map_cons]
      rw [Turn.request?_action hq]
      exact .cons_cons _ ih

/-! ### Reasons and ends -/

/-- What allows a resource to be let go, after the calls that a pass has made. -/
inductive Releasable (settings : Settings) (r : Resource) (calls : List Turn) : Prop
  | invalid (e : ConfigError) (invalid : r.spec settings.defaultTimeout = .error e)
  | uncreated (uncreated : r.currentStatus.notCreated = true)
  | gone (t : Turn) (mem : t ∈ calls) (probe : t.call = .observe)
      (seen : t.report.result = .ok (.observed .removed))
  | removed (t : Turn) (mem : t ∈ calls) (remove : t.call = .remove)
      (done : t.report.result = .ok .deployed)

/-- The call is a remove that was refused at the limit on failures. -/
def Turn.IsHalted (t : Turn) : Prop :=
  t.call = .remove ∧
    ∃ failed limit, t.report.result = .error ⟨.retriesExhausted failed limit, some .remove⟩

/-- How a pass ends that has made some calls `earlier` and goes on with the deeds `ds`. -/
structure Parting (settings : Settings) (r : Resource) (key : ResourceKey) (earlier : List Turn)
    (w : World) (ds : List Deed) (result : Except PassError Next) : Prop where
  orderly : Orderly key w ds result
  asked : ∀ c, .cluster c ∈ ds → (∃ s, c = .patchStatus key s) ∨
    c = .removeFinalizer key Resource.finalizer ∧ Releasable settings r (earlier ++ callsOf ds) ∧
      ∃ before, ds = before ++ [.letGo key]
  settled : .letGo key ∈ ds ∨ (∃ e, result = .error e) ∨
    result = .ok .onChange ∧ ∃ t ∈ earlier ++ callsOf ds, t.IsHalted

namespace Parting

variable {settings : Settings} {r : Resource} {key : ResourceKey} {earlier : List Turn} {w w' : World}
  {ds : List Deed} {result : Except PassError Next}

theorem letGo (hreason : Releasable settings r earlier)
    (hstops : Stops w result [.letGo key]) : Parting settings r key earlier w [.letGo key] result where
  orderly := ⟨.finalizer (fun _ _ h => by cases h) .none, hstops⟩
  asked c hc := by
    cases List.mem_singleton.mp hc
    refine .inr ⟨rfl, ?_, [], rfl⟩
    rw [show callsOf [.letGo key] = [] from rfl, List.append_nil]
    exact hreason
  settled := .inl (List.mem_singleton_self _)

theorem ends (h : (∃ e, result = .error e) ∨ result = .ok .onChange ∧ ∃ t ∈ earlier, t.IsHalted) :
    Parting settings r key earlier w [] result where
  orderly := .none
  asked _ hc := nomatch hc
  settled := by
    rw [show callsOf [] = [] from rfl, List.append_nil]
    exact .inr h

/-- A call whose status is kept may go before. -/
theorem kept {p : Turn}
    (haccepted : ∀ s, p.report.status = some s → w.refusal (.patchStatus key s) = .none)
    (hds : Deeds w (p.kept key) w') (h : Parting settings r key (earlier ++ [p]) w' ds result) :
    Parting settings r key earlier w (p.kept key ++ ds) result := by
  have hkept : Orderly key w (p.kept key) (.ok () : Except PassError Unit) := .kept haccepted
  have hcalls : earlier ++ callsOf (p.kept key ++ ds) = (earlier ++ [p]) ++ callsOf ds := by
    rw [callsOf_append, callsOf_kept, List.append_assoc]
  refine ⟨hkept.append hds h.orderly, fun c hc => ?_, ?_⟩
  · rcases List.mem_append.mp hc with hc | hc
    · exact .inl (patchStatus_of_mem_kept hc)
    · rcases h.asked c hc with hpatch | ⟨rfl, hreason, before, rfl⟩
      · exact .inl hpatch
      · exact .inr ⟨rfl, hcalls ▸ hreason, p.kept key ++ before, (List.append_assoc ..).symm⟩
  · rw [hcalls]
    rcases h.settled with hgo | hend
    · exact .inl (List.mem_append_right _ hgo)
    · exact .inr hend

theorem kept_of_refused {p : Turn} {s : Status} {e : ClusterError} (hs : p.report.status = some s)
    (hrefused : w.refusal (.patchStatus key s) = some e) :
    Parting settings r key earlier w (p.kept key) (.error (.cluster e)) where
  orderly := .kept_of_refused hs hrefused
  asked _ hc := .inl (patchStatus_of_mem_kept hc)
  settled := .inr (.inl ⟨_, rfl⟩)

end Parting

/-- The calls that remove an external resource: a probe, and then a remove unless the cluster refuses the
status of the probe or there is nothing left to remove. -/
inductive Removing (key : ResourceKey) (spec : Spec) (time : Timestamp) (status : Status) (w : World) :
    List Turn → Prop
  | unkept {s : Status} {e : ClusterError}
      (reported : (Turn.ofPass spec time .observe status w).report.status = some s)
      (refused : w.refusal (.patchStatus key s) = some e) :
      Removing key spec time status w [.ofPass spec time .observe status w]
  | gone (seen : (Turn.ofPass spec time .observe status w).report.result = .ok (.observed .removed)) :
      Removing key spec time status w [.ofPass spec time .observe status w]
  | remove (w' : World)
      (there : (Turn.ofPass spec time .observe status w).report.result ≠ .ok (.observed .removed)) :
      Removing key spec time status w [.ofPass spec time .observe status w,
        .ofPass spec time .remove (Turn.ofPass spec time .observe status w).after w']

/-! ### The parts of the pass -/

namespace Pass

variable (settings : Settings) (r : Resource) (key : ResourceKey)

theorem release_ensures (earlier : List Turn) (hreason : Releasable settings r earlier) (w : World) :
    Ensures (release key) w fun ds result =>
      callsOf ds = [] ∧ Parting settings r key earlier w ds result := by
  unfold release
  refine Ensures.bind (Ensures.callCluster (fun haccepted w' _ => .pure ?_) fun e hrefused => ?_)
  · exact ⟨rfl, .letGo hreason (.accepted haccepted .none)⟩
  · exact ⟨rfl, .letGo hreason (.refused hrefused rfl)⟩

theorem haltOrFail_ensures {earlier : List Turn} {t : Turn} {f : Failure} (hmem : t ∈ earlier)
    (hcall : t.call = .remove) (hfailed : t.report.result = .error f) (w : World) :
    Ensures (haltOrFail f) w fun ds result =>
      callsOf ds = [] ∧ Parting settings r key earlier w ds result := by
  have haction := (Turn.failure_cases hfailed).1
  rw [hcall] at haction
  obtain ⟨cause, action⟩ := f
  unfold haltOrFail Failure.isExhausted
  cases cause with
  | retriesExhausted failed limit =>
    cases haction
    exact .pure ⟨rfl, .ends (.inr ⟨rfl, t, hmem, hcall, failed, limit, hfailed⟩)⟩
  | _ => exact .throw ⟨rfl, .ends (.inl ⟨_, rfl⟩)⟩

/-- The last part of a pass, after a probe that has found something or has failed. -/
theorem removeKept_ensures (clock : Clock) (spec : Spec) (status : Status) (earlier : List Turn)
    (w : World) :
    Ensures (do
        let removed ← act (deploy .halt .remove spec status clock.time)
        let _ ← persist key removed.status status
        match removed.result with
        | .error f => haltOrFail f
        | .ok () => release key) w
      fun ds result => callsOf ds = [.ofPass spec clock.time .remove status w] ∧
        Parting settings r key earlier w ds result := by
  refine Ensures.callKept (c := .remove) (f := fun _ => .deployed) rfl
    (fun removed w' hr haccepted hds => ?_) fun s e hs hrefused => ?_
  · have hlast : Turn.ofPass spec clock.time .remove status w ∈
        earlier ++ [Turn.ofPass spec clock.time .remove status w] :=
      List.mem_append_right _ (List.mem_singleton_self _)
    have hcall : (Turn.ofPass spec clock.time .remove status w).call = .remove := rfl
    generalize Turn.ofPass spec clock.time .remove status w = d at *
    have hafter {x : Pass Next} (h : Ensures x w' fun ds result =>
        callsOf ds = [] ∧ Parting settings r key (earlier ++ [d]) w' ds result) :
        Ensures x w' fun ds result => callsOf (d.kept key ++ ds) = [d] ∧
          Parting settings r key earlier w (d.kept key ++ ds) result := by
      refine h.mono fun ds result h => ⟨?_, .kept haccepted hds h.2⟩
      rw [callsOf_append, callsOf_kept, h.1, List.append_nil]
    split
    · rename_i f hf
      refine hafter (haltOrFail_ensures settings r key hlast hcall ?_ w')
      rw [hr]
      unfold Report.map
      rw [hf]
      rfl
    · rename_i hok
      refine hafter (release_ensures settings r key _ (.removed d hlast hcall ?_) w')
      rw [hr]
      unfold Report.map
      rw [hok]
      rfl
  · rw [callsOf_kept]
    exact ⟨rfl, .kept_of_refused hs hrefused⟩

theorem removeExternal_ensures (clock : Clock) (spec : Spec) {status : Status}
    (hcreated : status.notCreated = false) (w : World) :
    Ensures (removeExternal clock key spec status) w fun ds result =>
      Removing key spec clock.time status w (callsOf ds) ∧ Parting settings r key [] w ds result := by
  unfold removeExternal
  refine Ensures.callKept (c := .observe) (f := .observed) rfl
    (fun observed w' ho haccepted hds => ?_) fun s e hs hrefused => ?_
  · have hpresent : observed.result ≠ .ok .absent := by
      rw [ne_eq, ← Report.map_result_eq_ok_iff, ← ho]
      exact Turn.probe_ne_absent rfl hcreated
    have hgone : isGone observed.result = true ↔
        (Turn.ofPass spec clock.time .observe status w).report.result = .ok (.observed .removed) := by
      rw [ho, Report.map_result_eq_ok_iff, isGone_iff hpresent]
    have hcalls (ds : List Deed) :
        callsOf ((Turn.ofPass spec clock.time .observe status w).kept key ++ ds) =
          Turn.ofPass spec clock.time .observe status w :: callsOf ds := by
      rw [callsOf_append, callsOf_kept]
      rfl
    split
    · rename_i hseen
      have hreason : Releasable settings r ([] ++ [Turn.ofPass spec clock.time .observe status w]) :=
        .gone _ (List.mem_singleton_self _) rfl (hgone.mp hseen)
      refine (release_ensures settings r key _ hreason w').mono fun ds result h => ?_
      rw [hcalls, h.1]
      exact ⟨.gone (hgone.mp hseen), .kept haccepted hds h.2⟩
    · rename_i hthere
      have hremove := removeKept_ensures settings r key clock spec
        (Turn.ofPass spec clock.time .observe status w).after
        ([] ++ [Turn.ofPass spec clock.time .observe status w]) w'
      refine hremove.mono fun ds result h => ?_
      rw [hcalls, h.1]
      exact ⟨.remove w' fun hseen => hthere (hgone.mpr hseen), .kept haccepted hds h.2⟩
  · rw [callsOf_kept]
    exact ⟨.unkept hs hrefused, .kept_of_refused hs hrefused⟩

end Pass

/-! ### The pass -/

/-- What a pass over a managed resource does that is being deleted: its deeds `ds` lead from `w` to `w'`
and have a result. -/
structure Finalized (settings : Settings) (clock : Clock) (r : Resource) (key : ResourceKey) (w : World)
    (ds : List Deed) (result : Except PassError Next) (w' : World) : Prop where
  deeds : Deeds w ds w'
  events : w'.events = w.events ++ eventsOf ds
  /-- A resource without the finalizer is left alone. -/
  unheld : r.hasFinalizer = false → ds = []
  calls : callsOf ds = [] ∨ ∃ spec, r.spec settings.defaultTimeout = .ok spec ∧
    Removing key spec clock.time r.currentStatus w (callsOf ds)
  /-- A probe at most is sent, and then a remove at most. -/
  actions : ((requests (eventsOf ds)).map (·.action)).Sublist [some .observe, some .remove]
  /-- Where there is no template of a remove, the remove is successful. -/
  unmapped : ∀ t ∈ callsOf ds, t.call = .remove → Spec.mapping? t.spec.mappings .remove = none →
    t.report.result = .ok .deployed
  /-- The resource is let go for a reason, as the last deed, after every status reported has been kept. -/
  released : ∀ k f, .called (.removeFinalizer k f) ∈ eventsOf ds →
    k = key ∧ f = Resource.finalizer ∧ r.hasFinalizer = true ∧ Releasable settings r (callsOf ds) ∧
      ∃ before, ds = before ++ [.letGo key] ∧
        ∀ t ∈ callsOf before, ∀ s, t.report.status = some s →
          .cluster (.patchStatus key s) ∈ before ∧ w.refusal (.patchStatus key s) = none
  settled : r.hasFinalizer = true →
    .called (.removeFinalizer key Resource.finalizer) ∈ eventsOf ds ∨ (∃ e, result = .error e) ∨
      result = .ok .onChange ∧ ∃ t ∈ callsOf ds, t.IsHalted
  persisted : Persisted key ds
  stops : Stops w result ds

namespace Pass

theorem finalize_ensures (settings : Settings) (clock : Clock) (key : ResourceKey) (r : Resource)
    (w : World) :
    Ensures (finalize settings clock key r) w fun ds result =>
      (r.hasFinalizer = false ∧ ds = []) ∨
        r.hasFinalizer = true ∧ Parting settings r key [] w ds result ∧
          (callsOf ds = [] ∨ ∃ spec, r.spec settings.defaultTimeout = .ok spec ∧
            Removing key spec clock.time r.currentStatus w (callsOf ds)) := by
  unfold finalize
  cases hfinalizer : r.hasFinalizer with
  | false => exact .pure (.inl ⟨rfl, rfl⟩)
  | true =>
    cases hspec : r.spec settings.defaultTimeout with
    | error e =>
      refine (release_ensures settings r key [] (.invalid e hspec) w).mono fun ds result h => ?_
      exact .inr ⟨rfl, h.2, .inl h.1⟩
    | ok spec =>
      show Ensures (if r.currentStatus.notCreated = true then _ else _) w _
      split
      · rename_i huncreated
        refine (release_ensures settings r key [] (.uncreated huncreated) w).mono fun ds result h => ?_
        exact .inr ⟨rfl, h.2, .inl h.1⟩
      · rename_i hcreated
        rw [Bool.not_eq_true] at hcreated
        refine (removeExternal_ensures settings r key clock spec hcreated w).mono fun ds result h => ?_
        exact .inr ⟨rfl, h.2, .inr ⟨spec, rfl, h.1⟩⟩

end Pass

/-- Without a template of a remove there is nothing to be done. -/
theorem Turn.remove_unmapped {t : Turn} (hcall : t.call = .remove)
    (hm : Spec.mapping? t.spec.mappings .remove = none) : t.report.result = .ok .deployed := by
  have hplan : t.call.plan t.policy t.spec t.before = .ends (.unchanged (.ok .deployed)) := by
    rw [hcall]
    unfold Call.plan Call.action
    rw [hm]
  unfold report
  rw [outcome_of_ends hplan]
  rfl

theorem Removing.actions {key : ResourceKey} {spec : Spec} {time : Timestamp} {status : Status} {w : World}
    {ts : List Turn} (h : Removing key spec time status w ts) :
    (ts.map fun t => some t.call.action).Sublist [some .observe, some .remove] := by
  cases h with
  | unkept => exact .cons_cons _ (.cons _ .slnil)
  | gone => exact .cons_cons _ (.cons _ .slnil)
  | remove w' there => exact .cons_cons _ (.cons_cons _ .slnil)

/-- Where the resource is let go, all statuses reported have been kept before. -/
theorem Orderly.kept_before {α : Type} {key : ResourceKey} {w : World} {before : List Deed}
    {result : Except PassError α} (h : Orderly key w (before ++ [.letGo key]) result) {t : Turn}
    (ht : t ∈ callsOf before) {s : Status} (hs : t.report.status = some s) :
    .cluster (.patchStatus key s) ∈ before ∧ w.refusal (.patchStatus key s) = .none := by
  have hpatch : .cluster (.patchStatus key s) ∈ before := by
    have hmem := h.persisted.mem (List.mem_append_left _ (turn_mem_of_mem_callsOf ht)) hs
    rcases List.mem_append.mp hmem with hmem | hmem
    · exact hmem
    · cases List.mem_singleton.mp hmem
  exact ⟨hpatch, h.stops.accepted_of_append hpatch⟩

theorem pass_of_deleted (settings : Settings) (clock : Clock) {r : Resource} (w : World)
    {key : ResourceKey} (hkey : r.key? = some key) (hmanaged : r.declaration.kind ≠ .disposableRequest)
    (hdeleted : r.isBeingDeleted = true) :
    pass settings clock r w = (Pass.finalize settings clock key r).exec w := by
  rw [pass_of_managed settings clock w hkey hmanaged, if_pos hdeleted]

namespace Finalized

variable {settings : Settings} {clock : Clock} {r : Resource} {key : ResourceKey} {w w' : World}
  {ds : List Deed} {result : Except PassError Next}

/-- A pass that does nothing, over a resource without the finalizer. -/
theorem of_unheld (hds : Deeds w [] w') (hunheld : r.hasFinalizer = false) :
    Finalized settings clock r key w [] result w' where
  deeds := hds
  events := hds.grows.events
  unheld _ := rfl
  calls := .inl rfl
  actions := List.nil_sublist _
  unmapped _ ht := nomatch ht
  released _ _ h := nomatch h
  settled hheld := nomatch hunheld.symm.trans hheld
  persisted := .none
  stops := .none

theorem of_parting (hds : Deeds w ds w') (hheld : r.hasFinalizer = true)
    (hparting : Parting settings r key [] w ds result)
    (hcalls : callsOf ds = [] ∨ ∃ spec, r.spec settings.defaultTimeout = .ok spec ∧
      Removing key spec clock.time r.currentStatus w (callsOf ds)) :
    Finalized settings clock r key w ds result w' where
  deeds := hds
  events := hds.grows.events
  unheld hunheld := nomatch hunheld.symm.trans hheld
  calls := hcalls
  actions := by
    rw [Deeds.requests_eventsOf]
    refine (requests_action_sublist _).trans ?_
    rcases hcalls with hnone | ⟨spec, -, hremoving⟩
    · rw [hnone]
      exact List.nil_sublist _
    · exact hremoving.actions
  unmapped _ _ := Turn.remove_unmapped
  released k f h := by
    rcases hparting.asked _ (called_mem_eventsOf_iff.mp h) with ⟨s, hs⟩ | ⟨hrelease, hreason, hlast⟩
    · cases hs
    · cases hrelease
      obtain ⟨before, rfl⟩ := hlast
      exact ⟨rfl, rfl, hheld, hreason, before, rfl, fun t ht s hs =>
        hparting.orderly.kept_before ht hs⟩
  settled _ := by
    rw [called_mem_eventsOf_iff]
    exact hparting.settled
  persisted := hparting.orderly.persisted
  stops := hparting.orderly.stops

end Finalized

/-- **A pass over a managed resource that is being deleted.** It asks the external system for a probe at
most, and then for a remove at most. It lets the resource go only if the declaration is invalid, nothing
was ever created, the probe has seen that it is removed, or the remove was successful, and only after all
statuses were kept; and it fails or is halted if it does not let go. A resource without the finalizer, or
without a name, is left alone. -/
theorem pass_finalized (settings : Settings) (clock : Clock) (r : Resource) (w : World)
    (hmanaged : r.declaration.kind ≠ .disposableRequest) (hdeleted : r.isBeingDeleted = true) :
    match r.key? with
    | none => pass settings clock r w = (.error (.missingField "metadata.name"), w)
    | some key => ∃ ds, Finalized settings clock r key w ds (pass settings clock r w).1
      (pass settings clock r w).2 := by
  cases hkey : r.key? with
  | none => exact pass_of_nameless settings clock w hkey
  | some key =>
    simp only
    rw [pass_of_deleted settings clock w hkey hmanaged hdeleted]
    obtain ⟨ds, hds, h⟩ := Pass.finalize_ensures settings clock key r w
    rcases h with ⟨hunheld, rfl⟩ | ⟨hheld, hparting, hcalls⟩
    · exact ⟨[], .of_unheld hds hunheld⟩
    · exact ⟨ds, .of_parting hds hheld hparting hcalls⟩

end

def orderProbe : Mapping where
  action := some .observe
  method := "GET"
  url := "https://api.example.com/orders/1"

def orderRemoval : Mapping where
  action := some .remove
  method := "DELETE"
  url := "https://api.example.com/orders/1"

/-- An order that was created and is being deleted, with a limit on failures. It can be probed and
removed. -/
def deletedOrder (limit : Option Int32) : Resource where
  metadata := {
    name := some "order-1"
    inNamespace := some "shop"
    finalizers := some [Resource.finalizer]
    deletionTimestamp := some ⟨1714564800, false⟩ }
  declaration := .namespacedRequest { mappings := [orderProbe, orderRemoval], retriesLimit := limit }
  status := some { response := { statusCode := 201 }, requestDetails := { action := some .create } }

/-- An external system that knows of the order, and removes it. -/
def removesOrder : World where
  replies := [.answers { statusCode := 200 } (.ofSeconds 0), .answers { statusCode := 204 } (.ofSeconds 0)]

theorem pass_finalized_deletedOrder :
    (deletedOrder none).declaration.kind ≠ .disposableRequest ∧
      (deletedOrder none).isBeingDeleted = true ∧ ∃ ds,
      Finalized {} ⟨⟨1714564800, false⟩, ⟨1714564800, false⟩⟩ (deletedOrder none)
        ⟨.namespacedRequest, "order-1", some "shop"⟩ removesOrder ds
        (pass {} ⟨⟨1714564800, false⟩, ⟨1714564800, false⟩⟩ (deletedOrder none) removesOrder).1
        (pass {} ⟨⟨1714564800, false⟩, ⟨1714564800, false⟩⟩ (deletedOrder none) removesOrder).2 :=
  ⟨by decide, rfl, pass_finalized {} _ (deletedOrder none) removesOrder (by decide) rfl⟩

end HttpResource
