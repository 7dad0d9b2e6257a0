/-
# What a pass does

A pass does two kinds of things: requests to the cluster, and calls. What it did is told as a list of
deeds, which says more than the events it left: a deed that is a call carries the status and the world
that the call met and so, by `Turn.account`, everything that came of it. `Pass.Ensures` states what a
pass does and gives, and has one rule for each step that passes are made of.

Key definitions: `Deed`, `Deeds`, `Persisted`, `Stops`, `Turn.kept`, `Pass.Ensures`.
Key theorems: `Deeds.grows`, `Pass.Ensures.bind`, `Pass.Ensures.callKept`.
-/
import HttpResource.Controller
import HttpResource.Proofs.Turn

namespace HttpResource

/-- The turn of a call that a pass makes. -/
def Turn.ofPass (spec : Spec) (time : Timestamp) (c : Call) (before : Status) (w : World) : Turn :=
  { call := c, policy := .halt, spec, time, world := w, before }

/-- One thing that a pass does. -/
inductive Deed
  | cluster (c : ClusterCall)
  | turn (t : Turn)

namespace Deed

def turn? : Deed → Option Turn
  | turn t => some t
  | cluster _ => none

end Deed

/-- The calls among deeds. -/
def callsOf (ds : List Deed) : List Turn := ds.filterMap Deed.turn?

theorem callsOf_append (ds ds' : List Deed) : callsOf (ds ++ ds') = callsOf ds ++ callsOf ds' := by
  simp [callsOf]

/-- A request that the cluster refuses is the last deed, and its refusal is the result. -/
inductive Stops {α : Type} (w : World) (result : Except PassError α) : List Deed → Prop
  | none : Stops w result []
  | turn {t : Turn} {ds : List Deed} : Stops w result ds → Stops w result (.turn t :: ds)
  | accepted {c : ClusterCall} {ds : List Deed} (accepted : w.refusal c = .none) :
      Stops w result ds → Stops w result (.cluster c :: ds)
  | refused {c : ClusterCall} {e : ClusterError} (refused : w.refusal c = some e)
      (error : result = .error (.cluster e)) : Stops w result [.cluster c]

namespace Stops

variable {α β : Type} {w w' : World} {ds ds' : List Deed}

/-- Where the deeds have a result that is no error, others may follow. -/
theorem append {a : α} {result : Except PassError β} (h : Stops w (.ok a) ds)
    (h' : Stops w result ds') : Stops w result (ds ++ ds') := by
  induction h with
  | none => exact h'
  | turn _ ih => exact .turn ih
  | accepted accepted _ ih => exact .accepted accepted ih
  | refused _ error => cases error

/-- Nothing but the refusals of the world matters. -/
theorem of_refusal {result : Except PassError α} (hw : w'.refusal = w.refusal)
    (h : Stops w' result ds) : Stops w result ds := by
  induction h with
  | none => exact .none
  | turn _ ih => exact .turn ih
  | accepted accepted _ ih => exact .accepted (hw ▸ accepted) ih
  | refused refused error => exact .refused (hw ▸ refused) error

end Stops

namespace Pass

variable {α β : Type}

/-- What a pass, begun in a world, gives and leaves. -/
def exec (x : Pass α) (w : World) : Except PassError α × World := ExceptT.run x w

theorem exec_bind (x : Pass α) (f : α → Pass β) (w : World) :
    (x >>= f).exec w =
      match x.exec w with
      | (.ok a, w') => (f a).exec w'
      | (.error e, w') => (.error e, w') := by
  show (ExceptT.bindCont f) (x.exec w).1 (x.exec w).2 = _
  rcases x.exec w with ⟨_ | _, _⟩ <;> rfl

theorem exec_act (a : Act α) (w : World) : (act a).exec w = (.ok (a w).1, (a w).2) := rfl

theorem exec_callCluster (c : ClusterCall) (w : World) :
    (callCluster c).exec w =
      (match w.refusal c with
        | some e => .error (.cluster e)
        | none => .ok (), w.record (.called c)) := by
  unfold callCluster
  rw [exec_bind, exec_act]
  unfold World.call
  cases w.refusal c <;> rfl

end Pass

variable [Template.Engine] [Url.Reader]

def Deed.events : Deed → List Event
  | cluster c => [.called c]
  | turn t => t.events

/-- The deeds `ds`, one after the other, lead from one world to another. -/
inductive Deeds : World → List Deed → World → Prop
  | none (w : World) : Deeds w [] w
  | cluster {w w' : World} (c : ClusterCall) {ds : List Deed} :
      Deeds (w.record (.called c)) ds w' → Deeds w (.cluster c :: ds) w'
  | turn {w' : World} (t : Turn) {ds : List Deed} :
      Deeds t.worldAfter ds w' → Deeds t.world (.turn t :: ds) w'

/-- The events of deeds. -/
def eventsOf (ds : List Deed) : List Event := ds.flatMap Deed.events

namespace Deeds

theorem trans {w w' w'' : World} {ds ds' : List Deed} (h : Deeds w ds w') (h' : Deeds w' ds' w'') :
    Deeds w (ds ++ ds') w'' := by
  induction h with
  | none => exact h'
  | cluster c _ ih => exact .cluster c (ih h')
  | turn t _ ih => exact .turn t (ih h')

/-- The events of a world are what the deeds that led to it have added. -/
theorem grows {w w' : World} {ds : List Deed} (h : Deeds w ds w') : w.Grows (eventsOf ds) w' := by
  induction h with
  | none w => exact .refl w
  | @cluster w w' c ds _ ih =>
    have hone : w.Grows [.called c] (w.record (.called c)) := ⟨rfl, rfl⟩
    exact hone.trans ih
  | turn t _ ih => exact t.grows.trans ih

/-- Whatever is sent is sent by a call. -/
theorem requests_eventsOf : ∀ ds : List Deed,
    requests (eventsOf ds) = (callsOf ds).filterMap Turn.request?
  | [] => rfl
  | .cluster c :: ds => by
    have ih := requests_eventsOf ds
    unfold eventsOf callsOf at *
    rw [List.flatMap_cons, requests_append, ih]
    rfl
  | .turn t :: ds => by
    have ih := requests_eventsOf ds
    have ht := t.requests_events
    unfold eventsOf callsOf at *
    rw [List.flatMap_cons, requests_append, ih]
    show requests t.events ++ _ = _
    rw [ht, List.filterMap_cons_some (rfl : Deed.turn? (.turn t) = some t), List.filterMap_cons]
    cases t.request? <;> rfl

end Deeds

/-- Every status that a call reports is kept at once, and no other. -/
inductive Persisted (key : ResourceKey) : List Deed → Prop
  | none : Persisted key []
  | finalizer {c : ClusterCall} {ds : List Deed} (other : ∀ k s, c ≠ .patchStatus k s) :
      Persisted key ds → Persisted key (.cluster c :: ds)
  | silent {t : Turn} {ds : List Deed} (nothing : t.report.status = .none) :
      Persisted key ds → Persisted key (.turn t :: ds)
  | stored {t : Turn} {s : Status} {ds : List Deed} (reported : t.report.status = some s) :
      Persisted key ds → Persisted key (.turn t :: .cluster (.patchStatus key s) :: ds)

theorem Persisted.append {key : ResourceKey} {ds ds' : List Deed} (h : Persisted key ds)
    (h' : Persisted key ds') : Persisted key (ds ++ ds') := by
  induction h with
  | none => exact h'
  | finalizer other _ ih => exact .finalizer other ih
  | silent nothing _ ih => exact .silent nothing ih
  | stored reported _ ih => exact .stored reported ih

/-- Statuses are kept as they are reported, and the first refusal is the end. -/
structure Orderly {α : Type} (key : ResourceKey) (w : World) (ds : List Deed)
    (result : Except PassError α) : Prop where
  persisted : Persisted key ds
  stops : Stops w result ds

namespace Orderly

variable {α β : Type} {key : ResourceKey} {w w' : World} {ds ds' : List Deed}

theorem none {result : Except PassError α} : Orderly key w [] result := ⟨.none, .none⟩

/-- What follows may be seen from the world that the first deeds have left. -/
theorem append {a : α} {result : Except PassError β} (hd : Deeds w ds w')
    (h : Orderly key w ds (.ok a)) (h' : Orderly key w' ds' result) :
    Orderly key w (ds ++ ds') result :=
  ⟨h.persisted.append h'.persisted, h.stops.append (h'.stops.of_refusal hd.grows.refusal)⟩

end Orderly

/-! ### A call and its status -/

/-- A call, and the keeping of the status that it reports. -/
def Turn.kept (key : ResourceKey) (t : Turn) : List Deed :=
  .turn t :: (t.report.status.map fun s => .cluster (.patchStatus key s)).toList

theorem callsOf_kept (key : ResourceKey) (t : Turn) : callsOf (t.kept key) = [t] := by
  unfold Turn.kept
  cases t.report.status <;> rfl

theorem Persisted.kept (key : ResourceKey) (t : Turn) : Persisted key (t.kept key) := by
  unfold Turn.kept
  cases hstatus : t.report.status with
  | none => exact .silent hstatus .none
  | some s => exact .stored hstatus .none

namespace Orderly

variable {α : Type} {key : ResourceKey} {w : World} {t : Turn}

theorem kept {result : Except PassError α}
    (haccepted : ∀ s, t.report.status = some s → w.refusal (.patchStatus key s) = .none) :
    Orderly key w (t.kept key) result := by
  refine ⟨.kept key t, ?_⟩
  unfold Turn.kept
  cases hstatus : t.report.status with
  | none => exact .turn .none
  | some s => exact .turn (.accepted (haccepted s hstatus) .none)

theorem kept_of_refused {s : Status} {e : ClusterError} (hstatus : t.report.status = some s)
    (hrefused : w.refusal (.patchStatus key s) = some e) :
    Orderly key w (t.kept key) (.error (.cluster e) : Except PassError α) := by
  refine ⟨.kept key t, ?_⟩
  unfold Turn.kept
  rw [hstatus]
  exact .turn (.refused hrefused rfl)

end Orderly

namespace Pass

variable {α β : Type}

/-- A pass, begun in a world, does and gives what is said. -/
def Ensures (x : Pass α) (w : World) (post : List Deed → Except PassError α → Prop) : Prop :=
  ∃ ds, Deeds w ds (x.exec w).2 ∧ post ds (x.exec w).1

namespace Ensures

variable {w : World}

theorem pure {a : α} {post : List Deed → Except PassError α → Prop} (h : post [] (.ok a)) :
    Ensures (Pure.pure a) w post := ⟨[], .none w, h⟩

theorem throw {e : PassError} {post : List Deed → Except PassError α → Prop}
    (h : post [] (.error e)) : Ensures (throw e : Pass α) w post := ⟨[], .none w, h⟩

theorem mono {x : Pass α} {post post' : List Deed → Except PassError α → Prop} (h : Ensures x w post)
    (himp : ∀ ds r, post ds r → post' ds r) : Ensures x w post' := by
  obtain ⟨ds, hds, hpost⟩ := h
  exact ⟨ds, hds, himp _ _ hpost⟩

/-- The second part begins where the first one ends, unless that ends the pass. -/
theorem bind {x : Pass α} {f : α → Pass β} {post : List Deed → Except PassError β → Prop}
    (h : Ensures x w fun ds r =>
      match r with
      | .error e => post ds (.error e)
      | .ok a => ∀ w', Deeds w ds w' → Ensures (f a) w' fun ds' r' => post (ds ++ ds') r') :
    Ensures (x >>= f) w post := by
  obtain ⟨ds, hds, h⟩ := h
  unfold Ensures
  rw [exec_bind]
  rcases hx : x.exec w with ⟨e | a, w'⟩
  · rw [hx] at hds h
    exact ⟨ds, hds, h⟩
  · rw [hx] at hds h
    obtain ⟨ds', hds', h'⟩ := h w' hds
    exact ⟨ds ++ ds', hds.trans hds', h'⟩

theorem callCluster {c : ClusterCall} {post : List Deed → Except PassError Unit → Prop}
    (haccepted : w.refusal c = none → post [.cluster c] (.ok ()))
    (hrefused : ∀ e, w.refusal c = some e → post [.cluster c] (.error (.cluster e))) :
    Ensures (callCluster c) w post := by
  unfold Ensures
  rw [exec_callCluster]
  refine ⟨[.cluster c], .cluster c (.none _), ?_⟩
  cases h : w.refusal c with
  | none => exact haccepted h
  | some e => exact hrefused e h

/-- A status that is reported is kept, and is then the one in effect. -/
theorem persist {key : ResourceKey} {update : Option Status} {current : Status}
    {post : List Deed → Except PassError Status → Prop}
    (hnone : update = none → post [] (.ok current))
    (haccepted : ∀ s, update = some s → w.refusal (.patchStatus key s) = none →
      post [.cluster (.patchStatus key s)] (.ok s))
    (hrefused : ∀ s e, update = some s → w.refusal (.patchStatus key s) = some e →
      post [.cluster (.patchStatus key s)] (.error (.cluster e))) :
    Ensures (persist key update current) w post := by
  cases update with
  | none => exact pure (hnone rfl)
  | some s =>
    refine bind (callCluster (fun h w' _ => pure ?_) fun e h => ?_)
    · exact haccepted s rfl h
    · exact hrefused s e rfl h

/-- A call of a pass is a turn in the world that the pass has come to. -/
theorem call {spec : Spec} {time : Timestamp} {c : Call} {status : Status} {a : Act (Report α)}
    {f : α → Answer} {post : List Deed → Except PassError (Report α) → Prop}
    (ha : c.perform .halt spec status time = do return (← a).map f)
    (h : ∀ r, (Turn.ofPass spec time c status w).report = r.map f →
      post [.turn (.ofPass spec time c status w)] (.ok r)) :
    Ensures (act a) w post := by
  have houtcome : (Turn.ofPass spec time c status w).outcome = ((a w).1.map f, (a w).2) :=
    congrFun ha w
  have hdeeds : Deeds w [.turn (.ofPass spec time c status w)]
      (Turn.ofPass spec time c status w).worldAfter := Deeds.turn (.ofPass spec time c status w) (.none _)
  have hworld : ((act a).exec w).2 = (Turn.ofPass spec time c status w).worldAfter :=
    (congrArg Prod.snd houtcome).symm
  exact ⟨_, hworld ▸ hdeeds, h _ (congrArg Prod.fst houtcome)⟩

/-- A call whose status is kept. It ends the pass only where the cluster refuses the status. -/
theorem callKept {key : ResourceKey} {spec : Spec} {time : Timestamp} {c : Call} {status : Status}
    {a : Act (Report α)} {f : α → Answer} {rest : Report α → Status → Pass β}
    {post : List Deed → Except PassError β → Prop}
    (ha : c.perform .halt spec status time = do return (← a).map f)
    (hkept : ∀ r w', (Turn.ofPass spec time c status w).report = r.map f →
      (∀ s, (Turn.ofPass spec time c status w).report.status = some s →
        w.refusal (.patchStatus key s) = none) →
      Deeds w ((Turn.ofPass spec time c status w).kept key) w' →
      Ensures (rest r (Turn.ofPass spec time c status w).after) w' fun ds r' =>
        post ((Turn.ofPass spec time c status w).kept key ++ ds) r')
    (hrefused : ∀ s e, (Turn.ofPass spec time c status w).report.status = some s →
      w.refusal (.patchStatus key s) = some e →
      post ((Turn.ofPass spec time c status w).kept key) (.error (.cluster e))) :
    Ensures (do let r ← act a; let s ← Pass.persist key r.status status; rest r s) w post := by
  refine bind (call ha fun r hr w' hw' => bind ?_)
  have hbefore : (Turn.ofPass spec time c status w).before = status := rfl
  generalize Turn.ofPass spec time c status w = t at *
  have hstatus : t.report.status = r.status := by rw [hr]; rfl
  have hrefusal : w'.refusal = w.refusal := hw'.grows.refusal
  unfold Turn.kept at hkept hrefused
  unfold Turn.after at hkept
  rw [hstatus, hbefore] at hkept
  rw [hstatus] at hrefused
  refine persist (fun hnone w'' hw'' => ?_) (fun s hs haccepted w'' hw'' => ?_) fun s e hs hcluster => ?_
  · rw [hnone] at hkept
    exact hkept r w'' hr (fun _ hs => nomatch hs) (hw'.trans hw'')
  · rw [hs] at hkept
    refine hkept r w'' hr (fun s' hs' => ?_) (hw'.trans hw'')
    cases hs'
    rw [← hrefusal]
    exact haccepted
  · rw [hs] at hrefused
    exact hrefused s e rfl (hrefusal ▸ hcluster)

end Ensures

/-- An invalid declaration is recorded, whether or not the cluster takes the record. -/
theorem reject_ensures (clock : Clock) (key : ResourceKey) (status : Status) (e : ConfigError)
    (w : World) : Ensures (reject clock key status e) w fun ds _ =>
      ds = [.cluster (.patchStatus key
        (status.record (.failed none none (Cause.configuration e.message).message) clock.wallTime))] :=
  Ensures.bind (Ensures.callCluster (fun _ _ _ => .pure rfl) fun _ _ => rfl)

end Pass

theorem pass_of_nameless (settings : Settings) (clock : Clock) {r : Resource} (w : World)
    (hkey : r.key? = none) : pass settings clock r w = (.error (.missingField "metadata.name"), w) := by
  unfold pass Pass.run
  rw [hkey]
  rfl

/-- What a pass over a managed resource does is decided by whether that is being deleted. -/
theorem pass_of_managed (settings : Settings) (clock : Clock) {r : Resource} (w : World)
    {key : ResourceKey} (hkey : r.key? = some key) (hmanaged : r.declaration.kind ≠ .disposableRequest) :
    pass settings clock r w =
      (if r.isBeingDeleted = true then Pass.finalize settings clock key r
        else Pass.sustain settings clock key r).exec w := by
  unfold pass Pass.run
  rw [hkey]
  cases hkind : r.declaration.kind with
  | disposableRequest => contradiction
  | _ => rfl

/-- A pass over a disposable resource delivers its request, whether or not that is being deleted. -/
theorem pass_of_disposable (settings : Settings) (clock : Clock) {r : Resource} (w : World)
    {key : ResourceKey} (hkey : r.key? = some key) (hdisposable : r.declaration.kind = .disposableRequest) :
    pass settings clock r w = (Pass.deliverOnce settings clock key r).exec w := by
  unfold pass Pass.run
  rw [hkey]
  simp only [hdisposable]
  rfl

end HttpResource
