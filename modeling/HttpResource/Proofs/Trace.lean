/-
# The trace of an act

Whatever is done in the world is appended to its events, so what an act did is the list of events that
it added. Rendering a request reads secrets and does nothing else; copying response fields reads and
writes secrets and does nothing else. Neither takes a reply of the external system, and no act changes
what the cluster refuses.

Key definitions: `World.Grows`, `Rendering.OnlyReads`, `OnlyAccesses`.
Key theorems: `renderRequest_world`, `renderRequest_action`, `Act.AccessClosed.inject`.
-/
import HttpResource.Injecting
import HttpResource.Rendering
import HttpResource.Proofs.Results

namespace HttpResource

namespace Event

/-- The request that an event sends. -/
def request? : Event → Option RequestDetails
  | sent request _ => some request
  | _ => none

/-- The request that an event makes to the cluster. -/
def clusterCall? : Event → Option ClusterCall
  | called c => some c
  | _ => none

def isSecretRead : Event → Bool
  | readSecret _ => true
  | _ => false

def isSecretAccess : Event → Bool
  | readSecret _ => true
  | wroteSecret .. => true
  | _ => false

def isSecretWrite : Event → Bool
  | wroteSecret .. => true
  | _ => false

theorem isSecretAccess_of_isSecretRead {e : Event} (h : e.isSecretRead = true) :
    e.isSecretAccess = true := by
  cases e <;> simp_all [isSecretRead, isSecretAccess]

theorem isSecretWrite_of_isSecretRead {e : Event} (h : e.isSecretRead = true) :
    e.isSecretWrite = false := by
  cases e <;> simp_all [isSecretRead, isSecretWrite]

theorem request?_of_isSecretAccess {e : Event} (h : e.isSecretAccess = true) : e.request? = none := by
  cases e <;> simp_all [isSecretAccess, request?]

theorem clusterCall?_of_isSecretAccess {e : Event} (h : e.isSecretAccess = true) :
    e.clusterCall? = none := by
  cases e <;> simp_all [isSecretAccess, clusterCall?]

end Event

/-- The requests among events, in order. -/
def requests (es : List Event) : List RequestDetails := es.filterMap Event.request?

theorem requests_append (es fs : List Event) : requests (es ++ fs) = requests es ++ requests fs :=
  List.filterMap_append

theorem requests_of_secretAccess {es : List Event} (h : ∀ e ∈ es, e.isSecretAccess = true) :
    requests es = [] :=
  List.filterMap_eq_nil_iff.mpr fun e he => Event.request?_of_isSecretAccess (h e he)

namespace World

/-- The world with more events. -/
def recordAll (w : World) (es : List Event) : World := { w with events := w.events ++ es }

theorem recordAll_nil (w : World) : w.recordAll [] = w := by simp [recordAll]

theorem recordAll_recordAll (w : World) (es fs : List Event) :
    (w.recordAll es).recordAll fs = w.recordAll (es ++ fs) := by simp [recordAll]

/-- How the external system behaves towards the next request. -/
def reply (w : World) : Reply := w.replies.headD w.otherwise

/-- `w'` is what has become of `w` after the events `es`; the cluster refuses the same requests. -/
structure Grows (w : World) (es : List Event) (w' : World) : Prop where
  events : w'.events = w.events ++ es
  refusal : w'.refusal = w.refusal

namespace Grows

theorem refl (w : World) : Grows w [] w := ⟨by simp, rfl⟩

theorem trans {w w' w'' : World} {es fs : List Event} (h : Grows w es w') (h' : Grows w' fs w'') :
    Grows w (es ++ fs) w'' :=
  ⟨by rw [h'.events, h.events, List.append_assoc], h'.refusal.trans h.refusal⟩

theorem recordAll (w : World) (es : List Event) : Grows w es (w.recordAll es) := ⟨rfl, rfl⟩

/-- The events of an act are what its world has more than before. -/
theorem drop_events {w w' : World} {es : List Event} (h : Grows w es w') :
    w'.events.drop w.events.length = es := by
  rw [h.events, List.drop_left]

end Grows

end World

/-! ### Acts -/

namespace Act

variable {α β : Type}

theorem bind_apply (x : Act α) (f : α → Act β) (w : World) : (x >>= f) w = f (x w).1 (x w).2 := rfl

theorem pure_apply (a : α) (w : World) : (pure a : Act α) w = (a, w) := rfl

end Act

namespace World

theorem send_grows (w : World) (deadline : Duration) (insecure : Bool) (request : RequestDetails) :
    Grows w [.sent request insecure] (send deadline insecure request w).2 := by
  unfold send
  cases w.replies with
  | nil => exact ⟨rfl, rfl⟩
  | cons reply rest => exact ⟨rfl, rfl⟩

theorem send_result (w : World) (deadline : Duration) (insecure : Bool) (request : RequestDetails) :
    (send deadline insecure request w).1 = w.reply.within deadline := by
  unfold send reply
  cases w.replies <;> rfl

theorem writeSecret_grows (w : World) (deadline : Duration) (k : SecretKey) (value : String) :
    Grows w [.wroteSecret k value] (writeSecret deadline k value w).2 := by
  unfold writeSecret
  simp only
  split
  · exact ⟨rfl, rfl⟩
  · exact ⟨rfl, rfl⟩

end World

/-! ### Rendering -/

namespace Rendering

variable {α β : Type}

theorem run_bind (x : Rendering α) (f : α → Rendering β) (s : RenderSession) :
    (x >>= f).run s =
      match x.run s with
      | (.ok a, s') => (f a).run s'
      | (.error e, s') => (.error e, s') := by
  show (ExceptT.bindCont f) (x.run s).1 (x.run s).2 = _
  rcases x.run s with ⟨_ | _, _⟩ <;> rfl

/-- All that a step of a rendering does in the world is to read secrets. -/
def OnlyReads (x : Rendering α) : Prop :=
  ∀ s, ∃ reads, (∀ e ∈ reads, e.isSecretRead = true) ∧ (x.run s).2.world = s.world.recordAll reads

theorem OnlyReads.of_world {x : Rendering α} (h : ∀ s, (x.run s).2.world = s.world) : OnlyReads x :=
  fun s => ⟨[], by simp, by rw [h, World.recordAll_nil]⟩

theorem OnlyReads.pure (a : α) : OnlyReads (Pure.pure a : Rendering α) := .of_world fun _ => rfl

theorem OnlyReads.throw (e : RenderError) : OnlyReads (throw e : Rendering α) := .of_world fun _ => rfl

theorem OnlyReads.bind {x : Rendering α} {f : α → Rendering β} (hx : OnlyReads x)
    (hf : ∀ a, OnlyReads (f a)) : OnlyReads (x >>= f) := by
  intro s
  obtain ⟨reads, hreads, hw⟩ := hx s
  rw [run_bind]
  rcases hxs : x.run s with ⟨_ | a, s'⟩
  · rw [hxs] at hw
    exact ⟨reads, hreads, hw⟩
  · rw [hxs] at hw
    obtain ⟨more, hmore, hw'⟩ := hf a s'
    refine ⟨reads ++ more, fun e he => ?_, ?_⟩
    · exact (List.mem_append.mp he).elim (hreads e) (hmore e)
    · rw [hw', hw, World.recordAll_recordAll]

theorem readSecret_onlyReads (deadline : Duration) (k : SecretKey) :
    OnlyReads (readSecret deadline k) := by
  refine OnlyReads.bind (fun s => ?_) fun r => ?_
  · exact ⟨[.readSecret k], by simp [Event.isSecretRead], rfl⟩
  · match r with
    | .error e => exact .throw _
    | .ok none => exact .throw _
    | .ok (some value) => exact .bind (.of_world fun _ => rfl) fun _ => .pure _

theorem resolve_onlyReads (spec : Spec) (r : SecretRef) : OnlyReads (resolve spec r) := by
  unfold resolve
  split
  · exact .throw _
  · refine .bind (.of_world fun _ => rfl) fun value? => ?_
    cases value? with
    | none => exact readSecret_onlyReads _ _
    | some value => exact .pure _

theorem resolveAll_onlyReads (spec : Spec) :
    ∀ (index : Nat) (refs : List SecretRef), OnlyReads (resolveAll spec index refs)
  | _, [] => .pure _
  | index, r :: rest =>
    .bind (resolve_onlyReads spec r) fun _ =>
      .bind (resolveAll_onlyReads spec (index + 1) rest) fun _ => .pure _

section

variable [Template.Engine]

theorem renderText_onlyReads (spec : Spec) (status : Status) (template : String) :
    OnlyReads (renderText spec status template) := by
  unfold renderText
  split
  · exact .pure _
  · split
    · exact .throw _
    · refine .bind (resolveAll_onlyReads _ _ _) fun secrets => ?_
      simp only
      split
      · exact .pure _
      · exact .throw _

theorem renderEach_onlyReads (spec : Spec) (status : Status) :
    ∀ templates : List String, OnlyReads (renderEach spec status templates)
  | [] => .pure _
  | template :: rest =>
    .bind (renderText_onlyReads spec status template) fun _ =>
      .bind (renderEach_onlyReads spec status rest) fun _ => .pure _

theorem renderHeaders_onlyReads (spec : Spec) (status : Status) :
    ∀ headers : List (String × List String), OnlyReads (renderHeaders spec status headers)
  | [] => .pure _
  | (_, templates) :: rest =>
    .bind (renderEach_onlyReads spec status templates) fun _ =>
      .bind (renderHeaders_onlyReads spec status rest) fun _ => .pure _

theorem request_onlyReads [Url.Reader] (spec : Spec) (status : Status) (action : Action) (m : Mapping) :
    OnlyReads (request spec status action m) := by
  unfold request
  refine .bind (renderText_onlyReads _ _ _) fun url => ?_
  split
  · exact .throw _
  · have rest (body : String) : OnlyReads (do
        let headers ← renderHeaders spec status (spec.headers.union m.headers).entries
        return ({
          action := some action, method := m.method.map Char.toUpper, url, body
          headers := .ofList headers } : RequestDetails)) :=
      .bind (renderHeaders_onlyReads _ _ _) fun _ => .pure _
    simp only
    split
    · exact .bind (renderText_onlyReads _ _ _) rest
    · exact .bind (.pure _) rest

end

/-- Whatever a step of a rendering gives has a property. -/
def Gives (p : α → Prop) (x : Rendering α) : Prop := ∀ s a, (x.run s).1 = .ok a → p a

theorem Gives.pure {p : α → Prop} {a : α} (h : p a) : Gives p (Pure.pure a : Rendering α) := by
  intro s b hb
  cases hb
  exact h

theorem Gives.throw (p : α → Prop) (e : RenderError) : Gives p (throw e : Rendering α) := by
  intro s b hb
  cases hb

theorem Gives.bind {p : β → Prop} {x : Rendering α} {f : α → Rendering β} (h : ∀ a, Gives p (f a)) :
    Gives p (x >>= f) := by
  intro s b hb
  rw [run_bind] at hb
  rcases hxs : x.run s with ⟨_ | a, s'⟩
  · rw [hxs] at hb
    cases hb
  · rw [hxs] at hb
    exact h a s' b hb

/-- What the first step gives may be used for the second. -/
theorem Gives.bind_of {q : α → Prop} {p : β → Prop} {x : Rendering α} {f : α → Rendering β}
    (hx : Gives q x) (h : ∀ a, q a → Gives p (f a)) : Gives p (x >>= f) := by
  intro s b hb
  rw [run_bind] at hb
  rcases hxs : x.run s with ⟨_ | a, s'⟩
  · rw [hxs] at hb
    cases hb
  · rw [hxs] at hb
    have ha : q a := hx s a (by rw [hxs])
    exact h a ha s' b hb

/-- The values of references get the aliases in order. -/
theorem resolveAll_names (spec : Spec) : ∀ (index : Nat) (refs : List SecretRef),
    Gives (fun values => values.map (·.1) = (List.range' index refs.length).map SecretRef.aliasOf)
      (resolveAll spec index refs)
  | _, [] => .pure rfl
  | index, _ :: rest =>
    .bind fun _ => .bind_of (resolveAll_names spec (index + 1) rest) fun _ hvalues =>
      .pure (congrArg (SecretRef.aliasOf index :: ·) hvalues)

/-- A request carries the action that it was rendered for. -/
theorem request_action [Template.Engine] [Url.Reader] (spec : Spec) (status : Status) (action : Action)
    (m : Mapping) :
    Gives (fun q : RequestDetails => q.action = some action) (request spec status action m) := by
  unfold request
  refine .bind fun url => ?_
  split
  · exact .throw _ _
  · simp only
    split
    · exact .bind fun _ => .bind fun _ => .pure rfl
    · exact .bind fun _ => .bind fun _ => .pure rfl

end Rendering

section

variable [Template.Engine] [Url.Reader]
  (spec : Spec) (status : Status) (action : Action) (m : Mapping) (w : World)

/-- **Rendering reads secrets and does nothing else.** -/
theorem renderRequest_world : ∃ reads, (∀ e ∈ reads, e.isSecretRead = true) ∧
    (renderRequest spec status action m w).2 = w.recordAll reads :=
  Rendering.request_onlyReads spec status action m ⟨w, []⟩

theorem renderRequest_action {request : RequestDetails}
    (h : (renderRequest spec status action m w).1 = .ok request) : request.action = some action :=
  Rendering.request_action spec status action m ⟨w, []⟩ request h

end

/-! ### Copying -/

/-- A property of acts that accesses to secrets have, and that sequences of acts take from their parts. -/
structure Act.AccessClosed (P : ∀ {α : Type}, Act α → Prop) : Prop where
  pure : ∀ {α : Type} (a : α), P (Pure.pure a)
  bind : ∀ {α β : Type} {x : Act α} {f : α → Act β}, P x → (∀ a, P (f a)) → P (x >>= f)
  readSecret : ∀ (deadline : Duration) (k : SecretKey), P (World.readSecret deadline k)
  writeSecret : ∀ (deadline : Duration) (k : SecretKey) (value : String),
    P (World.writeSecret deadline k value)

namespace Act.AccessClosed

variable {P : ∀ {α : Type}, Act α → Prop} (h : AccessClosed P)

include h

theorem writeChanged (deadline : Duration) (k : SecretKey) (value : String) :
    P (writeChanged deadline k value) := by
  refine h.bind (h.readSecret _ _) fun r => ?_
  match r with
  | .error _ => exact h.pure _
  | .ok current =>
    simp only
    split
    · exact h.pure _
    · exact h.bind (h.writeSecret _ _ _) fun _ => h.pure _

theorem injectAll (deadline : Duration) (response : Response) :
    ∀ injections : List Injection, P (injectAll deadline response injections)
  | [] => h.pure _
  | i :: rest => by
    refine h.bind ?_ fun _ => injectAll deadline response rest
    unfold injectOne
    split
    · exact h.pure _
    · exact h.writeChanged _ _ _

/-- Copying consists of accesses to secrets. -/
theorem inject (deadline : Duration) (injections : List Injection) (response : Response) :
    P (inject deadline injections response) := by
  unfold HttpResource.inject
  split
  · exact h.pure _
  · exact h.injectAll _ _ _

end Act.AccessClosed

/-- An act that reads and writes secrets and does nothing else. -/
def OnlyAccesses {α : Type} (x : Act α) : Prop :=
  ∀ w : World, ∃ es : List Event, (∀ e ∈ es, e.isSecretAccess = true) ∧ w.Grows es (x w).2

namespace OnlyAccesses

variable {α β : Type}

theorem pure (a : α) : OnlyAccesses (Pure.pure a : Act α) := fun w => ⟨[], by simp, .refl w⟩

theorem bind {x : Act α} {f : α → Act β} (hx : OnlyAccesses x) (hf : ∀ a, OnlyAccesses (f a)) :
    OnlyAccesses (x >>= f) := by
  intro w
  obtain ⟨es, hes, hw⟩ := hx w
  obtain ⟨fs, hfs, hw'⟩ := hf (x w).1 (x w).2
  refine ⟨es ++ fs, fun e he => ?_, hw.trans hw'⟩
  exact (List.mem_append.mp he).elim (hes e) (hfs e)

theorem readSecret (deadline : Duration) (k : SecretKey) :
    OnlyAccesses (World.readSecret deadline k) :=
  fun _ => ⟨[.readSecret k], by simp [Event.isSecretAccess], ⟨rfl, rfl⟩⟩

theorem writeSecret (deadline : Duration) (k : SecretKey) (value : String) :
    OnlyAccesses (World.writeSecret deadline k value) :=
  fun w => ⟨[.wroteSecret k value], by simp [Event.isSecretAccess],
    w.writeSecret_grows deadline k value⟩

theorem accessClosed : Act.AccessClosed @OnlyAccesses := ⟨pure, bind, readSecret, writeSecret⟩

end OnlyAccesses

end HttpResource
