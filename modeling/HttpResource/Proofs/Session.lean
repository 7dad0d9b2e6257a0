/-
# Requests to the cluster

What is sent to the cluster by the two requests that a resource asks for. A status is written by one
request that says all of it. A finalizer is edited by reading the resource, and by one more request with
the whole list of its finalizers if that changes the list.

Key definitions: `Api.sent`, `Api.IsSilent`, `Api.shownFinalizers`.
Key theorems: `Api.patchStatus_sent`, `Api.setFinalizer_sent`.
-/
import HttpResource.Cluster.Object

namespace HttpResource

namespace Api

variable {α β : Type}

theorem run_bind (x : Api α) (f : α → Api β) (s : ApiSession) :
    (x >>= f).run s =
      match x.run s with
      | (.ok a, s') => (f a).run s'
      | (.error e, s') => (.error e, s') := by
  show (ExceptT.bindCont f) (x.run s).1 (x.run s).2 = _
  rcases x.run s with ⟨_ | _, _⟩ <;> rfl

/-- The requests that are sent where these are the replies. -/
def sent (x : Api α) (replies : List ApiReply) : List ApiRequest := (x.run { replies }).2.sent

theorem run_exchange (decode : Json → Option α) (q : ApiRequest) (s : ApiSession) :
    ((exchange decode q).run s).1 = (s.replies.headD s.otherwise).read decode ∧
      ((exchange decode q).run s).2.sent = s.sent ++ [q] := by
  obtain ⟨replies, otherwise, sent⟩ := s
  cases replies <;> exact ⟨rfl, rfl⟩

/-- A request of which only the success counts. -/
theorem sent_of_last {decode : Json → Option α} (q : ApiRequest) (s : ApiSession) :
    ((exchange decode q >>= fun _ => (Pure.pure () : Api Unit)).run s).2.sent = s.sent ++ [q] := by
  have hsent := (run_exchange decode q s).2
  rw [run_bind]
  rcases hs : (exchange decode q).run s with ⟨_ | _, s'⟩ <;> rw [hs] at hsent <;> exact hsent

/-! ### Addresses -/

/-- Nothing is sent and no reply is taken. -/
def IsSilent (x : Api α) : Prop := ∀ s, (x.run s).2 = s

theorem IsSilent.pure (a : α) : IsSilent (Pure.pure a : Api α) := fun _ => rfl

theorem IsSilent.throw (e : ApiError) : IsSilent (throw e : Api α) := fun _ => rfl

theorem IsSilent.bind {x : Api α} {f : α → Api β} (hx : IsSilent x) (hf : ∀ a, IsSilent (f a)) :
    IsSilent (x >>= f) := by
  intro s
  have hsame := hx s
  rw [run_bind]
  rcases hxs : x.run s with ⟨_ | a, s'⟩
  · rw [hxs] at hsame
    exact hsame
  · rw [hxs] at hsame
    exact (hf a s').trans hsame

theorem collectionAddress_silent (key : ResourceKey) : IsSilent (collectionAddress key) := by
  unfold collectionAddress
  split
  · split
    · exact .pure _
    · exact .throw _
  · exact .pure _

theorem objectAddress_silent (collection name : String) : IsSilent (objectAddress collection name) := by
  unfold objectAddress
  dsimp only
  split
  · exact .bind (.throw _) fun _ => .pure _
  · exact .pure _

theorem resourceAddress_silent (key : ResourceKey) : IsSilent (resourceAddress key) :=
  .bind (collectionAddress_silent key) fun collection => objectAddress_silent collection key.name

/-- A request for a resource is made to the address of the resource, if it has one. -/
theorem sent_of_address {key : ResourceKey} {f : String → Api α} (replies : List ApiReply) :
    sent (resourceAddress key >>= f) replies = [] ∨
      ∃ address, sent (resourceAddress key >>= f) replies = sent (f address) replies := by
  unfold sent
  have hsilent := resourceAddress_silent key { replies }
  rw [run_bind]
  rcases haddress : (resourceAddress key).run { replies } with ⟨_ | address, s⟩
  · rw [haddress] at hsilent
    cases hsilent
    exact .inl rfl
  · rw [haddress] at hsilent
    cases hsilent
    exact .inr ⟨address, rfl⟩

/-! ### The status of a resource -/

/-- All that is said of the status. -/
def statusPatch (key : ResourceKey) (status : Status) : Json :=
  Json.ofFields [("apiVersion", .string apiVersion), ("kind", .string key.kind.name),
    ("status", Wire.toJson status)]

theorem statusPatch_status (key : ResourceKey) (status : Status) :
    (statusPatch key status).field? "status" = some (Wire.toJson status) := rfl

theorem patchStatus_sent (key : ResourceKey) (status : Status) (replies : List ApiReply) :
    sent (patchStatus key status) replies = [] ∨
      ∃ address, sent (patchStatus key status) replies =
        [{ method := .apply, address, body := some (statusPatch key status) }] := by
  unfold patchStatus
  rcases @sent_of_address _ key _ replies with h | ⟨address, h⟩
  · exact .inl h
  · rw [h]
    exact .inr ⟨_, sent_of_last _ { replies }⟩

example : (sent (patchStatus ⟨.request, "order-1", none⟩ {}) []).length = 1 := by decide +kernel

/-! ### The finalizers of a resource -/

/-- The whole list of finalizers, and nothing else. -/
def finalizersPatch (finalizers : List String) : Json :=
  Json.ofFields [("metadata", Json.ofFields [("finalizers", Wire.toJson finalizers)])]

/-- The finalizers of the resource that a reply shows, none if it shows no resource. -/
def shownFinalizers (kind : ResourceKind) (shown : ApiReply) : Option (List String) :=
  match shown.read (Resource.ofJson? kind) with
  | .ok r => some (r.metadata.finalizers.getD [])
  | .error _ => none

/-- An edit reads the resource, and writes what it makes of the finalizers that it was shown. -/
theorem setFinalizer_sent (wanted : Bool) (key : ResourceKey) (finalizer : String) (shown : ApiReply)
    (replies : List ApiReply) :
    sent (setFinalizer wanted key finalizer) (shown :: replies) = [] ∨
      ∃ address target, sent (setFinalizer wanted key finalizer) (shown :: replies) =
        { method := .get, address } ::
          (((shownFinalizers key.kind shown).bind (editFinalizers wanted finalizer)).map fun finalizers =>
            { method := .merge, address := target, body := some (finalizersPatch finalizers) }).toList := by
  unfold setFinalizer
  rcases @sent_of_address _ key _ (shown :: replies) with h | ⟨address, h⟩
  · exact .inl h
  · rw [h]
    refine .inr ⟨address, s!"{address}?&fieldManager={fieldManager}", ?_⟩
    have hget : (exchange (Resource.ofJson? key.kind) { method := .get, address }).run
        { replies := shown :: replies } =
          (shown.read (Resource.ofJson? key.kind), { replies, sent := [{ method := .get, address }] }) := rfl
    unfold sent shownFinalizers
    rw [run_bind, hget]
    cases shown.read (Resource.ofJson? key.kind) with
    | error e => rfl
    | ok r =>
      rw [Option.bind_some]
      cases hedit : editFinalizers wanted finalizer (r.metadata.finalizers.getD []) with
      | none =>
        simp only [hedit]
        rfl
      | some finalizers =>
        simp only [hedit]
        exact sent_of_last _ _

end Api

end HttpResource
