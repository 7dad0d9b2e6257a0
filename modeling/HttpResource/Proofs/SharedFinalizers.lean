/-
# Finalizers that others change too

The finalizers of a resource belong to several clients, each of which adds and removes its own. The cluster
carries out one request after another, so a change by another client comes before an edit, after it, or
between the two requests of the edit: the one that reads the finalizers and the one that writes them all.

What comes between is not in the list that the edit has read, and the list that it writes replaces the one
in the cluster as a whole. So such a change is undone unless it left things as they were read
(`SharedEdit.keepsChanges_iff`).

Key definitions: `FinalizerChange.applyAll`, `SharedEdit.final`, `SharedEdit.KeepsChanges`.
Key theorems: `FinalizerChange.contains_applyAll`, `SharedEdit.final_eq`, `SharedEdit.keepsChanges_iff`.
-/
import HttpResource.Proofs.Lawful
import HttpResource.Proofs.Session

namespace HttpResource

/-- Only the finalizer that is edited comes or goes. -/
theorem contains_of_editFinalizers {wanted : Bool} {finalizer : String} {current edited : List String}
    (h : editFinalizers wanted finalizer current = some edited) (name : String) :
    edited.contains name = if name = finalizer then wanted else current.contains name := by
  unfold editFinalizers at h
  split at h
  · cases h
  · cases h
    rw [Bool.eq_iff_iff]
    cases wanted <;> by_cases hname : name = finalizer <;> simp [hname]

/-! ### Changes by other clients -/

/-- A client adds its finalizer or removes it. -/
structure FinalizerChange where
  name : String
  wanted : Bool
deriving DecidableEq, Repr

namespace FinalizerChange

/-- The finalizers after a change. -/
def apply (finalizers : List String) (c : FinalizerChange) : List String :=
  (editFinalizers c.wanted c.name finalizers).getD finalizers

/-- The finalizers after one change after another. -/
def applyAll (changes : List FinalizerChange) (finalizers : List String) : List String :=
  changes.foldl apply finalizers

/-- Whether the last change of a finalizer added it, if there is one. -/
def last? (name : String) : List FinalizerChange → Option Bool
  | [] => none
  | c :: later => (last? name later).or (if c.name = name then some c.wanted else none)

theorem last?_cons (name : String) (c : FinalizerChange) (later : List FinalizerChange) :
    last? name (c :: later) = (last? name later).or (if c.name = name then some c.wanted else none) := rfl

theorem contains_apply (finalizers : List String) (c : FinalizerChange) (name : String) :
    (apply finalizers c).contains name = if name = c.name then c.wanted else finalizers.contains name := by
  unfold apply
  cases hedit : editFinalizers c.wanted c.name finalizers with
  | some edited => exact contains_of_editFinalizers hedit name
  | none =>
    have hsame : finalizers.contains c.name = c.wanted := by
      unfold editFinalizers at hedit
      split at hedit
      · assumption
      · cases hedit
    rw [Option.getD_none]
    by_cases hname : name = c.name
    · rw [if_pos hname, hname, hsame]
    · rw [if_neg hname]

theorem applyAll_append (changes later : List FinalizerChange) (finalizers : List String) :
    applyAll (changes ++ later) finalizers = applyAll later (applyAll changes finalizers) :=
  List.foldl_append

theorem last?_append (name : String) (changes later : List FinalizerChange) :
    last? name (changes ++ later) = (last? name later).or (last? name changes) := by
  induction changes with
  | nil => exact Option.or_none.symm
  | cons c changes ih =>
    rw [List.cons_append, last?_cons, last?_cons, ih, Option.or_assoc]

/-- A finalizer is there if its last change added it, and if it was there and has not been changed. -/
theorem contains_applyAll (changes : List FinalizerChange) (finalizers : List String) (name : String) :
    (applyAll changes finalizers).contains name = (last? name changes).getD (finalizers.contains name) := by
  induction changes generalizing finalizers with
  | nil => rfl
  | cons c later ih =>
    have hstep : applyAll (c :: later) finalizers = applyAll later (apply finalizers c) := rfl
    rw [hstep, ih, contains_apply, last?_cons]
    cases last? name later with
    | some wanted => rfl
    | none =>
      by_cases hname : name = c.name
      · rw [if_pos hname, if_pos hname.symm]
        rfl
      · rw [if_neg hname, if_neg (Ne.symm hname)]
        rfl

end FinalizerChange

open FinalizerChange

/-! ### The cluster's part -/

/-- An object with these finalizers. -/
def finalizersObject (finalizers : List String) : Json := Api.finalizersPatch finalizers

/-- The finalizers of an object. -/
def finalizersOf (object : Json) : List String :=
  (((object.field? "metadata").bind (Json.field? "finalizers")).bind Wire.ofJson?).getD []

/-- The finalizers after a request: a patch is merged into the object, and nothing else changes it. -/
def ApiRequest.carryOut (q : ApiRequest) (finalizers : List String) : List String :=
  match q.method, q.body with
  | .merge, some patch => finalizersOf ((finalizersObject finalizers).mergePatch patch)
  | _, _ => finalizers

/-- The patch of an edit replaces the finalizers as a whole. -/
theorem ApiRequest.carryOut_finalizersPatch (address : String) (written finalizers : List String) :
    ApiRequest.carryOut { method := .merge, address, body := some (Api.finalizersPatch written) } finalizers =
      written := by
  have hmerged : (finalizersObject finalizers).mergePatch (Api.finalizersPatch written) =
      finalizersObject written := by
    simp [finalizersObject, Api.finalizersPatch, Json.ofFields, Json.sortFields, insertEntry, Wire.toJson,
      Json.mergePatch, Json.mergeFields]
  show finalizersOf ((finalizersObject finalizers).mergePatch (Api.finalizersPatch written)) = written
  rw [hmerged]
  show ((Wire.ofJson? (Wire.toJson written) : Option (List String))).getD [] = written
  rw [Wire.Lawful.reads_back]
  rfl

/-! ### An edit among changes -/

/-- One edit of a finalizer, and what other clients change before it has read the finalizers, between that
and the write, and afterwards. -/
structure SharedEdit where
  key : ResourceKey
  finalizer : String
  wanted : Bool
  initial : List String
  before : List FinalizerChange
  between : List FinalizerChange
  after : List FinalizerChange
  /-- The reply to the first request of the edit. -/
  shown : ApiReply
  replies : List ApiReply
  /-- A reply that shows the resource shows the finalizers that it has then. -/
  truthful : ∀ finalizers, Api.shownFinalizers key.kind shown = some finalizers →
    finalizers = applyAll before initial

namespace SharedEdit

/-- The requests of the edit. -/
def requests (e : SharedEdit) : List ApiRequest :=
  Api.sent (Api.setFinalizer e.wanted e.key e.finalizer) (e.shown :: e.replies)

/-- The finalizers when the edit reads them. -/
def atRead (e : SharedEdit) : List String := applyAll e.before e.initial

/-- The finalizers after requests that are carried out one after another. -/
def carryOut (requests : List ApiRequest) (finalizers : List String) : List String :=
  requests.foldl (fun finalizers q => q.carryOut finalizers) finalizers

/-- The finalizers after everything. -/
def final (e : SharedEdit) : List String :=
  applyAll e.after (carryOut (e.requests.drop 1)
    (applyAll e.between (carryOut (e.requests.take 1) e.atRead)))

/-- All that other clients change. -/
def changes (e : SharedEdit) : List FinalizerChange := e.before ++ e.between ++ e.after

/-- Every finalizer that another client has changed, except the edited one, ends up as the last of its
changes left it. -/
def KeepsChanges (e : SharedEdit) : Prop :=
  ∀ name, name ≠ e.finalizer → ∀ added, last? name e.changes = some added → e.final.contains name = added

/-- The edit asks for other finalizers than those it has read. -/
def Writes (e : SharedEdit) : Prop := ∃ q ∈ e.requests, q.method = .merge

instance (e : SharedEdit) : Decidable e.Writes :=
  inferInstanceAs (Decidable (∃ q ∈ e.requests, q.method = .merge))

/-- An edit that writes replaces all finalizers by those that it has read with its own one edited, and
one that does not write changes nothing. -/
theorem final_eq (e : SharedEdit) :
    (¬e.Writes ∧ e.final = applyAll e.changes e.initial) ∨
      (e.Writes ∧ ∃ written, editFinalizers e.wanted e.finalizer e.atRead = some written ∧
        e.final = applyAll e.after written) := by
  have hunchanged : applyAll e.changes e.initial = applyAll e.after (applyAll e.between e.atRead) := by
    rw [changes, applyAll_append, applyAll_append]
    rfl
  unfold Writes final
  rcases Api.setFinalizer_sent e.wanted e.key e.finalizer e.shown e.replies with h | ⟨address, target, h⟩
  · have hrequests : e.requests = [] := h
    rw [hrequests, hunchanged]
    exact .inl ⟨by simp, rfl⟩
  · have hrequests : e.requests = _ := h
    rw [hrequests]
    cases hwritten : (Api.shownFinalizers e.key.kind e.shown).bind (editFinalizers e.wanted e.finalizer) with
    | none =>
      rw [hunchanged]
      exact .inl ⟨by simp, rfl⟩
    | some written =>
      obtain ⟨finalizers, hshown, hedit⟩ := Option.bind_eq_some_iff.mp hwritten
      rw [e.truthful finalizers hshown] at hedit
      refine .inr ⟨⟨_, List.mem_cons_of_mem _ (List.mem_singleton.mpr rfl), rfl⟩, written, hedit, ?_⟩
      exact congrArg (applyAll e.after) (ApiRequest.carryOut_finalizersPatch target written _)

/-- **An edit keeps the changes of other clients** exactly if it writes nothing, or if each finalizer that
was changed between its two requests, and not again later, was left as the edit had read it. -/
theorem keepsChanges_iff (e : SharedEdit) :
    e.KeepsChanges ↔
      (e.Writes → ∀ name, name ≠ e.finalizer → ∀ added, last? name e.between = some added →
        last? name e.after = none → e.atRead.contains name = added) := by
  have hlast : ∀ name, last? name e.changes =
      (last? name e.after).or ((last? name e.between).or (last? name e.before)) := by
    intro name
    rw [changes, last?_append, last?_append]
  rcases final_eq e with ⟨hwrites, hfinal⟩ | ⟨hwrites, written, hedit, hfinal⟩
  · refine iff_of_true (fun name _ added hadded => ?_) fun h => absurd h hwrites
    rw [hfinal, contains_applyAll, hadded]
    rfl
  · have hcontains : ∀ name, name ≠ e.finalizer →
        e.final.contains name = (last? name e.after).getD (e.atRead.contains name) := by
      intro name hname
      rw [hfinal, contains_applyAll, contains_of_editFinalizers hedit, if_neg hname]
    constructor
    · intro hkeeps _ name hname added hbetween hafter
      have hadded : last? name e.changes = some added := by
        rw [hlast, hafter, hbetween]
        rfl
      rw [← hkeeps name hname added hadded, hcontains name hname, hafter]
      rfl
    · intro hleft name hname added hadded
      rw [hlast] at hadded
      rw [hcontains name hname]
      cases hafter : last? name e.after with
      | some q =>
        rw [hafter] at hadded
        cases hadded
        rfl
      | none =>
        rw [hafter, Option.none_or] at hadded
        rw [Option.getD_none]
        cases hbetween : last? name e.between with
        | some q =>
          rw [hbetween] at hadded
          cases hadded
          exact hleft hwrites name hname added hbetween hafter
        | none =>
          rw [hbetween, Option.none_or] at hadded
          rw [atRead, contains_applyAll, hadded]
          rfl

/-! ### A change that is lost -/

/-- An order without finalizers. -/
def orderReply : ApiReply where
  status := 200
  body := "\x7b\"metadata\":\x7b\"name\":\"order-1\",\"resourceVersion\":\"7\"\x7d," ++
    "\"spec\":\x7b\"forProvider\":\x7b\x7d\x7d\x7d"

/-- A backup holds an order that has just been read to get its first finalizer. -/
def heldOrder : SharedEdit where
  key := ⟨.request, "order-1", none⟩
  finalizer := Resource.finalizer
  wanted := true
  initial := []
  before := []
  between := [⟨"backup.example.com/hold", true⟩]
  after := []
  shown := orderReply
  replies := [orderReply]
  truthful := by
    have hshown : Api.shownFinalizers .request orderReply = some [] := by decide +kernel
    intro finalizers h
    cases hshown.symm.trans h
    rfl

/-- The hold of the backup is gone as soon as the order has its own finalizer. -/
theorem heldOrder_released :
    heldOrder.Writes ∧ heldOrder.final = [Resource.finalizer] ∧ ¬heldOrder.KeepsChanges := by
  obtain ⟨hwrites, hfinal⟩ : heldOrder.Writes ∧ heldOrder.final = [Resource.finalizer] := by
    decide +kernel
  refine ⟨hwrites, hfinal, fun hkeeps => ?_⟩
  have hheld : heldOrder.final.contains "backup.example.com/hold" = true :=
    hkeeps "backup.example.com/hold" (by decide) true (by decide)
  rw [hfinal] at hheld
  exact absurd hheld (by decide)

/-- An order that a backup holds. -/
def heldReply : ApiReply where
  status := 200
  body := "\x7b\"metadata\":\x7b\"name\":\"order-1\",\"resourceVersion\":\"8\"," ++
    "\"finalizers\":[\"backup.example.com/hold\"]\x7d,\"spec\":\x7b\"forProvider\":\x7b\x7d\x7d\x7d"

/-- The backup holds the order before it is read. An auditor marks it in between, and again later. -/
def auditedOrder : SharedEdit where
  key := ⟨.request, "order-1", none⟩
  finalizer := Resource.finalizer
  wanted := true
  initial := []
  before := [⟨"backup.example.com/hold", true⟩]
  between := [⟨"audit.example.com/mark", true⟩]
  after := [⟨"audit.example.com/mark", true⟩]
  shown := heldReply
  replies := [heldReply]
  truthful := by
    have hshown : Api.shownFinalizers .request heldReply = some ["backup.example.com/hold"] := by
      decide +kernel
    intro finalizers h
    cases hshown.symm.trans h
    rfl

/-- Both finalizers stay beside the one that the order gets, the first mark being made good by the second. -/
theorem auditedOrder_kept :
    auditedOrder.Writes ∧
      auditedOrder.final = ["backup.example.com/hold", Resource.finalizer, "audit.example.com/mark"] ∧
      auditedOrder.KeepsChanges := by
  obtain ⟨hwrites, hfinal⟩ : auditedOrder.Writes ∧ auditedOrder.final =
      ["backup.example.com/hold", Resource.finalizer, "audit.example.com/mark"] := by decide +kernel
  refine ⟨hwrites, hfinal, auditedOrder.keepsChanges_iff.mpr ?_⟩
  intro _ name _ added hbetween hafter
  -- whatever was changed in between was changed again
  have hsame : last? name auditedOrder.between = last? name auditedOrder.after := rfl
  rw [hsame, hafter] at hbetween
  cases hbetween

end SharedEdit

end HttpResource
