/-
# Changes of declarations against the history of reports

Which reports are acted on is decided with the generations that are known. What is known of an object is the
generation that its latest report gave (`lookup_after`), so the known generations stand for the whole history:
a report on an object is acted on exactly if its generation is not the one that was reported of this object
last (`specChanges_eq_news`). Other objects do not matter (`onObject_specChanges`), and a report that repeats
the generation might as well not have been made (`specChanges_updates`).

A filter that keeps fingerprints of generations, in whatever store, acts on the same reports if no two
generations have one fingerprint (`FingerprintStore.filter_eq`).

Key definitions: `lastGeneration?`, `WatchEvent.isNews`, `news`, `FingerprintStore`.
Key theorems: `lookup_after`, `FingerprintStore.watches_declarations`.
-/
import HttpResource.Watch
import Mathlib.Data.List.Induction
import Mathlib.Logic.Function.Basic

namespace HttpResource

variable {α : Type}

/-! ### The history of reports -/

namespace WatchEvent

/-- Whether a report is on an object. -/
def isOn (ref : ObjectRef) : WatchEvent α → Bool
  | object ref' _ _ => ref' = ref
  | failure => false

/-- The generation that a report gives for an object. -/
def generationOf? (ref : ObjectRef) : WatchEvent α → Option Int64
  | object ref' g _ => if ref' = ref then g else none
  | failure => none

end WatchEvent

/-- The reports on an object. -/
def onObject (ref : ObjectRef) (events : List (WatchEvent α)) : List (WatchEvent α) :=
  events.filter (·.isOn ref)

/-- The generation of an object in its latest report that gave one, which is its latest report if all of them
give one. -/
def lastGeneration? (ref : ObjectRef) (events : List (WatchEvent α)) : Option Int64 :=
  (events.filterMap (·.generationOf? ref)).getLast?

namespace WatchEvent

/-- Whether a report says more than the declaration that was last reported: that the watch failed, or that an
object has another generation than before, or one that is not known. -/
def isNews (before : List (WatchEvent α)) : WatchEvent α → Bool
  | failure => true
  | object _ none _ => true
  | object ref (some g) _ => lastGeneration? ref before ≠ some g

/-- A report on an object that has the generation of its latest report. -/
def IsUpdate (before : List (WatchEvent α)) (e : WatchEvent α) : Prop :=
  ∃ ref g value, e = object ref (some g) value ∧ lastGeneration? ref before = some g

end WatchEvent

/-- The reports that are news, each after those before it. -/
def news (events : List (WatchEvent α)) : List (WatchEvent α) :=
  (events.zipIdx.filter fun (e, i) => e.isNews (events.take i)).map (·.1)

theorem lastGeneration?_snoc (ref : ObjectRef) (events : List (WatchEvent α)) (e : WatchEvent α) :
    lastGeneration? ref (events ++ [e]) = (e.generationOf? ref).or (lastGeneration? ref events) := by
  unfold lastGeneration?
  rw [List.filterMap_append, List.getLast?_append]
  cases h : e.generationOf? ref <;> simp [h]

theorem news_snoc (events : List (WatchEvent α)) (e : WatchEvent α) :
    news (events ++ [e]) = news events ++ if e.isNews events then [e] else [] := by
  have hearlier : ∀ p ∈ events.zipIdx, (events ++ [e]).take p.2 = events.take p.2 := by
    intro p hp
    have hlt := (List.mem_zipIdx' hp).1
    exact List.take_append_of_le_length (Nat.le_of_lt hlt)
  unfold news
  rw [List.zipIdx_append, List.filter_append, List.map_append]
  congr 1
  · refine congrArg _ (List.filter_congr fun p hp => ?_)
    simp only [hearlier p hp]
  · rw [List.zipIdx_singleton, Nat.zero_add, List.filter_cons]
    simp only [List.take_left]
    cases e.isNews events <;> rfl

/-! ### What is known -/

namespace Generations

/-- What is known after one more report. -/
def seen (known : Generations) : WatchEvent α → Generations
  | .object ref (some g) _ => if known.lookup ref = some g then known else (ref, g) :: known
  | _ => known

/-- What is known after a run of reports. -/
def after (known : Generations) (events : List (WatchEvent α)) : Generations := events.foldl seen known

/-- Whether a report is to be acted on. -/
def isNew (known : Generations) : WatchEvent α → Bool
  | .object ref (some g) _ => known.lookup ref ≠ some g
  | _ => true

theorem lookup_seen (known : Generations) (e : WatchEvent α) (ref : ObjectRef) :
    (known.seen e).lookup ref = (e.generationOf? ref).or (known.lookup ref) := by
  match e with
  | .failure => rfl
  | .object ref' none _ =>
    show known.lookup ref = (if ref' = ref then none else none).or (known.lookup ref)
    rw [ite_self, Option.none_or]
  | .object ref' (some g) _ =>
    unfold seen WatchEvent.generationOf?
    by_cases href : ref' = ref
    · subst href
      by_cases hknown : known.lookup ref' = some g
      · simp [hknown]
      · simp [hknown]
    · have hother : (ref == ref') = false := by simpa using Ne.symm href
      by_cases hknown : known.lookup ref' = some g
      · simp [hknown, href]
      · simp [hknown, href, List.lookup_cons, hother]

/-- What is known of an object is what was reported of it last. -/
theorem lookup_after (events : List (WatchEvent α)) (ref : ObjectRef) :
    (after [] events).lookup ref = lastGeneration? ref events := by
  induction events using List.reverseRecOn with
  | nil => rfl
  | append_singleton events e ih =>
    rw [after, List.foldl_append, List.foldl_cons, List.foldl_nil, lookup_seen, lastGeneration?_snoc]
    exact congrArg _ ih

theorem isNew_after (events : List (WatchEvent α)) (e : WatchEvent α) :
    (after [] events).isNew e = e.isNews events := by
  match e with
  | .failure => rfl
  | .object _ none _ => rfl
  | .object ref (some g) _ =>
    show decide ((after [] events).lookup ref ≠ some g) = decide (lastGeneration? ref events ≠ some g)
    rw [lookup_after]

/-- A report that repeats what is known teaches nothing. -/
theorem seen_of_update {known : Generations} {ref : ObjectRef} {g : Int64} (h : known.lookup ref = some g)
    (value : α) : known.seen (.object ref (some g) value) = known := if_pos h

end Generations

theorem specChangesFrom_cons (known : Generations) (e : WatchEvent α) (rest : List (WatchEvent α)) :
    specChangesFrom known (e :: rest) =
      (if known.isNew e then [e] else []) ++ specChangesFrom (known.seen e) rest := by
  match e with
  | .failure => rfl
  | .object _ none _ => rfl
  | .object ref (some g) _ =>
    rw [specChangesFrom, Generations.isNew, Generations.seen]
    by_cases h : known.lookup ref = some g <;> simp [h]

theorem specChangesFrom_append (known : Generations) (xs ys : List (WatchEvent α)) :
    specChangesFrom known (xs ++ ys) = specChangesFrom known xs ++ specChangesFrom (known.after xs) ys := by
  induction xs generalizing known with
  | nil => rfl
  | cons e xs ih =>
    rw [List.cons_append, specChangesFrom_cons, specChangesFrom_cons, ih, List.append_assoc]
    rfl

/-! ### Reports of one object, and repeated reports -/

theorem specChanges_eq_news (events : List (WatchEvent α)) : specChanges events = news events := by
  induction events using List.reverseRecOn with
  | nil => rfl
  | append_singleton events e ih =>
    rw [news_snoc, ← ih, specChanges, specChangesFrom_append, specChangesFrom_cons, Generations.isNew_after,
      specChangesFrom, List.append_nil]
    rfl

/-- Of an object only what is known of this object matters. -/
theorem onObject_specChangesFrom {ref : ObjectRef} {known known' : Generations}
    (h : known.lookup ref = known'.lookup ref) (events : List (WatchEvent α)) :
    onObject ref (specChangesFrom known events) = specChangesFrom known' (onObject ref events) := by
  induction events generalizing known known' with
  | nil => rfl
  | cons e rest ih =>
    have hnext : (known.seen e).lookup ref = (known'.seen e).lookup ref := by
      rw [Generations.lookup_seen, Generations.lookup_seen, h]
    by_cases hon : e.isOn ref = true
    · have hnew : known.isNew e = known'.isNew e := by
        match e with
        | .failure => rfl
        | .object _ none _ => rfl
        | .object ref' (some g) _ =>
          have href : ref' = ref := by simpa [WatchEvent.isOn] using hon
          show decide (known.lookup ref' ≠ some g) = decide (known'.lookup ref' ≠ some g)
          rw [href, h]
      have hhead : onObject ref (e :: rest) = e :: onObject ref rest := List.filter_cons_of_pos hon
      rw [hhead, specChangesFrom_cons, specChangesFrom_cons, ← hnew, ← ih hnext]
      cases known.isNew e with
      | true => exact List.filter_cons_of_pos hon
      | false => rfl
    · have hsame : (known.seen e).lookup ref = known'.lookup ref := by
        have hother : e.generationOf? ref = none := by
          match e with
          | .failure => rfl
          | .object ref' _ _ =>
            have href : ref' ≠ ref := by simpa [WatchEvent.isOn] using hon
            exact if_neg href
        rw [Generations.lookup_seen, hother, h, Option.none_or]
      have hhead : onObject ref (e :: rest) = onObject ref rest := List.filter_cons_of_neg hon
      rw [hhead, specChangesFrom_cons, ← ih hsame]
      cases known.isNew e with
      | true => exact List.filter_cons_of_neg hon
      | false => rfl

theorem onObject_specChanges (ref : ObjectRef) (events : List (WatchEvent α)) :
    onObject ref (specChanges events) = specChanges (onObject ref events) :=
  onObject_specChangesFrom rfl events

/-- Reports that repeat what is known are not acted on, and leave it as it is. -/
theorem specChangesFrom_updates {known : Generations} {updates : List (WatchEvent α)}
    (h : ∀ e ∈ updates, ∃ ref g value, e = .object ref (some g) value ∧ known.lookup ref = some g) :
    specChangesFrom known updates = [] ∧ known.after updates = known := by
  induction updates with
  | nil => exact ⟨rfl, rfl⟩
  | cons e rest ih =>
    obtain ⟨⟨ref, g, value, rfl, hknown⟩, hrest⟩ := List.forall_mem_cons.mp h
    have hseen := Generations.seen_of_update hknown value
    constructor
    · rw [specChangesFrom_cons, hseen, (ih hrest).1]
      simp [Generations.isNew, hknown]
    · rw [Generations.after, List.foldl_cons, hseen]
      exact (ih hrest).2

theorem specChanges_updates {before updates : List (WatchEvent α)} (h : ∀ e ∈ updates, e.IsUpdate before)
    (rest : List (WatchEvent α)) :
    specChanges (before ++ updates ++ rest) = specChanges (before ++ rest) := by
  have hknown : ∀ e ∈ updates, ∃ ref g value, e = .object ref (some g) value ∧
      (Generations.after [] before).lookup ref = some g := by
    intro e he
    obtain ⟨ref, g, value, heq, hlast⟩ := h e he
    exact ⟨ref, g, value, heq, by rw [Generations.lookup_after, hlast]⟩
  obtain ⟨hnone, hsame⟩ := specChangesFrom_updates hknown
  simp only [specChanges]
  rw [List.append_assoc, specChangesFrom_append, specChangesFrom_append, specChangesFrom_append, hnone,
    hsame, List.nil_append]

/-! ### Fingerprints -/

/-- A store of one fingerprint for each object. -/
structure FingerprintStore (κ : Type) where
  State : Type
  empty : State
  get? : State → ObjectRef → Option κ
  put : State → ObjectRef → κ → State
  get?_empty : ∀ ref, get? empty ref = none
  get?_put : ∀ s ref k ref', get? (put s ref k) ref' = if ref' = ref then some k else get? s ref'

namespace FingerprintStore

variable {κ : Type} [DecidableEq κ] (S : FingerprintStore κ) (fingerprint : Int64 → κ)

/-- The reports that are passed on: those without a generation, and those whose generation has not the
fingerprint that is stored of the object. Every fingerprint is stored. -/
def filterFrom (s : S.State) : List (WatchEvent α) → List (WatchEvent α)
  | [] => []
  | .failure :: rest => .failure :: filterFrom s rest
  | .object ref none value :: rest => .object ref none value :: filterFrom s rest
  | .object ref (some g) value :: rest =>
    if S.get? s ref = some (fingerprint g) then filterFrom (S.put s ref (fingerprint g)) rest
    else .object ref (some g) value :: filterFrom (S.put s ref (fingerprint g)) rest

def filter (events : List (WatchEvent α)) : List (WatchEvent α) := S.filterFrom fingerprint S.empty events

variable {fingerprint}

/-- The store holds the fingerprints of what is known. -/
theorem filterFrom_eq (hinj : Function.Injective fingerprint) {s : S.State} {known : Generations}
    (h : ∀ ref, S.get? s ref = (known.lookup ref).map fingerprint) (events : List (WatchEvent α)) :
    S.filterFrom fingerprint s events = specChangesFrom known events := by
  induction events generalizing s known with
  | nil => rfl
  | cons e rest ih =>
    match e with
    | .failure => exact congrArg _ (ih h)
    | .object _ none _ => exact congrArg _ (ih h)
    | .object ref (some g) value =>
      have hsame : S.get? s ref = some (fingerprint g) ↔ known.lookup ref = some g := by
        rw [h, Option.map_eq_some_iff]
        refine ⟨fun ⟨g', hg', heq⟩ => ?_, fun hg => ⟨g, hg, rfl⟩⟩
        rw [hg', hinj heq]
      have hnext : ∀ ref', S.get? (S.put s ref (fingerprint g)) ref' =
          ((known.seen (.object ref (some g) value)).lookup ref').map fingerprint := by
        intro ref'
        rw [S.get?_put, Generations.lookup_seen, WatchEvent.generationOf?]
        by_cases href : ref' = ref
        · simp [href]
        · simp [href, Ne.symm href, h]
      rw [filterFrom, specChangesFrom_cons, ← ih hnext, Generations.isNew]
      by_cases hg : known.lookup ref = some g
      · simp [hg, hsame.mpr hg]
      · simp [hg, mt hsame.mp hg]

theorem filter_eq (hinj : Function.Injective fingerprint) (events : List (WatchEvent α)) :
    S.filter fingerprint events = specChanges events := by
  refine S.filterFrom_eq hinj (fun ref => ?_) events
  rw [S.get?_empty]
  rfl

/-- **What is acted on.** A filter that stores a fingerprint of the latest generation of each object acts on
the changes of declarations, whatever the reports are: on each failure of the watch, and on each report whose
generation is not the one that was reported of its object last, in their order. Of an object it acts on what
it would act on if there were no other objects; and taking any number of reports out that repeat the
generations reported last changes nothing. -/
theorem watches_declarations (hinj : Function.Injective fingerprint) (events : List (WatchEvent α)) :
    S.filter fingerprint events = specChanges events ∧ specChanges events = news events ∧
      (∀ ref, onObject ref (specChanges events) = specChanges (onObject ref events)) ∧
      ∀ before updates rest, events = before ++ updates ++ rest → (∀ e ∈ updates, e.IsUpdate before) →
        specChanges events = specChanges (before ++ rest) :=
  ⟨S.filter_eq hinj events, specChanges_eq_news events, fun ref => onObject_specChanges ref events,
    fun _ _ rest heq h => heq ▸ specChanges_updates h rest⟩

/-- The store that is a table of all objects. -/
def ofTable (κ : Type) : FingerprintStore κ where
  State := ObjectRef → Option κ
  empty _ := none
  get? s ref := s ref
  put s ref k ref' := if ref' = ref then some k else s ref'
  get?_empty _ := rfl
  get?_put _ _ _ _ := rfl

/-- An order of the shop, at the given generation with a count of failures. -/
def orderReport (g : Int64) (failed : Nat) : WatchEvent Nat := .object ⟨"orders", some "shop"⟩ (some g) failed

/-- The invoices of the shop, just as the orders. -/
def invoiceReport (g : Int64) (failed : Nat) : WatchEvent Nat :=
  .object ⟨"invoices", some "shop"⟩ (some g) failed

/-- Failures of an order are counted while invoices come up and the watch fails, and the order is changed and
changed back. -/
def shopReports : List (WatchEvent Nat) :=
  [orderReport 1 0, orderReport 1 1, invoiceReport 1 0, orderReport 1 2, .failure, orderReport 2 2,
    invoiceReport 1 1, orderReport 1 2]

/-- The counts alone are not acted on. -/
theorem shopReports_watched :
    Function.Injective Int64.toUInt64 ∧
      (ofTable UInt64).filter Int64.toUInt64 shopReports =
        [orderReport 1 0, invoiceReport 1 0, .failure, orderReport 2 2, orderReport 1 2] ∧
      onObject ⟨"orders", some "shop"⟩ (specChanges shopReports) =
        [orderReport 1 0, orderReport 2 2, orderReport 1 2] ∧
      specChanges shopReports =
        specChanges [orderReport 1 0, invoiceReport 1 0, orderReport 1 2, .failure, orderReport 2 2,
          invoiceReport 1 1, orderReport 1 2] := by
  have hinj : Function.Injective Int64.toUInt64 := fun _ _ h => congrArg Int64.ofUInt64 h
  obtain ⟨hfilter, -, hobject, hupdates⟩ := (ofTable UInt64).watches_declarations hinj shopReports
  refine ⟨hinj, ?_, ?_, ?_⟩
  · rw [hfilter]
    decide
  · rw [hobject]
    decide
  · refine hupdates [orderReport 1 0] [orderReport 1 1] _ rfl fun e he => ?_
    rw [List.mem_singleton.mp he]
    exact ⟨_, _, _, rfl, by decide⟩

end FingerprintStore

end HttpResource
