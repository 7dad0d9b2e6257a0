/-
# What copies leave in the store

Copying goes through the injections in order, and each of them reads a key and writes it if it has another
value. A field that is not there and a key that is out of order cost nothing but the one copy. So what is in
the store afterwards can be told key by key: a key in order has the text of the last injection that has one
for it, and every other key has what it had. The same copies made once more change nothing, and if no two of
them share a key, they write nothing either.

Key definitions: `Injection.Finds`, `lastText`, `Settled`, `World.Quiet`.
Key theorems: `writeChanged_cases`, `get?_injectAll`, `injectAll_of_settled`, `inject_settles`.
-/
import HttpResource.Proofs.Trace

namespace HttpResource

namespace SecretStore

/-- Whether a key can be read and written. -/
def works (s : SecretStore) (k : SecretKey) : Bool := (s.readFault k).isNone && (s.writeFault k).isNone

/-- Whether an event is a write that succeeds (`World.writeSecret_isOk`). -/
def takes (s : SecretStore) : Event → Bool
  | .wroteSecret k _ => (s.writeFault k).isNone
  | _ => false

theorem get?_put (s : SecretStore) (k l : SecretKey) (value : String) :
    (s.put k value).get? l = if l = k then some value else s.get? l :=
  lookup_putValue k l value s.values

end SecretStore

theorem World.writeSecret_isOk (w : World) (deadline : Duration) (k : SecretKey) (value : String) :
    (World.writeSecret deadline k value w).1.isOk = w.secrets.takes (.wroteSecret k value) := by
  simp only [World.writeSecret, SecretStore.write, SecretStore.takes]
  cases w.secrets.writeFault k <;> rfl

/-! ### One copy -/

/-- All that becomes of a world when a key is to have a text. -/
inductive Written (w : World) (k : SecretKey) (value : String) : World → Prop
  /-- The key cannot be read, or has the text. -/
  | kept (same : w.secrets.works k = true → w.secrets.get? k = some value) :
      Written w k value (w.record (.readSecret k))
  /-- The key cannot be written. -/
  | refused (fault : (w.secrets.writeFault k).isSome = true) :
      Written w k value ((w.record (.readSecret k)).record (.wroteSecret k value))
  | changed (works : w.secrets.works k = true) (other : w.secrets.get? k ≠ some value) :
      Written w k value { (w.record (.readSecret k)).record (.wroteSecret k value) with
        secrets := w.secrets.put k value }

theorem written_of_writeChanged (deadline : Duration) (k : SecretKey) (value : String) (w : World) :
    Written w k value (writeChanged deadline k value w).2 := by
  have hread : (World.readSecret deadline k w).1 = w.secrets.read deadline k := rfl
  unfold writeChanged
  rw [Act.bind_apply, hread]
  unfold SecretStore.read
  cases hfault : w.secrets.readFault k with
  | some fault => exact .kept fun hworks => by simp [SecretStore.works, hfault] at hworks
  | none =>
    by_cases hsame : w.secrets.get? k = some value
    · simp only [hsame, if_true]
      exact .kept fun _ => hsame
    · simp only [hsame, if_false]
      rw [Act.bind_apply]
      show Written w k value (World.writeSecret deadline k value (w.record (.readSecret k))).2
      simp only [World.writeSecret, SecretStore.write]
      have hsecrets : (w.record (.readSecret k)).secrets = w.secrets := rfl
      rw [hsecrets]
      cases hwrite : w.secrets.writeFault k with
      | some fault => exact .refused (by rw [hwrite]; rfl)
      | none => exact .changed (by simp [SecretStore.works, hfault, hwrite]) hsame

/-- The same keys are out of order. -/
def SecretStore.SameFaults (s s' : SecretStore) : Prop :=
  s'.readFault = s.readFault ∧ s'.writeFault = s.writeFault

theorem SecretStore.SameFaults.trans {s s' s'' : SecretStore} (h : s.SameFaults s') (h' : s'.SameFaults s'') :
    s.SameFaults s'' := ⟨h'.1.trans h.1, h'.2.trans h.2⟩

theorem SecretStore.SameFaults.works {s s' : SecretStore} (h : s.SameFaults s') (k : SecretKey) :
    s'.works k = s.works k := by
  unfold SecretStore.works
  rw [h.1, h.2]

namespace Written

variable {w w' : World} {k : SecretKey} {value : String} (h : Written w k value w')

include h

theorem sameFaults : w.secrets.SameFaults w'.secrets := by
  cases h <;> exact ⟨rfl, rfl⟩

/-- A key in order has the text, and no other key has changed. -/
theorem get? (l : SecretKey) : w'.secrets.get? l =
    if w.secrets.works l = true ∧ k = l then some value else w.secrets.get? l := by
  cases h with
  | kept same =>
    split
    · rename_i hl
      obtain ⟨hworks, rfl⟩ := hl
      exact same hworks
    · rfl
  | refused fault =>
    have hbroken : ¬(w.secrets.works l = true ∧ k = l) := by
      rintro ⟨hworks, rfl⟩
      simp [Option.isNone_iff_eq_none.mp (Bool.and_eq_true_iff.mp hworks).2] at fault
    rw [if_neg hbroken]
    rfl
  | changed works other =>
    refine (w.secrets.get?_put k l value).trans ?_
    by_cases hl : l = k
    · subst hl
      rw [if_pos rfl, if_pos ⟨works, rfl⟩]
    · rw [if_neg hl, if_neg fun h => hl h.2.symm]

end Written

/-! ### The text of a copy -/

namespace Injection

/-- The path is well formed and leads to a value of the response. -/
def Finds (i : Injection) (response : Response) (v : Json) : Prop :=
  Predicate.extract i.responsePath response.context = .ok (some v)

theorem text?_eq_some_iff {i : Injection} {response : Response} {text : String} :
    i.text? response = some text ↔ ∃ v, i.Finds response v ∧ secretText v = text := by
  unfold text? Finds
  cases Predicate.extract i.responsePath response.context with
  | error e => simp
  | ok found => cases found <;> simp

theorem text?_eq_none_iff {i : Injection} {response : Response} :
    i.text? response = none ↔ ∀ v, ¬i.Finds response v := by
  unfold text? Finds
  cases Predicate.extract i.responsePath response.context with
  | error e => simp
  | ok found => cases found <;> simp

/-- The text for a key. -/
def textFor (response : Response) (k : SecretKey) (i : Injection) : Option String :=
  if i.target = k then i.text? response else none

end Injection

/-- The text of the last injection that has one for a key. -/
def lastText (response : Response) (k : SecretKey) (injections : List Injection) : Option String :=
  injections.reverse.findSome? (Injection.textFor response k)

section

variable (response : Response) (k : SecretKey)

theorem lastText_cons (i : Injection) (rest : List Injection) :
    lastText response k (i :: rest) = (lastText response k rest).or (i.textFor response k) := by
  unfold lastText
  rw [List.reverse_cons, List.findSome?_append, List.findSome?_singleton]

theorem lastText_eq_none {injections : List Injection}
    (h : ∀ i ∈ injections, i.target = k → ∀ v, ¬i.Finds response v) :
    lastText response k injections = none := by
  refine List.findSome?_eq_none_iff.mpr fun i hi => ?_
  unfold Injection.textFor
  split
  · rename_i htarget
    exact Injection.text?_eq_none_iff.mpr (h i (List.mem_reverse.mp hi) htarget)
  · rfl

variable {response}

/-- What comes before an injection that has a text for its key does not matter, and what comes after it does
not either unless it has one itself. -/
theorem lastText_of_last {before after : List Injection} {i : Injection} {v : Json}
    (h : i.Finds response v) (hlast : ∀ j ∈ after, j.target = i.target → ∀ u, ¬j.Finds response u) :
    lastText response i.target (before ++ i :: after) = some (secretText v) := by
  induction before with
  | nil =>
    rw [List.nil_append, lastText_cons, lastText_eq_none response i.target hlast, Option.none_or,
      Injection.textFor, if_pos rfl, Injection.text?_eq_some_iff.mpr ⟨v, h, rfl⟩]
  | cons j before ih => rw [List.cons_append, lastText_cons, ih, Option.some_or]

end

/-! ### All copies -/

section

variable (deadline : Duration) (response : Response)

theorem injectOne_of_none {i : Injection} (h : i.text? response = none) (w : World) :
    (injectOne deadline response i w).2 = w := by
  unfold injectOne
  rw [h]
  rfl

theorem written_of_injectOne {i : Injection} {text : String} (h : i.text? response = some text) (w : World) :
    Written w i.target text (injectOne deadline response i w).2 := by
  unfold injectOne
  rw [h]
  exact written_of_writeChanged deadline i.target text w

theorem injectAll_cons (i : Injection) (rest : List Injection) (w : World) :
    (injectAll deadline response (i :: rest) w).2 =
      (injectAll deadline response rest (injectOne deadline response i w).2).2 := rfl

theorem sameFaults_injectOne (i : Injection) (w : World) :
    w.secrets.SameFaults (injectOne deadline response i w).2.secrets := by
  cases h : i.text? response with
  | none =>
    rw [injectOne_of_none deadline response h]
    exact ⟨rfl, rfl⟩
  | some text => exact (written_of_injectOne deadline response h w).sameFaults

theorem sameFaults_injectAll (injections : List Injection) (w : World) :
    w.secrets.SameFaults (injectAll deadline response injections w).2.secrets := by
  induction injections generalizing w with
  | nil => exact ⟨rfl, rfl⟩
  | cons i rest ih =>
    rw [injectAll_cons]
    exact (sameFaults_injectOne deadline response i w).trans (ih _)

/-- One copy, key by key. -/
theorem get?_injectOne (i : Injection) (w : World) (k : SecretKey) :
    (injectOne deadline response i w).2.secrets.get? k =
      if w.secrets.works k = true then (i.textFor response k).or (w.secrets.get? k)
      else w.secrets.get? k := by
  unfold Injection.textFor
  cases h : i.text? response with
  | none => simp [injectOne_of_none deadline response h]
  | some text =>
    rw [(written_of_injectOne deadline response h w).get? k]
    by_cases hworks : w.secrets.works k = true <;> by_cases htarget : i.target = k <;>
      simp [hworks, htarget]

/-- All copies, key by key. -/
theorem get?_injectAll (injections : List Injection) (w : World) (k : SecretKey) :
    (injectAll deadline response injections w).2.secrets.get? k =
      if w.secrets.works k = true then (lastText response k injections).or (w.secrets.get? k)
      else w.secrets.get? k := by
  induction injections generalizing w with
  | nil => exact (ite_self _).symm
  | cons i rest ih =>
    have hworks := (sameFaults_injectOne deadline response i w).works k
    rw [injectAll_cons, ih, hworks, get?_injectOne, lastText_cons]
    split
    · rw [Option.or_assoc]
    · rfl

end

/-! ### The same copies once more -/

/-- Nothing has been written from one world to the other: the store is the same, and no event since is a
write that it takes. -/
structure World.Quiet (w w' : World) : Prop where
  secrets : w'.secrets = w.secrets
  events : ∃ es, w'.events = w.events ++ es ∧ ∀ e ∈ es, w.secrets.takes e = false

theorem World.Quiet.refl (w : World) : w.Quiet w := ⟨rfl, [], by simp, by simp⟩

theorem World.Quiet.trans {w w' w'' : World} (h : w.Quiet w') (h' : w'.Quiet w'') : w.Quiet w'' := by
  obtain ⟨es, hes, hquiet⟩ := h.events
  obtain ⟨fs, hfs, hquiet'⟩ := h'.events
  rw [h.secrets] at hquiet'
  refine ⟨h'.secrets.trans h.secrets, es ++ fs, by rw [hfs, hes, List.append_assoc], fun e he => ?_⟩
  exact (List.mem_append.mp he).elim (hquiet e) (hquiet' e)

/-- A key that has the text already is not written, and one that is out of order takes no text. -/
theorem Written.quiet {w w' : World} {k : SecretKey} {value : String} (h : Written w k value w')
    (hsame : w.secrets.works k = true → w.secrets.get? k = some value) : w.Quiet w' := by
  cases h with
  | kept => exact ⟨rfl, [.readSecret k], rfl, by simp [SecretStore.takes]⟩
  | refused fault =>
    refine ⟨rfl, [.readSecret k, .wroteSecret k value], List.append_assoc _ _ _, ?_⟩
    simpa [SecretStore.takes] using fault
  | changed works other => exact (other (hsame works)).elim

/-- Every key in order that an injection has a text for has that text. -/
def Settled (response : Response) (injections : List Injection) (s : SecretStore) : Prop :=
  ∀ i ∈ injections, ∀ text, i.text? response = some text → s.works i.target = true →
    s.get? i.target = some text

section

variable (deadline : Duration) {response : Response}

theorem injectOne_of_settled {i : Injection} {w : World}
    (h : ∀ text, i.text? response = some text → w.secrets.works i.target = true →
      w.secrets.get? i.target = some text) : w.Quiet (injectOne deadline response i w).2 := by
  cases htext : i.text? response with
  | none =>
    rw [injectOne_of_none deadline response htext]
    exact .refl w
  | some text => exact (written_of_injectOne deadline response htext w).quiet (h text htext)

theorem injectAll_of_settled {injections : List Injection} {w : World}
    (h : Settled response injections w.secrets) : w.Quiet (injectAll deadline response injections w).2 := by
  induction injections generalizing w with
  | nil => exact .refl w
  | cons i rest ih =>
    have hfirst := injectOne_of_settled deadline (h i List.mem_cons_self)
    rw [injectAll_cons]
    refine hfirst.trans (ih ?_)
    rw [hfirst.secrets]
    exact fun j hj => h j (List.mem_cons_of_mem _ hj)

/-- If no two injections share a key, each one is the last for its own. -/
theorem lastText_of_nodup {injections : List Injection} (hdistinct : (injections.map Injection.target).Nodup)
    {i : Injection} (hi : i ∈ injections) {text : String} (htext : i.text? response = some text) :
    lastText response i.target injections = some text := by
  induction injections with
  | nil => cases hi
  | cons j rest ih =>
    rw [List.map_cons, List.nodup_cons] at hdistinct
    rw [lastText_cons]
    rcases List.mem_cons.mp hi with rfl | hi
    · have hrest : lastText response i.target rest = none := by
        refine lastText_eq_none response i.target fun j hj htarget => ?_
        exact (hdistinct.1 (htarget ▸ List.mem_map_of_mem hj)).elim
      rw [hrest, Option.none_or, Injection.textFor, if_pos rfl, htext]
    · rw [ih hdistinct.2 hi, Option.some_or]

theorem settled_injectAll {injections : List Injection}
    (hdistinct : (injections.map Injection.target).Nodup) (w : World) :
    Settled response injections (injectAll deadline response injections w).2.secrets := by
  intro i hi text htext hworks
  rw [(sameFaults_injectAll deadline response injections w).works] at hworks
  rw [get?_injectAll, if_pos hworks, lastText_of_nodup hdistinct hi htext, Option.some_or]

end

/-- **What copies leave in the store.** A key in order has the value that the last injection to find one for
it has found, and every other key has what it had before. The same copies once more leave everything in its
place, and nothing is written then if no two injections share a key. -/
theorem inject_settles {response : Response} (hanswered : response.statusCode ≠ 0) (deadline : Duration)
    (injections : List Injection) (w : World) :
    let first := (inject deadline injections response w).2
    let second := (inject deadline injections response first).2
    (∀ before i after v, injections = before ++ i :: after → i.Finds response v →
        (∀ j ∈ after, j.target = i.target → ∀ u, ¬j.Finds response u) →
        w.secrets.works i.target = true → first.secrets.get? i.target = some (secretText v)) ∧
      (∀ k, (w.secrets.works k = true → ∀ i ∈ injections, i.target = k → ∀ v, ¬i.Finds response v) →
        first.secrets.get? k = w.secrets.get? k) ∧
      (∀ k, second.secrets.get? k = first.secrets.get? k) ∧
      ((injections.map Injection.target).Nodup →
        ∀ e ∈ second.events.drop first.events.length, first.secrets.takes e = false) := by
  intro first second
  have hinject : inject deadline injections response = injectAll deadline response injections :=
    if_neg hanswered
  have hfirst : first = (injectAll deadline response injections w).2 := by rw [← hinject]
  have hsecond : second = (injectAll deadline response injections first).2 := by rw [← hinject]
  have hcontent : ∀ k, first.secrets.get? k =
      if w.secrets.works k = true then (lastText response k injections).or (w.secrets.get? k)
      else w.secrets.get? k := fun k => by rw [hfirst, get?_injectAll]
  refine ⟨fun before i after v hlist hfinds hlast hworks => ?_, fun k huntouched => ?_, fun k => ?_,
    fun hdistinct e he => ?_⟩
  · rw [hcontent, if_pos hworks, hlist, lastText_of_last hfinds hlast, Option.some_or]
  · rw [hcontent]
    split
    · rename_i hworks
      rw [lastText_eq_none response k (huntouched hworks), Option.none_or]
    · rfl
  · have hworks : first.secrets.works k = w.secrets.works k := by
      rw [hfirst]
      exact (sameFaults_injectAll deadline response injections w).works k
    rw [hsecond, get?_injectAll, hworks, hcontent]
    split
    · rw [← Option.or_assoc, Option.or_self]
    · rfl
  · -- Every key has its text by then, so nothing is left to do.
    have hsettled : Settled response injections first.secrets :=
      hfirst ▸ settled_injectAll deadline hdistinct w
    obtain ⟨es, hes, hquiet⟩ := (injectAll_of_settled deadline hsettled).events
    rw [hsecond, hes, List.drop_left] at he
    exact hquiet e he

/-- The answer to an order. -/
def orderAnswer : Response := { statusCode := 201, body := "\x7b\"id\":7,\"note\":\"\"\x7d" }

/-- A copy into a key of one secret. -/
def orderCopy (key path : String) : Injection := ⟨"shop", "order", key, path⟩

/-- An identifier from an earlier answer, and a key that no write reaches. -/
def lockedOrder : World where
  secrets := {
    values := [(⟨"shop", "order", "id"⟩, "6")]
    writeFault := fun k => if k.key = "lock" then some .hangs else none }

/-- The last path leads nowhere, so the one before it has the last word. The locked key takes no text, and
once more nothing is written. -/
theorem orderCopies_settle :
    (let copies := [orderCopy "id" ".status", orderCopy "id" ".body.id", orderCopy "id" ".body.no",
        orderCopy "lock" ".body.note"]
      let first := (inject (.ofSeconds 5) copies orderAnswer lockedOrder).2
      first.secrets.get? ⟨"shop", "order", "id"⟩ = some "7" ∧
        first.secrets.get? ⟨"shop", "order", "lock"⟩ = none) ∧
    let copies := [orderCopy "id" ".body.id", orderCopy "lock" ".body.note"]
    let first := (inject (.ofSeconds 5) copies orderAnswer lockedOrder).2
    (copies.map Injection.target).Nodup ∧
      ∀ e ∈ (inject (.ofSeconds 5) copies orderAnswer first).2.events.drop first.events.length,
        first.secrets.takes e = false := by
  have hanswered : orderAnswer.statusCode ≠ 0 := by decide
  obtain ⟨v, hfinds, htext⟩ := Injection.text?_eq_some_iff.mp
    (by decide +kernel : (orderCopy "id" ".body.id").text? orderAnswer = some "7")
  have hno : ∀ u, ¬(orderCopy "id" ".body.no").Finds orderAnswer u :=
    Injection.text?_eq_none_iff.mp (by decide +kernel)
  have hlocked : lockedOrder.secrets.works ⟨"shop", "order", "lock"⟩ = false := by decide
  refine ⟨⟨?_, ?_⟩, by decide, (inject_settles hanswered _ _ _).2.2.2 (by decide)⟩
  · rw [← htext]
    refine (inject_settles hanswered _ _ lockedOrder).1 [_] (orderCopy "id" ".body.id") [_, _] v rfl hfinds
      (fun j hj htarget => ?_) (by decide)
    rcases List.mem_cons.mp hj with rfl | hj
    · exact hno
    · cases List.mem_singleton.mp hj
      exact absurd htarget (by decide)
  · exact (inject_settles hanswered _ _ lockedOrder).2.1 _ fun hworks =>
      absurd (hlocked.symm.trans hworks) (by decide)

end HttpResource
