/-
# Copies stay in the secret store

What a call copies into secrets comes after all that it reads of them, and a copy that goes wrong is
dropped. So calls that differ in the copies alone give the same report, send the same request, and leave
worlds that differ in the values of secrets and in the accesses to them alone.

Key definitions: `World.surroundings`, `Turn.copying`.
Key theorem: `Turn.copies_confined`.
-/
import HttpResource.Proofs.References
import HttpResource.Proofs.Turn

namespace HttpResource

/-! ### What is around the secrets -/

namespace World

/-- The world without the values of secrets and without the accesses to them. Which keys are out of order
stays. -/
def surroundings (w : World) : World :=
  { w with
    secrets := { w.secrets with values := [] }
    events := w.events.filter fun e => !e.isSecretAccess }

theorem surroundings_record (w : World) {e : Event} (h : e.isSecretAccess = true) :
    (w.record e).surroundings = w.surroundings := by
  simp [surroundings, record, List.filter_append, h]

theorem surroundings_withValues (w : World) (values : List (SecretKey × String)) :
    { w with secrets := { w.secrets with values } }.surroundings = w.surroundings := rfl

end World

/-- An act that leaves all but the secrets as it is. -/
def KeepsSurroundings {α : Type} (x : Act α) : Prop := ∀ w : World, (x w).2.surroundings = w.surroundings

namespace KeepsSurroundings

variable {α β : Type}

theorem pure (a : α) : KeepsSurroundings (Pure.pure a : Act α) := fun _ => rfl

theorem bind {x : Act α} {f : α → Act β} (hx : KeepsSurroundings x)
    (hf : ∀ a, KeepsSurroundings (f a)) : KeepsSurroundings (x >>= f) :=
  fun w => (hf (x w).1 (x w).2).trans (hx w)

theorem readSecret (deadline : Duration) (k : SecretKey) :
    KeepsSurroundings (World.readSecret deadline k) :=
  fun w => w.surroundings_record rfl

theorem writeSecret (deadline : Duration) (k : SecretKey) (value : String) :
    KeepsSurroundings (World.writeSecret deadline k value) := by
  intro w
  have hrecord := w.surroundings_record (e := .wroteSecret k value) rfl
  unfold World.writeSecret SecretStore.write SecretStore.put
  cases w.secrets.writeFault k with
  | some fault => exact hrecord
  | none => exact (World.surroundings_withValues _ _).trans hrecord

theorem accessClosed : Act.AccessClosed @KeepsSurroundings := ⟨pure, bind, readSecret, writeSecret⟩

end KeepsSurroundings

/-! ### Two turns -/

/-- A specification that asks for other copies. -/
def Spec.copying (s : Spec) (injections : List Injection) : Spec := { s with injections }

theorem Spec.rendersAs_copying (s : Spec) (injections : List Injection) (templates : List String) :
    Spec.RendersAs templates (s.copying injections) s :=
  ⟨⟨rfl, rfl, fun _ _ _ _ => rfl⟩, rfl⟩

namespace Turn

/-- The turn that asks for other copies. -/
def copying (t : Turn) (injections : List Injection) : Turn :=
  { t with spec := t.spec.copying injections }

variable (t : Turn) (injections : List Injection)

theorem plan_copying : (t.copying injections).call.plan (t.copying injections).policy
    (t.copying injections).spec (t.copying injections).before =
      t.call.plan t.policy t.spec t.before := rfl

/-- The result of an attempt is read without a look at the copies. -/
theorem report_copying (a : Attempt) : (t.copying injections).call.report (t.copying injections).spec
    (t.copying injections).before (t.copying injections).time a =
      t.call.report t.spec t.before t.time a := rfl

variable [Template.Engine] [Url.Reader]

theorem attempt_copying (m : Mapping) : attempt (t.copying injections).spec (t.copying injections).before
    (t.copying injections).call.action m = attempt t.spec t.before t.call.action m :=
  attempt_congr (t.spec.rendersAs_copying injections _) t.before t.call.action rfl

theorem rendered_copying (m : Mapping) : (t.copying injections).rendered m = t.rendered m :=
  congrArg Prod.fst (congrFun (renderRequest_congr (t.spec.rendersAs_copying injections _) t.before
    t.call.action) t.world)

/-- What a turn leaves around the secrets is what its attempt has left there. -/
theorem surroundings_of_attempts {t : Turn} {m : Mapping}
    (h : t.call.plan t.policy t.spec t.before = .attempts m) :
    t.worldAfter.surroundings = (attempt t.spec t.before t.call.action m t.world).2.surroundings := by
  unfold worldAfter
  rw [outcome_of_attempts h]
  exact KeepsSurroundings.accessClosed.copyInto _ _ _

/-- **The copies of a call change nothing but secrets**, whatever they are of and whatever becomes of
them: the result, the new status and the request are those of the call with any other copies, and so is
all that it leaves around the secrets. -/
theorem copies_confined :
    (t.copying injections).report = t.report ∧ (t.copying injections).request? = t.request? ∧
      (t.copying injections).worldAfter.surroundings = t.worldAfter.surroundings := by
  cases h : t.call.plan t.policy t.spec t.before with
  | ends r =>
    have h' := (t.plan_copying injections).trans h
    have hsame : (t.copying injections).outcome = t.outcome :=
      (outcome_of_ends h').trans (outcome_of_ends h).symm
    have hworld : (t.copying injections).worldAfter = t.worldAfter := congrArg Prod.snd hsame
    refine ⟨congrArg Prod.fst hsame, ?_, congrArg World.surroundings hworld⟩
    unfold request? events
    rw [hworld]
    rfl
  | attempts m =>
    have h' := (t.plan_copying injections).trans h
    refine ⟨?_, ?_, ?_⟩
    · rw [report_of_attempts h', report_of_attempts h, report_copying, attempt_copying]
      rfl
    · rw [request?_of_attempts h', request?_of_attempts h, rendered_copying]
    · -- the copies come last, so all reading of secrets is over by then
      rw [surroundings_of_attempts h', surroundings_of_attempts h, attempt_copying]
      rfl

end Turn

end HttpResource
