/-
# The accounts of a run

Whatever is called for, and whatever becomes of it, the status keeps straight accounts of the run that
led to it: how many failures have been recorded since the resource was last in sync, and the message of
the latest of them. One turn keeps the accounts (`Turn.keeps_accounts`), hence every run from the empty
status does (`Run.accounts`).

Key definitions: `Run.failuresSinceSync`, `Run.lastFailure?`, `Accounts`.
-/
import HttpResource.Proofs.Run

namespace HttpResource

/-- A failure's message is never empty, so the empty text can stand for no failure. -/
theorem Cause.message_ne_empty (c : Cause) : c.message ≠ "" := by
  cases c
  case mismatch => decide
  all_goals
    unfold message
    simp only [ne_eq, String.append_eq_empty_iff, and_assoc]
    exact fun h => absurd h.1 (by decide)

variable [Template.Engine] [Url.Reader]

namespace Turn

/-- The failure that a turn recorded. -/
def failure? (t : Turn) : Option Failure :=
  match t.report.status, t.report.result with
  | some _, .error f => some f
  | _, _ => none

/-- Whether a turn recorded that the resource is in sync. -/
def recordsSync (t : Turn) : Bool := t.report.status.any (·.synced)

end Turn

namespace Run

/-- The number of failures recorded after the latest turn that recorded the resource as in sync. -/
def failuresSinceSync (h : List Turn) : Nat :=
  (h.takeWhile fun t => !t.recordsSync).countP fun t => t.failure?.isSome

/-- The latest failure recorded. -/
def lastFailure? (h : List Turn) : Option Failure := h.findSome? Turn.failure?

end Run

/-- The accounts of the turns `h` that a status keeps. -/
structure Accounts (h : List Turn) (s : Status) : Prop where
  failed : s.failed.toInt = min 2147483647 (Run.failuresSinceSync h)
  error_empty : s.error = "" ↔ s.failed = 0
  error : s.failed ≠ 0 → ∃ f, Run.lastFailure? h = some f ∧ s.error = f.cause.message
  synced : s.synced = true → s.failed = 0 ∧ s.error = ""
  cached : s.response = s.cache.response

theorem Turn.keeps_accounts {t : Turn} {h : List Turn} (hs : Accounts h t.before) :
    Accounts (t :: h) t.after := by
  cases t.recorded with
  | nothing status =>
    have hfailure : t.failure? = none := by simp [failure?, status]
    have hsync : t.recordsSync = false := by simp [recordsSync, status]
    have hafter : t.after = t.before := by simp [after, status]
    rw [hafter]
    have hcount : Run.failuresSinceSync (t :: h) = Run.failuresSinceSync h := by
      simp [Run.failuresSinceSync, hsync, hfailure]
    have hlast : Run.lastFailure? (t :: h) = Run.lastFailure? h := by
      simp [Run.lastFailure?, hfailure]
    exact ⟨by rw [hcount]; exact hs.failed, hs.error_empty, by rw [hlast]; exact hs.error, hs.synced,
      hs.cached⟩
  | failure cause result status =>
    rw [Status.record_failed] at status
    have hfailure : t.failure? = some ⟨cause, some t.call.action⟩ := by simp [failure?, status, result]
    have hsync : t.recordsSync = false := by simp [recordsSync, status]
    have hcount : Run.failuresSinceSync (t :: h) = Run.failuresSinceSync h + 1 := by
      simp [Run.failuresSinceSync, hsync, hfailure]
    have hlast : Run.lastFailure? (t :: h) = some ⟨cause, some t.call.action⟩ := by
      simp [Run.lastFailure?, hfailure]
    have hcounted := toInt_countFailure t.before.failed
    have hnonzero : countFailure t.before.failed ≠ 0 := by
      intro h0
      rw [h0, hs.failed] at hcounted
      have : (0 : Int32).toInt = 0 := rfl
      omega
    unfold after
    rw [status]
    refine ⟨?_, ?_, fun _ => ⟨_, hlast, rfl⟩, fun h => by simp at h, ?_⟩
    · show (countFailure t.before.failed).toInt = _
      rw [hcounted, hs.failed, hcount]
      omega
    · exact ⟨fun he => absurd he cause.message_ne_empty, fun h0 => absurd h0 hnonzero⟩
    · show t.response?.getD t.before.response =
        ((t.response?.map (Cache.mk t.time.text)).getD t.before.cache).response
      cases t.response? with
      | none => exact hs.cached
      | some response => rfl
  | completion request response synced x _ _ result status =>
    rw [Status.record_completed] at status
    have hfailure : t.failure? = none := by simp [failure?, status, result]
    have hsync : t.recordsSync = synced := by simp [recordsSync, status]
    unfold after
    rw [status]
    cases synced with
    | true =>
      have hcount : Run.failuresSinceSync (t :: h) = 0 := by simp [Run.failuresSinceSync, hsync]
      refine ⟨?_, by simp, by simp, by simp, rfl⟩
      rw [hcount]
      rfl
    | false =>
      have hcount : Run.failuresSinceSync (t :: h) = Run.failuresSinceSync h := by
        simp [Run.failuresSinceSync, hsync, hfailure]
      have hlast : Run.lastFailure? (t :: h) = Run.lastFailure? h := by
        simp [Run.lastFailure?, hfailure]
      exact ⟨by rw [hcount]; exact hs.failed, hs.error_empty, by rw [hlast]; exact hs.error,
        fun h => by simp at h, rfl⟩

/-- **The status after any run keeps the accounts of the run.** `failed` is the number of failures
recorded since the resource was last recorded as in sync, up to the greatest number there is; `error` is
the message of the latest failure, and empty when `failed` is zero; being in sync means that there is
neither; and the response is the one that is cached. -/
theorem Run.accounts (steps : List Run.Step) :
    Accounts (Run.turns {} steps) (Run.statusAfter {} steps) := by
  induction steps with
  | nil => exact ⟨rfl, ⟨fun _ => rfl, fun _ => rfl⟩, by simp [statusAfter], by simp [statusAfter], rfl⟩
  | cons x earlier ih => exact Turn.keeps_accounts (t := x.turn (statusAfter {} earlier)) ih

end HttpResource
