/-
# Runs of calls

A run is any number of calls in any order, each given the status that the one before it left: the new
one, or the old one where there was none. A run is listed from its latest call back, so that what came
before a call is the rest of the list.

Key definitions: `Run.Step`, `Run.statusAfter`, `Run.turns`.
-/
import HttpResource.Proofs.Turn

namespace HttpResource

namespace Run

/-- A call of a run: all that it meets but the status, which the run gives it. -/
structure Step where
  call : Call
  policy : RetryPolicy
  spec : Spec
  time : Timestamp
  world : World

/-- The turn of a step that is given a status. -/
def Step.turn (x : Step) (status : Status) : Turn :=
  { call := x.call, policy := x.policy, spec := x.spec, time := x.time, world := x.world
    before := status }

variable [Template.Engine] [Url.Reader]

/-- The status after a run. -/
def statusAfter (start : Status) : List Step → Status
  | [] => start
  | x :: earlier => (x.turn (statusAfter start earlier)).after

/-- The turns of a run. -/
def turns (start : Status) : List Step → List Turn
  | [] => []
  | x :: earlier => x.turn (statusAfter start earlier) :: turns start earlier

end Run

/-! ### What is kept of an outcome -/

namespace Status

theorem record_requestDetails (s : Status) (o : Outcome) (time : Timestamp) :
    (s.record o time).requestDetails = o.request.getD s.requestDetails := by
  rcases o with ⟨_ | _, _ | _, _ | _, _ | _⟩ <;> rfl

theorem record_response (s : Status) (o : Outcome) (time : Timestamp) :
    (s.record o time).response = o.response.getD s.response := by
  rcases o with ⟨_ | _, _ | _, _ | _, _ | _⟩ <;> rfl

theorem record_failed (s : Status) (request : Option RequestDetails) (response : Option Response)
    (message : String) (time : Timestamp) :
    s.record (.failed request response message) time =
      { response := response.getD s.response
        cache := (response.map (Cache.mk time.text)).getD s.cache
        failed := countFailure s.failed
        error := message
        synced := false
        requestDetails := request.getD s.requestDetails
        lastReconcileTime := some time.text } := by
  cases request <;> cases response <;> rfl

theorem record_completed (s : Status) (request : RequestDetails) (response : Response) (synced : Bool)
    (time : Timestamp) :
    s.record (.completed request response synced) time =
      { response
        cache := ⟨time.text, response⟩
        failed := if synced then 0 else s.failed
        error := if synced then "" else s.error
        synced
        requestDetails := request
        lastReconcileTime := some time.text } := by
  cases synced <;> rfl

end Status

/-- The count of failures stops at the greatest number that it can be. -/
theorem toInt_countFailure (n : Int32) : (countFailure n).toInt = min 2147483647 (n.toInt + 1) := by
  have hmax : Int32.maxValue.toInt = 2147483647 := rfl
  unfold countFailure
  by_cases h : n = Int32.maxValue
  · rw [if_pos h, h, hmax]
    rfl
  · rw [if_neg h, Int32.toInt_add]
    have hne : n.toInt ≠ 2147483647 := fun he => h (Int32.toInt_inj.mp (he.trans hmax.symm))
    have hlt := n.toInt_lt
    have hle := n.le_toInt
    have hone : (1 : Int32).toInt = 1 := rfl
    rw [hone, Int.bmod_eq_of_le (by omega) (by omega)]
    omega

end HttpResource
