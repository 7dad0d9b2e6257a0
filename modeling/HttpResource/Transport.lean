/-
# Transport

A request gets a response, fails on its way, or gets nothing before its deadline.

* `Reply`: how the external system behaves when a request reaches it.
* `Reply.within`: what is seen of that by someone who waits until a deadline.
-/
import HttpResource.Duration
import HttpResource.Exchange

namespace HttpResource

/-- Why there is no response. -/
inductive TransportError
  | invalidRequest (reason : String)
  | failed (reason : String)
  | timedOut (deadline : Duration)
deriving DecidableEq, Repr

def TransportError.message : TransportError → String
  | invalidRequest reason => s!"invalid request: {reason}"
  | failed reason => s!"request failed: {reason}"
  | timedOut deadline => s!"request timed out after {deadline.describe}"

/-- The behaviour of the external system towards one request. -/
inductive Reply
  | answers (response : Response) (delay : Duration)
  | fails (e : TransportError)
  | hangs
deriving DecidableEq, Repr

/-- What comes of a request before a deadline. A response at the deadline itself is in time. -/
def Reply.within (deadline : Duration) : Reply → Except TransportError Response
  | answers response delay =>
    if deadline.toNanos < delay.toNanos then .error (.timedOut deadline) else .ok response
  | fails e => .error e
  | hangs => .error (.timedOut deadline)

end HttpResource
