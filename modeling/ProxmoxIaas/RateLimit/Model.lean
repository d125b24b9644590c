import ProxmoxIaas.Foundation.SlidingWindow
import ProxmoxIaas.Foundation.Truncation
import Mathlib.Data.Finset.Max
import Mathlib.Logic.Function.Basic

/-!
# The Rate Limiters

`InMemoryRateLimiter` keeps for each key the list of the times at which it allowed a request.
`RedisRateLimiter` keeps a sorted set for each key on the Redis server: a member is the text of
a clock reading and its score is the reading itself, so that a sorted set is a set of times.
Times are seconds since the epoch; a call carries the clock readings it makes, and the
states hold no clock.
-/

namespace ProxmoxIaas.RateLimit

/-- `max(1, int(period_seconds - elapsed) + 1)`. -/
def retryAfter (periodSeconds : ℤ) (elapsed : ℚ) : ℤ :=
  max 1 (truncate (periodSeconds - elapsed) + 1)

/-- After the seconds to wait, the period has passed. -/
theorem lt_retryAfter (periodSeconds : ℤ) (elapsed : ℚ) :
    (periodSeconds : ℚ) - elapsed < retryAfter periodSeconds elapsed := by
  have hint : (periodSeconds : ℚ) - elapsed < (truncate (periodSeconds - elapsed) + 1 : ℤ) := by
    push_cast
    exact lt_truncate_add_one _
  refine hint.trans_le ?_
  exact_mod_cast le_max_right _ _

/-- What a call of `is_allowed` raises. -/
inductive Error
  /-- `IndexError`: the oldest request of an empty list. -/
  | indexError
  /-- `HTTPException` with status 503. -/
  | serviceUnavailable (detail : String)
  deriving DecidableEq

/-- What a call of `is_allowed` answers: `(True, remaining)`, `(False, retry_after)`, or an
exception. -/
inductive Answer
  | allowed (remaining : ℤ)
  | rejected (retryAfter : ℤ)
  | raised (error : Error)
  deriving DecidableEq

/-- The request may go on. -/
def Answer.isAllowed : Answer → Bool
  | .allowed _ => true
  | .rejected _ => false
  | .raised _ => false

/-- The request is turned away. -/
def Answer.isRejected : Answer → Bool
  | .allowed _ => false
  | .rejected _ => true
  | .raised _ => false

namespace InMemoryRateLimiter

/-- The arguments of `is_allowed`, and its two readings of the clock. -/
structure Call where
  key : String
  maxRequests : ℤ
  periodSeconds : ℤ
  /-- The reading of `_cleanup_old_requests`. -/
  started : ℚ
  /-- The reading with which the request is recorded, or its wait computed. -/
  decided : ℚ

/-- `self._requests`: a `defaultdict(list)`. -/
abbrev Requests := String → List ℚ

/-- `_cleanup_old_requests`. -/
def cleanupOldRequests (requests : Requests) (key : String) (periodSeconds : ℤ)
    (currentTime : ℚ) : Requests :=
  Function.update requests key (SlidingWindow.recent (periodSeconds : ℚ) currentTime (requests key))

/-- `InMemoryRateLimiter.is_allowed`; the lock makes it one step. -/
def isAllowed (requests : Requests) (call : Call) : Answer × Requests :=
  let requests := cleanupOldRequests requests call.key call.periodSeconds call.started
  let currentCount : ℤ := (requests call.key).length
  if currentCount ≥ call.maxRequests then
    match requests call.key with
    | [] => (.raised .indexError, requests)
    | first :: _ => (.rejected (retryAfter call.periodSeconds (call.decided - first)), requests)
  else
    (.allowed (call.maxRequests - currentCount - 1),
      Function.update requests call.key (requests call.key ++ [call.decided]))

end InMemoryRateLimiter

/-- The value of a Redis key that holds a sorted set of clock readings, and the time at which
the key expires. -/
structure SortedSet where
  members : Finset ℚ
  deadline : Option ℚ
  deriving DecidableEq

namespace SortedSet

/-- The value of a key that does not exist. -/
def empty : SortedSet := ⟨∅, none⟩

/-- What the server finds under the key at `now`: nothing, once the deadline has passed. -/
def live (z : SortedSet) (now : ℚ) : SortedSet :=
  if z.deadline.any (· < now) then empty else z

/-- `ZREMRANGEBYSCORE key low high`; both bounds are inclusive. -/
def zremrangebyscore (z : SortedSet) (low high : ℚ) : SortedSet :=
  { z with members := z.members.filter fun t => ¬ (low ≤ t ∧ t ≤ high) }

/-- `ZADD key score str(score)`: a reading that is a member already is not added again. -/
def zadd (z : SortedSet) (score : ℚ) : SortedSet := { z with members := insert score z.members }

/-- `EXPIRE key seconds`: the key is deleted at once if the seconds are not positive. -/
def expire (z : SortedSet) (now : ℚ) (seconds : ℤ) : SortedSet :=
  if seconds ≤ 0 then empty else { z with deadline := some (now + seconds) }

/-- `ZRANGE key 0 0 WITHSCORES`. -/
def oldest (z : SortedSet) : Option ℚ := z.members.min

end SortedSet

namespace RedisRateLimiter

/-- The arguments of `is_allowed`, its reading of the clock, and the time at which the server
runs its pipeline. -/
structure Call where
  key : String
  maxRequests : ℤ
  periodSeconds : ℤ
  /-- The reading of the clock. -/
  currentTime : ℚ
  /-- Readings count from the epoch. -/
  epoch : 0 ≤ currentTime
  /-- The server's clock when the pipeline runs. -/
  executed : ℚ

/-- The sorted sets on the server, for each `window_key`. -/
abbrev Store := String → SortedSet

/-- `window_key`. -/
def windowKey (key : String) : String := s!"ratelimit:{key}"

/-- The four commands of the pipeline, which the server runs as one transaction: what it leaves
under the key, and `results[1]`. -/
def pipeline (z : SortedSet) (call : Call) : ℕ × SortedSet :=
  let z := (z.live call.executed).zremrangebyscore 0 (call.currentTime - call.periodSeconds)
  (z.members.card, (z.zadd call.currentTime).expire call.executed call.periodSeconds)

/-- `pipe.execute()`. -/
def execute (store : Store) (call : Call) : ℕ × Store :=
  let ran := pipeline (store (windowKey call.key)) call
  (ran.1, Function.update store (windowKey call.key) ran.2)

/-- The answer from the count of the pipeline and from what `zrange` finds after it. -/
def answer (call : Call) (currentCount : ℕ) (z : SortedSet) : Answer :=
  if (currentCount : ℤ) ≥ call.maxRequests then
    match z.oldest with
    | some oldest => .rejected (retryAfter call.periodSeconds (call.currentTime - oldest))
    | none => .rejected call.periodSeconds
  else .allowed (call.maxRequests - currentCount - 1)

/-- How a call finds the server. -/
inductive Link
  /-- `_get_redis` has no client. -/
  | noClient
  /-- A command raises `RedisError`, after the server has run the pipeline or before. -/
  | error (ran : Bool)
  /-- Every command is answered. -/
  | up
  deriving DecidableEq

/-- The server's keys, and the limiter that takes over when the server is away. -/
structure State where
  store : Store
  fallback : InMemoryRateLimiter.Requests

/-- `RedisRateLimiter.is_allowed`, when no other pipeline runs between its commands.
`failClosed` is `self._fail_closed and not TESTING`, and `fallbackCall` the call that the
fallback limiter gets. -/
def isAllowed (failClosed : Bool) (link : Link) (s : State) (call : Call)
    (fallbackCall : InMemoryRateLimiter.Call) : Answer × State :=
  match link with
  | .noClient =>
    if failClosed then
      (.raised (.serviceUnavailable
        "Rate limiting service unavailable. Please try again later."), s)
    else
      let ran := InMemoryRateLimiter.isAllowed s.fallback fallbackCall
      (ran.1, { s with fallback := ran.2 })
  | .error ran =>
    let s := if ran then { s with store := (execute s.store call).2 } else s
    if failClosed then
      (.raised (.serviceUnavailable "Rate limiting service error. Please try again later."), s)
    else
      let ran := InMemoryRateLimiter.isAllowed s.fallback fallbackCall
      (ran.1, { s with fallback := ran.2 })
  | .up =>
    let ran := execute s.store call
    (answer call ran.1 (ran.2 (windowKey call.key)), { s with store := ran.2 })

end RedisRateLimiter

end ProxmoxIaas.RateLimit
