import ProxmoxIaas.RateLimit.InMemory
import ProxmoxIaas.Foundation.Machine

/-!
# The Redis Limiter against the In-Memory One

The pipeline of `RedisRateLimiter.is_allowed` adds the reading of the clock to the sorted set
before the caller compares the count with the limit, so a rejected request is recorded like an
allowed one. Executed one at a time, the Redis limiter therefore rejects a call when any calls
of the key fill its window (`crowded`), and the in-memory limiter when allowed ones do. Between
workers the sorted set also loses requests: equal readings are one member, and a pipeline with
a later reading, or the expiry of the key, removes members that an earlier reading still counts.

## Main results

- `isAllowed_after_iff`: executed one at a time, the Redis limiter allows what is not crowded.
- `decisions_eq_iff`: when the two limiters agree on a whole sequence of calls.
- `Accounted`, `withinLimits_of_reachable`: the interleavings in which no window is exceeded.
- `redis_agrees_iff_and_withinLimits`: both.
-/

namespace ProxmoxIaas.RateLimit.RedisRateLimiter

/-- The same call of the in-memory limiter, which reads the clock at the same time. -/
def Call.inMemory (c : Call) : InMemoryRateLimiter.Call :=
  ⟨c.key, c.maxRequests, c.periodSeconds, c.currentTime, c.currentTime⟩

/-- `__init__`, on a server without keys. -/
def init : State := ⟨fun _ => .empty, InMemoryRateLimiter.init⟩

/-- One call that the server answers. -/
def call (failClosed : Bool) (s : State) (c : Call) : Answer × State :=
  isAllowed failClosed .up s c c.inMemory

/-- The state after a sequence of calls. -/
def after (failClosed : Bool) (s : State) (calls : List Call) : State :=
  calls.foldl (fun s c => (call failClosed s c).2) s

/-- The decisions on a sequence of calls. -/
def decisions (failClosed : Bool) (s : State) : List Call → List Bool
  | [] => []
  | c :: calls =>
    (call failClosed s c).1.isAllowed :: decisions failClosed (call failClosed s c).2 calls

/-- The decisions of the in-memory limiter on the same calls. -/
def inMemoryDecisions (calls : List Call) : List Bool :=
  (InMemoryRateLimiter.answers InMemoryRateLimiter.init (calls.map Call.inMemory)).map
    fun r => r.2.isAllowed

/-- Calls with strictly increasing times, executed one at a time, with one limit for each
key. -/
structure Sequential (calls : List Call) : Prop where
  increasing : calls.Pairwise fun c c' => c.currentTime < c'.currentTime
  atOnce : ∀ c ∈ calls, c.executed = c.currentTime
  uniform : InMemoryRateLimiter.Uniform (calls.map Call.inMemory)

/-- The times of the calls of a key. -/
def timesOf (key : String) (calls : List Call) : List ℚ :=
  (calls.filter fun c => c.key = key).map fun c => c.currentTime

/-- The times of the calls of the key in the window before a call. -/
def before (c : Call) (calls : List Call) : List ℚ :=
  SlidingWindow.recent (c.periodSeconds : ℚ) c.currentTime (timesOf c.key calls)

/-- Earlier calls of the key fill the window before the call, whatever was decided on them. -/
def crowded (earlier : List Call) (c : Call) : Bool := c.maxRequests ≤ (before c earlier).length

/-- The calls of a sequence that are not crowded, after others. -/
def uncrowdedAfter (seen : List Call) : List Call → List Call
  | [] => []
  | c :: calls => (if crowded seen c then [] else [c]) ++ uncrowdedAfter (seen ++ [c]) calls

/-- The calls of a sequence that are not crowded. -/
def uncrowded (calls : List Call) : List Call := uncrowdedAfter [] calls

/-- The window before a crowded call is full already with the calls that are not crowded
themselves. -/
def CrowdedByUncrowded (calls : List Call) : Prop :=
  ∀ earlier c, earlier ++ [c] <+: calls → crowded earlier c = true →
    c.maxRequests ≤ (before c (uncrowded earlier)).length

@[simp]
theorem timesOf_append (key : String) (calls calls' : List Call) :
    timesOf key (calls ++ calls') = timesOf key calls ++ timesOf key calls' := by
  simp [timesOf]

theorem mem_timesOf {key : String} {calls : List Call} {t : ℚ} (h : t ∈ timesOf key calls) :
    ∃ c ∈ calls, c.currentTime = t := by
  simp only [timesOf, List.mem_map, List.mem_filter] at h
  obtain ⟨c, ⟨hc, -⟩, rfl⟩ := h
  exact ⟨c, hc, rfl⟩

theorem uncrowdedAfter_append (seen calls : List Call) (c : Call) :
    uncrowdedAfter seen (calls ++ [c]) =
      uncrowdedAfter seen calls ++ if crowded (seen ++ calls) c then [] else [c] := by
  induction calls generalizing seen with
  | nil => simp [uncrowdedAfter]
  | cons c' calls ih => simp [uncrowdedAfter, ih]

theorem uncrowded_append (calls : List Call) (c : Call) :
    uncrowded (calls ++ [c]) = uncrowded calls ++ if crowded calls c then [] else [c] :=
  uncrowdedAfter_append [] calls c

theorem uncrowdedAfter_sublist (seen calls : List Call) :
    (uncrowdedAfter seen calls).Sublist calls := by
  induction calls generalizing seen with
  | nil => exact List.Sublist.refl _
  | cons c calls ih =>
    unfold uncrowdedAfter
    split
    case isTrue => exact (ih _).cons _
    case isFalse => exact (ih _).cons_cons _

theorem length_before_uncrowded_le (c : Call) (calls : List Call) :
    (before c (uncrowded calls)).length ≤ (before c calls).length := by
  have hsub : (timesOf c.key (uncrowded calls)).Sublist (timesOf c.key calls) :=
    ((uncrowdedAfter_sublist [] calls).filter _).map _
  exact (hsub.filter _).length_le

theorem crowdedByUncrowded_append (calls : List Call) (c : Call) :
    CrowdedByUncrowded (calls ++ [c]) ↔ CrowdedByUncrowded calls ∧
      (crowded calls c = true → c.maxRequests ≤ (before c (uncrowded calls)).length) := by
  constructor
  · intro h
    refine ⟨fun earlier c' hstart => h earlier c' (hstart.trans (List.prefix_append _ _)), ?_⟩
    exact h calls c (List.prefix_refl _)
  · rintro ⟨hbefore, hlast⟩ earlier c' hstart
    rcases List.prefix_concat_iff.mp hstart with heq | hstart
    · obtain ⟨rfl, hc⟩ := List.append_inj' heq rfl
      cases hc
      exact hlast
    · exact hbefore earlier c' hstart

/-! ### What the server holds -/

/-- The sorted set of a key, against the times of its calls so far: at a later time the server
finds the readings that are recent then. -/
def Holds (period : ℤ) (times : List ℚ) (z : SortedSet) : Prop :=
  ∀ now, (∀ t ∈ times, t ≤ now) → ∀ t,
    t ∈ ((z.live now).zremrangebyscore 0 (now - period)).members ↔
      t ∈ SlidingWindow.recent (period : ℚ) now times

theorem live_of_deadline {z : SortedSet} {now deadline : ℚ} (h : z.deadline = some deadline) :
    z.live now = if deadline < now then .empty else z := by
  simp [SortedSet.live, h]

/-- A pipeline adds its reading; neither its pruning nor the expiry of the key is seen later. -/
theorem Holds.pipeline {c : Call} {times : List ℚ} {z : SortedSet}
    (h : Holds c.periodSeconds times z) (hatOnce : c.executed = c.currentTime)
    (hperiod : 0 < c.periodSeconds) (htimes : ∀ t ∈ times, t ≤ c.currentTime)
    (hepoch : ∀ t ∈ times, 0 ≤ t) :
    Holds c.periodSeconds (times ++ [c.currentTime]) (pipeline z c).2 := by
  intro now hnow t
  have hcurrent : c.currentTime ≤ now := hnow _ (by simp)
  have hcut : c.currentTime - c.periodSeconds ≤ now - c.periodSeconds := by linarith
  have hdeadline : (RedisRateLimiter.pipeline z c).2.deadline =
      some (c.currentTime + c.periodSeconds) := by
    simp [RedisRateLimiter.pipeline, SortedSet.expire, not_le.mpr hperiod, hatOnce]
  have hmembers : ∀ t, t ∈ (RedisRateLimiter.pipeline z c).2.members ↔
      t = c.currentTime ∨ (t ∈ times ∧ c.currentTime - c.periodSeconds < t) := by
    intro t
    have hprune := h c.currentTime htimes t
    rw [SlidingWindow.mem_recent] at hprune
    simp only [RedisRateLimiter.pipeline, SortedSet.expire, not_le.mpr hperiod, if_false, hatOnce,
      SortedSet.zadd, Finset.mem_insert, hprune]
  have hnonneg : t ∈ times ++ [c.currentTime] → 0 ≤ t := by
    intro ht
    rcases List.mem_append.mp ht with ht | ht
    · exact hepoch t ht
    · rw [List.mem_singleton.mp ht]
      exact c.epoch
  rw [SlidingWindow.mem_recent, live_of_deadline hdeadline]
  split
  case isTrue hexpired =>
    -- the key has expired, and so has every reading in it
    constructor
    · intro ht
      simp [SortedSet.empty, SortedSet.zremrangebyscore] at ht
    · rintro ⟨ht, hrecent⟩
      have hle : t ≤ c.currentTime := by
        rcases List.mem_append.mp ht with ht | ht
        · exact htimes t ht
        · exact (List.mem_singleton.mp ht).le
      linarith
  case isFalse =>
    simp only [SortedSet.zremrangebyscore, Finset.mem_filter, hmembers]
    constructor
    · rintro ⟨hmem, hkept⟩
      have ht : t ∈ times ++ [c.currentTime] := by
        rcases hmem with rfl | ⟨ht, -⟩
        · simp
        · simp [ht]
      exact ⟨ht, not_le.mp fun hle => hkept ⟨hnonneg ht, hle⟩⟩
    · rintro ⟨ht, hrecent⟩
      refine ⟨?_, fun hold => absurd hold.2 (not_le.mpr hrecent)⟩
      rcases List.mem_append.mp ht with ht | ht
      · exact .inr ⟨ht, hcut.trans_lt hrecent⟩
      · exact .inl (List.mem_singleton.mp ht)

theorem windowKey_injective {key key' : String} (h : windowKey key = windowKey key') :
    key = key' := by
  have hdata := congrArg String.toList h
  exact String.toList_inj.mp (by simpa [windowKey, toString] using hdata)

theorem call_store_self (failClosed : Bool) (s : State) (c : Call) :
    (call failClosed s c).2.store (windowKey c.key) =
      (pipeline (s.store (windowKey c.key)) c).2 := by
  simp [call, isAllowed, execute]

theorem call_store_of_ne (failClosed : Bool) (s : State) (c : Call) {key : String}
    (h : c.key ≠ key) :
    (call failClosed s c).2.store (windowKey key) = s.store (windowKey key) := by
  have hne : windowKey key ≠ windowKey c.key := fun heq => h (windowKey_injective heq).symm
  simp [call, isAllowed, execute, hne]

theorem answer_isAllowed_iff (c : Call) (currentCount : ℕ) (z : SortedSet) :
    (answer c currentCount z).isAllowed = true ↔ (currentCount : ℤ) < c.maxRequests := by
  unfold answer
  by_cases hfull : (currentCount : ℤ) ≥ c.maxRequests
  · rw [if_pos hfull]
    cases z.oldest <;> simp [Answer.isAllowed, hfull]
  · rw [if_neg hfull]
    simpa [Answer.isAllowed] using hfull

theorem call_isAllowed_iff (failClosed : Bool) (s : State) (c : Call) :
    (call failClosed s c).1.isAllowed = true ↔
      ((pipeline (s.store (windowKey c.key)) c).1 : ℤ) < c.maxRequests :=
  answer_isAllowed_iff c _ _

theorem after_append (failClosed : Bool) (s : State) (calls calls' : List Call) :
    after failClosed s (calls ++ calls') = after failClosed (after failClosed s calls) calls' :=
  List.foldl_append ..

theorem decisions_append (failClosed : Bool) (s : State) (calls : List Call) (c : Call) :
    decisions failClosed s (calls ++ [c]) = decisions failClosed s calls ++
      [(call failClosed (after failClosed s calls) c).1.isAllowed] := by
  induction calls generalizing s with
  | nil => rfl
  | cons c' calls ih => simp [decisions, after, ih]

theorem inMemoryDecisions_append (calls : List Call) (c : Call) :
    inMemoryDecisions (calls ++ [c]) = inMemoryDecisions calls ++
      [(InMemoryRateLimiter.isAllowed (InMemoryRateLimiter.after InMemoryRateLimiter.init
        (calls.map Call.inMemory)) c.inMemory).1.isAllowed] := by
  simp [inMemoryDecisions, InMemoryRateLimiter.answers_append, InMemoryRateLimiter.answers]

theorem Sequential.left {calls calls' : List Call} (h : Sequential (calls ++ calls')) :
    Sequential calls where
  increasing := (List.pairwise_append.mp h.increasing).1
  atOnce c hc := h.atOnce c (List.mem_append_left _ hc)
  uniform :=
    { positive := fun c hc => h.uniform.positive c (by
        rw [List.map_append]
        exact List.mem_append_left _ hc)
      same := fun c hc c' hc' => h.uniform.same c (by
        rw [List.map_append]
        exact List.mem_append_left _ hc) c' (by
        rw [List.map_append]
        exact List.mem_append_left _ hc') }

theorem Sequential.lt_last {calls : List Call} {c : Call} (h : Sequential (calls ++ [c])) :
    ∀ c' ∈ calls, c'.currentTime < c.currentTime := fun c' hc' =>
  (List.pairwise_append.mp h.increasing).2.2 c' hc' c List.mem_cons_self

/-- After a sequence of calls, the server holds the recent readings of each key. -/
theorem holds_after (failClosed : Bool) {key : String} {period : ℤ} {calls : List Call}
    (h : Sequential calls) (hperiod : ∀ c ∈ calls, c.key = key → c.periodSeconds = period) :
    Holds period (timesOf key calls) ((after failClosed init calls).store (windowKey key)) := by
  induction calls using List.reverseRecOn with
  | nil =>
    intro now _ t
    simp [after, init, timesOf, SortedSet.live, SortedSet.empty, SortedSet.zremrangebyscore]
  | append_singleton calls c ih =>
    have hbefore := ih h.left fun c' hc' => hperiod c' (List.mem_append_left _ hc')
    rw [after_append, timesOf_append]
    show Holds period (timesOf key calls ++ timesOf key [c])
      ((call failClosed (after failClosed init calls) c).2.store (windowKey key))
    by_cases hkey : c.key = key
    · have hlast := hperiod c (by simp) hkey
      subst hkey hlast
      have htimes : timesOf c.key [c] = [c.currentTime] := by simp [timesOf]
      rw [call_store_self, htimes]
      have hpositive : 0 < c.periodSeconds := (h.uniform.positive c.inMemory (by simp)).2
      refine hbefore.pipeline (h.atOnce c (by simp)) hpositive (fun t ht => ?_) (fun t ht => ?_)
      · obtain ⟨c', hc', rfl⟩ := mem_timesOf ht
        exact (h.lt_last c' hc').le
      · obtain ⟨c', -, rfl⟩ := mem_timesOf ht
        exact c'.epoch
    · have htimes : timesOf key [c] = [] := by simp [timesOf, hkey]
      rw [call_store_of_ne _ _ _ hkey, htimes, List.append_nil]
      exact hbefore

theorem nodup_timesOf {calls : List Call} (h : Sequential calls) (key : String) :
    (timesOf key calls).Nodup := by
  refine List.Pairwise.map (S := (· ≠ ·)) _ (fun c c' hlt => ?_) (h.increasing.filter _)
  exact (show c.currentTime < c'.currentTime from hlt).ne

section Sequence

variable {calls : List Call} {c : Call} (h : Sequential (calls ++ [c]))

include h

theorem Sequential.limit_last :
    ∀ c' ∈ calls, c'.key = c.key →
      c'.maxRequests = c.maxRequests ∧ c'.periodSeconds = c.periodSeconds := by
  intro c' hc' hkey
  have hmem : c'.inMemory ∈ (calls ++ [c]).map Call.inMemory :=
    List.mem_map_of_mem (List.mem_append_left _ hc')
  exact h.uniform.same c.inMemory (by simp) c'.inMemory hmem hkey

/-- Executed one at a time, the Redis limiter allows a call exactly when it is not crowded. -/
theorem isAllowed_after_iff (failClosed : Bool) :
    (call failClosed (after failClosed init calls) c).1.isAllowed = true ↔
      crowded calls c = false := by
  have hholds := holds_after failClosed h.left fun c' hc' hkey => (h.limit_last c' hc' hkey).2
  have htimes : ∀ t ∈ timesOf c.key calls, t ≤ c.currentTime := fun t ht => by
    obtain ⟨c', hc', rfl⟩ := mem_timesOf ht
    exact (h.lt_last c' hc').le
  have hset : ((((after failClosed init calls).store (windowKey c.key)).live
      c.currentTime).zremrangebyscore 0 (c.currentTime - c.periodSeconds)).members =
      (before c calls).toFinset := by
    ext t
    rw [hholds c.currentTime htimes t, List.mem_toFinset]
    rfl
  have hnodup : (before c calls).Nodup := (nodup_timesOf h.left c.key).filter _
  rw [call_isAllowed_iff, pipeline, h.atOnce c (by simp), hset, List.toFinset_card_of_nodup hnodup,
    crowded]
  simp

/-- The in-memory limiter allows a call exactly when allowed calls do not fill its window; here
the allowed calls so far are those that are not crowded. -/
theorem inMemory_isAllowed_iff
    (hlog : InMemoryRateLimiter.allowedTimes c.key (InMemoryRateLimiter.answers
      InMemoryRateLimiter.init (calls.map Call.inMemory)) = timesOf c.key (uncrowded calls)) :
    (InMemoryRateLimiter.isAllowed (InMemoryRateLimiter.after InMemoryRateLimiter.init
      (calls.map Call.inMemory)) c.inMemory).1.isAllowed = true ↔
      ((before c (uncrowded calls)).length : ℤ) < c.maxRequests := by
  have hreadings : ∀ calls : List Call, InMemoryRateLimiter.readings (calls.map Call.inMemory) =
      calls.flatMap fun c => [c.currentTime, c.currentTime] := fun calls => List.flatMap_map ..
  have hseen : ∀ t ∈ InMemoryRateLimiter.readings (calls.map Call.inMemory),
      t ≤ c.currentTime := by
    intro t ht
    rw [hreadings, List.mem_flatMap] at ht
    obtain ⟨c', hc', ht⟩ := ht
    have heq : t = c'.currentTime := by simpa using ht
    exact heq ▸ (h.lt_last c' hc').le
  have htime : InMemoryRateLimiter.Chronological (calls.map Call.inMemory) := by
    rw [InMemoryRateLimiter.Chronological, hreadings, List.pairwise_flatMap]
    refine ⟨fun c' _ => by simp, h.left.increasing.imp fun hlt => ?_⟩
    simpa using hlt.le
  have hlimit : ∀ c' ∈ calls.map Call.inMemory, c'.key = c.key →
      c'.maxRequests = c.maxRequests ∧ c'.periodSeconds = c.periodSeconds := fun c' hc' hkey => by
    obtain ⟨c'', hc'', rfl⟩ := List.mem_map.mp hc'
    exact h.limit_last c'' hc'' hkey
  have htracks := InMemoryRateLimiter.tracks_after
    (h.uniform.positive c.inMemory (by simp)).1 htime hlimit
  have hrecent := htracks.recent_eq c.currentTime hseen
  rw [hlog] at hrecent
  have hkept : InMemoryRateLimiter.kept (InMemoryRateLimiter.after InMemoryRateLimiter.init
      (calls.map Call.inMemory)) c.inMemory = before c (uncrowded calls) := hrecent
  rw [InMemoryRateLimiter.isAllowed_iff, hkept]
  rfl

end Sequence

/-- While the limiters agree, the requests that the in-memory limiter allows are the ones that
are not crowded. -/
theorem allowedTimes_of_agree {failClosed : Bool} {calls : List Call} (h : Sequential calls)
    (hagree : decisions failClosed init calls = inMemoryDecisions calls) (key : String) :
    InMemoryRateLimiter.allowedTimes key (InMemoryRateLimiter.answers InMemoryRateLimiter.init
      (calls.map Call.inMemory)) = timesOf key (uncrowded calls) := by
  induction calls using List.reverseRecOn with
  | nil => rfl
  | append_singleton calls c ih =>
    rw [decisions_append, inMemoryDecisions_append] at hagree
    obtain ⟨hbefore, hlast⟩ := List.append_inj' hagree rfl
    have hcrowded := isAllowed_after_iff h failClosed
    rw [List.cons_eq_cons.mp hlast |>.1] at hcrowded
    rw [List.map_append, InMemoryRateLimiter.answers_append,
      InMemoryRateLimiter.allowedTimes_append, ih h.left hbefore, uncrowded_append, timesOf_append]
    congr 1
    by_cases hallowed : crowded calls c
    · have hrejected : (InMemoryRateLimiter.isAllowed (InMemoryRateLimiter.after
          InMemoryRateLimiter.init (calls.map Call.inMemory)) c.inMemory).1.isAllowed = false := by
        simpa [hallowed] using hcrowded
      simp [InMemoryRateLimiter.answers, InMemoryRateLimiter.allowedTimes, timesOf, hallowed,
        hrejected]
    · have hpassed := hcrowded.mpr (by simpa using hallowed)
      by_cases hkey : c.key = key
      · have hinMemory : c.inMemory.key = key := hkey
        simp [InMemoryRateLimiter.answers, InMemoryRateLimiter.allowedTimes, timesOf, hallowed,
          hpassed, hinMemory, hkey]
        rfl
      · simp [InMemoryRateLimiter.answers, InMemoryRateLimiter.allowedTimes, timesOf, hallowed,
          Call.inMemory, hkey]

/-- The two limiters agree on a sequence of calls exactly when crowded calls are crowded by calls
that are not. -/
theorem decisions_eq_iff (failClosed : Bool) {calls : List Call} (h : Sequential calls) :
    decisions failClosed init calls = inMemoryDecisions calls ↔ CrowdedByUncrowded calls := by
  induction calls using List.reverseRecOn with
  | nil =>
    refine ⟨fun _ earlier c hstart => ?_, fun _ => rfl⟩
    simp at hstart
  | append_singleton calls c ih =>
    rw [crowdedByUncrowded_append, decisions_append, inMemoryDecisions_append, ← ih h.left]
    constructor
    · intro hagree
      obtain ⟨hbefore, hlast⟩ := List.append_inj' hagree rfl
      refine ⟨hbefore, fun hcrowded => ?_⟩
      have hredis := isAllowed_after_iff h failClosed
      rw [List.cons_eq_cons.mp hlast |>.1,
        inMemory_isAllowed_iff h (allowedTimes_of_agree h.left hbefore c.key), hcrowded] at hredis
      simpa using hredis
    · rintro ⟨hbefore, hlast⟩
      have hredis := isAllowed_after_iff h failClosed
      have hmemory := inMemory_isAllowed_iff h (allowedTimes_of_agree h.left hbefore c.key)
      rw [hbefore]
      congr 2
      rw [Bool.eq_iff_iff, hredis, hmemory]
      -- fewer calls are uncrowded than there are calls
      have hle := length_before_uncrowded_le c calls
      by_cases hcrowded : crowded calls c
      · have hfull := hlast hcrowded
        simp only [hcrowded, Bool.true_eq_false, false_iff, not_lt]
        exact hfull
      · have hroom : ((before c calls).length : ℤ) < c.maxRequests := by
          simpa [crowded] using hcrowded
        simp only [hcrowded, true_iff]
        omega

/-! ### Concurrent workers -/

/-- The limit of a key. -/
structure Limit where
  maxRequests : ℤ
  periodSeconds : ℤ
  one_le : 1 ≤ maxRequests
  pos : 0 < periodSeconds

/-- A pipeline that reaches the server: its key, the reading that its worker made, and the
server's clock. -/
structure Arrival where
  key : String
  currentTime : ℚ
  epoch : 0 ≤ currentTime
  executed : ℚ

/-- The call that sent a pipeline. -/
def Arrival.call (limits : String → Limit) (a : Arrival) : Call :=
  ⟨a.key, (limits a.key).maxRequests, (limits a.key).periodSeconds, a.currentTime, a.epoch,
    a.executed⟩

/-- The server, and the readings of the requests that were allowed, with their keys. -/
structure Server where
  store : Store
  clock : ℚ
  allowed : List (String × ℚ)

/-- The server runs the pipelines of all workers one after the other. A pipeline with an
earlier clock of the server than the last one does not arrive. -/
def serve (limits : String → Limit) (s : Server) (a : Arrival) : Server :=
  if a.executed < s.clock then s
  else
    let ran := execute s.store (a.call limits)
    -- `zrange` runs later and finds the wait only; the decision is the count's
    let decision := answer (a.call limits) ran.1 (ran.2 (windowKey a.key))
    { store := ran.2
      clock := a.executed
      allowed := s.allowed ++ if decision.isAllowed then [(a.key, a.currentTime)] else [] }

/-- The workers' pipelines in any order. -/
def workers (limits : String → Limit) : Machine Server Arrival where
  init s := s.store = (fun _ => .empty) ∧ s.allowed = []
  step := serve limits

/-- The readings of the allowed requests of a key. -/
def Server.timesAllowed (s : Server) (key : String) : List ℚ :=
  (s.allowed.filter fun r => r.1 = key).map fun r => r.2

/-- No window of a key has more allowed requests than its limit. -/
def WithinLimits (limits : String → Limit) (s : Server) : Prop :=
  ∀ key, SlidingWindow.Bounded ((limits key).periodSeconds : ℚ) (limits key).maxRequests.toNat
    (s.timesAllowed key)

/-- The allowed requests of the key less than a period away from a pipeline's reading. -/
def nearby (limits : String → Limit) (s : Server) (a : Arrival) : List ℚ :=
  (s.timesAllowed a.key).filter fun t => |t - a.currentTime| < (limits a.key).periodSeconds

/-- Fewer allowed requests than the limit are near the reading, or the sorted set still has them
all: no two of them have the same reading, and neither a later pipeline nor the expiry of the
key has removed one. -/
def Accounted (limits : String → Limit) (s : Server) (a : Arrival) : Prop :=
  (nearby limits s a).length < (limits a.key).maxRequests ∨
    ((nearby limits s a).Nodup ∧
      ∀ t ∈ nearby limits s a, t ∈ ((s.store (windowKey a.key)).live a.executed).members)

instance (limits : String → Limit) (s : Server) (a : Arrival) :
    Decidable (Accounted limits s a) :=
  inferInstanceAs (Decidable (_ ∨ _))

/-- An accounted pipeline counts the allowed requests near its reading, if they reach the
limit. -/
theorem length_nearby_lt {limits : String → Limit} {s : Server} {a : Arrival}
    (h : Accounted limits s a)
    (hroom : ((pipeline (s.store (windowKey a.key)) (a.call limits)).1 : ℤ) <
      (limits a.key).maxRequests) :
    (nearby limits s a).length < (limits a.key).maxRequests := by
  rcases h with h | ⟨hnodup, hstored⟩
  · exact h
  · refine lt_of_le_of_lt ?_ hroom
    rw [← List.toFinset_card_of_nodup hnodup]
    refine Int.ofNat_le.mpr (Finset.card_le_card fun t ht => ?_)
    have hnear := List.mem_toFinset.mp ht
    refine Finset.mem_filter.mpr ⟨hstored t hnear, fun hold => ?_⟩
    -- what the pipeline prunes is a period away
    have hdistance : |t - a.currentTime| < (limits a.key).periodSeconds := by
      simpa using (List.mem_filter.mp hnear).2
    have hpruned : t ≤ a.currentTime - (limits a.key).periodSeconds := hold.2
    have hlow := (abs_lt.mp hdistance).1
    linarith

/-- A pipeline adds its own reading to those of its key, if it is allowed. -/
theorem timesAllowed_serve (limits : String → Limit) (s : Server) (a : Arrival) (key : String) :
    (serve limits s a).timesAllowed key = s.timesAllowed key ∨
      (a.key = key ∧ (serve limits s a).timesAllowed key = s.timesAllowed key ++ [a.currentTime] ∧
        ((pipeline (s.store (windowKey a.key)) (a.call limits)).1 : ℤ) <
          (limits a.key).maxRequests) := by
  have hcount := answer_isAllowed_iff (a.call limits) (execute s.store (a.call limits)).1
    ((execute s.store (a.call limits)).2 (windowKey a.key))
  by_cases hlate : a.executed < s.clock
  · left
    simp [serve, hlate]
  · by_cases hkey : a.key = key
    · by_cases hroom : ((pipeline (s.store (windowKey a.key)) (a.call limits)).1 : ℤ) <
          (limits a.key).maxRequests
      · right
        subst hkey
        refine ⟨rfl, ?_, hroom⟩
        simp [serve, hlate, Server.timesAllowed, hcount.mpr hroom]
      · left
        have hrejected := mt hcount.mp hroom
        simp [serve, hlate, Server.timesAllowed, hrejected]
    · left
      simp only [serve, hlate, if_false, Server.timesAllowed]
      split <;> simp [hkey]

/-- An accounted pipeline keeps the windows of all keys within their limits. -/
theorem withinLimits_serve {limits : String → Limit} {s : Server} {a : Arrival}
    (h : WithinLimits limits s) (hok : Accounted limits s a) :
    WithinLimits limits (serve limits s a) := by
  intro key
  rcases timesAllowed_serve limits s a key with hsame | ⟨rfl, htimes, hroom⟩
  · rw [hsame]
    exact h key
  · have hnear := length_nearby_lt hok hroom
    rw [htimes]
    refine (h a.key).of_recent (nearby limits s a) (fun W hW ht => ?_) (by omega)
    rw [nearby, ← List.countP_eq_length_filter]
    refine List.countP_mono_left fun t _ hmem => ?_
    -- a window around the reading is narrow in both directions
    have hlow := hW t a.currentTime hmem ht
    have hhigh := hW a.currentTime t ht hmem
    rw [decide_eq_true_eq, abs_lt]
    constructor <;> linarith

theorem withinLimits_of_reachable {limits : String → Limit} {s : Server}
    (h : (workers limits).Reachable (Accounted limits) s) : WithinLimits limits s := by
  refine h.invariant (WithinLimits limits) (fun s hinit key => ?_) fun s a hs hok =>
    withinLimits_serve hs hok
  rw [Server.timesAllowed, hinit.2]
  exact SlidingWindow.bounded_nil _ _

/-- When the Redis limiter decides as the in-memory one, and when the workers stay within the
limits. -/
theorem redis_agrees_iff_and_withinLimits (failClosed : Bool) (limits : String → Limit) :
    (∀ calls, Sequential calls →
      (decisions failClosed init calls = inMemoryDecisions calls ↔ CrowdedByUncrowded calls)) ∧
    ∀ s, (workers limits).Reachable (Accounted limits) s → WithinLimits limits s :=
  ⟨fun _ h => decisions_eq_iff failClosed h, fun _ h => withinLimits_of_reachable h⟩

/-- A call of one key with the limit of one request in 60 seconds. -/
def smallCall (currentTime : ℚ) (epoch : 0 ≤ currentTime) : Call :=
  ⟨"login:a", 1, 60, currentTime, epoch, currentTime⟩

/-- A limit of two requests in 60 seconds. -/
def smallLimit : String → Limit := fun _ => ⟨2, 60, by decide, by decide⟩

/-- A pipeline that reaches the server at once. -/
def smallArrival (currentTime : ℚ) (epoch : 0 ≤ currentTime) : Arrival :=
  ⟨"login:a", currentTime, epoch, currentTime⟩

/-- A server without keys. -/
def smallServer : Server := ⟨fun _ => .empty, 0, []⟩

/-- Two requests a minute apart, and the pipelines of three requests of which the last is
rejected. -/
theorem redis_agrees_and_withinLimits_small :
    CrowdedByUncrowded [smallCall 0 (by decide), smallCall 61 (by decide)] ∧
    WithinLimits smallLimit ((workers smallLimit).run smallServer
      [smallArrival 0 (by decide), smallArrival 1 (by decide), smallArrival 2 (by decide)]) := by
  have hinit : (workers smallLimit).init smallServer := ⟨rfl, rfl⟩
  have hsequential : Sequential [smallCall 0 (by decide), smallCall 61 (by decide)] :=
    ⟨by decide +kernel, by decide +kernel, ⟨by decide +kernel, by decide +kernel⟩⟩
  exact ⟨((redis_agrees_iff_and_withinLimits true smallLimit).1 _ hsequential).mp
      (by decide +kernel),
    (redis_agrees_iff_and_withinLimits true smallLimit).2 _
      ((Machine.Reachable.start hinit).run (by decide +kernel))⟩

/-- The second request is rejected, and 61 seconds after the first the Redis limiter still counts
it; and three requests with one reading are one member of the sorted set. -/
theorem redis_disagrees_and_exceeds :
    (¬ ∀ failClosed calls, Sequential calls →
      decisions failClosed init calls = inMemoryDecisions calls) ∧
    ¬ ∀ limits s, (workers limits).Reachable Machine.anyStep s → WithinLimits limits s := by
  constructor
  · intro h
    have hsequential : Sequential
        [smallCall 0 (by decide), smallCall 2 (by decide), smallCall 61 (by decide)] :=
      ⟨by decide +kernel, by decide +kernel, ⟨by decide +kernel, by decide +kernel⟩⟩
    have hdiffer : decisions true init
        [smallCall 0 (by decide), smallCall 2 (by decide), smallCall 61 (by decide)] ≠
        inMemoryDecisions
          [smallCall 0 (by decide), smallCall 2 (by decide), smallCall 61 (by decide)] := by
      decide +kernel
    exact hdiffer (h true _ hsequential)
  · intro h
    have hinit : (workers smallLimit).init smallServer := ⟨rfl, rfl⟩
    have hreachable := Machine.reachable_run hinit
      [smallArrival 0 (by decide), smallArrival 0 (by decide), smallArrival 0 (by decide)]
    have hbound := h smallLimit _ hreachable "login:a" _ (SlidingWindow.narrow_ico _ 0)
    have hcount : ¬ (((workers smallLimit).run smallServer
        [smallArrival 0 (by decide), smallArrival 0 (by decide),
          smallArrival 0 (by decide)]).timesAllowed "login:a").countP
        (fun t => 0 ≤ t ∧ t < 0 + ((smallLimit "login:a").periodSeconds : ℚ)) ≤
        (smallLimit "login:a").maxRequests.toNat := by
      decide +kernel
    exact hcount hbound

end ProxmoxIaas.RateLimit.RedisRateLimiter
