import ProxmoxIaas.Foundation.KeyedWindows
import ProxmoxIaas.Foundation.Text
import ProxmoxIaas.RateLimit.Redis

/-!
# The Client of a Request

`check_rate_limit` counts requests by endpoint and by the address that `get_client_ip` finds in
the headers: the first entry of `X-Forwarded-For`. The proxy in front of the application appends
the address of its peer to that header, so the first entry is the peer's to choose.

## Main results

- `getClientIp_forward`: the address comes from the start of the header that the peer sent.
- `windowed_inMemory`, `windowed_redis`: both limiters bound each key.
- `bindsPeer_iff`: when they bound a peer.
-/

namespace ProxmoxIaas.RateLimit.ClientKey

open RedisRateLimiter (Limit)

/-! ### Requests and their keys -/

/-- The headers of a request that are looked at. -/
structure Headers where
  /-- `X-Forwarded-For`. -/
  xForwardedFor : Option String
  /-- `X-Real-IP`. -/
  xRealIp : Option String
  deriving DecidableEq, Repr

/-- A request as it reaches the application. -/
structure Received extends Headers where
  /-- `request.client.host`. -/
  client : Option String
  deriving DecidableEq, Repr

/-- The address of a TCP peer. -/
structure Peer where
  /-- The address as a text. -/
  host : String
  /-- It is not empty. -/
  nonempty : host ≠ ""

/-- The proxy appends the address of its peer to the header, or sets the header. -/
def forward (proxy : String) (peer : Peer) (headers : Headers) : Received where
  xForwardedFor := some <| match headers.xForwardedFor with
    | some received => received ++ ", " ++ peer.host
    | none => peer.host
  xRealIp := headers.xRealIp
  client := some proxy

/-- A header that is there and not empty. -/
def truthyHeader (header : Option String) : Option String := header.filter (· ≠ "")

/-- `get_client_ip`. -/
def getClientIp (request : Received) : Option String :=
  match truthyHeader request.xForwardedFor with
  | some forwarded => (((Text.split ',' forwarded.toList).map Text.strip).map String.ofList).head?
  | none =>
    match truthyHeader request.xRealIp with
    | some real => some (.ofList (Text.strip real.toList))
    | none => request.client

/-- The name under which an endpoint is limited. None of them has a colon. -/
structure Endpoint where
  /-- The name. -/
  name : String
  /-- It has no colon. -/
  plain : ':' ∉ name.toList
  deriving DecidableEq

/-- `key`. -/
def limitKey (endpoint : Endpoint) (clientIp : Option String) : String :=
  endpoint.name ++ ":" ++ clientIp.getD "None"

/-- The settings of the rate limit. -/
structure Settings where
  /-- `RATE_LIMIT_ENABLED and not TESTING`. -/
  enabled : Bool
  /-- `RATE_LIMIT_REQUESTS` and `RATE_LIMIT_PERIOD_SECONDS`. -/
  default : Limit
  /-- `RATE_LIMIT_ADMIN_REQUESTS` and `RATE_LIMIT_ADMIN_PERIOD_SECONDS`. -/
  admin : Limit

/-- `admin_endpoints`. -/
def adminEndpoints : List String :=
  ["admin_audit", "admin_fix", "admin_reconcile", "admin_status_override", "admin_users"]

/-- `intensive_endpoints`. -/
def intensiveEndpoints : List String := ["vm_logs", "vm_create", "network_create"]

/-- The limit of an endpoint. -/
def Settings.limit (settings : Settings) (endpoint : Endpoint) : Limit :=
  if endpoint.name ∈ adminEndpoints then settings.admin
  else if endpoint.name ∈ intensiveEndpoints then
    { maxRequests := max 1 (settings.default.maxRequests / 2)
      periodSeconds := settings.default.periodSeconds
      one_le := le_max_left _ _
      pos := settings.default.pos }
  else settings.default

/-- A request of the peer, and the readings of the clock that its check makes. -/
structure Request (K : Type) where
  /-- The endpoint. -/
  endpoint : Endpoint
  /-- The headers that the peer sends. -/
  headers : Headers
  /-- The readings of the clock. -/
  clock : K

/-! ### The two limiters -/

/-- The readings of `InMemoryRateLimiter.is_allowed`. -/
structure InMemoryClock where
  /-- The reading of the cleanup. -/
  started : ℚ
  /-- The reading of the record. -/
  decided : ℚ

/-- The reading of `RedisRateLimiter.is_allowed`. -/
structure RedisClock where
  /-- The reading. -/
  currentTime : ℚ
  /-- Readings count from the epoch. -/
  epoch : 0 ≤ currentTime

/-- What stands between the peer and the limiter. -/
structure Setup where
  /-- The settings. -/
  settings : Settings
  /-- The peer. -/
  peer : Peer
  /-- The host of the proxy. -/
  proxy : String

variable {K : Type}

/-- The endpoint and the client of a request. -/
def Setup.key (setup : Setup) (r : Request K) : Endpoint × Option String :=
  (r.endpoint, getClientIp (forward setup.proxy setup.peer r.headers))

/-- The call of the in-memory limiter. -/
def Setup.inMemoryCall (setup : Setup) (r : Request InMemoryClock) : InMemoryRateLimiter.Call where
  key := limitKey (setup.key r).1 (setup.key r).2
  maxRequests := (setup.settings.limit r.endpoint).maxRequests
  periodSeconds := (setup.settings.limit r.endpoint).periodSeconds
  started := r.clock.started
  decided := r.clock.decided

/-- The call of the Redis limiter, which the server answers at once. -/
def Setup.redisCall (setup : Setup) (r : Request RedisClock) : RedisRateLimiter.Call where
  key := limitKey (setup.key r).1 (setup.key r).2
  maxRequests := (setup.settings.limit r.endpoint).maxRequests
  periodSeconds := (setup.settings.limit r.endpoint).periodSeconds
  currentTime := r.clock.currentTime
  epoch := r.clock.epoch
  executed := r.clock.currentTime

/-- The in-memory limiter. -/
def Setup.inMemory (setup : Setup) : KeyedLimiter (Request InMemoryClock) where
  State := InMemoryRateLimiter.Requests
  init := InMemoryRateLimiter.init
  step requests r :=
    let ran := InMemoryRateLimiter.isAllowed requests (setup.inMemoryCall r)
    (ran.1.isAllowed, ran.2)

/-- The Redis limiter. -/
def Setup.redis (failClosed : Bool) (setup : Setup) : KeyedLimiter (Request RedisClock) where
  State := RedisRateLimiter.State
  init := RedisRateLimiter.init
  step s r :=
    let ran := RedisRateLimiter.call failClosed s (setup.redisCall r)
    (ran.1.isAllowed, ran.2)

/-- The clock does not go back. -/
def Setup.Chronological (setup : Setup) (requests : List (Request InMemoryClock)) : Prop :=
  InMemoryRateLimiter.Chronological (requests.map setup.inMemoryCall)

/-- The requests come one after the other. -/
def Increasing (requests : List (Request RedisClock)) : Prop :=
  requests.Pairwise fun r r' => r.clock.currentTime < r'.clock.currentTime

/-- `check_rate_limit` with a limiter. -/
def Setup.checkRateLimit (setup : Setup) (limiter : KeyedLimiter (Request K)) :
    KeyedLimiter (Request K) :=
  .guarded setup.settings.enabled limiter

/-- `max_requests` of an endpoint. -/
def Setup.maxRequests (setup : Setup) (endpoint : Endpoint) : ℕ :=
  (setup.settings.limit endpoint).maxRequests.toNat

/-- The period of an endpoint. -/
def Setup.period (setup : Setup) (endpoint : Endpoint) : ℚ :=
  (setup.settings.limit endpoint).periodSeconds

/-- Whichever of some headers the peer sends, at most `max_requests` of its requests to an
endpoint pass within a period. -/
def Setup.BindsPeer (setup : Setup) (limiter : KeyedLimiter (Request K)) (time : Request K → ℚ)
    (Valid : List (Request K) → Prop) (sent : Set (Endpoint × Headers)) : Prop :=
  ∀ requests, Valid requests → (∀ r ∈ requests, (r.endpoint, r.headers) ∈ sent) → ∀ endpoint,
    SlidingWindow.Bounded (setup.period endpoint) (setup.maxRequests endpoint)
      (KeyedLimiter.timesOfGroup setup.key time endpoint
        ((setup.checkRateLimit limiter).admitted requests))

/-- The first entry of the header that the peer sends, or the peer itself. -/
def firstEntry (peer : Peer) (headers : Headers) : List Char :=
  Text.strip (Text.before ',' (headers.xForwardedFor.getD peer.host).toList)

/-- The limit is on, and the headers that are sent to an endpoint agree in their first entry. -/
def Setup.SameFirstEntry (setup : Setup) (sent : Set (Endpoint × Headers)) : Prop :=
  (sent.Nonempty → setup.settings.enabled = true) ∧
    ∀ endpoint headers headers', (endpoint, headers) ∈ sent → (endpoint, headers') ∈ sent →
      firstEntry setup.peer headers = firstEntry setup.peer headers'

/-! ### The key is the peer's to choose -/

/-- The address of a request comes from the start of the header that the peer sent. -/
theorem getClientIp_forward (proxy : String) (peer : Peer) (headers : Headers) :
    getClientIp (forward proxy peer headers) = some (.ofList (firstEntry peer headers)) := by
  have hfirst : ∀ text : String, text ≠ "" → ∀ request : Received,
      request.xForwardedFor = some text →
      getClientIp request = some (.ofList (Text.strip (Text.before ',' text.toList))) := by
    intro text hne request hforwarded
    have htruthy : truthyHeader request.xForwardedFor = some text := by
      simp [hforwarded, truthyHeader, hne]
    rw [getClientIp, htruthy]
    simp only [List.head?_map, Text.head?_split, Option.map_some]
  cases hsent : headers.xForwardedFor with
  | none =>
    have hrequest : (forward proxy peer headers).xForwardedFor = some peer.host := by
      simp [forward, hsent]
    rw [hfirst peer.host peer.nonempty _ hrequest, firstEntry, hsent]
    rfl
  | some received =>
    have hrequest : (forward proxy peer headers).xForwardedFor =
        some (received ++ ", " ++ peer.host) := by
      simp [forward, hsent]
    have hlist : (received ++ ", " ++ peer.host).toList =
        received.toList ++ ',' :: (' ' :: peer.host.toList) := by
      simp [String.toList_append]
    have hne : received ++ ", " ++ peer.host ≠ "" := by
      intro hempty
      rw [hempty] at hlist
      simp at hlist
    -- the separator of the proxy ends the first entry at the latest
    rw [hfirst _ hne _ hrequest, hlist, Text.before_append_cons, firstEntry, hsent]
    rfl

/-- Requests with one first entry have one key, and only these. -/
theorem key_snd_eq_iff (setup : Setup) (r r' : Request K) :
    (setup.key r).2 = (setup.key r').2 ↔
      firstEntry setup.peer r.headers = firstEntry setup.peer r'.headers := by
  simp only [Setup.key, getClientIp_forward, Option.some.injEq, String.ofList_inj]

/-- The text of a key determines the endpoint and the client, if there is one. -/
theorem limitKey_injective {endpoint endpoint' : Endpoint} {clientIp clientIp' : String}
    (h : limitKey endpoint (some clientIp) = limitKey endpoint' (some clientIp')) :
    endpoint = endpoint' ∧ clientIp = clientIp' := by
  have hlist := congrArg String.toList h
  simp only [limitKey, Option.getD_some, String.toList_append, List.append_assoc] at hlist
  have hcolon : ":".toList = [':'] := rfl
  rw [hcolon, List.singleton_append, List.singleton_append] at hlist
  -- a name ends at the first colon
  have hname := congrArg (Text.before ':') hlist
  rw [Text.before_append_cons, Text.before_append_cons, Text.before_of_not_mem endpoint.plain,
    Text.before_of_not_mem endpoint'.plain] at hname
  rw [hname] at hlist
  have hclient := List.cons.inj (List.append_cancel_left hlist)
  refine ⟨?_, String.toList_inj.mp hclient.2⟩
  cases endpoint
  cases endpoint'
  simpa only [Endpoint.mk.injEq] using String.toList_inj.mp hname

/-- Keys are the same exactly when their texts are. -/
theorem limitKey_eq_iff (setup : Setup) (r r' : Request K) :
    limitKey (setup.key r).1 (setup.key r).2 = limitKey (setup.key r').1 (setup.key r').2 ↔
      setup.key r = setup.key r' := by
  refine ⟨fun h => ?_, fun h => by rw [h]⟩
  simp only [Setup.key, getClientIp_forward] at h ⊢
  obtain ⟨hendpoint, hclient⟩ := limitKey_injective h
  rw [hendpoint, hclient]

/-! ### The limiters bound each key -/

variable {setup : Setup}

/-- A key of requests has a client. -/
theorem timesOf_none (requests : List (Request K)) (time : Request K → ℚ) (endpoint : Endpoint) :
    KeyedLimiter.timesOf setup.key time (endpoint, none) requests = [] := by
  rw [KeyedLimiter.timesOf, List.map_eq_nil_iff, List.filter_eq_nil_iff]
  intro r _ hkey
  have hclient := congrArg Prod.snd (of_decide_eq_true hkey)
  simp [Setup.key, getClientIp_forward] at hclient

/-- A key of requests is found by its text. -/
theorem limitKey_eq_some_iff (r : Request K) (endpoint : Endpoint) (clientIp : String) :
    limitKey (setup.key r).1 (setup.key r).2 = limitKey endpoint (some clientIp) ↔
      setup.key r = (endpoint, some clientIp) := by
  constructor
  · intro h
    simp only [Setup.key, getClientIp_forward] at h ⊢
    obtain ⟨hendpoint, hclient⟩ := limitKey_injective h
    rw [hendpoint, hclient]
  · intro h
    rw [h]

theorem inMemory_after (requests : List (Request InMemoryClock)) :
    setup.inMemory.after requests =
      InMemoryRateLimiter.after InMemoryRateLimiter.init (requests.map setup.inMemoryCall) := by
  rw [KeyedLimiter.after, InMemoryRateLimiter.after, List.foldl_map]
  rfl

/-- The requests of a key that pass are the ones that the log of the key is about. -/
theorem timesOf_inMemory (requests : List (Request InMemoryClock)) (endpoint : Endpoint)
    (clientIp : String) :
    KeyedLimiter.timesOf setup.key (fun r => r.clock.decided) (endpoint, some clientIp)
        (setup.inMemory.admitted requests) =
      InMemoryRateLimiter.allowedTimes (limitKey endpoint (some clientIp))
        (InMemoryRateLimiter.answers InMemoryRateLimiter.init
          (requests.map setup.inMemoryCall)) := by
  induction requests using List.reverseRecOn with
  | nil => rfl
  | append_singleton requests r ih =>
    rw [KeyedLimiter.admitted_append, List.map_append, InMemoryRateLimiter.answers_append,
      InMemoryRateLimiter.allowedTimes_append, ← ih, inMemory_after, KeyedLimiter.timesOf,
      KeyedLimiter.timesOf, List.filter_append, List.map_append]
    refine congrArg _ ?_
    -- the last request counts if it is allowed and has the key
    let answer := (InMemoryRateLimiter.isAllowed (InMemoryRateLimiter.after
      InMemoryRateLimiter.init (requests.map setup.inMemoryCall)) (setup.inMemoryCall r)).1
    show ((if answer.isAllowed then [r] else []).filter fun r =>
        setup.key r = (endpoint, some clientIp)).map (fun r => r.clock.decided) =
      InMemoryRateLimiter.allowedTimes _ [(setup.inMemoryCall r, answer)]
    have hkey : limitKey (setup.key r).1 (setup.key r).2 = limitKey endpoint (some clientIp) ↔
        setup.key r = (endpoint, some clientIp) :=
      limitKey_eq_some_iff r endpoint clientIp
    have htext : (setup.inMemoryCall r).key = limitKey (setup.key r).1 (setup.key r).2 := rfl
    by_cases hallowed : answer.isAllowed = true
    · by_cases hr : setup.key r = (endpoint, some clientIp)
      · simp [InMemoryRateLimiter.allowedTimes, hallowed, hr, Setup.inMemoryCall]
      · simp [InMemoryRateLimiter.allowedTimes, hr, htext, mt hkey.mp hr]
    · simp [InMemoryRateLimiter.allowedTimes, hallowed]

/-- The limit of a call is the one of its endpoint. -/
theorem inMemory_limit {requests : List (Request InMemoryClock)} {endpoint : Endpoint}
    {clientIp : String} :
    ∀ c ∈ requests.map setup.inMemoryCall, c.key = limitKey endpoint (some clientIp) →
      c.maxRequests = (setup.settings.limit endpoint).maxRequests ∧
        c.periodSeconds = (setup.settings.limit endpoint).periodSeconds := by
  intro c hc hkey
  obtain ⟨r, -, rfl⟩ := List.mem_map.mp hc
  have hr := congrArg Prod.fst ((limitKey_eq_some_iff r endpoint clientIp).mp hkey)
  have hendpoint : r.endpoint = endpoint := hr
  subst hendpoint
  exact ⟨rfl, rfl⟩

theorem inMemory_tracks {requests : List (Request InMemoryClock)}
    (htime : setup.Chronological requests) (endpoint : Endpoint) (clientIp : String) :
    InMemoryRateLimiter.Tracks (setup.settings.limit endpoint).periodSeconds
      (setup.settings.limit endpoint).maxRequests
      (InMemoryRateLimiter.readings (requests.map setup.inMemoryCall))
      (KeyedLimiter.timesOf setup.key (fun r => r.clock.decided) (endpoint, some clientIp)
        (setup.inMemory.admitted requests))
      (setup.inMemory.after requests (limitKey endpoint (some clientIp))) := by
  rw [timesOf_inMemory, inMemory_after]
  exact InMemoryRateLimiter.tracks_after (setup.settings.limit endpoint).one_le htime inMemory_limit

/-- Every request has a client. -/
theorem exists_key_eq (setup : Setup) (r : Request K) :
    ∃ clientIp, setup.key r = (r.endpoint, some clientIp) := by
  simp only [Setup.key, getClientIp_forward]
  exact ⟨_, rfl⟩

/-- The list that a request finds is no longer than the log of its key. -/
theorem length_kept_le {requests : List (Request InMemoryClock)} {r : Request InMemoryClock}
    (htime : setup.Chronological (requests ++ [r])) :
    (InMemoryRateLimiter.kept (InMemoryRateLimiter.after InMemoryRateLimiter.init
        (requests.map setup.inMemoryCall)) (setup.inMemoryCall r)).length ≤
      (KeyedLimiter.timesOf setup.key (fun r => r.clock.decided) (setup.key r)
        (setup.inMemory.admitted requests)).length := by
  rw [Setup.Chronological, List.map_append] at htime
  obtain ⟨clientIp, hkey⟩ := exists_key_eq setup r
  have hrecent := (inMemory_tracks htime.left r.endpoint clientIp).recent_eq
    (setup.inMemoryCall r).started htime.call.1
  have htext : (setup.inMemoryCall r).key = limitKey r.endpoint (some clientIp) :=
    (limitKey_eq_some_iff r r.endpoint clientIp).mpr hkey
  rw [inMemory_after] at hrecent
  rw [InMemoryRateLimiter.kept, htext, hkey]
  exact (congrArg List.length hrecent).trans_le (List.length_filter_le _ _)

/-- Few requests of a key, the last one included. -/
theorem length_timesOf_lt {requests : List (Request K)} {r : Request K} {time : Request K → ℚ}
    (hfew : ∀ k, (requests ++ [r]).countP (fun e => setup.key e = k) ≤ setup.maxRequests k.1) :
    ((KeyedLimiter.timesOf setup.key time (setup.key r) requests).length : ℤ) <
      (setup.settings.limit r.endpoint).maxRequests := by
  have hcount := hfew (setup.key r)
  have hlimit : setup.maxRequests (setup.key r).1 =
      (setup.settings.limit r.endpoint).maxRequests.toNat := rfl
  rw [List.countP_append, List.countP_singleton, if_pos (by simp), hlimit] at hcount
  rw [KeyedLimiter.timesOf, List.length_map, ← List.countP_eq_length_filter]
  omega

/-- The in-memory limiter bounds each key, and admits the requests of keys with few of them. -/
theorem windowed_inMemory (setup : Setup) :
    setup.inMemory.Windowed setup.key (fun r => r.clock.decided) setup.maxRequests setup.period
      setup.Chronological where
  bounded requests htime k := by
    obtain ⟨endpoint, client⟩ := k
    cases client with
    | none =>
      rw [timesOf_none]
      exact SlidingWindow.bounded_nil _ _
    | some clientIp => exact (inMemory_tracks htime endpoint clientIp).bounded
  admits requests htime hfew := by
    induction requests using List.reverseRecOn with
    | nil => rfl
    | append_singleton requests r ih =>
      have hleft : setup.Chronological requests := by
        rw [Setup.Chronological, List.map_append] at htime
        exact htime.left
      have hbefore : setup.inMemory.admitted requests = requests := by
        refine ih hleft fun k => le_trans ?_ (hfew k)
        rw [List.countP_append]
        exact Nat.le_add_right _ _
      have hallowed : (setup.inMemory.step (setup.inMemory.after requests) r).1 = true := by
        refine (InMemoryRateLimiter.isAllowed_iff _ _).mpr ?_
        -- the list of the key is no longer than the number of its earlier requests
        have hkept := length_kept_le htime
        rw [← inMemory_after, hbefore] at hkept
        exact (Int.ofNat_le.mpr hkept).trans_lt (length_timesOf_lt hfew)
      rw [KeyedLimiter.admitted_append, hbefore, if_pos hallowed]

/-! ### Redis -/

theorem redis_after (failClosed : Bool) (requests : List (Request RedisClock)) :
    (setup.redis failClosed).after requests =
      RedisRateLimiter.after failClosed RedisRateLimiter.init (requests.map setup.redisCall) := by
  rw [KeyedLimiter.after, RedisRateLimiter.after, List.foldl_map]
  rfl

/-- Requests that come one after the other are executed one at a time, under one limit for each
key. -/
theorem sequential_redisCall {requests : List (Request RedisClock)} (h : Increasing requests) :
    RedisRateLimiter.Sequential (requests.map setup.redisCall) where
  increasing := List.pairwise_map.mpr h
  atOnce c hc := by
    obtain ⟨r, -, rfl⟩ := List.mem_map.mp hc
    rfl
  uniform := by
    constructor
    · intro c hc
      obtain ⟨c', hc', rfl⟩ := List.mem_map.mp hc
      obtain ⟨r, -, rfl⟩ := List.mem_map.mp hc'
      exact ⟨(setup.settings.limit r.endpoint).one_le, (setup.settings.limit r.endpoint).pos⟩
    · intro c hc c' hc' hkey
      obtain ⟨d, hd, rfl⟩ := List.mem_map.mp hc
      obtain ⟨d', hd', rfl⟩ := List.mem_map.mp hc'
      obtain ⟨r, -, rfl⟩ := List.mem_map.mp hd
      obtain ⟨r', -, rfl⟩ := List.mem_map.mp hd'
      -- one key, so one endpoint
      have hendpoint : r'.endpoint = r.endpoint :=
        congrArg Prod.fst ((limitKey_eq_iff setup r' r).mp hkey)
      show (setup.settings.limit r'.endpoint).maxRequests = _ ∧
        (setup.settings.limit r'.endpoint).periodSeconds = _
      rw [hendpoint]
      exact ⟨rfl, rfl⟩

/-- The times of the earlier calls of the key of a request. -/
theorem timesOf_redisCall (requests : List (Request RedisClock)) (r : Request RedisClock) :
    RedisRateLimiter.timesOf (setup.redisCall r).key (requests.map setup.redisCall) =
      KeyedLimiter.timesOf setup.key (fun r => r.clock.currentTime) (setup.key r) requests := by
  rw [RedisRateLimiter.timesOf, KeyedLimiter.timesOf, List.filter_map, List.map_map]
  refine congrArg _ (List.filter_congr fun r' _ => ?_)
  exact decide_eq_decide.mpr (limitKey_eq_iff setup r' r)

/-- A request passes if fewer than the limit of its key came before it in its window. -/
theorem redis_step_iff {failClosed : Bool} {requests : List (Request RedisClock)}
    {r : Request RedisClock} (h : Increasing (requests ++ [r])) :
    ((setup.redis failClosed).step ((setup.redis failClosed).after requests) r).1 = true ↔
      ((SlidingWindow.recent (setup.period r.endpoint) r.clock.currentTime
        (KeyedLimiter.timesOf setup.key (fun r => r.clock.currentTime) (setup.key r)
          requests)).length : ℤ) < (setup.settings.limit r.endpoint).maxRequests := by
  have hsequential : RedisRateLimiter.Sequential ((requests ++ [r]).map setup.redisCall) :=
    sequential_redisCall h
  rw [List.map_append] at hsequential
  have hiff := RedisRateLimiter.isAllowed_after_iff hsequential failClosed
  rw [RedisRateLimiter.crowded, RedisRateLimiter.before, timesOf_redisCall,
    decide_eq_false_iff_not, not_le, ← redis_after] at hiff
  exact hiff

/-- The Redis limiter bounds each key, and admits the requests of keys with few of them. -/
theorem windowed_redis (failClosed : Bool) (setup : Setup) :
    (setup.redis failClosed).Windowed setup.key (fun r => r.clock.currentTime) setup.maxRequests
      setup.period Increasing where
  bounded requests htime k := by
    induction requests using List.reverseRecOn with
    | nil => exact SlidingWindow.bounded_nil _ _
    | append_singleton requests r ih =>
      have hbefore := ih (List.pairwise_append.mp htime).1
      rw [KeyedLimiter.admitted_append, KeyedLimiter.timesOf, List.filter_append, List.map_append]
      by_cases hkey : setup.key r = k
      swap
      · -- a request of another key
        have hnone : ((if ((setup.redis failClosed).step ((setup.redis failClosed).after requests)
            r).1 then [r] else []).filter fun e => setup.key e = k) = [] := by
          split <;> simp [hkey]
        rw [hnone, List.map_nil, List.append_nil]
        exact hbefore
      subst hkey
      by_cases hallowed : ((setup.redis failClosed).step ((setup.redis failClosed).after requests)
          r).1 = true
      swap
      · rw [if_neg hallowed]
        rw [List.filter_nil, List.map_nil, List.append_nil]
        exact hbefore
      have hone : ([r].filter fun e => setup.key e = setup.key r) = [r] := by simp
      rw [if_pos hallowed, hone]
      refine hbefore.of_recent
        (SlidingWindow.recent (setup.period r.endpoint) r.clock.currentTime
          (KeyedLimiter.timesOf setup.key (fun r => r.clock.currentTime) (setup.key r) requests))
        ?_ ?_
      · -- the limiter counts all earlier requests, those that passed among them
        intro W hW hr
        have hsublist : (KeyedLimiter.timesOf setup.key (fun r => r.clock.currentTime)
            (setup.key r) ((setup.redis failClosed).admitted requests)).Sublist
            (KeyedLimiter.timesOf setup.key (fun r => r.clock.currentTime) (setup.key r)
              requests) :=
          ((KeyedLimiter.admitted_sublist _ requests).filter _).map _
        refine (hsublist.countP_le).trans ?_
        rw [SlidingWindow.recent, ← List.countP_eq_length_filter]
        exact List.countP_mono_left fun t _ ht => decide_eq_true (hW t _ ht hr)
      · have hroom := (redis_step_iff htime).mp hallowed
        show _ < (setup.settings.limit r.endpoint).maxRequests.toNat
        omega
  admits requests htime hfew := by
    induction requests using List.reverseRecOn with
    | nil => rfl
    | append_singleton requests r ih =>
      have hbefore : (setup.redis failClosed).admitted requests = requests := by
        refine ih (List.pairwise_append.mp htime).1 fun k => le_trans ?_ (hfew k)
        rw [List.countP_append]
        exact Nat.le_add_right _ _
      have hallowed : ((setup.redis failClosed).step
          ((setup.redis failClosed).after requests) r).1 = true := by
        refine (redis_step_iff htime).mpr ?_
        have hlength := List.length_filter_le (fun t => r.clock.currentTime -
          setup.period r.endpoint < t) (KeyedLimiter.timesOf setup.key
            (fun r => r.clock.currentTime) (setup.key r) requests)
        exact (Int.ofNat_le.mpr hlength).trans_lt (length_timesOf_lt hfew)
      rw [KeyedLimiter.admitted_append, hbefore, if_pos hallowed]

/-! ### Which headers a peer may vary -/

/-- As many requests as the limit allows, and one more with other headers. -/
def burst (endpoint : Endpoint) (headers headers' : Headers) (clock : ℕ → K) (n : ℕ) :
    List (Request K) :=
  (List.range n).map (fun i => ⟨endpoint, headers, clock i⟩) ++ [⟨endpoint, headers', clock n⟩]

/-- What the requests of a burst have in common. -/
theorem mem_burst {endpoint : Endpoint} {headers headers' : Headers} {clock : ℕ → K} {n : ℕ}
    {r : Request K} (h : r ∈ burst endpoint headers headers' clock n) :
    r.endpoint = endpoint ∧ (r.headers = headers ∨ r.headers = headers') ∧
      ∃ i ≤ n, r.clock = clock i := by
  rcases List.mem_append.mp h with hfirst | hlast
  · obtain ⟨i, hi, rfl⟩ := List.mem_map.mp hfirst
    exact ⟨rfl, Or.inl rfl, i, (List.mem_range.mp hi).le, rfl⟩
  · obtain rfl := List.mem_singleton.mp hlast
    exact ⟨rfl, Or.inr rfl, n, le_rfl, rfl⟩

/-- No key has more requests of a burst than the limit, if the last one has another key. -/
theorem countP_burst_le {endpoint : Endpoint} {headers headers' : Headers} {clock : ℕ → K} {n : ℕ}
    (hne : firstEntry setup.peer headers ≠ firstEntry setup.peer headers') (hn : 1 ≤ n)
    (k : Endpoint × Option String) :
    (burst endpoint headers headers' clock n).countP (fun e => setup.key e = k) ≤ n := by
  rw [burst, List.countP_append]
  by_cases hk : setup.key (⟨endpoint, headers', clock n⟩ : Request K) = k
  · -- then none of the others has this key
    have hzero : ((List.range n).map fun i => (⟨endpoint, headers, clock i⟩ : Request K)).countP
        (fun e => setup.key e = k) = 0 := by
      refine List.countP_eq_zero.mpr fun r hr hkey => hne ?_
      obtain ⟨i, -, rfl⟩ := List.mem_map.mp hr
      have hsame : (setup.key (⟨endpoint, headers, clock i⟩ : Request K)).2 =
          (setup.key (⟨endpoint, headers', clock n⟩ : Request K)).2 :=
        congrArg Prod.snd ((of_decide_eq_true hkey).trans hk.symm)
      rwa [key_snd_eq_iff] at hsame
    rw [hzero, Nat.zero_add]
    exact List.countP_le_length.trans hn
  · have hzero : [(⟨endpoint, headers', clock n⟩ : Request K)].countP
        (fun e => setup.key e = k) = 0 := by
      refine List.countP_eq_zero.mpr fun r hr hkey => hk ?_
      rw [← List.mem_singleton.mp hr]
      exact of_decide_eq_true hkey
    rw [hzero, Nat.add_zero]
    refine List.countP_le_length.trans ?_
    rw [List.length_map, List.length_range]

/-- A limiter that bounds each key binds a peer exactly when the limit is on and the peer does not
vary the first entry, if its clock has room for a burst within every period. -/
theorem bindsPeer_iff_of_windowed {limiter : KeyedLimiter (Request K)} {tick : K → ℚ}
    {Valid : List (Request K) → Prop}
    (hwindowed : limiter.Windowed setup.key (fun r => tick r.clock) setup.maxRequests setup.period
      Valid)
    (hburst : ∀ (endpoint : Endpoint) (headers headers' : Headers) (n : ℕ), ∃ clock : ℕ → K,
      Valid (burst endpoint headers headers' clock n) ∧
        ∀ i ≤ n, 0 ≤ tick (clock i) ∧ tick (clock i) < 0 + setup.period endpoint)
    (sent : Set (Endpoint × Headers)) :
    setup.BindsPeer limiter (fun r => tick r.clock) Valid sent ↔ setup.SameFirstEntry sent := by
  have hsent : ∀ {endpoint headers headers'} {clock : ℕ → K} {n : ℕ}, (endpoint, headers) ∈ sent →
      (endpoint, headers') ∈ sent → ∀ r ∈ burst endpoint headers headers' clock n,
        (r.endpoint, r.headers) ∈ sent := by
    intro endpoint headers headers' clock n hmem hmem' r hr
    obtain ⟨hendpoint, hheaders | hheaders, -⟩ := mem_burst hr
    · rwa [hendpoint, hheaders]
    · rwa [hendpoint, hheaders]
  have hgroup : ∀ {endpoint headers headers'} {clock : ℕ → K} {n : ℕ},
      ∀ r ∈ burst endpoint headers headers' clock n, (setup.key r).1 = endpoint :=
    fun r hr => (mem_burst hr).1
  have hwindow : ∀ {endpoint headers headers'} {clock : ℕ → K} {n : ℕ},
      (∀ i ≤ n, 0 ≤ tick (clock i) ∧ tick (clock i) < 0 + setup.period endpoint) →
      ∀ r ∈ burst endpoint headers headers' clock n,
        decide (0 ≤ tick r.clock ∧ tick r.clock < 0 + setup.period endpoint) = true := by
    intro endpoint headers headers' clock n hclock r hr
    obtain ⟨-, -, i, hi, htick⟩ := mem_burst hr
    rw [htick]
    exact decide_eq_true (hclock i hi)
  have hlength : ∀ {endpoint headers headers'} {clock : ℕ → K},
      setup.maxRequests endpoint <
        (burst endpoint headers headers' clock (setup.maxRequests endpoint)).length := by
    intro endpoint headers headers' clock
    rw [burst, List.length_append, List.length_map, List.length_range]
    exact Nat.lt_succ_self _
  constructor
  · intro hbinds
    have henabled : sent.Nonempty → setup.settings.enabled = true := by
      rintro ⟨⟨endpoint, headers⟩, hmem⟩
      by_contra hdisabled
      rw [Bool.not_eq_true] at hdisabled
      obtain ⟨clock, hvalid, hclock⟩ := hburst endpoint headers headers (setup.maxRequests endpoint)
      have hbounded := hbinds _ hvalid (hsent hmem hmem) endpoint
      rw [Setup.checkRateLimit, hdisabled] at hbounded
      exact KeyedLimiter.not_bounded_of_admitted (limiter.admitted_guarded_false _) hgroup
        (SlidingWindow.narrow_ico (setup.period endpoint) 0) (hwindow hclock) hlength hbounded
    refine ⟨henabled, fun endpoint headers headers' hmem hmem' => ?_⟩
    by_contra hne
    have hone := (setup.settings.limit endpoint).one_le
    have hlimit : setup.maxRequests endpoint =
        (setup.settings.limit endpoint).maxRequests.toNat := rfl
    obtain ⟨clock, hvalid, hclock⟩ := hburst endpoint headers headers' (setup.maxRequests endpoint)
    have hbounded := hbinds _ hvalid (hsent hmem hmem') endpoint
    rw [Setup.checkRateLimit, henabled ⟨_, hmem⟩, KeyedLimiter.guarded_true] at hbounded
    refine hwindowed.not_bounded_of_burst hvalid (fun k => ?_) hgroup
      (SlidingWindow.narrow_ico (setup.period endpoint) 0) (hwindow hclock) hlength hbounded
    by_cases hk : k.1 = endpoint
    · rw [hk]
      exact countP_burst_le hne (by omega) k
    · -- no request of the burst is for another endpoint
      refine (Nat.le_of_eq (List.countP_eq_zero.mpr fun r hr hkey => hk ?_)).trans (Nat.zero_le _)
      rw [← of_decide_eq_true hkey]
      exact hgroup r hr
  · rintro ⟨henabled, hsame⟩ requests hvalid hmem endpoint
    by_cases hsome : sent.Nonempty
    · rw [Setup.checkRateLimit, henabled hsome, KeyedLimiter.guarded_true]
      refine hwindowed.bounded_of_single hvalid (fun r hr r' hr' hgroups => ?_) endpoint
      have hendpoint : r.endpoint = r'.endpoint := hgroups
      have hr'mem := hmem r' hr'
      rw [← hendpoint] at hr'mem
      exact (key_snd_eq_iff setup r r').mpr (hsame _ _ _ (hmem r hr) hr'mem)
    · -- nothing is sent at all
      have hnil : requests = [] := by
        refine List.eq_nil_iff_forall_not_mem.mpr fun r hr => ?_
        exact hsome ⟨_, hmem r hr⟩
      rw [hnil]
      exact SlidingWindow.bounded_nil _ _

/-- Readings that fill a period evenly. -/
def evenly (period : ℚ) (n i : ℕ) : ℚ := i * (period / (n + 1))

theorem evenly_lt_evenly {period : ℚ} (hperiod : 0 < period) {n i j : ℕ} (h : i < j) :
    evenly period n i < evenly period n j := by
  have hstep : 0 < period / (n + 1 : ℚ) := div_pos hperiod (by positivity)
  exact mul_lt_mul_of_pos_right (Nat.cast_lt.mpr h) hstep

/-- The readings start at the epoch and stay within the period. -/
theorem evenly_mem {period : ℚ} (hperiod : 0 < period) {n i : ℕ} (h : i ≤ n) :
    0 ≤ evenly period n i ∧ evenly period n i < 0 + period := by
  have hlast : evenly period n (n + 1) = period := by
    rw [evenly, Nat.cast_succ]
    exact mul_div_cancel₀ _ (by positivity)
  constructor
  · rw [evenly]
    positivity
  · rw [zero_add]
    exact (evenly_lt_evenly hperiod (Nat.lt_succ_of_le h)).trans_eq hlast

theorem Setup.period_pos (setup : Setup) (endpoint : Endpoint) : 0 < setup.period endpoint :=
  Int.cast_pos.mpr (setup.settings.limit endpoint).pos

/-- A burst is in the order of its readings. -/
theorem pairwise_burst {R : Request K → Request K → Prop} {endpoint : Endpoint}
    {headers headers' : Headers} {clock : ℕ → K} {n : ℕ}
    (h : ∀ i j h h', i < j → R ⟨endpoint, h, clock i⟩ ⟨endpoint, h', clock j⟩) :
    (burst endpoint headers headers' clock n).Pairwise R := by
  refine List.pairwise_append.mpr ⟨?_, List.pairwise_singleton _ _, ?_⟩
  · exact List.pairwise_map.mpr (List.pairwise_lt_range.imp fun hlt => h _ _ _ _ hlt)
  · intro r hr r' hr'
    obtain ⟨i, hi, rfl⟩ := List.mem_map.mp hr
    obtain rfl := List.mem_singleton.mp hr'
    exact h _ _ _ _ (List.mem_range.mp hi)

theorem inMemory_bindsPeer_iff (sent : Set (Endpoint × Headers)) :
    setup.BindsPeer setup.inMemory (fun r => r.clock.decided) setup.Chronological sent ↔
      setup.SameFirstEntry sent := by
  refine bindsPeer_iff_of_windowed (windowed_inMemory setup) (fun endpoint headers headers' n => ?_)
    sent
  have hperiod := setup.period_pos endpoint
  refine ⟨fun i => ⟨evenly (setup.period endpoint) n i, evenly (setup.period endpoint) n i⟩, ?_,
    fun i hi => evenly_mem hperiod hi⟩
  rw [Setup.Chronological, InMemoryRateLimiter.Chronological, InMemoryRateLimiter.readings,
    List.flatMap_map, List.pairwise_flatMap]
  refine ⟨fun r hr => ?_, pairwise_burst fun i j h h' hlt => ?_⟩
  · obtain ⟨-, -, i, -, hclock⟩ := mem_burst hr
    simp [Setup.inMemoryCall, hclock]
  · have hle := (evenly_lt_evenly (n := n) hperiod hlt).le
    simp [Setup.inMemoryCall, hle]

theorem redis_bindsPeer_iff (failClosed : Bool) (sent : Set (Endpoint × Headers)) :
    setup.BindsPeer (setup.redis failClosed) (fun r => r.clock.currentTime) Increasing sent ↔
      setup.SameFirstEntry sent := by
  refine bindsPeer_iff_of_windowed (windowed_redis failClosed setup)
    (fun endpoint headers headers' n => ?_) sent
  have hperiod := setup.period_pos endpoint
  refine ⟨fun i => ⟨evenly (setup.period endpoint) n i, ?_⟩, ?_, fun i hi => evenly_mem hperiod hi⟩
  · rw [evenly]
    positivity
  · exact pairwise_burst fun i j h h' hlt => evenly_lt_evenly hperiod hlt

theorem minute_pos : (0 : ℤ) < 60 := by decide

/-- The settings by default: five requests a minute, and ten for administrators. -/
def defaultSetup : Setup where
  settings :=
    { enabled := true
      default := ⟨5, 60, by decide, minute_pos⟩
      admin := ⟨10, 60, by decide, minute_pos⟩ }
  peer := ⟨"203.0.113.7", by decide⟩
  proxy := "10.0.0.2"

end ProxmoxIaas.RateLimit.ClientKey
