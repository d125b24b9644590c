import ProxmoxIaas.Foundation.Table
import ProxmoxIaas.Foundation.Truncation

/-!
# The Token Blacklist

A token that is logged out is written to Redis with a time to live, or to the memory of the
process when Redis does not answer. `_redis_client` is set before the first ping, so that a
client which did not answer is used by the next call. Every call finds the server reachable or
not at its ping and at its command (`Link`), and reads the clock once.

## Main results

- `reach_tokenBlacklist`: finding the store of a call leaves the tokens in memory alone.
- `get?_remember`: the hourly cleanup keeps the tokens that have not expired.
-/

namespace ProxmoxIaas.Tokens

/-- The settings that the blacklist reads. -/
structure Settings where
  /-- `ENVIRONMENT == "production"`. -/
  production : Bool
  /-- `CELERY_BROKER_URL` starts with `redis://`. -/
  redisUrl : Bool
  deriving DecidableEq

/-- Whether the server answers the ping of a new client, and the command of the call. -/
structure Link where
  ping : Bool
  command : Bool
  deriving DecidableEq

/-- The variables of the module, in one process. -/
structure Process where
  /-- `_redis_client is not None`. -/
  redisClient : Bool
  redisAvailable : Option Bool
  /-- `_token_blacklist`: the expiry of each token. -/
  tokenBlacklist : Table ℕ ℤ
  lastCleanup : ℚ

/-- The process, and the keys `blacklist:{jti}` of the server with the times at which they
lapse. -/
structure Stores where
  process : Process
  redis : Table ℕ ℚ

/-- The text of a `RuntimeError`. -/
abbrev RuntimeError := String

/-- `_get_redis`: whether there is a client. -/
def getRedis (settings : Settings) (link : Link) (p : Process) : Bool × Process :=
  if p.redisClient then (true, p)
  else if settings.redisUrl then
    -- the client is kept also when its ping fails
    if link.ping then (true, { p with redisClient := true, redisAvailable := some true })
    else (false, { p with redisClient := true, redisAvailable := some false })
  else (false, p)

/-- `_check_redis_required`: what it raises. -/
def checkRedisRequired (settings : Settings) (link : Link) (p : Process) :
    Option RuntimeError × Process :=
  let required : RuntimeError :=
    "CRITICAL SECURITY ERROR: Redis is required for token blacklist in production environment. " ++
    "Without Redis, tokens blacklisted on one worker will remain valid on other workers. " ++
    "Please configure Redis at CELERY_BROKER_URL to enable distributed token blacklist."
  if settings.production then
    match p.redisAvailable with
    | some false => (some required, p)
    | some true => (none, p)
    | none =>
      let got := getRedis settings link p
      if got.1 then (none, got.2) else (some required, got.2)
  else (none, p)

/-- Where a call ends up. -/
inductive Store
  | redis
  | memory
  deriving DecidableEq

/-- The path that `add_token_to_blacklist` and `is_token_blacklisted` share: the store whose
command is answered, or what is raised; `lost` is the error of the call for a client that has
never answered. -/
def reach (settings : Settings) (link : Link) (lost : RuntimeError) (p : Process) :
    Except RuntimeError Store × Process :=
  match checkRedisRequired settings link p with
  | (some e, p) => (.error e, p)
  | (none, p) =>
    let got := getRedis settings link p
    if got.1 then
      if link.command then (.ok .redis, got.2)
      else
        match checkRedisRequired settings link got.2 with
        | (some e, p) => (.error e, p)
        | (none, p) =>
          if p.redisAvailable = some false then (.error lost, p) else (.ok .memory, p)
    else (.ok .memory, got.2)

/-- `max(1, int(expires_at - time.time()))`. -/
def ttl (now : ℚ) (expiresAt : ℤ) : ℤ := max 1 (truncate (expiresAt - now))

/-- `_cleanup_expired_tokens`. -/
def cleanupExpiredTokens (now : ℚ) (p : Process) : Process :=
  { p with tokenBlacklist := p.tokenBlacklist.deleteWhere fun _ expiresAt => expiresAt < now }

/-- The write to the memory of the process, with its cleanup once an hour. -/
def remember (now : ℚ) (jti : ℕ) (expiresAt : ℤ) (p : Process) : Process :=
  let p := { p with tokenBlacklist := p.tokenBlacklist.insert jti expiresAt }
  if now - p.lastCleanup > 3600 then { cleanupExpiredTokens now p with lastCleanup := now } else p

/-- The error of a write by a client that has never answered. -/
def operationLost : RuntimeError :=
  "Redis connection lost in production. Token blacklist operation failed. " ++
    "This is a critical security error."

/-- The error of a check by a client that has never answered. -/
def checkLost : RuntimeError :=
  "Redis connection lost in production. Token blacklist check failed. " ++
    "This is a critical security error."

/-- `add_token_to_blacklist`: what it raises. -/
def addTokenToBlacklist (settings : Settings) (link : Link) (now : ℚ) (jti : ℕ) (expiresAt : ℤ)
    (s : Stores) : Option RuntimeError × Stores :=
  match reach settings link operationLost s.process with
  | (.error e, p) => (some e, { s with process := p })
  | (.ok .redis, p) =>
    (none, { process := p, redis := s.redis.insert jti (now + ttl now expiresAt) })
  | (.ok .memory, p) => (none, { s with process := remember now jti expiresAt p })

/-- `EXISTS blacklist:{jti}`. -/
def existsInRedis (now : ℚ) (redis : Table ℕ ℚ) (jti : ℕ) : Bool :=
  (redis.get? jti).any (now ≤ ·)

/-- `is_token_blacklisted`. -/
def isTokenBlacklisted (settings : Settings) (link : Link) (now : ℚ) (jti : ℕ) (s : Stores) :
    Except RuntimeError Bool × Process :=
  match reach settings link checkLost s.process with
  | (.error e, p) => (.error e, p)
  | (.ok .redis, p) => (.ok (existsInRedis now s.redis jti), p)
  | (.ok .memory, p) => (.ok (p.tokenBlacklist.get? jti).isSome, p)

/-- What `verify_token` makes of a token with a good signature and a subject. -/
inductive Verdict
  /-- The payload is returned. -/
  | accepted
  /-- `JWTError`, answered as the credentials exception. -/
  | expired
  /-- The credentials exception for a blacklisted token. -/
  | blacklisted
  /-- The error of the blacklist. -/
  | raised (e : RuntimeError)
  deriving DecidableEq

/-- `verify_token`: the expiry is compared with the full second of the clock. -/
def verifyToken (settings : Settings) (link : Link) (now : ℚ) (jti : ℕ) (expiresAt : ℤ)
    (s : Stores) : Verdict × Process :=
  if expiresAt < ⌊now⌋ then (.expired, s.process)
  else
    match isTokenBlacklisted settings link now jti s with
    | (.error e, p) => (.raised e, p)
    | (.ok true, p) => (.blacklisted, p)
    | (.ok false, p) => (.accepted, p)

/-- `get_current_user`: the status of the answer, if there is no user; `active` is the column of
the user's row. -/
def getCurrentUser (verdict : Verdict) (active : Option Bool) : Option ℕ :=
  match verdict with
  | .expired | .blacklisted => some 401
  | .raised _ => some 500
  | .accepted =>
    match active with
    | none => some 404
    | some false => some 403
    | some true => none

/-! ### What a call leaves of the process -/

@[simp]
theorem getRedis_tokenBlacklist (settings : Settings) (link : Link) (p : Process) :
    (getRedis settings link p).2.tokenBlacklist = p.tokenBlacklist := by
  unfold getRedis
  split
  case isTrue => rfl
  case isFalse =>
    split
    case isTrue => split <;> rfl
    case isFalse => rfl

@[simp]
theorem checkRedisRequired_tokenBlacklist (settings : Settings) (link : Link) (p : Process) :
    (checkRedisRequired settings link p).2.tokenBlacklist = p.tokenBlacklist := by
  simp only [checkRedisRequired]
  split
  case isTrue =>
    split
    case h_1 => rfl
    case h_2 => rfl
    case h_3 => split <;> exact getRedis_tokenBlacklist settings link p
  case isFalse => rfl

/-- Finding the store does not touch the tokens in memory. -/
@[simp]
theorem reach_tokenBlacklist (settings : Settings) (link : Link) (lost : RuntimeError)
    (p : Process) : (reach settings link lost p).2.tokenBlacklist = p.tokenBlacklist := by
  have hchecked := checkRedisRequired_tokenBlacklist settings link p
  unfold reach
  split
  case h_1 e p' heq => rwa [heq] at hchecked
  case h_2 p' heq =>
    rw [heq] at hchecked
    have hgot := getRedis_tokenBlacklist settings link p'
    dsimp only
    split
    case isTrue =>
      split
      case isTrue => exact hgot.trans hchecked
      case isFalse =>
        have hagain := checkRedisRequired_tokenBlacklist settings link (getRedis settings link p').2
        split
        case h_1 e p'' heq' =>
          rw [heq'] at hagain
          exact hagain.trans (hgot.trans hchecked)
        case h_2 p'' heq' =>
          rw [heq'] at hagain
          split <;> exact hagain.trans (hgot.trans hchecked)
    case isFalse => exact hgot.trans hchecked

/-- The process after a check has the tokens of before. -/
@[simp]
theorem isTokenBlacklisted_tokenBlacklist (settings : Settings) (link : Link) (now : ℚ) (jti : ℕ)
    (s : Stores) : (isTokenBlacklisted settings link now jti s).2.tokenBlacklist =
      s.process.tokenBlacklist := by
  have hreach := reach_tokenBlacklist settings link checkLost s.process
  unfold isTokenBlacklisted
  split <;> simp_all

@[simp]
theorem verifyToken_tokenBlacklist (settings : Settings) (link : Link) (now : ℚ) (jti : ℕ)
    (expiresAt : ℤ) (s : Stores) :
    (verifyToken settings link now jti expiresAt s).2.tokenBlacklist =
      s.process.tokenBlacklist := by
  have hcheck := isTokenBlacklisted_tokenBlacklist settings link now jti s
  unfold verifyToken
  split
  case isTrue => rfl
  case isFalse => split <;> simp_all

/-- A write to memory keeps the tokens that have not expired. -/
theorem get?_remember {now : ℚ} {jti jti' : ℕ} {expiresAt e : ℤ} {p : Process}
    (h : Table.get? (p.tokenBlacklist.insert jti expiresAt) jti' = some e) (hlive : now ≤ e) :
    (remember now jti expiresAt p).tokenBlacklist.get? jti' = some e := by
  simp only [remember]
  split
  case isTrue =>
    show (Table.deleteWhere _ _).get? jti' = some e
    rw [Table.get?_deleteWhere, h]
    simp [not_lt.mpr hlive]
  case isFalse => exact h

/-- A write to memory adds no other token. -/
theorem get?_of_remember {now : ℚ} {jti jti' : ℕ} {expiresAt e : ℤ} {p : Process}
    (h : (remember now jti expiresAt p).tokenBlacklist.get? jti' = some e) :
    jti' = jti ∨ p.tokenBlacklist.get? jti' = some e := by
  have hinsert : Table.get? (p.tokenBlacklist.insert jti expiresAt) jti' = some e := by
    simp only [remember] at h
    split at h
    case isTrue =>
      have hkept : (Table.deleteWhere (p.tokenBlacklist.insert jti expiresAt)
        fun _ expiresAt => (expiresAt : ℚ) < now).get? jti' = some e := h
      rw [Table.get?_deleteWhere] at hkept
      exact (Option.filter_eq_some_iff.mp hkept).1
    case isFalse => exact h
  rw [Table.get?_insert] at hinsert
  split at hinsert
  case isTrue heq => exact .inl heq
  case isFalse => exact .inr hinsert

end ProxmoxIaas.Tokens
