import ProxmoxIaas.Tokens.Blacklist
import Mathlib.Data.List.Induction

/-!
# Failures of Redis

In production the blacklist must operate on Redis or raise, and elsewhere it must fall back to the
memory of the process. Both are decided by `_redis_available`, which only the ping of a new client
writes. A connection that is lost later leaves it `True`, and a first ping that failed leaves it
`False` for good.

## Main results

- `status_after`: what a process knows of Redis comes from its first call.
- `keepsPromise_iff`: when a call does what the environment asks for.
-/

namespace ProxmoxIaas.Tokens

/-! ### Calls -/

/-- A call of one of the two operations. -/
inductive Call where
  /-- `add_token_to_blacklist`. -/
  | add (jti : ℕ) (expiresAt : ℤ)
  /-- `is_token_blacklisted`. -/
  | check (jti : ℕ)
  deriving DecidableEq

/-- The text that a call raises itself. -/
def Call.lost : Call → RuntimeError
  | add _ _ => operationLost
  | check _ => checkLost

/-- The store that a call operates on, or what it raises. -/
def Call.store (settings : Settings) (link : Link) (s : Stores) (call : Call) :
    Except RuntimeError Store :=
  (reach settings link call.lost s.process).1

/-- A call at a time, and how it finds the server. -/
structure Occurrence where
  /-- The call. -/
  call : Call
  /-- The clock. -/
  now : ℚ
  /-- The server. -/
  link : Link

/-- What a call leaves. -/
def Occurrence.run (settings : Settings) (s : Stores) (o : Occurrence) : Stores :=
  match o.call with
  | .add jti expiresAt => (addTokenToBlacklist settings o.link o.now jti expiresAt s).2
  | .check jti => { s with process := (isTokenBlacklisted settings o.link o.now jti s).2 }

/-- A process that has just started. The server may have keys. -/
def started (now : ℚ) (redis : Table ℕ ℚ) : Stores where
  process :=
    { redisClient := false
      redisAvailable := none
      tokenBlacklist := ∅
      lastCleanup := now }
  redis := redis

/-- A process after some calls. -/
def after (settings : Settings) (s : Stores) (history : List Occurrence) : Stores :=
  history.foldl (Occurrence.run settings) s

/-! ### What a call does to its store -/

variable {settings : Settings} {link : Link} {s : Stores} {now : ℚ} {jti : ℕ} {expiresAt : ℤ}
  {e : RuntimeError}

/-- A call that raises writes to no store. -/
theorem addTokenToBlacklist_of_raises
    (h : (Call.add jti expiresAt).store settings link s = .error e) :
    (addTokenToBlacklist settings link now jti expiresAt s).1 = some e ∧
      (addTokenToBlacklist settings link now jti expiresAt s).2.redis = s.redis ∧
      (addTokenToBlacklist settings link now jti expiresAt s).2.process.tokenBlacklist =
        s.process.tokenBlacklist := by
  have hmemory := reach_tokenBlacklist settings link operationLost s.process
  have hreach : (reach settings link operationLost s.process).1 = .error e := h
  rw [addTokenToBlacklist]
  cases hr : reach settings link operationLost s.process with
  | mk store p =>
    rw [hr] at hreach hmemory
    obtain rfl : store = .error e := hreach
    exact ⟨rfl, rfl, hmemory⟩

/-- A write to Redis leaves the memory of the process alone. -/
theorem addTokenToBlacklist_of_redis
    (h : (Call.add jti expiresAt).store settings link s = .ok .redis) :
    (addTokenToBlacklist settings link now jti expiresAt s).1 = none ∧
      (addTokenToBlacklist settings link now jti expiresAt s).2.redis =
        s.redis.insert jti (now + ttl now expiresAt) ∧
      (addTokenToBlacklist settings link now jti expiresAt s).2.process.tokenBlacklist =
        s.process.tokenBlacklist := by
  have hmemory := reach_tokenBlacklist settings link operationLost s.process
  have hreach : (reach settings link operationLost s.process).1 = .ok .redis := h
  rw [addTokenToBlacklist]
  cases hr : reach settings link operationLost s.process with
  | mk store p =>
    rw [hr] at hreach hmemory
    obtain rfl : store = .ok .redis := hreach
    exact ⟨rfl, rfl, hmemory⟩

/-- The answer of a check comes from its store. -/
theorem isTokenBlacklisted_eq :
    (isTokenBlacklisted settings link now jti s).1 =
      ((Call.check jti).store settings link s).map fun store =>
        match store with
        | .redis => existsInRedis now s.redis jti
        | .memory => (s.process.tokenBlacklist.get? jti).isSome := by
  have hmemory := reach_tokenBlacklist settings link checkLost s.process
  rw [isTokenBlacklisted, Call.store, Call.lost]
  cases hr : reach settings link checkLost s.process with
  | mk store p =>
    rw [hr] at hmemory
    cases store with
    | error e => rfl
    | ok store =>
      cases store with
      | redis => rfl
      | memory =>
        rw [← hmemory]
        rfl

/-! ### What a process knows of Redis -/

/-- What a process knows of Redis after some calls. The ping of the first call decides it. -/
def Status (settings : Settings) (history : List Occurrence) (p : Process) : Prop :=
  match history.head? with
  | some first =>
    if settings.redisUrl then
      p.redisClient = true ∧ p.redisAvailable = some first.link.ping
    else p.redisClient = false ∧ p.redisAvailable = none
  | none => p.redisClient = false ∧ p.redisAvailable = none

/-- The check of a call, whatever the text of its error is. -/
private theorem exists_required : ∃ required : RuntimeError, ∀ settings link p,
    checkRedisRequired settings link p =
      if settings.production then
        match p.redisAvailable with
        | some false => (some required, p)
        | some true => (none, p)
        | none =>
          if (getRedis settings link p).1 then (none, (getRedis settings link p).2)
          else (some required, (getRedis settings link p).2)
      else (none, p) :=
  ⟨_, fun _ _ _ => rfl⟩

/-- Without a client, a call finds one if there is a URL, and pings it. -/
theorem reach_of_new {lost : RuntimeError} {p : Process} (hclient : p.redisClient = false)
    (havailable : p.redisAvailable = none) :
    (reach settings link lost p).2 =
      if settings.redisUrl then
        { p with redisClient := true, redisAvailable := some link.ping }
      else p := by
  obtain ⟨required, hcheck⟩ := exists_required
  cases hproduction : settings.production <;> cases hurl : settings.redisUrl <;>
    cases hping : link.ping <;> cases hcommand : link.command <;>
    simp [reach, hcheck, getRedis, hclient, havailable, hproduction, hurl, hping, hcommand]

/-- With a client, a call does not ping it again. -/
theorem reach_of_known {lost : RuntimeError} {p : Process} {available : Bool}
    (hclient : p.redisClient = true) (havailable : p.redisAvailable = some available) :
    (reach settings link lost p).2 = p := by
  obtain ⟨required, hcheck⟩ := exists_required
  cases hproduction : settings.production <;> cases available <;>
    cases hcommand : link.command <;>
    simp [reach, hcheck, getRedis, hclient, havailable, hproduction, hcommand]

/-- The client of a process is the one that its last call left. -/
theorem run_client (settings : Settings) (s : Stores) (o : Occurrence) :
    (o.run settings s).process.redisClient =
        (reach settings o.link o.call.lost s.process).2.redisClient ∧
      (o.run settings s).process.redisAvailable =
        (reach settings o.link o.call.lost s.process).2.redisAvailable := by
  obtain ⟨call, now, link⟩ := o
  cases call with
  | add jti expiresAt =>
    simp only [Occurrence.run, addTokenToBlacklist, Call.lost]
    cases reach settings link operationLost s.process with
    | mk store p =>
      cases store with
      | error e => exact ⟨rfl, rfl⟩
      | ok store =>
        cases store with
        | redis => exact ⟨rfl, rfl⟩
        | memory =>
          -- the hourly cleanup concerns the tokens only
          simp only [remember]
          split
          · exact ⟨rfl, rfl⟩
          · exact ⟨rfl, rfl⟩
  | check jti =>
    simp only [Occurrence.run, isTokenBlacklisted, Call.lost]
    cases reach settings link checkLost s.process with
    | mk store p =>
      cases store with
      | error e => exact ⟨rfl, rfl⟩
      | ok store =>
        cases store with
        | redis => exact ⟨rfl, rfl⟩
        | memory => exact ⟨rfl, rfl⟩

/-- One more call keeps what the first one found. -/
theorem Status.run {history : List Occurrence} (o : Occurrence)
    (h : Status settings history s.process) :
    Status settings (history ++ [o]) (o.run settings s).process := by
  obtain ⟨hclient, havailable⟩ := run_client settings s o
  unfold Status at h ⊢
  cases hfirst : history.head? with
  | none =>
    -- this is the first call
    obtain rfl := List.head?_eq_none_iff.mp hfirst
    simp only [List.head?_nil] at h
    simp only [List.nil_append, List.head?_cons]
    rw [hclient, havailable, reach_of_new h.1 h.2]
    by_cases hurl : settings.redisUrl = true
    · simp [hurl]
    · simp [hurl, h]
  | some first =>
    simp only [hfirst] at h
    simp only [List.head?_append, hfirst, Option.some_or]
    by_cases hurl : settings.redisUrl = true
    · rw [if_pos hurl] at h ⊢
      rw [hclient, havailable, reach_of_known h.1 h.2]
      exact h
    · rw [if_neg hurl] at h ⊢
      rw [hclient, havailable, reach_of_new h.1 h.2, if_neg hurl]
      exact h

/-- What a process knows of Redis comes from its first call. -/
theorem status_after (settings : Settings) (now : ℚ) (redis : Table ℕ ℚ)
    (history : List Occurrence) :
    Status settings history (after settings (started now redis) history).process := by
  induction history using List.reverseRecOn with
  | nil => exact ⟨rfl, rfl⟩
  | append_singleton history o ih =>
    rw [after, List.foldl_append]
    exact ih.run o

/-! ### The promise -/

/-- What the environment asks of a call. In production it does not fall back to the memory of the
process; elsewhere it does not raise, and falls back when Redis fails. -/
def KeepsPromise (settings : Settings) (link : Link) (outcome : Except RuntimeError Store) : Prop :=
  if settings.production then outcome ≠ .ok .memory
  else (∃ store, outcome = .ok store) ∧ (link.command = false → outcome = .ok .memory)

/-- The first call of a process has found Redis in such a state that a later failure is handled as
the environment asks: in production it did not answer, elsewhere it did. -/
def Prepared (settings : Settings) (history : List Occurrence) (link : Link) : Prop :=
  settings.redisUrl = true →
    if settings.production then ((history.map Occurrence.link).headD link).ping = false
    else ∀ first ∈ history.head?, first.link.ping = true

/-- The store of the first call of a process. -/
theorem reach_of_new_fst {lost : RuntimeError} {p : Process} (hclient : p.redisClient = false)
    (havailable : p.redisAvailable = none) :
    KeepsPromise settings link (reach settings link lost p).1 ↔
      (settings.redisUrl = true → settings.production = true → link.ping = false) ∨
        link.command = true := by
  obtain ⟨required, hcheck⟩ := exists_required
  cases hproduction : settings.production <;> cases hurl : settings.redisUrl <;>
    cases hping : link.ping <;> cases hcommand : link.command <;>
    simp [reach, hcheck, getRedis, KeepsPromise, hclient, havailable, hproduction, hurl, hping,
      hcommand]

/-- The store of a later call of a process that has a client. -/
theorem reach_of_known_fst {lost : RuntimeError} {p : Process} {available : Bool}
    (hclient : p.redisClient = true) (havailable : p.redisAvailable = some available) :
    KeepsPromise settings link (reach settings link lost p).1 ↔
      available = !settings.production ∨ link.command = true := by
  obtain ⟨required, hcheck⟩ := exists_required
  cases hproduction : settings.production <;> cases available <;>
    cases hcommand : link.command <;>
    simp [reach, hcheck, getRedis, KeepsPromise, hclient, havailable, hproduction, hcommand]

/-- After any calls, the next one keeps the promise exactly when the server answers its command, or
when the first call of the process has found Redis in a state in which failures are handled. -/
theorem keepsPromise_iff (settings : Settings) (now : ℚ) (redis : Table ℕ ℚ)
    (history : List Occurrence) (call : Call) (link : Link) :
    KeepsPromise settings link
        (call.store settings link (after settings (started now redis) history)) ↔
      Prepared settings history link ∨ link.command = true := by
  have hstatus := status_after settings now redis history
  rw [Call.store]
  unfold Status at hstatus
  unfold Prepared
  cases hfirst : history.head? with
  | none =>
    obtain rfl := List.head?_eq_none_iff.mp hfirst
    rw [reach_of_new_fst hstatus.1 hstatus.2]
    cases settings.production <;> simp
  | some first =>
    obtain ⟨rest, rfl⟩ := List.head?_eq_some_iff.mp hfirst
    simp only [List.head?_cons] at hstatus
    by_cases hurl : settings.redisUrl = true
    · rw [if_pos hurl] at hstatus
      rw [reach_of_known_fst hstatus.1 hstatus.2]
      cases settings.production <;> simp [hurl]
    · rw [if_neg hurl] at hstatus
      rw [reach_of_new_fst hstatus.1 hstatus.2]
      simp [hurl]

/-- In production, Redis answers the first call and not the second, which is then about the memory
of the process. -/
theorem not_keepsPromise : ¬ ∀ settings now redis history call link,
    KeepsPromise settings link
      (Call.store settings link (after settings (started now redis) history) call) := by
  intro h
  have hpromise := h ⟨true, true⟩ 0 ∅ [⟨.check 1, 0, ⟨true, true⟩⟩] (.check 1) ⟨true, false⟩
  exact hpromise (by decide +kernel)

end ProxmoxIaas.Tokens
