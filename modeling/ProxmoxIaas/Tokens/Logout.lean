import ProxmoxIaas.Foundation.Machine
import ProxmoxIaas.Tokens.Blacklist

/-!
# Logging Out

The runs of one process: logins, logouts and requests, each finding Redis reachable or not. A
logout answers success whatever happens to its write. It is durable as long as each write goes
through, and each later request with the token looks where the write went and, if that is Redis,
before the time to live of the key has passed; the time to live is cut to full seconds and ends
before the token does.

## Main results

- `durable_of_reachable`: logouts are durable in the runs whose steps look where they wrote.
- `notRejected_of_reachable`: the blacklist never has a token that was not logged out.
- `logout_durable`: both.
-/

namespace ProxmoxIaas.Tokens

/-- A write of a logout. -/
structure Write where
  jti : ℕ
  store : Store
  time : ℚ

/-- A request, or the authentication of a logout. -/
structure Served where
  jti : ℕ
  expiresAt : ℤ
  time : ℚ
  /-- A logout of the token had answered success before. -/
  loggedOut : Bool
  verdict : Verdict

/-- The process and the server, and the history. -/
structure State where
  now : ℚ
  stores : Stores
  /-- The expiry of each issued token. -/
  issued : List ℤ
  /-- The tokens of the logouts that have answered success. -/
  loggedOut : List ℕ
  writes : List Write
  served : List Served

/-- What happens. -/
inductive Event
  | tick (seconds : ℚ)
  /-- A token is issued. -/
  | login (lifetime : ℕ)
  | request (jti : ℕ) (link : Link)
  /-- A logout; `active` is what `get_current_user` finds of the user, and the check and the write
  find the server each in a state of its own. -/
  | logout (jti : ℕ) (active : Option Bool) (check write : Link)

/-- A request with a token: its verification, recorded. -/
def serve (settings : Settings) (s : State) (jti : ℕ) (expiresAt : ℤ) (link : Link) :
    Verdict × State :=
  let verified := verifyToken settings link s.now jti expiresAt s.stores
  (verified.1, { s with
    stores := { s.stores with process := verified.2 }
    served := s.served ++
      [⟨jti, expiresAt, s.now, jti ∈ s.loggedOut, verified.1⟩] })

/-- The body of `logout`, which answers success also when its write raises. -/
def logout (settings : Settings) (s : State) (jti : ℕ) (expiresAt : ℤ) (link : Link) : State :=
  let s := { s with loggedOut := s.loggedOut ++ [jti] }
  -- `if jti and exp`
  if expiresAt ≠ 0 then
    let written := addTokenToBlacklist settings link s.now jti expiresAt s.stores
    match (reach settings link operationLost s.stores.process).1 with
    | .ok store =>
      { s with stores := written.2, writes := s.writes ++ [⟨jti, store, s.now⟩] }
    | .error _ => { s with stores := written.2 }
  else s

/-- One step. -/
def step (settings : Settings) (s : State) : Event → State
  | .tick seconds => if 0 ≤ seconds then { s with now := s.now + seconds } else s
  | .login lifetime => { s with issued := s.issued ++ [⌊s.now⌋ + lifetime] }
  | .request jti link =>
    match s.issued[jti]? with
    | none => s
    | some expiresAt => (serve settings s jti expiresAt link).2
  | .logout jti active check write =>
    match s.issued[jti]? with
    | none => s
    | some expiresAt =>
      let served := serve settings s jti expiresAt check
      if getCurrentUser served.1 active = none then logout settings served.2 jti expiresAt write
      else served.2

/-- A process that has just started. -/
def machine (settings : Settings) : Machine State Event where
  init s :=
    1 ≤ s.now ∧ s.stores.process.redisClient = false ∧
      s.stores.process.redisAvailable = none ∧ s.stores.process.tokenBlacklist = ∅ ∧
      s.stores.redis = ∅ ∧ s.issued = [] ∧ s.loggedOut = [] ∧ s.writes = [] ∧ s.served = []
  step := step settings

/-- A token that was logged out is not accepted until it expires. -/
def Durable (s : State) : Prop :=
  ∀ r ∈ s.served, r.loggedOut = true → r.time ≤ r.expiresAt → r.verdict ≠ .accepted

/-- A token that was not logged out is not turned away as blacklisted. -/
def NotRejected (s : State) : Prop :=
  ∀ r ∈ s.served, r.loggedOut = false → r.verdict ≠ .blacklisted

/-- A logout of the token wrote to a store, whose key has not lapsed. -/
def State.wroteTo (s : State) (jti : ℕ) (expiresAt : ℤ) (store : Store) : Bool :=
  s.writes.any fun w =>
    w.jti = jti ∧ w.store = store ∧ (store = .redis → s.now ≤ w.time + ttl w.time expiresAt)

/-- A request with a token that was logged out and has not expired looks where the logout
wrote. -/
def looksWhereWritten (settings : Settings) (s : State) (jti : ℕ) (expiresAt : ℤ) (link : Link) :
    Bool :=
  jti ∉ s.loggedOut || expiresAt < s.now ||
    match (reach settings link checkLost s.stores.process).1 with
    | .ok store => s.wroteTo jti expiresAt store
    | .error _ => true

/-- The write of a logout goes through. -/
def writes (settings : Settings) (s : State) (link : Link) : Bool :=
  (reach settings link operationLost s.stores.process).1.toOption.isSome

/-- Requests look where the logouts wrote, and the writes of logouts go through. -/
def keepsTrack (settings : Settings) (s : State) : Event → Bool
  | .tick _ | .login _ => true
  | .request jti link =>
    s.issued[jti]?.all fun expiresAt => looksWhereWritten settings s jti expiresAt link
  | .logout jti active check write =>
    s.issued[jti]?.all fun expiresAt =>
      looksWhereWritten settings s jti expiresAt check &&
        (getCurrentUser (serve settings s jti expiresAt check).1 active ≠ none ||
          writes settings (serve settings s jti expiresAt check).2 write)

/-! ### What every run keeps -/

/-- The stores have tokens that were logged out only. -/
structure Blacklist (s : State) : Prop where
  redis : ∀ jti, (s.stores.redis.get? jti).isSome → jti ∈ s.loggedOut
  memory : ∀ jti, (s.stores.process.tokenBlacklist.get? jti).isSome → jti ∈ s.loggedOut

/-- A check that finds a token in a store. -/
theorem isTokenBlacklisted_eq_true {settings : Settings} {link : Link} {now : ℚ} {jti : ℕ}
    {s : Stores} (h : (isTokenBlacklisted settings link now jti s).1 = .ok true) :
    (s.redis.get? jti).isSome ∨ (s.process.tokenBlacklist.get? jti).isSome := by
  have hprocess := isTokenBlacklisted_tokenBlacklist settings link now jti s
  unfold isTokenBlacklisted at h hprocess
  split at h
  case h_1 => cases h
  case h_2 p heq =>
    left
    have hexists : existsInRedis now s.redis jti = true := Except.ok.inj h
    cases hget : s.redis.get? jti with
    | none => simp [existsInRedis, hget] at hexists
    | some deadline => rfl
  case h_3 p heq =>
    right
    rw [heq] at hprocess
    dsimp only at hprocess h
    rw [← hprocess]
    exact Except.ok.inj h

theorem verifyToken_eq_blacklisted {settings : Settings} {link : Link} {now : ℚ} {jti : ℕ}
    {expiresAt : ℤ} {s : Stores}
    (h : (verifyToken settings link now jti expiresAt s).1 = .blacklisted) :
    (isTokenBlacklisted settings link now jti s).1 = .ok true := by
  unfold verifyToken at h
  split at h
  case isTrue => cases h
  case isFalse =>
    split at h
    case h_1 => cases h
    case h_2 p heq => rw [heq]
    case h_3 => cases h

theorem verifyToken_eq_accepted {settings : Settings} {link : Link} {now : ℚ} {jti : ℕ}
    {expiresAt : ℤ} {s : Stores}
    (h : (verifyToken settings link now jti expiresAt s).1 = .accepted) :
    (isTokenBlacklisted settings link now jti s).1 = .ok false := by
  unfold verifyToken at h
  split at h
  case isTrue => cases h
  case isFalse =>
    split at h
    case h_1 => cases h
    case h_2 => cases h
    case h_3 p heq => rw [heq]

section Served

variable {settings : Settings} {s : State} {jti : ℕ} {expiresAt : ℤ} {link : Link}

theorem Blacklist.serve (h : Blacklist s) : Blacklist (serve settings s jti expiresAt link).2 where
  redis := h.redis
  memory jti' hjti := h.memory jti' (by
    simpa only [Tokens.serve, verifyToken_tokenBlacklist] using hjti)

theorem NotRejected.serve (h : NotRejected s) (hblacklist : Blacklist s) :
    NotRejected (serve settings s jti expiresAt link).2 := by
  intro r hr hloggedOut hverdict
  rcases List.mem_append.mp hr with hr | hr
  · exact h r hr hloggedOut hverdict
  · rw [List.mem_singleton.mp hr] at hloggedOut hverdict
    have hnot : jti ∉ s.loggedOut := by simpa using hloggedOut
    rcases isTokenBlacklisted_eq_true (verifyToken_eq_blacklisted hverdict) with hstored | hstored
    · exact hnot (hblacklist.redis jti hstored)
    · exact hnot (hblacklist.memory jti hstored)

/-- A logout leaves the history of requests alone. -/
@[simp]
theorem logout_served : (logout settings s jti expiresAt link).served = s.served := by
  simp only [logout]
  split
  case isTrue => split <;> rfl
  case isFalse => rfl

/-- What a logout leaves, by the store that its write reaches: nothing is written, -/
theorem logout_eq_of_error {e : RuntimeError} {p : Process} (hexpires : expiresAt ≠ 0)
    (hreach : reach settings link operationLost s.stores.process = (.error e, p)) :
    logout settings s jti expiresAt link =
      { s with
        stores := { s.stores with process := p }
        loggedOut := s.loggedOut ++ [jti] } := by
  simp [logout, hexpires, addTokenToBlacklist, hreach]

/-- the key is set, -/
theorem logout_eq_of_redis {p : Process} (hexpires : expiresAt ≠ 0)
    (hreach : reach settings link operationLost s.stores.process = (.ok .redis, p)) :
    logout settings s jti expiresAt link =
      { s with
        stores :=
          { process := p
            redis := s.stores.redis.insert jti (s.now + ttl s.now expiresAt) }
        loggedOut := s.loggedOut ++ [jti]
        writes := s.writes ++ [⟨jti, .redis, s.now⟩] } := by
  simp [logout, hexpires, addTokenToBlacklist, hreach]

/-- or the token is remembered. -/
theorem logout_eq_of_memory {p : Process} (hexpires : expiresAt ≠ 0)
    (hreach : reach settings link operationLost s.stores.process = (.ok .memory, p)) :
    logout settings s jti expiresAt link =
      { s with
        stores := { s.stores with process := remember s.now jti expiresAt p }
        loggedOut := s.loggedOut ++ [jti]
        writes := s.writes ++ [⟨jti, .memory, s.now⟩] } := by
  simp [logout, hexpires, addTokenToBlacklist, hreach]

theorem Blacklist.logout (h : Blacklist s) :
    Blacklist (logout settings s jti expiresAt link) := by
  have hmore : ∀ jti', jti' ∈ s.loggedOut → jti' ∈ s.loggedOut ++ [jti] := fun _ hjti =>
    List.mem_append_left _ hjti
  have hself : jti ∈ s.loggedOut ++ [jti] := List.mem_append_right _ (List.mem_singleton.mpr rfl)
  by_cases hexpires : expiresAt = 0
  · have heq : Tokens.logout settings s jti expiresAt link =
        { s with loggedOut := s.loggedOut ++ [jti] } := by
      simp [Tokens.logout, hexpires]
    rw [heq]
    exact ⟨fun jti' hjti => hmore _ (h.redis jti' hjti), fun jti' hjti =>
      hmore _ (h.memory jti' hjti)⟩
  · have hprocess := reach_tokenBlacklist settings link operationLost s.stores.process
    rcases hreach : reach settings link operationLost s.stores.process with ⟨e | _ | _, p⟩ <;>
      rw [hreach] at hprocess
    · rw [logout_eq_of_error hexpires hreach]
      exact ⟨fun jti' hjti => hmore _ (h.redis jti' hjti), fun jti' hjti =>
        hmore _ (h.memory jti' (hprocess ▸ hjti))⟩
    · rw [logout_eq_of_redis hexpires hreach]
      refine ⟨fun jti' hjti => ?_, fun jti' hjti => hmore _ (h.memory jti' (hprocess ▸ hjti))⟩
      dsimp only at hjti ⊢
      rw [Table.get?_insert] at hjti
      split at hjti
      case isTrue heq => exact heq ▸ hself
      case isFalse => exact hmore _ (h.redis jti' hjti)
    · rw [logout_eq_of_memory hexpires hreach]
      refine ⟨fun jti' hjti => hmore _ (h.redis jti' hjti), fun jti' hjti => ?_⟩
      obtain ⟨e, he⟩ := Option.isSome_iff_exists.mp hjti
      rcases get?_of_remember he with heq | hold
      · exact heq ▸ hself
      · rw [hprocess] at hold
        exact hmore _ (h.memory jti' (by rw [hold]; rfl))

end Served

/-- The blacklist never turns away a token that was not logged out, whatever happens. -/
theorem notRejected_of_reachable {settings : Settings} {ok : State → Event → Prop} {s : State}
    (h : (machine settings).Reachable ok s) : Blacklist s ∧ NotRejected s := by
  refine h.invariant (fun s => Blacklist s ∧ NotRejected s) (fun s hinit => ?_)
    fun s e hs _ => ?_
  · obtain ⟨-, -, -, hmemory, hredis, -, -, -, hserved⟩ := hinit
    refine ⟨⟨fun jti hjti => ?_, fun jti hjti => ?_⟩, fun r hr => ?_⟩
    · simp [hredis] at hjti
    · simp [hmemory] at hjti
    · simp [hserved] at hr
  · cases e with
    | tick seconds =>
      show Blacklist (if _ then _ else _) ∧ NotRejected (if _ then _ else _)
      split
      case isTrue => exact ⟨⟨hs.1.redis, hs.1.memory⟩, hs.2⟩
      case isFalse => exact hs
    | login lifetime => exact ⟨⟨hs.1.redis, hs.1.memory⟩, hs.2⟩
    | request jti link =>
      cases hissued : s.issued[jti]? with
      | none => simpa only [machine, step, hissued] using hs
      | some expiresAt =>
        simp only [machine, step, hissued]
        exact ⟨hs.1.serve, hs.2.serve hs.1⟩
    | logout jti active check write =>
      cases hissued : s.issued[jti]? with
      | none => simpa only [machine, step, hissued] using hs
      | some expiresAt =>
        have hserved : NotRejected (serve settings s jti expiresAt check).2 := hs.2.serve hs.1
        simp only [machine, step, hissued]
        split
        case isTrue =>
          refine ⟨hs.1.serve.logout, fun r hr => hserved r ?_⟩
          rwa [logout_served] at hr
        case isFalse => exact ⟨hs.1.serve, hserved⟩

/-! ### Runs that look where they wrote -/

/-- What a write has left in its store, as long as the token has not expired. -/
def Held (s : State) (w : Write) (expiresAt : ℤ) : Prop :=
  match w.store with
  | .redis => s.stores.redis.get? w.jti = some (w.time + ttl w.time expiresAt)
  | .memory => s.stores.process.tokenBlacklist.get? w.jti = some expiresAt

/-- What the runs keep whose steps look where they wrote. -/
structure Tracks (s : State) : Prop where
  now_pos : 1 ≤ s.now
  issued_pos : ∀ expiresAt ∈ s.issued, 1 ≤ expiresAt
  logged : ∀ w ∈ s.writes, w.jti ∈ s.loggedOut ∧ w.jti < s.issued.length
  held : ∀ w ∈ s.writes, ∀ expiresAt, s.issued[w.jti]? = some expiresAt → s.now ≤ expiresAt →
    Held s w expiresAt
  durable : Durable s

section Tracked

variable {settings : Settings} {s : State} {jti : ℕ} {expiresAt : ℤ} {link : Link}

/-- A request that looks where the logout wrote does not accept the token. -/
theorem Tracks.verdict_ne (h : Tracks s) (hissued : s.issued[jti]? = some expiresAt)
    (hlooks : looksWhereWritten settings s jti expiresAt link = true) (hlogged : jti ∈ s.loggedOut)
    (hlive : s.now ≤ expiresAt) :
    (verifyToken settings link s.now jti expiresAt s.stores).1 ≠ .accepted := by
  intro haccepted
  have hcheck := verifyToken_eq_accepted haccepted
  have hprocess := reach_tokenBlacklist settings link checkLost s.stores.process
  simp only [looksWhereWritten, hlogged, not_true_eq_false, decide_false, not_lt.mpr hlive,
    Bool.false_or] at hlooks
  unfold isTokenBlacklisted at hcheck
  rcases hreach : reach settings link checkLost s.stores.process with ⟨e | store, p⟩
  · rw [hreach] at hcheck
    cases hcheck
  · rw [hreach] at hlooks hcheck hprocess
    obtain ⟨w, hw, hmatch⟩ := List.any_eq_true.mp hlooks
    simp only [decide_eq_true_eq] at hmatch
    obtain ⟨rfl, rfl, hlapse⟩ := hmatch
    have hheld := h.held w hw expiresAt hissued hlive
    cases hstore : w.store with
    | redis =>
      simp only [Held, hstore] at hheld
      simp only [hstore, existsInRedis, hheld] at hcheck
      simpa [hlapse hstore] using Except.ok.inj hcheck
    | memory =>
      simp only [Held, hstore] at hheld
      dsimp only at hprocess
      simp [hstore, hprocess, hheld] at hcheck

theorem Tracks.serve (h : Tracks s) (hissued : s.issued[jti]? = some expiresAt)
    (hlooks : looksWhereWritten settings s jti expiresAt link = true) :
    Tracks (serve settings s jti expiresAt link).2 where
  now_pos := h.now_pos
  issued_pos := h.issued_pos
  logged := h.logged
  held w hw e he hlive := by
    have hheld := h.held w hw e he hlive
    unfold Held at hheld ⊢
    cases hstore : w.store with
    | redis =>
      simp only [hstore] at hheld ⊢
      exact hheld
    | memory =>
      simpa only [hstore, Tokens.serve, verifyToken_tokenBlacklist] using hheld
  durable := by
    intro r hr hlogged hlive
    rcases List.mem_append.mp hr with hr | hr
    · exact h.durable r hr hlogged hlive
    · rw [List.mem_singleton.mp hr] at hlogged hlive ⊢
      exact h.verdict_ne hissued hlooks (by simpa using hlogged) hlive

/-- A logout whose write goes through adds the token to the store that the write names. Any other
write for the token was before it expired. -/
theorem Tracks.logout (h : Tracks s) (hissued : s.issued[jti]? = some expiresAt)
    (hfresh : jti ∈ s.loggedOut → expiresAt < s.now) (hwrites : writes settings s link = true) :
    Tracks (logout settings s jti expiresAt link) := by
  have hpositive := h.issued_pos expiresAt (List.mem_of_getElem? hissued)
  have hexpires : expiresAt ≠ 0 := by omega
  have hlt : jti < s.issued.length := (List.getElem?_eq_some_iff.mp hissued).1
  have hprocess := reach_tokenBlacklist settings link operationLost s.stores.process
  -- the writes of before are for other tokens, or for one that has expired
  have hother : ∀ w ∈ s.writes, ∀ e, s.issued[w.jti]? = some e → s.now ≤ e → w.jti ≠ jti := by
    rintro w hw e he hlive rfl
    rw [hissued] at he
    cases he
    exact absurd (hfresh (h.logged w hw).1) (not_lt.mpr hlive)
  have hlogged : ∀ store, ∀ w ∈ s.writes ++ [⟨jti, store, s.now⟩],
      w.jti ∈ s.loggedOut ++ [jti] ∧ w.jti < s.issued.length := by
    intro store w hw
    rcases List.mem_append.mp hw with hw | hw
    · exact ⟨List.mem_append_left _ (h.logged w hw).1, (h.logged w hw).2⟩
    · rw [List.mem_singleton.mp hw]
      exact ⟨List.mem_append_right _ (List.mem_singleton.mpr rfl), hlt⟩
  rcases hreach : reach settings link operationLost s.stores.process with ⟨e | _ | _, p⟩ <;>
    rw [hreach] at hprocess
  · simp [writes, hreach, Except.toOption] at hwrites
  · rw [logout_eq_of_redis hexpires hreach]
    refine ⟨h.now_pos, h.issued_pos, hlogged .redis, fun w hw e he hlive => ?_, h.durable⟩
    rcases List.mem_append.mp hw with hw | hw
    · have hne := hother w hw e he hlive
      have hheld := h.held w hw e he hlive
      unfold Held at hheld ⊢
      cases hstore : w.store with
      | redis =>
        simp only [hstore] at hheld ⊢
        rw [Table.get?_insert, if_neg hne, hheld]
      | memory =>
        simp only [hstore] at hheld ⊢
        exact hprocess ▸ hheld
    · rw [List.mem_singleton.mp hw] at he ⊢
      rw [hissued] at he
      cases he
      simp [Held]
  · rw [logout_eq_of_memory hexpires hreach]
    refine ⟨h.now_pos, h.issued_pos, hlogged .memory, fun w hw e he hlive => ?_, h.durable⟩
    rcases List.mem_append.mp hw with hw | hw
    · have hne := hother w hw e he hlive
      have hheld := h.held w hw e he hlive
      unfold Held at hheld ⊢
      cases hstore : w.store with
      | redis => simpa only [hstore] using hheld
      | memory =>
        simp only [hstore] at hheld ⊢
        refine get?_remember ?_ hlive
        rw [Table.get?_insert, if_neg hne]
        exact hprocess ▸ hheld
    · rw [List.mem_singleton.mp hw] at he ⊢
      rw [hissued] at he
      cases he
      refine get?_remember ?_ hlive
      rw [Table.get?_insert, if_pos rfl]

theorem Tracks.tick (h : Tracks s) {seconds : ℚ} (hseconds : 0 ≤ seconds) :
    Tracks { s with now := s.now + seconds } where
  now_pos := h.now_pos.trans (le_add_of_nonneg_right hseconds)
  issued_pos := h.issued_pos
  logged := h.logged
  held w hw e he hlive := h.held w hw e he ((le_add_of_nonneg_right hseconds).trans hlive)
  durable := h.durable

theorem Tracks.login (h : Tracks s) (lifetime : ℕ) :
    Tracks { s with issued := s.issued ++ [⌊s.now⌋ + lifetime] } where
  now_pos := h.now_pos
  issued_pos e he := by
    have hnow : 1 ≤ ⌊s.now⌋ := Int.le_floor.mpr (by exact_mod_cast h.now_pos)
    rcases List.mem_append.mp he with he | he
    · exact h.issued_pos e he
    · rw [List.mem_singleton.mp he]
      omega
  logged w hw := by
    have hlogged := h.logged w hw
    refine ⟨hlogged.1, ?_⟩
    simpa using hlogged.2.trans (Nat.lt_succ_self _)
  held w hw e he hlive := by
    rw [List.getElem?_append_left (h.logged w hw).2] at he
    exact h.held w hw e he hlive
  durable := h.durable

end Tracked

theorem tracks_step {settings : Settings} {s : State} {e : Event} (h : Tracks s)
    (hok : keepsTrack settings s e = true) : Tracks (step settings s e) := by
  cases e with
  | tick seconds =>
    show Tracks (if _ then _ else _)
    split
    case isTrue hseconds => exact h.tick hseconds
    case isFalse => exact h
  | login lifetime => exact h.login lifetime
  | request jti link =>
    cases hissued : s.issued[jti]? with
    | none => simpa only [step, hissued] using h
    | some expiresAt =>
      simp only [keepsTrack, hissued, Option.all_some] at hok
      simpa only [step, hissued] using h.serve hissued hok
  | logout jti active check write =>
    cases hissued : s.issued[jti]? with
    | none => simpa only [step, hissued] using h
    | some expiresAt =>
      simp only [keepsTrack, hissued, Option.all_some, Bool.and_eq_true, Bool.or_eq_true,
        decide_eq_true_eq] at hok
      obtain ⟨hlooks, hwrites⟩ := hok
      have hserved := h.serve hissued hlooks
      simp only [step, hissued]
      split
      case isTrue huser =>
        refine hserved.logout hissued (fun hlogged => ?_) (hwrites.resolve_left (by simpa using huser))
        -- a token that is accepted again has expired
        by_contra hlive
        have hverdict := h.verdict_ne hissued hlooks hlogged (not_lt.mp hlive)
        have hrefused : getCurrentUser (serve settings s jti expiresAt check).1 active ≠ none := by
          cases hcase : (serve settings s jti expiresAt check).1 with
          | accepted => exact absurd hcase hverdict
          | expired => simp [getCurrentUser]
          | blacklisted => simp [getCurrentUser]
          | raised e => simp [getCurrentUser]
        exact hrefused huser
      case isFalse => exact hserved

/-- Logouts are durable in every run in which writes go through and requests look where they
went. -/
theorem durable_of_reachable {settings : Settings} {s : State}
    (h : (machine settings).Reachable (fun s e => keepsTrack settings s e = true) s) :
    Durable s := by
  refine (h.invariant Tracks (fun s hinit => ?_) fun s e hs hok => tracks_step hs hok).durable
  obtain ⟨hnow, -, -, -, -, hissued, -, hwrites, hserved⟩ := hinit
  refine ⟨hnow, ?_, ?_, ?_, ?_⟩ <;> simp [hissued, hwrites, hserved, Durable]

/-- When logouts are durable; and tokens that were not logged out are never turned away as
blacklisted. -/
theorem logout_durable (settings : Settings) :
    (∀ s, (machine settings).Reachable (fun s e => keepsTrack settings s e = true) s →
      Durable s) ∧
    ∀ s, (machine settings).Reachable Machine.anyStep s → NotRejected s :=
  ⟨fun _ h => durable_of_reachable h, fun _ h => (notRejected_of_reachable h).2⟩

/-- A process that has just started, with Redis configured. -/
def smallSettings : Settings := ⟨false, true⟩

/-- Its state. -/
def smallState : State := ⟨1000, ⟨⟨false, none, ∅, 1000⟩, ∅⟩, [], [], [], []⟩

/-- Redis answers everything, or only pings. -/
def up : Link := ⟨true, true⟩

/-- Redis does not answer. -/
def down : Link := ⟨false, false⟩

/-- A token is logged out while Redis does not answer a command, and turned away from memory when
it does not answer again; another is logged out in Redis. -/
theorem logout_durable_small :
    Durable ((machine smallSettings).run smallState
      [.login 600, .login 600, .request 0 up, .logout 0 (some true) up ⟨true, false⟩,
        .tick 30, .request 0 ⟨true, false⟩, .logout 1 (some true) up up, .tick (1 / 2),
        .request 1 up]) ∧
    NotRejected ((machine smallSettings).run smallState [.login 600, .request 0 up]) := by
  have hinit : (machine smallSettings).init smallState := by
    refine ⟨?_, rfl, rfl, rfl, rfl, rfl, rfl, rfl, rfl⟩
    decide +kernel
  exact ⟨(logout_durable smallSettings).1 _ ((Machine.Reachable.start hinit).run (by decide +kernel)),
    (logout_durable smallSettings).2 _ (Machine.reachable_run hinit _)⟩

/-- A token is logged out while Redis does not answer the write, and accepted when it answers
again. -/
theorem not_durable : ¬ ∀ settings s,
    (machine settings).Reachable Machine.anyStep s → Durable s := by
  intro h
  have hinit : (machine smallSettings).init smallState := by
    refine ⟨?_, rfl, rfl, rfl, rfl, rfl, rfl, rfl, rfl⟩
    decide +kernel
  have hdurable := h smallSettings _ (Machine.reachable_run hinit
    [.login 600, .logout 0 (some true) up ⟨true, false⟩, .tick 30, .request 0 up])
  have haccepted : ∃ r ∈ ((machine smallSettings).run smallState
      [.login 600, .logout 0 (some true) up ⟨true, false⟩, .tick 30, .request 0 up]).served,
      r.loggedOut = true ∧ r.time ≤ r.expiresAt ∧ r.verdict = .accepted := by
    decide +kernel
  obtain ⟨r, hr, hlogged, hlive, hverdict⟩ := haccepted
  exact hdurable r hr hlogged hlive hverdict

end ProxmoxIaas.Tokens
