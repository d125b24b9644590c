import ProxmoxIaas.RateLimit.Model
import Mathlib.Algebra.Order.Ring.Rat
import Mathlib.Tactic.Linarith
import Mathlib.Tactic.NormNum

/-!
# The In-Memory Limiter is a Sliding Window

The answers of `InMemoryRateLimiter.is_allowed` over a whole history of calls. The lists that
the limiter keeps are pruned at every call, so they are compared with the log of all the times
at which a request of the key was allowed: the list and the log agree on every window that ends
no earlier than the last reading of the clock (`Tracks`).

## Main results

- `tracks_after`: the lists of the limiter track the logs.
- `answers_filter_key`: the calls of one key are answered as if there were no others.
- `answers_congr`: the answers depend on the lists only through what the next calls keep.
- `isSlidingWindow`: the limiter is a sliding window.
-/

namespace ProxmoxIaas.RateLimit.InMemoryRateLimiter

/-- `__init__`. -/
def init : Requests := fun _ => []

/-- The lists after a sequence of calls. -/
def after (requests : Requests) (calls : List Call) : Requests :=
  calls.foldl (fun requests c => (isAllowed requests c).2) requests

/-- The answers to a sequence of calls, each with its call. -/
def answers (requests : Requests) : List Call → List (Call × Answer)
  | [] => []
  | c :: calls => (c, (isAllowed requests c).1) :: answers (isAllowed requests c).2 calls

/-- The times at which requests of a key were allowed. -/
def allowedTimes (key : String) (trace : List (Call × Answer)) : List ℚ :=
  (trace.filter fun r => r.1.key = key ∧ r.2.isAllowed).map fun r => r.1.decided

/-- The readings of the clock, in the order in which they were made. -/
def readings (calls : List Call) : List ℚ := calls.flatMap fun c => [c.started, c.decided]

/-- The clock does not go back. -/
def Chronological (calls : List Call) : Prop := (readings calls).Pairwise (· ≤ ·)

/-- All calls of one key use the same limit. -/
structure Uniform (calls : List Call) : Prop where
  positive : ∀ c ∈ calls, 1 ≤ c.maxRequests ∧ 0 < c.periodSeconds
  same : ∀ c ∈ calls, ∀ c' ∈ calls, c'.key = c.key →
    c'.maxRequests = c.maxRequests ∧ c'.periodSeconds = c.periodSeconds

theorem after_append (requests : Requests) (calls calls' : List Call) :
    after requests (calls ++ calls') = after (after requests calls) calls' :=
  List.foldl_append ..

theorem answers_append (requests : Requests) (calls calls' : List Call) :
    answers requests (calls ++ calls') =
      answers requests calls ++ answers (after requests calls) calls' := by
  induction calls generalizing requests with
  | nil => rfl
  | cons c calls ih => simp [answers, after, ih]

@[simp]
theorem allowedTimes_append (key : String) (trace trace' : List (Call × Answer)) :
    allowedTimes key (trace ++ trace') = allowedTimes key trace ++ allowedTimes key trace' := by
  simp [allowedTimes]

theorem readings_append (calls calls' : List Call) :
    readings (calls ++ calls') = readings calls ++ readings calls' :=
  List.flatMap_append

/-- The requests that a call finds after its own cleanup. -/
def kept (requests : Requests) (c : Call) : List ℚ :=
  SlidingWindow.recent (c.periodSeconds : ℚ) c.started (requests c.key)

/-- The answer is decided by the requests that the cleanup keeps. -/
theorem isAllowed_fst (requests : Requests) (c : Call) :
    (isAllowed requests c).1 =
      if ((kept requests c).length : ℤ) ≥ c.maxRequests then
        match kept requests c with
        | [] => .raised .indexError
        | first :: _ => .rejected (retryAfter c.periodSeconds (c.decided - first))
      else .allowed (c.maxRequests - (kept requests c).length - 1) := by
  simp only [isAllowed, cleanupOldRequests, Function.update_self, kept]
  by_cases hfull :
      ((SlidingWindow.recent (c.periodSeconds : ℚ) c.started (requests c.key)).length : ℤ) ≥
        c.maxRequests
  · simp only [hfull, if_true]
    split
    case h_1 hnil => rw [hnil]
    case h_2 first rest hcons => rw [hcons]
  · simp only [hfull, if_false]

/-- Only an allowed request is recorded. -/
theorem isAllowed_snd_self (requests : Requests) (c : Call) :
    (isAllowed requests c).2 c.key =
      kept requests c ++ if (isAllowed requests c).1.isAllowed then [c.decided] else [] := by
  simp only [isAllowed, cleanupOldRequests, Function.update_self, kept]
  split
  case isTrue => split <;> simp [Answer.isAllowed]
  case isFalse => simp [Answer.isAllowed]

/-- A call leaves the lists of the other keys alone. -/
theorem isAllowed_snd_of_ne (requests : Requests) (c : Call) {key : String} (h : c.key ≠ key) :
    (isAllowed requests c).2 key = requests key := by
  have hne : key ≠ c.key := fun heq => h heq.symm
  simp only [isAllowed, cleanupOldRequests, Function.update_self]
  split
  case isTrue => split <;> exact Function.update_of_ne hne _ _
  case isFalse => simp [hne]

theorem isAllowed_iff (requests : Requests) (c : Call) :
    (isAllowed requests c).1.isAllowed = true ↔
      ((kept requests c).length : ℤ) < c.maxRequests := by
  rw [isAllowed_fst]
  split
  case isTrue h =>
    constructor
    · intro hallowed
      split at hallowed <;> cases hallowed
    · intro hlt
      omega
  case isFalse h => simp [Answer.isAllowed, not_le.mp h]

/-- A rejection comes from a full list, and names the wait until its first entry is too old. -/
theorem isAllowed_eq_rejected {requests : Requests} {c : Call} {wait : ℤ}
    (h : (isAllowed requests c).1 = .rejected wait) :
    ∃ first rest, kept requests c = first :: rest ∧
      c.maxRequests ≤ (kept requests c).length ∧
      wait = retryAfter c.periodSeconds (c.decided - first) := by
  rw [isAllowed_fst] at h
  split at h
  case isTrue hfull =>
    split at h
    case h_1 => cases h
    case h_2 first rest heq =>
      cases h
      exact ⟨first, rest, heq, hfull, rfl⟩
  case isFalse => cases h

theorem exists_of_isRejected {a : Answer} (h : a.isRejected = true) :
    ∃ wait, a = .rejected wait := by
  cases a with
  | allowed => cases h
  | rejected wait => exact ⟨wait, rfl⟩
  | raised => cases h

/-! ### One key among others -/

/-- The calls of one key are answered as if there were no others. -/
theorem answers_filter_key (key : String) (calls : List Call) {requests requests' : Requests}
    (h : requests key = requests' key) :
    (answers requests calls).filter (fun r => r.1.key = key) =
      answers requests' (calls.filter fun c => c.key = key) := by
  induction calls generalizing requests requests' with
  | nil => rfl
  | cons c calls ih =>
    by_cases hkey : c.key = key
    · have hkept : kept requests c = kept requests' c := by simp [kept, hkey, h]
      have hanswer : (isAllowed requests c).1 = (isAllowed requests' c).1 := by
        rw [isAllowed_fst, isAllowed_fst, hkept]
      have hnext : (isAllowed requests c).2 key = (isAllowed requests' c).2 key := by
        rw [← hkey, isAllowed_snd_self, isAllowed_snd_self, hkept, hanswer]
      simp [answers, hkey, hanswer, ih hnext]
    · have hnext : (isAllowed requests c).2 key = requests' key := by
        rw [isAllowed_snd_of_ne _ _ hkey, h]
      simp [answers, hkey, ih hnext]

/-- Lists that the cleanups of the next calls prune to the same get the same answers. -/
theorem answers_congr (calls : List Call) {requests requests' : Requests}
    (h : ∀ c ∈ calls, kept requests c = kept requests' c) :
    answers requests calls = answers requests' calls := by
  induction calls generalizing requests requests' with
  | nil => rfl
  | cons c calls ih =>
    have hkept := h c List.mem_cons_self
    have hanswer : (isAllowed requests c).1 = (isAllowed requests' c).1 := by
      rw [isAllowed_fst, isAllowed_fst, hkept]
    have hnext : ∀ c' ∈ calls,
        kept (isAllowed requests c).2 c' = kept (isAllowed requests' c).2 c' := by
      intro c' hc'
      by_cases hkey : c.key = c'.key
      · rw [kept, kept, ← hkey, isAllowed_snd_self, isAllowed_snd_self, hkept, hanswer]
      · rw [kept, kept, isAllowed_snd_of_ne _ _ hkey, isAllowed_snd_of_ne _ _ hkey]
        exact h c' (List.mem_cons_of_mem _ hc')
    rw [answers, answers, hanswer, ih hnext]

/-- Calls of other keys leave the list of a key alone. -/
theorem after_of_ne (key : String) (calls : List Call) (requests : Requests)
    (h : ∀ c ∈ calls, c.key ≠ key) : after requests calls key = requests key := by
  induction calls generalizing requests with
  | nil => rfl
  | cons c calls ih =>
    have hrest : ∀ c' ∈ calls, c'.key ≠ key := fun c' hc' => h c' (List.mem_cons_of_mem _ hc')
    show after (isAllowed requests c).2 calls key = requests key
    rw [ih _ hrest, isAllowed_snd_of_ne _ _ (h c List.mem_cons_self)]

/-! ### The lists and the logs -/

/-- The list that the limiter keeps for a key, against the log of the key and the readings of the
clock so far. -/
structure Tracks (period : ℤ) (maxRequests : ℤ) (seen log recorded : List ℚ) : Prop where
  /-- The list has what a window needs that ends no earlier than the last reading. -/
  recent_eq : ∀ now, (∀ t ∈ seen, t ≤ now) →
    SlidingWindow.recent (period : ℚ) now recorded = SlidingWindow.recent (period : ℚ) now log
  length_le : (recorded.length : ℤ) ≤ maxRequests
  bounded : SlidingWindow.Bounded (period : ℚ) maxRequests.toNat log

/-- A call of the key keeps the list and the log in step. -/
theorem Tracks.call {requests : Requests} {c : Call} {seen log : List ℚ}
    (h : Tracks c.periodSeconds c.maxRequests seen log (requests c.key))
    (hseen : ∀ t ∈ seen, t ≤ c.started) (hclock : c.started ≤ c.decided) :
    Tracks c.periodSeconds c.maxRequests (seen ++ [c.started, c.decided])
      (log ++ if (isAllowed requests c).1.isAllowed then [c.decided] else [])
      ((isAllowed requests c).2 c.key) := by
  have hlength : (kept requests c).length ≤ (requests c.key).length := List.length_filter_le ..
  have hbound := h.length_le
  have hkept : kept requests c = SlidingWindow.recent (c.periodSeconds : ℚ) c.started log :=
    h.recent_eq c.started hseen
  refine ⟨fun now hnow => ?_, ?_, ?_⟩
  · have hstarted : c.started ≤ now := hnow _ (by simp)
    have hold : SlidingWindow.recent (c.periodSeconds : ℚ) now (requests c.key) =
        SlidingWindow.recent (c.periodSeconds : ℚ) now log :=
      h.recent_eq now fun t ht => (hseen t ht).trans hstarted
    rw [isAllowed_snd_self, SlidingWindow.recent_append, SlidingWindow.recent_append, ← hold, kept,
      SlidingWindow.recent_recent hstarted]
  · rw [isAllowed_snd_self]
    by_cases hallowed : (isAllowed requests c).1.isAllowed
    · -- an allowed request finds room in the list
      have hroom := (isAllowed_iff requests c).mp hallowed
      simp only [hallowed, if_true, List.length_append, List.length_singleton]
      omega
    · simp only [hallowed, Bool.false_eq_true, if_false, List.append_nil]
      omega
  · by_cases hallowed : (isAllowed requests c).1.isAllowed
    · have hroom := (isAllowed_iff requests c).mp hallowed
      simp only [hallowed, if_true]
      refine h.bounded.append hclock ?_
      rw [← hkept]
      omega
    · simpa only [hallowed, Bool.false_eq_true, if_false, List.append_nil] using h.bounded

/-- A call of another key changes neither the list nor the log. -/
theorem Tracks.other {period maxRequests : ℤ} {key : String} {requests : Requests} {c : Call}
    {seen log : List ℚ} (h : Tracks period maxRequests seen log (requests key))
    (hkey : c.key ≠ key) :
    Tracks period maxRequests (seen ++ [c.started, c.decided]) log
      ((isAllowed requests c).2 key) := by
  rw [isAllowed_snd_of_ne _ _ hkey]
  refine ⟨fun now hnow => h.recent_eq now fun t ht => hnow t ?_, h.length_le, h.bounded⟩
  exact List.mem_append_left _ ht

theorem Chronological.left {calls calls' : List Call} (h : Chronological (calls ++ calls')) :
    Chronological calls := by
  rw [Chronological, readings_append] at h
  exact (List.pairwise_append.mp h).1

/-- The readings before a call are no later than its own, which are in order. -/
theorem Chronological.call {calls later : List Call} {c : Call}
    (h : Chronological (calls ++ c :: later)) :
    (∀ t ∈ readings calls, t ≤ c.started) ∧ c.started ≤ c.decided ∧
      ∀ c' ∈ later, c.decided ≤ c'.started := by
  rw [Chronological, readings_append] at h
  obtain ⟨-, hcall, hcross⟩ := List.pairwise_append.mp h
  have hcons : readings (c :: later) = c.started :: c.decided :: readings later := rfl
  rw [hcons, List.pairwise_cons, List.pairwise_cons] at hcall
  refine ⟨fun t ht => hcross t ht c.started (by simp [hcons]), hcall.1 _ (by simp), ?_⟩
  intro c' hc'
  exact hcall.2.1 _ (List.mem_flatMap.mpr ⟨c', hc', by simp⟩)

/-- After every history, the list of a key tracks the log of the key. -/
theorem tracks_after {key : String} {period maxRequests : ℤ} {calls : List Call}
    (hmax : 1 ≤ maxRequests) (htime : Chronological calls)
    (hlimit : ∀ c ∈ calls, c.key = key →
      c.maxRequests = maxRequests ∧ c.periodSeconds = period) :
    Tracks period maxRequests (readings calls) (allowedTimes key (answers init calls))
      (after init calls key) := by
  -- from the end of the history: the last call acts on what the calls before it left
  induction calls using List.reverseRecOn with
  | nil =>
    refine ⟨fun _ _ => rfl, ?_, SlidingWindow.bounded_nil _ _⟩
    show ((0 : ℕ) : ℤ) ≤ maxRequests
    omega
  | append_singleton calls c ih =>
    have hbefore := ih htime.left fun c' hc' => hlimit c' (List.mem_append_left _ hc')
    obtain ⟨hseen, hclock, -⟩ := htime.call
    rw [readings_append, answers_append, allowedTimes_append, after_append]
    show Tracks period maxRequests (readings calls ++ [c.started, c.decided])
      (_ ++ allowedTimes key [(c, (isAllowed (after init calls) c).1)])
      ((isAllowed (after init calls) c).2 key)
    by_cases hkey : c.key = key
    · obtain ⟨rfl, rfl⟩ := hlimit c (by simp) hkey
      subst hkey
      have hlog : allowedTimes c.key [(c, (isAllowed (after init calls) c).1)] =
          if (isAllowed (after init calls) c).1.isAllowed then [c.decided] else [] := by
        by_cases hallowed : (isAllowed (after init calls) c).1.isAllowed
        · simp [allowedTimes, hallowed]
        · simp [allowedTimes, hallowed]
      rw [hlog]
      exact hbefore.call hseen hclock
    · have hlog : allowedTimes key [(c, (isAllowed (after init calls) c).1)] = [] := by
        simp [allowedTimes, hkey]
      rw [hlog, List.append_nil]
      exact hbefore.other hkey

/-- The log has readings of the clock only. -/
theorem allowedTimes_subset (key : String) (requests : Requests) (calls : List Call) :
    ∀ t ∈ allowedTimes key (answers requests calls), t ∈ readings calls := by
  induction calls generalizing requests with
  | nil => simp [answers, allowedTimes]
  | cons c calls ih =>
    intro t ht
    have hsplit : answers requests (c :: calls) =
        [(c, (isAllowed requests c).1)] ++ answers (isAllowed requests c).2 calls := rfl
    rw [hsplit, allowedTimes_append, List.mem_append] at ht
    have hreadings : readings (c :: calls) = [c.started, c.decided] ++ readings calls := rfl
    rw [hreadings, List.mem_append]
    rcases ht with ht | ht
    · left
      simp only [allowedTimes, List.mem_map, List.mem_filter, List.mem_singleton] at ht
      obtain ⟨r, ⟨rfl, -⟩, rfl⟩ := ht
      simp
    · exact .inr (ih _ t ht)

/-! ### The sliding window -/

/-- What a sliding window with the limits of the calls answers to them. -/
structure IsSlidingWindow (calls : List Call) : Prop where
  /-- No half-open window has more allowed requests of a key than the limit, -/
  window_ico : ∀ c ∈ calls, ∀ a : ℚ,
    (((allowedTimes c.key (answers init calls)).countP
      fun t => a ≤ t ∧ t < a + c.periodSeconds : ℕ) : ℤ) ≤ c.maxRequests
  /-- open on either side. -/
  window_ioc : ∀ c ∈ calls, ∀ a : ℚ,
    (((allowedTimes c.key (answers init calls)).countP
      fun t => a < t ∧ t ≤ a + c.periodSeconds : ℕ) : ℤ) ≤ c.maxRequests
  /-- A request is rejected only if the window before it is full of allowed ones. -/
  rejected_full : ∀ earlier c later, calls = earlier ++ c :: later →
    (isAllowed (after init earlier) c).1.isRejected = true →
    c.maxRequests ≤ (((allowedTimes c.key (answers init earlier)).countP
      fun t => c.started - c.periodSeconds < t ∧ t ≤ c.started : ℕ) : ℤ)
  /-- A rejected request changes no later answer. -/
  rejected_unseen : ∀ earlier c later, calls = earlier ++ c :: later →
    (isAllowed (after init earlier) c).1.isRejected = true →
    answers (after init (earlier ++ [c])) later = answers (after init earlier) later
  /-- Waiting as long as a rejection says is enough. -/
  wait_enough : ∀ earlier c between next later wait,
    calls = earlier ++ c :: (between ++ next :: later) →
    (isAllowed (after init earlier) c).1 = .rejected wait →
    (∀ c' ∈ between, c'.key ≠ c.key) → next.key = c.key →
    c.decided + wait ≤ next.started →
    (isAllowed (after init (earlier ++ c :: between)) next).1.isAllowed = true
  /-- The calls of one key are answered as if there were no others. -/
  key_apart : ∀ key, (answers init calls).filter (fun r => r.1.key = key) =
    answers init (calls.filter fun c => c.key = key)
  /-- No call raises. -/
  answered : ∀ r ∈ answers init calls, ∀ e, r.2 ≠ .raised e

section History

variable {calls : List Call} (htime : Chronological calls) (hlimit : Uniform calls)

include hlimit in
theorem Uniform.limit {c : Call} (hc : c ∈ calls) {calls' : List Call} (hsub : calls' ⊆ calls) :
    ∀ c' ∈ calls', c'.key = c.key →
      c'.maxRequests = c.maxRequests ∧ c'.periodSeconds = c.periodSeconds :=
  fun c' hc' => hlimit.same c hc c' (hsub hc')

include htime hlimit

theorem tracks_earlier {earlier later : List Call} {c : Call}
    (hsplit : calls = earlier ++ c :: later) :
    Tracks c.periodSeconds c.maxRequests (readings earlier)
      (allowedTimes c.key (answers init earlier)) (after init earlier c.key) := by
  subst hsplit
  have hc : c ∈ earlier ++ c :: later := by simp
  exact tracks_after (hlimit.positive c hc).1 htime.left
    (hlimit.limit hc (List.subset_append_left _ _))

theorem countP_window_le {c : Call} (hc : c ∈ calls) {W : ℚ → Bool}
    (hW : SlidingWindow.Narrow (c.periodSeconds : ℚ) W) :
    (((allowedTimes c.key (answers init calls)).countP W : ℕ) : ℤ) ≤ c.maxRequests := by
  have hmax := (hlimit.positive c hc).1
  have hbound := (tracks_after hmax htime (hlimit.limit hc (List.Subset.refl _))).bounded W hW
  omega

theorem le_countP_of_isRejected {earlier later : List Call} {c : Call}
    (hsplit : calls = earlier ++ c :: later)
    (h : (isAllowed (after init earlier) c).1.isRejected = true) :
    c.maxRequests ≤ (((allowedTimes c.key (answers init earlier)).countP
      fun t => c.started - c.periodSeconds < t ∧ t ≤ c.started : ℕ) : ℤ) := by
  have htracks := tracks_earlier htime hlimit hsplit
  subst hsplit
  obtain ⟨hseen, -, -⟩ := htime.call
  obtain ⟨wait, hwait⟩ := exists_of_isRejected h
  obtain ⟨-, -, -, hfull, -⟩ := isAllowed_eq_rejected hwait
  rw [kept, htracks.recent_eq c.started hseen, SlidingWindow.recent,
    ← List.countP_eq_length_filter] at hfull
  refine hfull.trans_eq ?_
  congr 1
  -- the requests of the log were allowed no later than the call
  refine List.countP_congr fun t ht => ?_
  have hle : t ≤ c.started := hseen t (allowedTimes_subset _ _ _ t ht)
  simp [hle]

theorem answers_of_isRejected {earlier later : List Call} {c : Call}
    (hsplit : calls = earlier ++ c :: later)
    (h : (isAllowed (after init earlier) c).1.isRejected = true) :
    answers (after init (earlier ++ [c])) later = answers (after init earlier) later := by
  subst hsplit
  obtain ⟨-, hclock, hlater⟩ := htime.call
  obtain ⟨wait, hwait⟩ := exists_of_isRejected h
  refine answers_congr later fun c' hc' => ?_
  rw [after_append]
  show kept (isAllowed (after init earlier) c).2 c' = kept (after init earlier) c'
  by_cases hkey : c.key = c'.key
  · obtain ⟨-, hperiod⟩ := hlimit.same c (by simp) c' (by simp [hc']) hkey.symm
    rw [kept, kept, ← hkey, isAllowed_snd_self, hwait, hperiod]
    simp only [Answer.isAllowed, Bool.false_eq_true, if_false, List.append_nil]
    exact SlidingWindow.recent_recent (hclock.trans (hlater c' hc')) _
  · rw [kept, kept, isAllowed_snd_of_ne _ _ hkey]

theorem isAllowed_of_wait {earlier between later : List Call} {c next : Call} {wait : ℤ}
    (hsplit : calls = earlier ++ c :: (between ++ next :: later))
    (h : (isAllowed (after init earlier) c).1 = .rejected wait)
    (hbetween : ∀ c' ∈ between, c'.key ≠ c.key) (hkey : next.key = c.key)
    (hwaited : c.decided + wait ≤ next.started) :
    (isAllowed (after init (earlier ++ c :: between)) next).1.isAllowed = true := by
  have htracks := tracks_earlier htime hlimit hsplit
  subst hsplit
  obtain ⟨hmax, hperiod⟩ := hlimit.same c (by simp) next (by simp) hkey
  obtain ⟨first, rest, hkept, -, rfl⟩ := isAllowed_eq_rejected h
  have hlist : after init (earlier ++ c :: between) next.key = first :: rest := by
    rw [after_append]
    show after (isAllowed (after init earlier) c).2 between next.key = _
    rw [hkey, after_of_ne _ _ _ hbetween, isAllowed_snd_self, h, hkept]
    exact List.append_nil _
  -- the oldest of the requests that filled the list is now too old
  have hold : ¬ (next.started - c.periodSeconds < first) := by
    have hpast := lt_retryAfter c.periodSeconds (c.decided - first)
    linarith
  have hlength : (kept (after init earlier) c).length ≤ (after init earlier c.key).length :=
    List.length_filter_le ..
  have hbound := htracks.length_le
  have hrest : (SlidingWindow.recent (c.periodSeconds : ℚ) next.started (first :: rest)).length ≤
      rest.length := by
    rw [SlidingWindow.recent, List.filter_cons_of_neg (by simpa using hold)]
    exact List.length_filter_le ..
  rw [isAllowed_iff, kept, hlist, hperiod, hmax]
  rw [hkept, List.length_cons] at hlength
  omega

omit htime in
theorem ne_raised : ∀ r ∈ answers init calls, ∀ e, r.2 ≠ .raised e := by
  have hpos := hlimit.positive
  clear hlimit
  generalize init = requests
  induction calls generalizing requests with
  | nil => simp [answers]
  | cons c calls ih =>
    intro r hr
    rw [answers, List.mem_cons] at hr
    rcases hr with rfl | hr
    · intro e he
      have hmax := (hpos c (by simp)).1
      simp only [isAllowed_fst] at he
      split at he
      case isTrue hfull =>
        split at he
        case h_1 hnil =>
          -- a full list is not empty
          rw [hnil, List.length_nil] at hfull
          omega
        case h_2 => cases he
      case isFalse => cases he
    · exact ih (fun c' hc' => hpos c' (List.mem_cons_of_mem _ hc')) _ r hr

/-- The in-memory limiter is a sliding window over every history of calls. -/
theorem isSlidingWindow : IsSlidingWindow calls where
  window_ico _ hc a := countP_window_le htime hlimit hc (SlidingWindow.narrow_ico _ a)
  window_ioc _ hc a := countP_window_le htime hlimit hc (SlidingWindow.narrow_ioc _ a)
  rejected_full _ _ _ hsplit h := le_countP_of_isRejected htime hlimit hsplit h
  rejected_unseen _ _ _ hsplit h := answers_of_isRejected htime hlimit hsplit h
  wait_enough _ _ _ _ _ _ hsplit h hbetween hkey hwaited :=
    isAllowed_of_wait htime hlimit hsplit h hbetween hkey hwaited
  key_apart key := answers_filter_key key calls rfl
  answered := ne_raised hlimit

end History

/-- Two calls of a key with the limit of one, a call of another key between them, and a third
call after the wait. -/
theorem isSlidingWindow_small :
    IsSlidingWindow [⟨"login:a", 1, 60, 0, 0⟩, ⟨"login:b", 2, 60, 1, 2⟩,
      ⟨"login:a", 1, 60, 5 / 2, 3⟩, ⟨"login:a", 1, 60, 61, 61⟩] :=
  isSlidingWindow (by norm_num [Chronological, readings]) ⟨by decide, by decide⟩

end ProxmoxIaas.RateLimit.InMemoryRateLimiter
