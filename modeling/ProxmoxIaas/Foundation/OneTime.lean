import ProxmoxIaas.Foundation.Table
import Mathlib.Data.List.Infix

/-!
# One-Time Secrets

A store of values under secrets that expire, in which a value is removed when it is taken. The
events of a run are recorded, the newest first.

## Main results

- `OneTime.Describes.put`, `OneTime.Describes.take_of_some`, `OneTime.Describes.afterTake`: what
  is in the store was put there, and nothing has happened to its secret since.
- `OneTime.Describes.count_le`: a secret is taken no more often than a value was put under it.
-/

namespace OneTime

variable {κ α : Type*} [DecidableEq κ]

/-- A value with the last time at which it can be taken. -/
structure Entry (α : Type*) where
  /-- The value. -/
  data : α
  /-- When it expires. -/
  expiresAt : ℕ

/-- The values by their secrets. -/
abbrev Store (κ α : Type*) [DecidableEq κ] := Table κ (Entry α)

/-- Put a value under a secret. -/
def put (ttl now : ℕ) (k : κ) (a : α) (s : Store κ α) : Store κ α := s.insert k ⟨a, now + ttl⟩

/-- Take the value under a secret, which is removed even if it has expired. -/
def take (now : ℕ) (k : κ) (s : Store κ α) : Option α × Store κ α :=
  match s.get? k with
  | none => (none, s)
  | some e => (if now > e.expiresAt then none else some e.data, s.erase k)

/-- What has happened. -/
inductive Event (κ α : Type*) where
  /-- A value was put under a secret. -/
  | put (time : ℕ) (k : κ) (a : α)
  /-- It was taken. -/
  | take (time : ℕ) (k : κ) (a : α)

/-- The secret of an event. -/
def Event.key : Event κ α → κ
  | .put _ k _ | .take _ k _ => k

/-- A value was put under this secret. -/
def Event.puts (k : κ) : Event κ α → Bool
  | .put _ k' _ => k' = k
  | .take .. => false

/-- The value under this secret was taken. -/
def Event.takes (k : κ) : Event κ α → Bool
  | .take _ k' _ => k' = k
  | .put .. => false

/-- The last event of a secret. -/
def latest (k : κ) (log : List (Event κ α)) : Option (Event κ α) :=
  log.find? fun e => e.key = k

theorem latest_cons (k : κ) (e : Event κ α) (log : List (Event κ α)) :
    latest k (e :: log) = if e.key = k then some e else latest k log := by
  by_cases h : e.key = k
  · simp only [latest, List.find?_cons, decide_eq_true h, if_pos h]
  · simp only [latest, List.find?_cons, decide_eq_false h, if_neg h]

/-- A store with the events that have led to it. -/
structure Describes (ttl : ℕ) (log : List (Event κ α)) (s : Store κ α) : Prop where
  /-- What is in the store was put there last. -/
  entries : ∀ k e, s.get? k = some e →
    ∃ time, latest k log = some (.put time k e.data) ∧ e.expiresAt = time + ttl
  /-- What was taken was put there last, and not too long ago. -/
  takes : ∀ time k a older, .take time k a :: older <:+ log →
    ∃ putAt, latest k older = some (.put putAt k a) ∧ time ≤ putAt + ttl

section Describes

variable {ttl : ℕ} {log : List (Event κ α)} {s : Store κ α}

theorem describes_nil (ttl : ℕ) : Describes ttl ([] : List (Event κ α)) (∅ : Store κ α) :=
  ⟨fun k _ h => (nomatch (Table.get?_empty k).symm.trans h),
    fun _ _ _ _ h => absurd (List.suffix_nil.mp h) (List.cons_ne_nil _ _)⟩

theorem Describes.put (h : Describes ttl log s) (now : ℕ) (k : κ) (a : α) :
    Describes ttl (.put now k a :: log) (put ttl now k a s) := by
  constructor
  · intro k' e hget
    rw [OneTime.put, Table.get?_insert] at hget
    rw [latest_cons]
    by_cases hk : k' = k
    · rw [if_pos hk] at hget
      obtain rfl := Option.some.inj hget
      rw [if_pos (show (Event.put now k a).key = k' from hk.symm), hk]
      exact ⟨now, rfl, rfl⟩
    · rw [if_neg hk] at hget
      rw [if_neg (show (Event.put now k a).key ≠ k' from Ne.symm hk)]
      exact h.entries k' e hget
  · intro time k' a' older hsuffix
    rcases List.suffix_cons_iff.mp hsuffix with heq | hsuffix
    · cases heq
    · exact h.takes time k' a' older hsuffix

theorem Describes.erase (h : Describes ttl log s) (k : κ) : Describes ttl log (s.erase k) := by
  refine ⟨fun k' e hget => ?_, h.takes⟩
  rw [Table.get?_erase] at hget
  by_cases hk : k' = k
  · rw [if_pos hk] at hget
    cases hget
  · rw [if_neg hk] at hget
    exact h.entries k' e hget

/-- Taking nothing, or forgetting what was taken. -/
theorem Describes.afterTake (h : Describes ttl log s) (now : ℕ) (k : κ) :
    Describes ttl log (take now k s).2 := by
  unfold OneTime.take
  cases hget : s.get? k with
  | none => exact h
  | some e => exact h.erase k

theorem Describes.take_of_some (h : Describes ttl log s) {now : ℕ} {k : κ} {a : α}
    (htake : (take now k s).1 = some a) :
    Describes ttl (.take now k a :: log) (take now k s).2 := by
  unfold OneTime.take at htake ⊢
  cases hget : s.get? k with
  | none =>
    rw [hget] at htake
    cases htake
  | some e =>
    rw [hget] at htake
    dsimp only at htake ⊢
    obtain ⟨time, hlatest, hexpires⟩ := h.entries k e hget
    by_cases hnow : now > e.expiresAt
    · rw [if_pos hnow] at htake
      cases htake
    · rw [if_neg hnow] at htake
      obtain rfl := Option.some.inj htake
      constructor
      · intro k' e' hget'
        rw [Table.get?_erase] at hget'
        by_cases hk : k' = k
        · rw [if_pos hk] at hget'
          cases hget'
        · rw [if_neg hk] at hget'
          rw [latest_cons, if_neg (show (Event.take now k e.data).key ≠ k' from Ne.symm hk)]
          exact h.entries k' e' hget'
      · intro time' k' a' older hsuffix
        rcases List.suffix_cons_iff.mp hsuffix with heq | hsuffix
        · cases heq
          exact ⟨time, hlatest, hexpires ▸ Nat.le_of_not_lt hnow⟩
        · exact h.takes time' k' a' older hsuffix

/-- The values taken under a secret, with the one that can still be taken. -/
theorem Describes.count_add_le (h : Describes ttl log s) (k : κ) :
    log.countP (Event.takes k) + (if (latest k log).any (Event.puts k) then 1 else 0) ≤
      log.countP (Event.puts k) := by
  have htakes := h.takes
  clear h
  induction log with
  | nil => exact Nat.le_refl 0
  | cons e log ih =>
    have ih := ih fun time k a older hsuffix => htakes time k a older (hsuffix.trans
      (List.suffix_cons ..))
    rw [latest_cons, List.countP_cons, List.countP_cons]
    by_cases hk : e.key = k
    · rw [if_pos hk, Option.any_some]
      cases e with
      | put time k' a =>
        have hputs : Event.puts k (.put time k' a) = true := decide_eq_true hk
        have htakes : Event.takes k (.put time k' a) = false := rfl
        rw [hputs, htakes, if_pos rfl, if_neg Bool.false_ne_true]
        omega
      | take time k' a =>
        -- the value that was taken could be taken before
        obtain ⟨putAt, hlatest, -⟩ := htakes time k' a log List.suffix_rfl
        have hputs : Event.puts k (.take time k' a) = false := rfl
        have htakes : Event.takes k (.take time k' a) = true := decide_eq_true hk
        have hput : Event.puts k (.put putAt k' a) = true := decide_eq_true hk
        rw [show latest k log = some (.put putAt k' a) from hk ▸ hlatest, Option.any_some, hput,
          if_pos rfl] at ih
        rw [hputs, htakes, if_pos rfl, if_neg Bool.false_ne_true]
        omega
    · have hputs : Event.puts k e = false := by
        cases e with
        | put time k' a => exact decide_eq_false hk
        | take time k' a => rfl
      have htakes : Event.takes k e = false := by
        cases e with
        | put time k' a => rfl
        | take time k' a => exact decide_eq_false hk
      rw [if_neg hk, hputs, htakes, if_neg Bool.false_ne_true]
      exact ih

/-- A secret is taken no more often than a value was put under it. -/
theorem Describes.count_le (h : Describes ttl log s) (k : κ) :
    log.countP (Event.takes k) ≤ log.countP (Event.puts k) :=
  (Nat.le_add_right ..).trans (h.count_add_le k)

end Describes

end OneTime
