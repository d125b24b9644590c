import Mathlib.Algebra.Order.Group.Defs
import Mathlib.Data.List.Pairwise
import Mathlib.Tactic.Abel
import Mathlib.Algebra.Order.Group.Unbundled.Basic

/-!
# Sliding Windows

A log is the list of the times at which something was admitted, and `recent p now log` are
the entries of the log in the window of length `p` that ends at `now`. A rule that admits at
`t` only while fewer than `m` entries are recent keeps every window of length `p` at no more
than `m` entries, wherever the window lies. Windows are sets any two points of which are
less than `p` apart (`Narrow`); both kinds of half-open interval of length `p` are.

## Main results

- `SlidingWindow.recent_recent`: pruning at an earlier time is invisible at a later one.
- `SlidingWindow.Bounded.append`: admitting below the limit keeps every window bounded.
- `SlidingWindow.Bounded.of_recent`: so does admitting by any count of entries that covers the
  narrow window around the new one.
-/

namespace SlidingWindow

variable {T : Type*} [AddCommGroup T] [LinearOrder T]

/-- The entries of a log that are less than `p` old at `now`. -/
def recent (p now : T) (log : List T) : List T := log.filter fun t => now - p < t

@[simp]
theorem recent_nil (p now : T) : recent p now [] = [] := rfl

@[simp]
theorem recent_append (p now : T) (log log' : List T) :
    recent p now (log ++ log') = recent p now log ++ recent p now log' :=
  List.filter_append ..

theorem mem_recent {p now t : T} {log : List T} :
    t ∈ recent p now log ↔ t ∈ log ∧ now - p < t := by
  simp [recent]

/-- A window: any two of its points are less than `p` apart. -/
def Narrow (p : T) (W : T → Bool) : Prop := ∀ x y, W x → W y → y - p < x

/-- Every window holds at most `m` entries of the log. -/
def Bounded (p : T) (m : ℕ) (log : List T) : Prop :=
  ∀ W : T → Bool, Narrow p W → log.countP W ≤ m

theorem bounded_nil (p : T) (m : ℕ) : Bounded p m ([] : List T) := fun _ _ => by simp

/-- A new entry keeps the windows bounded, if the entries less than `p` away from it are
among fewer than `m` others. -/
theorem Bounded.of_recent {p t : T} {m : ℕ} {log : List T} (h : Bounded p m log)
    (counted : List T) (hcover : ∀ W : T → Bool, Narrow p W → W t → log.countP W ≤ counted.length)
    (hroom : counted.length < m) : Bounded p m (log ++ [t]) := by
  intro W hW
  rw [List.countP_append, List.countP_singleton]
  by_cases ht : W t
  · have hlog := hcover W hW ht
    rw [if_pos ht]
    omega
  · rw [if_neg ht]
    exact h W hW

variable [IsOrderedAddMonoid T]

/-- Entries that were too old at an earlier time are too old now. -/
theorem recent_recent {p now later : T} (h : now ≤ later) (log : List T) :
    recent p later (recent p now log) = recent p later log := by
  rw [recent, recent, List.filter_filter]
  refine List.filter_congr fun t _ => ?_
  -- the later cut is the sharper one
  have hcut : now - p ≤ later - p := sub_le_sub_right h p
  by_cases ht : later - p < t
  · simp [ht, hcut.trans_lt ht]
  · simp [ht]

theorem narrow_ico (p a : T) : Narrow p fun t => a ≤ t ∧ t < a + p := by
  intro x y hx hy
  simp only [decide_eq_true_eq] at hx hy
  exact (sub_lt_iff_lt_add.mpr hy.2).trans_le hx.1

theorem narrow_ioc (p a : T) : Narrow p fun t => a < t ∧ t ≤ a + p := by
  intro x y hx hy
  simp only [decide_eq_true_eq] at hx hy
  exact (sub_le_iff_le_add.mpr hy.2).trans_lt hx.1

/-- Admitting at `t`, by a count of the recent entries taken at or before `t`, keeps the windows
bounded. -/
theorem Bounded.append {p now t : T} {m : ℕ} {log : List T} (h : Bounded p m log)
    (hle : now ≤ t) (hroom : (recent p now log).length < m) : Bounded p m (log ++ [t]) := by
  refine h.of_recent _ (fun W hW ht => ?_) hroom
  rw [recent, ← List.countP_eq_length_filter]
  refine List.countP_mono_left fun x _ hx => ?_
  have hcut : now - p ≤ t - p := sub_le_sub_right hle p
  simpa using hcut.trans_lt (hW x t hx ht)

end SlidingWindow
