import ProxmoxIaas.Foundation.SlidingWindow
import Mathlib.Data.List.Induction

/-!
# Limiters that Count by Key

A limiter admits events or turns them away. It counts the events of each key apart, and a key
consists of a group, which has the limit, and of a name within the group. The limiter bounds a
group as it bounds a key when all events of the group have one name; two names are enough to
exceed the limit.

## Main results

- `KeyedLimiter.Windowed.bounded_of_single`: with one name, the bound of a key is one of its group.
- `KeyedLimiter.Windowed.not_bounded_of_burst`: a burst that no key notices.
-/

universe u v w

/-- A limiter of events. -/
structure KeyedLimiter (E : Type u) where
  /-- What it remembers. -/
  State : Type v
  /-- What it starts with. -/
  init : State
  /-- Whether it admits an event, and what it remembers then. -/
  step : State → E → Bool × State

namespace KeyedLimiter

variable {E : Type u} {γ : Type v} {ι : Type w} {T : Type*} (L : KeyedLimiter E)

/-- What the limiter remembers after some events. -/
def after (events : List E) : L.State := events.foldl (fun s e => (L.step s e).2) L.init

/-- The events that a limiter admits from a state on. -/
def admittedFrom (s : L.State) : List E → List E
  | [] => []
  | e :: events => (if (L.step s e).1 then [e] else []) ++ admittedFrom (L.step s e).2 events

/-- The events that a limiter admits. -/
def admitted (events : List E) : List E := L.admittedFrom L.init events

theorem admittedFrom_append (s : L.State) (events : List E) (e : E) :
    L.admittedFrom s (events ++ [e]) = L.admittedFrom s events ++
      if (L.step (events.foldl (fun s e => (L.step s e).2) s) e).1 then [e] else [] := by
  induction events generalizing s with
  | nil => exact List.append_nil _
  | cons e' events ih =>
    rw [List.cons_append, admittedFrom, ih, admittedFrom, List.append_assoc, List.foldl_cons]

/-- The last event is decided by what the others left. -/
theorem admitted_append (events : List E) (e : E) :
    L.admitted (events ++ [e]) =
      L.admitted events ++ if (L.step (L.after events) e).1 then [e] else [] :=
  L.admittedFrom_append L.init events e

theorem admitted_sublist (events : List E) : (L.admitted events).Sublist events := by
  induction events using List.reverseRecOn with
  | nil => exact List.Sublist.refl _
  | append_singleton events e ih =>
    rw [admitted_append]
    refine ih.append ?_
    split
    · exact List.Sublist.refl _
    · exact List.nil_sublist _

/-- A limiter that may be switched off. -/
def guarded (enabled : Bool) (L : KeyedLimiter E) : KeyedLimiter E :=
  { L with step := fun s e => if enabled then L.step s e else (true, s) }

@[simp]
theorem guarded_true : guarded true L = L := rfl

/-- A limiter that is switched off admits everything. -/
theorem admitted_guarded_false (events : List E) : (guarded false L).admitted events = events := by
  induction events using List.reverseRecOn with
  | nil => rfl
  | append_singleton events e ih =>
    rw [admitted_append, ih]
    rfl

section Windows

variable [DecidableEq γ] [DecidableEq ι] [AddCommGroup T] [LinearOrder T]
  {key : E → γ × ι} {time : E → T} {limit : γ → ℕ} {period : γ → T} {Valid : List E → Prop}

/-- The times of the events of a key. -/
def timesOf (key : E → γ × ι) (time : E → T) (k : γ × ι) (events : List E) : List T :=
  (events.filter fun e => key e = k).map time

/-- The times of the events of a group. -/
def timesOfGroup (key : E → γ × ι) (time : E → T) (g : γ) (events : List E) : List T :=
  (events.filter fun e => (key e).1 = g).map time

/-- A limiter that keeps to the limits of the groups for each key, and that does not turn away
events of keys with few of them. -/
structure Windowed (L : KeyedLimiter E) (key : E → γ × ι) (time : E → T) (limit : γ → ℕ)
    (period : γ → T) (Valid : List E → Prop) : Prop where
  /-- No window has more admitted events of a key than the limit. -/
  bounded : ∀ events, Valid events → ∀ k,
    SlidingWindow.Bounded (period k.1) (limit k.1) (timesOf key time k (L.admitted events))
  /-- If the limit is not exceeded by the events of any key, then all of them are admitted. -/
  admits : ∀ events, Valid events → (∀ k, events.countP (fun e => key e = k) ≤ limit k.1) →
    L.admitted events = events

variable {L}

/-- If the events of a group have one name, then the group is bounded. -/
theorem Windowed.bounded_of_single (h : L.Windowed key time limit period Valid) {events : List E}
    (hvalid : Valid events)
    (hsingle : ∀ e ∈ events, ∀ e' ∈ events, (key e).1 = (key e').1 → (key e).2 = (key e').2)
    (g : γ) :
    SlidingWindow.Bounded (period g) (limit g) (timesOfGroup key time g (L.admitted events)) := by
  have hsubset := (L.admitted_sublist events).subset
  by_cases hsome : ∃ e ∈ L.admitted events, (key e).1 = g
  · obtain ⟨e, hmem, rfl⟩ := hsome
    -- every event of the group has the key of this one
    have hsame : timesOfGroup key time (key e).1 (L.admitted events) =
        timesOf key time (key e) (L.admitted events) := by
      refine congrArg (List.map time) (List.filter_congr fun e' hmem' => ?_)
      refine decide_eq_decide.mpr ⟨fun hgroup => ?_, fun hkey => congrArg Prod.fst hkey⟩
      exact Prod.ext hgroup (hsingle e' (hsubset hmem') e (hsubset hmem) hgroup)
    rw [hsame]
    exact h.bounded events hvalid (key e)
  · have hnone : timesOfGroup key time g (L.admitted events) = [] := by
      rw [timesOfGroup, List.map_eq_nil_iff, List.filter_eq_nil_iff]
      intro e hmem hgroup
      exact hsome ⟨e, hmem, of_decide_eq_true hgroup⟩
    rw [hnone]
    exact SlidingWindow.bounded_nil _ _

omit [DecidableEq ι] in
/-- Events of a group that exceed its limit within a window are not bounded, once they are all
admitted. -/
theorem not_bounded_of_admitted {events : List E} {g : γ} {W : T → Bool}
    (hadmitted : L.admitted events = events) (hgroup : ∀ e ∈ events, (key e).1 = g)
    (hnarrow : SlidingWindow.Narrow (period g) W) (hwindow : ∀ e ∈ events, W (time e) = true)
    (hmany : limit g < events.length) :
    ¬ SlidingWindow.Bounded (period g) (limit g)
      (timesOfGroup key time g (L.admitted events)) := by
  intro hbounded
  have hall : timesOfGroup key time g (L.admitted events) = events.map time := by
    rw [hadmitted, timesOfGroup, List.filter_eq_self.mpr]
    intro e hmem
    exact decide_eq_true (hgroup e hmem)
  have hcount := hbounded W hnarrow
  have hlength : events.countP (W ∘ time) = events.length := List.countP_eq_length.mpr hwindow
  rw [hall, List.countP_map, hlength] at hcount
  omega

/-- A burst of events under several names exceeds the limit of their group, if it does not exceed
the limit for any of the names. -/
theorem Windowed.not_bounded_of_burst (h : L.Windowed key time limit period Valid)
    {events : List E} {g : γ} {W : T → Bool} (hvalid : Valid events)
    (hfew : ∀ k, events.countP (fun e => key e = k) ≤ limit k.1)
    (hgroup : ∀ e ∈ events, (key e).1 = g) (hnarrow : SlidingWindow.Narrow (period g) W)
    (hwindow : ∀ e ∈ events, W (time e) = true) (hmany : limit g < events.length) :
    ¬ SlidingWindow.Bounded (period g) (limit g)
      (timesOfGroup key time g (L.admitted events)) :=
  not_bounded_of_admitted (h.admits events hvalid hfew) hgroup hnarrow hwindow hmany

end Windows

end KeyedLimiter
