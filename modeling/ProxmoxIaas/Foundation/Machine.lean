import Mathlib.Tactic.TypeStar

/-!
# Step Machines

A machine has a set of initial states and a total step function: a step that is disabled in
a state leaves the state unchanged. Reachability is relative to a condition `ok` on the
state before a step and its label, so that one machine carries both the unrestricted runs
(`ok = anyStep`) and the runs whose steps all meet a condition.

## Main results

- `Machine.Reachable.invariant`: the induction rule for invariants.
- `Machine.Reachable.run`, `Machine.reachable_run`: finite runs end in reachable states.
-/

universe u v

/-- Initial states and a total step function over labels. -/
structure Machine (σ : Type u) (ι : Type v) where
  /-- The states a run may start in. -/
  init : σ → Prop
  /-- The state after a step; a disabled step leaves the state unchanged. -/
  step : σ → ι → σ

namespace Machine

variable {σ : Type u} {ι : Type v} {M : Machine σ ι} {ok : σ → ι → Prop}

/-- The condition on steps that every step meets. -/
def anyStep : σ → ι → Prop := fun _ _ => True

/-- The state after a finite sequence of steps. -/
def run (M : Machine σ ι) (s : σ) (ls : List ι) : σ := ls.foldl M.step s

/-- A run of two sequences, one after the other. -/
theorem run_append (M : Machine σ ι) (s : σ) (ls ls' : List ι) :
    M.run s (ls ++ ls') = M.run (M.run s ls) ls' :=
  List.foldl_append ..

/-- Every step of a finite sequence meets a condition in the state it is taken in. -/
def Respects (M : Machine σ ι) (ok : σ → ι → Prop) : σ → List ι → Prop
  | _, [] => True
  | s, l :: ls => ok s l ∧ M.Respects ok (M.step s l) ls

/-- The states reached by steps that meet a condition. -/
inductive Reachable (M : Machine σ ι) (ok : σ → ι → Prop) : σ → Prop
  /-- Initial states are reachable. -/
  | start {s : σ} : M.init s → Reachable M ok s
  /-- A step that meets the condition leads to a reachable state. -/
  | step {s : σ} (l : ι) : Reachable M ok s → ok s l → Reachable M ok (M.step s l)

/-- A sequence of steps respects a condition if both of its parts do. -/
theorem respects_append {s : σ} {ls ls' : List ι} (h : M.Respects ok s ls)
    (h' : M.Respects ok (M.run s ls) ls') : M.Respects ok s (ls ++ ls') := by
  induction ls generalizing s with
  | nil => exact h'
  | cons l ls ih => exact ⟨h.1, ih h.2 h'⟩

/-- Whether a finite sequence of steps respects a decidable condition is decidable. -/
instance decidableRespects [∀ s l, Decidable (ok s l)] :
    ∀ (s : σ) (ls : List ι), Decidable (M.Respects ok s ls)
  | _, [] => isTrue trivial
  | s, l :: ls =>
    have := decidableRespects (M.step s l) ls
    inferInstanceAs (Decidable (ok s l ∧ M.Respects ok (M.step s l) ls))

/-- A condition that holds initially and is preserved by every step holds in every
reachable state. -/
theorem Reachable.invariant (Inv : σ → Prop) (hinit : ∀ s, M.init s → Inv s)
    (hstep : ∀ s l, Inv s → ok s l → Inv (M.step s l)) {s : σ} (h : M.Reachable ok s) :
    Inv s := by
  induction h with
  | start hs => exact hinit _ hs
  | step l _ hok ih => exact hstep _ l ih hok

/-- A finite run from a reachable state ends in a reachable state. -/
theorem Reachable.run {s : σ} (h : M.Reachable ok s) {ls : List ι}
    (hls : M.Respects ok s ls) : M.Reachable ok (M.run s ls) := by
  induction ls generalizing s with
  | nil => exact h
  | cons l ls ih => exact ih (.step l h hls.1) hls.2

/-- Without a condition on the steps, every finite run from an initial state ends in a
reachable state. -/
theorem reachable_run {s : σ} (h : M.init s) (ls : List ι) :
    M.Reachable anyStep (M.run s ls) := by
  have hls : ∀ (ls : List ι) (s : σ), M.Respects anyStep s ls := by
    intro ls
    induction ls with
    | nil => intro s; trivial
    | cons l ls ih => intro s; exact ⟨trivial, ih _⟩
  exact (Reachable.start h).run (hls ls s)

end Machine
