import ProxmoxIaas.Foundation.Machine
import Mathlib.Logic.Function.Basic

/-!
# Initialisation Under a Lock

A process computes a value when it is first needed and keeps it. A thread looks for the value before
it takes the lock and once more afterwards, so that the value is computed while no other thread of
the process does so. The computation takes several steps, in which it may change what the processes
share, and may fail.

## Main results

- `LazyInit.inv_reachable`: what a thread returns is the value that its process keeps, in every
  interleaving.
- `LazyInit.Inv.cached_step`: a value that is kept does not change.
-/

namespace LazyInit

variable {π τ χ lc sh ν : Type*} [DecidableEq π] [DecidableEq τ]

/-- How a step of the computation ends. -/
inductive Outcome (lc ν : Type*) where
  /-- It goes on. -/
  | more (l : lc)
  /-- There is a value. -/
  | value (v : ν)
  /-- There is an exception. -/
  | error

/-- A computation in steps, which depend on a choice made outside. -/
structure Body (χ lc sh ν : Type*) where
  /-- Its first local state. -/
  start : lc
  /-- A step, with what is shared afterwards. -/
  step : χ → lc → sh → Outcome lc ν × sh

/-- How far a thread has come. -/
inductive Pc (lc ν : Type*) where
  /-- It does not need the value yet. -/
  | idle
  /-- It has found no value and waits for the lock. -/
  | waiting
  /-- It has the lock and has not looked again. -/
  | locked
  /-- It computes the value. -/
  | inside (l : lc)
  /-- It has returned a value. -/
  | done (v : ν)
  /-- It has raised an exception. -/
  | failed

/-- Whether a thread has the lock. -/
def Pc.holds : Pc lc ν → Bool
  | .locked | .inside _ => true
  | .idle | .waiting | .done _ | .failed => false

/-- Processes with their threads. -/
structure State (π τ lc sh ν : Type*) where
  /-- What the processes share. -/
  shared : sh
  /-- The value that a process keeps. -/
  cached : π → Option ν
  /-- The thread of a process that has the lock. -/
  lock : π → Option τ
  /-- The threads. -/
  pc : π × τ → Pc lc ν

/-- A step of a thread. -/
structure Label (π τ χ : Type*) where
  /-- The process. -/
  process : π
  /-- The thread. -/
  thread : τ
  /-- The choice made outside. -/
  choice : χ

namespace State

/-- A thread moves on. -/
def goto (s : State π τ lc sh ν) (p : π) (t : τ) (x : Pc lc ν) : State π τ lc sh ν :=
  { s with pc := Function.update s.pc (p, t) x }

/-- A thread takes or releases the lock of its process. -/
def setLock (s : State π τ lc sh ν) (p : π) (holder : Option τ) : State π τ lc sh ν :=
  { s with lock := Function.update s.lock p holder }

end State

/-- A step of a computation that has ended in some way. -/
def settle (s : State π τ lc sh ν) (p : π) (t : τ) : Outcome lc ν → State π τ lc sh ν
  | .more l => s.goto p t (.inside l)
  | .value v =>
    { (s.setLock p none).goto p t (.done v) with cached := Function.update s.cached p (some v) }
  | .error => (s.setLock p none).goto p t .failed

/-- The state after a step of a thread. -/
def step (b : Body χ lc sh ν) (s : State π τ lc sh ν) (x : Label π τ χ) : State π τ lc sh ν :=
  let p := x.process
  let t := x.thread
  match s.pc (p, t) with
  | .idle | .done _ | .failed =>
    match s.cached p with
    | some v => s.goto p t (.done v)
    | none => s.goto p t .waiting
  | .waiting =>
    match s.lock p with
    | none => (s.setLock p (some t)).goto p t .locked
    | some _ => s
  | .locked =>
    match s.cached p with
    | some v => (s.setLock p none).goto p t (.done v)
    | none => s.goto p t (.inside b.start)
  | .inside l =>
    let (outcome, shared) := b.step x.choice l s.shared
    settle { s with shared } p t outcome

/-- Processes that share something, before any thread needs the value. -/
def machine (b : Body χ lc sh ν) (init : sh → Prop) :
    Machine (State π τ lc sh ν) (Label π τ χ) where
  init s := init s.shared ∧ s.cached = (fun _ => none) ∧ s.lock = (fun _ => none) ∧
    s.pc = fun _ => .idle
  step := step b

/-- What holds of the value, the lock and the threads of a process. -/
structure Ok (cached : Option ν) (lock : Option τ) (pc : τ → Pc lc ν) : Prop where
  /-- A thread has the lock if it is in the part that is locked. -/
  lock : ∀ t, (pc t).holds = true ↔ lock = some t
  /-- While the value is computed, there is none. -/
  inside : ∀ t l, pc t = .inside l → cached = none
  /-- What is returned is the value that is kept. -/
  done : ∀ t v, pc t = .done v → cached = some v

section Ok

variable {cached cached' : Option ν} {lock : Option τ} {pc : τ → Pc lc ν} {t : τ} {x : Pc lc ν}

/-- A thread moves on, and has the lock afterwards if it had it before. -/
theorem Ok.move (h : Ok cached lock pc) (hholds : x.holds = (pc t).holds)
    (hinside : ∀ l, x = .inside l → cached = none) (hdone : ∀ v, x = .done v → cached = some v) :
    Ok cached lock (Function.update pc t x) := by
  refine ⟨fun t' => ?_, fun t' l hl => ?_, fun t' v hv => ?_⟩
  all_goals by_cases ht : t' = t
  · rw [ht, Function.update_self, hholds]
    exact h.lock t
  · rw [Function.update_of_ne ht]
    exact h.lock t'
  · rw [ht, Function.update_self] at hl
    exact hinside l hl
  · rw [Function.update_of_ne ht] at hl
    exact h.inside t' l hl
  · rw [ht, Function.update_self] at hv
    exact hdone v hv
  · rw [Function.update_of_ne ht] at hv
    exact h.done t' v hv

theorem Ok.acquire (h : Ok cached none pc) : Ok cached (some t) (Function.update pc t .locked) := by
  refine ⟨fun t' => ?_, fun t' l hl => ?_, fun t' v hv => ?_⟩
  all_goals by_cases ht : t' = t
  · rw [ht, Function.update_self]
    exact ⟨fun _ => rfl, fun _ => rfl⟩
  · rw [Function.update_of_ne ht, h.lock t']
    exact ⟨fun h => (nomatch h), fun h => absurd (Option.some.inj h).symm ht⟩
  · rw [ht, Function.update_self] at hl
    cases hl
  · rw [Function.update_of_ne ht] at hl
    exact h.inside t' l hl
  · rw [ht, Function.update_self] at hv
    cases hv
  · rw [Function.update_of_ne ht] at hv
    exact h.done t' v hv

/-- A thread releases the lock, perhaps with a value where there was none. -/
theorem Ok.release (h : Ok cached lock pc) (hbefore : (pc t).holds = true)
    (hafter : x.holds = false) (hcached : cached' = cached ∨ cached = none)
    (hdone : ∀ v, x = .done v → cached' = some v) :
    Ok cached' none (Function.update pc t x) := by
  have hlock := (h.lock t).mp hbefore
  have hother : ∀ t' ≠ t, (pc t').holds = false := fun t' ht => Bool.eq_false_iff.mpr fun hholds =>
    ht (Option.some.inj (((h.lock t').mp hholds).symm.trans hlock))
  refine ⟨fun t' => ?_, fun t' l hl => ?_, fun t' v hv => ?_⟩
  all_goals by_cases ht : t' = t
  · rw [ht, Function.update_self, hafter]
    exact ⟨fun h => (nomatch h), fun h => (nomatch h)⟩
  · rw [Function.update_of_ne ht, hother t' ht]
    exact ⟨fun h => (nomatch h), fun h => (nomatch h)⟩
  · rw [ht, Function.update_self] at hl
    rw [hl] at hafter
    cases hafter
  · rw [Function.update_of_ne ht] at hl
    have hno := hother t' ht
    rw [hl] at hno
    cases hno
  · rw [ht, Function.update_self] at hv
    exact hdone v hv
  · rw [Function.update_of_ne ht] at hv
    have hsome := h.done t' v hv
    rcases hcached with rfl | rfl
    · exact hsome
    · cases hsome

end Ok

/-- What holds of every process. -/
def Inv (s : State π τ lc sh ν) : Prop := ∀ p, Ok (s.cached p) (s.lock p) fun t => s.pc (p, t)

section Inv

variable {s s' : State π τ lc sh ν} {p : π} {t : τ} {x : Pc lc ν}

/-- A step of a thread of one process. -/
theorem Inv.write (h : Inv s) (hpc : s'.pc = Function.update s.pc (p, t) x)
    (hcached : ∀ p' ≠ p, s'.cached p' = s.cached p') (hlock : ∀ p' ≠ p, s'.lock p' = s.lock p')
    (hok : Ok (s'.cached p) (s'.lock p) (Function.update (fun t' => s.pc (p, t')) t x)) :
    Inv s' := by
  intro p'
  by_cases hp : p' = p
  · have hthreads : (fun t' => s'.pc (p, t')) = Function.update (fun t' => s.pc (p, t')) t x := by
      funext t'
      rw [hpc]
      by_cases ht : t' = t
      · rw [ht, Function.update_self, Function.update_self]
      · rw [Function.update_of_ne ht,
          Function.update_of_ne fun heq => ht (Prod.mk.inj heq).2]
    rw [hp, hthreads]
    exact hok
  · have hthreads : (fun t' => s'.pc (p', t')) = fun t' => s.pc (p', t') := by
      funext t'
      rw [hpc, Function.update_of_ne fun heq => hp (Prod.mk.inj heq).1]
    rw [hcached p' hp, hlock p' hp, hthreads]
    exact h p'

theorem Inv.settle (h : Inv s) {l : lc} (hpc : s.pc (p, t) = .inside l) (outcome : Outcome lc ν) :
    Inv (settle s p t outcome) := by
  have hholds : (s.pc (p, t)).holds = true := by rw [hpc]; rfl
  have hnone := (h p).inside t l hpc
  cases outcome with
  | more l' =>
    refine h.write rfl (fun _ _ => rfl) (fun _ _ => rfl) ((h p).move ?_ (fun _ _ => hnone) ?_)
    · exact hholds.symm
    · exact fun v hv => (nomatch hv)
  | value v =>
    refine h.write rfl (fun p' hp => Function.update_of_ne hp ..)
      (fun p' hp => Function.update_of_ne hp ..) ?_
    simp only [LazyInit.settle, State.goto, State.setLock, Function.update_self]
    exact (h p).release hholds rfl (.inr hnone) fun v' hv => by cases hv; rfl
  | error =>
    refine h.write rfl (fun _ _ => rfl) (fun p' hp => Function.update_of_ne hp ..) ?_
    simp only [LazyInit.settle, State.goto, State.setLock, Function.update_self]
    exact (h p).release hholds rfl (.inl rfl) fun v hv => (nomatch hv)

theorem Inv.step (h : Inv s) (b : Body χ lc sh ν) (x : Label π τ χ) : Inv (step b s x) := by
  obtain ⟨p, t, choice⟩ := x
  have hcall : (s.pc (p, t)).holds = false → Inv (match s.cached p with
      | some v => s.goto p t (.done v)
      | none => s.goto p t .waiting) := fun hholds => by
    cases hcached : s.cached p with
    | none =>
      exact h.write rfl (fun _ _ => rfl) (fun _ _ => rfl)
        ((h p).move hholds.symm (fun l hl => (nomatch hl)) fun v hv => (nomatch hv))
    | some v =>
      exact h.write rfl (fun _ _ => rfl) (fun _ _ => rfl)
        ((h p).move hholds.symm (fun l hl => (nomatch hl)) fun v' hv => by cases hv; exact hcached)
  unfold LazyInit.step
  dsimp only
  cases hpc : s.pc (p, t) with
  | idle => exact hcall (by rw [hpc]; rfl)
  | done v => exact hcall (by rw [hpc]; rfl)
  | failed => exact hcall (by rw [hpc]; rfl)
  | waiting =>
    cases hlock : s.lock p with
    | some holder => exact h
    | none =>
      refine h.write rfl (fun _ _ => rfl) (fun p' hp => Function.update_of_ne hp ..) ?_
      simp only [State.goto, State.setLock, Function.update_self]
      exact (hlock ▸ h p).acquire
  | locked =>
    have hholds : (s.pc (p, t)).holds = true := by rw [hpc]; rfl
    cases hcached : s.cached p with
    | none =>
      exact h.write rfl (fun _ _ => rfl) (fun _ _ => rfl)
        ((h p).move hholds.symm (fun _ _ => hcached) fun v hv => (nomatch hv))
    | some v =>
      refine h.write rfl (fun _ _ => rfl) (fun p' hp => Function.update_of_ne hp ..) ?_
      simp only [State.goto, State.setLock, Function.update_self]
      exact (h p).release hholds rfl (.inl rfl) fun v' hv => by cases hv; exact hcached
  | inside l =>
    have hshared : Inv { s with shared := (b.step choice l s.shared).2 } := h
    exact hshared.settle hpc _

theorem inv_reachable {b : Body χ lc sh ν} {init : sh → Prop}
    {ok : State π τ lc sh ν → Label π τ χ → Prop} (h : (machine b init).Reachable ok s) :
    Inv s := by
  refine h.invariant Inv (fun s hs p => ?_) fun s x hinv _ => hinv.step b x
  obtain ⟨-, hcached, hlock, hpc⟩ := hs
  rw [hcached, hlock, hpc]
  exact ⟨fun t => ⟨fun h => (nomatch h), fun h => (nomatch h)⟩, fun t l h => (nomatch h),
    fun t v h => (nomatch h)⟩

/-- What a step does to the computations, to what is shared and to what is kept. -/
inductive Moved (b : Body χ lc sh ν) (s : State π τ lc sh ν) (x : Label π τ χ) :
    State π τ lc sh ν → Prop where
  /-- Nothing. -/
  | idle : Moved b s x s
  /-- The thread moves on outside of the computation. -/
  | outside (s' : State π τ lc sh ν) (y : Pc lc ν) (hshared : s'.shared = s.shared)
    (hcached : s'.cached = s.cached) (hpc : s'.pc = Function.update s.pc (x.process, x.thread) y)
    (hy : ∀ l, y ≠ .inside l) : Moved b s x s'
  /-- The computation begins. -/
  | enter : Moved b s x (s.goto x.process x.thread (.inside b.start))
  /-- The computation makes a step. -/
  | work (l : lc) (hl : s.pc (x.process, x.thread) = .inside l) :
    Moved b s x (settle { s with shared := (b.step x.choice l s.shared).2 } x.process x.thread
      (b.step x.choice l s.shared).1)

theorem moved_step (b : Body χ lc sh ν) (s : State π τ lc sh ν) (x : Label π τ χ) :
    Moved b s x (LazyInit.step b s x) := by
  have hcall : Moved b s x (match s.cached x.process with
      | some v => s.goto x.process x.thread (.done v)
      | none => s.goto x.process x.thread .waiting) := by
    cases s.cached x.process with
    | none => exact .outside _ .waiting rfl rfl rfl fun _ h => nomatch h
    | some v => exact .outside _ (.done v) rfl rfl rfl fun _ h => nomatch h
  unfold LazyInit.step
  dsimp only
  cases hpc : s.pc (x.process, x.thread) with
  | idle | done _ | failed => exact hcall
  | waiting =>
    cases s.lock x.process with
    | none => exact .outside _ .locked rfl rfl rfl fun _ h => nomatch h
    | some holder => exact .idle
  | locked =>
    cases s.cached x.process with
    | none => exact .enter
    | some v => exact .outside _ (.done v) rfl rfl rfl fun _ h => nomatch h
  | inside l => exact .work l hpc

/-- A value that is kept does not change in a step. -/
theorem Inv.cached_step (h : Inv s) (b : Body χ lc sh ν) (x : Label π τ χ) {v : ν}
    (hv : s.cached p = some v) : (LazyInit.step b s x).cached p = some v := by
  have hmoved := moved_step b s x
  generalize LazyInit.step b s x = s' at hmoved ⊢
  cases hmoved with
  | idle | enter => exact hv
  | outside y hy hshared hcached hpc => rw [hcached, hv]
  | work l hl =>
    cases (b.step x.choice l s.shared).1 with
    | more l' => exact hv
    | error => exact hv
    | value v' =>
      by_cases hp : p = x.process
      · rw [hp, (h x.process).inside x.thread l hl] at hv
        cases hv
      · exact (Function.update_of_ne hp ..).trans hv

end Inv

end LazyInit
