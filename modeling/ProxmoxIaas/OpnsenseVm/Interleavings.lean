import ProxmoxIaas.Foundation.Machine
import ProxmoxIaas.OpnsenseVm.Runs

/-!
# Interleaved Runs on One OPNsense VM

Any number of runs of the VLAN task and of the tunnel task, whose remote executions alternate in
any order. A run that has raised an exception, or whose worker has crashed, starts again from its
first execution when it is retried or delivered once more.

## Main results

- `step_cases`: what each step does to the VM and to the runs.
-/

namespace ProxmoxIaas.OpnsenseVm

/-- A run of a task on the VM. -/
structure Run where
  /-- What the run configures. -/
  job : Job
  /-- How far the run has come; `none` if it has stopped before its end. -/
  phase : Option Phase
  deriving DecidableEq, Repr

/-- The VM, the runs that work on it, and which run has written which interface. -/
structure State where
  /-- The VM. -/
  vm : Opnsense
  /-- The runs. -/
  runs : Serial Run
  /-- The interface entries that were written, each with the run. -/
  writes : List (ℕ × String)

/-- What can happen next. -/
inductive Event where
  /-- A worker takes up a task. -/
  | start (job : Job)
  /-- The next remote execution of a run; `device` is the answer of the WireGuard server. -/
  | execute (id : ℕ) (device : String)
  /-- A run raises an exception of its own, or its worker crashes. -/
  | stop (id : ℕ)
  /-- A run is retried or delivered again. -/
  | restart (id : ℕ)
  deriving DecidableEq, Repr

/-- The name of a WireGuard device. -/
def isTunnelDevice (name : String) : Bool := Text.startsWith name "wg"

/-- The interface entry that an execution writes. -/
def written (config : Config) : Phase → Option String
  | .addOpt _ opt => some opt
  -- The script ends without an edit if there is no such entry.
  | .setAddress _ opt => (config.interfaces.get? opt).map fun _ => opt
  | _ => none

/-- A run is in another phase. -/
def Run.at (run : Run) (phase : Option Phase) : Run := { run with phase }

/-- The next state. -/
def State.step (s : State) : Event → State
  | .start job => { s with runs := s.runs.add ⟨job, some job.start⟩ }
  | .stop id => { s with runs := s.runs.modify id (·.at none) }
  | .restart id => { s with runs := s.runs.modify id fun run => run.at (some run.job.start) }
  | .execute id device =>
    match s.runs.get? id with
    | some ⟨job, some phase⟩ =>
      -- The WireGuard server answers with the name of a WireGuard device.
      if isTunnelDevice device then
        match job.step device s.vm phase with
        | none => { s with runs := s.runs.modify id (·.at none) }
        | some (next, vm) =>
          { vm
            runs := s.runs.modify id (·.at (some next))
            writes := s.writes ++ ((written s.vm.config phase).map (id, ·)).toList }
      else s
    | _ => s

/-- The runs on a VM that has an arbitrary configuration when the first one starts. -/
def machine (vm : Opnsense) : Machine State Event where
  init s := s = { vm, runs := .empty, writes := [] }
  step := State.step

/-- What a step does to the state. -/
inductive Moved (s : State) : Event → State → Prop where
  /-- Runs are started, stopped or started again, or nothing happens. -/
  | runs (event : Event) {runs : Serial Run} (hruns : ∀ {id run}, runs.get? id = some run →
      s.runs.get? id = some run ∨ run.phase = none ∨ run.phase = some run.job.start) :
      Moved s event { s with runs }
  /-- An execution. -/
  | execute {id : ℕ} {device : String} {job : Job} {phase next : Phase} {vm : Opnsense}
      (hrun : s.runs.get? id = some ⟨job, some phase⟩) (hdevice : isTunnelDevice device = true)
      (hstep : job.step device s.vm phase = some (next, vm)) : Moved s (.execute id device)
        { vm
          runs := s.runs.modify id (·.at (some next))
          writes := s.writes ++ ((written s.vm.config phase).map (id, ·)).toList }

/-- A run that stops or starts again is the only one that changes. -/
theorem get?_modify_phase {runs : Serial Run} {id id' : ℕ} {phase : Run → Option Phase} {run : Run}
    (hphase : ∀ run, phase run = none ∨ phase run = some run.job.start)
    (h : (runs.modify id fun run => run.at (phase run)).get? id' = some run) :
    runs.get? id' = some run ∨ run.phase = none ∨ run.phase = some run.job.start := by
  rw [Serial.get?_modify] at h
  split at h
  case isTrue =>
    obtain ⟨old, -, rfl⟩ := Option.map_eq_some_iff.mp h
    exact Or.inr (hphase old)
  case isFalse => exact Or.inl h

/-- Every step starts, stops or restarts a run, or takes one execution of one run. -/
theorem step_cases (s : State) (event : Event) : Moved s event (s.step event) := by
  cases event with
  | start job =>
    refine .runs _ fun {id run} hget => ?_
    rw [Serial.get?_add] at hget
    split at hget
    case isTrue =>
      obtain rfl := Option.some.inj hget
      exact Or.inr (Or.inr rfl)
    case isFalse => exact Or.inl hget
  | stop id => exact .runs _ (get?_modify_phase fun _ => Or.inl rfl)
  | restart id => exact .runs _ (get?_modify_phase fun _ => Or.inr rfl)
  | execute id device =>
    dsimp only [State.step]
    split
    case h_1 job phase hrun =>
      split
      case isFalse => exact .runs _ Or.inl
      case isTrue hdevice =>
        split
        case h_1 => exact .runs _ (get?_modify_phase fun _ => Or.inl rfl)
        case h_2 next vm hstep => exact .execute hrun hdevice hstep
    case h_2 => exact .runs _ Or.inl

/-- The row of a run after its execution, and the rows of the others. -/
theorem get?_execute {runs : Serial Run} {id id' : ℕ} {job : Job} {phase next : Phase} {run : Run}
    (hrun : runs.get? id = some ⟨job, some phase⟩)
    (h : (runs.modify id (·.at (some next))).get? id' = some run) :
    (id' = id ∧ run = ⟨job, some next⟩) ∨ (id' ≠ id ∧ runs.get? id' = some run) := by
  rw [Serial.get?_modify] at h
  split at h
  case isTrue hid =>
    rw [hid, hrun] at h
    exact Or.inl ⟨hid, (Option.some.inj h).symm⟩
  case isFalse hid => exact Or.inr ⟨hid, h⟩

end ProxmoxIaas.OpnsenseVm
