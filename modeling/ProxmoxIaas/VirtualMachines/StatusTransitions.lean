import ProxmoxIaas.VirtualMachines.StatusMachine

/-!
# Transitions of the Status of VMs

`VALID_STATUS_TRANSITIONS` is a table that only the override of an administrator consults. Here
it is compared with what the other writers do. A step commits at most one status for a row, and
`statusWrite` says which; the change is one of the table exactly when the status that is
committed at that moment is among those that may precede it.

## Main results

- `step_of_statusWrite`, `rows_of_statusWrite_eq_none`: what a step does to the rows.
- `mayCommit_call_iff`: what the checks of the requests are worth.
- `respects_statusTable_iff`: the runs whose changes are all in the table.
-/

namespace ProxmoxIaas.VmStatusMachine

open AdminScope (allowedTransitions)
open Reconciler (VmRecord)
open Transitions

/-- The statuses that the table lets precede a status, and that status itself. -/
def safeBefore : String → List String
  | "pending" => ["pending", "creating", "error"]
  | "creating" => ["creating", "pending"]
  | "provisioning" => ["provisioning", "pending", "creating"]
  | "running" => ["running", "pending", "provisioning", "stopped"]
  | "stopped" => ["stopped", "running", "error"]
  | "error" => ["error", "pending", "creating", "provisioning", "running", "stopped"]
  | status => [status]

/-- The reversed table is the table. -/
theorem mem_safeBefore_iff (current target : String) :
    current ∈ safeBefore target ↔ (current ≠ target → target ∈ allowedTransitions current) := by
  unfold safeBefore allowedTransitions
  split <;> split <;> simp_all

/-- Every change of a committed status between two states is in the table. -/
def StatusTable (s s' : State) : Prop :=
  Moves (fun current target => target ∈ allowedTransitions current) VmRecord.status s.vm? s'.vm?

/-- A status that a step commits for a row, with what the session had loaded of the row. -/
structure StatusWrite where
  /-- The VM. -/
  vmId : ℕ
  /-- The row as the session has loaded it. -/
  session : Option VmRecord
  /-- The status. -/
  target : String

/-- The status that a step commits. The commit of the drifts has a list of them. -/
def statusWrite (s : State) : Event → Option StatusWrite
  | .commitRequest call _ =>
    (s.calls.get? call).map fun call => ⟨call.vmId, some call.vm, call.request.target⟩
  | .commitPending run =>
    ((s.deploys.get? run).filter fun deploy =>
      deploy.phase = .begun ∧ deploy.session.map (·.status) = some "error").map
        fun deploy => ⟨deploy.vmId, deploy.session, "pending"⟩
  | .commitProvisioning run =>
    ((s.deploys.get? run).filter (·.entersProvisioning)).map
      fun deploy => ⟨deploy.vmId, deploy.session, "provisioning"⟩
  | .refuseDeploy run =>
    ((s.deploys.get? run).filter (·.decides true)).map
      fun deploy => ⟨deploy.vmId, deploy.session, "error"⟩
  | .commitRunning run _ =>
    ((s.deploys.get? run).filter (·.decides false)).map
      fun deploy => ⟨deploy.vmId, deploy.session, "running"⟩
  | .failDeploy run =>
    (s.deploys.get? run).map fun deploy => ⟨deploy.vmId, deploy.session, "error"⟩
  | .completeProvision run _ _ =>
    ((s.provisions.get? run).filter fun provision => provision.phase = .keyed).map
      fun provision => ⟨provision.vmId, none, provision.target⟩
  | .failProvision run =>
    (s.provisions.get? run).map fun provision => ⟨provision.vmId, provision.session, "error"⟩
  | _ => none

/-- The status may be committed: the row is gone or its committed status may precede it, or the
session had loaded that very status and writes nothing. -/
def State.mayCommit (s : State) (w : StatusWrite) : Bool :=
  w.session.map (·.status) = some w.target ∨
    (s.vm? w.vmId).all fun vm => vm.status ∈ safeBefore w.target

/-- The step keeps to the table. -/
def keepsTable (s : State) : Event → Bool
  | .commitDrift run =>
    match s.reconciles.get? run with
    | some { purged := true, items := [], loaded, .. } =>
      !s.canCommit loaded ||
        (loaded.select fun vmId entry => !s.mayCommit ⟨vmId, some entry.1, entry.2⟩).isEmpty
    | _ => true
  | e => (statusWrite s e).all s.mayCommit

variable {s : State} {e : Event}

theorem mayCommit_eq_true_iff (w : StatusWrite) :
    s.mayCommit w = true ↔ w.session.map (·.status) = some w.target ∨
      ∀ vm, s.vm? w.vmId = some vm → vm.status ∈ safeBefore w.target := by
  simp only [State.mayCommit, decide_eq_true_eq, Option.all_eq_true]

theorem mayCommit_iff (w : StatusWrite) :
    s.mayCommit w = true ↔ ∀ vm, s.vm? w.vmId = some vm →
      vm.status ≠ (writeStatus w.session w.target vm).status →
        (writeStatus w.session w.target vm).status ∈ allowedTransitions vm.status := by
  rw [mayCommit_eq_true_iff]
  simp only [writeStatus, writeColumn]
  by_cases hsame : w.session.map (·.status) = some w.target
  · simp [hsame]
  · simp [hsame, mem_safeBefore_iff]

theorem vm?_modify (vmId k : ℕ) (f : VmRecord → VmRecord) :
    (s.modify vmId f).vm? k = if k = vmId then (s.vm? k).map f else s.vm? k :=
  Serial.get?_modify ..

theorem vm?_commitDeploy (run k : ℕ) (deploy : DeployRun) (target : String)
    (phase : DeployPhase) :
    (s.commitDeploy run deploy target phase).vm? k =
      if k = deploy.vmId then (s.vm? k).map (writeStatus deploy.session target)
      else s.vm? k := by
  rw [State.commitDeploy]
  split
  case h_1 => exact vm?_modify ..
  case h_2 hnone =>
    -- the commit fails, and the row that is gone stays gone
    by_cases hk : k = deploy.vmId
    · rw [if_pos hk, hk, hnone, Option.map_none]
    · rw [if_neg hk]

/-- Of a request whose row nobody has written meanwhile, the check rules out every change that is
not in the table, except a start after an error and the repair of a VM that is no ghost. -/
theorem mayCommit_call_iff {call : Call} (h : s.vm? call.vmId = some call.vm) :
    s.mayCommit ⟨call.vmId, some call.vm, call.request.target⟩ = true ↔
      match call.request with
      | .start => call.vm.status ≠ "error"
      | .stop | .restart => True
      | .fixGhost => call.vm.status ∈ safeBefore "pending" := by
  obtain ⟨request, vmId, vm, hvalid⟩ := call
  have hiff : s.mayCommit ⟨vmId, some vm, request.target⟩ = true ↔
      vm.status = request.target ∨ vm.status ∈ safeBefore request.target := by
    simp [mayCommit_eq_true_iff, show s.vm? vmId = some vm from h]
  dsimp only
  rw [hiff]
  cases request with
  | start =>
    obtain hstatus | hstatus : vm.status = "stopped" ∨ vm.status = "error" := by
      simpa [validateVmAction, Except.require_eq_ok_iff] using hvalid
    · simp [hstatus, Request.target, safeBefore]
    · simp [hstatus, Request.target, safeBefore]
  | stop =>
    have hstatus : vm.status = "running" := by
      simpa [validateVmAction, Except.require_eq_ok_iff] using hvalid
    simp [hstatus, Request.target, safeBefore]
  | restart =>
    have hstatus : vm.status = "running" := by
      simpa [validateVmAction, Except.require_eq_ok_iff] using hvalid
    simp [hstatus, Request.target]
  | fixGhost =>
    -- the session may have loaded the target itself, which is among the safe statuses
    refine or_iff_right_of_imp fun hstatus => ?_
    rw [hstatus]
    exact List.mem_cons_self

/-- What a step with a status to commit does to the rows. -/
theorem step_of_statusWrite {w : StatusWrite} (h : statusWrite s e = some w) :
    ∃ f : VmRecord → VmRecord,
      (∀ vmId, (step s e).vm? vmId = if vmId = w.vmId then (s.vm? vmId).map f else s.vm? vmId) ∧
      ∀ vm, (f vm).status = (writeStatus w.session w.target vm).status := by
  cases e with
  | commitRequest call found =>
    simp only [statusWrite, Option.map_eq_some_iff] at h
    obtain ⟨call, hcall, rfl⟩ := h
    simp only [step, commitStep, hcall]
    exact ⟨_, fun vmId => vm?_modify .., fun vm => rfl⟩
  | commitPending run =>
    obtain ⟨deploy, hpending, rfl⟩ := Option.map_eq_some_iff.mp h
    obtain ⟨hrun, hphase⟩ := Option.filter_eq_some_iff.mp hpending
    have hstep : step s (.commitPending run) = s.commitDeploy run deploy "pending" .reset := by
      simp only [step, commitPendingStep, hrun]
      exact if_pos (of_decide_eq_true hphase)
    rw [hstep]
    exact ⟨_, fun vmId => vm?_commitDeploy .., fun vm => rfl⟩
  | commitProvisioning run =>
    simp only [statusWrite, Option.map_eq_some_iff, Option.filter_eq_some_iff] at h
    obtain ⟨deploy, ⟨hrun, hphase⟩, rfl⟩ := h
    simp only [step, commitProvisioningStep, hrun, if_pos hphase]
    exact ⟨_, fun vmId => vm?_commitDeploy .., fun vm => rfl⟩
  | refuseDeploy run =>
    simp only [statusWrite, Option.map_eq_some_iff, Option.filter_eq_some_iff] at h
    obtain ⟨deploy, ⟨hrun, hphase⟩, rfl⟩ := h
    simp only [step, refuseDeployStep, hrun, if_pos hphase]
    exact ⟨_, fun vmId => vm?_modify .., fun vm => rfl⟩
  | commitRunning run ipAddress =>
    simp only [statusWrite, Option.map_eq_some_iff, Option.filter_eq_some_iff] at h
    obtain ⟨deploy, ⟨hrun, hphase⟩, rfl⟩ := h
    simp only [step, commitRunningStep, hrun, if_pos hphase]
    exact ⟨_, fun vmId => vm?_modify .., fun vm => rfl⟩
  | failDeploy run =>
    simp only [statusWrite, Option.map_eq_some_iff] at h
    obtain ⟨deploy, hrun, rfl⟩ := h
    simp only [step, failDeployStep, hrun]
    exact ⟨_, fun vmId => vm?_modify .., fun vm => rfl⟩
  | completeProvision run ipAddress networkId =>
    simp only [statusWrite, Option.map_eq_some_iff, Option.filter_eq_some_iff] at h
    obtain ⟨provision, ⟨hrun, hphase⟩, rfl⟩ := h
    simp only [step, completeStep, hrun, if_pos (of_decide_eq_true hphase)]
    exact ⟨_, fun vmId => vm?_modify .., fun vm => rfl⟩
  | failProvision run =>
    simp only [statusWrite, Option.map_eq_some_iff] at h
    obtain ⟨provision, hrun, rfl⟩ := h
    simp only [step, failProvisionStep, hrun]
    exact ⟨_, fun vmId => vm?_modify .., fun vm => rfl⟩
  -- the other steps commit no status
  | _ => cases h

/-- A step without a status to commit rewrites no row: it inserts or deletes one at most. -/
theorem rows_of_statusWrite_eq_none (h : statusWrite s e = none)
    (hdrift : ∀ run, e ≠ .commitDrift run) {vmId : ℕ} {vm vm' : VmRecord}
    (hget : s.vm? vmId = some vm) (hget' : (step s e).vm? vmId = some vm') : vm = vm' := by
  -- Where the rows stay as they are, both lookups are the same.
  have hsame : (step s e).db = s.db → vm = vm' := by
    intro hdb
    rw [State.vm?, hdb, ← State.vm?, hget] at hget'
    exact Option.some.inj hget'
  cases e with
  | create new =>
    simp only [step, createStep] at hget' hsame
    split at hget'
    case h_1 => exact Option.some.inj (hget.symm.trans hget')
    case h_2 =>
      rw [State.vm?, Serial.get?_add] at hget'
      split at hget'
      case isTrue hnew =>
        -- the new row has a key of its own
        rw [hnew, State.vm?, Serial.get?_next] at hget
        cases hget
      case isFalse => exact Option.some.inj (hget.symm.trans hget')
  | delete id =>
    simp only [step, State.vm?, Serial.get?_deleteWhere, Option.filter_eq_some_iff] at hget'
    exact Option.some.inj (hget.symm.trans hget'.1)
  | purge run =>
    simp only [step, purgeStep] at hget' hsame
    split at hget'
    case h_2 => exact Option.some.inj (hget.symm.trans hget')
    case h_1 =>
      split at hget'
      case isFalse => exact Option.some.inj (hget.symm.trans hget')
      case isTrue =>
        split at hget'
        case h_2 => exact Option.some.inj (hget.symm.trans hget')
        case h_1 =>
          rw [State.vm?, Reconciler.get?_purgeGhosts] at hget'
          split at hget'
          case isTrue => cases hget'
          case isFalse => exact Option.some.inj (hget.symm.trans hget')
  | commitDrift run => exact absurd rfl (hdrift run)
  | openRequest call id request =>
    refine hsame ?_
    simp only [step, openStep]
    split
    case h_1 => split <;> rfl
    case h_2 => rfl
  | commitRequest call found =>
    refine hsame ?_
    rw [statusWrite, Option.map_eq_none_iff] at h
    simp only [step, commitStep, h]
  | beginDeploy run id data =>
    refine hsame ?_
    simp only [step, beginDeployStep]
    split <;> rfl
  | commitPending run =>
    refine hsame ?_
    simp only [statusWrite, Option.map_eq_none_iff, Option.filter_eq_none_iff] at h
    simp only [step, commitPendingStep]
    split
    case h_1 deploy hrun =>
      have hoff := h deploy hrun
      rw [decide_eq_true_eq] at hoff
      rw [if_neg hoff]
    case h_2 => rfl
  | reloadDeploy run =>
    refine hsame ?_
    simp only [step, reloadDeployStep]
    repeat' split
    all_goals rfl
  | commitProvisioning run =>
    refine hsame ?_
    simp only [statusWrite, Option.map_eq_none_iff, Option.filter_eq_none_iff] at h
    simp only [step, commitProvisioningStep]
    split
    case h_1 deploy hrun => rw [if_neg (h deploy hrun)]
    case h_2 => rfl
  | refuseDeploy run =>
    refine hsame ?_
    simp only [statusWrite, Option.map_eq_none_iff, Option.filter_eq_none_iff] at h
    simp only [step, refuseDeployStep]
    split
    case h_1 deploy hrun => rw [if_neg (h deploy hrun)]
    case h_2 => rfl
  | commitRunning run ipAddress =>
    refine hsame ?_
    simp only [statusWrite, Option.map_eq_none_iff, Option.filter_eq_none_iff] at h
    simp only [step, commitRunningStep]
    split
    case h_1 deploy hrun => rw [if_neg (h deploy hrun)]
    case h_2 => rfl
  | failDeploy run =>
    refine hsame ?_
    rw [statusWrite, Option.map_eq_none_iff] at h
    simp only [step, failDeployStep, h]
  | beginProvision run id autoStart =>
    refine hsame ?_
    simp only [step, beginProvisionStep]
    split <;> rfl
  | saveId run =>
    refine hsame ?_
    simp only [step, State.saveProvision]
    repeat' split
    all_goals rfl
  | reloadProvision run =>
    refine hsame ?_
    simp only [step, reloadProvisionStep]
    repeat' split
    all_goals rfl
  | saveKeys run =>
    refine hsame ?_
    simp only [step, State.saveProvision]
    repeat' split
    all_goals rfl
  | completeProvision run ipAddress networkId =>
    refine hsame ?_
    simp only [statusWrite, Option.map_eq_none_iff, Option.filter_eq_none_iff] at h
    simp only [step, completeStep]
    split
    case h_1 provision hrun =>
      have hoff := h provision hrun
      rw [decide_eq_true_eq] at hoff
      rw [if_neg hoff]
    case h_2 => rfl
  | failProvision run =>
    refine hsame ?_
    rw [statusWrite, Option.map_eq_none_iff] at h
    simp only [step, failProvisionStep, h]
  | audit run calls provider =>
    refine hsame ?_
    simp only [step, auditStep]
    split <;> rfl
  | loadDrift run =>
    refine hsame ?_
    simp only [step, loadDriftStep]
    split <;> rfl

/-- The statuses of the drifts may be committed when each of them may. -/
theorem correctStatus_iff (loaded : Table ℕ (VmRecord × String)) :
    (∀ vmId vm, s.vm? vmId = some vm → vm.status ≠ (correctStatus loaded vmId vm).status →
        (correctStatus loaded vmId vm).status ∈ allowedTransitions vm.status) ↔
      ∀ vmId entry, loaded.get? vmId = some entry →
        (!s.mayCommit ⟨vmId, some entry.1, entry.2⟩) = false := by
  simp only [Bool.not_eq_false', mayCommit_iff]
  constructor
  · intro hrows vmId entry hentry vm hget
    have hrow := hrows vmId vm hget
    rwa [correctStatus, hentry] at hrow
  · intro hentries vmId vm hget
    rw [correctStatus]
    split
    case h_1 row target hentry => exact hentries vmId (row, target) hentry vm hget
    -- a row that was not loaded stays as it is
    case h_2 => exact fun hne => absurd rfl hne

/-- The commit of the drifts keeps to the table when each of its statuses may be committed. -/
theorem commitDrift_iff (run : ℕ) :
    StatusTable s (step s (.commitDrift run)) ↔ keepsTable s (.commitDrift run) = true := by
  show StatusTable s (commitDriftStep s run) ↔ _
  rw [keepsTable, commitDriftStep]
  cases hrun : s.reconciles.get? run with
  | none => exact iff_of_true (moves_refl _) rfl
  | some reconcile =>
    obtain ⟨calls, report, purged, items, loaded⟩ := reconcile
    match purged, items with
    | false, _ => exact iff_of_true (moves_refl _) rfl
    | true, _ :: _ => exact iff_of_true (moves_refl _) rfl
    | true, [] =>
      show StatusTable s (if s.canCommit loaded = true then _ else _) ↔
        (!s.canCommit loaded || _) = true
      by_cases hcan : s.canCommit loaded = true
      · rw [if_pos hcan, StatusTable, hcan,
          moves_map_iff (f := correctStatus loaded) fun k => Serial.get?_mapRows ..,
          Bool.not_true, Bool.false_or, Table.isEmpty_select_iff]
        exact correctStatus_iff loaded
      · rw [if_neg hcan]
        exact iff_of_true (moves_refl _) (by simp [hcan])

/-- A step keeps to the table exactly when the committed status may precede the one it writes. -/
theorem statusTable_iff : StatusTable s (step s e) ↔ keepsTable s e = true := by
  by_cases hdrift : ∃ run, e = .commitDrift run
  · obtain ⟨run, rfl⟩ := hdrift
    exact commitDrift_iff run
  · have hguard : keepsTable s e = (statusWrite s e).all s.mayCommit := by
      cases e with
      | commitDrift run => exact absurd ⟨run, rfl⟩ hdrift
      | _ => rfl
    rw [hguard]
    cases hwrite : statusWrite s e with
    | none =>
      refine iff_of_true (moves_of_rows fun k a b hget hget' => ?_) rfl
      exact rows_of_statusWrite_eq_none hwrite (not_exists.mp hdrift) hget hget'
    | some w =>
      obtain ⟨f, hrows, hstatus⟩ := step_of_statusWrite hwrite
      rw [StatusTable, moves_modify_iff hrows, Option.all_some, mayCommit_iff]
      simp only [hstatus]

/-- The system without rows. -/
def emptyState : State where
  db := { vms := .empty, ipReservations := .empty }
  calls := ∅
  deploys := ∅
  provisions := ∅
  reconciles := ∅

end ProxmoxIaas.VmStatusMachine
