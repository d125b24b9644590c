import ProxmoxIaas.Admin.TenantScope
import ProxmoxIaas.Foundation.Transitions
import ProxmoxIaas.Reconciler.Model

/-!
# The Status Machine of VMs

All the writers of `VM.status`: the actions of the endpoints, `fix_ghost_vm`, the two tasks that
set up a VM, and the correction of drifts by the reconciler. Each of them loads a row, works for
a while, and commits a status that it has chosen without looking at the row again.

A request or run that is never continued has failed or crashed. A task that is retried or
redelivered is started again for the same row.
-/

namespace ProxmoxIaas.VmStatusMachine

open Reconciler (VmRecord ReconcilerDb ProviderCalls Drift)

/-- What is asked of a VM that has a row. -/
inductive Request where
  /-- `start_vm_logic`. -/
  | start
  /-- `stop_vm_logic`. -/
  | stop
  /-- `restart_vm_logic`. -/
  | restart
  /-- `Reconciler.fix_ghost_vm`. -/
  | fixGhost
  deriving DecidableEq, Repr

/-- `validate_vm_action`, for the text of a status. The repair of a ghost checks nothing. -/
def validateVmAction (status : String) : Request → Except ApiError Unit
  | .start => Except.require
      (.valueError s!"Cannot start VM with status '{status}'. VM must be stopped or in error state.")
      (status ∈ ["stopped", "error"])
  | .stop => Except.require
      (.valueError s!"Cannot stop VM with status '{status}'. VM must be running.")
      (status ∈ ["running"])
  | .restart => Except.require
      (.valueError s!"Cannot restart VM with status '{status}'. VM must be running.")
      (status ∈ ["running"])
  | .fixGhost => return

/-- The status that a request commits after its calls to the provider. -/
def Request.target : Request → String
  | .start => "running"
  | .stop => "stopped"
  | .restart => "running"
  | .fixGhost => "pending"

/-- A request between its check and its commit. -/
structure Call where
  /-- What is asked. -/
  request : Request
  /-- The VM. -/
  vmId : ℕ
  /-- The row as the session has loaded it. -/
  vm : VmRecord
  /-- The row has passed the check. -/
  valid : validateVmAction vm.status request = .ok ()

/-- The arguments of `deploy_vm_task` that its check looks at. -/
structure VmData where
  /-- The name. -/
  name : Option String
  /-- The tenant. -/
  tenantId : Option ℕ
  /-- The number of cores. -/
  cpu : Option ℤ
  /-- The memory in MiB. -/
  ram : Option ℤ
  deriving DecidableEq, Repr

/-- `_validate_vm_data`. -/
def validateVmData (data : VmData) : Except ApiError Unit := do
  Except.require (.valueError "Missing required field: name") (truthyText data.name ≠ none)
  Except.require (.valueError "Missing required field: tenant_id") (truthy data.tenantId ≠ none)
  Except.require (.valueError "CPU must be at least 1") (∀ cpu ∈ data.cpu, 1 ≤ cpu)
  Except.require (.valueError "RAM must be at least 256MB") (∀ ram ∈ data.ram, 256 ≤ ram)

/-- How far a run of `deploy_vm_task` has come. -/
inductive DeployPhase where
  /-- The row was found. -/
  | begun
  /-- A row with an error was committed as pending. -/
  | reset
  /-- The row was committed as provisioning. -/
  | provisioning
  deriving DecidableEq, Repr

/-- A run of `deploy_vm_task` between two of its commits. -/
structure DeployRun where
  /-- The VM. -/
  vmId : ℕ
  /-- The row as the session has loaded it; a commit expires it. -/
  session : Option VmRecord
  /-- How far the run has come. -/
  phase : DeployPhase
  deriving DecidableEq, Repr

/-- How far a run of `provision_vm_task` has come. -/
inductive ProvisionPhase where
  /-- The row was found. -/
  | begun
  /-- The id of the hypervisor is committed. -/
  | saved
  /-- The SSH keys are committed. -/
  | keyed
  deriving DecidableEq, Repr

/-- A run of `provision_vm_task` between two of its commits. -/
structure ProvisionRun where
  /-- The VM. -/
  vmId : ℕ
  /-- Whether the machine is started. -/
  autoStart : Bool
  /-- The row as the session has loaded it; a commit expires it. -/
  session : Option VmRecord
  /-- How far the run has come. -/
  phase : ProvisionPhase
  deriving DecidableEq, Repr

/-- A run of `_reconcile_single_provider` after its audit. -/
structure ReconcileRun where
  /-- How the calls to the provider end. -/
  calls : ProviderCalls
  /-- What the audit has reported. -/
  report : Reconciler.Report
  /-- Whether the deletion of the ghosts is committed. -/
  purged : Bool
  /-- The drifts that the loop has still to visit. -/
  items : List Drift
  /-- The rows that the loop has loaded, with the status that it has assigned to each. -/
  loaded : Table ℕ (VmRecord × String)

/-- The committed database, and the requests and runs in flight. -/
structure State where
  /-- The committed database. -/
  db : ReconcilerDb
  /-- Open requests. -/
  calls : Table ℕ Call
  /-- Runs of `deploy_vm_task`. -/
  deploys : Table ℕ DeployRun
  /-- Runs of `provision_vm_task`. -/
  provisions : Table ℕ ProvisionRun
  /-- Runs of the reconciler. -/
  reconciles : Table ℕ ReconcileRun

/-- The steps of the system. Requests and runs are named by a number of the caller's choice. -/
inductive Event where
  /-- An endpoint inserts a row, with its first status. -/
  | create (vm : VmRecord)
  /-- An endpoint deletes a row. -/
  | delete (vmId : ℕ)
  /-- A request loads and checks its VM. -/
  | openRequest (call vmId : ℕ) (request : Request)
  /-- A request whose calls to the provider have returned is committed; `found` is the address
  that a start has seen. -/
  | commitRequest (call : ℕ) (found : Option String)
  /-- A first, retried or redelivered run of the deployment task finds its row. -/
  | beginDeploy (run vmId : ℕ) (data : VmData)
  /-- A deployment commits a row with an error as pending. -/
  | commitPending (run : ℕ)
  /-- A deployment loads its row again after a commit. -/
  | reloadDeploy (run : ℕ)
  /-- A deployment commits its row as provisioning. -/
  | commitProvisioning (run : ℕ)
  /-- A deployment refuses a Docker VM with a network. -/
  | refuseDeploy (run : ℕ)
  /-- A deployment commits its success. -/
  | commitRunning (run : ℕ) (ipAddress : Option String)
  /-- A deployment raises, and cleans up. -/
  | failDeploy (run : ℕ)
  /-- A first or redelivered run of the provisioning task finds its row. -/
  | beginProvision (run vmId : ℕ) (autoStart : Bool)
  /-- A provisioning run commits the id of the hypervisor. -/
  | saveId (run : ℕ)
  /-- A provisioning run that generates a key pair loads its row again for the name. -/
  | reloadProvision (run : ℕ)
  /-- A provisioning run commits the SSH keys. -/
  | saveKeys (run : ℕ)
  /-- A provisioning run commits its completion, with the address it has assigned and the
  network that it has matched. -/
  | completeProvision (run : ℕ) (ipAddress : Option String) (networkId : Option ℕ)
  /-- A provisioning run raises, and takes its failure path. -/
  | failProvision (run : ℕ)
  /-- The reconciler audits a provider. -/
  | audit (run : ℕ) (calls : ProviderCalls) (provider : String)
  /-- The reconciler removes the orphans and commits the deletion of the ghosts. -/
  | purge (run : ℕ)
  /-- The reconciler loads the row of the next drift. -/
  | loadDrift (run : ℕ)
  /-- The reconciler commits the statuses of the containers. -/
  | commitDrift (run : ℕ)

/-- The lookup of the rows of VMs. -/
abbrev State.vm? (s : State) : ℕ → Option VmRecord := s.db.vms.get?

/-- A row is rewritten, if it still exists. -/
def State.modify (s : State) (vmId : ℕ) (write : VmRecord → VmRecord) : State :=
  { s with db := { s.db with vms := s.db.vms.modify vmId write } }

/-- A session commits a status. -/
def writeStatus (session : Option VmRecord) (target : String) (vm : VmRecord) : VmRecord :=
  { vm with status := writeColumn session (·.status) target vm.status }

/-- Insert a row, unless its name is taken. -/
def createStep (s : State) (vm : VmRecord) : State :=
  match s.db.vms.first? fun _ stored => stored.name = vm.name with
  | some _ => s
  | none => { s with db := { s.db with vms := s.db.vms.add vm } }

/-- Open a request whose check passes. -/
def openStep (s : State) (call vmId : ℕ) (request : Request) : State :=
  match s.vm? vmId with
  | some vm =>
    if h : validateVmAction vm.status request = .ok () then
      { s with calls := s.calls.insert call { request, vmId, vm, valid := h } }
    else s
  | none => s

/-- Commit a request. Only a start on the hypervisor looks for an address. -/
def commitStep (s : State) (call : ℕ) (found : Option String) : State :=
  match s.calls.get? call with
  | some { request, vmId, vm := loaded, .. } =>
    { s.modify vmId fun vm =>
        { writeStatus (some loaded) request.target vm with
          ipAddress :=
            if request = .start ∧ loaded.provider = "proxmox" ∧ truthyText found ≠ none then
              writeColumn (some loaded) (·.ipAddress) found vm.ipAddress
            else vm.ipAddress } with
      calls := s.calls.erase call }
  | none => s

/-- Start a deployment whose arguments are valid. -/
def beginDeployStep (s : State) (run vmId : ℕ) (data : VmData) : State :=
  match validateVmData data, s.vm? vmId with
  | .ok _, some vm =>
    { s with deploys := s.deploys.insert run { vmId, session := some vm, phase := .begun } }
  | _, _ => s

/-- A deployment commits a status that does not end it, which expires the session. If the row is
gone the commit fails and leaves the session unusable, so the clean-up writes nothing either. -/
def State.commitDeploy (s : State) (run : ℕ) (deploy : DeployRun) (target : String)
    (phase : DeployPhase) : State :=
  match s.vm? deploy.vmId with
  | some _ =>
    { s.modify deploy.vmId (writeStatus deploy.session target) with
      deploys := s.deploys.insert run { deploy with session := none, phase } }
  | none => { s with deploys := s.deploys.erase run }

/-- A deployment commits a status that ends it. -/
def State.endDeploy (s : State) (run : ℕ) (deploy : DeployRun) (target : String)
    (ipAddress : Option String) : State :=
  { s.modify deploy.vmId fun vm =>
      { writeStatus deploy.session target vm with
        ipAddress := match truthyText ipAddress with
          | some ip => writeColumn deploy.session (·.ipAddress) (some ip) vm.ipAddress
          | none => vm.ipAddress } with
    deploys := s.deploys.erase run }

/-- Commit a row that had an error as pending. -/
def commitPendingStep (s : State) (run : ℕ) : State :=
  match s.deploys.get? run with
  | some deploy =>
    if deploy.phase = .begun ∧ deploy.session.map (·.status) = some "error" then
      s.commitDeploy run deploy "pending" .reset
    else s
  | none => s

/-- Load the row of a deployment after a commit. Without the row the access raises, and the
clean-up fails too. -/
def reloadDeployStep (s : State) (run : ℕ) : State :=
  match s.deploys.get? run with
  | some deploy =>
    if deploy.session = none then
      match s.vm? deploy.vmId with
      | some vm => { s with deploys := s.deploys.insert run { deploy with session := some vm } }
      | none => { s with deploys := s.deploys.erase run }
    else s
  | none => s

/-- A deployment is about to commit its row as provisioning: the row had no error, or was
committed as pending. -/
def DeployRun.entersProvisioning (deploy : DeployRun) : Bool :=
  match deploy.phase, deploy.session with
  | .begun, some vm => vm.status ≠ "error"
  | .reset, some _ => true
  | _, _ => false

/-- Commit a row as provisioning. -/
def commitProvisioningStep (s : State) (run : ℕ) : State :=
  match s.deploys.get? run with
  | some deploy =>
    if deploy.entersProvisioning then s.commitDeploy run deploy "provisioning" .provisioning else s
  | none => s

/-- The row of a deployment is loaded after its commit as provisioning, and is refused or not. -/
def DeployRun.decides (deploy : DeployRun) (refused : Bool) : Bool :=
  match deploy.phase, deploy.session with
  | .provisioning, some vm =>
    decide (truthy vm.networkId ≠ none ∧ vm.provider = "docker") == refused
  | _, _ => false

/-- Refuse a Docker VM with a network. -/
def refuseDeployStep (s : State) (run : ℕ) : State :=
  match s.deploys.get? run with
  | some deploy => if deploy.decides true then s.endDeploy run deploy "error" none else s
  | none => s

/-- Commit the success of a deployment. -/
def commitRunningStep (s : State) (run : ℕ) (ipAddress : Option String) : State :=
  match s.deploys.get? run with
  | some deploy => if deploy.decides false then s.endDeploy run deploy "running" ipAddress else s
  | none => s

/-- `_cleanup_vm_on_failure`. -/
def failDeployStep (s : State) (run : ℕ) : State :=
  match s.deploys.get? run with
  | some deploy => s.endDeploy run deploy "error" none
  | none => s

/-- Start a provisioning run. -/
def beginProvisionStep (s : State) (run vmId : ℕ) (autoStart : Bool) : State :=
  match s.vm? vmId with
  | some vm =>
    { s with
      provisions := s.provisions.insert run
        { vmId, autoStart, session := some vm, phase := .begun } }
  | none => s

/-- A provisioning run commits columns other than the status. -/
def State.saveProvision (s : State) (run : ℕ) (before after : ProvisionPhase) : State :=
  match s.provisions.get? run with
  | some provision =>
    if provision.phase = before then
      match s.vm? provision.vmId with
      | some _ =>
        { s with
          provisions := s.provisions.insert run { provision with session := none, phase := after } }
      | none => { s with provisions := s.provisions.erase run }
    else s
  | none => s

/-- Load the row again for the name in the comment of a generated key. -/
def reloadProvisionStep (s : State) (run : ℕ) : State :=
  match s.provisions.get? run with
  | some provision =>
    if provision.phase = .saved then
      match s.vm? provision.vmId with
      | some vm =>
        { s with provisions := s.provisions.insert run { provision with session := some vm } }
      | none => { s with provisions := s.provisions.erase run }
    else s
  | none => s

/-- The status of a VM that is set up. -/
def ProvisionRun.target (provision : ProvisionRun) : String :=
  if provision.autoStart then "running" else "stopped"

/-- Complete a provisioning run. Its session was expired by the commit of the keys. -/
def completeStep (s : State) (run : ℕ) (ipAddress : Option String) (networkId : Option ℕ) :
    State :=
  match s.provisions.get? run with
  | some provision =>
    if provision.phase = .keyed then
      { s.modify provision.vmId fun vm =>
          { writeStatus none provision.target vm with
            ipAddress := (truthyText ipAddress).or vm.ipAddress
            networkId := if truthyText ipAddress ≠ none ∧ truthy vm.networkId = none then
              networkId.or vm.networkId else vm.networkId } with
        provisions := s.provisions.erase run }
    else s
  | none => s

/-- Take the failure path of a provisioning run. -/
def failProvisionStep (s : State) (run : ℕ) : State :=
  match s.provisions.get? run with
  | some provision =>
    { s.modify provision.vmId (writeStatus provision.session "error") with
      provisions := s.provisions.erase run }
  | none => s

/-- Audit a provider. -/
def auditStep (s : State) (run : ℕ) (calls : ProviderCalls) (provider : String) : State :=
  match Reconciler.auditSingleProvider s.db calls provider with
  | some report =>
    { s with
      reconciles := s.reconciles.insert run
        { calls, report, purged := false, items := report.drift, loaded := ∅ } }
  | none => s

/-- Remove the orphans, and delete the ghosts. -/
def purgeStep (s : State) (run : ℕ) : State :=
  match s.reconciles.get? run with
  | some reconcile =>
    if reconcile.purged = false ∧ reconcile.calls.lookupAgain = true then
      match Reconciler.purgeOrphans reconcile.calls reconcile.report.orphans with
      | some _ =>
        { s with
          db := (Reconciler.purgeGhosts s.db reconcile.report.ghosts).1
          reconciles := s.reconciles.insert run { reconcile with purged := true } }
      | none => { s with reconciles := s.reconciles.erase run }
    else s
  | none => s

/-- Load the row of the next drift, if it still has one. -/
def loadDriftStep (s : State) (run : ℕ) : State :=
  match s.reconciles.get? run with
  | some { calls, report, purged := true, items := item :: items, loaded } =>
    { s with
      reconciles := s.reconciles.insert run
        { calls, report, purged := true, items
          loaded := match s.vm? item.vmId with
            | some vm => loaded.insert item.vmId (vm, item.realStatus)
            | none => loaded } }
  | _ => s

/-- What the commit of the drifts does to a row. -/
def correctStatus (loaded : Table ℕ (VmRecord × String)) (vmId : ℕ) (vm : VmRecord) : VmRecord :=
  match loaded.get? vmId with
  | some (row, target) => writeStatus (some row) target vm
  | none => vm

/-- Every row with a status to be written still exists; otherwise the commit fails as a whole. -/
def State.canCommit (s : State) (loaded : Table ℕ (VmRecord × String)) : Bool :=
  (loaded.select fun vmId entry => entry.1.status ≠ entry.2 ∧ (s.vm? vmId).isNone).isEmpty

/-- Commit the statuses of the containers. -/
def commitDriftStep (s : State) (run : ℕ) : State :=
  match s.reconciles.get? run with
  | some { purged := true, items := [], loaded, .. } =>
    if s.canCommit loaded then
      { s with
        db := { s.db with vms := s.db.vms.mapRows (correctStatus loaded) }
        reconciles := s.reconciles.erase run }
    else { s with reconciles := s.reconciles.erase run }
  | _ => s

/-- The state after a step. -/
def step (s : State) : Event → State
  | .create vm => createStep s vm
  | .delete vmId =>
    { s with db := { s.db with vms := s.db.vms.deleteWhere fun id _ => id = vmId } }
  | .openRequest call vmId request => openStep s call vmId request
  | .commitRequest call found => commitStep s call found
  | .beginDeploy run vmId data => beginDeployStep s run vmId data
  | .commitPending run => commitPendingStep s run
  | .reloadDeploy run => reloadDeployStep s run
  | .commitProvisioning run => commitProvisioningStep s run
  | .refuseDeploy run => refuseDeployStep s run
  | .commitRunning run ipAddress => commitRunningStep s run ipAddress
  | .failDeploy run => failDeployStep s run
  | .beginProvision run vmId autoStart => beginProvisionStep s run vmId autoStart
  | .saveId run => s.saveProvision run .begun .saved
  | .reloadProvision run => reloadProvisionStep s run
  | .saveKeys run => s.saveProvision run .saved .keyed
  | .completeProvision run ipAddress networkId => completeStep s run ipAddress networkId
  | .failProvision run => failProvisionStep s run
  | .audit run calls provider => auditStep s run calls provider
  | .purge run => purgeStep s run
  | .loadDrift run => loadDriftStep s run
  | .commitDrift run => commitDriftStep s run

/-- The system, started with any rows and nothing in flight. -/
def machine : Machine State Event where
  init s := s.calls = ∅ ∧ s.deploys = ∅ ∧ s.provisions = ∅ ∧ s.reconciles = ∅
  step := step

end ProxmoxIaas.VmStatusMachine
