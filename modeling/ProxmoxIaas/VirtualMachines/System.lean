import ProxmoxIaas.Foundation.Machine
import ProxmoxIaas.VirtualMachines.Model

/-!
# The Virtual Machine System

The requests and tasks that write the rows of VMs, interleaved at the granularity of commits
and of calls to the hypervisor.

The provisioning task is acknowledged late, so a run can be started at any time for any row, and
a run that is never continued has crashed. The same holds of requests.
-/

namespace ProxmoxIaas.VirtualMachines

/-- The committed database, the hypervisor, and the requests and runs in flight. -/
structure State where
  /-- The committed database. -/
  db : VmDb
  /-- The machines on the hypervisor. -/
  hypervisor : Hypervisor
  /-- Open actions. -/
  calls : Table ℕ VmCall
  /-- Runs of `provision_vm_task`. -/
  runs : Table ℕ VmRun

/-- The steps of the system. Requests and runs are named by a number of the caller's choice. -/
inductive Event where
  /-- The provisioning endpoint inserts a row. -/
  | createVm (tenantId : ℕ) (name : String) (diskSizeMb : ℕ) (ipAddress : Option String)
  /-- An action loads and checks its VM. -/
  | openCall (call tenantId vmId : ℕ) (action : VmAction)
  /-- An action makes its next call to the hypervisor, which may fail. -/
  | callHypervisor (call : ℕ) (succeeds : Bool)
  /-- An action is committed after its calls; `found` is the address that a start has seen. -/
  | commitCall (call : ℕ) (found : Option String)
  /-- A first or redelivered run of the provisioning task finds its row. -/
  | beginVm (run vmId : ℕ) (data : ProvisionData)
  /-- A run asks the hypervisor for an id. -/
  | askId (run : ℕ)
  /-- A run commits the id. -/
  | saveId (run : ℕ)
  /-- A run commits the SSH keys; a pair is generated if the user has given no key. -/
  | saveKeys (run : ℕ) (publicKey privateKeyEnc : String)
  /-- A run clones the template. `finished` tells whether the machine was also configured and
  started, and `started` whether it was started although the call has raised. -/
  | cloneVm (run : ℕ) (finished started : Bool)
  /-- A run commits its completion. -/
  | completeVm (run : ℕ) (diskSizeMb : Option ℕ) (found : Option String)
  /-- A run takes its failure path; the values were assigned before and not committed yet. -/
  | failVm (run : ℕ) (message : String) (diskSizeMb : Option ℕ) (ip : Option String)

/-- A run commits a write to its row, which expires the session. If the row is gone the commit
fails and leaves the session unusable, so the failure path writes nothing either. -/
def State.commitRun (s : State) (run vmId : ℕ) (write : VM → VM) (phase : VmPhase) : State :=
  match s.db.vms.get? vmId with
  | some _ =>
    { s with
      db := { s.db with vms := s.db.vms.modify vmId write }
      runs := s.runs.modify run fun vmRun => { vmRun with session := none, phase } }
  | none => { s with runs := s.runs.erase run }

/-- Insert a row, unless its name is taken. -/
def createStep (s : State) (tenantId : ℕ) (name : String) (diskSizeMb : ℕ)
    (ipAddress : Option String) : State :=
  match ProxmoxIaas.createVm s.db tenantId name diskSizeMb ipAddress with
  | some db => { s with db }
  | none => s

/-- Open an action whose check passes. -/
def openStep (s : State) (call tenantId vmId : ℕ) (action : VmAction) : State :=
  match openVmCall s.db tenantId vmId action with
  | .error _ => s
  | .ok vmCall => { s with calls := s.calls.insert call vmCall }

/-- Make the next call of an action. -/
def callStep (s : State) (call : ℕ) (succeeds : Bool) : State :=
  match s.calls.get? call with
  | some { vm, pending := next :: rest, .. } =>
    { s with
      hypervisor := match truthy vm.proxmoxVmId, succeeds with
        | some id, true => next.apply s.hypervisor id
        | _, _ => s.hypervisor
      calls := s.calls.modify call fun vmCall => { vmCall with pending := rest } }
  | _ => s

/-- Commit an action that has made its calls. -/
def commitStep (s : State) (call : ℕ) (found : Option String) : State :=
  match s.calls.get? call with
  | some vmCall =>
    if vmCall.pending = [] then
      { s with db := commitVmCall s.db vmCall found, calls := s.calls.erase call }
    else s
  | none => s

/-- Start a run for a row. -/
def beginStep (s : State) (run vmId : ℕ) (data : ProvisionData) : State :=
  match s.db.vms.get? vmId with
  | some vm =>
    { s with runs := s.runs.insert run { vmId, data, session := some vm, phase := .begun } }
  | none => s

/-- Ask for an id. -/
def askStep (s : State) (run : ℕ) : State :=
  match s.runs.get? run with
  | some { phase := .begun, .. } =>
    { s with
      runs := s.runs.modify run fun vmRun =>
        { vmRun with phase := .asked (nextId s.hypervisor) } }
  | _ => s

/-- Save the id that was offered. -/
def saveIdStep (s : State) (run : ℕ) : State :=
  match s.runs.get? run with
  | some { vmId, session, phase := .asked id, .. } =>
    s.commitRun run vmId (.saveId session id) (.saved id)
  | _ => s

/-- Save the SSH keys. -/
def saveKeysStep (s : State) (run : ℕ) (publicKey privateKeyEnc : String) : State :=
  match s.runs.get? run with
  | some { vmId, data, phase := .saved id, .. } =>
    s.commitRun run vmId (.saveKeys data publicKey privateKeyEnc) (.keyed id)
  | _ => s

/-- Clone the template to the saved id. Cloning to an id that exists fails. -/
def cloneStep (s : State) (run : ℕ) (finished started : Bool) : State :=
  match s.runs.get? run with
  | some { vmId, data, phase := .keyed id, .. } =>
    if (s.hypervisor.get? id).isSome then
      { s with runs := s.runs.modify run fun vmRun => { vmRun with phase := .raised } }
    else
      { s with
        hypervisor := s.hypervisor.insert id
          { clonedFor := some vmId, running := data.autoStart && (finished || started) }
        runs := s.runs.modify run fun vmRun =>
          { vmRun with phase := if finished then .cloned id else .raised } }
  | _ => s

/-- Complete a run that has cloned its machine. -/
def completeStep (s : State) (run : ℕ) (diskSizeMb : Option ℕ) (found : Option String) : State :=
  match s.runs.get? run with
  | some { vmId, data, phase := .cloned _, .. } =>
    { s with
      db := { s.db with
        vms := s.db.vms.modify vmId (.complete s.db data diskSizeMb found) }
      runs := s.runs.erase run }
  | _ => s

/-- Take the failure path. Its commit includes what the run had assigned after the clone. -/
def failStep (s : State) (run : ℕ) (message : String) (diskSizeMb : Option ℕ)
    (ip : Option String) : State :=
  match s.runs.get? run with
  | some { vmId, session, phase, .. } =>
    let write := match phase with
      -- Only the commit of the id can fail here, which leaves the session unusable.
      | .asked _ => id
      | .cloned _ => fun vm : VM =>
        { VM.fail session message vm with
          diskSizeMb := diskSizeMb.getD vm.diskSizeMb
          ipAddress := ip.or vm.ipAddress }
      | _ => VM.fail session message
    { s with
      db := { s.db with vms := s.db.vms.modify vmId write }
      runs := s.runs.erase run }
  | none => s

/-- The state after a step. -/
def step (s : State) : Event → State
  | .createVm tenantId name diskSizeMb ipAddress =>
    createStep s tenantId name diskSizeMb ipAddress
  | .openCall call tenantId vmId action => openStep s call tenantId vmId action
  | .callHypervisor call succeeds => callStep s call succeeds
  | .commitCall call found => commitStep s call found
  | .beginVm run vmId data => beginStep s run vmId data
  | .askId run => askStep s run
  | .saveId run => saveIdStep s run
  | .saveKeys run publicKey privateKeyEnc => saveKeysStep s run publicKey privateKeyEnc
  | .cloneVm run finished started => cloneStep s run finished started
  | .completeVm run diskSizeMb found => completeStep s run diskSizeMb found
  | .failVm run message diskSizeMb ip => failStep s run message diskSizeMb ip

/-- The VM system, started without rows. The cluster may run other machines, which were cloned
for no row. -/
def machine : Machine State Event where
  init s := (∀ id, s.db.vms.get? id = none) ∧
    (∀ id vm, s.hypervisor.get? id = some vm → vm.clonedFor = none) ∧
    s.calls = ∅ ∧ s.runs = ∅
  step := step

end ProxmoxIaas.VirtualMachines
