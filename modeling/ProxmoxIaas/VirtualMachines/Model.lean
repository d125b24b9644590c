import ProxmoxIaas.Foundation.Ipv4
import ProxmoxIaas.Provisioning.Model
import Mathlib.Data.List.Perm.Subperm

/-!
# Virtual Machines

The rows of virtual machines, the machines on the hypervisor, the task that provisions a
machine, and the actions that start, stop and delete one.

The provisioning task asks the hypervisor for an id, commits it, and clones the template to it
in three separate steps. An action captures the id of a row and calls the hypervisor before it
commits.

## Main results

- `get?_nextId`, `isSome_get?_of_lt_nextId`: the id that the hypervisor offers is the lowest
  free one.
-/

namespace ProxmoxIaas

/-- The values of `VM.status`. -/
inductive VmStatus where
  | pending
  | creating
  | provisioning
  | running
  | stopped
  | error
  deriving DecidableEq, Repr

/-- The text stored for the status of a VM. -/
def VmStatus.text : VmStatus → String
  | pending => "pending"
  | creating => "creating"
  | provisioning => "provisioning"
  | running => "running"
  | stopped => "stopped"
  | error => "error"

/-- A row of `vms`: the columns that provisioning and the actions use. -/
structure VM where
  /-- Unique name. -/
  name : String
  /-- The owner. -/
  tenantId : ℕ
  /-- The provider that runs the VM. -/
  provider : String
  /-- Lifecycle status. -/
  status : VmStatus
  /-- The id of the VM on the hypervisor. -/
  proxmoxVmId : Option ℕ
  /-- The address of the VM. -/
  ipAddress : Option String
  /-- The network of the VM. -/
  networkId : Option ℕ
  /-- Disk size in MiB. -/
  diskSizeMb : ℕ
  /-- The user that is given SSH access. -/
  sshUser : Option String
  /-- The public key of that user. -/
  sshPublicKey : Option String
  /-- The generated private key, encrypted. -/
  sshPrivateKeyEnc : Option String
  /-- The text of the last error. -/
  error : Option String
  deriving DecidableEq, Repr

/-- The committed content of the tables that VMs use. -/
structure VmDb where
  /-- Table `vms`. -/
  vms : Serial VM
  /-- Table `tenant_networks`. -/
  tenantNetworks : Serial TenantNetwork

/-- A machine on the hypervisor. -/
structure HypervisorVm where
  /-- The row the machine was cloned for; other machines of the cluster have none. -/
  clonedFor : Option ℕ
  /-- Whether the machine is running. -/
  running : Bool
  deriving DecidableEq, Repr

/-- The machines of the cluster, by id. -/
abbrev Hypervisor := Table ℕ HypervisorVm

/-- The lowest free id among some ids in a row, or the one after them. -/
def lowestFree (hypervisor : Hypervisor) : ℕ → ℕ → ℕ
  | 0, id => id
  | count + 1, id =>
    if (hypervisor.get? id).isSome then lowestFree hypervisor count (id + 1) else id

/-- The query `cluster/nextid`: the lowest free id from 100 on. -/
def nextId (hypervisor : Hypervisor) : ℕ := lowestFree hypervisor hypervisor.keys.length 100

/-- The calls of an action to the hypervisor. -/
inductive HypervisorCall where
  | start
  | stop
  | destroy
  deriving DecidableEq, Repr

/-- The effect of a call that succeeds. -/
def HypervisorCall.apply (hypervisor : Hypervisor) (id : ℕ) : HypervisorCall → Hypervisor
  | .start => hypervisor.modify id fun vm => { vm with running := true }
  | .stop => hypervisor.modify id fun vm => { vm with running := false }
  | .destroy => hypervisor.erase id

/-- The actions on a VM. -/
inductive VmAction where
  /-- `start_vm_logic`. -/
  | start
  /-- `stop_vm_logic`. -/
  | stop
  /-- `delete_vm_logic`. -/
  | delete (force : Bool)
  deriving DecidableEq, Repr

/-- `validate_vm_action`; a forced deletion is not validated. -/
def validateVmAction (vm : VM) : VmAction → Except ApiError Unit
  | .start => Except.require
      (.valueError s!"Cannot start VM with status '{vm.status.text
        }'. VM must be stopped or in error state.")
      (vm.status ∈ [VmStatus.stopped, .error])
  | .stop => Except.require
      (.valueError s!"Cannot stop VM with status '{vm.status.text}'. VM must be running.")
      (vm.status = .running)
  | .delete false => Except.require
      (.valueError "Cannot delete running VM. Stop it first or use force=true")
      (vm.status ≠ .running)
  | .delete true => return

/-- The calls of an action to the hypervisor, in order. `delete_vm` of the provider stops the
machine before it destroys it; errors of the calls are swallowed. -/
def VmAction.hypervisorCalls : VmAction → List HypervisorCall
  | .start => [.start]
  | .stop => [.stop]
  | .delete _ => [.stop, .destroy]

/-- An action between its check and its commit. -/
structure VmCall where
  /-- The action. -/
  action : VmAction
  /-- The VM. -/
  vmId : ℕ
  /-- The row as the session has loaded it. -/
  vm : VM
  /-- The calls to the hypervisor that are still to be made. -/
  pending : List HypervisorCall
  deriving DecidableEq, Repr

/-- The check of an action on a VM of the tenant. Only a VM of the hypervisor that has an id
there leads to calls. -/
def openVmCall (db : VmDb) (tenantId vmId : ℕ) (action : VmAction) : Except ApiError VmCall := do
  let vm ← Except.ofOption (.http 404 "VM not found")
    ((db.vms.get? vmId).filter fun vm => vm.tenantId = tenantId)
  validateVmAction vm action
  return {
    action
    vmId
    vm
    pending := if vm.provider = "proxmox" ∧ truthy vm.proxmoxVmId ≠ none
      then action.hypervisorCalls else [] }

/-- The commit of an action. `found` is the address that a start has seen. An update of a row
that is gone fails; a deletion does not. -/
def commitVmCall (db : VmDb) (call : VmCall) (found : Option String) : VmDb :=
  match call.action with
  | .start =>
    { db with
      vms := db.vms.modify call.vmId fun vm =>
        { vm with
          status := writeColumn (some call.vm) (·.status) .running vm.status
          ipAddress := match truthyText found with
            | some ip => writeColumn (some call.vm) (·.ipAddress) (some ip) vm.ipAddress
            | none => vm.ipAddress } }
  | .stop =>
    { db with
      vms := db.vms.modify call.vmId fun vm =>
        { vm with status := writeColumn (some call.vm) (·.status) .stopped vm.status } }
  | .delete _ => { db with vms := db.vms.deleteWhere fun id _ => id = call.vmId }

/-- The insertion of a VM by the provisioning endpoint; names are unique. -/
def createVm (db : VmDb) (tenantId : ℕ) (name : String) (diskSizeMb : ℕ)
    (ipAddress : Option String) : Option VmDb :=
  match db.vms.first? fun _ vm => vm.name = name with
  | some _ => none
  | none => some { db with
      vms := db.vms.add
        { name
          tenantId
          provider := "proxmox"
          status := .provisioning
          proxmoxVmId := none
          ipAddress
          networkId := none
          diskSizeMb
          sshUser := some "ubuntu"
          sshPublicKey := none
          sshPrivateKeyEnc := none
          error := none } }

/-- The parts of `provision_data` that reach the row. -/
structure ProvisionData where
  /-- A public key of the user's own. -/
  sshPublicKey : Option String
  /-- The user that is given SSH access. -/
  username : String
  /-- A static address. -/
  ipAddress : Option String
  /-- Whether the machine is started. -/
  autoStart : Bool
  deriving DecidableEq, Repr

/-- How far a run of `provision_vm_task` has come. -/
inductive VmPhase where
  /-- The row was found. -/
  | begun
  /-- The hypervisor has offered an id. -/
  | asked (proxmoxVmId : ℕ)
  /-- The id is committed. -/
  | saved (proxmoxVmId : ℕ)
  /-- The SSH keys are committed. -/
  | keyed (proxmoxVmId : ℕ)
  /-- The template is cloned to the id. -/
  | cloned (proxmoxVmId : ℕ)
  /-- A step after the clone has raised an error. -/
  | raised
  deriving DecidableEq, Repr

/-- A run of `provision_vm_task` between two of its steps. -/
structure VmRun where
  /-- The VM. -/
  vmId : ℕ
  /-- The arguments of the task. -/
  data : ProvisionData
  /-- The row as the session has loaded it; a commit expires it. -/
  session : Option VM
  /-- How far the run has come. -/
  phase : VmPhase
  deriving DecidableEq, Repr

/-- The column that a run writes when it saves its id. -/
def VM.saveId (session : Option VM) (proxmoxVmId : ℕ) (vm : VM) : VM :=
  { vm with
    proxmoxVmId := writeColumn session (·.proxmoxVmId) (some proxmoxVmId) vm.proxmoxVmId }

/-- The columns that a run writes with the SSH keys: those of the user, or a generated pair. -/
def VM.saveKeys (data : ProvisionData) (publicKey privateKeyEnc : String) (vm : VM) : VM :=
  { vm with
    sshPrivateKeyEnc := if truthyText data.sshPublicKey = none then some privateKeyEnc
      else vm.sshPrivateKeyEnc
    sshPublicKey := (truthyText data.sshPublicKey).or (some publicKey)
    sshUser := some data.username }

/-- The address that a completed run assigns: the static one, or the one that the guest agent
has reported for a started machine. -/
def assignedIp (data : ProvisionData) (found : Option String) : Option String :=
  if data.autoStart then (truthyText data.ipAddress).or (truthyText found)
  else truthyText data.ipAddress

/-- An address lies in the range of a network. -/
def inCidr (ip cidr : String) : Bool :=
  match Ipv4.parse? ip.toList, Ipv4Net.parse? cidr.toList with
  | some x, some net => x ∈ net
  | _, _ => false

/-- The network of a VM after its address is assigned: the one it has, or the first network of
the tenant that the address lies in. -/
def assignedNetwork (db : VmDb) (vm : VM) (ip : String) : Option ℕ :=
  if truthy vm.networkId ≠ none then vm.networkId
  else
    match db.tenantNetworks.first? fun _ network =>
        network.tenantId = vm.tenantId ∧ inCidr ip network.cidr with
    | some (networkId, _) => some networkId
    | none => vm.networkId

/-- The columns that a completed run writes. -/
def VM.complete (db : VmDb) (data : ProvisionData) (diskSizeMb : Option ℕ)
    (found : Option String) (vm : VM) : VM :=
  { vm with
    diskSizeMb := diskSizeMb.getD vm.diskSizeMb
    status := if data.autoStart then .running else .stopped
    ipAddress := (assignedIp data found).or vm.ipAddress
    networkId := match assignedIp data found with
      | some ip => assignedNetwork db vm ip
      | none => vm.networkId }

/-- The columns that the failure path of a run writes. -/
def VM.fail (session : Option VM) (message : String) (vm : VM) : VM :=
  { vm with
    status := writeColumn session (·.status) .error vm.status
    error := writeColumn session (·.error) (some message) vm.error }

/-- What the search over `count` ids finds. -/
private theorem lowestFree_spec (hypervisor : Hypervisor) (count id : ℕ) :
    id ≤ lowestFree hypervisor count id ∧
      (∀ k, id ≤ k → k < lowestFree hypervisor count id → (hypervisor.get? k).isSome) ∧
      (lowestFree hypervisor count id = id + count ∨
        hypervisor.get? (lowestFree hypervisor count id) = none) := by
  induction count generalizing id with
  | zero => exact ⟨Nat.le_refl _, fun k hle hlt => absurd hle (Nat.not_le.mpr hlt), Or.inl rfl⟩
  | succ count ih =>
    rw [lowestFree]
    split
    case isTrue hused =>
      obtain ⟨hle, hbelow, hfree⟩ := ih (id + 1)
      refine ⟨by omega, fun k hk hlt => ?_, ?_⟩
      · rcases Nat.eq_or_lt_of_le hk with rfl | hgt
        · exact hused
        · exact hbelow k hgt hlt
      · rcases hfree with heq | hfree
        · exact Or.inl (by omega)
        · exact Or.inr hfree
    case isFalse hfree =>
      refine ⟨Nat.le_refl _, fun k hle hlt => absurd hle (Nat.not_le.mpr hlt), Or.inr ?_⟩
      exact Option.not_isSome_iff_eq_none.mp hfree

/-- The offered id is free. -/
theorem get?_nextId (hypervisor : Hypervisor) : hypervisor.get? (nextId hypervisor) = none := by
  obtain ⟨-, hbelow, hend | hfree⟩ := lowestFree_spec hypervisor hypervisor.keys.length 100
  · -- If all the ids that were tried were used, they would be more than the keys.
    by_contra hused
    have hsub : List.range' 100 (hypervisor.keys.length + 1) ⊆ hypervisor.keys := by
      intro k hk
      rw [List.mem_range'_1] at hk
      rw [← AList.mem_keys, ← AList.lookup_isSome]
      rcases Nat.lt_or_ge k (nextId hypervisor) with hlt | hge
      · exact hbelow k hk.1 hlt
      · have hk' : k = nextId hypervisor := by
          have : nextId hypervisor = 100 + hypervisor.keys.length := hend
          omega
        rw [hk']
        exact Option.isSome_iff_ne_none.mpr hused
    have hlength := ((List.nodup_range' 1).subperm hsub).length_le
    rw [List.length_range'] at hlength
    omega
  · exact hfree

/-- The ids below the offered one are used. -/
theorem isSome_get?_of_lt_nextId {hypervisor : Hypervisor} {id : ℕ} (hle : 100 ≤ id)
    (hlt : id < nextId hypervisor) : (hypervisor.get? id).isSome :=
  (lowestFree_spec hypervisor hypervisor.keys.length 100).2.1 id hle hlt

end ProxmoxIaas
