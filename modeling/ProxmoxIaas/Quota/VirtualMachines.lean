import ProxmoxIaas.Foundation.Machine
import ProxmoxIaas.Foundation.Numerals
import ProxmoxIaas.Quota.Model
import ProxmoxIaas.VirtualMachines.NetworkLinks
import Mathlib.Algebra.Order.Field.Basic
import Mathlib.Algebra.Order.Ring.Rat
import Mathlib.Data.Rat.Cast.Order
import Mathlib.Tactic.Ring

/-!
# The Quota of VMs

`provision_vm` compares what is used and what is asked with the limits, and inserts the row later
in another transaction. It checks the disk size of the request, and no disk at all if the request
names none, but stores the size of the template then; its task replaces the stored size by what
the hypervisor reports. The resize of a disk is checked, the resizes of CPU and RAM are not.

A request that is refused, that a lock on the name of a VM stops, or that the endpoint takes for
a repetition, is one that is never continued; so is one that crashes. Restarting a VM writes
nothing, since only a running VM is restarted.

## Main results

- `insert_fits_iff`: the check of the provisioning endpoint, for a VM that is inserted at once.
- `vmQuota_kept`: where the quota is kept.
-/

namespace ProxmoxIaas.Quota

open VmReads (roundTenths)

/-- The sizes of a VM that the usage sums up. -/
inductive Resource where
  | cpu
  | ram
  | disk
  deriving DecidableEq, Repr

instance (p : Resource → Prop) [DecidablePred p] : Decidable (∀ resource, p resource) :=
  decidable_of_iff (p .cpu ∧ p .ram ∧ p .disk)
    ⟨fun ⟨hcpu, hram, hdisk⟩ resource => by cases resource <;> assumption,
      fun h => ⟨h .cpu, h .ram, h .disk⟩⟩

/-- The column of a size. -/
def VmRow.size (vm : VmRow) : Resource → Option ℕ
  | .cpu => vm.cpu
  | .ram => vm.ram
  | .disk => vm.diskSizeMb

/-- Write the column of a size. -/
def VmRow.resize (vm : VmRow) (size : ℕ) : Resource → VmRow
  | .cpu => { vm with cpu := some size }
  | .ram => { vm with ram := some size }
  | .disk => { vm with diskSizeMb := some size }

/-- `DiskResizeRequest`. -/
structure DiskResizeRequest where
  /-- The disk. -/
  disk : String
  /-- The size to add. -/
  size : String
  /-- Whether the VM is restarted afterwards. -/
  restartAfterResize : Bool
  deriving DecidableEq, Repr

/-- A request between its check and its last commit. -/
inductive Call where
  /-- `provision_vm`. -/
  | provision (tenantId : ℕ) (request : VMProvisionRequest)
  /-- `resize_vm_cpu` or `resize_vm_ram`, with the row as the session has loaded it. -/
  | resize (resource : Resource) (vmId : ℕ) (vm : VmRow) (size : ℕ)
  /-- `resize_vm_disk`, with the size of the disk before and the size that is added. -/
  | resizeDisk (vmId : ℕ) (vm : VmRow) (previousMib requestedMib : ℕ) (restart : Bool)
  /-- `resize_vm_disk` before the restart of the VM. -/
  | restart (vmId : ℕ)
  /-- `resize_vm_disk` after the restart of the VM. -/
  | restarted (vmId : ℕ) (vm : VmRow)
  /-- `delete_vm`. -/
  | delete (vmId : ℕ)
  deriving DecidableEq, Repr

/-- A run of `provision_vm_task`. -/
structure TaskRun where
  /-- The VM. -/
  vmId : ℕ
  /-- Whether the VM is started. -/
  autoStart : Bool
  deriving DecidableEq, Repr

/-- The committed database, and the requests and runs in flight. -/
structure VmState where
  /-- The tables that the provisioning endpoint reads. -/
  db : Db
  /-- Table `vms`. -/
  vms : Serial VmRow
  /-- Requests in flight. -/
  calls : Table ℕ Call
  /-- Runs of `provision_vm_task`. -/
  runs : Table ℕ TaskRun

/-- What a tenant uses. -/
def VmState.usage (s : VmState) (tenantId : ℕ) : Usage :=
  getCurrentUsage s.vms s.db.tenantNetworks tenantId

/-- The steps of the system. Requests and runs are named by a number of the caller's choice. -/
inductive VmEvent where
  /-- The checks of `provision_vm`. -/
  | openProvision (call tenantId : ℕ) (request : VMProvisionRequest)
  /-- `provision_vm` inserts the row; the template has a disk of some GiB. -/
  | insertVm (call templateDiskSize : ℕ)
  /-- A first or redelivered run of the task finds its row and commits the id of the hypervisor. -/
  | beginVm (run vmId : ℕ) (autoStart : Bool) (proxmoxVmId : ℕ)
  /-- A run commits its completion; `diskInfo` is the size of the disk on the hypervisor. -/
  | completeVm (run : ℕ) (diskInfo : Option ℕ)
  /-- A run takes its failure path, whose commit includes the size if it was assigned. -/
  | failVm (run : ℕ) (diskInfo : Option ℕ)
  /-- The checks of `delete_vm`. -/
  | openDelete (call tenantId vmId : ℕ) (force : Bool)
  /-- The commit of `delete_vm`. -/
  | commitDelete (call : ℕ)
  /-- The checks of `resize_vm_cpu`. -/
  | resizeVmCpu (call tenantId vmId cores : ℕ)
  /-- The checks of `resize_vm_ram`. -/
  | resizeVmRam (call tenantId vmId memoryMb : ℕ)
  /-- The commit of `resize_vm_cpu` or `resize_vm_ram`. -/
  | commitResize (call : ℕ)
  /-- The checks of `resize_vm_disk`; `diskInfo` is the size of the disk on the hypervisor. -/
  | resizeVmDisk (call tenantId vmId : ℕ) (request : DiskResizeRequest) (diskInfo : Option ℕ)
  /-- The commit of `resize_vm_disk`; `found` is the size that the hypervisor reports. -/
  | commitDiskResize (call : ℕ) (found : Option ℕ)
  /-- `resize_vm_disk` restarts the VM. -/
  | restartVm (call : ℕ)
  /-- `resize_vm_disk` commits the size that the hypervisor reports after the restart. -/
  | syncDisk (call : ℕ) (found : Option ℕ)

/-- `_parse_size_to_mib`. -/
def parseSizeToMib (size : String) : Option ℤ :=
  let text := (((Text.upper size).toList.dropWhile Text.isSpace).reverse.dropWhile
    Text.isSpace).reverse
  match text.getLast? with
  | some 'M' => Text.integer? text.dropLast
  | some 'G' => (Text.integer? text.dropLast).map (· * 1024)
  | some 'T' => (Text.integer? text.dropLast).map (· * 1024 * 1024)
  | _ => Text.integer? text

/-- The row that `provision_vm` inserts. -/
def newVm (tenantId : ℕ) (request : VMProvisionRequest) (templateDiskSize : ℕ) : VmRow where
  name := request.name
  tenantId := tenantId
  provider := "proxmox"
  status := "provisioning"
  proxmoxVmId := none
  cpu := some request.cpu
  ram := some request.ram
  diskSizeMb := some ((truthy request.diskSizeGb).getD templateDiskSize * 1024)

/-- The commit of a size: the session writes a column that differs from what it has loaded. -/
def writeSize (vms : Serial VmRow) (vmId : ℕ) (vm : VmRow) (size : ℕ) (resource : Resource) :
    Serial VmRow :=
  if vm.size resource = some size then vms else vms.modify vmId (·.resize size resource)

section Endpoints

variable (settings : ℕ → QuotaSettings) (s : VmState)

/-- The checks of `provision_vm`. -/
def openProvisionStep (call tenantId : ℕ) (request : VMProvisionRequest) : VmState :=
  match provisionNetwork s.db tenantId request,
    checkVmQuota (settings tenantId) (s.usage tenantId) request.cpu request.ram
      (request.diskSizeGb.getD 0) with
  | .ok _, .ok _ =>
    if request.Valid then { s with calls := s.calls.insert call (.provision tenantId request) }
    else s
  | _, _ => s

/-- Insert the row of a request, unless its name is taken. -/
def insertVmStep (call templateDiskSize : ℕ) : VmState :=
  match s.calls.get? call with
  | some (.provision tenantId request) =>
    { s with
      vms := if (s.vms.first? fun _ vm => vm.name = request.name).isSome then s.vms
        else s.vms.add (newVm tenantId request templateDiskSize)
      calls := s.calls.erase call }
  | _ => s

/-- Start a run for a row. -/
def beginVmStep (run vmId : ℕ) (autoStart : Bool) (proxmoxVmId : ℕ) : VmState :=
  match s.vms.get? vmId with
  | some _ =>
    { s with
      vms := s.vms.modify vmId fun vm => { vm with proxmoxVmId := some proxmoxVmId }
      runs := s.runs.insert run { vmId, autoStart } }
  | none => s

/-- End a run with a status, and with the size of the disk that it has assigned. -/
def endRun (run : ℕ) (status : TaskRun → String) (diskInfo : Option ℕ) : VmState :=
  match s.runs.get? run with
  | some taskRun =>
    { s with
      vms := s.vms.modify taskRun.vmId fun vm =>
        { vm with status := status taskRun, diskSizeMb := diskInfo.or vm.diskSizeMb }
      runs := s.runs.erase run }
  | none => s

/-- Complete a run. -/
def completeVmStep (run : ℕ) (diskInfo : Option ℕ) : VmState :=
  endRun s run (fun taskRun => if taskRun.autoStart then "running" else "stopped") diskInfo

/-- Take the failure path. -/
def failVmStep (run : ℕ) (diskInfo : Option ℕ) : VmState :=
  endRun s run (fun _ => "error") diskInfo

/-- The VM of a request of its tenant. -/
def findVm (tenantId vmId : ℕ) : Except ApiError VmRow := do
  let vm ← Except.ofOption (.http 404 s!"VM {vmId} not found") (s.vms.get? vmId)
  Except.require (.http 403 "You don't have access to this VM") (vm.tenantId = tenantId)
  return vm

/-- The checks of `delete_vm`. -/
def openDelete (tenantId vmId : ℕ) (force : Bool) : Except ApiError Unit := do
  let vm ← Except.ofOption (.http 404 "VM not found")
    ((s.vms.get? vmId).filter fun vm => vm.tenantId = tenantId)
  Except.require (.valueError "Cannot delete running VM. Stop it first or use force=true")
    (force = true ∨ vm.status ≠ "running")

/-- Open a deletion. -/
def openDeleteStep (call tenantId vmId : ℕ) (force : Bool) : VmState :=
  match openDelete s tenantId vmId force with
  | .ok _ => { s with calls := s.calls.insert call (.delete vmId) }
  | .error _ => s

/-- Delete a row. -/
def commitDeleteStep (call : ℕ) : VmState :=
  match s.calls.get? call with
  | some (.delete vmId) =>
    { s with vms := s.vms.deleteWhere fun id _ => id = vmId, calls := s.calls.erase call }
  | _ => s

/-- The checks of `resize_vm_cpu` and `resize_vm_ram`: there is none of the quota. -/
def openResize (unsupported : String) (tenantId vmId : ℕ) : Except ApiError VmRow := do
  let vm ← findVm s tenantId vmId
  Except.require (.http 400 unsupported) (vm.provider = "proxmox")
  Except.require (.http 400 s!"VM {vmId} has no Proxmox VM ID configured") (vm.proxmoxVmId ≠ none)
  return vm

/-- Open a resize to a size within the limits of its schema. -/
def resizeStep (resource : Resource) (low high : ℕ) (unsupported : String)
    (call tenantId vmId size : ℕ) : VmState :=
  match openResize s unsupported tenantId vmId with
  | .ok vm =>
    if low ≤ size ∧ size ≤ high then
      { s with calls := s.calls.insert call (.resize resource vmId vm size) }
    else s
  | .error _ => s

/-- Open a resize of the CPU. -/
def resizeVmCpuStep (call tenantId vmId cores : ℕ) : VmState :=
  resizeStep s .cpu 1 32 "CPU resize only supported for Proxmox VMs" call tenantId vmId cores

/-- Open a resize of the RAM. -/
def resizeVmRamStep (call tenantId vmId memoryMb : ℕ) : VmState :=
  resizeStep s .ram 512 65536 "RAM resize only supported for Proxmox VMs" call tenantId vmId
    memoryMb

/-- Commit a resize of the CPU or the RAM. -/
def commitResizeStep (call : ℕ) : VmState :=
  match s.calls.get? call with
  | some (.resize resource vmId vm size) =>
    { s with vms := writeSize s.vms vmId vm size resource, calls := s.calls.erase call }
  | _ => s

/-- The checks of `resize_vm_disk`. A size that is not a number, and an exceeded quota, are errors
that the endpoint does not handle. -/
def openDiskResize (tenantId vmId : ℕ) (request : DiskResizeRequest) (diskInfo : Option ℕ) :
    Except ApiError Call := do
  let vm ← findVm s tenantId vmId
  Except.require (.http 400 s!"VM {vmId} has no Proxmox VM ID configured")
    (vm.provider = "proxmox" → vm.proxmoxVmId ≠ none)
  let previousMib ← Except.ofOption (.http 400 s!"Disk {request.disk} not found on VM {vmId}")
    diskInfo
  let requestedMib ← Except.ofOption (.http 500 "Internal Server Error")
    (parseSizeToMib request.size)
  Except.require (.http 400 "Size must be greater than 0") (0 < requestedMib)
  (checkDiskResizeQuota (settings tenantId) (s.usage tenantId) requestedMib.toNat).mapError
    fun _ => .http 500 "Internal Server Error"
  return .resizeDisk vmId vm previousMib requestedMib.toNat request.restartAfterResize

/-- Open a resize of a disk. The schema wants a relative size. -/
def resizeVmDiskStep (call tenantId vmId : ℕ) (request : DiskResizeRequest)
    (diskInfo : Option ℕ) : VmState :=
  match openDiskResize settings s tenantId vmId request diskInfo with
  | .ok resize =>
    if Text.startsWith request.size "+" then { s with calls := s.calls.insert call resize } else s
  | .error _ => s

/-- Commit a resize of a disk. -/
def commitDiskResizeStep (call : ℕ) (found : Option ℕ) : VmState :=
  match s.calls.get? call with
  | some (.resizeDisk vmId vm previousMib requestedMib restart) =>
    { s with
      vms := writeSize s.vms vmId vm ((truthy found).getD (previousMib + requestedMib)) .disk
      calls := if restart then s.calls.insert call (.restart vmId) else s.calls.erase call }
  | _ => s

/-- Restart the VM of a resized disk, and load its row again. -/
def restartVmStep (call : ℕ) : VmState :=
  match s.calls.get? call with
  | some (.restart vmId) =>
    match (s.vms.get? vmId).filter fun vm => vm.status = "running" with
    | some vm => { s with calls := s.calls.insert call (.restarted vmId vm) }
    | none => { s with calls := s.calls.erase call }
  | _ => s

/-- Commit the size that the hypervisor reports after a restart. -/
def syncDiskStep (call : ℕ) (found : Option ℕ) : VmState :=
  match s.calls.get? call with
  | some (.restarted vmId vm) =>
    { s with
      vms := match truthy found with
        | some size => writeSize s.vms vmId vm size .disk
        | none => s.vms
      calls := s.calls.erase call }
  | _ => s

/-- The state after a step. -/
def vmStep : VmEvent → VmState
  | .openProvision call tenantId request => openProvisionStep settings s call tenantId request
  | .insertVm call templateDiskSize => insertVmStep s call templateDiskSize
  | .beginVm run vmId autoStart proxmoxVmId => beginVmStep s run vmId autoStart proxmoxVmId
  | .completeVm run diskInfo => completeVmStep s run diskInfo
  | .failVm run diskInfo => failVmStep s run diskInfo
  | .openDelete call tenantId vmId force => openDeleteStep s call tenantId vmId force
  | .commitDelete call => commitDeleteStep s call
  | .resizeVmCpu call tenantId vmId cores => resizeVmCpuStep s call tenantId vmId cores
  | .resizeVmRam call tenantId vmId memoryMb => resizeVmRamStep s call tenantId vmId memoryMb
  | .commitResize call => commitResizeStep s call
  | .resizeVmDisk call tenantId vmId request diskInfo =>
    resizeVmDiskStep settings s call tenantId vmId request diskInfo
  | .commitDiskResize call found => commitDiskResizeStep s call found
  | .restartVm call => restartVmStep s call
  | .syncDisk call found => syncDiskStep s call found

end Endpoints

/-- The quota is kept with VMs, cores, memory and disks. -/
structure WithinVmQuota (quota : QuotaSettings) (usage : Usage) : Prop where
  vmCount : ∀ max ∈ quota.maxVms, usage.vmCount ≤ max
  cpuCores : ∀ max ∈ quota.maxCpuCores, usage.cpuCores ≤ max
  ramMb : ∀ max ∈ quota.maxRamMb, usage.ramMb ≤ max
  diskGb : ∀ max ∈ quota.maxDiskGb, usage.diskGb ≤ max

section

variable (settings : ℕ → QuotaSettings) (tenantId : ℕ)

/-- The system with fixed quotas, started within the quota of a tenant. -/
def vmMachine : Machine VmState VmEvent where
  init s := WithinVmQuota (settings tenantId) (s.usage tenantId) ∧ s.calls = ∅ ∧ s.runs = ∅
  step := vmStep settings

/-- A total of some size is within the limit. -/
def Fits (quota : QuotaSettings) (total : ℕ) : Resource → Prop
  | .cpu => ∀ max ∈ quota.maxCpuCores, total ≤ max
  | .ram => ∀ max ∈ quota.maxRamMb, total ≤ max
  | .disk => ∀ max ∈ quota.maxDiskGb, roundTenths total ≤ max

instance (quota : QuotaSettings) (total : ℕ) : DecidablePred (Fits quota total)
  | .cpu => inferInstanceAs (Decidable (∀ max ∈ quota.maxCpuCores, total ≤ max))
  | .ram => inferInstanceAs (Decidable (∀ max ∈ quota.maxRamMb, total ≤ max))
  | .disk => inferInstanceAs (Decidable (∀ max ∈ quota.maxDiskGb, roundTenths total ≤ max))

/-- A write that may raise the usage. -/
inductive VmWrite where
  /-- A new row. -/
  | insert (vm : VmRow)
  /-- A new size of a row. -/
  | resize (vmId : ℕ) (resource : Resource) (size : ℕ)

/-- What the commit of a size writes. -/
def sizeWrite (vmId : ℕ) (vm : VmRow) (size : ℕ) (resource : Resource) : Option VmWrite :=
  if vm.size resource = some size then none else some (.resize vmId resource size)

/-- The write of a step that may raise the usage. -/
def usageWrite (s : VmState) : VmEvent → Option VmWrite
  | .insertVm call templateDiskSize =>
    match s.calls.get? call with
    | some (.provision tenantId request) =>
      if (s.vms.first? fun _ vm => vm.name = request.name).isSome then none
      else some (.insert (newVm tenantId request templateDiskSize))
    | _ => none
  | .completeVm run diskInfo | .failVm run diskInfo =>
    match s.runs.get? run, diskInfo with
    | some taskRun, some size => some (.resize taskRun.vmId .disk size)
    | _, _ => none
  | .commitResize call =>
    match s.calls.get? call with
    | some (.resize resource vmId vm size) => sizeWrite vmId vm size resource
    | _ => none
  | .commitDiskResize call found =>
    match s.calls.get? call with
    | some (.resizeDisk vmId vm previousMib requestedMib _) =>
      sizeWrite vmId vm ((truthy found).getD (previousMib + requestedMib)) .disk
    | _ => none
  | .syncDisk call found =>
    match s.calls.get? call, truthy found with
    | some (.restarted vmId vm), some size => sizeWrite vmId vm size .disk
    | _, _ => none
  | _ => none

/-- The total of a size over the VMs of a tenant. -/
abbrev totalOf (vms : Serial VmRow) (resource : Resource) : ℕ :=
  vms.total (sizeFor tenantId (·.size resource))

/-- The write leaves the usage of the tenant within the limits. -/
def VmWrite.fits (quota : QuotaSettings) (vms : Serial VmRow) : VmWrite → Bool
  | insert vm => vm.tenantId ≠ tenantId ||
    ((∀ max ∈ quota.maxVms, (vms.count fun vm => vm.tenantId = tenantId) + 1 ≤ max) &&
      ∀ resource, Fits quota (totalOf tenantId vms resource + (vm.size resource).getD 0) resource)
  | resize vmId resource size =>
    (vms.get? vmId).all fun vm => vm.tenantId ≠ tenantId ||
      Fits quota (totalOf tenantId vms resource + size - (vm.size resource).getD 0) resource

/-- What the step writes leaves the usage of the tenant within its limits. -/
def keepsVmQuota (s : VmState) (e : VmEvent) : Bool :=
  (usageWrite s e).all (VmWrite.fits tenantId (settings tenantId) s.vms)

end

section Rounding

/-- Rounding to tenths is monotone. -/
theorem roundTenths_mono {m n : ℤ} (h : m ≤ n) : roundTenths m ≤ roundTenths n := by
  unfold roundTenths
  refine div_le_div_of_nonneg_right (Int.cast_le.mpr ?_) (by norm_num)
  have htenths : m * 10 / 1024 ≤ n * 10 / 1024 := by omega
  have hrest : m * 10 / 1024 = n * 10 / 1024 → m * 10 % 1024 ≤ n * 10 % 1024 := by omega
  -- the rest decides only between equal tenths
  generalize m * 10 / 1024 = tenths, m * 10 % 1024 = rest at htenths hrest ⊢
  generalize n * 10 / 1024 = tenths', n * 10 % 1024 = rest' at htenths hrest ⊢
  split_ifs <;> omega

/-- Whole GiB can be added after rounding. -/
theorem roundTenths_add_gib (m : ℤ) (gib : ℕ) :
    roundTenths (m + 1024 * gib) = roundTenths m + gib := by
  unfold roundTenths
  dsimp only
  have htenths : (m + 1024 * gib) * 10 / 1024 = m * 10 / 1024 + 10 * gib := by omega
  have hrest : (m + 1024 * gib) * 10 % 1024 = m * 10 % 1024 := by omega
  -- adding ten times a number keeps the parity of the tenths
  have hparity : (m * 10 / 1024 + 10 * (gib : ℤ)) % 2 = m * 10 / 1024 % 2 := by omega
  rw [htenths, hrest, hparity]
  split_ifs <;> push_cast <;> ring

end Rounding

section Kept

variable {settings : ℕ → QuotaSettings} {tenantId : ℕ} {quota : QuotaSettings}
  {vms vms' : Serial VmRow} {networks : Serial TenantNetwork} {s : VmState}

/-- A smaller total is within the limit, too. -/
theorem Fits.mono {m n : ℕ} {resource : Resource} (hle : m ≤ n) (h : Fits quota n resource) :
    Fits quota m resource := by
  cases resource with
  | cpu => exact fun max hmax => Nat.le_trans hle (h max hmax)
  | ram => exact fun max hmax => Nat.le_trans hle (h max hmax)
  | disk => exact fun max hmax => le_trans (roundTenths_mono (by exact_mod_cast hle)) (h max hmax)

/-- The VMs and the totals of a tenant are within the limits. -/
def TotalsFit (quota : QuotaSettings) (tenantId : ℕ) (vms : Serial VmRow) : Prop :=
  (∀ max ∈ quota.maxVms, (vms.count fun vm => vm.tenantId = tenantId) ≤ max) ∧
    ∀ resource, Fits quota (totalOf tenantId vms resource) resource

/-- The quota is kept when the number of VMs and the total of each size are. -/
theorem withinVmQuota_iff :
    WithinVmQuota quota (getCurrentUsage vms networks tenantId) ↔ TotalsFit quota tenantId vms := by
  constructor
  · rintro ⟨hcount, hcpu, hram, hdisk⟩
    refine ⟨hcount, fun resource => ?_⟩
    cases resource with
    | cpu => exact hcpu
    | ram => exact hram
    | disk => exact hdisk
  · rintro ⟨hcount, htotal⟩
    exact ⟨hcount, htotal .cpu, htotal .ram, htotal .disk⟩

@[simp]
theorem resize_tenantId (vm : VmRow) (size : ℕ) (resource : Resource) :
    (vm.resize size resource).tenantId = vm.tenantId := by
  cases resource <;> rfl

/-- A resize writes one size. -/
theorem size_resize (vm : VmRow) (size : ℕ) (resource other : Resource) :
    (vm.resize size resource).size other = if other = resource then some size else vm.size other := by
  cases resource <;> cases other <;> rfl

/-- The check of the provisioning endpoint is enough for a VM that is inserted in the same
state with the size that was checked. -/
theorem insert_fits_iff {request : VMProvisionRequest} {templateDiskSize : ℕ} :
    VmWrite.fits tenantId quota vms (.insert (newVm tenantId request templateDiskSize)) = true ↔
      checkVmQuota quota (getCurrentUsage vms networks tenantId) request.cpu request.ram
        ((truthy request.diskSizeGb).getD templateDiskSize) = .ok () := by
  have hdisk : ∀ gib : ℕ,
      roundTenths ((totalOf tenantId vms .disk + gib * 1024 : ℕ) : ℤ) =
        roundTenths (totalOf tenantId vms .disk) + gib := by
    intro gib
    rw [← roundTenths_add_gib]
    push_cast
    ring_nf
  rw [checkVmQuota_eq_ok_iff, VmWrite.fits, Bool.or_eq_true, Bool.and_eq_true]
  constructor
  · rintro (hother | ⟨hcount, hfits⟩)
    · exact absurd rfl (of_decide_eq_true hother)
    · have hall := of_decide_eq_true hfits
      refine ⟨of_decide_eq_true hcount, hall .cpu, hall .ram, fun max hmax => ?_⟩
      exact (hdisk _).symm.trans_le (hall .disk max hmax)
  · rintro ⟨hcount, hcpu, hram, hdiskMax⟩
    refine Or.inr ⟨decide_eq_true hcount, decide_eq_true fun resource => ?_⟩
    cases resource with
    | cpu => exact hcpu
    | ram => exact hram
    | disk => exact fun max hmax => (hdisk _).trans_le (hdiskMax max hmax)

/-- No row is new, and the rows that stay have the owner and the sizes they had. -/
inductive RowsKept (vms : Serial VmRow) : Serial VmRow → Prop where
  /-- Nothing is written. -/
  | refl : RowsKept vms vms
  /-- Other columns of a row are written. -/
  | modify (vmId : ℕ) {f : VmRow → VmRow} (tenantId : ∀ vm, (f vm).tenantId = vm.tenantId)
      (size : ∀ vm resource, (f vm).size resource = vm.size resource) :
      RowsKept vms (vms.modify vmId f)
  /-- Rows are deleted. -/
  | deleteWhere (p : ℕ → VmRow → Bool) : RowsKept vms (vms.deleteWhere p)

/-- The rows after a write. -/
inductive VmWrite.Applied (vms : Serial VmRow) : VmWrite → Serial VmRow → Prop where
  /-- The row is new. -/
  | insert (vm : VmRow) : Applied vms (.insert vm) (vms.add vm)
  /-- The size is written, and possibly other columns. -/
  | resize (vmId : ℕ) {resource : Resource} {size : ℕ} {f : VmRow → VmRow}
      (tenantId : ∀ vm, (f vm).tenantId = vm.tenantId)
      (sizes : ∀ vm other, (f vm).size other = if other = resource then some size else vm.size other) :
      Applied vms (.resize vmId resource size) (vms.modify vmId f)

/-- What a step that may write something leaves of the rows. -/
def Wrote (vms vms' : Serial VmRow) : Option VmWrite → Prop
  | none => RowsKept vms vms'
  | some write => write.Applied vms vms'

theorem wrote_writeSize (vms : Serial VmRow) (vmId : ℕ) (vm : VmRow) (size : ℕ)
    (resource : Resource) :
    Wrote vms (writeSize vms vmId vm size resource) (sizeWrite vmId vm size resource) := by
  unfold writeSize sizeWrite
  split
  · exact .refl
  · exact .resize vmId (fun vm => resize_tenantId vm size resource)
      fun vm other => size_resize vm size resource other

/-- A run that ends writes the size that it has assigned. -/
theorem wrote_endRun (s : VmState) (run : ℕ) (status : TaskRun → String) (diskInfo : Option ℕ) :
    Wrote s.vms (endRun s run status diskInfo).vms
      (match s.runs.get? run, diskInfo with
        | some taskRun, some size => some (.resize taskRun.vmId .disk size)
        | _, _ => none) := by
  unfold endRun
  cases s.runs.get? run with
  | none => exact .refl
  | some taskRun =>
    cases diskInfo with
    | none =>
      exact .modify taskRun.vmId (fun vm => rfl) fun vm resource => by cases resource <;> rfl
    | some size =>
      exact .resize taskRun.vmId (fun vm => rfl) fun vm other => by cases other <;> rfl

/-- The checks of a resize write nothing. -/
theorem kept_resizeStep {resource : Resource} {low high : ℕ} {unsupported : String}
    {call vmId size : ℕ} (s : VmState) :
    RowsKept s.vms (resizeStep s resource low high unsupported call tenantId vmId size).vms := by
  unfold resizeStep
  split
  · split <;> exact .refl
  · exact .refl

/-- The rows after a step are those that its write leaves. -/
theorem wrote_step (s : VmState) (e : VmEvent) :
    Wrote s.vms (vmStep settings s e).vms (usageWrite s e) := by
  cases e with
  | openProvision call tenantId request =>
    simp only [vmStep, openProvisionStep, usageWrite]
    split
    · split <;> exact .refl
    · exact .refl
  | insertVm call templateDiskSize =>
    simp only [vmStep, insertVmStep, usageWrite]
    split
    case h_1 tenantId request _ =>
      -- the quota is not checked again, but the name is
      dsimp only
      split
      · exact .refl
      · exact .insert _
    case h_2 => exact .refl
  | beginVm run vmId autoStart proxmoxVmId =>
    simp only [vmStep, beginVmStep, usageWrite]
    split
    · exact .modify vmId (fun vm => rfl) fun vm resource => by cases resource <;> rfl
    · exact .refl
  | completeVm run diskInfo => exact wrote_endRun s run _ diskInfo
  | failVm run diskInfo => exact wrote_endRun s run _ diskInfo
  | openDelete call tenantId vmId force =>
    simp only [vmStep, openDeleteStep, usageWrite]
    split <;> exact .refl
  | commitDelete call =>
    simp only [vmStep, commitDeleteStep, usageWrite]
    split
    · exact .deleteWhere _
    · exact .refl
  | resizeVmCpu call tenantId vmId cores => exact kept_resizeStep s
  | resizeVmRam call tenantId vmId memoryMb => exact kept_resizeStep s
  | commitResize call =>
    simp only [vmStep, commitResizeStep, usageWrite]
    split
    · exact wrote_writeSize ..
    · exact .refl
  | resizeVmDisk call tenantId vmId request diskInfo =>
    simp only [vmStep, resizeVmDiskStep, usageWrite]
    split
    · split <;> exact .refl
    · exact .refl
  | commitDiskResize call found =>
    simp only [vmStep, commitDiskResizeStep, usageWrite]
    split
    · exact wrote_writeSize ..
    · exact .refl
  | restartVm call =>
    simp only [vmStep, restartVmStep, usageWrite]
    split
    · split <;> exact .refl
    · exact .refl
  | syncDisk call found =>
    simp only [vmStep, syncDiskStep, usageWrite]
    cases s.calls.get? call with
    | none => exact .refl
    | some pending =>
      cases pending with
      | restarted vmId vm =>
        -- the column is written only if the hypervisor reports a size
        cases truthy found with
        | none => exact .refl
        | some size => exact wrote_writeSize ..
      | _ => exact .refl

theorem sizeFor_of_ne {vm : VmRow} (h : vm.tenantId ≠ tenantId) (column : VmRow → Option ℕ) :
    sizeFor tenantId column vm = 0 :=
  if_neg h

theorem sizeFor_of_eq {vm : VmRow} (h : vm.tenantId = tenantId) (column : VmRow → Option ℕ) :
    sizeFor tenantId column vm = (column vm).getD 0 :=
  if_pos h

/-- Rewriting a row without its owner keeps the number of VMs. -/
theorem vmCount_modify_le (vmId : ℕ) {f : VmRow → VmRow}
    (howner : ∀ vm, (f vm).tenantId = vm.tenantId) :
    ((vms.modify vmId f).count fun vm => vm.tenantId = tenantId) ≤
      vms.count fun vm => vm.tenantId = tenantId :=
  Serial.count_modify_le fun vm hvm => by rwa [howner] at hvm

/-- Steps that write no size keep the quota. -/
theorem TotalsFit.of_kept (h : TotalsFit quota tenantId vms) (hkept : RowsKept vms vms') :
    TotalsFit quota tenantId vms' := by
  cases hkept with
  | refl => exact h
  | @modify vmId f howner hsize =>
    refine ⟨fun max hmax => Nat.le_trans (vmCount_modify_le vmId howner) (h.1 max hmax),
      fun resource => ?_⟩
    have htotal : totalOf tenantId (vms.modify vmId f) resource = totalOf tenantId vms resource :=
      Serial.total_modify_of_eq fun vm _ => by simp only [sizeFor, howner, hsize]
    rw [htotal]
    exact h.2 resource
  | deleteWhere p =>
    refine ⟨fun max hmax => Nat.le_trans (Serial.count_le fun id vm hget hvm => ?_) (h.1 max hmax),
      fun resource => (h.2 resource).mono (Serial.total_deleteWhere_le ..)⟩
    rw [Serial.get?_deleteWhere] at hget
    exact ⟨vm, (Option.filter_eq_some_iff.mp hget).1, hvm⟩

/-- A write that fits keeps the quota. -/
theorem TotalsFit.of_applied (h : TotalsFit quota tenantId vms) {write : VmWrite}
    (hwrite : write.Applied vms vms') (hfits : write.fits tenantId quota vms = true) :
    TotalsFit quota tenantId vms' := by
  cases hwrite with
  | insert vm =>
    rw [VmWrite.fits, Bool.or_eq_true, Bool.and_eq_true] at hfits
    by_cases howner : vm.tenantId = tenantId
    · obtain ⟨hcount, hsizes⟩ := hfits.resolve_left fun hother => of_decide_eq_true hother howner
      refine ⟨fun max hmax => ?_, fun resource => ?_⟩
      · rw [Serial.count_add, decide_eq_true howner]
        exact of_decide_eq_true hcount max hmax
      · rw [totalOf, Serial.total_add, sizeFor_of_eq howner]
        exact of_decide_eq_true hsizes resource
    · -- the VM of another tenant does not count
      refine ⟨fun max hmax => ?_, fun resource => ?_⟩
      · rw [Serial.count_add, decide_eq_false howner]
        exact h.1 max hmax
      · rw [totalOf, Serial.total_add, sizeFor_of_ne howner]
        exact h.2 resource
  | @resize vmId resource size f howner hsizes =>
    refine ⟨fun max hmax => Nat.le_trans (vmCount_modify_le vmId howner) (h.1 max hmax),
      fun other => ?_⟩
    cases hget : vms.get? vmId with
    | none =>
      have htotal : totalOf tenantId (vms.modify vmId f) other = totalOf tenantId vms other :=
        Serial.total_modify_of_eq fun vm hvm => by rw [hget] at hvm; cases hvm
      rw [htotal]
      exact h.2 other
    | some vm =>
      have hsum : totalOf tenantId (vms.modify vmId f) other +
          sizeFor tenantId (·.size other) vm =
            totalOf tenantId vms other + sizeFor tenantId (·.size other) (f vm) :=
        Serial.total_modify hget f _
      rw [VmWrite.fits, hget, Option.all_some, Bool.or_eq_true] at hfits
      by_cases hvm : vm.tenantId = tenantId
      · rw [sizeFor_of_eq hvm, sizeFor_of_eq ((howner vm).trans hvm), hsizes] at hsum
        by_cases hother : other = resource
        · subst hother
          rw [if_pos rfl, Option.getD_some] at hsum
          have hfit := of_decide_eq_true (hfits.resolve_left fun hne =>
            of_decide_eq_true hne hvm)
          exact hfit.mono (by omega)
        · rw [if_neg hother] at hsum
          exact (h.2 other).mono (by omega)
      · rw [sizeFor_of_ne hvm, sizeFor_of_ne (by rwa [howner])] at hsum
        exact (h.2 other).mono (by omega)

end Kept

/-- A tenant may have two VMs with six cores, 8 GiB of memory and 60 GiB of disks. -/
def smallQuota (_tenantId : ℕ) : QuotaSettings where
  maxVms := some 2
  maxCpuCores := some 6
  maxRamMb := some 8192
  maxDiskGb := some 60
  maxNetworks := none

/-- The first tenant has a running VM. -/
def smallVmState : VmState where
  db := VmNetworks.smallState.db
  vms := Serial.empty.add
    ⟨"db", 1, "proxmox", "running", some 100, some 2, some 2048, some 20480⟩
  calls := ∅
  runs := ∅

/-- The small state is an initial state. -/
theorem init_smallVmState : (vmMachine smallQuota 1).init smallVmState := by
  refine ⟨withinVmQuota_iff.mpr ⟨?_, ?_⟩, rfl, rfl⟩
  · decide +kernel
  · decide +kernel

end ProxmoxIaas.Quota
