import ProxmoxIaas.Foundation.Totals
import ProxmoxIaas.Provisioning.Networks
import ProxmoxIaas.VirtualMachines.Reads

/-!
# Quotas

What a tenant uses, the limits that its settings put on it, and the checks that compare the two.
The usage is computed twice in the source: by the service that the checks call, and by the
endpoint that reports it. The two count different networks.

Sizes are natural numbers; `NULL` counts for nothing in a sum.

## Main results

- `checkVmQuota_eq_ok_iff`, `checkDiskResizeQuota_eq_ok_iff`: what the checks are worth.
- `reportedUsage_eq_iff`: when the reported usage is the one that is checked.
-/

namespace ProxmoxIaas.Quota

open VmReads (roundTenths)

/-- A row of `vms`: the columns that quotas and resizes use. -/
structure VmRow where
  /-- Unique name. -/
  name : String
  /-- The owner. -/
  tenantId : ℕ
  /-- The provider that runs the VM. -/
  provider : String
  /-- Lifecycle status. -/
  status : String
  /-- The id of the VM on the hypervisor. -/
  proxmoxVmId : Option ℕ
  /-- The number of cores. -/
  cpu : Option ℕ
  /-- The memory in MiB. -/
  ram : Option ℕ
  /-- The size of the disk in MiB. -/
  diskSizeMb : Option ℕ
  deriving DecidableEq, Repr

/-- `QuotaSettings`: the limits of a tenant; `none` is no limit. -/
structure QuotaSettings where
  maxVms : Option ℕ
  maxCpuCores : Option ℕ
  maxRamMb : Option ℕ
  maxDiskGb : Option ℕ
  maxNetworks : Option ℕ
  deriving DecidableEq, Repr

/-- What a tenant uses, as the checks see it. -/
structure Usage where
  vmCount : ℕ
  cpuCores : ℕ
  ramMb : ℕ
  diskMb : ℕ
  diskGb : ℚ
  networkCount : ℕ
  deriving DecidableEq

/-- What a VM adds to the sum over a column of the rows of a tenant. -/
def sizeFor (tenantId : ℕ) (column : VmRow → Option ℕ) (vm : VmRow) : ℕ :=
  if vm.tenantId = tenantId then (column vm).getD 0 else 0

section Usage

variable (vms : Serial VmRow) (networks : Serial TenantNetwork) (tenantId : ℕ)

/-- `get_current_usage`. -/
def getCurrentUsage : Usage where
  vmCount := vms.count fun vm => vm.tenantId = tenantId
  cpuCores := vms.total (sizeFor tenantId (·.cpu))
  ramMb := vms.total (sizeFor tenantId (·.ram))
  diskMb := vms.total (sizeFor tenantId (·.diskSizeMb))
  diskGb := roundTenths (vms.total (sizeFor tenantId (·.diskSizeMb)))
  networkCount := networks.count fun network =>
    network.tenantId = tenantId ∧ network.status = .active

/-- The dictionary `current_usage` of `get_tenant_quota`. -/
structure ReportedUsage where
  vmCount : ℕ
  cpuCores : ℕ
  ramMb : ℕ
  diskGb : ℚ
  networkCount : ℕ
  deriving DecidableEq

/-- The usage that `get_tenant_quota` reports: it counts the networks of every status. -/
def reportedUsage : ReportedUsage where
  vmCount := vms.count fun vm => vm.tenantId = tenantId
  cpuCores := vms.total (sizeFor tenantId (·.cpu))
  ramMb := vms.total (sizeFor tenantId (·.ram))
  diskGb := roundTenths (vms.total (sizeFor tenantId (·.diskSizeMb)))
  networkCount := networks.count fun network => network.tenantId = tenantId

end Usage

/-- The entries of a usage that are reported. -/
def Usage.reported (usage : Usage) : ReportedUsage where
  vmCount := usage.vmCount
  cpuCores := usage.cpuCores
  ramMb := usage.ramMb
  diskGb := usage.diskGb
  networkCount := usage.networkCount

/-- `QuotaExceededError`. -/
structure QuotaExceeded where
  resource : String
  limit : ℕ
  current : ℚ
  requested : ℚ
  deriving DecidableEq

/-- A request fits what is left of a resource. -/
def checkLimit (resource : String) (limit : Option ℕ) (current requested : ℚ) :
    Except QuotaExceeded Unit :=
  match limit with
  | none => .ok ()
  | some limit => Except.require ⟨resource, limit, current, requested⟩ (current + requested ≤ limit)

/-- `check_vm_quota`. -/
def checkVmQuota (quota : QuotaSettings) (usage : Usage) (cpu ram diskSize : ℕ) :
    Except QuotaExceeded Unit := do
  checkLimit "max_vms" quota.maxVms usage.vmCount 1
  checkLimit "max_cpu_cores" quota.maxCpuCores usage.cpuCores cpu
  checkLimit "max_ram_mb" quota.maxRamMb usage.ramMb ram
  checkLimit "max_disk_gb" quota.maxDiskGb usage.diskGb diskSize

/-- `check_network_quota`. -/
def checkNetworkQuota (quota : QuotaSettings) (usage : Usage) : Except QuotaExceeded Unit :=
  checkLimit "max_networks" quota.maxNetworks usage.networkCount 1

/-- `check_disk_resize_quota`. -/
def checkDiskResizeQuota (quota : QuotaSettings) (usage : Usage) (additionalMib : ℕ) :
    Except QuotaExceeded Unit :=
  match quota.maxDiskGb with
  | none => .ok ()
  | some limit =>
    Except.require ⟨"max_disk_gb", limit, usage.diskGb, roundTenths additionalMib⟩
      (roundTenths ((usage.diskMb + additionalMib : ℕ) : ℤ) ≤ limit)

theorem checkLimit_eq_ok_iff {resource : String} {limit : Option ℕ} {current requested : ℚ} :
    checkLimit resource limit current requested = .ok () ↔
      ∀ max ∈ limit, current + requested ≤ max := by
  cases limit with
  | none => simp [checkLimit]
  | some limit => simp [checkLimit, Except.require_eq_ok_iff]

/-- A VM fits the quota when each of its sizes does. -/
theorem checkVmQuota_eq_ok_iff {quota : QuotaSettings} {usage : Usage} {cpu ram diskSize : ℕ} :
    checkVmQuota quota usage cpu ram diskSize = .ok () ↔
      (∀ max ∈ quota.maxVms, usage.vmCount + 1 ≤ max) ∧
      (∀ max ∈ quota.maxCpuCores, usage.cpuCores + cpu ≤ max) ∧
      (∀ max ∈ quota.maxRamMb, usage.ramMb + ram ≤ max) ∧
      (∀ max ∈ quota.maxDiskGb, usage.diskGb + diskSize ≤ max) := by
  simp only [checkVmQuota, Except.bind_eq_ok_iff, Unique.exists_iff, PUnit.default_eq_unit,
    checkLimit_eq_ok_iff]
  norm_cast

theorem checkDiskResizeQuota_eq_ok_iff {quota : QuotaSettings} {usage : Usage}
    {additionalMib : ℕ} :
    checkDiskResizeQuota quota usage additionalMib = .ok () ↔
      ∀ max ∈ quota.maxDiskGb, roundTenths ((usage.diskMb + additionalMib : ℕ) : ℤ) ≤ max := by
  unfold checkDiskResizeQuota
  cases quota.maxDiskGb with
  | none => simp
  | some limit => simp [Except.require_eq_ok_iff]

/-- The reported usage is the one that is checked exactly when every network of the tenant is
active. -/
theorem reportedUsage_eq_iff (vms : Serial VmRow) (networks : Serial TenantNetwork)
    (tenantId : ℕ) :
    reportedUsage vms networks tenantId = (getCurrentUsage vms networks tenantId).reported ↔
      ∀ id network, networks.get? id = some network → network.tenantId = tenantId →
        network.status = .active := by
  have hcount : (networks.count fun network =>
        network.tenantId = tenantId ∧ network.status = .active) =
      (networks.count fun network => network.tenantId = tenantId) ↔
      ∀ id network, networks.get? id = some network → network.tenantId = tenantId →
        network.status = .active := by
    rw [Serial.count_eq_count_iff fun network hboth => decide_eq_true (of_decide_eq_true hboth).1]
    simp only [decide_eq_true_eq]
    exact ⟨fun h id network hget htenant => (h id network hget htenant).2,
      fun h id network hget htenant => ⟨htenant, h id network hget htenant⟩⟩
  rw [← hcount]
  simp [reportedUsage, getCurrentUsage, Usage.reported, eq_comm]

end ProxmoxIaas.Quota
