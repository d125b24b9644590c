import ProxmoxIaas.Quota.VirtualMachines

/-!
# The Limit on Disks

Disk sizes are stored in MiB and limited in GiB. Both checks round a total to tenths of a GiB
before they compare it with the limit: the total of the stored disks when a VM is provisioned, the
new total when a disk grows. A total is rounded down to the limit if it exceeds it by less than
half a tenth.

## Main results

- `roundTenths_le_iff`: which totals are rounded to at most a limit.
- `disk_check_exact_iff`: when a check compares the total in MiB with the limit.
-/

namespace ProxmoxIaas.Quota

open VmReads (roundTenths)

/-- What rounding forgives, in MiB: less than half a tenth of a GiB. -/
def slackMib : ℕ := 51

/-- A total is rounded to at most a limit exactly when it exceeds it by no more than the slack. -/
theorem roundTenths_le_iff {m : ℤ} {limit : ℕ} :
    roundTenths m ≤ limit ↔ m ≤ 1024 * limit + slackMib := by
  have hten : (0 : ℚ) < 10 := by norm_num
  unfold roundTenths slackMib
  dsimp only
  rw [div_le_iff₀ hten]
  -- the comparison is between integers, numbers of tenths
  norm_cast
  split_ifs <;> omega

/-- A check of the disk quota. -/
inductive DiskCheck where
  /-- `check_vm_quota`, for a VM with cores, memory, and a disk of some size in GiB. -/
  | provision (cpu ram diskSize : ℕ)
  /-- `check_disk_resize_quota`, for a disk that grows by some size in MiB. -/
  | resize (additionalMib : ℕ)
  deriving DecidableEq, Repr

namespace DiskCheck

variable (quota : QuotaSettings) (usage : Usage)

/-- The check passes. -/
def Passes : DiskCheck → Prop
  | provision cpu ram diskSize => checkVmQuota quota usage cpu ram diskSize = .ok ()
  | resize additionalMib => checkDiskResizeQuota quota usage additionalMib = .ok ()

/-- The resources that are checked besides the disks suffice. -/
def OthersSuffice : DiskCheck → Prop
  | provision cpu ram _ => (∀ max ∈ quota.maxVms, usage.vmCount + 1 ≤ max) ∧
      (∀ max ∈ quota.maxCpuCores, usage.cpuCores + cpu ≤ max) ∧
      (∀ max ∈ quota.maxRamMb, usage.ramMb + ram ≤ max)
  | resize _ => True

instance : (check : DiskCheck) → Decidable (check.OthersSuffice quota usage)
  | provision _ _ _ => inferInstanceAs (Decidable (_ ∧ _ ∧ _))
  | resize _ => inferInstanceAs (Decidable True)

/-- The total of the disks that results, in MiB. -/
def totalMib : DiskCheck → ℕ
  | provision _ _ diskSize => usage.diskMb + 1024 * diskSize
  | resize additionalMib => usage.diskMb + additionalMib

end DiskCheck

variable {quota : QuotaSettings} {vms : Serial VmRow} {networks : Serial TenantNetwork}
  {tenantId : ℕ} {check : DiskCheck}

/-- Both checks admit a total that exceeds the limit by no more than the slack. -/
theorem DiskCheck.passes_iff :
    check.Passes quota (getCurrentUsage vms networks tenantId) ↔
      check.OthersSuffice quota (getCurrentUsage vms networks tenantId) ∧
      ∀ max ∈ quota.maxDiskGb,
        check.totalMib (getCurrentUsage vms networks tenantId) ≤ 1024 * max + slackMib := by
  cases check with
  | provision cpu ram diskSize =>
    have hdisk : ∀ max : ℕ, (getCurrentUsage vms networks tenantId).diskGb + diskSize ≤ max ↔
        (getCurrentUsage vms networks tenantId).diskMb + 1024 * diskSize ≤ 1024 * max + slackMib := by
      intro max
      -- the stored total is rounded before the new disk is added, which makes no difference
      change roundTenths ((getCurrentUsage vms networks tenantId).diskMb : ℕ) + _ ≤ _ ↔ _
      rw [← roundTenths_add_gib, roundTenths_le_iff]
      norm_cast
    simp only [Passes, OthersSuffice, totalMib, checkVmQuota_eq_ok_iff, hdisk, and_assoc]
  | resize additionalMib =>
    simp only [Passes, OthersSuffice, totalMib, checkDiskResizeQuota_eq_ok_iff, true_and,
      roundTenths_le_iff]
    norm_cast

/-- A check passes exactly for the totals within the limit, if and only if another resource does
not suffice or the total does not exceed the limit by 1 to 51 MiB. -/
theorem disk_check_exact_iff :
    (check.Passes quota (getCurrentUsage vms networks tenantId) ↔
      check.OthersSuffice quota (getCurrentUsage vms networks tenantId) ∧
      ∀ max ∈ quota.maxDiskGb,
        check.totalMib (getCurrentUsage vms networks tenantId) ≤ 1024 * max) ↔
    ¬ check.OthersSuffice quota (getCurrentUsage vms networks tenantId) ∨
      ∀ max ∈ quota.maxDiskGb,
        check.totalMib (getCurrentUsage vms networks tenantId) ≤ 1024 * max ∨
        1024 * max + slackMib < check.totalMib (getCurrentUsage vms networks tenantId) := by
  rw [DiskCheck.passes_iff]
  by_cases hothers : check.OthersSuffice quota (getCurrentUsage vms networks tenantId)
  · cases quota.maxDiskGb with
    | none => simp
    | some max =>
      simp only [hothers, Option.mem_def, Option.some.injEq, forall_eq', true_and, not_true,
        false_or]
      -- between the limit and the slack the check passes and the comparison fails
      omega
  · simp [hothers]

/-- The VMs of a tenant with one VM, the disk of which has a size in MiB. -/
def oneVm (diskSizeMb : ℕ) : Serial VmRow :=
  Serial.empty.add ⟨"web", 1, "proxmox", "running", some 100, some 2, some 2048, some diskSizeMb⟩

/-- A disk that fills its limit of 10 GiB still grows. -/
theorem not_disk_check_exact : ¬ ∀ (quota : QuotaSettings) vms networks tenantId
    (check : DiskCheck), check.Passes quota (getCurrentUsage vms networks tenantId) ↔
      check.OthersSuffice quota (getCurrentUsage vms networks tenantId) ∧
      ∀ max ∈ quota.maxDiskGb,
        check.totalMib (getCurrentUsage vms networks tenantId) ≤ 1024 * max := by
  intro h
  have hexact := h ⟨none, none, none, some 10, none⟩ (oneVm 10240) .empty 1 (.resize 51)
  rw [DiskCheck.passes_iff] at hexact
  exact absurd (hexact.mp (by decide +kernel)).2 (by decide +kernel)

end ProxmoxIaas.Quota
