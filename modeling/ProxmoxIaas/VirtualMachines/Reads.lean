import ProxmoxIaas.Iam.Permissions
import ProxmoxIaas.Provisioning.Model
import Mathlib.Algebra.BigOperators.Group.List.Basic
import Mathlib.Data.List.Sort
import Mathlib.Data.Rat.Defs

/-!
# Reading Virtual Machines

The endpoints that list the VMs of a tenant, read one, and sum them up. The lists and the counts
are filtered by tenant; the sums of `get_vm_stats` are not. The check of the response against its
schema, which looks at the row only, is left out.

## Main results

- `listVms_same`, `getVm_same`: two states that agree on the rows of a tenant give the same
  answers.
- `reads_same_iff`: the statistics are the same when what the other tenants use is.
-/

namespace ProxmoxIaas.VmReads

/-- A row of `vms`: the tenant, and the columns of the response. -/
structure VmRow where
  name : String
  description : Option String
  cpu : Option ℤ
  ram : Option ℤ
  provider : String
  image : Option String
  ipAddress : Option String
  status : String
  networkId : Option ℕ
  terraformJobId : Option String
  celeryTaskId : Option String
  proxmoxVmId : Option ℤ
  error : Option String
  ownerId : ℕ
  tenantId : ℕ
  createdAt : ℤ
  diskSizeMb : Option ℤ
  templateId : Option ℤ
  sshUser : Option String
  sshPublicKey : Option String
  deriving DecidableEq

/-- The tables that the endpoints read. -/
structure ReadDb where
  iam : IamDb
  vms : Table ℕ VmRow

/-- `round(mib / 1024, 1)`: halves go to the even tenth. -/
def roundTenths (mib : ℤ) : ℚ :=
  let tenths := mib * 10 / 1024
  let rest := mib * 10 % 1024
  let rounded := if rest < 512 then tenths
    else if rest > 512 then tenths + 1
    else if tenths % 2 = 0 then tenths else tenths + 1
  rounded / 10

/-- `VMResponse`: the columns of the row but the tenant, and the size in GiB. -/
structure VmResponse where
  id : ℕ
  row : VmRow
  diskSizeGb : Option ℚ
  deriving DecidableEq

/-- The response for a row. -/
def vmResponse (id : ℕ) (vm : VmRow) : VmResponse where
  id := id
  row := vm
  diskSizeGb := (vm.diskSizeMb.filter (· ≠ 0)).map roundTenths

/-- `VMListResponse`. -/
structure VmListResponse where
  total : ℕ
  vms : List VmResponse
  offset : ℕ
  limit : ℕ
  deriving DecidableEq

/-- `VMStatsResponse`. -/
structure VmStatsResponse where
  totalVms : ℕ
  statusBreakdown : List (String × ℕ)
  providerBreakdown : List (String × ℕ)
  cpuTotal : ℤ
  ramTotalMb : ℤ
  diskTotalGb : ℚ
  deriving DecidableEq

/-- The query of `list_vms`. -/
structure ListQuery where
  statusFilter : Option String
  providerFilter : Option String
  ownerFilter : Option ℤ
  limit : ℕ
  offset : ℕ
  limit_pos : 1 ≤ limit
  limit_le : limit ≤ 1000

section Endpoints

variable (db : ReadDb) (userId tenantId : ℕ)

/-- `get_visible_vms_query`. -/
def getVisibleVmsQuery (vm : VmRow) : Bool :=
  if isSuperAdmin db.iam userId then true
  else if hasPermission db.iam userId (some tenantId) "vm:delete" ||
      hasPermission db.iam userId (some tenantId) "vm:update" then
    vm.tenantId = tenantId
  else vm.tenantId = tenantId && vm.ownerId = userId

/-- `list_vms`. -/
def listVms (query : ListQuery) : Except ApiError VmListResponse := do
  let owner := query.ownerFilter.filter (· ≠ 0)
  if owner.isSome then
    Except.require
      (.http 403 "You can only filter by owner_id if you have admin or vm_admin role")
      ((isSuperAdmin db.iam userId ||
        hasPermission db.iam userId (some tenantId) "vm:delete") = true)
  let selected := db.vms.select fun _ vm =>
    getVisibleVmsQuery db userId tenantId vm &&
      (truthyText query.statusFilter).all (vm.status = ·) &&
      (truthyText query.providerFilter).all (vm.provider = ·) &&
      owner.all ((vm.ownerId : ℤ) = ·)
  let sorted := selected.insertionSort fun a b => b.2.createdAt ≤ a.2.createdAt
  return {
    total := selected.length
    vms := ((sorted.drop query.offset).take query.limit).map fun r => vmResponse r.1 r.2
    offset := query.offset
    limit := query.limit }

/-- `get_vm`. -/
def getVm (vmId : ℤ) : Except ApiError VmResponse := do
  let found := vmId.toNat?.bind fun id => (db.vms.get? id).map fun vm => (id, vm)
  if isSuperAdmin db.iam userId then
    let (id, vm) ← Except.ofOption (.http 404 "VM not found") found
    return vmResponse id vm
  else
    let (id, vm) ← Except.ofOption (.http 404 "VM not found")
      (found.filter fun r => r.2.tenantId = tenantId)
    Except.require
      (.http 403 "You can only view your own VMs unless you have vm_admin or admin role")
      ((hasPermission db.iam userId (some tenantId) "vm:update" || vm.ownerId = userId) = true)
    return vmResponse id vm

/-- The number of VMs of the tenant that satisfy a condition. -/
def countVms (p : VmRow → Bool) : ℕ :=
  (db.vms.select fun _ vm => vm.tenantId = tenantId && p vm).length

/-- The sum over a column, where `NULL` counts for nothing, of the rows that satisfy a condition. -/
def sumVms (p : VmRow → Bool) (column : VmRow → Option ℤ) : ℤ :=
  ((db.vms.select fun _ vm => p vm).map fun r => (column r.2).getD 0).sum

/-- `get_vm_stats`: the sums are over all rows. -/
def getVmStats : Except ApiError VmStatsResponse := do
  Except.require (.http 403 "You do not have permission to view VM statistics")
    ((isSuperAdmin db.iam userId ||
      hasPermission db.iam userId (some tenantId) "vm:delete") = true)
  return {
    totalVms := countVms db tenantId fun _ => true
    statusBreakdown := ["running", "stopped", "error", "pending"].map fun status =>
      (status, countVms db tenantId fun vm => vm.status = status)
    providerBreakdown := ["docker", "vsphere"].map fun provider =>
      (provider, countVms db tenantId fun vm => vm.provider = provider)
    cpuTotal := sumVms db (fun _ => true) (·.cpu)
    ramTotalMb := sumVms db (fun _ => true) (·.ram)
    diskTotalGb := roundTenths (sumVms db (fun _ => true) (·.diskSizeMb)) }

end Endpoints

/-- The requests. -/
inductive ReadRequest
  | list (query : ListQuery)
  | get (vmId : ℤ)
  | stats

/-- The replies. -/
inductive ReadReply
  | list (response : VmListResponse)
  | get (response : VmResponse)
  | stats (response : VmStatsResponse)
  deriving DecidableEq

/-- The answer to a request of a user in the context of a tenant. -/
def read (db : ReadDb) (userId tenantId : ℕ) : ReadRequest → Except ApiError ReadReply
  | .list query => (listVms db userId tenantId query).map .list
  | .get vmId => (getVm db userId tenantId vmId).map .get
  | .stats => (getVmStats db userId tenantId).map .stats

/-- Two states agree on the rows of a tenant, and on what the user may do there. -/
structure SameFor (userId tenantId : ℕ) (db db' : ReadDb) : Prop where
  vms : db'.vms.select (fun _ vm => vm.tenantId = tenantId) =
    db.vms.select fun _ vm => vm.tenantId = tenantId
  permissions : ∀ required, hasPermission db'.iam userId (some tenantId) required =
    hasPermission db.iam userId (some tenantId) required
  noAdmin : isSuperAdmin db.iam userId = false
  noAdmin' : isSuperAdmin db'.iam userId = false

/-- What the VMs of the other tenants use. -/
def sumOthers (db : ReadDb) (tenantId : ℕ) (column : VmRow → Option ℤ) : ℤ :=
  sumVms db (fun vm => vm.tenantId ≠ tenantId) column

/-- The other tenants use as much of everything, the disks up to the rounding of the total. -/
structure SameOthers (tenantId : ℕ) (db db' : ReadDb) : Prop where
  cpu : sumOthers db' tenantId (·.cpu) = sumOthers db tenantId (·.cpu)
  ram : sumOthers db' tenantId (·.ram) = sumOthers db tenantId (·.ram)
  disk :
    roundTenths (sumVms db (·.tenantId = tenantId) (·.diskSizeMb) +
        sumOthers db' tenantId (·.diskSizeMb)) =
      roundTenths (sumVms db (·.tenantId = tenantId) (·.diskSizeMb) +
        sumOthers db tenantId (·.diskSizeMb))

section Same

variable {userId tenantId : ℕ} {db db' : ReadDb}

theorem select_and {t : Table ℕ VmRow} (p q : ℕ → VmRow → Bool) :
    t.select (fun id vm => p id vm && q id vm) =
      (t.select p).filter fun r => q r.1 r.2 := by
  simp [Table.select, List.filter_map, Function.comp_def, List.filter_filter, Bool.and_comm]

/-- What is selected among the rows of the tenant is the same in both states. -/
theorem SameFor.select_eq (h : SameFor userId tenantId db db') {p p' : VmRow → Bool}
    (hp : p' = p) : db'.vms.select (fun _ vm => vm.tenantId = tenantId && p' vm) =
      db.vms.select fun _ vm => vm.tenantId = tenantId && p vm := by
  rw [hp, select_and (fun _ vm => vm.tenantId = tenantId) fun _ vm => p vm,
    select_and (fun _ vm => vm.tenantId = tenantId) fun _ vm => p vm, h.vms]

/-- Without the role of super admin, the visible VMs are the tenant's. -/
theorem SameFor.visible (h : SameFor userId tenantId db db') :
    ∃ p : VmRow → Bool,
      getVisibleVmsQuery db userId tenantId = (fun vm => vm.tenantId = tenantId && p vm) ∧
      getVisibleVmsQuery db' userId tenantId = fun vm => vm.tenantId = tenantId && p vm := by
  refine ⟨fun vm => hasPermission db.iam userId (some tenantId) "vm:delete" ||
    hasPermission db.iam userId (some tenantId) "vm:update" || vm.ownerId = userId, ?_, ?_⟩
  · funext vm
    simp only [getVisibleVmsQuery, h.noAdmin, Bool.false_eq_true, if_false]
    split
    case isTrue hmay => simp [hmay]
    case isFalse hmay => simp [Bool.eq_false_iff.mpr hmay]
  · funext vm
    simp only [getVisibleVmsQuery, h.noAdmin', Bool.false_eq_true, if_false, h.permissions]
    split
    case isTrue hmay => simp [hmay]
    case isFalse hmay => simp [Bool.eq_false_iff.mpr hmay]

theorem listVms_same (h : SameFor userId tenantId db db') (query : ListQuery) :
    listVms db' userId tenantId query = listVms db userId tenantId query := by
  obtain ⟨p, hp, hp'⟩ := h.visible
  have hselect := h.select_eq (p := fun vm => p vm &&
    ((truthyText query.statusFilter).all (vm.status = ·) &&
      ((truthyText query.providerFilter).all (vm.provider = ·) &&
        (query.ownerFilter.filter (· ≠ 0)).all ((vm.ownerId : ℤ) = ·)))) rfl
  simp only [listVms, hp, hp', h.noAdmin, h.noAdmin', h.permissions, Bool.and_assoc, hselect]

/-- The row under an id, if it is the tenant's, is the same in both states. -/
theorem SameFor.get?_eq (h : SameFor userId tenantId db db') (id : ℕ) :
    (db'.vms.get? id).filter (fun vm => vm.tenantId = tenantId) =
      (db.vms.get? id).filter fun vm => vm.tenantId = tenantId := by
  have hmem : ∀ vm, (id, vm) ∈ db'.vms.select (fun _ vm => vm.tenantId = tenantId) ↔
      (id, vm) ∈ db.vms.select fun _ vm => vm.tenantId = tenantId := fun vm => by rw [h.vms]
  simp only [Table.mem_select] at hmem
  ext vm
  simpa [Option.filter_eq_some_iff] using hmem vm

theorem getVm_same (h : SameFor userId tenantId db db') (vmId : ℤ) :
    getVm db' userId tenantId vmId = getVm db userId tenantId vmId := by
  have hfound : ∀ db : ReadDb, (vmId.toNat?.bind fun id =>
      (db.vms.get? id).map fun vm => (id, vm)).filter (fun r => r.2.tenantId = tenantId) =
      vmId.toNat?.bind fun id =>
        ((db.vms.get? id).filter fun vm => vm.tenantId = tenantId).map fun vm => (id, vm) := by
    intro db
    cases vmId.toNat? with
    | none => rfl
    | some id =>
      cases hget : db.vms.get? id with
      | none => simp [hget]
      | some vm =>
        by_cases hvm : vm.tenantId = tenantId
        · simp [hget, hvm, Option.filter]
        · simp [hget, hvm, Option.filter]
  simp only [getVm, h.noAdmin, h.noAdmin', Bool.false_eq_true, if_false, hfound, h.get?_eq,
    h.permissions]

/-- The sum over all rows is that of the tenant and that of the others. -/
theorem sumVms_add_sumOthers (db : ReadDb) (tenantId : ℕ) (column : VmRow → Option ℤ) :
    sumVms db (fun _ => true) column =
      sumVms db (·.tenantId = tenantId) column + sumOthers db tenantId column := by
  have hsplit : ∀ rows : List (Σ _ : ℕ, VmRow),
      (rows.map fun r => (column r.2).getD 0).sum =
        ((rows.filter fun r => r.2.tenantId = tenantId).map fun r => (column r.2).getD 0).sum +
          ((rows.filter fun r => r.2.tenantId ≠ tenantId).map
            fun r => (column r.2).getD 0).sum := by
    intro rows
    induction rows with
    | nil => rfl
    | cons r rows ih =>
      rw [List.map_cons, List.sum_cons, ih]
      by_cases hr : r.2.tenantId = tenantId
      · rw [List.filter_cons_of_pos (by simp [hr]), List.filter_cons_of_neg (by simp [hr]),
          List.map_cons, List.sum_cons]
        omega
      · rw [List.filter_cons_of_neg (by simp [hr]), List.filter_cons_of_pos (by simp [hr]),
          List.map_cons, List.sum_cons]
        omega
  simp only [sumVms, sumOthers, Table.select, List.map_map, List.filter_true]
  exact hsplit db.vms.entries

theorem SameFor.sumVms_eq (h : SameFor userId tenantId db db') (column : VmRow → Option ℤ) :
    sumVms db' (·.tenantId = tenantId) column = sumVms db (·.tenantId = tenantId) column := by
  rw [sumVms, sumVms, h.vms]

theorem SameFor.countVms_eq (h : SameFor userId tenantId db db') (p : VmRow → Bool) :
    countVms db' tenantId p = countVms db tenantId p := by
  rw [countVms, countVms, h.select_eq rfl]

/-- A user who may see the statistics gets the same ones exactly when the other tenants use as
much in both states. -/
theorem getVmStats_same_iff (h : SameFor userId tenantId db db') :
    getVmStats db' userId tenantId = getVmStats db userId tenantId ↔
      hasPermission db.iam userId (some tenantId) "vm:delete" = false ∨
        SameOthers tenantId db db' := by
  have hcounts : ∀ p, countVms db' tenantId p = countVms db tenantId p := h.countVms_eq
  by_cases hmay : hasPermission db.iam userId (some tenantId) "vm:delete"
  · have hreply : ∀ d : ReadDb, isSuperAdmin d.iam userId = false →
        hasPermission d.iam userId (some tenantId) "vm:delete" = true →
        getVmStats d userId tenantId = .ok
          { totalVms := countVms d tenantId fun _ => true
            statusBreakdown := ["running", "stopped", "error", "pending"].map fun status =>
              (status, countVms d tenantId fun vm => vm.status = status)
            providerBreakdown := ["docker", "vsphere"].map fun provider =>
              (provider, countVms d tenantId fun vm => vm.provider = provider)
            cpuTotal := sumVms d (fun _ => true) (·.cpu)
            ramTotalMb := sumVms d (fun _ => true) (·.ram)
            diskTotalGb := roundTenths (sumVms d (fun _ => true) (·.diskSizeMb)) } := by
      intro d hadmin hpermission
      simp [getVmStats, hadmin, hpermission, Except.require]
    rw [hreply db h.noAdmin hmay, hreply db' h.noAdmin' ((h.permissions _).trans hmay)]
    simp only [hcounts, Except.ok.injEq, VmStatsResponse.mk.injEq, true_and, hmay,
      Bool.true_eq_false, false_or, sumVms_add_sumOthers _ tenantId, h.sumVms_eq,
      add_right_inj]
    constructor
    · rintro ⟨hcpu, hram, hdisk⟩
      exact ⟨hcpu, hram, hdisk⟩
    · rintro ⟨hcpu, hram, hdisk⟩
      exact ⟨hcpu, hram, hdisk⟩
  · simp only [hmay, true_or, iff_true]
    simp [getVmStats, h.noAdmin, h.noAdmin', h.permissions, hmay, Except.require]

/-- Two states that agree on the rows of a tenant give the same answers in its context, but for
statistics that the user may see while the other tenants do not use as much in both. -/
theorem reads_same_iff (h : SameFor userId tenantId db db') (request : ReadRequest) :
    read db' userId tenantId request = read db userId tenantId request ↔
      match request with
      | .list _ | .get _ => True
      | .stats => hasPermission db.iam userId (some tenantId) "vm:delete" = false ∨
          SameOthers tenantId db db' := by
  cases request with
  | list query => simp [read, listVms_same h]
  | get vmId => simp [read, getVm_same h]
  | stats =>
    rw [← getVmStats_same_iff h]
    simp only [read]
    constructor
    · intro heq
      cases hleft : getVmStats db' userId tenantId <;> cases hright : getVmStats db userId tenantId <;>
        simp_all [Except.map]
    · intro heq
      rw [heq]

end Same

/-- A user who may delete VMs in the first of two tenants. -/
def smallIam : IamDb where
  tenants := (Serial.empty.add ⟨"Acme", "acme"⟩).add ⟨"Globex", "globex"⟩
  users := Serial.empty.add ⟨"alice", "alice@acme.example", true, some 1⟩
  permissions := Serial.empty.add "vm:delete"
  roles := Serial.empty.add ⟨"vm_admin", none, none, true, false, {1}⟩
  userRoles := Serial.empty.add ⟨1, some 1, 1, none⟩
  invitations := .empty

/-- A VM of a tenant. -/
def smallVm (name : String) (tenantId : ℕ) (cpu : ℤ) : VmRow where
  name := name
  description := none
  cpu := some cpu
  ram := some 1024
  provider := "proxmox"
  image := none
  ipAddress := none
  status := "running"
  networkId := none
  terraformJobId := none
  celeryTaskId := none
  proxmoxVmId := none
  error := none
  ownerId := 1
  tenantId := tenantId
  createdAt := 0
  diskSizeMb := some 10240
  templateId := none
  sshUser := some "ubuntu"
  sshPublicKey := none

/-- A VM of the first tenant, and one of the second with a number of cores. -/
def smallReadDb (cpu : ℤ) : ReadDb where
  iam := smallIam
  vms := AList.insert 2 (smallVm "other" 2 cpu) (AList.insert 1 (smallVm "web" 1 2) ∅)

theorem isSuperAdmin_small : isSuperAdmin smallIam 1 = false := by
  decide +kernel

theorem sameFor_small (cpu cpu' : ℤ) : SameFor 1 1 (smallReadDb cpu) (smallReadDb cpu') where
  vms := rfl
  permissions _ := rfl
  noAdmin := isSuperAdmin_small
  noAdmin' := isSuperAdmin_small

theorem reads_same_small :
    read (smallReadDb 4) 1 1 (.get 1) = read (smallReadDb 2) 1 1 (.get 1) :=
  (reads_same_iff (sameFor_small 2 4) (.get 1)).mpr trivial

/-- The statistics of a tenant tell how many cores the VM of another one has. -/
theorem reads_not_same : ¬ ∀ userId tenantId db db', SameFor userId tenantId db db' →
    ∀ request, read db' userId tenantId request = read db userId tenantId request := by
  intro h
  have hsame := h 1 1 (smallReadDb 2) (smallReadDb 4) (sameFor_small 2 4) .stats
  have hdiffer : read (smallReadDb 4) 1 1 .stats ≠ read (smallReadDb 2) 1 1 .stats := by
    decide +kernel
  exact hdiffer hsame

end ProxmoxIaas.VmReads
