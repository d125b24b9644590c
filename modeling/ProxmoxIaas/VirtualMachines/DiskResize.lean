import ProxmoxIaas.Foundation.Latest
import ProxmoxIaas.Foundation.Totals
import ProxmoxIaas.Iam.Permissions
import ProxmoxIaas.Quota.VirtualMachines

/-!
# The Resize of a Disk

`resize_vm_disk` reads the size of a disk from the hypervisor, asks it to add some, reads the size
again, and commits it together with a row of `vm_disk_resizes`. A request that finds such a row of
the last two minutes with the growth that it asks for is answered from that row. After a restart
of the VM the size is read and committed once more.

The column `disk_size_mb` of a VM is what the quota adds up. The endpoint writes the size of the
disk that was resized to it.

## Main results

- `resizeVmDisk_cases`: what a request that succeeds has done.
- `accounts_iff`: when the column is the sum of the sizes of the disks afterwards.
- `primaryDisk_eq_total_iff`: when it is after provisioning.
-/

namespace ProxmoxIaas.DiskResize

open Quota (VmRow QuotaSettings DiskResizeRequest parseSizeToMib writeSize getCurrentUsage
  checkDiskResizeQuota)
open VmReads (roundTenths)

/-- A row of `vm_disk_resizes`. -/
structure VMDiskResize where
  /-- The VM. -/
  vmId : ℕ
  /-- The disk. -/
  diskId : String
  /-- Its size before. -/
  previousSizeMib : ℕ
  /-- Its size afterwards. -/
  newSizeMib : ℕ
  /-- The user. -/
  resizedBy : ℕ
  /-- The start of the transaction that has inserted the row, in microseconds. -/
  createdAt : ℤ
  deriving DecidableEq, Repr

/-- The committed database, and the disks of the machines on the hypervisor. -/
structure State where
  /-- Table `vms`. -/
  vms : Serial VmRow
  /-- Table `tenant_networks`. -/
  tenantNetworks : Serial TenantNetwork
  /-- Table `vm_disk_resizes`, the row that was inserted last first. -/
  resizes : List VMDiskResize
  /-- The disks of a machine with their sizes in MiB. -/
  disks : ℕ → Table String ℕ

/-- `DiskResizeResponse`. -/
structure DiskResizeResponse where
  diskId : String
  previousSizeMib : ℕ
  newSizeMib : ℕ
  previousSizeGb : ℚ
  newSizeGb : ℚ
  status : String
  restarted : Bool
  deriving DecidableEq

/-- The response about two sizes of a disk. -/
def DiskResizeResponse.ofSizes (diskId : String) (previous new : ℕ) (status : String)
    (restarted : Bool) : DiskResizeResponse where
  diskId := diskId
  previousSizeMib := previous
  newSizeMib := new
  previousSizeGb := roundTenths previous
  newSizeGb := roundTenths new
  status := status
  restarted := restarted

/-- What a request meets outside of the database. -/
structure Environment where
  /-- The start of its transaction. -/
  startedAt : ℤ
  /-- The time of its check for a repetition. -/
  now : ℤ
  /-- The lock of the machine. -/
  lock : Option String
  /-- Whether the disks are listed for the check; the provider swallows an error. -/
  lists : Bool
  /-- What the API answers to the resize. -/
  resize : Except ApiError Unit
  /-- Whether the disks are listed after the resize. -/
  listsResized : Bool
  /-- The commit of the resize, or the text of its error. -/
  commit : Except String Unit
  /-- Whether the provider restarts the VM. -/
  restarts : Bool
  /-- The start of the transaction after the restart. -/
  restartedAt : ℤ
  /-- Whether the disks are listed after the restart. -/
  listsRestarted : Bool
  /-- Whether the size after the restart is committed. -/
  commitsRestart : Bool

/-- The window in which a request is taken for a repetition: two minutes. -/
def window : ℤ := 2 * 60 * 1000000

/-- The id on the hypervisor that a request uses. A VM of another provider is taken for the machine
that has the id of its row. -/
def hypervisorId (vm : VmRow) (vmId : ℕ) : Option ℕ :=
  if vm.provider = "proxmox" then vm.proxmoxVmId else some vmId

/-- The last resize of a disk within the window. -/
def recentResize (resizes : List VMDiskResize) (vmId : ℕ) (disk : String) (now : ℤ) :
    Option VMDiskResize :=
  ((resizes.filter fun row =>
    row.vmId = vmId ∧ row.diskId = disk ∧ now - window < row.createdAt).latest
      (·.createdAt) 1).head?

/-- A recent resize has added what a request asks for. -/
def VMDiskResize.Adds (row : VMDiskResize) (requestedMib : ℕ) : Prop :=
  row.newSizeMib = row.previousSizeMib + requestedMib

instance (row : VMDiskResize) (requestedMib : ℕ) : Decidable (row.Adds requestedMib) :=
  inferInstanceAs (Decidable (_ = _))

/-- The resize that a request is taken to repeat. -/
def repeated (recent : Option VMDiskResize) (requestedMib : ℕ) : Option VMDiskResize :=
  recent.filter fun row => row.Adds requestedMib

/-- The size of a disk in a listing. -/
def listed (disks : Table String ℕ) (lists : Bool) (disk : String) : Option ℕ :=
  if lists then disks.get? disk else none

/-- The local variables of a request that has passed the checks. -/
structure Opened where
  /-- The row as the session has loaded it. -/
  vm : VmRow
  /-- The id on the hypervisor. -/
  proxmoxId : ℕ
  /-- The size of the disk. -/
  previousMib : ℕ
  /-- The size to add. -/
  requestedMib : ℕ
  deriving DecidableEq, Repr

/-- The hypervisor adds some MiB to a disk. -/
def State.growDisk (s : State) (proxmoxId : ℕ) (disk : String) (mib : ℕ) : State :=
  { s with
    disks := Function.update s.disks proxmoxId ((s.disks proxmoxId).modify disk (· + mib)) }

/-- Commit the size of a VM, with a row about the resize. -/
def State.commitSize (s : State) (vmId : ℕ) (loaded : VmRow) (row : VMDiskResize) : State :=
  { s with
    vms := writeSize s.vms vmId loaded row.newSizeMib .disk
    resizes := row :: s.resizes }

section Endpoint

variable (settings : ℕ → QuotaSettings) (iam : IamDb) (userId tenantId vmId : ℕ)
  (request : DiskResizeRequest) (env : Environment)

/-- The checks of `resize_vm_disk` for a user of the tenant. A size that is not a number and an
exceeded quota are errors that the endpoint does not handle. -/
def openDiskResize (s : State) : Except ApiError Opened := do
  let vm ← Except.ofOption (.http 404 s!"VM {vmId} not found") (s.vms.get? vmId)
  Except.require (.http 403 "You don't have access to this VM") (vm.tenantId = tenantId)
  Except.require (.http 403 "You don't have permission to resize disk")
    (hasPermission iam userId (some vm.tenantId) "vm:update" = true)
  let proxmoxId ← Except.ofOption (.http 400 s!"VM {vmId} has no Proxmox VM ID configured")
    (hypervisorId vm vmId)
  let lock := env.lock.getD ""
  Except.require (.http 423 s!"VM is locked: {lock}. Try again later.")
    (truthyText env.lock = none)
  let previousMib ← Except.ofOption (.http 400 s!"Disk {request.disk} not found on VM {vmId}")
    (listed (s.disks proxmoxId) env.lists request.disk)
  let requestedMib ← Except.ofOption integrityError (parseSizeToMib request.size)
  Except.require (.http 400 "Size must be greater than 0") (0 < requestedMib)
  (checkDiskResizeQuota (settings vm.tenantId) (getCurrentUsage s.vms s.tenantNetworks vm.tenantId)
    requestedMib.toNat).mapError fun _ => integrityError
  return { vm, proxmoxId, previousMib, requestedMib := requestedMib.toNat }

/-- The last part of `resize_vm_disk`: the restart, whose errors are only logged. -/
def restartResized (s : State) (opened : Opened) (newMib : ℕ) : DiskResizeResponse × State :=
  let response := DiskResizeResponse.ofSizes request.disk opened.previousMib
  -- the commit before has expired the loaded row
  match (s.vms.get? vmId).filter fun vm => vm.status = "running" ∧ env.restarts = true with
  | none => (response newMib "resized" false, s)
  | some vm =>
    match truthy (listed (s.disks opened.proxmoxId) env.listsRestarted request.disk) with
    | none => (response newMib "resized" true, s)
    | some actualMib =>
      if env.commitsRestart then
        (response actualMib "resized" true,
          s.commitSize vmId vm
            { vmId
              diskId := request.disk
              previousSizeMib := newMib
              newSizeMib := actualMib
              resizedBy := userId
              createdAt := env.restartedAt })
      else (response newMib "resized" true, s)

/-- The part of `resize_vm_disk` after the check for a repetition. -/
def growAndCommit (s : State) (opened : Opened) : Except ApiError DiskResizeResponse × State :=
  match env.resize with
  | .error e => (.error e, s)
  | .ok () =>
    let grown := s.growDisk opened.proxmoxId request.disk opened.requestedMib
    -- a size of zero counts as no size
    let newMib :=
      (truthy (listed (grown.disks opened.proxmoxId) env.listsResized request.disk)).getD
        (opened.previousMib + opened.requestedMib)
    match env.commit with
    -- the disk has grown already, and nothing takes it back
    | .error text => (.error (.http 500 s!"Failed to save disk resize: {text}"), grown)
    | .ok () =>
      let committed := grown.commitSize vmId opened.vm
        { vmId
          diskId := request.disk
          previousSizeMib := opened.previousMib
          newSizeMib := newMib
          resizedBy := userId
          createdAt := env.startedAt }
      if request.restartAfterResize then
        let (response, s') := restartResized userId vmId request env committed opened newMib
        (.ok response, s')
      else
        (.ok (.ofSizes request.disk opened.previousMib newMib "resized" false), committed)

/-- `resize_vm_disk`. -/
def resizeVmDisk (s : State) : Except ApiError DiskResizeResponse × State :=
  match openDiskResize settings iam userId tenantId vmId request env s with
  | .error e => (.error e, s)
  | .ok opened =>
    match repeated (recentResize s.resizes vmId request.disk env.now) opened.requestedMib with
    -- the sizes in the row are sent as they are, whatever the disk has now
    | some row =>
      (.ok (.ofSizes request.disk row.previousSizeMib row.newSizeMib "already_resized" false), s)
    | none => growAndCommit userId vmId request env s opened

end Endpoint

variable {settings : ℕ → QuotaSettings} {iam : IamDb} {userId tenantId vmId : ℕ}
  {request : DiskResizeRequest} {env : Environment} {s s' : State} {opened : Opened}
  {response : DiskResizeResponse}

/-- What the checks have read. -/
theorem openDiskResize_eq_ok
    (h : openDiskResize settings iam userId tenantId vmId request env s = .ok opened) :
    s.vms.get? vmId = some opened.vm ∧ hypervisorId opened.vm vmId = some opened.proxmoxId ∧
      (s.disks opened.proxmoxId).get? request.disk = some opened.previousMib ∧
      parseSizeToMib request.size = some (opened.requestedMib : ℤ) ∧ 0 < opened.requestedMib := by
  simp only [openDiskResize, Except.bind_eq_ok_iff, Except.ofOption_eq_ok_iff,
    Except.require_eq_ok_iff, Except.pure_eq_ok_iff] at h
  obtain ⟨vm, hvm, -, -, -, -, proxmoxId, hid, -, -, previousMib, hsize, requestedMib, hparse, -,
    hpositive, -, -, rfl⟩ := h
  refine ⟨hvm, hid, ?_, ?_, ?_⟩
  · cases hlists : env.lists <;> simp_all [listed]
  · rw [hparse, Int.toNat_of_nonneg hpositive.le]
  · show 0 < requestedMib.toNat
    omega

/-- The disk of a request after the hypervisor has resized it. -/
theorem get?_growDisk {proxmoxId previousMib mib : ℕ} {disk : String}
    (h : (s.disks proxmoxId).get? disk = some previousMib) :
    ((s.growDisk proxmoxId disk mib).disks proxmoxId).get? disk = some (previousMib + mib) := by
  unfold State.growDisk
  dsimp only
  rw [Function.update_self, Table.get?_modify, if_pos rfl, h]
  rfl

/-- A disk that has a size is listed with it, or is not listed. -/
theorem truthy_listed {disks : Table String ℕ} {disk : String} {size : ℕ} (lists : Bool)
    (h : disks.get? disk = some size) (hpos : 0 < size) :
    truthy (listed disks lists disk) = if lists then some size else none := by
  cases lists with
  | false => rfl
  | true =>
    rw [listed, if_pos rfl, if_pos rfl, h, truthy, Option.filter_some]
    simp [hpos.ne']

/-- The row after the commit of a size. -/
theorem get?_commitSize {vm loaded : VmRow} {row : VMDiskResize}
    (hvm : s.vms.get? vmId = some vm) (hloaded : loaded = vm) :
    (s.commitSize vmId loaded row).vms.get? vmId =
      some { vm with diskSizeMb := some row.newSizeMib } := by
  subst hloaded
  unfold State.commitSize writeSize
  dsimp only
  split
  -- an assignment of the value that the column has writes nothing
  case isTrue hsame =>
    rw [hvm, ← hsame]
    rfl
  case isFalse =>
    rw [Serial.get?_modify, if_pos rfl, hvm]
    rfl

/-- The restart leaves the sizes that the commit before it has left. -/
theorem restartResized_spec {newMib : ℕ} {vm : VmRow} (hvm : s.vms.get? vmId = some vm)
    (hstored : vm.diskSizeMb = some newMib)
    (hdisk : (s.disks opened.proxmoxId).get? request.disk = some newMib) (hpos : 0 < newMib)
    (h : restartResized userId vmId request env s opened newMib = (response, s')) :
    s'.disks = s.disks ∧ s'.vms.get? vmId = some vm := by
  unfold restartResized at h
  rw [truthy_listed env.listsRestarted hdisk hpos, hvm, Option.filter_some] at h
  split at h
  case h_1 =>
    obtain ⟨-, rfl⟩ := Prod.mk.inj h
    exact ⟨rfl, hvm⟩
  case h_2 loaded hloaded =>
    -- the row is loaded again, and has the committed size
    obtain rfl : vm = loaded := by
      split at hloaded
      · exact Option.some.inj hloaded
      · cases hloaded
    -- the size that is read is the committed one, so the second commit changes no size
    by_cases hlists : env.listsRestarted = true
    · simp only [hlists, ↓reduceIte] at h
      by_cases hcommit : env.commitsRestart = true
      · rw [if_pos hcommit] at h
        obtain ⟨-, rfl⟩ := Prod.mk.inj h
        refine ⟨rfl, (get?_commitSize hvm rfl).trans ?_⟩
        rw [← hstored]
      · rw [if_neg hcommit] at h
        obtain ⟨-, rfl⟩ := Prod.mk.inj h
        exact ⟨rfl, hvm⟩
    · simp only [hlists, Bool.false_eq_true, ↓reduceIte] at h
      obtain ⟨-, rfl⟩ := Prod.mk.inj h
      exact ⟨rfl, hvm⟩

/-- The size that is committed is the one that the disk has, listed or not. -/
theorem listed_growDisk (lists : Bool)
    (hsize : (s.disks opened.proxmoxId).get? request.disk = some opened.previousMib)
    (hpositive : 0 < opened.requestedMib) :
    (truthy (listed ((s.growDisk opened.proxmoxId request.disk opened.requestedMib).disks
        opened.proxmoxId) lists request.disk)).getD (opened.previousMib + opened.requestedMib) =
      opened.previousMib + opened.requestedMib := by
  rw [truthy_listed lists (get?_growDisk hsize) (by omega)]
  split <;> rfl

/-- The part after the check for a repetition. -/
theorem growAndCommit_spec (hvm : s.vms.get? vmId = some opened.vm)
    (hsize : (s.disks opened.proxmoxId).get? request.disk = some opened.previousMib)
    (hpositive : 0 < opened.requestedMib)
    (h : growAndCommit userId vmId request env s opened = (.ok response, s')) :
    s'.disks = (s.growDisk opened.proxmoxId request.disk opened.requestedMib).disks ∧
      s'.vms.get? vmId = some { opened.vm with
        diskSizeMb := some (opened.previousMib + opened.requestedMib) } := by
  unfold growAndCommit at h
  cases hresize : env.resize with
  | error e =>
    rw [hresize] at h
    cases h
  | ok u =>
    cases hcommit : env.commit with
    | error text =>
      rw [hresize, hcommit] at h
      cases h
    | ok u =>
      simp only [hresize, hcommit, listed_growDisk _ hsize hpositive] at h
      let committed := State.commitSize
        (s.growDisk opened.proxmoxId request.disk opened.requestedMib) vmId opened.vm
        { vmId
          diskId := request.disk
          previousSizeMib := opened.previousMib
          newSizeMib := opened.previousMib + opened.requestedMib
          resizedBy := userId
          createdAt := env.startedAt }
      have hstored : committed.vms.get? vmId = some { opened.vm with
          diskSizeMb := some (opened.previousMib + opened.requestedMib) } :=
        get?_commitSize hvm rfl
      -- before the commit the disk has the size that is stored
      have hdisk : (committed.disks opened.proxmoxId).get? request.disk =
          some (opened.previousMib + opened.requestedMib) := get?_growDisk hsize
      by_cases hrestart : request.restartAfterResize = true
      · rw [if_pos hrestart] at h
        obtain ⟨-, rfl⟩ := Prod.mk.inj h
        exact restartResized_spec (s := committed) hstored rfl hdisk (by omega) rfl
      · rw [if_neg hrestart] at h
        obtain ⟨-, rfl⟩ := Prod.mk.inj h
        exact ⟨rfl, hstored⟩

/-- A request that succeeds was made before, or the disk has grown by what it asks for and its
size is stored. -/
theorem resizeVmDisk_cases
    (h : resizeVmDisk settings iam userId tenantId vmId request env s = (.ok response, s')) :
    ∃ opened, openDiskResize settings iam userId tenantId vmId request env s = .ok opened ∧
      (((repeated (recentResize s.resizes vmId request.disk env.now) opened.requestedMib).isSome =
          true ∧ s' = s) ∨
        (repeated (recentResize s.resizes vmId request.disk env.now) opened.requestedMib = none ∧
          s'.disks = (s.growDisk opened.proxmoxId request.disk opened.requestedMib).disks ∧
          s'.vms.get? vmId = some { opened.vm with
            diskSizeMb := some (opened.previousMib + opened.requestedMib) })) := by
  unfold resizeVmDisk at h
  cases hopen : openDiskResize settings iam userId tenantId vmId request env s with
  | error e =>
    rw [hopen] at h
    cases h
  | ok opened =>
    rw [hopen] at h
    dsimp only at h
    refine ⟨opened, rfl, ?_⟩
    cases hrepeated :
        repeated (recentResize s.resizes vmId request.disk env.now) opened.requestedMib with
    | some row =>
      rw [hrepeated] at h
      exact Or.inl ⟨rfl, (Prod.mk.inj h).2.symm⟩
    | none =>
      rw [hrepeated] at h
      obtain ⟨hvm, -, hsize, -, hpositive⟩ := openDiskResize_eq_ok hopen
      exact Or.inr ⟨rfl, growAndCommit_spec hvm hsize hpositive h⟩

/-! ### The stored size -/

/-- The sum of the sizes of the disks of a machine. -/
def State.diskTotal (s : State) (proxmoxId : ℕ) : ℕ := (s.disks proxmoxId).total id

/-- The column of a VM is the sum of the sizes of its disks, and not smaller than it was. -/
def Accounts (vmId : ℕ) (s s' : State) : Prop :=
  ∀ vm vm' proxmoxId, s.vms.get? vmId = some vm → s'.vms.get? vmId = some vm' →
    hypervisorId vm vmId = some proxmoxId →
      vm'.diskSizeMb = some (s'.diskTotal proxmoxId) ∧
        vm.diskSizeMb.getD 0 ≤ vm'.diskSizeMb.getD 0

/-- What a successful request needs of the state before it. A repetition writes nothing, so the
column has to be right already. Otherwise the other disks have no size, and the column is not
larger than the disk will be. -/
def Countable (vmId : ℕ) (request : DiskResizeRequest) (now : ℤ) (s : State) : Prop :=
  ∀ vm proxmoxId size (requestedMib : ℕ), s.vms.get? vmId = some vm →
    hypervisorId vm vmId = some proxmoxId →
    (s.disks proxmoxId).get? request.disk = some size →
    parseSizeToMib request.size = some (requestedMib : ℤ) →
      if (repeated (recentResize s.resizes vmId request.disk now) requestedMib).isSome then
        vm.diskSizeMb = some (s.diskTotal proxmoxId)
      else
        (∀ disk mib, (s.disks proxmoxId).get? disk = some mib → disk ≠ request.disk → mib = 0) ∧
          vm.diskSizeMb.getD 0 ≤ size + requestedMib

/-- A request that succeeds leaves the sum of the disks in the column exactly when it resizes the
only disk that has a size. -/
theorem accounts_iff
    (h : resizeVmDisk settings iam userId tenantId vmId request env s = (.ok response, s')) :
    Accounts vmId s s' ↔ Countable vmId request env.now s := by
  obtain ⟨opened, hopen, hcases⟩ := resizeVmDisk_cases h
  obtain ⟨hvm, hid, hsize, hparse, hpositive⟩ := openDiskResize_eq_ok hopen
  -- the values that both conditions speak of are those of the request
  have hcountable : Countable vmId request env.now s ↔
      if (repeated (recentResize s.resizes vmId request.disk env.now)
          opened.requestedMib).isSome then
        opened.vm.diskSizeMb = some (s.diskTotal opened.proxmoxId)
      else
        (∀ disk mib, (s.disks opened.proxmoxId).get? disk = some mib → disk ≠ request.disk →
          mib = 0) ∧
          opened.vm.diskSizeMb.getD 0 ≤ opened.previousMib + opened.requestedMib := by
    constructor
    · intro hall
      exact hall _ _ _ _ hvm hid hsize hparse
    · intro hone vm proxmoxId size requestedMib hvm' hid' hsize' hparse'
      obtain rfl := Option.some.inj (hvm.symm.trans hvm')
      obtain rfl := Option.some.inj (hid.symm.trans hid')
      obtain rfl := Option.some.inj (hsize.symm.trans hsize')
      obtain rfl : opened.requestedMib = requestedMib := by
        exact_mod_cast Option.some.inj (hparse.symm.trans hparse')
      exact hone
  have haccounts : ∀ {vm' : VmRow}, s'.vms.get? vmId = some vm' → (Accounts vmId s s' ↔
      vm'.diskSizeMb = some (s'.diskTotal opened.proxmoxId) ∧
        opened.vm.diskSizeMb.getD 0 ≤ vm'.diskSizeMb.getD 0) := by
    intro vm' hvm'
    constructor
    · intro hall
      exact hall _ _ _ hvm hvm' hid
    · intro hone vm vm'' proxmoxId h₁ h₂ h₃
      obtain rfl := Option.some.inj (hvm.symm.trans h₁)
      obtain rfl := Option.some.inj (hvm'.symm.trans h₂)
      obtain rfl := Option.some.inj (hid.symm.trans h₃)
      exact hone
  rw [hcountable]
  rcases hcases with ⟨hrepeated, rfl⟩ | ⟨hrepeated, hdisks, hvm'⟩
  · -- a repetition writes nothing, so the column has to be right before
    rw [if_pos hrepeated, haccounts hvm, and_iff_left le_rfl]
  · -- the stored size is that of one disk, and a sum of sizes is one of them if the others are zero
    have hothers : (∀ disk mib, (s.disks opened.proxmoxId).get? disk = some mib →
        disk ≠ request.disk → mib = 0) ↔ s.diskTotal opened.proxmoxId = opened.previousMib :=
      (Table.total_eq_iff hsize id).symm
    have htotal : s'.diskTotal opened.proxmoxId + opened.previousMib =
        s.diskTotal opened.proxmoxId + (opened.previousMib + opened.requestedMib) := by
      rw [State.diskTotal, hdisks]
      unfold State.growDisk
      dsimp only
      rw [Function.update_self]
      exact Table.total_modify hsize _ id
    rw [hrepeated, if_neg (by simp), haccounts hvm', hothers, Option.some.injEq, Option.getD_some]
    omega

/-- The disk whose size `provision_vm_task` stores when it has set up a VM. -/
def primaryDisk (disks : Table String ℕ) : Option (String × ℕ) :=
  (disks.first? fun disk _ => disk ∈ ["scsi0", "virtio0", "sata0", "ide0"]).or
    (disks.first? fun _ _ => true)

/-- The size that provisioning stores is the sum under the same condition. -/
theorem primaryDisk_eq_total_iff {disks : Table String ℕ} {disk : String} {size : ℕ}
    (h : primaryDisk disks = some (disk, size)) :
    size = disks.total id ↔
      ∀ other mib, disks.get? other = some mib → other ≠ disk → mib = 0 := by
  have hget : disks.get? disk = some size := by
    rcases Option.or_eq_some_iff.mp h with hfirst | ⟨-, hfirst⟩
    · exact (Table.first?_eq_some hfirst).1
    · exact (Table.first?_eq_some hfirst).1
  exact eq_comm.trans (Table.total_eq_iff hget id)

/-- A user who may update the VMs of the first tenant. -/
def resizerIam : IamDb where
  tenants := Serial.empty.add ⟨"Acme", "acme"⟩
  users := Serial.empty.add ⟨"alice", "alice@acme.example", true, some 1⟩
  permissions := Serial.empty.add "vm:update"
  roles := Serial.empty.add ⟨"operator", none, none, true, false, {1}⟩
  userRoles := Serial.empty.add ⟨1, some 1, 1, none⟩
  invitations := .empty

/-- The row of a running VM. -/
def webVm (diskSizeMb : ℕ) : VmRow :=
  ⟨"web", 1, "proxmox", "running", some 100, some 2, some 2048, some diskSizeMb⟩

/-- A running VM of the tenant with some disks. -/
def webState (diskSizeMb : ℕ) (disks : Table String ℕ) : State where
  vms := Serial.empty.add (webVm diskSizeMb)
  tenantNetworks := .empty
  resizes := []
  disks := fun _ => disks

/-- Nothing fails. -/
def calm : Environment where
  startedAt := 0
  now := 0
  lock := none
  lists := true
  resize := .ok ()
  listsResized := true
  commit := .ok ()
  restarts := true
  restartedAt := 1
  listsRestarted := true
  commitsRestart := true

/-- The user adds 10 GiB to the first disk. -/
def webResize (s : State) : Except ApiError DiskResizeResponse × State :=
  resizeVmDisk (fun _ => ⟨none, none, none, none, none⟩) resizerIam 1 1 1 ⟨"scsi0", "+10G", false⟩
    calm s

/-- The resizes of the examples succeed. -/
private theorem webResize_eq_ok {s : State} (h : (webResize s).1.toOption.isSome = true) :
    ∃ response, webResize s = (.ok response, (webResize s).2) := by
  cases hcall : webResize s with
  | mk result s' =>
    cases result with
    | error e =>
      rw [hcall] at h
      cases h
    | ok response => exact ⟨response, rfl⟩

/-- A disk, and a drive that has no size. -/
def oneDisk : Table String ℕ := AList.insert "scsi0" 20480 (AList.insert "ide2" 0 ∅)

theorem accounts_single : ∃ response, webResize (webState 20480 oneDisk) =
      (.ok response, (webResize (webState 20480 oneDisk)).2) ∧
    Accounts 1 (webState 20480 oneDisk) (webResize (webState 20480 oneDisk)).2 := by
  have hreturns : (webResize (webState 20480 oneDisk)).1.toOption.isSome = true := by
    decide +kernel
  obtain ⟨response, h⟩ := webResize_eq_ok hreturns
  refine ⟨response, h, (accounts_iff h).mpr fun vm proxmoxId size requestedMib hvm _ hsize _ => ?_⟩
  obtain rfl : webVm 20480 = vm := Option.some.inj hvm
  obtain rfl : 20480 = size := Option.some.inj hsize
  refine ⟨fun disk mib hdisk hne => ?_, Nat.le_add_right _ _⟩
  have hother : oneDisk.get? disk = if disk = "scsi0" then some 20480 else
      if disk = "ide2" then some 0 else none := by
    rw [oneDisk, Table.get?_insert, Table.get?_insert, Table.get?_empty]
  rw [show (webState 20480 oneDisk).disks proxmoxId = oneDisk from rfl, hother, if_neg hne] at hdisk
  split at hdisk
  · exact (Option.some.inj hdisk).symm
  · cases hdisk

/-- Two disks. -/
def twoDisks : Table String ℕ := AList.insert "scsi0" 20480 (AList.insert "scsi1" 51200 ∅)

/-- The column of a VM with two disks gets smaller when its first disk grows. -/
theorem not_accounts : ¬ ∀ settings iam userId tenantId vmId request env s s' response,
    resizeVmDisk settings iam userId tenantId vmId request env s = (.ok response, s') →
      Accounts vmId s s' := by
  intro h
  have hreturns : (webResize (webState 71680 twoDisks)).1.toOption.isSome = true := by
    decide +kernel
  have hstored : ((webResize (webState 71680 twoDisks)).2.vms.get? 1).map (·.diskSizeMb) =
      some (some 30720) := by
    decide +kernel
  obtain ⟨response, hcall⟩ := webResize_eq_ok hreturns
  obtain ⟨vm', hvm', hsize⟩ := Option.map_eq_some_iff.mp hstored
  have hle := (h _ _ _ _ _ _ _ _ _ _ hcall (webVm 71680) vm' 100 rfl hvm' rfl).2
  rw [hsize] at hle
  exact absurd hle (by decide)

end ProxmoxIaas.DiskResize
