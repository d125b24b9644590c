import ProxmoxIaas.VirtualMachines.RequestContract
import ProxmoxIaas.VirtualMachines.ServiceOperations

/-!
# Snapshots

`create_snapshot_logic` asks the provider of a VM for a snapshot and then inserts the row that
describes it. `restore_snapshot_logic` removes the container of a VM and then asks the provider to
create it again from the image of a snapshot. A provider and the database fail on their own.

Between the call to the provider and the commit the first one reads the attribute `disk_size`,
which a VM does not have. Between the two calls of the second one there is no container.

## Main results

- `create_run_of_makes`, `refused_create`: how a request for a snapshot ends.
- `recreate_worldAfter`: what a restore leaves of a container.
- `consistent_iff`: when the two keep the database and the hypervisor together.
-/

namespace ProxmoxIaas.VmSnapshots

open RequestContract (Value VmRow Dict)
open VmService (ServiceError ProviderType ContainerCall)

/-! ### The two sides -/

/-- What `create_snapshot` of a provider returns, as far as it is read. -/
structure SnapshotInfo where
  /-- The image of the snapshot. -/
  imageTag : String
  deriving DecidableEq, Repr

/-- A registered provider of containers. A call that raises is not carried out, and neither is one
that returns `False`. -/
structure Provider where
  /-- The calls for a container. -/
  container : ContainerCall → Value → Except ServiceError Bool
  /-- `create_snapshot`. -/
  createSnapshot : Value → String → Except ServiceError SnapshotInfo
  /-- `restore_snapshot`. -/
  restoreSnapshot : String → Value → Except ServiceError Bool

/-- A request of the session to the database. -/
inductive DbCall where
  | findVm
  | findSnapshot
  | commit
  | refresh
  deriving DecidableEq, Repr

/-- What a run meets outside of the tables. -/
structure Environment where
  /-- The registered providers. -/
  containers : ProviderType → Option Provider
  /-- The failures of the database. -/
  database : DbCall → Except ServiceError Unit

/-- A row of `vm_snapshots`. -/
structure VMSnapshot where
  /-- The VM. -/
  vmId : ℕ
  /-- The name. -/
  name : String
  /-- The description. -/
  description : Option String
  /-- The image on the side of the provider. -/
  imageTag : String
  /-- The dictionary that is stored as JSON. -/
  containerConfig : Dict
  /-- The user that asked for the snapshot. -/
  createdBy : ℕ
  /-- The tenant. The column must not be empty. -/
  tenantId : Option ℕ

/-- A snapshot on the side of the provider. -/
structure Image where
  /-- The container. -/
  container : Value
  /-- The name of the snapshot. -/
  name : String
  /-- The tag. -/
  tag : String
  deriving DecidableEq, Repr

/-- The committed rows, and what there is on the side of the providers. -/
structure World where
  /-- Table `vms`. -/
  vms : Serial VmRow
  /-- Table `vm_snapshots`. -/
  snapshots : Serial VMSnapshot
  /-- The containers, by name. -/
  containers : List Value
  /-- The snapshots that were made, in order. -/
  images : List Image

/-- A program of the service. What it has done by the time it raises stays. -/
abbrev Program := EStateM ServiceError World

/-- The world after a run, however the run ended. -/
def worldAfter {α : Type} : EStateM.Result ServiceError World α → World
  | .ok _ w => w
  | .error _ w => w

/-- The value of a computation, or its exception. -/
def raise {α : Type} : Except ServiceError α → Program α
  | .ok a => return a
  | .error e => throw e

/-! ### The service -/

/-- `VMSnapshotCreate`. -/
structure VMSnapshotCreate where
  /-- The name. -/
  name : String
  /-- The description. -/
  description : Option String
  deriving DecidableEq, Repr

/-- A value in a message. -/
def display : Value → String
  | .none => "None"
  | .int n => toString n
  | .text s => s
  | .object className => className

/-- An attribute of a VM. -/
def getattr (vm : VmRow) (name : String) : Except ServiceError Value :=
  (vm.getattr name).mapError fun _ => .other s!"'VM' object has no attribute '{name}'"

/-- `get_container_provider`. -/
def getContainerProvider (env : Environment) : Value → Except ServiceError Provider
  | .text providerType => do
    let ptype ← Except.ofOption
      (.providerException s!"Unsupported provider type: {providerType}")
      (ProviderType.ofText (Text.lower providerType))
    Except.ofOption (.providerException s!"Container provider {ptype.display} not implemented")
      (env.containers ptype)
  | _ => .error (.other "object has no attribute 'lower'")

/-- The row of a VM. -/
def findVm (env : Environment) (vmId : ℕ) : Program VmRow := do
  raise (env.database .findVm)
  let w ← get
  raise (Except.ofOption (.valueError s!"VM with ID {vmId} not found") (w.vms.get? vmId))

/-- A snapshot by a condition on its row. -/
def findSnapshot (env : Environment) (p : ℕ → VMSnapshot → Bool) :
    Program (Option (ℕ × VMSnapshot)) := do
  raise (env.database .findSnapshot)
  let w ← get
  return w.snapshots.first? p

/-- The provider makes a snapshot. -/
def callCreateSnapshot (provider : Provider) (container : Value) (name : String) :
    Program SnapshotInfo := do
  let info ← raise (provider.createSnapshot container name)
  modify fun w => { w with images := w.images ++ [⟨container, name, info.imageTag⟩] }
  return info

/-- The provider removes a container. -/
def callRemove (provider : Provider) (container : Value) : Program Unit := do
  let removed ← raise (provider.container (.remove true) container)
  if removed then
    modify fun w => { w with containers := w.containers.filter (· ≠ container) }

/-- The provider creates a container from an image. -/
def callRestoreSnapshot (provider : Provider) (imageTag : String) (container : Value) :
    Program Unit := do
  let restored ← raise (provider.restoreSnapshot imageTag container)
  if restored then
    modify fun w => { w with containers := container :: w.containers }

/-- The description of the container that is stored with a snapshot. -/
def containerConfig (vm : VmRow) : Except ServiceError Dict := do
  let image ← getattr vm "image"
  let cpu ← getattr vm "cpu"
  let ram ← getattr vm "ram"
  let diskSize ← getattr vm "disk_size"
  let networkId ← getattr vm "network_id"
  return Dict.of
    [("image", image), ("cpu", cpu), ("ram", ram), ("disk_size", diskSize),
      ("network_id", networkId)]

/-- The insertion of a row: its commit, and the read after it. -/
def insertSnapshot (env : Environment) (row : VMSnapshot) : Program VMSnapshot := do
  raise (env.database .commit)
  if row.tenantId = none then
    throw (.other "NOT NULL constraint failed: vm_snapshots.tenant_id")
  modify fun w => { w with snapshots := w.snapshots.add row }
  raise (env.database .refresh)
  return row

/-- The part of `create_snapshot_logic` inside of its `try`. -/
def takeSnapshot (env : Environment) (vm : VmRow) (vmId : ℕ) (data : VMSnapshotCreate)
    (userId : ℕ) : Program VMSnapshot := do
  let provider ← raise (getContainerProvider env (vm .provider))
  let info ← callCreateSnapshot provider (vm .name) data.name
  let config ← raise (containerConfig vm)
  insertSnapshot env
    { vmId
      name := data.name
      description := data.description
      imageTag := info.imageTag
      containerConfig := config
      createdBy := userId
      tenantId := none }

/-- `create_snapshot_logic`. -/
def createSnapshotLogic (env : Environment) (vmId : ℕ) (data : VMSnapshotCreate) (userId : ℕ) :
    Program VMSnapshot := do
  let vm ← findVm env vmId
  if vm .status ≠ .text "running" then
    throw (.valueError
      s!"Cannot snapshot VM with status '{display (vm .status)}'. VM must be running.")
  let existing ← findSnapshot env fun _ row => row.vmId = vmId ∧ row.name = data.name
  if existing.isSome then
    throw (.valueError s!"Snapshot with name '{data.name}' already exists for this VM")
  EStateM.adaptExcept (fun e => .valueError s!"Failed to create snapshot: {e.message}")
    (takeSnapshot env vm vmId data userId)

/-- The part of `restore_snapshot_logic` inside of its `try`. -/
def recreate (env : Environment) (vm : VmRow) (snapshot : VMSnapshot) : Program Bool := do
  let provider ← raise (getContainerProvider env (vm .provider))
  if vm .status = .text "running" then
    let _ ← raise (provider.container .stop (vm .name))
  callRemove provider (vm .name)
  callRestoreSnapshot provider snapshot.imageTag (vm .name)
  return true

/-- `restore_snapshot_logic`. -/
def restoreSnapshotLogic (env : Environment) (vmId snapshotId : ℕ) : Program Bool := do
  let vm ← findVm env vmId
  let found ← findSnapshot env fun id row => id = snapshotId ∧ row.vmId = vmId
  match found with
  | none =>
    throw (.valueError s!"Snapshot with ID {snapshotId} not found for VM {vmId}")
  | some (_, snapshot) =>
    EStateM.adaptExcept (fun e => .valueError s!"Failed to restore snapshot: {e.message}")
      (recreate env vm snapshot)

/-- The requests. -/
inductive Operation where
  /-- `create_snapshot_logic`. -/
  | create (vmId : ℕ) (data : VMSnapshotCreate) (userId : ℕ)
  /-- `restore_snapshot_logic`. -/
  | restore (vmId snapshotId : ℕ)

/-- The world after a request. -/
def Operation.run (env : Environment) (w : World) : Operation → World
  | create vmId data userId => worldAfter ((createSnapshotLogic env vmId data userId).run w)
  | restore vmId snapshotId => worldAfter ((restoreSnapshotLogic env vmId snapshotId).run w)

/-! ### What is kept together -/

/-- The run has committed the row of a snapshot. -/
def CommitsRow (w w' : World) (vmId : ℕ) (image : Image) : Prop :=
  ∃ vm row, w.vms.get? vmId = some vm ∧ vm .name = image.container ∧ row.vmId = vmId ∧
    row.name = image.name ∧ row.imageTag = image.tag ∧ w'.snapshots = w.snapshots.add row

/-- A VM stays in existence: its row, and its container if there was one. -/
def KeepsVm (w w' : World) (vmId : ℕ) : Prop :=
  ∀ vm, w.vms.get? vmId = some vm →
    w'.vms.get? vmId = some vm ∧ (vm .name ∈ w.containers → vm .name ∈ w'.containers)

/-- A request keeps the database and the hypervisor together. The run makes a snapshot exactly
when it commits the row of the snapshot, and a restore does not lose the VM. -/
def Operation.Consistent (w w' : World) : Operation → Prop
  | create vmId _ _ => ∀ image, w'.images = w.images ++ [image] ↔ CommitsRow w w' vmId image
  | restore vmId _ => KeepsVm w w' vmId

/-- The checks of a request for a snapshot pass, and the provider makes it. -/
structure MakesSnapshot (env : Environment) (w : World) (vmId : ℕ) (data : VMSnapshotCreate)
    (vm : VmRow) (provider : Provider) (info : SnapshotInfo) : Prop where
  /-- The database answers. -/
  queries : env.database .findVm = .ok () ∧ env.database .findSnapshot = .ok ()
  /-- The VM exists. -/
  found : w.vms.get? vmId = some vm
  /-- It is running. -/
  running : vm .status = .text "running"
  /-- It has no snapshot of the name. -/
  fresh : (w.snapshots.first? fun _ row => row.vmId = vmId ∧ row.name = data.name) = none
  /-- Its provider is registered. -/
  registered : getContainerProvider env (vm .provider) = .ok provider
  /-- The provider does not raise. -/
  made : provider.createSnapshot (vm .name) data.name = .ok info

/-- A restore removes a container and does not create it again. -/
structure Vanishes (env : Environment) (vm : VmRow) (snapshot : VMSnapshot) (provider : Provider) :
    Prop where
  /-- The provider is registered. -/
  registered : getContainerProvider env (vm .provider) = .ok provider
  /-- A running container can be stopped. -/
  stopped : vm .status = .text "running" → ∃ b, provider.container .stop (vm .name) = .ok b
  /-- The container is removed. -/
  removed : provider.container (.remove true) (vm .name) = .ok true
  /-- It is not created again. -/
  failed : provider.restoreSnapshot snapshot.imageTag (vm .name) ≠ .ok true

/-- The checks of a restore pass, and the container of the VM is not created again. -/
structure LosesContainer (env : Environment) (w : World) (vmId snapshotId : ℕ) (vm : VmRow)
    (snapshot : VMSnapshot) (provider : Provider) : Prop
    extends Vanishes env vm snapshot provider where
  /-- The database answers. -/
  queries : env.database .findVm = .ok () ∧ env.database .findSnapshot = .ok ()
  /-- The VM exists. -/
  found : w.vms.get? vmId = some vm
  /-- The snapshot exists. -/
  snapshotFound : (w.snapshots.first? fun id row => id = snapshotId ∧ row.vmId = vmId) =
    some (snapshotId, snapshot)
  /-- There is a container. -/
  present : vm .name ∈ w.containers

/-- The requests that tear the two sides apart. -/
def Operation.Diverges (env : Environment) (w : World) : Operation → Prop
  | create vmId data _ => ∃ vm provider info, MakesSnapshot env w vmId data vm provider info
  | restore vmId snapshotId =>
    ∃ vm snapshot provider, LosesContainer env w vmId snapshotId vm snapshot provider

variable {env : Environment} {w : World} {vmId snapshotId userId : ℕ} {data : VMSnapshotCreate}
  {vm : VmRow} {snapshot : VMSnapshot} {provider : Provider} {info : SnapshotInfo}

/-- A VM has no attribute `disk_size`, so a row cannot be described. -/
theorem containerConfig_raises (vm : VmRow) : ∃ e, containerConfig vm = .error e :=
  ⟨_, rfl⟩

/-! ### Runs -/

/-- A program raises and changes nothing. -/
def Refused {α : Type} (x : Program α) (w : World) : Prop := ∃ e, x.run w = .error e w

section Runs

variable {α β : Type} {x : Program α} {f : α → Program β} {a : α} {w' : World}

theorem run_bind_of_ok (h : x.run w = .ok a w') : (x >>= f).run w = (f a).run w' := by
  rw [EStateM.run_bind, h]

/-- A refusal ends a sequence. -/
theorem Refused.bind (h : Refused x w) : Refused (x >>= f) w := by
  obtain ⟨e, hrun⟩ := h
  exact ⟨e, by rw [EStateM.run_bind, hrun]⟩

/-- What comes after a program that changes nothing is refused. -/
theorem refused_bind_of_ok (h : x.run w = .ok a w) (hf : Refused (f a) w) :
    Refused (x >>= f) w := by
  obtain ⟨e, hrun⟩ := hf
  exact ⟨e, by rw [run_bind_of_ok h, hrun]⟩

theorem Refused.adaptExcept {g : ServiceError → ServiceError} (h : Refused x w) :
    Refused (EStateM.adaptExcept g x) w := by
  obtain ⟨e, hrun⟩ := h
  exact ⟨g e, by rw [EStateM.run_adaptExcept, hrun]⟩

theorem refused_raise {y : Except ServiceError α} (h : ∀ a, y ≠ .ok a) : Refused (raise y) w := by
  cases y with
  | ok a => exact absurd rfl (h a)
  | error e => exact ⟨e, rfl⟩

theorem raise_run {y : Except ServiceError α} (h : y = .ok a) : (raise y).run w = .ok a w := by
  rw [h]
  rfl

theorem worldAfter_of_refused (h : Refused x w) : worldAfter (x.run w) = w := by
  obtain ⟨e, hrun⟩ := h
  rw [hrun]
  rfl

end Runs

theorem findVm_run (hquery : env.database .findVm = .ok ()) (hvm : w.vms.get? vmId = some vm) :
    (findVm env vmId).run w = .ok vm w := by
  rw [findVm, run_bind_of_ok (raise_run hquery), run_bind_of_ok (EStateM.run_get w), hvm]
  rfl

/-- A request for a VM that is not found ends there. -/
theorem refused_findVm
    (h : ¬ ∃ vm, env.database .findVm = .ok () ∧ w.vms.get? vmId = some vm) :
    Refused (findVm env vmId) w := by
  by_cases hquery : env.database .findVm = .ok ()
  · refine refused_bind_of_ok (raise_run hquery) (refused_bind_of_ok (EStateM.run_get w) ?_)
    refine refused_raise fun vm hok => h ⟨vm, hquery, ?_⟩
    exact Except.ofOption_eq_ok_iff.mp hok
  · exact (refused_raise fun _ hok => hquery hok).bind

theorem findSnapshot_run {p : ℕ → VMSnapshot → Bool}
    (hquery : env.database .findSnapshot = .ok ()) :
    (findSnapshot env p).run w = .ok (w.snapshots.first? p) w := by
  rw [findSnapshot, run_bind_of_ok (raise_run hquery)]
  rfl

theorem refused_findSnapshot {p : ℕ → VMSnapshot → Bool}
    (hquery : env.database .findSnapshot ≠ .ok ()) : Refused (findSnapshot env p) w :=
  (refused_raise fun _ hok => hquery hok).bind

/-! ### Requests for a snapshot -/

/-- The provider has made the snapshot when the row turns out to be impossible to write. -/
theorem takeSnapshot_run (hregistered : getContainerProvider env (vm .provider) = .ok provider)
    (hmade : provider.createSnapshot (vm .name) data.name = .ok info) :
    ∃ e, (takeSnapshot env vm vmId data userId).run w =
      .error e { w with images := w.images ++ [⟨vm .name, data.name, info.imageTag⟩] } := by
  have hcall : (callCreateSnapshot provider (vm .name) data.name).run w =
      .ok info { w with images := w.images ++ [⟨vm .name, data.name, info.imageTag⟩] } := by
    rw [callCreateSnapshot, run_bind_of_ok (raise_run hmade)]
    rfl
  obtain ⟨e, hconfig⟩ := containerConfig_raises vm
  refine ⟨e, ?_⟩
  rw [takeSnapshot, run_bind_of_ok (raise_run hregistered), run_bind_of_ok hcall, hconfig]
  rfl

theorem refused_takeSnapshot
    (h : ∀ provider info, getContainerProvider env (vm .provider) = .ok provider →
      provider.createSnapshot (vm .name) data.name ≠ .ok info) :
    Refused (takeSnapshot env vm vmId data userId) w := by
  cases hregistered : getContainerProvider env (vm .provider) with
  | error e => exact (refused_raise fun provider hok => nomatch hregistered.symm.trans hok).bind
  | ok provider =>
    refine refused_bind_of_ok (raise_run hregistered) ?_
    exact (refused_raise fun info => h provider info hregistered).bind.bind

/-- A request that the checks and the provider let pass leaves a snapshot and raises. -/
theorem create_run_of_makes (h : MakesSnapshot env w vmId data vm provider info) :
    ∃ e, (createSnapshotLogic env vmId data userId).run w =
      .error e { w with images := w.images ++ [⟨vm .name, data.name, info.imageTag⟩] } := by
  obtain ⟨e, hrun⟩ : ∃ e, (takeSnapshot env vm vmId data userId).run w =
      .error e { w with images := w.images ++ [⟨vm .name, data.name, info.imageTag⟩] } :=
    takeSnapshot_run h.registered h.made
  refine ⟨.valueError s!"Failed to create snapshot: {e.message}", ?_⟩
  rw [createSnapshotLogic, run_bind_of_ok (findVm_run h.queries.1 h.found)]
  simp only [h.running, ne_eq, not_true_eq_false, ↓reduceIte]
  rw [run_bind_of_ok (findSnapshot_run h.queries.2), h.fresh]
  simp only [Option.isSome_none, Bool.false_eq_true, ↓reduceIte]
  rw [EStateM.run_adaptExcept, hrun]

/-- Every other request changes nothing. -/
theorem refused_create (h : ¬ ∃ vm provider info, MakesSnapshot env w vmId data vm provider info) :
    Refused (createSnapshotLogic env vmId data userId) w := by
  by_cases hvm : ∃ vm, env.database .findVm = .ok () ∧ w.vms.get? vmId = some vm
  swap
  · exact (refused_findVm hvm).bind
  obtain ⟨vm, hquery, hvm⟩ := hvm
  refine refused_bind_of_ok (findVm_run hquery hvm) ?_
  by_cases hrunning : vm .status = .text "running"
  swap
  · simp only [ne_eq, hrunning, not_false_eq_true, ↓reduceIte]
    exact Refused.bind ⟨_, rfl⟩
  simp only [hrunning, ne_eq, not_true_eq_false, ↓reduceIte]
  by_cases hsnapshot : env.database .findSnapshot = .ok ()
  swap
  · exact (refused_findSnapshot hsnapshot).bind
  refine refused_bind_of_ok (findSnapshot_run hsnapshot) ?_
  cases hfresh : w.snapshots.first? fun _ row => row.vmId = vmId ∧ row.name = data.name with
  | some r => exact Refused.bind ⟨_, rfl⟩
  | none =>
    refine Refused.adaptExcept (refused_takeSnapshot ?_)
    intro provider info hregistered hmade
    exact h ⟨vm, provider, info, ⟨hquery, hsnapshot⟩, hvm, hrunning, hfresh, hregistered, hmade⟩

/-- A run that leaves the rows alone has not inserted one. -/
theorem not_commitsRow {w' : World} {image : Image} (h : w'.snapshots = w.snapshots) :
    ¬ CommitsRow w w' vmId image := by
  rintro ⟨vm, row, -, -, -, -, -, hadd⟩
  have hnext := congrArg Serial.next (h.symm.trans hadd)
  exact absurd hnext (Nat.lt_succ_self _).ne

theorem create_consistent_iff :
    (Operation.create vmId data userId).Consistent w
        ((Operation.create vmId data userId).run env w) ↔
      ¬ (Operation.create vmId data userId).Diverges env w := by
  constructor
  · rintro hconsistent ⟨vm, provider, info, h⟩
    obtain ⟨e, hrun⟩ : ∃ e, (createSnapshotLogic env vmId data userId).run w =
        .error e { w with images := w.images ++ [⟨vm .name, data.name, info.imageTag⟩] } :=
      create_run_of_makes h
    have hworld : (Operation.create vmId data userId).run env w =
        { w with images := w.images ++ [⟨vm .name, data.name, info.imageTag⟩] } := by
      rw [Operation.run, hrun]
      rfl
    rw [hworld] at hconsistent
    exact not_commitsRow rfl ((hconsistent _).mp rfl)
  · intro h image
    have hworld : (Operation.create vmId data userId).run env w = w :=
      worldAfter_of_refused (refused_create h)
    rw [hworld]
    refine iff_of_false (fun himages => ?_) (not_commitsRow rfl)
    have hlength := congrArg List.length himages
    rw [List.length_append, List.length_singleton] at hlength
    omega

/-! ### Restores -/

/-- The last call of a restore, on its own. -/
theorem worldAfter_callRestoreSnapshot_bind {tag : String} {container : Value} :
    worldAfter ((callRestoreSnapshot provider tag container >>= fun _ => return true).run w) =
      if provider.restoreSnapshot tag container = .ok true then
        { w with containers := container :: w.containers }
      else w := by
  unfold callRestoreSnapshot
  cases hrestore : provider.restoreSnapshot tag container with
  | error e =>
    rw [if_neg (fun h => nomatch h)]
    rfl
  | ok restored =>
    cases restored with
    | true =>
      rw [if_pos rfl]
      rfl
    | false =>
      rw [if_neg (fun h => nomatch h)]
      rfl

/-- The provider of a VM is registered, and its container is not running or can be stopped. -/
def Ready (env : Environment) (vm : VmRow) (provider : Provider) : Prop :=
  getContainerProvider env (vm .provider) = .ok provider ∧
    (vm .status = .text "running" → ∃ b, provider.container .stop (vm .name) = .ok b)

theorem refused_recreate (h : ¬ ∃ provider, Ready env vm provider) :
    Refused (recreate env vm snapshot) w := by
  cases hregistered : getContainerProvider env (vm .provider) with
  | error e => exact (refused_raise fun provider hok => nomatch hregistered.symm.trans hok).bind
  | ok provider =>
    refine refused_bind_of_ok (raise_run hregistered) ?_
    by_cases hrunning : vm .status = .text "running"
    · rw [if_pos hrunning]
      refine Refused.bind (refused_raise fun b hok => ?_)
      exact h ⟨provider, hregistered, fun _ => ⟨b, hok⟩⟩
    · exact absurd ⟨provider, hregistered, fun hrun => absurd hrun hrunning⟩ h

/-- A restore of a container that is ready comes down to its last two calls. -/
theorem recreate_run_of_ready (h : Ready env vm provider) :
    (recreate env vm snapshot).run w = (callRemove provider (vm .name) >>= fun _ =>
      callRestoreSnapshot provider snapshot.imageTag (vm .name) >>= fun _ => return true).run w := by
  rw [recreate, run_bind_of_ok (raise_run h.1)]
  by_cases hrunning : vm .status = .text "running"
  · obtain ⟨b, hstop⟩ := h.2 hrunning
    rw [if_pos hrunning, run_bind_of_ok (raise_run hstop)]
  · rw [if_neg hrunning]

/-- Whether a container that is ready vanishes is up to the last two calls. -/
theorem vanishes_iff (h : Ready env vm provider) :
    (∃ other, Vanishes env vm snapshot other) ↔
      provider.container (.remove true) (vm .name) = .ok true ∧
        provider.restoreSnapshot snapshot.imageTag (vm .name) ≠ .ok true := by
  constructor
  · rintro ⟨other, hvanishes⟩
    obtain rfl := Except.ok.inj (hvanishes.registered.symm.trans h.1)
    exact ⟨hvanishes.removed, hvanishes.failed⟩
  · rintro ⟨hremoved, hfailed⟩
    exact ⟨provider, h.1, h.2, hremoved, hfailed⟩

/-- What a restore changes, and when its container is gone afterwards. -/
theorem recreate_worldAfter (env : Environment) (w : World) (vm : VmRow) (snapshot : VMSnapshot) :
    ∃ containers, worldAfter ((recreate env vm snapshot).run w) = { w with containers } ∧
      (vm .name ∈ w.containers →
        (vm .name ∈ containers ↔ ¬ ∃ provider, Vanishes env vm snapshot provider)) := by
  by_cases hready : ∃ provider, Ready env vm provider
  swap
  · -- the restore ends before the container is removed
    refine ⟨w.containers, worldAfter_of_refused (refused_recreate hready), fun hpresent => ?_⟩
    refine iff_of_true hpresent fun ⟨provider, hvanishes⟩ => ?_
    exact hready ⟨provider, hvanishes.registered, hvanishes.stopped⟩
  obtain ⟨provider, hready⟩ := hready
  rw [recreate_run_of_ready hready, vanishes_iff hready]
  cases hremove : provider.container (.remove true) (vm .name) with
  | error e =>
    refine ⟨w.containers, worldAfter_of_refused (Refused.bind (Refused.bind ?_)), ?_⟩
    · exact refused_raise fun b hok => nomatch hremove.symm.trans hok
    · exact fun hpresent => iff_of_true hpresent fun h => nomatch h.1
  | ok removed =>
    cases removed with
    | false =>
      have hrun : (callRemove provider (vm .name)).run w = .ok () w := by
        rw [callRemove, run_bind_of_ok (raise_run hremove)]
        rfl
      have hkeeps : ¬ ((Except.ok false : Except ServiceError Bool) = .ok true ∧
          provider.restoreSnapshot snapshot.imageTag (vm .name) ≠ .ok true) :=
        fun h => nomatch h.1
      rw [run_bind_of_ok hrun, worldAfter_callRestoreSnapshot_bind]
      by_cases hrestore : provider.restoreSnapshot snapshot.imageTag (vm .name) = .ok true
      · rw [if_pos hrestore]
        exact ⟨_, rfl, fun _ => iff_of_true List.mem_cons_self hkeeps⟩
      · rw [if_neg hrestore]
        exact ⟨_, rfl, fun hpresent => iff_of_true hpresent hkeeps⟩
    | true =>
      have hrun : (callRemove provider (vm .name)).run w =
          .ok () { w with containers := w.containers.filter (· ≠ vm .name) } := by
        rw [callRemove, run_bind_of_ok (raise_run hremove)]
        rfl
      rw [run_bind_of_ok hrun, worldAfter_callRestoreSnapshot_bind]
      by_cases hrestore : provider.restoreSnapshot snapshot.imageTag (vm .name) = .ok true
      · rw [if_pos hrestore]
        exact ⟨_, rfl, fun _ => iff_of_true List.mem_cons_self fun h => h.2 hrestore⟩
      · -- the container is gone, and nothing creates it again
        rw [if_neg hrestore]
        refine ⟨_, rfl, fun _ => iff_of_false (fun hmem => ?_) (not_not_intro ⟨rfl, hrestore⟩)⟩
        exact absurd (List.mem_filter.mp hmem).2 (by simp)

/-- An error that is raised again under another text leaves the same world. -/
theorem worldAfter_adaptExcept {α : Type} {x : Program α} {g : ServiceError → ServiceError} :
    worldAfter ((EStateM.adaptExcept g x).run w) = worldAfter (x.run w) := by
  rw [EStateM.run_adaptExcept]
  cases x.run w with
  | ok a w' => rfl
  | error e w' => rfl

/-- A restore of a snapshot that is found. -/
theorem restore_worldAfter (hquery : env.database .findVm = .ok ())
    (hvm : w.vms.get? vmId = some vm) (hsnapshot : env.database .findSnapshot = .ok ())
    (hfound : (w.snapshots.first? fun id row => id = snapshotId ∧ row.vmId = vmId) =
      some (snapshotId, snapshot)) :
    (Operation.restore vmId snapshotId).run env w =
      worldAfter ((recreate env vm snapshot).run w) := by
  rw [Operation.run, restoreSnapshotLogic, run_bind_of_ok (findVm_run hquery hvm),
    run_bind_of_ok (findSnapshot_run hsnapshot), hfound]
  exact worldAfter_adaptExcept

/-- A restore of anything else changes nothing. -/
theorem refused_restore
    (h : ¬ ∃ vm snapshot, env.database .findVm = .ok () ∧ env.database .findSnapshot = .ok () ∧
      w.vms.get? vmId = some vm ∧
      (w.snapshots.first? fun id row => id = snapshotId ∧ row.vmId = vmId) =
        some (snapshotId, snapshot)) :
    Refused (restoreSnapshotLogic env vmId snapshotId) w := by
  by_cases hvm : ∃ vm, env.database .findVm = .ok () ∧ w.vms.get? vmId = some vm
  swap
  · exact (refused_findVm hvm).bind
  obtain ⟨vm, hquery, hvm⟩ := hvm
  refine refused_bind_of_ok (findVm_run hquery hvm) ?_
  by_cases hsnapshot : env.database .findSnapshot = .ok ()
  swap
  · exact (refused_findSnapshot hsnapshot).bind
  refine refused_bind_of_ok (findSnapshot_run hsnapshot) ?_
  cases hfound : w.snapshots.first? fun id row => id = snapshotId ∧ row.vmId = vmId with
  | none => exact ⟨_, rfl⟩
  | some r =>
    obtain ⟨id, snapshot⟩ := r
    -- the row that is found has the id that was asked for
    have hid := (Serial.first?_eq_some hfound).2
    simp only [decide_eq_true_eq] at hid
    obtain ⟨rfl, -⟩ := hid
    exact absurd ⟨vm, snapshot, hquery, hsnapshot, hvm, hfound⟩ h

theorem restore_consistent_iff :
    (Operation.restore vmId snapshotId).Consistent w
        ((Operation.restore vmId snapshotId).run env w) ↔
      ¬ (Operation.restore vmId snapshotId).Diverges env w := by
  by_cases hfound : ∃ vm snapshot, env.database .findVm = .ok () ∧
      env.database .findSnapshot = .ok () ∧ w.vms.get? vmId = some vm ∧
      (w.snapshots.first? fun id row => id = snapshotId ∧ row.vmId = vmId) =
        some (snapshotId, snapshot)
  swap
  · have hworld : (Operation.restore vmId snapshotId).run env w = w :=
      worldAfter_of_refused (refused_restore hfound)
    rw [hworld]
    refine iff_of_true (fun vm hvm => ⟨hvm, id⟩) ?_
    rintro ⟨vm, snapshot, provider, h⟩
    exact hfound ⟨vm, snapshot, h.queries.1, h.queries.2, h.found, h.snapshotFound⟩
  obtain ⟨vm, snapshot, hquery, hsnapshot, hvm, hrow⟩ := hfound
  obtain ⟨containers, hworld, hvanishes⟩ := recreate_worldAfter env w vm snapshot
  rw [restore_worldAfter hquery hvm hsnapshot hrow, hworld]
  constructor
  · rintro hkeeps ⟨vm', snapshot', provider, h⟩
    obtain rfl := Option.some.inj (hvm.symm.trans h.found)
    obtain rfl := congrArg Prod.snd (Option.some.inj (hrow.symm.trans h.snapshotFound))
    exact (hvanishes h.present).mp ((hkeeps _ hvm).2 h.present) ⟨provider, h.toVanishes⟩
  · intro h vm' hvm'
    obtain rfl := Option.some.inj (hvm.symm.trans hvm')
    refine ⟨hvm, fun hpresent => (hvanishes hpresent).mpr ?_⟩
    rintro ⟨provider, hvanish⟩
    exact h ⟨vm, snapshot, provider, hvanish, ⟨hquery, hsnapshot⟩, hvm, hrow, hpresent⟩

/-- A request keeps the database and the hypervisor together exactly when the provider does not
make the snapshot, and when it does not stop half-way in a restore. -/
theorem consistent_iff (env : Environment) (w : World) (operation : Operation) :
    operation.Consistent w (operation.run env w) ↔ ¬ operation.Diverges env w := by
  cases operation with
  | create vmId data userId => exact create_consistent_iff
  | restore vmId snapshotId => exact restore_consistent_iff

/-- A running VM in a container. -/
def webVm : VmRow
  | .id => .int 1
  | .name => .text "web"
  | .provider => .text "docker"
  | .status => .text "running"
  | .cpu => .int 2
  | .ram => .int 2048
  | .diskSizeMb => .int 20480
  | .ownerId => .int 1
  | .tenantId => .int 1
  | _ => .none

/-- A provider that carries out every call. -/
def workingProvider : Provider where
  container := fun _ _ => .ok true
  createSnapshot := fun _ name => .ok ⟨name⟩
  restoreSnapshot := fun _ _ => .ok true

/-- Neither the provider nor the database fails, and the snapshot has no row. -/
theorem not_consistent : ¬ ∀ (env : Environment) (w : World) (operation : Operation),
    operation.Consistent w (operation.run env w) := by
  intro h
  have hconsistent := h { containers := fun _ => some workingProvider, database := fun _ => .ok () }
    { vms := Serial.empty.add webVm
      snapshots := Serial.empty
      containers := [.text "web"]
      images := [] }
    (.create 1 ⟨"before-upgrade", none⟩ 1)
  have hdiverges := create_consistent_iff.mp hconsistent
  exact hdiverges ⟨webVm, workingProvider, ⟨"before-upgrade"⟩, ⟨rfl, rfl⟩, rfl, rfl, rfl, rfl, rfl⟩

end ProxmoxIaas.VmSnapshots
