import ProxmoxIaas.Provisioning.Model

/-!
# Reconciliation of the Container Providers

The reconciler compares the rows of VMs with the containers that each provider lists, and
repairs the difference: containers without a row are removed, rows without a container are
deleted, and a status that differs is corrected.

A run is a function of the database and of the way in which the calls to the providers end.
A status is a text here: drift correction stores whatever the provider reports.

## Main results

- `get?_statusMap_eq_none_iff`: a name has no status when no listed container has it.
- `get?_purgeGhosts`, `get?_correctDrifts`: the rows after each repair.
-/

namespace ProxmoxIaas.Reconciler

/-- A row of `vms`: the columns that reconciliation uses. -/
structure VmRecord where
  /-- Unique name, also the name of the container. -/
  name : String
  /-- The provider that runs the container. -/
  provider : String
  /-- Lifecycle status. -/
  status : String
  /-- The address of the VM. -/
  ipAddress : Option String
  /-- The network of the VM. -/
  networkId : Option ℕ
  deriving DecidableEq, Repr

/-- A row of `ip_reservations`. -/
structure IPReservation where
  /-- The network of the address. -/
  networkId : ℕ
  /-- The reserved address. -/
  ipAddress : String
  /-- The VM that holds the address. -/
  vmId : Option ℕ
  /-- Whether the address is reserved or released. -/
  status : String
  deriving DecidableEq, Repr

/-- The committed content of the tables that reconciliation uses. -/
structure ReconcilerDb where
  /-- Table `vms`. -/
  vms : Serial VmRecord
  /-- Table `ip_reservations`. -/
  ipReservations : Serial IPReservation

/-- What a provider reports about a container. -/
structure ContainerInfo where
  /-- The name of the container. -/
  name : String
  /-- The status of the container, in the words of the provider. -/
  status : String
  deriving DecidableEq, Repr

/-- How a call to a provider ends. -/
inductive Answer (α : Type) where
  | returns (a : α)
  /-- A `ProviderException`, which the reconciler catches. -/
  | providerException
  /-- Any other exception, which ends the run. -/
  | raises
  deriving DecidableEq, Repr

/-- How the calls to one provider end during a run. -/
structure ProviderCalls where
  /-- Whether `get_container_provider` returns a provider to the audit. -/
  lookup : Bool
  /-- `list_containers`. -/
  listContainers : Answer (List ContainerInfo)
  /-- Whether `get_container_provider` returns a provider to the repairs. -/
  lookupAgain : Bool
  /-- `remove`, for each name. -/
  remove : String → Answer Unit

/-- The query of the infrastructure: the provider is looked up and lists its containers. -/
def ProviderCalls.query (calls : ProviderCalls) : Answer (List ContainerInfo) :=
  if calls.lookup then calls.listContainers else .providerException

/-- The dictionary of statuses by name; a later container of the same name overwrites the
status of an earlier one. -/
def statusMap (containers : List ContainerInfo) : Table String String :=
  containers.foldl
    (fun statuses container =>
      if (statuses.get? container.name).isSome then
        statuses.modify container.name fun _ => container.status
      else statuses.append container.name container.status) ∅

/-- `get_container_status`; `none` is an exception that is not caught. -/
def getContainerStatus (calls : ProviderCalls) : Option (Table String String) :=
  match calls.query with
  | .returns containers => some (statusMap containers)
  -- The failed query has the same value as an empty listing.
  | .providerException => some ∅
  | .raises => none

/-- A name has no status exactly when no container of that name was listed. -/
theorem get?_statusMap_eq_none_iff (containers : List ContainerInfo) (name : String) :
    (statusMap containers).get? name = none ↔ ∀ container ∈ containers, container.name ≠ name := by
  -- The dictionary that is built on is generalized to any one.
  suffices hfold : ∀ statuses : Table String String,
      (containers.foldl
        (fun statuses container =>
          if (statuses.get? container.name).isSome then
            statuses.modify container.name fun _ => container.status
          else statuses.append container.name container.status) statuses).get? name = none ↔
        statuses.get? name = none ∧ ∀ container ∈ containers, container.name ≠ name by
    simpa [statusMap] using hfold ∅
  induction containers with
  | nil => intro statuses; simp
  | cons container containers ih =>
    intro statuses
    have hset : (if (statuses.get? container.name).isSome then
          statuses.modify container.name fun _ => container.status
        else statuses.append container.name container.status).get? name = none ↔
        statuses.get? name = none ∧ container.name ≠ name := by
      split
      case isTrue h =>
        rw [Table.get?_modify]
        by_cases hname : name = container.name
        · subst hname
          simp
          exact Option.isSome_iff_ne_none.mp h
        · simp [hname, Ne.symm hname]
      case isFalse =>
        rw [Table.get?_append]
        by_cases hname : name = container.name <;> simp [hname, eq_comm]
    rw [List.foldl_cons, ih, hset, List.forall_mem_cons, and_assoc]

/-- A container without a row. -/
structure Orphan where
  name : String
  status : String
  provider : String
  deriving DecidableEq, Repr

/-- A row without a container. -/
structure Ghost where
  vmId : ℕ
  name : String
  dbStatus : String
  provider : String
  deriving DecidableEq, Repr

/-- A row whose status differs from that of its container. -/
structure Drift where
  vmId : ℕ
  name : String
  dbStatus : String
  realStatus : String
  provider : String
  deriving DecidableEq, Repr

/-- The report of an audit. -/
structure Report where
  orphans : List Orphan
  ghosts : List Ghost
  drift : List Drift
  synced : List String
  deriving DecidableEq, Repr

/-- The rows of one provider. -/
def vmsOf (db : ReconcilerDb) (provider : String) : List (ℕ × VmRecord) :=
  db.vms.select fun _ vm => vm.provider = provider

/-- Whether a row says something else about running than the container does. -/
def drifted (vm : VmRecord) (realStatus : String) : Bool :=
  decide (vm.status = "running") != decide (realStatus = "running")

/-- `_audit_single_provider`. -/
def auditSingleProvider (db : ReconcilerDb) (calls : ProviderCalls) (provider : String) :
    Option Report := do
  let containerStatus ← getContainerStatus calls
  let vms := vmsOf db provider
  return {
    orphans := containerStatus.entries.filterMap fun r =>
      if vms.any fun vm => vm.2.name = r.1 then none
      else some { name := r.1, status := r.2, provider }
    ghosts := vms.filterMap fun vm =>
      match containerStatus.get? vm.2.name with
      | some _ => none
      | none => some { vmId := vm.1, name := vm.2.name, dbStatus := vm.2.status, provider }
    drift := vms.filterMap fun vm => do
      let realStatus ← containerStatus.get? vm.2.name
      Option.require (drifted vm.2 realStatus)
      return { vmId := vm.1, name := vm.2.name, dbStatus := vm.2.status, realStatus, provider }
    synced := vms.filterMap fun vm => do
      let realStatus ← containerStatus.get? vm.2.name
      Option.require (!drifted vm.2 realStatus)
      return vm.2.name }

/-- A status that was corrected. -/
structure Correction where
  name : String
  oldStatus : String
  newStatus : String
  deriving DecidableEq, Repr

/-- What a run did for a provider. -/
structure Results where
  orphanPurged : List String
  ghostPurged : List String
  driftCorrected : List Correction
  deriving DecidableEq, Repr

/-- Nothing was done. -/
def Results.none : Results where
  orphanPurged := []
  ghostPurged := []
  driftCorrected := []

/-- The removal of the orphans; a `ProviderException` only skips the container. -/
def purgeOrphans (calls : ProviderCalls) : List Orphan → Option (List String)
  | [] => some []
  | orphan :: orphans =>
    match calls.remove orphan.name with
    | .returns _ => (purgeOrphans calls orphans).map (orphan.name :: ·)
    | .providerException => purgeOrphans calls orphans
    | .raises => .none

/-- The deletion of one ghost. The reservations that point to it are released first. The call
of `release_ip_reservation` that follows changes nothing: the module it is imported from has no
function of that name, and the error of the import is caught. -/
def purgeGhost (db : ReconcilerDb) (vmId : ℕ) : ReconcilerDb where
  vms := db.vms.deleteWhere fun id _ => id = vmId
  ipReservations := db.ipReservations.mapRows fun _ reservation =>
    if reservation.vmId = some vmId then { reservation with status := "released", vmId := .none }
    else reservation

/-- The deletion of the ghosts that still have a row, with the names of these. -/
def purgeGhosts (db : ReconcilerDb) : List Ghost → ReconcilerDb × List String
  | [] => (db, [])
  | ghost :: ghosts =>
    match db.vms.get? ghost.vmId with
    | some _ =>
      let (db, purged) := purgeGhosts (purgeGhost db ghost.vmId) ghosts
      (db, ghost.name :: purged)
    | .none => purgeGhosts db ghosts

/-- A purge deletes the rows of the ghosts and keeps all others. -/
theorem get?_purgeGhosts (db : ReconcilerDb) (ghosts : List Ghost) (id : ℕ) :
    (purgeGhosts db ghosts).1.vms.get? id =
      if id ∈ ghosts.map (·.vmId) then none else db.vms.get? id := by
  induction ghosts generalizing db with
  | nil => simp [purgeGhosts]
  | cons ghost ghosts ih =>
    rw [List.map_cons, purgeGhosts]
    have hdeleted : (purgeGhost db ghost.vmId).vms.get? id =
        if id = ghost.vmId then none else db.vms.get? id := by
      rw [purgeGhost, Serial.get?_deleteWhere]
      by_cases hid : id = ghost.vmId <;> cases db.vms.get? id <;> simp [hid]
    split
    case h_1 =>
      simp only [ih, hdeleted, List.mem_cons]
      by_cases hid : id = ghost.vmId <;> simp [hid]
    case h_2 hnone =>
      rw [ih]
      by_cases hid : id = ghost.vmId
      · subst hid
        simp [hnone]
      · simp [hid]

/-- The correction of the statuses of the rows that still exist. -/
def correctDrifts (db : ReconcilerDb) : List Drift → ReconcilerDb × List Correction
  | [] => (db, [])
  | item :: items =>
    match db.vms.get? item.vmId with
    | some vm =>
      let (db, corrected) := correctDrifts
        { db with vms := db.vms.modify item.vmId fun vm =>
            { vm with status := item.realStatus } } items
      (db, { name := vm.name, oldStatus := item.dbStatus, newStatus := item.realStatus } ::
        corrected)
    | .none => correctDrifts db items

/-- The corrections change nothing but the status of the rows they name. -/
theorem get?_correctDrifts (db : ReconcilerDb) (items : List Drift) (id : ℕ) :
    ∃ status : VmRecord → String,
      (correctDrifts db items).1.vms.get? id =
        (db.vms.get? id).map (fun vm => { vm with status := status vm }) ∧
      (id ∉ items.map (·.vmId) → ∀ vm, status vm = vm.status) := by
  induction items generalizing db with
  | nil => exact ⟨(·.status), by simp [correctDrifts], fun _ _ => rfl⟩
  | cons item items ih =>
    rw [correctDrifts]
    split
    case h_1 vm hvm =>
      obtain ⟨status, hget, hother⟩ := ih { db with
        vms := db.vms.modify item.vmId fun vm => { vm with status := item.realStatus } }
      simp only [hget, Serial.get?_modify]
      by_cases hid : id = item.vmId
      · refine ⟨fun vm => status { vm with status := item.realStatus }, ?_, ?_⟩
        · simp [hid, Function.comp_def]
        · exact fun h => absurd (by simp [hid]) h
      · refine ⟨status, by simp [hid], fun h => hother fun hmem => h ?_⟩
        exact List.mem_cons_of_mem _ hmem
    case h_2 =>
      obtain ⟨status, hget, hother⟩ := ih db
      exact ⟨status, hget, fun h => hother fun hmem => h (List.mem_cons_of_mem _ hmem)⟩

/-- `_reconcile_single_provider`; `none` is an exception that ends the run, before anything is
committed for the provider. -/
def reconcileSingleProvider (db : ReconcilerDb) (calls : ProviderCalls) (provider : String) :
    ReconcilerDb × Option Results :=
  match auditSingleProvider db calls provider with
  | .none => (db, .none)
  | some report =>
    if calls.lookupAgain then
      match purgeOrphans calls report.orphans with
      | .none => (db, .none)
      | some orphanPurged =>
        let (purged, ghostPurged) := purgeGhosts db report.ghosts
        let (corrected, driftCorrected) := correctDrifts purged report.drift
        (corrected, some { orphanPurged, ghostPurged, driftCorrected })
    else (db, some .none)

/-- `get_all_providers`: docker, and vsphere if it is available. -/
def getAllProviders (vsphere : Bool) : List String :=
  "docker" :: if vsphere then ["vsphere"] else []

/-- The loop over the providers. The rows committed for one provider stay when the next one
raises. -/
def reconcileProviders (backend : String → ProviderCalls) (db : ReconcilerDb) :
    List String → ReconcilerDb × Option (List (String × Results))
  | [] => (db, some [])
  | provider :: providers =>
    match reconcileSingleProvider db (backend provider) provider with
    | (db, .none) => (db, .none)
    | (db, some results) =>
      let (db, rest) := reconcileProviders backend db providers
      (db, rest.map ((provider, results) :: ·))

/-- The providers that a run goes over. -/
def providersOf (provider : Option String) (vsphere : Bool) : List String :=
  match truthyText provider with
  | some provider => [provider]
  | .none => getAllProviders vsphere

/-- `reconcile_all`. -/
def reconcileAll (backend : String → ProviderCalls) (db : ReconcilerDb)
    (provider : Option String) (vsphere : Bool) :
    ReconcilerDb × Option (List (String × Results)) :=
  reconcileProviders backend db (providersOf provider vsphere)

end ProxmoxIaas.Reconciler
