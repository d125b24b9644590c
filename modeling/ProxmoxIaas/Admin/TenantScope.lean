import ProxmoxIaas.Admin.AuditLogs
import ProxmoxIaas.Foundation.Latest
import ProxmoxIaas.Iam.TenantResolution
import ProxmoxIaas.Provisioning.System
import ProxmoxIaas.Reconciler.Repairs
import ProxmoxIaas.VirtualMachines.Model

/-!
# Tenant Scope of Admin Endpoints

The admin endpoints check that the caller is an admin of the tenant that the caller was registered
in, or a super admin. Which tenant the request is about plays no role in that check. The endpoints
that name a tenant or a VM take any id, and the other ones go over the rows of all tenants.

The limit on the rate of requests is left out.

## Main results

- `respects_iff`: a request of a user whose roles are all in one tenant respects the scope of that
  tenant exactly if it is refused or what it is about belongs to the tenant.
- `not_respects`: an admin of one tenant reads another tenant.
-/

namespace ProxmoxIaas.AdminScope

/-- The columns of `tenants` that provisioning does not use. -/
structure TenantDetails extends TenantAccount where
  /-- The first address that the DHCP server gives out. -/
  dhcpPoolStart : Option String
  /-- The last one. -/
  dhcpPoolEnd : Option String
  /-- When the row was inserted. -/
  createdAt : ℤ
  deriving DecidableEq, Repr

/-- The columns of `vms` that reconciliation does not use. -/
structure VmDetails where
  /-- The tenant. -/
  tenantId : ℕ
  /-- The user that owns the VM. -/
  ownerId : ℕ
  /-- Number of cores. -/
  cpu : Option ℤ
  /-- Memory in MiB. -/
  ram : Option ℤ
  /-- Disk size in MiB. -/
  diskSizeMb : Option ℤ
  /-- When the row was inserted. -/
  createdAt : ℤ
  deriving DecidableEq, Repr

/-- A dispatched message. -/
inductive Message where
  /-- `provision_tenant_task`. -/
  | provision (message : ProvisionMessage)
  /-- `destroy_tenant_task`. -/
  | destroy (tenantId : ℕ)
  deriving DecidableEq, Repr

/-- The tenant that a message is about. -/
def Message.tenantId : Message → ℕ
  | .provision message => message.tenantId
  | .destroy tenantId => tenantId

/-- The state that the admin endpoints read and write. -/
structure State where
  /-- The accounts, and the activity of the tenants. -/
  access : AccessDb
  /-- The provisioning tables. -/
  net : Db
  /-- The other columns of `tenants`, by the id of the row. -/
  tenantDetails : ℕ → TenantDetails
  /-- Tables `vms` and `ip_reservations`. -/
  records : Reconciler.ReconcilerDb
  /-- The other columns of `vms`, by the id of the row. -/
  vmDetails : ℕ → VmDetails
  /-- Column `tenant_id` of `ip_reservations`, by the id of the row. -/
  reservationTenant : ℕ → ℕ
  /-- Table `audit_logs`. -/
  auditLogs : Serial AuditLog
  /-- The dispatched messages. -/
  messages : List Message

/-- What is known of the client of a request. -/
structure Client where
  /-- The time of the request. -/
  now : ℤ
  /-- `X-Request-ID`. -/
  requestId : Option String
  /-- The address of the client. -/
  ipAddress : Option String
  deriving DecidableEq, Repr

/-! ### Replies -/

/-- `TenantResponse`. -/
structure TenantResponse where
  id : ℕ
  name : String
  slug : String
  isActive : Bool
  isVerified : Bool
  status : TenantStatus
  bridgeId : Option ℕ
  opnsenseVmId : Option ℤ
  opnsenseVmName : Option String
  lanIp : Option String
  wanIp : Option String
  opnsenseApiKey : Option String
  dhcpPoolStart : Option String
  dhcpPoolEnd : Option String
  createdAt : ℤ
  deriving DecidableEq, Repr

/-- `TenantApproveResponse`. -/
structure TenantApproveResponse where
  tenantId : ℕ
  status : String
  bridgeId : ℕ
  opnsenseVmId : ℤ
  opnsenseVmName : String
  bridgeName : String
  lanIp : String
  message : String
  deriving DecidableEq, Repr

/-- `VMResponse`. -/
structure VmResponse where
  id : ℕ
  name : String
  provider : String
  status : String
  ipAddress : Option String
  networkId : Option ℕ
  ownerId : ℕ
  cpu : Option ℤ
  ram : Option ℤ
  diskSizeMb : Option ℤ
  createdAt : ℤ
  deriving DecidableEq, Repr

/-- An entry of `get_recent_activity`, with the row that it is about. -/
inductive Activity where
  /-- An entry of the audit log. -/
  | audit (log : AuditLog)
  /-- A VM. -/
  | vm (id : ℕ) (vm : Reconciler.VmRecord) (details : VmDetails)
  /-- A tenant. -/
  | tenant (id : ℕ) (name : String) (isActive : Bool) (createdAt : ℤ)
  deriving DecidableEq

/-- When something happened. -/
def Activity.timestamp : Activity → ℤ
  | .audit log => log.timestamp
  | .vm _ _ details => details.createdAt
  | .tenant _ _ _ createdAt => createdAt

/-- The tenant of an entry. Some entries of the audit log belong to none. -/
def Activity.tenantId : Activity → Option ℕ
  | .audit log => log.tenantId
  | .vm _ _ details => some details.tenantId
  | .tenant id _ _ _ => some id

/-- What the VMs of a tenant use; sizes are in MiB. -/
structure Usage where
  tenantId : ℕ
  tenantName : String
  vmCount : ℕ
  cpuUsed : ℤ
  ramUsedMb : ℤ
  diskUsedMb : ℤ
  deriving DecidableEq, Repr

/-- What the hypervisor reports about its node. -/
structure NodeStatus where
  totalMemoryMb : ℕ
  freeMemoryMb : ℕ
  vmCount : ℕ
  deriving DecidableEq, Repr

/-- The reply of `get_system_resources`; the share of the CPU in use is left out, and sizes are in
MiB where the reply rounds them to GiB. -/
structure Resources where
  cpuCoresTotal : ℕ
  cpuCoresUsed : ℤ
  ramGbTotal : ℕ
  ramGbUsed : ℕ
  /-- The sum over the column of all VMs. -/
  diskUsedMb : ℤ
  vmCount : ℕ
  vmCountTotal : ℕ
  byTenant : List Usage
  deriving DecidableEq, Repr

/-- The content of a reply. -/
inductive Body where
  /-- `get_tenant`. -/
  | tenant (response : TenantResponse)
  /-- `approve_tenant`. -/
  | approved (response : TenantApproveResponse)
  /-- `delete_tenant`. -/
  | deprovisioning (tenantId : ℕ)
  /-- `override_vm_status`. -/
  | vm (response : VmResponse)
  /-- `reconcile`. -/
  | reconciled (results : List (String × Reconciler.Results))
  /-- `get_recent_activity`. -/
  | activities (activities : List Activity)
  /-- `get_system_resources`. -/
  | resources (resources : Resources)
  deriving DecidableEq

/-- What a request leaves. -/
structure Outcome where
  /-- The reply. -/
  reply : Except ApiError Body
  /-- The tenants of the rows that the reply tells about. -/
  about : List ℕ
  /-- The state. -/
  state : State

/-- An error that no row has led to. -/
def State.refuse (s : State) (e : ApiError) : Outcome := ⟨.error e, [], s⟩

/-! ### The endpoints -/

/-- `require_admin`. -/
def requireAdmin (db : IamDb) (userId : ℕ) (user : User) : Except ApiError Unit :=
  Except.require (.http 403 "Admin access required")
    (isSuperAdmin db userId = true ∨
      hasRole db userId user.tenantId (fun role => role.name = "tenant_admin") = true)

section Endpoints

variable (s : State) (client : Client) (userId : ℕ) (user : User)

/-- An entry of the audit log about an action of the user. -/
def auditEntry (action targetType : String) (targetId : Option ℤ) (targetName : Option String) :
    AuditLog where
  timestamp := client.now
  actorId := some userId
  actorUsername := user.username
  action
  targetType
  targetId
  targetName
  oldValue := none
  newValue := none
  details := none
  requestId := none
  ipAddress := none
  tenantId := none

/-- The text of an optional number. -/
def optionText {α : Type} [ToString α] : Option α → String
  | some n => toString n
  | none => "None"

/-- `get_tenant`. -/
def getTenant (tenantId : ℕ) : Outcome :=
  match s.net.tenants.get? tenantId with
  | none => s.refuse (.http 404 "Tenant not found")
  | some tenant =>
    let details := s.tenantDetails tenantId
    ⟨.ok (.tenant {
        id := tenantId
        name := details.name
        slug := details.slug
        isActive := s.access.tenantActive tenantId
        isVerified := tenant.isVerified
        status := tenant.status
        bridgeId := tenant.bridgeId
        opnsenseVmId := tenant.opnsenseVmId
        opnsenseVmName := tenant.opnsenseVmName
        lanIp := tenant.lanIp
        wanIp := tenant.wanIp
        opnsenseApiKey := tenant.opnsenseApiKey
        dhcpPoolStart := details.dhcpPoolStart
        dhcpPoolEnd := details.dhcpPoolEnd
        createdAt := details.createdAt }), [tenantId], s⟩

/-- The reply to an error of the service that approves a tenant. -/
def approveReply : ApiError → ApiError
  | .http status detail => .http status detail
  | .valueError text => .http 400 text

/-- `approve_tenant`. -/
def approveTenant (tenantId : ℕ) (dhcpPoolStart dhcpPoolEnd : Option String) (locks : Locks)
    (bridgeCreation dispatched : Except String Unit) : Outcome :=
  match s.net.tenants.get? tenantId with
  | none => s.refuse (.http 404 "Tenant not found")
  | some tenant =>
    match adminApproveCheck tenant with
    | .error e => ⟨.error e, [tenantId], s⟩
    | .ok _ =>
      match ProxmoxIaas.approveTenant s.net locks tenantId tenant bridgeCreation with
      | .error e => ⟨.error (approveReply e), [tenantId], s⟩
      | .ok (message, net) =>
        -- The approval is committed before the task is dispatched.
        let approved := { s with
          net
          tenantDetails := Function.update s.tenantDetails tenantId
            { s.tenantDetails tenantId with dhcpPoolStart, dhcpPoolEnd } }
        match dispatched with
        | .error text =>
          ⟨.error (.http 500 s!"Failed to approve tenant: {text}"), [tenantId], approved⟩
        | .ok _ =>
          let vmId := 10000 + ((message.bridgeId : ℤ) - 100)
          let entry := { auditEntry client userId user "tenant_approved" "tenant" (some tenantId)
              (some (s.tenantDetails tenantId).name) with
            newValue := some s!"bridge_id={message.bridgeId}, vm_id={vmId}"
            details := some "Tenant approved for provisioning" }
          ⟨.ok (.approved {
              tenantId
              status := "provisioning_started"
              bridgeId := message.bridgeId
              opnsenseVmId := vmId
              opnsenseVmName := s!"VM_OPNsense_{tenantId}"
              bridgeName := s!"vmbr{message.bridgeId}"
              lanIp := message.gatewayIp
              message := "Tenant provisioning started" }), [tenantId],
            { approved with
              auditLogs := s.auditLogs.add entry
              messages := s.messages ++ [.provision message] }⟩

/-- `delete_tenant`; the destruction is left to a task. -/
def deleteTenant (tenantId : ℕ) (dispatched : Except String Unit) : Outcome :=
  match s.net.tenants.get? tenantId with
  | none => s.refuse (.http 404 "Tenant not found")
  | some tenant =>
    match dispatched with
    | .error text => ⟨.error (.http 500 s!"Failed to delete tenant: {text}"), [tenantId], s⟩
    | .ok _ =>
      let entry := { auditEntry client userId user "tenant_deleted" "tenant" (some tenantId)
          (some (s.tenantDetails tenantId).name) with
        oldValue := some
          s!"bridge_id={optionText tenant.bridgeId}, vm_id={optionText tenant.opnsenseVmId}"
        details := some "Tenant deleted and resources destroyed" }
      ⟨.ok (.deprovisioning tenantId), [tenantId],
        { s with
          auditLogs := s.auditLogs.add entry
          messages := s.messages ++ [.destroy tenantId] }⟩

/-- `VALID_STATUS_TRANSITIONS`, for the texts of statuses. -/
def allowedTransitions : String → List String
  | "pending" => ["creating", "provisioning", "running", "error"]
  | "creating" => ["pending", "provisioning", "error"]
  | "provisioning" => ["running", "error"]
  | "running" => ["stopped", "error"]
  | "stopped" => ["running", "error"]
  | "error" => ["pending", "stopped"]
  | _ => []

/-- The text of a list of texts without quotes. -/
def listText (texts : List String) : String :=
  "[" ++ ", ".intercalate (texts.map fun text => "'" ++ text ++ "'") ++ "]"

/-- The status of a VM is written. -/
def State.setStatus (vmId : ℕ) (status : String) : State :=
  { s with records := { s.records with
      vms := s.records.vms.modify vmId fun vm => { vm with status } } }

/-- `override_vm_status`, for a request whose tenant is resolved. -/
def overrideVmStatus (currentTenant vmId : ℕ) (status : VmStatus) (reason : String) (force : Bool) :
    Outcome :=
  match s.records.vms.get? vmId with
  | none => s.refuse (.http 404 "VM not found")
  | some vm =>
    let details := s.vmDetails vmId
    if force = false ∧ status.text ∉ allowedTransitions vm.status then
      ⟨.error (.http 400 (s!"Invalid status transition from '{vm.status}' to '{status.text}'. " ++
        s!"Allowed transitions from '{vm.status}': {listText (allowedTransitions vm.status)}. " ++
        "Use force=true to override.")), [details.tenantId], s⟩
    else
      let forceText := if force then "True" else "False"
      let entry := { auditEntry client userId user "vm_status_override" "vm" (some vmId)
          (some vm.name) with
        oldValue := some vm.status
        newValue := some status.text
        details := some s!"Reason: {reason}, Force: {forceText}"
        requestId := some (client.requestId.getD "unknown")
        ipAddress := client.ipAddress
        tenantId := some currentTenant }
      ⟨.ok (.vm {
          id := vmId
          name := vm.name
          provider := vm.provider
          status := status.text
          ipAddress := vm.ipAddress
          networkId := vm.networkId
          ownerId := details.ownerId
          cpu := details.cpu
          ram := details.ram
          diskSizeMb := details.diskSizeMb
          createdAt := details.createdAt }), [details.tenantId],
        { s.setStatus vmId status.text with auditLogs := s.auditLogs.add entry }⟩

/-- `fix_vm`. The row is committed as pending before `fix_ghost_vm` reads the column `disk_size`,
which the table does not have; that raises. -/
def fixVm (vmId : ℕ) : Outcome :=
  match s.records.vms.get? vmId with
  | none => s.refuse (.http 404 "VM not found")
  | some _ =>
    ⟨.error (.http 500 "Internal Server Error"), [(s.vmDetails vmId).tenantId],
      s.setStatus vmId "pending"⟩

/-- The ids of the VMs that a reconciliation repairs. -/
def repairedVms (before after : Reconciler.ReconcilerDb) : List ℕ :=
  before.vms.rows.keys.filter fun id => after.vms.get? id ≠ before.vms.get? id

/-- `reconcile`. The reply names the VMs that were repaired; a run that raises says nothing. -/
def reconcile (backend : String → Reconciler.ProviderCalls) (vsphere : Bool) : Outcome :=
  match Reconciler.reconcileAll backend s.records none vsphere with
  | (records, none) => ⟨.error (.http 500 "Internal Server Error"), [], { s with records }⟩
  | (records, some results) =>
    let count (f : Reconciler.Results → ℕ) : ℕ := (results.map fun result => f result.2).sum
    let entry := { auditEntry client userId user "reconcile" "infrastructure" none none with
      details := some (s!"orphan_purged={count fun result => result.orphanPurged.length}, " ++
        s!"ghost_purged={count fun result => result.ghostPurged.length}, " ++
        s!"drift_corrected={count fun result => result.driftCorrected.length}")
      requestId := some (client.requestId.getD "unknown")
      ipAddress := client.ipAddress }
    ⟨.ok (.reconciled results),
      (repairedVms s.records records).map fun id => (s.vmDetails id).tenantId,
      { s with records, auditLogs := s.auditLogs.add entry }⟩

/-- The entries about the audit log. -/
def auditActivities : List Activity := s.auditLogs.rows.entries.map fun r => .audit r.2

/-- The entries about VMs. -/
def vmActivities : List Activity :=
  s.records.vms.rows.entries.map fun r => .vm r.1 r.2 (s.vmDetails r.1)

/-- The entries about tenants. -/
def tenantActivities : List Activity :=
  s.net.tenants.rows.entries.map fun r => .tenant r.1 (s.tenantDetails r.1).name
    (s.access.tenantActive r.1) (s.tenantDetails r.1).createdAt

/-- The latest of the latest entries about the audit log, VMs and tenants. -/
def recentActivity (limit : ℕ) : List Activity :=
  ((auditActivities s).latest Activity.timestamp limit ++
    (vmActivities s).latest Activity.timestamp limit ++
      (tenantActivities s).latest Activity.timestamp limit).latest Activity.timestamp limit

/-- `get_recent_activity`. -/
def getRecentActivity (limit : ℕ) : Outcome :=
  ⟨.ok (.activities (recentActivity s limit)),
    (recentActivity s limit).filterMap Activity.tenantId, s⟩

/-- The VMs of a tenant. -/
def vmsOfTenant (tenantId : ℕ) : List VmDetails :=
  (s.records.vms.rows.keys.map s.vmDetails).filter fun vm => vm.tenantId = tenantId

/-- What the VMs of a tenant use. -/
def usageOf (tenantId : ℕ) : Usage where
  tenantId
  tenantName := (s.tenantDetails tenantId).name
  vmCount := (vmsOfTenant s tenantId).length
  cpuUsed := ((vmsOfTenant s tenantId).map fun vm => vm.cpu.getD 0).sum
  ramUsedMb := ((vmsOfTenant s tenantId).map fun vm => vm.ram.getD 0).sum
  diskUsedMb := ((vmsOfTenant s tenantId).map fun vm => vm.diskSizeMb.getD 0).sum

/-- `get_system_resources`. -/
def getSystemResources (node : Except String NodeStatus) : Outcome :=
  match node with
  | .error text => s.refuse (.http 500 s!"Failed to get node status: {text}")
  | .ok node =>
    let byTenant := s.net.tenants.rows.keys.map (usageOf s)
    let vms := s.records.vms.rows.keys.map s.vmDetails
    ⟨.ok (.resources {
        cpuCoresTotal := if node.totalMemoryMb ≠ 0 then max (node.totalMemoryMb / 1024 / 4) 8 else 2
        cpuCoresUsed := (byTenant.map (·.cpuUsed)).sum
        ramGbTotal := if node.totalMemoryMb ≠ 0 then max (node.totalMemoryMb / 1024) 4 else 0
        ramGbUsed := (node.totalMemoryMb - node.freeMemoryMb) / 1024
        diskUsedMb := (vms.map fun vm => vm.diskSizeMb.getD 0).sum
        vmCount := node.vmCount
        vmCountTotal := (byTenant.map (·.vmCount)).sum
        byTenant }),
      s.net.tenants.rows.keys ++ vms.map (·.tenantId), s⟩

end Endpoints

/-- A request to an admin endpoint, with what the systems that it calls answer. -/
inductive Request where
  /-- `get_tenant`. -/
  | getTenant (tenantId : ℕ)
  /-- `approve_tenant`. -/
  | approveTenant (tenantId : ℕ) (dhcpPoolStart dhcpPoolEnd : Option String) (locks : Locks)
      (bridgeCreation dispatched : Except String Unit)
  /-- `delete_tenant`. -/
  | deleteTenant (tenantId : ℕ) (dispatched : Except String Unit)
  /-- `override_vm_status`. -/
  | overrideVmStatus (headers : TenantHeaders) (vmId : ℕ) (status : VmStatus) (reason : String)
      (force : Bool)
  /-- `fix_vm`. -/
  | fixVm (vmId : ℕ)
  /-- `reconcile`. -/
  | reconcile (backend : String → Reconciler.ProviderCalls) (vsphere : Bool)
  /-- `get_recent_activity`. -/
  | getRecentActivity (limit : ℕ)
  /-- `get_system_resources`. -/
  | getSystemResources (node : Except String NodeStatus)

/-- The work of a request whose caller is an admin. -/
def perform (s : State) (client : Client) (userId : ℕ) (user : User) : Request → Outcome
  | .getTenant tenantId => getTenant s tenantId
  | .approveTenant tenantId dhcpPoolStart dhcpPoolEnd locks bridgeCreation dispatched =>
    approveTenant s client userId user tenantId dhcpPoolStart dhcpPoolEnd locks bridgeCreation
      dispatched
  | .deleteTenant tenantId dispatched => deleteTenant s client userId user tenantId dispatched
  | .overrideVmStatus headers vmId status reason force =>
    match getCurrentTenant s.access userId headers with
    | .error e => s.refuse e
    | .ok currentTenant => overrideVmStatus s client userId user currentTenant vmId status reason force
  | .fixVm vmId => fixVm s vmId
  | .reconcile backend vsphere => reconcile s client userId user backend vsphere
  | .getRecentActivity limit => getRecentActivity s limit
  | .getSystemResources node => getSystemResources s node

/-- A request to an admin endpoint. -/
def handle (s : State) (client : Client) (userId : ℕ) (request : Request) : Outcome :=
  match currentUser s.access.iam userId with
  | .error e => s.refuse e
  | .ok user =>
    match requireAdmin s.access.iam userId user with
    | .error e => s.refuse e
    | .ok _ => perform s client userId user request

/-! ### Scope -/

/-- A row of a table is changed, inserted or deleted, and belongs to a tenant. -/
def RowChanges {α : Type} (before after : ℕ → Option α) (owner : ℕ → α → Option ℕ) (x : ℕ) : Prop :=
  ∃ id, after id ≠ before id ∧
    ∃ row, (before id = some row ∨ after id = some row) ∧ owner id row = some x

/-- The tenant of a bridge. One that is available belongs to none. -/
def bridgeOwner (_ : ℕ) (bridge : BridgePool) : Option ℕ :=
  if bridge.status = .inUse then bridge.tenantId else none

/-- A request changes a row that belongs to a tenant, or dispatches a task about the tenant. -/
inductive Changes (s s' : State) (x : ℕ) : Prop where
  | tenant (h : RowChanges s.net.tenants.get? s'.net.tenants.get? (fun id _ => some id) x)
  | details (h : s'.tenantDetails x ≠ s.tenantDetails x)
  | bridge (h : RowChanges s.net.bridgePool.get? s'.net.bridgePool.get? bridgeOwner x)
  | network (h : RowChanges s.net.tenantNetworks.get? s'.net.tenantNetworks.get?
      (fun _ network => some network.tenantId) x)
  | vm (h : RowChanges s.records.vms.get? s'.records.vms.get?
      (fun id _ => some (s.vmDetails id).tenantId) x)
  | reservation (h : RowChanges s.records.ipReservations.get? s'.records.ipReservations.get?
      (fun id _ => some (s.reservationTenant id)) x)
  | audit (h : RowChanges s.auditLogs.get? s'.auditLogs.get? (fun _ log => log.tenantId) x)
  | message (messages : List Message) (h : s'.messages = s.messages ++ messages)
      (hmem : x ∈ messages.map Message.tenantId)

/-- A reply tells about no other tenant, and no row of another tenant is changed. -/
def Respects (s : State) (tenantId : ℕ) (outcome : Outcome) : Prop :=
  (∀ x ∈ outcome.about, x = tenantId) ∧ ∀ x, Changes s outcome.state x → x = tenantId

/-- The roles of a user are all in one tenant. -/
def OnlyIn (db : IamDb) (userId tenantId : ℕ) : Prop :=
  ∀ id userRole, db.userRoles.get? id = some userRole → userRole.userId = userId →
    userRole.tenantId = some tenantId

/-- The caller is an admin of the tenant that the caller was registered in, or a super admin. -/
def isAdmin (s : State) (userId : ℕ) : Bool :=
  (s.access.iam.users.get? userId).any fun user => user.isActive &&
    (isSuperAdmin s.access.iam userId ||
      hasRole s.access.iam userId user.tenantId fun role => role.name = "tenant_admin")

/-- The repairs of a provider are reached: no exception ends the run before. -/
def repairs (s : State) (backend : String → Reconciler.ProviderCalls) (vsphere : Bool)
    (provider : String) : Bool :=
  provider ∈ Reconciler.completed backend s.records (Reconciler.getAllProviders vsphere) &&
    (backend provider).lookupAgain

/-- The VMs that a reconciliation repairs belong to a tenant, as do the addresses of those that it
deletes. -/
def Repairable (s : State) (tenantId : ℕ) (backend : String → Reconciler.ProviderCalls)
    (vsphere : Bool) : Prop :=
  ∀ id vm, s.records.vms.get? id = some vm →
    repairs s backend vsphere vm.provider = true →
    Reconciler.needsRepair (backend vm.provider) vm = true →
      (s.vmDetails id).tenantId = tenantId ∧ ((backend vm.provider).knows vm.name = false →
        ∀ k reservation, s.records.ipReservations.get? k = some reservation →
          reservation.vmId = some id → s.reservationTenant k = tenantId)

/-- What a request is about belongs to a tenant. -/
def InScope (s : State) (userId tenantId : ℕ) : Request → Prop
  | .getTenant id | .approveTenant id .. | .deleteTenant id _ =>
    (s.net.tenants.get? id).isSome = true → id = tenantId
  | .overrideVmStatus headers vmId .. => (∃ e, getCurrentTenant s.access userId headers = .error e) ∨
    ((s.records.vms.get? vmId).isSome = true → (s.vmDetails vmId).tenantId = tenantId)
  | .fixVm vmId =>
    (s.records.vms.get? vmId).isSome = true → (s.vmDetails vmId).tenantId = tenantId
  | .reconcile backend vsphere => Repairable s tenantId backend vsphere
  | .getRecentActivity limit => ∀ pre activity post,
    auditActivities s ++ vmActivities s ++ tenantActivities s = pre ++ activity :: post →
      (∃ x ∈ activity.tenantId, x ≠ tenantId) →
        limit ≤ List.ahead Activity.timestamp pre activity post
  | .getSystemResources node => (∃ text, node = .error text) ∨
    (∀ id, (s.net.tenants.get? id).isSome = true → id = tenantId) ∧
      ∀ id, (s.records.vms.get? id).isSome = true → (s.vmDetails id).tenantId = tenantId

variable {s s' : State} {tenantId : ℕ}

/-- A table that is as before has no changed rows. -/
theorem not_rowChanges_self {α : Type} {rows : ℕ → Option α} {owner : ℕ → α → Option ℕ} {x : ℕ} :
    ¬ RowChanges rows rows owner x := fun ⟨_, hne, _⟩ => hne rfl

/-- A row is rewritten. -/
theorem owner_of_rowChanges_modify {α : Type} {rows after : ℕ → Option α} {k : ℕ} {f : α → α}
    {owner : ℕ → α → Option ℕ} {x : ℕ} (h : RowChanges rows after owner x)
    (hafter : ∀ id, after id = if id = k then (rows id).map f else rows id) :
    ∃ row, rows k = some row ∧ (owner k row = some x ∨ owner k (f row) = some x) := by
  obtain ⟨id, hne, row, hrow, howner⟩ := h
  rw [hafter] at hne hrow
  by_cases hid : id = k
  · subst hid
    rw [if_pos rfl] at hne hrow
    cases hget : rows id with
    | none =>
      rw [hget] at hne
      exact absurd rfl hne
    | some old =>
      rw [hget] at hrow
      rcases hrow with hrow | hrow
      · obtain rfl := Option.some.inj hrow
        exact ⟨old, rfl, Or.inl howner⟩
      · obtain rfl := Option.some.inj hrow
        exact ⟨old, rfl, Or.inr howner⟩
  · rw [if_neg hid] at hne
    exact absurd rfl hne

/-- A row is inserted. -/
theorem owner_of_rowChanges_add {α : Type} {t : Serial α} {a : α} {owner : ℕ → α → Option ℕ} {x : ℕ}
    (h : RowChanges t.get? (t.add a).get? owner x) : owner t.next a = some x := by
  obtain ⟨id, hne, row, hrow, howner⟩ := h
  rw [Serial.get?_add] at hne hrow
  by_cases hid : id = t.next
  · subst hid
    rw [Serial.get?_next, if_pos rfl] at hrow
    rcases hrow with hrow | hrow
    · cases hrow
    · obtain rfl := Option.some.inj hrow
      exact howner
  · rw [if_neg hid] at hne
    exact absurd rfl hne

/-- Without a change no tenant is changed. -/
theorem not_changes_self {x : ℕ} : ¬ Changes s s x := by
  rintro (h | h | h | h | h | h | h | ⟨messages, h, hmem⟩)
  · exact not_rowChanges_self h
  · exact h rfl
  · exact not_rowChanges_self h
  · exact not_rowChanges_self h
  · exact not_rowChanges_self h
  · exact not_rowChanges_self h
  · exact not_rowChanges_self h
  · rw [List.self_eq_append_right.mp h] at hmem
    cases hmem

/-- A reply that leaves the state respects a tenant if it is about no other one. -/
theorem respects_unchanged {reply : Except ApiError Body} {about : List ℕ} :
    Respects s tenantId ⟨reply, about, s⟩ ↔ ∀ x ∈ about, x = tenantId :=
  and_iff_left fun _ h => absurd h not_changes_self

/-- A refusal respects every tenant. -/
theorem respects_refuse (s : State) (tenantId : ℕ) (e : ApiError) :
    Respects s tenantId (s.refuse e) := respects_unchanged.mpr (by simp)

/-! ### The endpoints one by one -/

variable {client : Client} {userId id : ℕ} {user : User}

/-- A tenant may be read in its own scope. -/
theorem respects_getTenant_iff : Respects s tenantId (getTenant s id) ↔
    ((s.net.tenants.get? id).isSome = true → id = tenantId) := by
  rw [getTenant]
  cases s.net.tenants.get? id with
  | none => simp [respects_refuse]
  | some tenant => simp [respects_unchanged]

/-- A committed approval changes what belongs to the tenant: its row, the bridge that it takes, and
the network that it gets. -/
theorem eq_of_changes_approveTenant {tenant : Tenant} {locks : Locks}
    {bridgeCreation : Except String Unit} {message : ProvisionMessage} {net : Db}
    (h : ProxmoxIaas.approveTenant s.net locks id tenant bridgeCreation = .ok (message, net))
    {details : TenantDetails} {auditLogs : Serial AuditLog} {messages : List Message}
    (haudit : ∀ x, ¬ RowChanges s.auditLogs.get? auditLogs.get? (fun _ log => log.tenantId) x)
    (hmessages : ∀ new, messages = s.messages ++ new → ∀ message ∈ new, message.tenantId = id)
    {x : ℕ} (hx : Changes s
      { s with
        net
        tenantDetails := Function.update s.tenantDetails id details
        auditLogs
        messages } x) : x = id := by
  obtain ⟨podId, bridgeId, bridge, subnetId, subnet, -, -, hbridge, havailable, -, -, -, -, rfl⟩ :=
    approveTenant_eq_ok h
  rcases hx with hx | hx | hx | hx | hx | hx | hx | ⟨new, hnew, hmem⟩
  · obtain ⟨row, -, howner⟩ :=
      owner_of_rowChanges_modify hx fun k => Serial.get?_modify s.net.tenants id k _
    simpa [eq_comm] using howner
  · by_contra hne
    exact hx (Function.update_of_ne hne _ _)
  · -- The bridge belonged to no tenant.
    obtain ⟨row, hrow, howner⟩ :=
      owner_of_rowChanges_modify hx fun k => Table.get?_modify s.net.bridgePool bridgeId k _
    obtain rfl := Option.some.inj (hbridge.symm.trans hrow)
    simpa [bridgeOwner, havailable, eq_comm] using howner
  · have howner := owner_of_rowChanges_add hx
    simpa [approvedNetwork, eq_comm] using howner
  · exact absurd hx not_rowChanges_self
  · exact absurd hx not_rowChanges_self
  · exact absurd hx (haudit x)
  · obtain ⟨message, hin, rfl⟩ := List.mem_map.mp hmem
    exact hmessages new hnew message hin

/-- An entry of the audit log without a tenant belongs to none. -/
theorem not_rowChanges_add_audit {log : AuditLog} (h : log.tenantId = none) (x : ℕ) :
    ¬ RowChanges s.auditLogs.get? (s.auditLogs.add log).get? (fun _ log => log.tenantId) x := by
  intro hx
  have howner := owner_of_rowChanges_add hx
  rw [h] at howner
  cases howner

/-- A tenant may be approved in its own scope. -/
theorem respects_approveTenant_iff {dhcpPoolStart dhcpPoolEnd : Option String} {locks : Locks}
    {bridgeCreation dispatched : Except String Unit} :
    Respects s tenantId (approveTenant s client userId user id dhcpPoolStart dhcpPoolEnd locks
      bridgeCreation dispatched) ↔ ((s.net.tenants.get? id).isSome = true → id = tenantId) := by
  rw [approveTenant]
  cases s.net.tenants.get? id with
  | none => simp [respects_refuse]
  | some tenant =>
    dsimp only
    rw [Option.isSome_some, imp_iff_right rfl]
    split
    case h_1 => simp [respects_unchanged]
    case h_2 =>
      split
      case h_1 => simp [respects_unchanged]
      case h_2 message net happroved =>
        split
        case h_1 =>
          refine ⟨fun h => h.1 id List.mem_cons_self, ?_⟩
          rintro rfl
          refine ⟨by simp, fun x hx => eq_of_changes_approveTenant happroved
            (fun _ => not_rowChanges_self) (fun new hnew message hmem => ?_) hx⟩
          rw [List.self_eq_append_right.mp hnew] at hmem
          cases hmem
        case h_2 =>
          refine ⟨fun h => h.1 id List.mem_cons_self, ?_⟩
          rintro rfl
          refine ⟨by simp, fun x hx => eq_of_changes_approveTenant happroved
            (not_rowChanges_add_audit rfl) (fun new hnew provision hmem => ?_) hx⟩
          rw [← List.append_cancel_left hnew] at hmem
          obtain rfl := List.mem_singleton.mp hmem
          obtain ⟨_, _, _, _, _, -, -, -, -, -, -, -, rfl, -⟩ := approveTenant_eq_ok happroved
          rfl

/-- A tenant may be deleted in its own scope. -/
theorem respects_deleteTenant_iff {dispatched : Except String Unit} :
    Respects s tenantId (deleteTenant s client userId user id dispatched) ↔
      ((s.net.tenants.get? id).isSome = true → id = tenantId) := by
  rw [deleteTenant]
  cases s.net.tenants.get? id with
  | none => simp [respects_refuse]
  | some tenant =>
    dsimp only
    rw [Option.isSome_some, imp_iff_right rfl]
    split
    case h_1 => simp [respects_unchanged]
    case h_2 =>
      refine ⟨fun h => h.1 id List.mem_cons_self, ?_⟩
      rintro rfl
      refine ⟨by simp, fun x hx => ?_⟩
      rcases hx with hx | hx | hx | hx | hx | hx | hx | ⟨new, hnew, hmem⟩
      · exact absurd hx not_rowChanges_self
      · exact absurd rfl hx
      · exact absurd hx not_rowChanges_self
      · exact absurd hx not_rowChanges_self
      · exact absurd hx not_rowChanges_self
      · exact absurd hx not_rowChanges_self
      · exact absurd hx (not_rowChanges_add_audit rfl x)
      · rw [← List.append_cancel_left hnew] at hmem
        exact List.mem_singleton.mp hmem

/-- The status of a VM is written, with an entry of the audit log. -/
theorem eq_of_changes_setStatus {vmId : ℕ} {status : String} {auditLogs : Serial AuditLog} {x : ℕ}
    (hx : Changes s { s.setStatus vmId status with auditLogs } x) :
    x = (s.vmDetails vmId).tenantId ∨
      RowChanges s.auditLogs.get? auditLogs.get? (fun _ log => log.tenantId) x := by
  rcases hx with hx | hx | hx | hx | hx | hx | hx | ⟨new, hnew, hmem⟩
  · exact absurd hx not_rowChanges_self
  · exact absurd rfl hx
  · exact absurd hx not_rowChanges_self
  · exact absurd hx not_rowChanges_self
  · left
    obtain ⟨row, -, howner⟩ :=
      owner_of_rowChanges_modify hx fun k => Serial.get?_modify s.records.vms vmId k _
    simpa [eq_comm] using howner
  · exact absurd hx not_rowChanges_self
  · exact Or.inr hx
  · rw [List.self_eq_append_right.mp hnew] at hmem
    cases hmem

/-- The status of a VM may be written in the scope of its tenant. -/
theorem respects_overrideVmStatus_iff {vmId : ℕ} {status : VmStatus} {reason : String}
    {force : Bool} :
    Respects s tenantId (overrideVmStatus s client userId user tenantId vmId status reason force) ↔
      ((s.records.vms.get? vmId).isSome = true → (s.vmDetails vmId).tenantId = tenantId) := by
  rw [overrideVmStatus]
  cases s.records.vms.get? vmId with
  | none => simp [respects_refuse]
  | some vm =>
    dsimp only
    rw [Option.isSome_some, imp_iff_right rfl]
    split
    case isTrue => simp [respects_unchanged]
    case isFalse =>
      refine ⟨fun h => h.1 _ List.mem_cons_self, fun howner => ⟨by simpa using howner, ?_⟩⟩
      intro x hx
      rcases eq_of_changes_setStatus hx with rfl | haudit
      · exact howner
      · exact (Option.some.inj (owner_of_rowChanges_add haudit)).symm

/-- A VM may be fixed in the scope of its tenant. -/
theorem respects_fixVm_iff {vmId : ℕ} : Respects s tenantId (fixVm s vmId) ↔
    ((s.records.vms.get? vmId).isSome = true → (s.vmDetails vmId).tenantId = tenantId) := by
  rw [fixVm]
  cases s.records.vms.get? vmId with
  | none => simp [respects_refuse]
  | some vm =>
    rw [Option.isSome_some, imp_iff_right rfl]
    refine ⟨fun h => h.1 _ List.mem_cons_self, fun howner => ⟨by simpa using howner, ?_⟩⟩
    intro x hx
    rcases eq_of_changes_setStatus hx with rfl | haudit
    · exact howner
    · exact absurd haudit not_rowChanges_self

/-- The listed activity is that of a tenant if the entries about other ones have enough entries ahead
of them. -/
theorem respects_getRecentActivity_iff {limit : ℕ} :
    Respects s tenantId (getRecentActivity s limit) ↔ ∀ pre activity post,
      auditActivities s ++ vmActivities s ++ tenantActivities s = pre ++ activity :: post →
        (∃ x ∈ activity.tenantId, x ≠ tenantId) →
          limit ≤ List.ahead Activity.timestamp pre activity post := by
  rw [getRecentActivity, respects_unchanged]
  simp only [List.mem_filterMap, recentActivity, List.mem_latest_latest_append_iff]
  simp only [List.mem_latest_iff]
  constructor
  · rintro h pre activity post heq ⟨x, hx, hne⟩
    by_contra hahead
    exact hne (h x ⟨activity, ⟨pre, post, heq, Nat.lt_of_not_le hahead⟩, hx⟩)
  · rintro h x ⟨activity, ⟨pre, post, heq, hahead⟩, hx⟩
    by_contra hne
    exact Nat.not_le_of_lt hahead (h pre activity post heq ⟨x, hx, hne⟩)

/-- The resources are those of all tenants and VMs. -/
theorem respects_getSystemResources_iff {node : Except String NodeStatus} :
    Respects s tenantId (getSystemResources s node) ↔ (∃ text, node = .error text) ∨
      (∀ id, (s.net.tenants.get? id).isSome = true → id = tenantId) ∧
        ∀ id, (s.records.vms.get? id).isSome = true → (s.vmDetails id).tenantId = tenantId := by
  have htenants : ∀ id, id ∈ s.net.tenants.rows.keys ↔ (s.net.tenants.get? id).isSome = true :=
    fun id => AList.lookup_isSome.symm
  have hvms : ∀ id, id ∈ s.records.vms.rows.keys ↔ (s.records.vms.get? id).isSome = true :=
    fun id => AList.lookup_isSome.symm
  cases node with
  | error text => simp [getSystemResources, respects_refuse]
  | ok node =>
    rw [getSystemResources, respects_unchanged]
    simp only [List.mem_append, List.mem_map, htenants, hvms, reduceCtorEq, exists_false,
      false_or, or_imp, forall_and, forall_exists_index, and_imp]
    simp

section Reconcile

variable {backend : String → Reconciler.ProviderCalls} {vsphere : Bool}
  {vm : Reconciler.VmRecord}

/-- The rows that a reconciliation changes. -/
theorem get?_reconcileAll_iff (hget : s.records.vms.get? id = some vm) :
    (Reconciler.reconcileAll backend s.records none vsphere).1.vms.get? id ≠ some vm ↔
      repairs s backend vsphere vm.provider = true ∧
        Reconciler.needsRepair (backend vm.provider) vm = true := by
  rw [Reconciler.reconcileAll, Reconciler.reconcileProviders_repairs_iff
    (Reconciler.nodup_providersOf none vsphere) hget, repairs, Bool.and_eq_true,
    decide_eq_true_eq, and_assoc]
  rfl

/-- The reservations that a reconciliation releases. -/
theorem get?_reservation_reconcileAll_iff {k : ℕ} {reservation : Reconciler.IPReservation}
    (hget : s.records.ipReservations.get? k = some reservation) :
    (Reconciler.reconcileAll backend s.records none vsphere).1.ipReservations.get? k ≠
      some reservation ↔
    ∃ id vm, reservation.vmId = some id ∧ s.records.vms.get? id = some vm ∧
      repairs s backend vsphere vm.provider = true ∧
        (backend vm.provider).knows vm.name = false := by
  rw [Reconciler.reconcileAll, Reconciler.reconcileProviders_releases_iff
    (Reconciler.nodup_providersOf none vsphere) hget]
  refine exists₂_congr fun id vm => and_congr_right fun _ => and_congr_right fun _ => ?_
  rw [repairs, Bool.and_eq_true, decide_eq_true_eq, and_assoc]
  rfl

/-- A reconciliation changes what belongs to a tenant if the VMs that it repairs, and the addresses
that it releases, do. -/
theorem eq_of_changes_reconcile_iff (s : State) (tenantId : ℕ)
    (backend : String → Reconciler.ProviderCalls) (vsphere : Bool) {auditLogs : Serial AuditLog}
    (haudit : ∀ x, ¬ RowChanges s.auditLogs.get? auditLogs.get? (fun _ log => log.tenantId) x) :
    (∀ x, Changes s
      { s with
        records := (Reconciler.reconcileAll backend s.records none vsphere).1
        auditLogs } x → x = tenantId) ↔ Repairable s tenantId backend vsphere := by
  have hfrees := Reconciler.frees_reconcileProviders backend s.records
    (Reconciler.providersOf none vsphere)
  constructor
  · intro h id vm hget hrepairs hneeds
    -- the repaired row is one of the changes
    have hchanged := (get?_reconcileAll_iff hget).mpr ⟨hrepairs, hneeds⟩
    refine ⟨h _ (.vm ⟨id, ?_, vm, Or.inl hget, rfl⟩), fun hknows k reservation hreserved hid => ?_⟩
    · rw [hget]
      exact hchanged
    · refine h _ (.reservation ⟨k, ?_, reservation, Or.inl hreserved, rfl⟩)
      rw [hreserved]
      exact (get?_reservation_reconcileAll_iff hreserved).mpr ⟨id, vm, hid, hget, hrepairs, hknows⟩
  · intro h x hx
    rcases hx with hx | hx | hx | hx | hx | hx | hx | ⟨new, hnew, hmem⟩
    · exact absurd hx not_rowChanges_self
    · exact absurd rfl hx
    · exact absurd hx not_rowChanges_self
    · exact absurd hx not_rowChanges_self
    · obtain ⟨id, hne, row, -, howner⟩ := hx
      cases hget : s.records.vms.get? id with
      | none => exact absurd ((hfrees.vms id hget).trans hget.symm) hne
      | some vm =>
        obtain ⟨hrepairs, hneeds⟩ := (get?_reconcileAll_iff hget).mp (hget ▸ hne)
        exact (Option.some.inj howner).symm.trans (h id vm hget hrepairs hneeds).1
    · -- a reservation changes with the row that it belongs to
      obtain ⟨k, hne, row, -, howner⟩ := hx
      cases hget : s.records.ipReservations.get? k with
      | none =>
        refine absurd ?_ hne
        rw [hget]
        exact (hfrees.reservations k).trans (by rw [hget, Option.map_none])
      | some reservation =>
        obtain ⟨id, vm, hid, hvm, hrepairs, hknows⟩ :=
          (get?_reservation_reconcileAll_iff hget).mp (hget ▸ hne)
        have hneeds : Reconciler.needsRepair (backend vm.provider) vm = true := by
          rw [Reconciler.needsRepair, hknows, Bool.not_false, Bool.true_or]
        exact (Option.some.inj howner).symm.trans
          ((h id vm hvm hrepairs hneeds).2 hknows k reservation hget hid)
    · exact absurd hx (haudit x)
    · rw [List.self_eq_append_right.mp hnew] at hmem
      cases hmem

/-- A reconciliation respects a tenant if all that it repairs is of the tenant. -/
theorem respects_reconcile_iff : Respects s tenantId (reconcile s client userId user backend vsphere) ↔
    Repairable s tenantId backend vsphere := by
  have hchanges := fun auditLogs =>
    @eq_of_changes_reconcile_iff s tenantId backend vsphere auditLogs
  rw [reconcile]
  cases hrun : Reconciler.reconcileAll backend s.records none vsphere with
  | mk records results =>
    rw [hrun] at hchanges
    cases results with
    | none =>
      rw [← hchanges s.auditLogs fun _ => not_rowChanges_self]
      exact and_iff_right (by simp)
    | some results =>
      refine (and_iff_right_of_imp fun h x hx => ?_).trans (hchanges _ ?_)
      · obtain ⟨id, hmem, rfl⟩ := List.mem_map.mp hx
        obtain ⟨hkey, hne⟩ := List.mem_filter.mp hmem
        obtain ⟨vm, hget⟩ := Option.isSome_iff_exists.mp (AList.lookup_isSome.mpr hkey)
        exact h _ (.vm ⟨id, of_decide_eq_true hne, vm, Or.inl hget, rfl⟩)
      · exact not_rowChanges_add_audit rfl

end Reconcile

/-! ### All endpoints -/

/-- A request is refused, or its user is an admin. -/
theorem handle_cases (s : State) (client : Client) (userId : ℕ) (request : Request) :
    (isAdmin s userId = false ∧ ∃ e, handle s client userId request = s.refuse e) ∨
      ∃ user, s.access.iam.users.get? userId = some user ∧ isAdmin s userId = true ∧
        handle s client userId request = perform s client userId user request := by
  rw [handle, currentUser, isAdmin]
  cases huser : s.access.iam.users.get? userId with
  | none => exact Or.inl ⟨rfl, _, rfl⟩
  | some user =>
    cases hactive : user.isActive with
    | false =>
      refine Or.inl ⟨by simp [hactive], .http 403 "User account is deactivated", ?_⟩
      simp [Except.ofOption, Except.require, hactive, bind, Except.bind]
    | true =>
      have hcurrent : (do
          let user ← Except.ofOption (.http 404 "User not found") (some user)
          Except.require (.http 403 "User account is deactivated") (user.isActive = true)
          return user : Except ApiError User) = .ok user := by
        simp [Except.ofOption, Except.require, hactive, bind, Except.bind, pure, Except.pure]
      rw [hcurrent]
      dsimp only
      by_cases hadmin : isSuperAdmin s.access.iam userId = true ∨
          hasRole s.access.iam userId user.tenantId (fun role => role.name = "tenant_admin") = true
      · refine Or.inr ⟨user, rfl, by simpa [hactive] using hadmin, ?_⟩
        rw [requireAdmin, Except.require, if_pos hadmin]
      · refine Or.inl ⟨by simpa [hactive] using hadmin, .http 403 "Admin access required", ?_⟩
        rw [requireAdmin, Except.require, if_neg hadmin]

/-- An admin whose roles are all in one tenant was registered in it. -/
theorem registered_of_isAdmin (hsuper : isSuperAdmin s.access.iam userId = false)
    (honly : OnlyIn s.access.iam userId tenantId)
    (huser : s.access.iam.users.get? userId = some user) (hadmin : isAdmin s userId = true) :
    user.tenantId = some tenantId := by
  rw [isAdmin, huser, Option.any_some, hsuper, Bool.false_or, Bool.and_eq_true] at hadmin
  obtain ⟨id, userRole, role, hget, hid, htenant, -⟩ := hasRole_iff.mp hadmin.2
  exact htenant.symm.trans (honly id userRole hget hid)

/-- Such an admin acts in that tenant. -/
theorem currentTenant_of_isAdmin (hsuper : isSuperAdmin s.access.iam userId = false)
    (honly : OnlyIn s.access.iam userId tenantId) (hadmin : isAdmin s userId = true)
    {headers : TenantHeaders} {currentTenant : ℕ}
    (h : getCurrentTenant s.access userId headers = .ok currentTenant) :
    currentTenant = tenantId := by
  rcases (getCurrentTenant_sound h).allowed with hyes | ⟨user, huser, hregistered⟩ |
    ⟨id, userRole, hget, hid, htenant⟩
  · rw [hsuper] at hyes
    cases hyes
  · exact Option.some.inj
      (hregistered.symm.trans (registered_of_isAdmin hsuper honly huser hadmin))
  · exact Option.some.inj (htenant.symm.trans (honly id userRole hget hid))

/-- A request of a user whose roles are all in one tenant, and who is no super admin, respects the
scope of that tenant exactly if the user is no admin or what the request is about belongs to the
tenant. -/
theorem respects_iff (hsuper : isSuperAdmin s.access.iam userId = false)
    (honly : OnlyIn s.access.iam userId tenantId) (client : Client) (request : Request) :
    Respects s tenantId (handle s client userId request) ↔
      isAdmin s userId = false ∨ InScope s userId tenantId request := by
  rcases handle_cases s client userId request with
    ⟨hadmin, e, hrefused⟩ | ⟨user, huser, hadmin, hperformed⟩
  · rw [hrefused]
    exact iff_of_true (respects_refuse s tenantId e) (Or.inl hadmin)
  · rw [hperformed, hadmin, or_iff_right nofun]
    cases request with
    | getTenant id => exact respects_getTenant_iff
    | approveTenant id dhcpPoolStart dhcpPoolEnd locks bridgeCreation dispatched =>
      exact respects_approveTenant_iff
    | deleteTenant id dispatched => exact respects_deleteTenant_iff
    | overrideVmStatus headers vmId status reason force =>
      rw [perform, InScope]
      cases hcurrent : getCurrentTenant s.access userId headers with
      | error e => exact iff_of_true (respects_refuse s tenantId e) (Or.inl ⟨e, rfl⟩)
      | ok currentTenant =>
        obtain rfl := currentTenant_of_isAdmin hsuper honly hadmin hcurrent
        rw [or_iff_right nofun]
        exact respects_overrideVmStatus_iff
    | fixVm vmId => exact respects_fixVm_iff
    | reconcile backend vsphere => exact respects_reconcile_iff
    | getRecentActivity limit => exact respects_getRecentActivity_iff
    | getSystemResources node => exact respects_getSystemResources_iff

/-- Two tenants, and an admin of the first one. -/
def twoTenants : State where
  access := {
    iam := {
      tenants := (Serial.empty.add ⟨"First", "first"⟩).add ⟨"Second", "second"⟩
      users := Serial.empty.add ⟨"ann", "ann@first.example", true, some 1⟩
      permissions := .empty
      roles := Serial.empty.add ⟨"tenant_admin", none, none, true, false, ∅⟩
      userRoles := Serial.empty.add ⟨1, some 1, 1, none⟩
      invitations := .empty }
    tenantActive _ := true }
  net := Provisioning.smallDb
  tenantDetails tenantId := {
    name := if tenantId = 1 then "First" else "Second"
    slug := if tenantId = 1 then "first" else "second"
    dhcpPoolStart := none
    dhcpPoolEnd := none
    createdAt := 0 }
  records := ⟨.empty, .empty⟩
  vmDetails _ := ⟨1, 1, none, none, none, 0⟩
  reservationTenant _ := 1
  auditLogs := .empty
  messages := []

/-- The admin has no role outside of the first tenant. -/
theorem onlyIn_twoTenants : OnlyIn twoTenants.access.iam 1 1 :=
  Serial.forall_get?_iff.mpr (by decide +kernel)

/-- The admin may read the first tenant. -/
theorem respects_twoTenants :
    Respects twoTenants 1 (handle twoTenants ⟨0, none, none⟩ 1 (.getTenant 1)) :=
  (respects_iff (by decide +kernel) onlyIn_twoTenants _ _).mpr (Or.inr fun _ => rfl)

/-- And reads the second one. -/
theorem not_respects : ¬ ∀ (s : State) (client : Client) (userId tenantId : ℕ) (request : Request),
    isSuperAdmin s.access.iam userId = false → OnlyIn s.access.iam userId tenantId →
      Respects s tenantId (handle s client userId request) := by
  intro h
  have habout := (h twoTenants ⟨0, none, none⟩ 1 1 (.getTenant 2) (by decide +kernel)
    onlyIn_twoTenants).1
  have hread : (handle twoTenants ⟨0, none, none⟩ 1 (.getTenant 2)).about = [2] := by
    decide +kernel
  rw [hread] at habout
  exact absurd (habout 2 List.mem_cons_self) (by decide)

end ProxmoxIaas.AdminScope
