import ProxmoxIaas.Provisioning.Networks

/-!
# Approval and Provisioning of Tenants

Approval places a tenant in a pod, gives it a bridge, a subnet and a default network, and
dispatches the provisioning task; `verify_tenant` resets a tenant in error status before it
approves it again; a super admin can release a bridge by hand. The provisioning task commits
several times while it configures the tenant's OPNsense VM, so a run of the task is the
sequence of its commits.

A request or run keeps the tenant row as its session loaded it, because a commit writes only
the columns that differ from it.

## Main results

- `approveTenant_eq_ok`: what a committed approval changed.
- `ProvisionRun.step_bridgeId`, `ProvisionRun.step_lanIp`, `ProvisionRun.step_status`: what a
  step of the provisioning task can change at its tenant.
-/

namespace ProxmoxIaas

/-- The pods that take new tenants, without the locked ones. -/
def openPods (db : Db) (locked : List ℕ) : List (ℕ × Pod) :=
  db.pods.select fun id pod =>
    id ∉ locked ∧ pod.status = .active ∧ pod.tenantCount < pod.maxTenants

/-- Pick the open pod with the most tenants. -/
def assignPod (db : Db) (locked : List ℕ) : Option (ℕ × Pod) :=
  (openPods db locked).argmax fun pod => pod.2.tenantCount

/-- Give the first available bridge to a tenant. -/
def allocateBridge (db : Db) (tenantId : ℕ) : Option (ℕ × Db) :=
  (db.bridgePool.first? fun _ bridge => bridge.status = .available).map fun (bridgeId, _) =>
    (bridgeId, { db with
      bridgePool := db.bridgePool.modify bridgeId fun _ =>
        { status := .inUse, tenantId := some tenantId } })

/-- The arguments `approve_tenant` dispatches `provision_tenant_task` with. -/
structure ProvisionMessage where
  /-- The tenant. -/
  tenantId : ℕ
  /-- The pod of the tenant. -/
  podId : ℕ
  /-- The bridge of the tenant. -/
  bridgeId : ℕ
  /-- The gateway of the default network. -/
  gatewayIp : String
  /-- The subnet of the default network. -/
  cidr : String
  deriving DecidableEq, Repr

/-- The default network that approval inserts. It is untagged and consumes no VLAN. -/
def approvedNetwork (tenantId podId bridgeId : ℕ) (subnet : ℕ × GlobalIPPool) :
    TenantNetwork where
  tenantId := tenantId
  podId := podId
  ipPoolId := some subnet.1
  cidr := subnet.2.cidr
  gatewayIp := subnet.2.gatewayIp
  vlanId := none
  name := "default"
  isDefault := true
  status := .active
  providerRef := some s!"vmbr{bridgeId}"
  opnsenseInterface := none

/-- The columns of the tenant that approval writes. -/
def Tenant.approve (tenantId podId bridgeId : ℕ) (gatewayIp : String) (loaded stored : Tenant) :
    Tenant :=
  { stored with
    podId := writeColumn (some loaded) (·.podId) (some podId) stored.podId
    bridgeId := writeColumn (some loaded) (·.bridgeId) (some bridgeId) stored.bridgeId
    opnsenseVmId := writeColumn (some loaded) (·.opnsenseVmId)
      (some (10000 + ((bridgeId : ℤ) - 100))) stored.opnsenseVmId
    opnsenseVmName := writeColumn (some loaded) (·.opnsenseVmName)
      (some s!"VM_OPNsense_{tenantId}") stored.opnsenseVmName
    lanIp := writeColumn (some loaded) (·.lanIp) (some gatewayIp) stored.lanIp
    status := writeColumn (some loaded) (·.status) .provisioning stored.status }

/-- Approve a tenant, as its session had loaded it: everything from the choice of the pod to
the commit. The rows that are handed out are locked, so the whole is one step. The creation
of the bridge on the hypervisor may raise. -/
def approveTenant (db : Db) (locks : Locks) (tenantId : ℕ) (tenant : Tenant)
    (bridgeCreation : Except String Unit) : Except ApiError (ProvisionMessage × Db) := do
  Except.require
    (.valueError s!"Tenant is not in pending_approval, verified, or error status. Current: {
      tenant.status.text}")
    (tenant.status ∈ [TenantStatus.pendingApproval, .verified, .error])
  Except.require (.valueError "Tenant already has a bridge allocated")
    (truthy tenant.bridgeId = none)
  let (podId, _) ← Except.ofOption (.valueError "No pod capacity available")
    (assignPod db locks.pods)
  let (bridgeId, db) ← Except.ofOption (.valueError "No bridge capacity available")
    ((allocateBridge db tenantId).filter fun allocated => allocated.1 ≠ 0)
  let (subnet, db) ← allocateSubnet db locks.subnets
  match bridgeCreation with
  | .error e => .error (.valueError s!"Failed to create bridge: {e}")
  | .ok _ =>
    let db := { db with
      tenants := db.tenants.modify tenantId
        (.approve tenantId podId bridgeId subnet.2.gatewayIp tenant)
      pods := db.pods.modify podId fun pod => { pod with tenantCount := pod.tenantCount + 1 }
      globalIpPool := db.globalIpPool.modify subnet.1 (.link none)
      tenantNetworks := db.tenantNetworks.add
        (approvedNetwork tenantId podId bridgeId subnet) }
    return (⟨tenantId, podId, bridgeId, subnet.2.gatewayIp, subnet.2.cidr⟩, db)

/-- The check of the admin endpoint before it approves a tenant. -/
def adminApproveCheck (tenant : Tenant) : Except ApiError Unit :=
  Except.require
    (.http 409 s!"Cannot approve tenant with status '{tenant.status.text
      }'. Tenant must be in 'pending_approval' state.")
    (tenant.status = .pendingApproval)

/-- The check of `verify_tenant` before it resets or approves a tenant. -/
def verifyCheck (tenant : Tenant) : Except ApiError Unit :=
  Except.require (.http 400 "Tenant is already verified") (tenant.isVerified = false)

/-- The columns that `verify_tenant` resets on a tenant in error status. The bridge the
tenant owns is not returned to the pool. -/
def Tenant.reset (loaded stored : Tenant) : Tenant :=
  { stored with
    status := writeColumn (some loaded) (·.status) .pendingApproval stored.status
    bridgeId := writeColumn (some loaded) (·.bridgeId) none stored.bridgeId
    opnsenseVmId := writeColumn (some loaded) (·.opnsenseVmId) none stored.opnsenseVmId
    opnsenseVmName := writeColumn (some loaded) (·.opnsenseVmName) none stored.opnsenseVmName
    lanIp := writeColumn (some loaded) (·.lanIp) none stored.lanIp
    wanIp := writeColumn (some loaded) (·.wanIp) none stored.wanIp
    opnsenseApiKey := writeColumn (some loaded) (·.opnsenseApiKey) none stored.opnsenseApiKey
    opnsenseApiSecret :=
      writeColumn (some loaded) (·.opnsenseApiSecret) none stored.opnsenseApiSecret }

/-- The reset of a tenant in error status. -/
def resetTenant (db : Db) (tenantId : ℕ) (loaded : Tenant) : Db :=
  { db with tenants := db.tenants.modify tenantId (.reset loaded) }

/-- The commit of `verify_tenant` after the approval succeeded. -/
def verifyTenant (db : Db) (tenantId : ℕ) : Db :=
  { db with
    tenants := db.tenants.modify tenantId fun tenant => { tenant with isVerified := true } }

/-- The checks of the endpoint that releases a bridge by hand. -/
def releaseBridgeCheck (db : Db) (bridgeId : ℕ) : Except ApiError BridgePool := do
  let bridge ← Except.ofOption (.http 404 s!"Bridge {bridgeId} not found")
    (db.bridgePool.get? bridgeId)
  Except.require (.http 400 s!"Bridge {bridgeId} is already available")
    (bridge.status ≠ .available)
  return bridge

/-- The columns of the tenant that a release by hand writes. -/
def Tenant.loseBridge (loaded stored : Tenant) : Tenant :=
  { stored with
    bridgeId := writeColumn (some loaded) (·.bridgeId) none stored.bridgeId
    opnsenseVmId := writeColumn (some loaded) (·.opnsenseVmId) none stored.opnsenseVmId
    status := writeColumn (some loaded) (·.status) .error stored.status
    error := writeColumn (some loaded) (·.error) (some "Bridge manually released by admin")
      stored.error }

/-- The columns of the bridge that a release by hand writes. -/
def BridgePool.release (loaded stored : BridgePool) : BridgePool where
  status := writeColumn (some loaded) (·.status) .available stored.status
  tenantId := writeColumn (some loaded) (·.tenantId) none stored.tenantId

/-- The commit of the endpoint that releases a bridge by hand. The session had loaded the
bridge and its tenant. -/
def releaseBridge (db : Db) (bridgeId : ℕ) (bridge : BridgePool) (tenant : Option Tenant) :
    Db :=
  { db with
    tenants := match truthy bridge.tenantId, tenant with
      | some tenantId, some tenant => db.tenants.modify tenantId (.loseBridge tenant)
      | _, _ => db.tenants
    bridgePool := db.bridgePool.modify bridgeId (.release bridge) }

/-- How far a run of `provision_tenant_task` has come. -/
inductive ProvisionPhase where
  /-- The tenant was found in provisioning status; the VM is being cloned. -/
  | cloning
  /-- The WAN address is committed. -/
  | wanSet
  /-- The LAN address is committed. -/
  | lanSet
  /-- The API credentials are known. -/
  | keyed
  /-- The active status is committed; the run has to record and report it. -/
  | active
  /-- The run was rolled back after its time limit, and will be rolled back again. -/
  | timedOut
  deriving DecidableEq, Repr

/-- A run of `provision_tenant_task` between two of its commits. -/
structure ProvisionRun where
  /-- The arguments of the task. -/
  message : ProvisionMessage
  /-- The tenant as the session has loaded it; a commit expires it. -/
  session : Option Tenant
  /-- How far the run has come. -/
  phase : ProvisionPhase
  deriving DecidableEq, Repr

/-- The start of the task: a tenant that is not in provisioning status ends it. -/
def beginProvision (db : Db) (message : ProvisionMessage) : Option ProvisionRun :=
  match db.tenants.get? message.tenantId with
  | none => none
  | some tenant =>
    if tenant.status = .provisioning then
      some { message, session := some tenant, phase := .cloning }
    else none

/-- The steps of a run of `provision_tenant_task` that read or write its tenant. -/
inductive ProvisionStep where
  /-- Commit the WAN address the VM was given. -/
  | setWanIp (wanIp : String)
  /-- Commit the LAN address. -/
  | setLanIp
  /-- Load the tenant after a commit has expired it. -/
  | load
  /-- Commit rotated API credentials. -/
  | rotateKey (apiKey apiSecret : String)
  /-- Go on with the API credentials the tenant has. -/
  | keepKey
  /-- Commit the default bounds of the DHCP pool. -/
  | setDhcpPool
  /-- Commit the active status. -/
  | complete
  /-- Record and report that the tenant is active. -/
  | finish
  /-- Roll back after an error. -/
  | fail (message : String)
  /-- Roll back after the time limit. -/
  | timeOut (message : String)
  /-- Roll back once more, in a session of its own, after the time limit. -/
  | rollBackAgain
  deriving DecidableEq, Repr

/-- The LAN gateway a run configures, if it knows a gateway and a subnet. -/
def lanGateway (message : ProvisionMessage) (tenant : Tenant) : Option String :=
  let gateway := (truthyText (some message.gatewayIp)).or (truthyText tenant.lanIp)
  let cidr := (truthyText (some message.cidr)).or
    ((truthyText tenant.lanIp).map fun lanIp => s!"{lanIp}/24")
  cidr.bind fun _ => gateway

/-- The rollback of a failed run: the tenant is in error status. -/
def Tenant.rollBack (session : Option Tenant) (message : String) (stored : Tenant) : Tenant :=
  { stored with
    status := writeColumn session (·.status) .error stored.status
    error := writeColumn session (·.error) (some message) stored.error }

/-- The effect of a step of a run on the tenant row, and the run after the step. A step that
the run cannot take has no effect; a run that has ended is `none`. -/
def ProvisionRun.step (run : ProvisionRun) (stored : Tenant) :
    ProvisionStep → Tenant × Option ProvisionRun
  | .setWanIp wanIp =>
    if run.phase = .cloning ∧ wanIp ≠ "" then
      ({ stored with wanIp := writeColumn run.session (·.wanIp) (some wanIp) stored.wanIp },
        some { run with session := none, phase := .wanSet })
    else (stored, some run)
  | .setLanIp =>
    match run.phase, lanGateway run.message stored with
    | .wanSet, some gateway =>
      -- Without a gateway argument the address is read from the tenant, which loads it.
      let session := if truthyText (some run.message.gatewayIp) = none then some stored
        else run.session
      ({ stored with lanIp := writeColumn session (·.lanIp) (some gateway) stored.lanIp },
        some { run with session := none, phase := .lanSet })
    | _, _ => (stored, some run)
  | .load =>
    if run.session = none then (stored, some { run with session := some stored })
    else (stored, some run)
  | .rotateKey apiKey apiSecret =>
    match run.phase, run.session with
    | .lanSet, some tenant =>
      if truthyText tenant.opnsenseApiKey = none then
        ({ stored with
            opnsenseApiKey := writeColumn run.session (·.opnsenseApiKey) (some apiKey)
              stored.opnsenseApiKey
            opnsenseApiSecret := writeColumn run.session (·.opnsenseApiSecret) (some apiSecret)
              stored.opnsenseApiSecret },
          some { run with session := none, phase := .keyed })
      else (stored, some run)
    | _, _ => (stored, some run)
  | .keepKey =>
    match run.phase, run.session with
    | .lanSet, some tenant =>
      if truthyText tenant.opnsenseApiKey ≠ none then
        (stored, some { run with phase := .keyed })
      else (stored, some run)
    | _, _ => (stored, some run)
  | .setDhcpPool =>
    if run.phase = .keyed then (stored, some { run with session := none })
    else (stored, some run)
  | .complete =>
    if run.phase = .keyed ∧ run.session ≠ none then
      ({ stored with status := writeColumn run.session (·.status) .active stored.status },
        some { run with session := none, phase := .active })
    else (stored, some run)
  | .finish => if run.phase = .active then (stored, none) else (stored, some run)
  | .fail message =>
    if run.phase = .timedOut then (stored, some run)
    else (.rollBack run.session message stored, none)
  | .timeOut message =>
    if run.phase = .timedOut then (stored, some run)
    else (.rollBack run.session message stored,
      some { run with session := none, phase := .timedOut })
  | .rollBackAgain =>
    if run.phase = .timedOut then (.rollBack none "Task timeout" stored, none)
    else (stored, some run)

/-- A committed approval took an available bridge and a free subnet, and inserted a default
network that uses the subnet. -/
theorem approveTenant_eq_ok {db db' : Db} {locks : Locks} {tenantId : ℕ} {tenant : Tenant}
    {bridgeCreation : Except String Unit} {message : ProvisionMessage}
    (h : approveTenant db locks tenantId tenant bridgeCreation = .ok (message, db')) :
    ∃ podId bridgeId bridge subnetId subnet,
      tenant.status ∈ [TenantStatus.pendingApproval, .verified, .error] ∧
      truthy tenant.bridgeId = none ∧
      db.bridgePool.get? bridgeId = some bridge ∧ bridge.status = .available ∧
      bridgeId ≠ 0 ∧
      db.globalIpPool.get? subnetId = some subnet ∧ subnet.status = .free ∧
      message = ⟨tenantId, podId, bridgeId, subnet.gatewayIp, subnet.cidr⟩ ∧
      db' = { db with
        tenants := db.tenants.modify tenantId
          (.approve tenantId podId bridgeId subnet.gatewayIp tenant)
        pods := db.pods.modify podId fun pod => { pod with tenantCount := pod.tenantCount + 1 }
        bridgePool := db.bridgePool.modify bridgeId fun _ =>
          { status := .inUse, tenantId := some tenantId }
        globalIpPool := (db.globalIpPool.modify subnetId .allocate).modify subnetId (.link none)
        tenantNetworks := db.tenantNetworks.add
          (approvedNetwork tenantId podId bridgeId (subnetId, subnet)) } := by
  simp only [approveTenant, Except.bind_eq_ok_iff, Except.ofOption_eq_ok_iff,
    Except.require_eq_ok_iff, Option.filter_eq_some_iff, decide_eq_true_eq, Prod.exists] at h
  obtain ⟨-, hstatus, -, hnobridge, podId, pod, -, _, db₁, ⟨hbridge, hne⟩, subnetId,
    subnet, db₂, hsubnet, hcreated⟩ := h
  simp only [allocateBridge, Option.map_eq_some_iff, Prod.exists, Prod.mk.injEq] at hbridge
  obtain ⟨bridgeId, bridge, hfound, rfl, rfl⟩ := hbridge
  obtain ⟨hbget, havailable⟩ := Table.first?_eq_some hfound
  obtain ⟨hget, -, hfree, rfl⟩ := allocateSubnet_eq_ok hsubnet
  cases bridgeCreation with
  | error e => cases hcreated
  | ok =>
    cases hcreated
    exact ⟨podId, bridgeId, bridge, subnetId, subnet, hstatus, hnobridge, hbget,
      of_decide_eq_true havailable, hne, hget, hfree, rfl, rfl⟩

/-- A committed approval took the first available bridge. -/
theorem approveTenant_bridge {db db' : Db} {locks : Locks} {tenantId : ℕ} {tenant : Tenant}
    {bridgeCreation : Except String Unit} {message : ProvisionMessage}
    (h : approveTenant db locks tenantId tenant bridgeCreation = .ok (message, db')) :
    ∃ bridge, db.bridgePool.first? (fun _ bridge => bridge.status = .available) =
      some (message.bridgeId, bridge) := by
  simp only [approveTenant, Except.bind_eq_ok_iff, Except.ofOption_eq_ok_iff,
    Option.filter_eq_some_iff, Prod.exists] at h
  obtain ⟨-, -, -, -, podId, pod, -, _, _, ⟨hbridge, -⟩, _, _, _, -, hcreated⟩ := h
  simp only [allocateBridge, Option.map_eq_some_iff, Prod.exists, Prod.mk.injEq] at hbridge
  obtain ⟨bridgeId, bridge, hfound, rfl, -⟩ := hbridge
  cases bridgeCreation with
  | error e => cases hcreated
  | ok =>
    cases hcreated
    exact ⟨bridge, hfound⟩

/-- A committed approval placed the tenant in an active pod with room for it. -/
theorem approveTenant_pod {db db' : Db} {locks : Locks} {tenantId : ℕ} {tenant : Tenant}
    {bridgeCreation : Except String Unit} {message : ProvisionMessage}
    (h : approveTenant db locks tenantId tenant bridgeCreation = .ok (message, db')) :
    ∃ pod, db.pods.get? message.podId = some pod ∧ pod.status = .active ∧
      (pod.tenantCount : ℤ) < pod.maxTenants := by
  simp only [approveTenant, Except.bind_eq_ok_iff, Except.ofOption_eq_ok_iff,
    Except.require_eq_ok_iff, Prod.exists] at h
  obtain ⟨-, -, -, -, podId, pod, hpod, _, _, -, _, _, _, -, hcreated⟩ := h
  have hopen : (podId, pod) ∈ db.pods.rows.select fun id pod =>
      id ∉ locks.pods ∧ pod.status = .active ∧ pod.tenantCount < pod.maxTenants :=
    List.argmax_mem hpod
  obtain ⟨hget, hselected⟩ := Table.mem_select.mp hopen
  obtain ⟨-, hactive, hroom⟩ := of_decide_eq_true hselected
  cases bridgeCreation with
  | error e => cases hcreated
  | ok =>
    cases hcreated
    exact ⟨pod, hget, hactive, hroom⟩

/-- The default network of an approved tenant has the subnet that was offered. -/
theorem approveTenant_offered {db db' : Db} {locks : Locks} {tenantId : ℕ} {tenant : Tenant}
    {bridgeCreation : Except String Unit} {message : ProvisionMessage}
    (h : approveTenant db locks tenantId tenant bridgeCreation = .ok (message, db')) :
    ∃ subnet network, offeredSubnet? db locks.subnets = some subnet ∧
      network.cidr = subnet.2.cidr ∧ db'.tenantNetworks = db.tenantNetworks.add network := by
  simp only [approveTenant, Except.bind_eq_ok_iff, Except.ofOption_eq_ok_iff,
    Option.filter_eq_some_iff, Prod.exists] at h
  obtain ⟨-, -, -, -, podId, pod, -, _, db₁, ⟨hbridge, -⟩, subnetId, subnet, db₂, hsubnet,
    hcreated⟩ := h
  simp only [allocateBridge, Option.map_eq_some_iff, Prod.exists, Prod.mk.injEq] at hbridge
  obtain ⟨bridgeId, bridge, -, rfl, rfl⟩ := hbridge
  -- The bridge is allocated first, which does not change what the pool offers.
  have hoffered := allocateSubnet_offered hsubnet
  obtain ⟨-, -, -, rfl⟩ := allocateSubnet_eq_ok hsubnet
  cases bridgeCreation with
  | error e => cases hcreated
  | ok =>
    cases hcreated
    exact ⟨_, _, hoffered, rfl, rfl⟩

/-- A release by hand goes on only for a bridge in use. -/
theorem releaseBridgeCheck_eq_ok {db : Db} {bridgeId : ℕ} {bridge : BridgePool}
    (h : releaseBridgeCheck db bridgeId = .ok bridge) :
    db.bridgePool.get? bridgeId = some bridge ∧ bridge.status = .inUse := by
  simp only [releaseBridgeCheck, Except.bind_eq_ok_iff, Except.ofOption_eq_ok_iff,
    Except.require_eq_ok_iff, Except.pure_eq_ok_iff] at h
  obtain ⟨bridge, hget, -, hstatus, rfl⟩ := h
  refine ⟨hget, ?_⟩
  cases hb : bridge.status with
  | available => exact absurd hb hstatus
  | inUse => rfl

namespace ProvisionRun

variable (run : ProvisionRun) (stored : Tenant)

/-- No step of a run changes the bridge of its tenant. -/
theorem step_bridgeId (e : ProvisionStep) : (run.step stored e).1.bridgeId = stored.bridgeId := by
  cases e <;> simp only [step]
  all_goals repeat' split
  all_goals rfl

/-- No step of a run changes the pod of its tenant. -/
theorem step_podId (e : ProvisionStep) : (run.step stored e).1.podId = stored.podId := by
  cases e <;> simp only [step]
  all_goals repeat' split
  all_goals rfl

/-- No step of a run changes the VM of its tenant. -/
theorem step_opnsenseVmId (e : ProvisionStep) :
    (run.step stored e).1.opnsenseVmId = stored.opnsenseVmId := by
  cases e <;> simp only [step]
  all_goals repeat' split
  all_goals rfl

/-- A run keeps the tenant that its session has loaded, loads it again, or lets it expire. -/
theorem step_session (e : ProvisionStep) {next : ProvisionRun}
    (h : (run.step stored e).2 = some next) :
    next.session = run.session ∨ next.session = none ∨ next.session = some stored := by
  cases e <;> simp only [step] at h
  all_goals repeat' split at h
  all_goals cases h
  all_goals first
    | exact Or.inl rfl
    | exact Or.inr (Or.inl rfl)
    | exact Or.inr (Or.inr rfl)

/-- A run that has committed the active status stays in that phase, unless its time runs out. -/
theorem step_phase_of_active (hactive : run.phase = .active) (e : ProvisionStep)
    (hlimit : ∀ message, e ≠ .timeOut message) {next : ProvisionRun}
    (h : (run.step stored e).2 = some next) : next.phase = .active := by
  cases e with
  | timeOut message => exact absurd rfl (hlimit message)
  | _ =>
    simp only [step] at h
    repeat' split at h
    -- A step that is not taken leaves the run as it is; the others belong to other phases.
    all_goals first
      | (cases h; exact hactive)
      | simp_all

/-- A run keeps its arguments. -/
theorem step_message (e : ProvisionStep) {next : ProvisionRun}
    (h : (run.step stored e).2 = some next) : next.message = run.message := by
  cases e <;> simp only [step] at h
  all_goals repeat' split at h
  all_goals cases h
  all_goals rfl

/-- Only the LAN step changes the LAN address, to the gateway the run configures. -/
theorem step_lanIp (e : ProvisionStep) :
    (run.step stored e).1.lanIp = stored.lanIp ∨
      (lanGateway run.message stored).isSome = true ∧
        (run.step stored e).1.lanIp = lanGateway run.message stored := by
  cases e with
  | setLanIp =>
    simp only [step]
    split
    case h_1 gateway _ hgateway =>
      rw [hgateway]
      rcases writeColumn_eq_or (if truthyText (some run.message.gatewayIp) = none then
        some stored else run.session) (·.lanIp) (some gateway) stored.lanIp with hw | hw
      · exact Or.inr ⟨rfl, hw⟩
      · exact Or.inl hw
    case h_2 => exact Or.inl rfl
  | _ =>
    refine Or.inl ?_
    simp only [step]
    repeat' split
    all_goals rfl

/-- A step sets the status to error, or to active at the completion of a run that had loaded
another status, or not at all. -/
theorem step_status (e : ProvisionStep) :
    (run.step stored e).1.status = stored.status ∨ (run.step stored e).1.status = .error ∨
      e = .complete ∧ run.phase = .keyed ∧ ∃ tenant, run.session = some tenant ∧
        tenant.status ≠ .active := by
  have hrollBack : ∀ session message,
      (Tenant.rollBack session message stored).status = stored.status ∨
        (Tenant.rollBack session message stored).status = .error := fun session message =>
    (writeColumn_eq_or session (·.status) .error stored.status).symm
  cases e with
  | complete =>
    simp only [step]
    split
    case isTrue hphase =>
      obtain ⟨tenant, htenant⟩ := Option.ne_none_iff_exists'.mp hphase.2
      by_cases hactive : tenant.status = .active
      · refine Or.inl (if_pos ?_)
        rw [htenant, Option.map_some, hactive]
      · exact Or.inr (Or.inr ⟨trivial, hphase.1, tenant, htenant, hactive⟩)
    case isFalse => exact Or.inl rfl
  | fail message =>
    simp only [step]
    split
    · exact Or.inl rfl
    · exact (hrollBack _ _).imp_right Or.inl
  | timeOut message =>
    simp only [step]
    split
    · exact Or.inl rfl
    · exact (hrollBack _ _).imp_right Or.inl
  | rollBackAgain =>
    simp only [step]
    split
    · exact (hrollBack _ _).imp_right Or.inl
    · exact Or.inl rfl
  | _ =>
    refine Or.inl ?_
    simp only [step]
    repeat' split
    all_goals rfl

end ProvisionRun

end ProxmoxIaas
