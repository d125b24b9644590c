import ProxmoxIaas.Foundation.UnitOfWork
import ProxmoxIaas.Provisioning.Approval

/-!
# Failed Approvals

The approval of a tenant as a program over its session. Everything up to the creation of the
bridge on the hypervisor is collected in the session and lost with it when a step raises; the
dispatch of the provisioning task comes after the commit. `verify_tenant` catches the error of an
approval, sets the tenant to error status, and rolls the session back.

## Main results

- `placeTenant_result`: the program would commit what the approval as one step commits.
- `approveTenant_cases`: how the run of an approval ends.
- `failedApproval_iff`: a failed approval leaves no trace unless only its dispatch failed, and the
  error status of a failed verification is never committed.
-/

namespace ProxmoxIaas.Approvals

open Transaction

/-- The results of the calls an approval makes outside the database. -/
structure Calls where
  /-- The creation of the bridge on the hypervisor. -/
  createBridge : Except String Unit
  /-- `provision_tenant_task.delay`; the broker may refuse the message. -/
  delay : Except ApiError Unit

/-- The pod of a tenant as its session writes it. -/
def assignTo (podId : ℕ) (loaded stored : Tenant) : Tenant :=
  { stored with podId := writeColumn (some loaded) (·.podId) (some podId) stored.podId }

/-- The other columns that approval writes. -/
def startProvisioning (tenantId bridgeId : ℕ) (gatewayIp : String) (loaded stored : Tenant) :
    Tenant :=
  { stored with
    bridgeId := writeColumn (some loaded) (·.bridgeId) (some bridgeId) stored.bridgeId
    opnsenseVmId := writeColumn (some loaded) (·.opnsenseVmId)
      (some (10000 + ((bridgeId : ℤ) - 100))) stored.opnsenseVmId
    opnsenseVmName := writeColumn (some loaded) (·.opnsenseVmName)
      (some s!"VM_OPNsense_{tenantId}") stored.opnsenseVmName
    lanIp := writeColumn (some loaded) (·.lanIp) (some gatewayIp) stored.lanIp
    status := writeColumn (some loaded) (·.status) .provisioning stored.status }

/-- Both writes together are the columns of an approval. -/
theorem startProvisioning_assignTo (tenantId podId bridgeId : ℕ) (gatewayIp : String)
    (loaded : Tenant) :
    startProvisioning tenantId bridgeId gatewayIp loaded ∘ assignTo podId loaded =
      Tenant.approve tenantId podId bridgeId gatewayIp loaded := rfl

/-- Take the first available bridge. -/
def allocateBridge (tenantId : ℕ) : Transaction ApiError Db (Option ℕ) := do
  let bridge ← query fun db : Db =>
    db.bridgePool.first? fun _ bridge => bridge.status = .available
  match bridge with
  | none => return none
  | some (bridgeId, _) =>
    write fun db : Db => { db with
      bridgePool := db.bridgePool.modify bridgeId fun _ =>
        { status := .inUse, tenantId := some tenantId } }
    return some bridgeId

/-- Return the bridge that is stored as the tenant's. The query does not see the bridge the
session has just taken. -/
def releaseBridge (tenantId : ℕ) : Transaction ApiError Db Bool := do
  let bridge ← query fun db : Db =>
    db.bridgePool.first? fun _ bridge => bridge.tenantId = some tenantId
  match bridge with
  | none => return false
  | some (bridgeId, _) =>
    write fun db : Db => { db with
      bridgePool := db.bridgePool.modify bridgeId fun _ =>
        { status := .available, tenantId := none } }
    return true

/-- Take the next free subnet. -/
def allocateSubnet (locked : List ℕ) : Transaction ApiError Db (ℕ × GlobalIPPool) := do
  let subnet ← query fun db : Db => offeredSubnet? db locked
  match subnet with
  | none => call (.error (.valueError "IP space exhausted across all pools"))
  | some (id, row) =>
    write fun db : Db => { db with globalIpPool := db.globalIpPool.modify id .allocate }
    return (id, row)

/-- `approve_tenant` up to its commit. -/
def placeTenant (locks : Locks) (createBridge : Except String Unit) (tenantId : ℕ) :
    Transaction ApiError Db ProvisionMessage := do
  let found ← query fun db : Db => db.tenants.get? tenantId
  let tenant ← call (Except.ofOption (.valueError "Tenant not found") found)
  call (Except.require
    (.valueError s!"Tenant is not in pending_approval, verified, or error status. Current: {
      tenant.status.text}")
    (tenant.status ∈ [TenantStatus.pendingApproval, .verified, .error]))
  call (Except.require (.valueError "Tenant already has a bridge allocated")
    (truthy tenant.bridgeId = none))
  let open? ← query fun db : Db => assignPod db locks.pods
  let (podId, _) ← call (Except.ofOption (.valueError "No pod capacity available") open?)
  write fun db : Db => { db with
    pods := db.pods.modify podId fun pod => { pod with tenantCount := pod.tenantCount + 1 } }
  write fun db : Db => { db with tenants := db.tenants.modify tenantId (assignTo podId tenant) }
  let allocated ← allocateBridge tenantId
  let bridgeId ← call (Except.ofOption (.valueError "No bridge capacity available")
    (truthy allocated))
  let subnet ← allocateSubnet locks.subnets
  write fun db : Db => { db with
    globalIpPool := db.globalIpPool.modify subnet.1 (.link none)
    tenantNetworks := db.tenantNetworks.add (approvedNetwork tenantId podId bridgeId subnet) }
  match createBridge with
  | .error e =>
    let _ ← releaseBridge tenantId
    call (.error (.valueError s!"Failed to create bridge: {e}"))
  | .ok _ =>
    write fun db : Db => { db with
      tenants := db.tenants.modify tenantId
        (startProvisioning tenantId bridgeId subnet.2.gatewayIp tenant) }
    return ⟨tenantId, podId, bridgeId, subnet.2.gatewayIp, subnet.2.cidr⟩

/-- Approve a tenant: place it, commit, and dispatch the provisioning task. -/
def approveTenant (locks : Locks) (calls : Calls) (tenantId : ℕ) :
    Transaction ApiError Db ProvisionMessage := do
  let message ← placeTenant locks calls.createBridge tenantId
  commit
  call calls.delay
  return message

/-- The admin endpoint. Its session is closed when it raises. -/
def approveEndpoint (locks : Locks) (calls : Calls) (tenantId : ℕ) :
    Transaction ApiError Db ProvisionMessage := do
  let found ← query fun db : Db => db.tenants.get? tenantId
  let tenant ← call (Except.ofOption (.http 404 "Tenant not found") found)
  call (adminApproveCheck tenant)
  approveTenant locks calls tenantId

/-- Verify a tenant. The result is the error of its approval, if that failed. -/
def verifyTenant (isSuperAdmin : Bool) (locks : Locks) (calls : Calls) (tenantId : ℕ) :
    Transaction ApiError Db (Option ApiError) := do
  call (Except.require (.http 403 "Super admin access required") (isSuperAdmin = true))
  let found ← query fun db : Db => db.tenants.get? tenantId
  let tenant ← call (Except.ofOption (.http 404 "Tenant not found") found)
  call (verifyCheck tenant)
  if tenant.status = .error then
    write (resetTenant · tenantId tenant)
    commit
  let provisioningError ← tryCatch
    (do
      let _ ← approveTenant locks calls tenantId
      write (ProxmoxIaas.verifyTenant · tenantId)
      return none)
    (fun e => do
      write fun db : Db => { db with
        tenants := db.tenants.modify tenantId fun tenant => { tenant with status := .error } }
      rollback
      return some e)
  commit
  return provisioningError

/-- What a placed tenant and its rows become is what the approval as one step commits. -/
theorem placeTenant_result (db : Db) (locks : Locks) (createBridge : Except String Unit)
    (tenantId : ℕ) :
    (placeTenant locks createBridge tenantId).result (Session.start db) =
      (do
        let tenant ← Except.ofOption (.valueError "Tenant not found") (db.tenants.get? tenantId)
        ProxmoxIaas.approveTenant db locks tenantId tenant createBridge) := by
  unfold placeTenant ProxmoxIaas.approveTenant
  simp only [result_query_bind, result_call_bind, result_write_bind, Session.committed_start]
  -- Both sides make the same checks; they are compared from the choice of the bridge on.
  refine bind_congr fun tenant => bind_congr fun _ => bind_congr fun _ => bind_congr fun pod => ?_
  simp only [allocateBridge, ProxmoxIaas.allocateBridge, result_query_bind, bind_assoc,
    Session.committed_write, Session.committed_start]
  cases db.bridgePool.first? fun _ bridge => bridge.status = .available with
  | none => rfl
  | some found =>
    obtain ⟨bridgeId, bridge⟩ := found
    simp only [bind_assoc, result_write_bind, pure_bind, result_call_bind, Option.map_some]
    by_cases hzero : bridgeId = 0
    case pos =>
      subst hzero
      rfl
    have htruthy : truthy (some bridgeId) = some bridgeId := by simp [truthy, hzero]
    rw [htruthy, Option.filter_some_pos (by simpa using hzero)]
    simp only [allocateSubnet, result_query_bind, bind_assoc, Session.committed_write,
      Session.committed_start]
    show _ = ProxmoxIaas.allocateSubnet _ _ >>= _
    unfold ProxmoxIaas.allocateSubnet
    -- The bridge is taken first, which does not change what the pool of subnets offers.
    have hoffered : ∀ pool, [PoolName.safe, .overflow].findSome?
        (freeSubnet? { db with bridgePool := pool } locks.subnets) =
          offeredSubnet? db locks.subnets := fun _ => rfl
    rw [hoffered]
    cases offeredSubnet? db locks.subnets with
    | none => rfl
    | some subnet =>
      simp only [bind_assoc, result_write_bind, pure_bind]
      cases createBridge with
      | error e =>
        simp only [releaseBridge, result_query_bind, bind_assoc, Session.committed_write,
          Session.committed_start]
        cases db.bridgePool.first? fun _ bridge => bridge.tenantId = some tenantId <;> rfl
      | ok =>
        simp only [result_write_bind, result_pure, Session.flushed_write, Session.flushed_start]
        show Except.ok _ = Except.ok _
        rw [Serial.modify_modify db.tenants, startProvisioning_assignTo]

/-- Nothing is committed before the tenant is placed. -/
theorem placeTenant_keepsCommitted (locks : Locks) (createBridge : Except String Unit)
    (tenantId : ℕ) : (placeTenant locks createBridge tenantId).KeepsCommitted := by
  have hbridge : (allocateBridge tenantId).KeepsCommitted := by
    refine (KeepsCommitted.query _).bind fun bridge => ?_
    cases bridge with
    | none => exact .pure _
    | some => exact (KeepsCommitted.write _).bind fun _ => .pure _
  have hreleased : (releaseBridge tenantId).KeepsCommitted := by
    refine (KeepsCommitted.query _).bind fun bridge => ?_
    cases bridge with
    | none => exact .pure _
    | some => exact (KeepsCommitted.write _).bind fun _ => .pure _
  have hsubnet : (allocateSubnet locks.subnets).KeepsCommitted := by
    refine (KeepsCommitted.query _).bind fun subnet => ?_
    cases subnet with
    | none => exact .call _
    | some => exact (KeepsCommitted.write _).bind fun _ => .pure _
  refine (KeepsCommitted.query _).bind fun _ => (KeepsCommitted.call _).bind fun tenant =>
    (KeepsCommitted.call _).bind fun _ => (KeepsCommitted.call _).bind fun _ =>
    (KeepsCommitted.query _).bind fun _ => (KeepsCommitted.call _).bind fun pod =>
    (KeepsCommitted.write _).bind fun _ => (KeepsCommitted.write _).bind fun _ =>
    hbridge.bind fun _ => (KeepsCommitted.call _).bind fun bridgeId =>
    hsubnet.bind fun subnet => (KeepsCommitted.write _).bind fun _ => ?_
  cases createBridge with
  | error => exact hreleased.bind fun _ => .call _
  | ok => exact (KeepsCommitted.write _).bind fun _ => .pure _

/-- The checks of an approval pass and every pool has something to give. -/
structure Approvable (db : Db) (locks : Locks) (tenant : Tenant) : Prop where
  /-- The status allows an approval. -/
  status : tenant.status ∈ [TenantStatus.pendingApproval, .verified, .error]
  /-- The tenant has no bridge yet. -/
  noBridge : truthy tenant.bridgeId = none
  /-- A pod takes new tenants. -/
  pod : (assignPod db locks.pods).isSome
  /-- A bridge is available. The bridge with number zero counts as none. -/
  bridge : ∃ bridgeId bridge, bridgeId ≠ 0 ∧
    db.bridgePool.first? (fun _ bridge => bridge.status = .available) = some (bridgeId, bridge)
  /-- A subnet is free. -/
  subnet : (offeredSubnet? db locks.subnets).isSome

/-- The approval of a tenant gets as far as its commit. -/
def Commits (db : Db) (locks : Locks) (createBridge : Except String Unit) (tenantId : ℕ) : Prop :=
  ∃ tenant, db.tenants.get? tenantId = some tenant ∧ Approvable db locks tenant ∧
    createBridge = .ok ()

/-- Exactly an approvable tenant is approved, if its bridge can be created. -/
theorem approveTenant_ok_iff {db : Db} {locks : Locks} {tenantId : ℕ} {tenant : Tenant}
    {createBridge : Except String Unit} :
    (∃ r, ProxmoxIaas.approveTenant db locks tenantId tenant createBridge = .ok r) ↔
      Approvable db locks tenant ∧ createBridge = .ok () := by
  constructor
  · rintro ⟨⟨message, db'⟩, h⟩
    obtain ⟨subnet, -, hsubnet, -⟩ := approveTenant_offered h
    simp only [ProxmoxIaas.approveTenant, Except.bind_eq_ok_iff, Except.ofOption_eq_ok_iff,
      Except.require_eq_ok_iff, Option.filter_eq_some_iff, decide_eq_true_eq, Prod.exists] at h
    obtain ⟨-, hstatus, -, hnobridge, podId, pod, hpod, _, db₁, ⟨hbridge, hne⟩, subnetId,
      subnet, db₂, -, hcreated⟩ := h
    simp only [ProxmoxIaas.allocateBridge, Option.map_eq_some_iff, Prod.exists,
      Prod.mk.injEq] at hbridge
    obtain ⟨bridgeId, bridge, hfound, rfl, -⟩ := hbridge
    refine ⟨⟨hstatus, hnobridge, Option.isSome_of_eq_some hpod, ⟨bridgeId, bridge, hne, hfound⟩,
      Option.isSome_of_eq_some hsubnet⟩, ?_⟩
    cases createBridge with
    | error e => cases hcreated
    | ok => rfl
  · rintro ⟨h, rfl⟩
    obtain ⟨pod, hpod⟩ := Option.isSome_iff_exists.mp h.pod
    obtain ⟨bridgeId, bridge, hne, hbridge⟩ := h.bridge
    obtain ⟨subnet, hsubnet⟩ := Option.isSome_iff_exists.mp h.subnet
    simp only [ProxmoxIaas.approveTenant, Except.bind_eq_ok_iff, Except.ofOption_eq_ok_iff,
      Except.require_eq_ok_iff, ProxmoxIaas.allocateBridge, hbridge, Option.map_some]
    exact ⟨_, (), h.status, (), h.noBridge, pod, hpod, _,
      Option.filter_some_pos (by simpa using hne), (subnet, _),
      allocateSubnet_of_offered hsubnet, rfl⟩

/-- A committed approval leaves the tenant in provisioning status. -/
theorem status_approveTenant {db db' : Db} {locks : Locks} {tenantId : ℕ} {tenant : Tenant}
    {createBridge : Except String Unit} {message : ProvisionMessage}
    (hget : db.tenants.get? tenantId = some tenant)
    (h : ProxmoxIaas.approveTenant db locks tenantId tenant createBridge = .ok (message, db')) :
    ∃ approved, db'.tenants.get? tenantId = some approved ∧ approved.status = .provisioning := by
  obtain ⟨podId, bridgeId, bridge, subnetId, subnet, hstatus, -, -, -, -, -, -, -, rfl⟩ :=
    approveTenant_eq_ok h
  refine ⟨.approve tenantId podId bridgeId subnet.gatewayIp tenant tenant, ?_, ?_⟩
  · show (db.tenants.modify tenantId _).get? tenantId = _
    rw [Serial.get?_modify, if_pos rfl, hget, Option.map_some]
  · -- The status that was loaded is one of those that approval accepts.
    refine writeColumn_of_ne fun heq => ?_
    rw [heq] at hstatus
    exact absurd hstatus (by decide)

/-- An approval that raises before its commit leaves the session as it was but for the pending
writes. One that gets to its commit leaves the tenant in provisioning status, and raises when the
broker refuses the message. -/
theorem approveTenant_cases (db : Db) (locks : Locks) (calls : Calls) (tenantId : ℕ) :
    (¬ Commits db locks calls.createBridge tenantId ∧
      ∃ e t, (approveTenant locks calls tenantId).runOn (Session.start db) = (.error e, t) ∧
        t.committed = db) ∨
    ∃ tenant message db', db.tenants.get? tenantId = some tenant ∧
      Commits db locks calls.createBridge tenantId ∧
      ProxmoxIaas.approveTenant db locks tenantId tenant calls.createBridge =
        .ok (message, db') ∧
      (approveTenant locks calls tenantId).runOn (Session.start db) =
        (calls.delay.map fun _ => message, Session.start db') := by
  have hresult := placeTenant_result db locks calls.createBridge tenantId
  have hkept := placeTenant_keepsCommitted locks calls.createBridge tenantId (Session.start db)
  cases hrun : (placeTenant locks calls.createBridge tenantId).runOn (Session.start db) with
  | mk x t =>
    rw [hrun] at hkept
    cases x with
    | error e =>
      rw [result_of_error hrun] at hresult
      refine Or.inl ⟨?_, e, t, ?_, hkept⟩
      · rintro ⟨tenant, hget, happrovable⟩
        obtain ⟨r, hr⟩ := approveTenant_ok_iff.mpr happrovable
        rw [hget, Except.ofOption] at hresult
        cases hresult.trans hr
      · unfold approveTenant
        rw [runOn_bind, hrun]
    | ok message =>
      rw [result_of_ok hrun] at hresult
      obtain ⟨tenant, hget, happrove⟩ := Except.bind_eq_ok_iff.mp hresult.symm
      rw [Except.ofOption_eq_ok_iff] at hget
      refine Or.inr ⟨tenant, message, t.flushed, hget, ⟨tenant, hget,
        approveTenant_ok_iff.mp ⟨_, happrove⟩⟩, happrove, ?_⟩
      unfold approveTenant
      rw [runOn_bind, hrun]
      show _ = (_, t.commit)
      cases hdelay : calls.delay <;> rfl

/-- If the approval raises, nothing of it is committed once its caller has rolled back. -/
def Undone (db : Db) (locks : Locks) (calls : Calls) (tenantId : ℕ) : Prop :=
  ∀ e t, (approveTenant locks calls tenantId).runOn (Session.start db) = (.error e, t) →
    t.rollback.committed = db

/-- If the approval of a verification fails, the error status of the tenant is committed. -/
def ErrorCommitted (db : Db) (isSuperAdmin : Bool) (locks : Locks) (calls : Calls)
    (tenantId : ℕ) : Prop :=
  ∀ e t, (verifyTenant isSuperAdmin locks calls tenantId).runOn (Session.start db) =
      (.ok (some e), t) →
    ∃ tenant, t.committed.tenants.get? tenantId = some tenant ∧ tenant.status = .error

/-- A failed approval is undone exactly if it does not get to its commit, or the broker takes
messages. -/
theorem undone_iff (db : Db) (locks : Locks) (calls : Calls) (tenantId : ℕ) :
    Undone db locks calls tenantId ↔
      (Commits db locks calls.createBridge tenantId → calls.delay = .ok ()) := by
  rcases approveTenant_cases db locks calls tenantId with
    ⟨hfails, e, t, hrun, hcommitted⟩ | ⟨tenant, message, db', hget, hcommits, happrove, hrun⟩
  · refine iff_of_true ?_ fun hcommits => absurd hcommits hfails
    intro e' t' h
    cases hrun.symm.trans h
    exact hcommitted
  · cases hdelay : calls.delay with
    | ok => exact iff_of_true (fun e t h => by rw [hrun, hdelay] at h; cases h) fun _ => rfl
    | error e =>
      refine iff_of_false ?_ fun h => nomatch h hcommits
      intro hundone
      -- What is committed differs from the state before at the status of the tenant.
      have hsame : db' = db := hundone e (Session.start db') (by rw [hrun, hdelay]; rfl)
      obtain ⟨approved, happroved, hprovisioning⟩ := status_approveTenant hget happrove
      rw [hsame, hget] at happroved
      cases happroved
      obtain ⟨_, hget', happrovable, -⟩ := hcommits
      cases hget.symm.trans hget'
      exact absurd happrovable.status (by rw [hprovisioning]; decide)

/-- The admin endpoint leaves nothing behind when it raises under that condition: its session is
closed. -/
theorem committed_approveEndpoint {db : Db} {locks : Locks} {calls : Calls} {tenantId : ℕ}
    (hdelay : Commits db locks calls.createBridge tenantId → calls.delay = .ok ()) {e : ApiError}
    {t : Session Db}
    (h : (approveEndpoint locks calls tenantId).runOn (Session.start db) = (.error e, t)) :
    t.rollback.committed = db := by
  unfold approveEndpoint at h
  rw [runOn_query_bind, Session.committed_start] at h
  cases hget : db.tenants.get? tenantId with
  | none =>
    rw [hget] at h
    cases h
    rfl
  | some tenant =>
    rw [hget, Except.ofOption, runOn_call_bind_ok] at h
    cases hcheck : adminApproveCheck tenant with
    | error e =>
      rw [hcheck] at h
      cases h
      rfl
    | ok =>
      rw [hcheck, runOn_call_bind_ok] at h
      exact (undone_iff db locks calls tenantId).mpr hdelay e t h

/-- The database in which `verify_tenant` approves a tenant. -/
def verifiedDb (db : Db) (tenantId : ℕ) (tenant : Tenant) : Db :=
  if tenant.status = .error then resetTenant db tenantId tenant else db

/-- A verification approves a tenant that is not in error status. -/
theorem status_verifiedDb {db : Db} {tenantId : ℕ} {tenant : Tenant}
    (hget : db.tenants.get? tenantId = some tenant) :
    ∃ ready, (verifiedDb db tenantId tenant).tenants.get? tenantId = some ready ∧
      ready.status ≠ .error := by
  unfold verifiedDb
  split
  case isTrue herror =>
    refine ⟨.reset tenant tenant, ?_, ?_⟩
    · show (db.tenants.modify tenantId _).get? tenantId = _
      rw [Serial.get?_modify, if_pos rfl, hget, Option.map_some]
    · show writeColumn (some tenant) (·.status) .pendingApproval tenant.status ≠ .error
      rw [writeColumn_of_ne (by rw [herror]; decide)]
      decide
  case isFalse hstatus => exact ⟨tenant, hget, hstatus⟩

/-- The checks of `verify_tenant`. -/
structure Verifiable (db : Db) (isSuperAdmin : Bool) (tenantId : ℕ) (tenant : Tenant) : Prop where
  /-- Only a super admin verifies. -/
  superAdmin : isSuperAdmin = true
  /-- The tenant exists. -/
  get : db.tenants.get? tenantId = some tenant
  /-- The tenant is not verified yet. -/
  unverified : tenant.isVerified = false

/-- A verification that returns has passed its checks. -/
theorem verifiable_of_runOn {db : Db} {isSuperAdmin : Bool} {locks : Locks} {calls : Calls}
    {tenantId : ℕ} {provisioningError : Option ApiError} {t : Session Db}
    (h : (verifyTenant isSuperAdmin locks calls tenantId).runOn (Session.start db) =
      (.ok provisioningError, t)) :
    ∃ tenant, Verifiable db isSuperAdmin tenantId tenant := by
  unfold verifyTenant at h
  by_cases hadmin : isSuperAdmin = true
  case neg =>
    rw [Except.require, if_neg hadmin] at h
    cases h
  cases hget : db.tenants.get? tenantId with
  | none =>
    rw [Except.require, if_pos hadmin, runOn_call_bind_ok, runOn_query_bind,
      Session.committed_start, hget] at h
    cases h
  | some tenant =>
    by_cases hverified : tenant.isVerified = false
    case neg =>
      rw [Except.require, if_pos hadmin, runOn_call_bind_ok, runOn_query_bind,
        Session.committed_start, hget, Except.ofOption, runOn_call_bind_ok, verifyCheck,
        Except.require, if_neg hverified] at h
      cases h
    exact ⟨tenant, hadmin, hget, hverified⟩

/-- A verification that passes its checks approves the tenant and reports the error, if there is
one. The status that it sets then is rolled back with the rest of the session. -/
theorem verifyTenant_runOn {db : Db} {isSuperAdmin : Bool} {tenantId : ℕ} {tenant : Tenant}
    (h : Verifiable db isSuperAdmin tenantId tenant) (locks : Locks) (calls : Calls) :
    (verifyTenant isSuperAdmin locks calls tenantId).runOn (Session.start db) =
      match (approveTenant locks calls tenantId).runOn
        (Session.start (verifiedDb db tenantId tenant)) with
      | (.ok _, t) => (.ok none, (t.write (ProxmoxIaas.verifyTenant · tenantId)).commit)
      | (.error e, t) => (.ok (some e), t.rollback) := by
  have happroved : ∀ s : Session Db, (tryCatch
      (do
        let _ ← approveTenant locks calls tenantId
        write (ProxmoxIaas.verifyTenant · tenantId)
        return none)
      (fun e => do
        write fun db : Db => { db with
          tenants := db.tenants.modify tenantId fun tenant => { tenant with status := .error } }
        rollback
        return some e) >>= fun provisioningError => do
          commit
          return provisioningError : Transaction ApiError Db (Option ApiError)).runOn s =
      match (approveTenant locks calls tenantId).runOn s with
      | (.ok _, t) => (.ok none, (t.write (ProxmoxIaas.verifyTenant · tenantId)).commit)
      | (.error e, t) => (.ok (some e), t.rollback) := by
    intro s
    rw [runOn_bind, runOn_tryCatch, runOn_bind]
    cases (approveTenant locks calls tenantId).runOn s with
    | mk x t => cases x <;> rfl
  unfold verifyTenant
  rw [Except.require, if_pos h.superAdmin, runOn_call_bind_ok, runOn_query_bind,
    Session.committed_start, h.get, Except.ofOption, runOn_call_bind_ok, verifyCheck,
    Except.require, if_pos h.unverified, runOn_call_bind_ok]
  unfold verifiedDb
  by_cases herror : tenant.status = .error
  · simp only [if_pos herror]
    exact happroved _
  · simp only [if_neg herror]
    exact happroved _

/-- The error status is never committed: it is, if the approval fails, exactly when the approval
does not fail. -/
theorem errorCommitted_iff (db : Db) (isSuperAdmin : Bool) (locks : Locks) (calls : Calls)
    (tenantId : ℕ) :
    ErrorCommitted db isSuperAdmin locks calls tenantId ↔
      ∀ tenant, Verifiable db isSuperAdmin tenantId tenant →
        Commits (verifiedDb db tenantId tenant) locks calls.createBridge tenantId ∧
          calls.delay = .ok () := by
  constructor
  · intro hcommitted tenant hverifiable
    obtain ⟨ready, hready, hnoError⟩ := status_verifiedDb hverifiable.get
    have hrun := verifyTenant_runOn hverifiable locks calls
    rcases approveTenant_cases (verifiedDb db tenantId tenant) locks calls tenantId with
      ⟨-, e, t, happrove, hkept⟩ | ⟨loaded, message, db', hget, hcommits, happrove, happroved⟩
    · -- The tenant is as the approval found it.
      rw [happrove] at hrun
      obtain ⟨stored, hstored, herror⟩ := hcommitted e _ hrun
      rw [show t.rollback.committed = t.committed from rfl, hkept, hready] at hstored
      cases hstored
      exact absurd herror hnoError
    · cases hdelay : calls.delay with
      | ok => exact ⟨hcommits, rfl⟩
      | error e =>
        -- The tenant is as the approval has committed it.
        rw [happroved, hdelay] at hrun
        obtain ⟨stored, hstored, herror⟩ := hcommitted e _ hrun
        obtain ⟨approved, happroved, hprovisioning⟩ := status_approveTenant hget happrove
        cases hstored.symm.trans happroved
        exact absurd (hprovisioning.symm.trans herror) (by decide)
  · intro hsucceeds e t hrun
    obtain ⟨tenant, hverifiable⟩ := verifiable_of_runOn hrun
    obtain ⟨hcommits, hdelay⟩ := hsucceeds tenant hverifiable
    rcases approveTenant_cases (verifiedDb db tenantId tenant) locks calls tenantId with
      ⟨hfails, -⟩ | ⟨_, message, db', -, -, -, happroved⟩
    · exact absurd hcommits hfails
    · rw [verifyTenant_runOn hverifiable locks calls, happroved, hdelay] at hrun
      cases hrun

/-- A failed approval is undone, and a failed verification leaves the tenant in error status,
exactly under two conditions. The broker takes the message of an approval that gets to its commit,
because the dispatch follows the commit; and the approval of a verification does not fail, because
the error status is rolled back. -/
theorem failedApproval_iff (db : Db) (isSuperAdmin : Bool) (locks : Locks) (calls : Calls)
    (tenantId : ℕ) :
    (Undone db locks calls tenantId ↔
      (Commits db locks calls.createBridge tenantId → calls.delay = .ok ())) ∧
    (ErrorCommitted db isSuperAdmin locks calls tenantId ↔
      ∀ tenant, Verifiable db isSuperAdmin tenantId tenant →
        Commits (verifiedDb db tenantId tenant) locks calls.createBridge tenantId ∧
          calls.delay = .ok ()) :=
  ⟨undone_iff db locks calls tenantId, errorCommitted_iff db isSuperAdmin locks calls tenantId⟩

/-- A tenant that waits for its approval. -/
def waitingTenant : Tenant where
  status := .pendingApproval
  isVerified := false
  bridgeId := none
  podId := none
  opnsenseVmId := none
  opnsenseVmName := none
  lanIp := none
  wanIp := none
  opnsenseApiKey := none
  opnsenseApiSecret := none
  error := none

/-- One waiting tenant, one pod with room, one bridge and one subnet. -/
def waitingDb : Db where
  tenants := Serial.empty.add waitingTenant
  pods := Serial.empty.add { status := .active, maxTenants := 100, tenantCount := 0 }
  bridgePool := Table.append ∅ 100 { status := .available, tenantId := none }
  globalIpPool := Serial.empty.add
    { cidr := "172.16.0.0/24", gatewayIp := "172.16.0.1", pool := .safe, status := .free,
      tenantNetworkId := none }
  vlanAllocations := ∅
  tenantNetworks := Serial.empty

/-- The broker refuses the message. -/
def refusedDispatch : Calls where
  createBridge := .ok ()
  delay := .error (.http 500 "Failed to approve tenant: connection refused")

/-- With a broker that refuses the message, the approval raises after its commit, and the
verification of the tenant leaves it in provisioning status. -/
theorem not_failedApproval :
    ¬ Undone waitingDb .none refusedDispatch 1 ∧
    ¬ ErrorCommitted waitingDb true .none refusedDispatch 1 := by
  have hcommits : Commits waitingDb .none refusedDispatch.createBridge 1 :=
    ⟨waitingTenant, by decide, ⟨by decide, by decide, by decide, ⟨100, _, by decide, rfl⟩,
      by decide⟩, rfl⟩
  have hundone : ¬ Undone waitingDb .none refusedDispatch 1 := fun h =>
    nomatch (undone_iff _ _ _ _).mp h hcommits
  have hrecorded : ¬ ErrorCommitted waitingDb true .none refusedDispatch 1 := fun h =>
    nomatch ((errorCommitted_iff _ _ _ _ _).mp h waitingTenant ⟨rfl, by decide, rfl⟩).2
  exact ⟨hundone, hrecorded⟩

end ProxmoxIaas.Approvals
