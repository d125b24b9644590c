import ProxmoxIaas.Foundation.Machine
import ProxmoxIaas.Provisioning.Approval

/-!
# The Provisioning System

All requests and tasks that write the provisioning tables, interleaved at the granularity of
commits. A request that reads a row, checks it and writes later is open in between; a task
run is in flight between two of its commits. Tasks are acknowledged late, so a dispatched
message stays in the queue and can be delivered again at any time.

The creation and deletion of a network are single steps. The approval of a tenant is split
into the load of the tenant and the commit, and the release of a bridge by hand likewise.
-/

namespace ProxmoxIaas.Provisioning

/-- Who asks for the approval of a tenant. -/
inductive ApprovalRequest where
  /-- The admin endpoint. -/
  | admin
  /-- `verify_tenant`. -/
  | verify
  deriving DecidableEq, Repr

/-- An open approval request. -/
structure Approval where
  /-- Who asks. -/
  request : ApprovalRequest
  /-- The tenant to approve. -/
  tenantId : ℕ
  /-- The tenant as the session has loaded it; a commit expires it. -/
  tenant : Option Tenant
  /-- Whether the approval has been committed and dispatched. -/
  approved : Bool
  deriving DecidableEq, Repr

/-- An open request to release a bridge by hand. -/
structure BridgeRelease where
  /-- The bridge to release. -/
  bridgeId : ℕ
  /-- The bridge as the session has loaded it. -/
  bridge : BridgePool
  /-- The tenant of the bridge as the session has loaded it. -/
  tenant : Option Tenant
  deriving DecidableEq, Repr

/-- The committed database, the open requests, and the tasks. -/
structure State where
  /-- The committed database. -/
  db : Db
  /-- Open approval requests. -/
  approvals : Table ℕ Approval
  /-- Open requests to release a bridge. -/
  releases : Table ℕ BridgeRelease
  /-- Runs of `create_opnsense_vlan` in flight. -/
  vlanRuns : Table ℕ VlanRun
  /-- Dispatched messages of `provision_tenant_task`. -/
  messages : List ProvisionMessage
  /-- Runs of `provision_tenant_task` in flight. -/
  provisionRuns : Table ℕ ProvisionRun

/-- A row of a table whose queries have no complete order. -/
inductive StoredRow where
  | pod (id : ℕ)
  | bridge (id : ℕ)
  | subnet (id : ℕ)
  | vlan (key : ℕ × ℕ)
  | network (id : ℕ)
  deriving DecidableEq, Repr

/-- Move a row to the front of the storage order of its table. -/
def reorder (db : Db) : StoredRow → Db
  | .pod id => { db with pods := db.pods.toFront id }
  | .bridge id => { db with bridgePool := db.bridgePool.toFront id }
  | .subnet id => { db with globalIpPool := db.globalIpPool.toFront id }
  | .vlan key => { db with vlanAllocations := db.vlanAllocations.toFront key }
  | .network id => { db with tenantNetworks := db.tenantNetworks.toFront id }

/-- The steps of the system. Requests and runs are named by a number of the caller's
choice. -/
inductive Event where
  /-- A request loads the tenant it will approve. -/
  | openApproval (call : ℕ) (request : ApprovalRequest) (tenantId : ℕ)
  /-- `verify_tenant` resets a tenant in error status. -/
  | resetTenant (call : ℕ)
  /-- The session loads the tenant again after the reset. -/
  | reloadTenant (call : ℕ)
  /-- The approval is committed; `dispatched` tells whether the broker took the message. -/
  | approveTenant (call : ℕ) (locks : Locks) (bridgeCreation : Except String Unit)
      (dispatched : Bool)
  /-- `verify_tenant` commits that the tenant is verified. -/
  | verifyTenant (call : ℕ)
  /-- A super admin's request loads the bridge it will release. -/
  | openRelease (call bridgeId : ℕ)
  /-- The release is committed. -/
  | releaseBridge (call : ℕ)
  /-- `create_network`. -/
  | createNetwork (locks : Locks) (tenantId : ℕ) (name : String)
  /-- `delete_network`. -/
  | deleteNetwork (tenantId networkId : ℕ)
  /-- The lookup session of a first, retried or redelivered `create_opnsense_vlan`. -/
  | lookUpVlan (run : ℕ) (arguments : VlanArguments)
  /-- The run marks its network as provisioning. -/
  | markVlan (run : ℕ)
  /-- The run has completed its steps. -/
  | finishVlan (run : ℕ) (optName : String)
  /-- The run takes its error path. -/
  | failVlan (run : ℕ)
  /-- A message of `provision_tenant_task` is delivered. -/
  | beginProvision (run index : ℕ)
  /-- A run of `provision_tenant_task` takes a step. -/
  | stepProvision (run : ℕ) (step : ProvisionStep)
  /-- `destroy_tenant_task`, which only dispatches itself again. -/
  | destroyTenant (tenantId : ℕ)
  /-- The storage order of a table changes. -/
  | reorder (row : StoredRow)

/-- Load the tenant for an approval request that passes the request's own check. -/
def openApproval (s : State) (call : ℕ) (request : ApprovalRequest) (tenantId : ℕ) : State :=
  match s.db.tenants.get? tenantId with
  | none => s
  | some tenant =>
    let check := match request with
      | .admin => adminApproveCheck tenant
      | .verify => verifyCheck tenant
    match check with
    | .error _ => s
    | .ok _ => { s with
        approvals := s.approvals.insert call
          { request, tenantId, tenant := some tenant, approved := false } }

/-- Reset the tenant of a `verify_tenant` request that had loaded it in error status. -/
def resetStep (s : State) (call : ℕ) : State :=
  match s.approvals.get? call with
  | some { request := .verify, tenantId, tenant := some tenant, approved := false } =>
    if tenant.status = .error then
      { s with
        db := resetTenant s.db tenantId tenant
        approvals := s.approvals.modify call fun approval => { approval with tenant := none } }
    else s
  | _ => s

/-- Load the tenant of a request whose session a commit has expired. -/
def reloadStep (s : State) (call : ℕ) : State :=
  match s.approvals.get? call with
  | some { tenantId, tenant := none, approved := false, .. } =>
    { s with
      approvals := s.approvals.modify call fun approval =>
        { approval with tenant := s.db.tenants.get? tenantId } }
  | _ => s

/-- Commit an approval; a request whose approval raises ends without a trace. -/
def approveStep (s : State) (call : ℕ) (locks : Locks) (bridgeCreation : Except String Unit)
    (dispatched : Bool) : State :=
  match s.approvals.get? call with
  | some { tenantId, tenant := some tenant, approved := false, .. } =>
    match ProxmoxIaas.approveTenant s.db locks tenantId tenant bridgeCreation with
    | .error _ => { s with approvals := s.approvals.erase call }
    | .ok (message, db) =>
      { s with
        db
        approvals := s.approvals.modify call fun approval =>
          { approval with tenant := none, approved := dispatched }
        messages := if dispatched then s.messages ++ [message] else s.messages }
  | _ => s

/-- Commit that the tenant of an approved `verify_tenant` request is verified. -/
def verifyStep (s : State) (call : ℕ) : State :=
  match s.approvals.get? call with
  | some { request := .verify, tenantId, approved := true, .. } =>
    { s with db := ProxmoxIaas.verifyTenant s.db tenantId, approvals := s.approvals.erase call }
  | _ => s

/-- Load a bridge and its tenant for a release by hand. -/
def openRelease (s : State) (call bridgeId : ℕ) : State :=
  match releaseBridgeCheck s.db bridgeId with
  | .error _ => s
  | .ok bridge => { s with
      releases := s.releases.insert call
        { bridgeId, bridge, tenant := (truthy bridge.tenantId).bind s.db.tenants.get? } }

/-- Commit a release by hand. -/
def releaseStep (s : State) (call : ℕ) : State :=
  match s.releases.get? call with
  | some { bridgeId, bridge, tenant } =>
    { s with
      db := ProxmoxIaas.releaseBridge s.db bridgeId bridge tenant
      releases := s.releases.erase call }
  | none => s

/-- A request that raises leaves the database as it was. -/
def createNetworkStep (s : State) (locks : Locks) (tenantId : ℕ) (name : String) : State :=
  match ProxmoxIaas.createNetwork s.db locks tenantId name with
  | .error _ => s
  | .ok (_, db) => { s with db }

/-- A request that raises leaves the database as it was. -/
def deleteNetworkStep (s : State) (tenantId networkId : ℕ) : State :=
  match ProxmoxIaas.deleteNetwork s.db tenantId networkId with
  | .error _ => s
  | .ok db => { s with db }

/-- The second session of a run whose lookup passed its checks. -/
def markStep (s : State) (run : ℕ) : State :=
  match s.vlanRuns.get? run with
  | some vlanRun =>
    if vlanRun.phase = .looked then
      { s with
        db := vlanMark s.db vlanRun
        vlanRuns := s.vlanRuns.modify run fun vlanRun =>
          { vlanRun with phase := .provisioning } }
    else s
  | none => s

/-- The last session of a run that completed its steps. -/
def finishStep (s : State) (run : ℕ) (optName : String) : State :=
  match s.vlanRuns.get? run with
  | some vlanRun =>
    if vlanRun.phase = .provisioning then
      { s with db := vlanFinish s.db vlanRun optName, vlanRuns := s.vlanRuns.erase run }
    else s
  | none => s

/-- The error path of a run, which can be taken from anywhere in it. -/
def failStep (s : State) (run : ℕ) : State :=
  match s.vlanRuns.get? run with
  | some vlanRun => { s with db := vlanFail s.db vlanRun, vlanRuns := s.vlanRuns.erase run }
  | none => s

/-- Deliver a dispatched message of the provisioning task. -/
def beginStep (s : State) (run index : ℕ) : State :=
  match s.messages[index]?.bind (ProxmoxIaas.beginProvision s.db) with
  | some provisionRun => { s with provisionRuns := s.provisionRuns.insert run provisionRun }
  | none => s

/-- A run of the provisioning task takes a step on its tenant. -/
def provisionStep (s : State) (run : ℕ) (step : ProvisionStep) : State :=
  match s.provisionRuns.get? run with
  | none => s
  | some provisionRun =>
    match s.db.tenants.get? provisionRun.message.tenantId with
    | none => s
    | some stored =>
      let (tenant, next) := provisionRun.step stored step
      { s with
        db := { s.db with
          tenants := s.db.tenants.modify provisionRun.message.tenantId fun _ => tenant }
        provisionRuns := match next with
          | some provisionRun => s.provisionRuns.modify run fun _ => provisionRun
          | none => s.provisionRuns.erase run }

/-- The state after a step. -/
def step (s : State) : Event → State
  | .openApproval call request tenantId => openApproval s call request tenantId
  | .resetTenant call => resetStep s call
  | .reloadTenant call => reloadStep s call
  | .approveTenant call locks bridgeCreation dispatched =>
    approveStep s call locks bridgeCreation dispatched
  | .verifyTenant call => verifyStep s call
  | .openRelease call bridgeId => openRelease s call bridgeId
  | .releaseBridge call => releaseStep s call
  | .createNetwork locks tenantId name => createNetworkStep s locks tenantId name
  | .deleteNetwork tenantId networkId => deleteNetworkStep s tenantId networkId
  | .lookUpVlan run arguments =>
    { s with vlanRuns := s.vlanRuns.insert run (vlanLookup s.db arguments) }
  | .markVlan run => markStep s run
  | .finishVlan run optName => finishStep s run optName
  | .failVlan run => failStep s run
  | .beginProvision run index => beginStep s run index
  | .stepProvision run step => provisionStep s run step
  | .destroyTenant _ => s
  | .reorder row => { s with db := reorder s.db row }

/-- Loading a tenant for an approval does not write. -/
@[simp]
theorem openApproval_db (s : State) (call : ℕ) (request : ApprovalRequest) (tenantId : ℕ) :
    (openApproval s call request tenantId).db = s.db := by
  unfold openApproval
  split
  · rfl
  · dsimp only
    split <;> rfl

/-- Loading a tenant again does not write. -/
@[simp]
theorem reloadStep_db (s : State) (call : ℕ) : (reloadStep s call).db = s.db := by
  unfold reloadStep
  split <;> rfl

/-- Loading a bridge does not write. -/
@[simp]
theorem openRelease_db (s : State) (call bridgeId : ℕ) :
    (openRelease s call bridgeId).db = s.db := by
  unfold openRelease
  split <;> rfl

/-- The start of a provisioning run does not write. -/
@[simp]
theorem beginStep_db (s : State) (run index : ℕ) : (beginStep s run index).db = s.db := by
  unfold beginStep
  split <;> rfl

/-- A reset writes only for an open `verify_tenant` request that loaded its tenant in error
status. -/
theorem resetStep_db (s : State) (call : ℕ) : (resetStep s call).db = s.db ∨
    ∃ tenantId tenant, s.approvals.get? call = some ⟨.verify, tenantId, some tenant, false⟩ ∧
      tenant.status = .error ∧ (resetStep s call).db = resetTenant s.db tenantId tenant := by
  unfold resetStep
  split
  case h_1 tenantId tenant hcall =>
    split
    case isTrue herror => exact Or.inr ⟨tenantId, tenant, hcall, herror, rfl⟩
    case isFalse => exact Or.inl rfl
  case h_2 => exact Or.inl rfl

/-- An approval writes only if `approve_tenant` does not raise. -/
theorem approveStep_db (s : State) (call : ℕ) (locks : Locks)
    (bridgeCreation : Except String Unit) (dispatched : Bool) :
    (approveStep s call locks bridgeCreation dispatched).db = s.db ∨
    ∃ request tenantId tenant message db,
      s.approvals.get? call = some ⟨request, tenantId, some tenant, false⟩ ∧
      approveTenant s.db locks tenantId tenant bridgeCreation = .ok (message, db) ∧
      (approveStep s call locks bridgeCreation dispatched).db = db := by
  unfold approveStep
  split
  case h_1 request tenantId tenant hcall =>
    split
    case h_1 => exact Or.inl rfl
    case h_2 message db hok => exact Or.inr ⟨_, _, _, message, db, hcall, hok, rfl⟩
  case h_2 => exact Or.inl rfl

/-- The last commit of `verify_tenant` marks a tenant as verified. -/
theorem verifyStep_db (s : State) (call : ℕ) : (verifyStep s call).db = s.db ∨
    ∃ tenantId, (verifyStep s call).db = verifyTenant s.db tenantId := by
  unfold verifyStep
  split
  case h_1 tenantId _ _ => exact Or.inr ⟨tenantId, rfl⟩
  case h_2 => exact Or.inl rfl

/-- A release by hand writes for the bridge and the tenant that its request had loaded. -/
theorem releaseStep_db (s : State) (call : ℕ) : (releaseStep s call).db = s.db ∨
    ∃ bridgeId bridge tenant, s.releases.get? call = some ⟨bridgeId, bridge, tenant⟩ ∧
      (releaseStep s call).db = releaseBridge s.db bridgeId bridge tenant := by
  unfold releaseStep
  split
  case h_1 bridgeId bridge tenant hcall => exact Or.inr ⟨bridgeId, bridge, tenant, hcall, rfl⟩
  case h_2 => exact Or.inl rfl

/-- `create_network` writes only if it does not raise. -/
theorem createNetworkStep_db (s : State) (locks : Locks) (tenantId : ℕ) (name : String) :
    (createNetworkStep s locks tenantId name).db = s.db ∨
    ∃ message db, createNetwork s.db locks tenantId name = .ok (message, db) ∧
      (createNetworkStep s locks tenantId name).db = db := by
  unfold createNetworkStep
  split
  case h_1 => exact Or.inl rfl
  case h_2 message db hok => exact Or.inr ⟨message, db, hok, rfl⟩

/-- `delete_network` writes only if it does not raise. -/
theorem deleteNetworkStep_db (s : State) (tenantId networkId : ℕ) :
    (deleteNetworkStep s tenantId networkId).db = s.db ∨
    ∃ db, deleteNetwork s.db tenantId networkId = .ok db ∧
      (deleteNetworkStep s tenantId networkId).db = db := by
  unfold deleteNetworkStep
  split
  case h_1 => exact Or.inl rfl
  case h_2 db hok => exact Or.inr ⟨db, hok, rfl⟩

/-- A run marks its network only after a lookup that passed its checks. -/
theorem markStep_db (s : State) (run : ℕ) : (markStep s run).db = s.db ∨
    ∃ vlanRun, s.vlanRuns.get? run = some vlanRun ∧ vlanRun.phase = .looked ∧
      (markStep s run).db = vlanMark s.db vlanRun := by
  unfold markStep
  split
  case h_1 vlanRun hrun =>
    split
    case isTrue hphase => exact Or.inr ⟨vlanRun, hrun, hphase, rfl⟩
    case isFalse => exact Or.inl rfl
  case h_2 => exact Or.inl rfl

/-- A run reports its completion only after it marked its network. -/
theorem finishStep_db (s : State) (run : ℕ) (optName : String) :
    (finishStep s run optName).db = s.db ∨
    ∃ vlanRun, s.vlanRuns.get? run = some vlanRun ∧ vlanRun.phase = .provisioning ∧
      (finishStep s run optName).db = vlanFinish s.db vlanRun optName := by
  unfold finishStep
  split
  case h_1 vlanRun hrun =>
    split
    case isTrue hphase => exact Or.inr ⟨vlanRun, hrun, hphase, rfl⟩
    case isFalse => exact Or.inl rfl
  case h_2 => exact Or.inl rfl

/-- The error path of a run in flight. -/
theorem failStep_db (s : State) (run : ℕ) : (failStep s run).db = s.db ∨
    ∃ vlanRun, s.vlanRuns.get? run = some vlanRun ∧
      (failStep s run).db = vlanFail s.db vlanRun := by
  unfold failStep
  split
  case h_1 vlanRun hrun => exact Or.inr ⟨vlanRun, hrun, rfl⟩
  case h_2 => exact Or.inl rfl

/-- A provisioning run writes its own tenant only. -/
theorem provisionStep_db (s : State) (run : ℕ) (step : ProvisionStep) :
    (provisionStep s run step).db = s.db ∨
    ∃ provisionRun stored, s.provisionRuns.get? run = some provisionRun ∧
      s.db.tenants.get? provisionRun.message.tenantId = some stored ∧
      (provisionStep s run step).db = { s.db with
        tenants := s.db.tenants.modify provisionRun.message.tenantId fun _ =>
          (provisionRun.step stored step).1 } := by
  unfold provisionStep
  split
  case h_1 => exact Or.inl rfl
  case h_2 provisionRun hrun =>
    split
    case h_1 => exact Or.inl rfl
    case h_2 stored hstored => exact Or.inr ⟨provisionRun, stored, hrun, hstored, rfl⟩

/-- No step changes the owner or the VLAN tag of a network, or deletes its row. -/
theorem network_persists (s : State) (e : Event) {id : ℕ} {network : TenantNetwork}
    (hget : s.db.tenantNetworks.get? id = some network) :
    ∃ network', (step s e).db.tenantNetworks.get? id = some network' ∧
      network'.tenantId = network.tenantId ∧ network'.vlanId = network.vlanId := by
  -- Rewriting a row without touching the two columns, and inserting a row, both keep them.
  have hmodify : ∀ (id' : ℕ) (f : TenantNetwork → TenantNetwork),
      (∀ network, (f network).tenantId = network.tenantId ∧ (f network).vlanId = network.vlanId) →
      ∃ network', (s.db.tenantNetworks.modify id' f).get? id = some network' ∧
        network'.tenantId = network.tenantId ∧ network'.vlanId = network.vlanId := by
    intro id' f hf
    rw [Serial.get?_modify, hget]
    split
    · exact ⟨_, rfl, hf network⟩
    · exact ⟨_, rfl, rfl, rfl⟩
  have hadd : ∀ added, (s.db.tenantNetworks.add added).get? id = some network := by
    intro added
    rw [Serial.get?_add, if_neg (Nat.ne_of_lt (Serial.bound_of_get? hget).2), hget]
  have hsame : ∀ db : Db, db.tenantNetworks.get? id = s.db.tenantNetworks.get? id →
      ∃ network', db.tenantNetworks.get? id = some network' ∧
        network'.tenantId = network.tenantId ∧ network'.vlanId = network.vlanId := by
    intro db hdb
    exact ⟨network, by rw [hdb, hget], rfl, rfl⟩
  cases e with
  | openApproval call request tenantId =>
    rw [step, openApproval_db]
    exact hsame _ rfl
  | reloadTenant call =>
    rw [step, reloadStep_db]
    exact hsame _ rfl
  | openRelease call bridgeId =>
    rw [step, openRelease_db]
    exact hsame _ rfl
  | beginProvision run index =>
    rw [step, beginStep_db]
    exact hsame _ rfl
  | lookUpVlan => exact hsame _ rfl
  | destroyTenant => exact hsame _ rfl
  | resetTenant call =>
    rcases resetStep_db s call with heq | ⟨_, _, -, -, heq⟩ <;> rw [step, heq] <;>
      exact hsame _ rfl
  | verifyTenant call =>
    rcases verifyStep_db s call with heq | ⟨_, heq⟩ <;> rw [step, heq] <;> exact hsame _ rfl
  | releaseBridge call =>
    rcases releaseStep_db s call with heq | ⟨_, _, _, -, heq⟩ <;> rw [step, heq] <;>
      exact hsame _ rfl
  | stepProvision run step =>
    rcases provisionStep_db s run step with heq | ⟨_, _, -, -, heq⟩ <;>
      rw [Provisioning.step, heq] <;> exact hsame _ rfl
  | approveTenant call locks bridgeCreation dispatched =>
    rcases approveStep_db s call locks bridgeCreation dispatched with
      heq | ⟨_, _, _, _, _, -, happrove, heq⟩
    · rw [step, heq]
      exact hsame _ rfl
    · obtain ⟨_, _, _, _, _, -, -, -, -, -, -, -, -, rfl⟩ := approveTenant_eq_ok happrove
      rw [step, heq]
      exact ⟨network, hadd _, rfl, rfl⟩
  | createNetwork locks tenantId name =>
    rcases createNetworkStep_db s locks tenantId name with heq | ⟨_, _, hcreate, heq⟩
    · rw [step, heq]
      exact hsame _ rfl
    · obtain ⟨_, _, _, _, _, _, -, -, -, -, rfl⟩ := createNetwork_eq_ok hcreate
      rw [step, heq]
      exact ⟨network, hadd _, rfl, rfl⟩
  | deleteNetwork tenantId networkId =>
    rcases deleteNetworkStep_db s tenantId networkId with heq | ⟨_, hdelete, heq⟩
    · rw [step, heq]
      exact hsame _ rfl
    · obtain ⟨_, -, -, -, rfl⟩ := deleteNetwork_eq_ok hdelete
      rw [step, heq]
      exact hmodify _ _ fun _ => ⟨rfl, rfl⟩
  | markVlan run =>
    rcases markStep_db s run with heq | ⟨vlanRun, -, -, heq⟩
    · rw [step, heq]
      exact hsame _ rfl
    · rw [step, heq, vlanMark]
      split
      · exact hmodify _ _ fun _ => ⟨rfl, rfl⟩
      · exact hsame _ rfl
  | finishVlan run optName =>
    rcases finishStep_db s run optName with heq | ⟨vlanRun, -, -, heq⟩
    · rw [step, heq]
      exact hsame _ rfl
    · rw [step, heq]
      exact hmodify _ _ fun _ => ⟨rfl, rfl⟩
  | failVlan run =>
    rcases failStep_db s run with heq | ⟨vlanRun, -, heq⟩
    · rw [step, heq]
      exact hsame _ rfl
    · rw [step, heq, vlanFail]
      split
      · exact hmodify _ _ fun _ => ⟨rfl, rfl⟩
      · exact hsame _ rfl
  | reorder row =>
    cases row with
    | network id' => exact hsame _ (Serial.get?_toFront ..)
    | _ => exact hsame _ rfl

/-- How a step rewrites the row of a tenant. -/
inductive TenantWrite (s : State) : Event → ℕ → Tenant → Tenant → Prop where
  /-- All other steps leave it as it is. -/
  | same (e : Event) (id : ℕ) (tenant : Tenant) : TenantWrite s e id tenant tenant
  | reset {call id : ℕ} {loaded : Tenant}
      (hcall : s.approvals.get? call = some ⟨.verify, id, some loaded, false⟩)
      (tenant : Tenant) : TenantWrite s (.resetTenant call) id tenant (.reset loaded tenant)
  | verify (call id : ℕ) (tenant : Tenant) :
      TenantWrite s (.verifyTenant call) id tenant { tenant with isVerified := true }
  | approve {call id : ℕ} {locks : Locks} {bridgeCreation : Except String Unit}
      {dispatched : Bool} {request : ApprovalRequest} {loaded : Tenant}
      {message : ProvisionMessage} {db : Db}
      (hcall : s.approvals.get? call = some ⟨request, id, some loaded, false⟩)
      (happrove : approveTenant s.db locks id loaded bridgeCreation = .ok (message, db))
      (tenant : Tenant) :
      TenantWrite s (.approveTenant call locks bridgeCreation dispatched) id tenant
        (.approve id message.podId message.bridgeId message.gatewayIp loaded tenant)
  | release {call bridgeId id : ℕ} {bridge : BridgePool} {loaded : Tenant}
      (hcall : s.releases.get? call = some ⟨bridgeId, bridge, some loaded⟩)
      (tenant : Tenant) :
      TenantWrite s (.releaseBridge call) id tenant (.loseBridge loaded tenant)
  | provision {run : ℕ} {provisionRun : ProvisionRun}
      (hrun : s.provisionRuns.get? run = some provisionRun) (step : ProvisionStep)
      {tenant : Tenant} (hget : s.db.tenants.get? provisionRun.message.tenantId = some tenant) :
      TenantWrite s (.stepProvision run step) provisionRun.message.tenantId tenant
        (provisionRun.step tenant step).1

/-- Every row of a tenant was there before a step, and was rewritten in one of these ways. -/
theorem tenantWrite_step {s : State} {e : Event} {id : ℕ} {tenant' : Tenant}
    (h : (step s e).db.tenants.get? id = some tenant') :
    ∃ tenant, s.db.tenants.get? id = some tenant ∧ TenantWrite s e id tenant tenant' := by
  have hsame : ∀ {db : Db}, (step s e).db = db → db.tenants = s.db.tenants →
      ∃ tenant, s.db.tenants.get? id = some tenant ∧ TenantWrite s e id tenant tenant' := by
    intro db hdb htenants
    rw [hdb, htenants] at h
    exact ⟨tenant', h, .same ..⟩
  -- a step that writes one tenant rewrites this one or leaves it alone
  have hmodify : ∀ {tenantId : ℕ} {f : Tenant → Tenant} {db : Db}, (step s e).db = db →
      db.tenants = s.db.tenants.modify tenantId f →
      (∀ tenant, s.db.tenants.get? tenantId = some tenant →
        TenantWrite s e tenantId tenant (f tenant)) →
      ∃ tenant, s.db.tenants.get? id = some tenant ∧ TenantWrite s e id tenant tenant' := by
    intro tenantId f db hdb htenants hwrite
    rw [hdb, htenants, Serial.get?_modify] at h
    split at h
    case isTrue hid =>
      subst hid
      obtain ⟨tenant, hget, rfl⟩ := Option.map_eq_some_iff.mp h
      exact ⟨tenant, hget, hwrite tenant hget⟩
    case isFalse => exact ⟨tenant', h, .same ..⟩
  cases e with
  | openApproval call request tenantId => exact hsame (openApproval_db s call request tenantId) rfl
  | reloadTenant call => exact hsame (reloadStep_db s call) rfl
  | openRelease call bridgeId => exact hsame (openRelease_db s call bridgeId) rfl
  | beginProvision run index => exact hsame (beginStep_db s run index) rfl
  | lookUpVlan | destroyTenant => exact hsame rfl rfl
  | resetTenant call =>
    rcases resetStep_db s call with heq | ⟨tenantId, loaded, hcall, -, heq⟩
    · exact hsame heq rfl
    · exact hmodify heq rfl fun tenant _ => .reset hcall tenant
  | verifyTenant call =>
    rcases verifyStep_db s call with heq | ⟨tenantId, heq⟩
    · exact hsame heq rfl
    · exact hmodify heq rfl fun tenant _ => .verify call tenantId tenant
  | approveTenant call locks bridgeCreation dispatched =>
    rcases approveStep_db s call locks bridgeCreation dispatched with
      heq | ⟨request, tenantId, loaded, message, db, hcall, happrove, heq⟩
    · exact hsame heq rfl
    · obtain ⟨_, _, _, _, _, -, -, -, -, -, -, -, rfl, rfl⟩ := approveTenant_eq_ok happrove
      exact hmodify heq rfl fun tenant _ => .approve hcall happrove tenant
  | releaseBridge call =>
    rcases releaseStep_db s call with heq | ⟨bridgeId, bridge, loaded, hcall, heq⟩
    · exact hsame heq rfl
    · unfold releaseBridge at heq
      split at heq
      case h_1 => exact hmodify heq rfl fun tenant _ => .release hcall tenant
      case h_2 => exact hsame heq rfl
  | stepProvision run step =>
    rcases provisionStep_db s run step with heq | ⟨provisionRun, stored, hrun, hstored, heq⟩
    · exact hsame heq rfl
    · refine hmodify heq rfl fun tenant hget => ?_
      -- the row that is written is the stored one
      obtain rfl := Option.some.inj (hstored.symm.trans hget)
      exact .provision hrun step hget
  | createNetwork locks tenantId name =>
    rcases createNetworkStep_db s locks tenantId name with heq | ⟨_, _, hcreate, heq⟩
    · exact hsame heq rfl
    · obtain ⟨_, _, _, _, _, _, -, -, -, -, rfl⟩ := createNetwork_eq_ok hcreate
      exact hsame heq rfl
  | deleteNetwork tenantId networkId =>
    rcases deleteNetworkStep_db s tenantId networkId with heq | ⟨_, hdelete, heq⟩
    · exact hsame heq rfl
    · obtain ⟨_, -, -, -, rfl⟩ := deleteNetwork_eq_ok hdelete
      exact hsame heq rfl
  | markVlan run =>
    rcases markStep_db s run with heq | ⟨vlanRun, -, -, heq⟩
    · exact hsame heq rfl
    · refine hsame heq ?_
      unfold vlanMark
      split <;> rfl
  | finishVlan run optName =>
    rcases finishStep_db s run optName with heq | ⟨vlanRun, -, -, heq⟩ <;> exact hsame heq rfl
  | failVlan run =>
    rcases failStep_db s run with heq | ⟨vlanRun, -, heq⟩
    · exact hsame heq rfl
    · refine hsame heq ?_
      unfold vlanFail
      split <;> rfl
  | reorder row => cases row <;> exact hsame rfl rfl

/-- A run of the provisioning task that is in flight after a step: it was so before, it has just
begun, or it has taken the step. -/
inductive RunWrite (s : State) : Event → ℕ → ProvisionRun → Prop where
  | same {id : ℕ} {provisionRun : ProvisionRun} (e : Event)
      (hrun : s.provisionRuns.get? id = some provisionRun) : RunWrite s e id provisionRun
  | begin {id index : ℕ} {message : ProvisionMessage} {tenant : Tenant}
      (hget : s.db.tenants.get? message.tenantId = some tenant)
      (hstatus : tenant.status = .provisioning) :
      RunWrite s (.beginProvision id index) id ⟨message, some tenant, .cloning⟩
  | step {id : ℕ} {provisionRun next : ProvisionRun} {step : ProvisionStep} {tenant : Tenant}
      (hrun : s.provisionRuns.get? id = some provisionRun)
      (hget : s.db.tenants.get? provisionRun.message.tenantId = some tenant)
      (hnext : (provisionRun.step tenant step).2 = some next) :
      RunWrite s (.stepProvision id step) id next

/-- Every run of the provisioning task in flight comes about in one of these ways. -/
theorem runWrite_step {s : State} {e : Event} {id : ℕ} {provisionRun : ProvisionRun}
    (h : (step s e).provisionRuns.get? id = some provisionRun) :
    RunWrite s e id provisionRun := by
  have hsame : (step s e).provisionRuns = s.provisionRuns → RunWrite s e id provisionRun := by
    intro heq
    rw [heq] at h
    exact .same e h
  cases e with
  | beginProvision run index =>
    simp only [step, beginStep] at h hsame
    split at h
    case h_1 begun hbegun =>
      -- the run of this number is new, or the step does not concern it
      rcases Table.get?_insert_eq_some.mp h with ⟨rfl, rfl⟩ | ⟨-, h⟩
      · obtain ⟨message, -, hbegin⟩ := Option.bind_eq_some_iff.mp hbegun
        unfold beginProvision at hbegin
        split at hbegin
        case h_1 => cases hbegin
        case h_2 tenant hget =>
          split at hbegin
          case isFalse => cases hbegin
          case isTrue hstatus =>
            obtain rfl := Option.some.inj hbegin
            exact .begin hget hstatus
      · exact .same _ h
    case h_2 => exact .same _ h
  | stepProvision run provisionStep =>
    simp only [step, Provisioning.provisionStep] at h
    split at h
    case h_1 => exact .same _ h
    case h_2 old hold =>
      split at h
      case h_1 => exact .same _ h
      case h_2 stored hstored =>
        dsimp only at h
        split at h
        case h_1 next hnext =>
          -- a run that goes on keeps its number
          rw [Table.get?_modify] at h
          split at h
          case isFalse => exact .same _ h
          case isTrue hid =>
            subst hid
            rw [hold] at h
            obtain rfl := Option.some.inj h
            exact .step hold hstored hnext
        case h_2 =>
          obtain ⟨-, h⟩ := Table.get?_erase_eq_some.mp h
          exact .same _ h
  -- an approval does not touch the runs of the provisioning task, and so it is for the steps below
  | openApproval call request tenantId =>
    refine hsame ?_
    simp only [step, openApproval]
    repeat' split
    all_goals rfl
  | resetTenant call =>
    refine hsame ?_
    simp only [step, resetStep]
    repeat' split
    all_goals rfl
  | reloadTenant call =>
    refine hsame ?_
    simp only [step, reloadStep]
    split <;> rfl
  | approveTenant call locks bridgeCreation dispatched =>
    refine hsame ?_
    simp only [step, approveStep]
    repeat' split
    all_goals rfl
  | verifyTenant call =>
    refine hsame ?_
    simp only [step, verifyStep]
    split <;> rfl
  | openRelease call bridgeId =>
    refine hsame ?_
    simp only [step, openRelease]
    split <;> rfl
  | releaseBridge call =>
    refine hsame ?_
    simp only [step, releaseStep]
    split <;> rfl
  | createNetwork locks tenantId name =>
    refine hsame ?_
    simp only [step, createNetworkStep]
    split <;> rfl
  | deleteNetwork tenantId networkId =>
    refine hsame ?_
    simp only [step, deleteNetworkStep]
    split <;> rfl
  | markVlan run =>
    refine hsame ?_
    simp only [step, markStep]
    repeat' split
    all_goals rfl
  | finishVlan run optName =>
    refine hsame ?_
    simp only [step, finishStep]
    repeat' split
    all_goals rfl
  | failVlan run =>
    refine hsame ?_
    simp only [step, failStep]
    split <;> rfl
  | lookUpVlan | destroyTenant | reorder => exact hsame rfl

/-- A database before anything was provisioned: the pools are as they are seeded, there are
no networks, and no tenant has been given a bridge or an address. -/
structure Seeded (db : Db) : Prop where
  /-- Every bridge is available and unowned. -/
  bridges : ∀ id bridge, db.bridgePool.get? id = some bridge →
    0 < id ∧ bridge = { status := .available, tenantId := none }
  /-- Every subnet is free and has a gateway. -/
  subnets : ∀ id subnet, db.globalIpPool.get? id = some subnet →
    subnet.status = .free ∧ subnet.tenantNetworkId = none ∧ subnet.gatewayIp ≠ "" ∧
      subnet.cidr ≠ ""
  /-- The subnets are different. -/
  cidr_unique : ∀ id id' subnet subnet', db.globalIpPool.get? id = some subnet →
    db.globalIpPool.get? id' = some subnet' → subnet.cidr = subnet'.cidr → id = id'
  /-- Every VLAN is free and its tag is positive. -/
  vlans : ∀ key vlan, db.vlanAllocations.get? key = some vlan →
    0 < key.2 ∧ vlan = { status := .free, tenantNetworkId := none }
  /-- There are no networks. -/
  networks : ∀ id, db.tenantNetworks.get? id = none
  /-- No tenant has been provisioned. -/
  tenants : ∀ id tenant, db.tenants.get? id = some tenant →
    tenant.bridgeId = none ∧ tenant.lanIp = none ∧ tenant.status ≠ .active

/-- The provisioning system, started on a seeded database with nothing in flight. -/
def machine : Machine State Event where
  init s := ∃ db, Seeded db ∧ s = ⟨db, ∅, ∅, ∅, [], ∅⟩
  step := step

/-- A tenant that waits for its approval. -/
def newTenant : Tenant where
  status := .pendingApproval
  isVerified := false
  bridgeId := none
  podId := none
  opnsenseVmId := none
  opnsenseVmName := none
  lanIp := none
  wanIp := none
  opnsenseApiKey := none
  opnsenseApiSecret := none
  error := none

/-- A free subnet of the safe part of the address space. -/
def freeSubnet (cidr gatewayIp : String) : GlobalIPPool where
  cidr := cidr
  gatewayIp := gatewayIp
  pool := .safe
  status := .free
  tenantNetworkId := none

/-- A small seeded database: two tenants, one pod with two VLANs, two bridges and three
subnets. -/
def smallDb : Db where
  tenants := (Serial.empty.add newTenant).add newTenant
  pods := Serial.empty.add { status := .active, maxTenants := 100, tenantCount := 0 }
  bridgePool := ((∅ : Table ℕ BridgePool).insert 100
    { status := .available, tenantId := none }).insert 101
    { status := .available, tenantId := none }
  globalIpPool := ((Serial.empty.add (freeSubnet "172.16.0.0/24" "172.16.0.1")).add
    (freeSubnet "172.16.1.0/24" "172.16.1.1")).add (freeSubnet "172.16.2.0/24" "172.16.2.1")
  vlanAllocations := ((∅ : Table (ℕ × ℕ) VlanAllocation).insert (1, 10)
    { status := .free, tenantNetworkId := none }).insert (1, 11)
    { status := .free, tenantNetworkId := none }
  tenantNetworks := .empty

/-- The small database is seeded. -/
theorem seeded_smallDb : Seeded smallDb where
  bridges := by
    intro id bridge h
    simp only [smallDb, Table.get?_insert, Table.get?_empty] at h
    split_ifs at h with h₁ h₂
    · exact ⟨by omega, (Option.some.inj h).symm⟩
    · exact ⟨by omega, (Option.some.inj h).symm⟩
  subnets := by
    intro id subnet h
    simp only [smallDb, Serial.get?_add, Serial.get?_empty] at h
    split_ifs at h <;> cases h <;> decide
  cidr_unique := by
    intro id id' subnet subnet' h h' heq
    simp only [smallDb, Serial.get?_add, Serial.get?_empty] at h h'
    split_ifs at h h' <;> cases h <;> cases h' <;> first | omega | exact absurd heq (by decide)
  vlans := by
    intro key vlan h
    simp only [smallDb, Table.get?_insert, Table.get?_empty] at h
    split_ifs at h with h₁ h₂ <;> cases h
    · exact ⟨by rw [h₁]; decide, rfl⟩
    · exact ⟨by rw [h₂]; decide, rfl⟩
  networks id := rfl
  tenants := by
    intro id tenant h
    simp only [smallDb, Serial.get?_add, Serial.get?_empty] at h
    split_ifs at h <;> cases h <;> decide

/-- The system on the small database, with nothing in flight. -/
def smallState : State := ⟨smallDb, ∅, ∅, ∅, [], ∅⟩

/-- The small state is an initial state. -/
theorem init_smallState : machine.init smallState := ⟨smallDb, seeded_smallDb, rfl⟩

end ProxmoxIaas.Provisioning
