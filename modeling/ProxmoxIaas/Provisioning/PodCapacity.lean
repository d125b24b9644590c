import ProxmoxIaas.Provisioning.System

/-!
# Pod Capacity

A pod counts the tenants that are placed in it. The count is written in one place only, the
approval of a tenant; pods are created and updated, and tenants registered and deleted, by other
requests. These are added to the provisioning system here.

A tenant that is deleted has no networks and no bridge, since the rows that refer to it make the
deletion fail, so a tenant that was placed in a pod is never deleted. A tenant in error status
keeps its pod when `verify_tenant` resets it, so its next approval counts it a second time.

## Main results

- `pods_counted`: the counts are right, and within the capacity, in every run that approves only
  tenants without a pod.
-/

namespace ProxmoxIaas.Provisioning

/-- The VLANs 10 to 4094 of a pod, where there is no row yet. -/
def seedVlanPool (vlans : Table (ℕ × ℕ) VlanAllocation) (podId : ℕ) :
    Table (ℕ × ℕ) VlanAllocation :=
  ((List.range 4085).map (· + 10)).foldl
    (fun vlans vlanId =>
      if (vlans.get? (podId, vlanId)).isSome then vlans
      else vlans.insert (podId, vlanId) { status := .free, tenantNetworkId := none }) vlans

/-- `create_pod`, once the name and the provider type have passed their checks. The capacity is
any integer. -/
def createPod (db : Db) (maxTenants : ℤ) : Db :=
  { db with
    pods := db.pods.add { status := .active, maxTenants, tenantCount := 0 }
    vlanAllocations := seedVlanPool db.vlanAllocations db.pods.next }

/-- An open request to update a pod. -/
structure PodUpdate where
  /-- The pod. -/
  podId : ℕ
  /-- The pod as the session has loaded it. -/
  pod : Pod
  /-- The capacity that is asked for. -/
  maxTenants : Option ℤ
  /-- The status that is asked for. -/
  status : Option PodStatus
  deriving DecidableEq, Repr

/-- The checks of `update_pod`; a status that is not valid is refused before it is stored. -/
def updatePodCheck (db : Db) (podId : ℕ) (maxTenants : Option ℤ) (status : Option PodStatus) :
    Except ApiError PodUpdate := do
  let pod ← Except.ofOption (.http 404 "Pod not found") (db.pods.get? podId)
  Except.require (.http 400 "max_tenants cannot be less than current tenant_count")
    (∀ n ∈ maxTenants, (pod.tenantCount : ℤ) ≤ n)
  return { podId, pod, maxTenants, status }

/-- The columns that `update_pod` writes. -/
def PodUpdate.write (update : PodUpdate) (stored : Pod) : Pod :=
  { stored with
    maxTenants := match update.maxTenants with
      | some n => writeColumn (some update.pod) (·.maxTenants) n stored.maxTenants
      | none => stored.maxTenants
    status := match update.status with
      | some status => writeColumn (some update.pod) (·.status) status stored.status
      | none => stored.status }

/-- The commit of `update_pod`. -/
def updatePod (db : Db) (update : PodUpdate) : Db :=
  { db with pods := db.pods.modify update.podId update.write }

/-- `delete_tenant`, with the numbers of users and VMs of the tenant. The session takes the tenant
from its networks, whose owner is not nullable, and a bridge refers to its owner. -/
def deleteTenant (db : Db) (tenantId userCount vmCount : ℕ) : Except ApiError Db := do
  Except.require (.http 404 "Tenant not found") ((db.tenants.get? tenantId).isSome = true)
  Except.require (.http 400 s!"Cannot delete tenant with {userCount
    } user(s). Please reassign or delete users first.") (userCount = 0)
  Except.require (.http 400 s!"Cannot delete tenant with {vmCount
    } VM(s). Please delete or reassign VMs first.") (vmCount = 0)
  Except.require integrityError
    ((db.tenantNetworks.first? fun _ network => network.tenantId = tenantId) = none)
  Except.require integrityError
    ((db.bridgePool.first? fun _ bridge => bridge.tenantId = some tenantId) = none)
  return { db with tenants := db.tenants.deleteWhere fun id _ => id = tenantId }

/-- The provisioning system with the open updates of pods. -/
structure PodState where
  /-- The provisioning system. -/
  base : State
  /-- Open requests to update a pod. -/
  updates : Table ℕ PodUpdate

/-- The steps of the system with pods and tenants that come and go. -/
inductive PodEvent where
  /-- A step of the provisioning system. -/
  | base (e : Event)
  /-- A tenant registers. -/
  | createTenant
  /-- `create_pod`. -/
  | createPod (maxTenants : ℤ)
  /-- `update_pod` loads and checks its pod. -/
  | openPodUpdate (call podId : ℕ) (maxTenants : Option ℤ) (status : Option PodStatus)
  /-- `update_pod` commits. -/
  | commitPodUpdate (call : ℕ)
  /-- `delete_tenant`. -/
  | deleteTenant (tenantId userCount vmCount : ℕ)

/-- The tenant that the session of a request updates. -/
def updatedTenant (s : State) : Event → Option ℕ
  | .resetTenant call => (s.approvals.get? call).map (·.tenantId)
  | .approveTenant call _ _ _ => (s.approvals.get? call).map (·.tenantId)
  | .verifyTenant call => (s.approvals.get? call).map (·.tenantId)
  | .releaseBridge call => (s.releases.get? call).bind fun release =>
      release.tenant.bind fun _ => truthy release.bridge.tenantId
  | _ => none

/-- Whether a session would update a tenant that has been deleted; its commit fails then. -/
def tenantGone (s : State) (e : Event) : Bool :=
  (updatedTenant s e).any fun id => (s.db.tenants.get? id).isNone

/-- The end of a request whose commit has failed. -/
def dropRequest (s : State) : Event → State
  | .resetTenant call => { s with approvals := s.approvals.erase call }
  | .approveTenant call _ _ _ => { s with approvals := s.approvals.erase call }
  | .verifyTenant call => { s with approvals := s.approvals.erase call }
  | .releaseBridge call => { s with releases := s.releases.erase call }
  | _ => s

/-- The database after a request, if it did not raise. -/
def committed (db : Db) : Except ApiError Db → Db
  | .ok db' => db'
  | .error _ => db

/-- The state after a step. -/
def podStep (s : PodState) : PodEvent → PodState
  | .base e => { s with
      base := if tenantGone s.base e then dropRequest s.base e else step s.base e }
  | .createTenant => { s with
      base := { s.base with
        db := { s.base.db with tenants := s.base.db.tenants.add newTenant } } }
  | .createPod maxTenants => { s with
      base := { s.base with db := createPod s.base.db maxTenants } }
  | .openPodUpdate call podId maxTenants status =>
    match updatePodCheck s.base.db podId maxTenants status with
    | .error _ => s
    | .ok update => { s with updates := s.updates.insert call update }
  | .commitPodUpdate call =>
    match s.updates.get? call with
    | none => s
    | some update => {
        base := { s.base with db := updatePod s.base.db update }
        updates := s.updates.erase call }
  | .deleteTenant tenantId userCount vmCount => { s with
      base := { s.base with
        db := committed s.base.db (deleteTenant s.base.db tenantId userCount vmCount) } }

/-- Nobody is placed in a pod yet, and the pods are empty. -/
structure Unplaced (db : Db) : Prop where
  /-- No tenant has a pod. -/
  tenants : ∀ id tenant, db.tenants.get? id = some tenant → tenant.podId = none
  /-- The pods count no tenant, and their capacity is not negative. -/
  pods : ∀ id pod, db.pods.get? id = some pod → pod.tenantCount = 0 ∧ 0 ≤ pod.maxTenants

/-- The system, started on a seeded database with empty pods and nothing in flight. -/
def podMachine : Machine PodState PodEvent where
  init s := machine.init s.base ∧ Unplaced s.base.db ∧ s.updates = ∅
  step := podStep

/-- Whether a tenant is placed in a pod. -/
def placedIn (podId : ℕ) (tenant : Tenant) : Bool := tenant.podId = some podId

/-- Every pod counts its tenants, and has room for them. -/
def PodsCounted (db : Db) : Prop :=
  ∀ podId pod, db.pods.get? podId = some pod →
    pod.tenantCount = db.tenants.count (placedIn podId) ∧ (pod.tenantCount : ℤ) ≤ pod.maxTenants

/-- The condition on a step: an approval is committed only for a tenant that has no pod, a pod is
created with a capacity that is not negative, and an update leaves room for the tenants that the
pod counts when it is committed. -/
def placesOnce (s : PodState) : PodEvent → Bool
  | .base (.approveTenant call locks bridgeCreation _) =>
    (s.base.approvals.get? call).all fun approval => approval.tenant.all fun loaded =>
      match approveTenant s.base.db locks approval.tenantId loaded bridgeCreation with
      | .error _ => true
      | .ok _ => loaded.podId = none &&
          (s.base.db.tenants.get? approval.tenantId).all fun stored => stored.podId = none
  | .createPod maxTenants => 0 ≤ maxTenants
  | .commitPodUpdate call => (s.updates.get? call).all fun update =>
      (s.base.db.pods.get? update.podId).all fun stored =>
        (stored.tenantCount : ℤ) ≤ (update.write stored).maxTenants
  | _ => true

/-- The pods and the placement of the tenants are as before. -/
structure SamePlacement (db db' : Db) : Prop where
  /-- The pods are the same. -/
  pods : db'.pods.get? = db.pods.get?
  /-- Every tenant was there before, with the same pod. -/
  tenants : ∀ id tenant, db'.tenants.get? id = some tenant →
    ∃ before, db.tenants.get? id = some before ∧ before.podId = tenant.podId
  /-- Every pod has as many tenants. -/
  counts : ∀ podId, db'.tenants.count (placedIn podId) = db.tenants.count (placedIn podId)

/-- The same rows. -/
theorem SamePlacement.of_eq {db db' : Db} (hpods : db'.pods.get? = db.pods.get?)
    (htenants : db'.tenants.get? = db.tenants.get?) : SamePlacement db db' where
  pods := hpods
  tenants _ tenant hget := ⟨tenant, htenants ▸ hget, rfl⟩
  counts _ := Serial.count_congr htenants _

/-- A tenant is rewritten and keeps its pod. -/
theorem SamePlacement.of_modify {db db' : Db} {tenantId : ℕ} {f : Tenant → Tenant}
    (hpods : db'.pods.get? = db.pods.get?) (htenants : db'.tenants = db.tenants.modify tenantId f)
    (hf : ∀ tenant, db.tenants.get? tenantId = some tenant → (f tenant).podId = tenant.podId) :
    SamePlacement db db' where
  pods := hpods
  tenants := by
    intro id tenant hget
    rw [htenants, Serial.get?_modify] at hget
    split at hget
    case isFalse => exact ⟨tenant, hget, rfl⟩
    case isTrue heq =>
      obtain ⟨before, hbefore, rfl⟩ := Option.map_eq_some_iff.mp hget
      exact ⟨before, hbefore, (hf before (heq ▸ hbefore)).symm⟩
  counts podId := by
    rw [htenants]
    refine Serial.count_modify_of_eq fun tenant hget => ?_
    rw [placedIn, placedIn, hf tenant hget]

/-- Only an approval changes the pods or places a tenant. -/
theorem samePlacement_step {s : State} {e : Event}
    (h : ∀ call locks bridgeCreation dispatched,
      e ≠ .approveTenant call locks bridgeCreation dispatched) :
    SamePlacement s.db (step s e).db := by
  have hsame : SamePlacement s.db s.db := .of_eq rfl rfl
  cases e with
  | approveTenant call locks bridgeCreation dispatched => exact absurd rfl (h _ _ _ _)
  | openApproval call request tenantId => exact (openApproval_db s call request tenantId) ▸ hsame
  | reloadTenant call => exact (reloadStep_db s call) ▸ hsame
  | openRelease call bridgeId => exact (openRelease_db s call bridgeId) ▸ hsame
  | beginProvision run index => exact (beginStep_db s run index) ▸ hsame
  | lookUpVlan => exact hsame
  | destroyTenant => exact hsame
  -- These rewrite a tenant.
  | resetTenant call =>
    rcases resetStep_db s call with heq | ⟨_, _, -, -, heq⟩
    · exact heq ▸ hsame
    · exact heq ▸ .of_modify rfl rfl fun _ _ => rfl
  | verifyTenant call =>
    rcases verifyStep_db s call with heq | ⟨_, heq⟩
    · exact heq ▸ hsame
    · exact heq ▸ .of_modify rfl rfl fun _ _ => rfl
  | releaseBridge call =>
    rcases releaseStep_db s call with heq | ⟨_, bridge, tenant, -, heq⟩
    · exact heq ▸ hsame
    · rw [step, heq]
      unfold releaseBridge
      split
      case h_1 => exact .of_modify rfl rfl fun _ _ => rfl
      case h_2 => exact .of_eq rfl rfl
  | stepProvision run step =>
    rcases provisionStep_db s run step with heq | ⟨provisionRun, stored, -, hstored, heq⟩
    · exact heq ▸ hsame
    · refine heq ▸ .of_modify rfl rfl fun tenant hget => ?_
      obtain rfl := Option.some.inj (hstored.symm.trans hget)
      exact provisionRun.step_podId stored step
  -- These write networks and pools.
  | createNetwork locks tenantId name =>
    rcases createNetworkStep_db s locks tenantId name with heq | ⟨_, _, hcreate, heq⟩
    · exact heq ▸ hsame
    · obtain ⟨_, _, _, _, _, _, -, -, -, -, rfl⟩ := createNetwork_eq_ok hcreate
      exact heq ▸ .of_eq rfl rfl
  | deleteNetwork tenantId networkId =>
    rcases deleteNetworkStep_db s tenantId networkId with heq | ⟨_, hdelete, heq⟩
    · exact heq ▸ hsame
    · obtain ⟨_, -, -, -, rfl⟩ := deleteNetwork_eq_ok hdelete
      exact heq ▸ .of_eq rfl rfl
  | markVlan run =>
    rcases markStep_db s run with heq | ⟨vlanRun, -, -, heq⟩
    · exact heq ▸ hsame
    · rw [step, heq, vlanMark]
      split <;> exact .of_eq rfl rfl
  | finishVlan run optName =>
    rcases finishStep_db s run optName with heq | ⟨vlanRun, -, -, heq⟩
    · exact heq ▸ hsame
    · exact heq ▸ .of_eq rfl rfl
  | failVlan run =>
    rcases failStep_db s run with heq | ⟨vlanRun, -, heq⟩
    · exact heq ▸ hsame
    · rw [step, heq, vlanFail]
      split <;> exact .of_eq rfl rfl
  | reorder row =>
    cases row with
    | pod id => exact .of_eq (funext fun _ => Serial.get?_toFront ..) rfl
    | _ => exact .of_eq rfl rfl

/-- What holds in every state: the counts, and that a tenant with a pod has a network. -/
structure Placed (db : Db) : Prop where
  /-- Every pod counts its tenants. -/
  counted : PodsCounted db
  /-- The pod of a tenant exists. -/
  known : ∀ id tenant podId, db.tenants.get? id = some tenant → tenant.podId = some podId →
    (db.pods.get? podId).isSome = true
  /-- A tenant that is placed in a pod has a network. -/
  networks : ∀ id tenant, db.tenants.get? id = some tenant → tenant.podId ≠ none →
    ∃ networkId network, db.tenantNetworks.get? networkId = some network ∧ network.tenantId = id

/-- The same pods and placement, and networks that persist. -/
theorem Placed.congr {db db' : Db} (h : Placed db) (hsame : SamePlacement db db')
    (hnetworks : ∀ networkId network, db.tenantNetworks.get? networkId = some network →
      ∃ network', db'.tenantNetworks.get? networkId = some network' ∧
        network'.tenantId = network.tenantId) : Placed db' where
  counted podId pod hpod := by
    rw [hsame.pods] at hpod
    rw [hsame.counts]
    exact h.counted podId pod hpod
  known id tenant podId hget hpod := by
    obtain ⟨before, hbefore, hsamePod⟩ := hsame.tenants id tenant hget
    rw [hsame.pods]
    exact h.known id before podId hbefore (hsamePod.trans hpod)
  networks id tenant hget hpod := by
    obtain ⟨before, hbefore, hsamePod⟩ := hsame.tenants id tenant hget
    obtain ⟨networkId, network, hnetwork, howner⟩ :=
      h.networks id before hbefore (hsamePod ▸ hpod)
    obtain ⟨network', hnetwork', howner'⟩ := hnetworks networkId network hnetwork
    exact ⟨networkId, network', hnetwork', howner'.trans howner⟩

/-- An approval of a tenant without a pod. -/
theorem Placed.approveTenant {db db' : Db} (h : Placed db) {locks : Locks} {tenantId : ℕ}
    {loaded stored : Tenant} {bridgeCreation : Except String Unit} {message : ProvisionMessage}
    (happrove : approveTenant db locks tenantId loaded bridgeCreation = .ok (message, db'))
    (hstored : db.tenants.get? tenantId = some stored) (hloadedPod : loaded.podId = none)
    (hstoredPod : stored.podId = none) : Placed db' := by
  obtain ⟨pod, hpod, -, hroom⟩ := approveTenant_pod happrove
  obtain ⟨podId, bridgeId, bridge, subnetId, subnet, -, -, -, -, -, -, -, rfl, rfl⟩ :=
    approveTenant_eq_ok happrove
  dsimp only at hpod
  -- the session has loaded the tenant without a pod, so the column is written
  have hplaced : (Tenant.approve tenantId podId bridgeId subnet.gatewayIp loaded stored).podId =
      some podId := writeColumn_of_ne (by rw [hloadedPod]; nofun)
  have hcount := fun podId' => Serial.count_modify hstored
    (.approve tenantId podId bridgeId subnet.gatewayIp loaded) (placedIn podId')
  have hnetwork : ∀ networkId network, db.tenantNetworks.get? networkId = some network →
      (db.tenantNetworks.add (approvedNetwork tenantId podId bridgeId (subnetId, subnet))).get?
        networkId = some network := by
    intro networkId network hget
    rw [Serial.get?_add, if_neg (Nat.ne_of_lt (Serial.bound_of_get? hget).2), hget]
  constructor
  case counted =>
    intro podId' pod' hpod'
    -- the tenant is counted in its pod from now on, and in no other one
    have hthis := hcount podId'
    simp only [placedIn, hstoredPod, hplaced, Option.some.injEq, reduceCtorEq, decide_false,
      Bool.toNat_false, Nat.add_zero] at hthis
    rw [Serial.get?_modify] at hpod'
    split at hpod'
    case isTrue heq =>
      subst heq
      obtain ⟨before, hbefore, rfl⟩ := Option.map_eq_some_iff.mp hpod'
      obtain rfl := Option.some.inj (hpod.symm.trans hbefore)
      have hbeforeCount := (h.counted _ _ hpod).1
      simp only [decide_true, Bool.toNat_true] at hthis
      dsimp only
      exact ⟨by omega, by push_cast; omega⟩
    case isFalse hne =>
      have hbeforeCount := h.counted _ _ hpod'
      simp only [Ne.symm hne, decide_false, Bool.toNat_false, Nat.add_zero] at hthis
      rw [hthis]
      exact hbeforeCount
  case known =>
    intro id tenant podId' hget hpod'
    rw [Serial.isSome_get?_modify]
    rw [Serial.get?_modify] at hget
    split at hget
    case isTrue heq =>
      subst heq
      obtain ⟨before, hbefore, rfl⟩ := Option.map_eq_some_iff.mp hget
      obtain rfl := Option.some.inj (hstored.symm.trans hbefore)
      obtain rfl := Option.some.inj (hplaced.symm.trans hpod')
      rw [hpod]
      rfl
    case isFalse => exact h.known id tenant podId' hget hpod'
  case networks =>
    intro id tenant hget hpod'
    rw [Serial.get?_modify] at hget
    split at hget
    case isTrue heq =>
      exact ⟨db.tenantNetworks.next,
        approvedNetwork tenantId podId bridgeId (subnetId, subnet),
        by rw [Serial.get?_add, if_pos rfl], heq.symm⟩
    case isFalse =>
      obtain ⟨networkId, network, hnetworkGet, howner⟩ := h.networks id tenant hget hpod'
      exact ⟨networkId, network, hnetwork networkId network hnetworkGet, howner⟩

/-- A tenant that registers has no pod. -/
theorem Placed.createTenant {db : Db} (h : Placed db) :
    Placed { db with tenants := db.tenants.add newTenant } := by
  -- A tenant with a pod was there before.
  have hbefore : ∀ id tenant, (db.tenants.add newTenant).get? id = some tenant →
      tenant.podId ≠ none → db.tenants.get? id = some tenant := by
    intro id tenant hget hpod
    rw [Serial.get?_add] at hget
    split at hget
    case isTrue =>
      cases hget
      exact absurd rfl hpod
    case isFalse => exact hget
  constructor
  case counted =>
    intro podId pod hpod
    have hcount := Serial.count_add db.tenants newTenant (placedIn podId)
    rw [show placedIn podId newTenant = false from rfl, Bool.toNat_false, Nat.add_zero] at hcount
    dsimp only
    rw [hcount]
    exact h.counted podId pod hpod
  case known =>
    intro id tenant podId hget hpod
    exact h.known id tenant podId (hbefore id tenant hget (by rw [hpod]; nofun)) hpod
  case networks =>
    intro id tenant hget hpod
    exact h.networks id tenant (hbefore id tenant hget hpod) hpod

/-- A pod that is created is empty. -/
theorem Placed.createPod {db : Db} (h : Placed db) {maxTenants : ℤ} (hmax : 0 ≤ maxTenants) :
    Placed (createPod db maxTenants) := by
  constructor
  case counted =>
    intro podId pod hpod
    rw [Provisioning.createPod, Serial.get?_add] at hpod
    split at hpod
    case isTrue heq =>
      cases hpod
      have hzero : db.tenants.count (placedIn podId) = 0 := by
        refine Serial.count_eq_zero_iff.mpr fun id tenant hget => ?_
        refine decide_eq_false fun hplaced => ?_
        have := h.known id tenant podId hget hplaced
        rw [heq, Serial.get?_next] at this
        cases this
      exact ⟨hzero.symm, hmax⟩
    case isFalse => exact h.counted podId pod hpod
  case known =>
    intro id tenant podId hget hpod
    have := h.known id tenant podId hget hpod
    rw [Provisioning.createPod, Serial.get?_add]
    split
    · rfl
    · exact this
  case networks => exact h.networks

/-- An update of a pod that leaves room for its tenants. -/
theorem Placed.updatePod {db : Db} (h : Placed db) {update : PodUpdate}
    (hroom : ∀ stored, db.pods.get? update.podId = some stored →
      (stored.tenantCount : ℤ) ≤ (update.write stored).maxTenants) :
    Placed (updatePod db update) := by
  constructor
  case counted =>
    intro podId pod hpod
    rw [Provisioning.updatePod, Serial.get?_modify] at hpod
    split at hpod
    case isTrue heq =>
      obtain ⟨stored, hstored, rfl⟩ := Option.map_eq_some_iff.mp hpod
      exact ⟨(h.counted podId stored hstored).1, hroom stored (heq ▸ hstored)⟩
    case isFalse => exact h.counted podId pod hpod
  case known =>
    intro id tenant podId hget hpod
    rw [Provisioning.updatePod, Serial.isSome_get?_modify]
    exact h.known id tenant podId hget hpod
  case networks => exact h.networks

/-- A tenant that is deleted has no network, hence no pod. -/
theorem Placed.deleteTenant {db db' : Db} (h : Placed db) {tenantId userCount vmCount : ℕ}
    (hdelete : deleteTenant db tenantId userCount vmCount = .ok db') : Placed db' := by
  simp only [Provisioning.deleteTenant, Except.bind_eq_ok_iff, Except.require_eq_ok_iff,
    Except.pure_eq_ok_iff] at hdelete
  obtain ⟨-, -, -, -, -, -, -, hnetworks, -, -, rfl⟩ := hdelete
  have hbefore : ∀ id tenant,
      (db.tenants.deleteWhere fun id _ => id = tenantId).get? id = some tenant →
      db.tenants.get? id = some tenant := by
    intro id tenant hget
    rw [Serial.get?_deleteWhere] at hget
    exact (Option.filter_eq_some_iff.mp hget).1
  constructor
  case counted =>
    intro podId pod hpod
    dsimp only
    rw [Serial.count_deleteWhere fun id tenant hget hid => ?_]
    · exact h.counted podId pod hpod
    · refine decide_eq_false fun hplaced => ?_
      obtain ⟨networkId, network, hnetwork, howner⟩ :=
        h.networks id tenant hget (by rw [hplaced]; rintro ⟨⟩)
      have := Serial.first?_eq_none_iff.mp hnetworks networkId network hnetwork
      exact of_decide_eq_false this (howner.trans (of_decide_eq_true hid))
  case known =>
    intro id tenant podId hget hpod
    exact h.known id tenant podId (hbefore id tenant hget) hpod
  case networks =>
    intro id tenant hget hpod
    exact h.networks id tenant (hbefore id tenant hget) hpod

/-- A request whose commit has failed has not written. -/
theorem dropRequest_db (s : State) (e : Event) : (dropRequest s e).db = s.db := by
  cases e <;> rfl

/-- One step that meets the condition. -/
theorem Placed.step {s : PodState} {e : PodEvent} (h : Placed s.base.db)
    (hok : placesOnce s e = true) : Placed (podStep s e).base.db := by
  cases e with
  | createTenant => exact h.createTenant
  | createPod maxTenants => exact h.createPod (of_decide_eq_true hok)
  | openPodUpdate call podId maxTenants status =>
    rw [podStep]
    split <;> exact h
  | commitPodUpdate call =>
    rw [podStep]
    split
    case h_1 => exact h
    case h_2 update hupdate =>
      refine h.updatePod fun stored hstored => ?_
      simpa [placesOnce, hupdate, hstored] using hok
  | deleteTenant tenantId userCount vmCount =>
    rw [podStep]
    cases hdelete : Provisioning.deleteTenant s.base.db tenantId userCount vmCount with
    | error e => exact h
    | ok db' => exact h.deleteTenant hdelete
  | base e =>
    rw [podStep]
    cases hgone : tenantGone s.base e with
    | true => exact (dropRequest_db s.base e).symm ▸ h
    | false =>
      by_cases happroval : ∃ call locks bridgeCreation dispatched,
          e = .approveTenant call locks bridgeCreation dispatched
      · obtain ⟨call, locks, bridgeCreation, dispatched, rfl⟩ := happroval
        rcases approveStep_db s.base call locks bridgeCreation dispatched with
          heq | ⟨request, tenantId, loaded, message, db, hcall, happrove, heq⟩
        · exact heq.symm ▸ h
        · have hstored : (s.base.db.tenants.get? tenantId).isSome = true := by
            simpa [tenantGone, updatedTenant, hcall] using hgone
          obtain ⟨stored, hstored⟩ := Option.isSome_iff_exists.mp hstored
          have hpods : loaded.podId = none ∧ stored.podId = none := by
            simpa [placesOnce, hcall, happrove, hstored] using hok
          exact heq.symm ▸ h.approveTenant happrove hstored hpods.1 hpods.2
      · refine h.congr (samePlacement_step fun call locks bridgeCreation dispatched heq =>
          happroval ⟨call, locks, bridgeCreation, dispatched, heq⟩) ?_
        intro networkId network hget
        obtain ⟨network', hget', howner, -⟩ := network_persists s.base e hget
        exact ⟨network', hget', howner⟩

/-- In every run that commits approvals only for tenants without a pod, creates pods with a
capacity that is not negative, and commits updates that leave room for the tenants of the pod, every
pod counts its tenants and has room for them. -/
theorem pods_counted {s : PodState}
    (h : podMachine.Reachable (fun s e => placesOnce s e = true) s) : PodsCounted s.base.db := by
  have hinv : Placed s.base.db := by
    refine h.invariant (fun s => Placed s.base.db) ?_ fun s e hs hok => hs.step hok
    rintro ⟨base, updates⟩ ⟨⟨db, -, rfl⟩, hunplaced, -⟩
    constructor
    case counted =>
      intro podId pod hpod
      obtain ⟨hcount, hmax⟩ := hunplaced.pods podId pod hpod
      have hzero : db.tenants.count (placedIn podId) = 0 := by
        refine Serial.count_eq_zero_iff.mpr fun id tenant hget => ?_
        rw [placedIn, hunplaced.tenants id tenant hget]
        rfl
      exact ⟨hcount.trans hzero.symm, by rw [hcount]; exact hmax⟩
    case known =>
      intro id tenant podId hget hpod
      rw [hunplaced.tenants id tenant hget] at hpod
      cases hpod
    case networks =>
      intro id tenant hget hpod
      exact absurd (hunplaced.tenants id tenant hget) hpod
  exact hinv.counted

/-- The small database with nothing in flight. -/
def smallPodState : PodState := ⟨smallState, ∅⟩

/-- The small state is an initial state. -/
theorem init_smallPodState : podMachine.init smallPodState := by
  refine ⟨init_smallState, ⟨?_, ?_⟩, rfl⟩
  · intro id tenant h
    simp only [smallPodState, smallState, smallDb, Serial.get?_add, Serial.get?_empty] at h
    split_ifs at h <;> cases h <;> rfl
  · intro id pod h
    simp only [smallPodState, smallState, smallDb, Serial.get?_add, Serial.get?_empty] at h
    split_ifs at h
    cases h
    decide

/-- A tenant is approved, and its provisioning fails. -/
def failedProvisioning : List PodEvent :=
  [.base (.openApproval 0 .verify 1), .base (.approveTenant 0 .none (.ok ()) true),
    .base (.beginProvision 0 0), .base (.stepProvision 0 (.fail "clone failed"))]

/-- The counts after a failed provisioning, a smaller capacity, and the deletion of the other
tenant. -/
theorem pods_counted_small :
    PodsCounted (podMachine.run smallPodState (failedProvisioning ++
      [.openPodUpdate 0 1 (some 1) none, .commitPodUpdate 0, .deleteTenant 2 0 0])).base.db :=
  pods_counted ((Machine.Reachable.start init_smallPodState).run (by decide))

/-- The retry of a failed provisioning counts the tenant again. -/
theorem pods_not_counted :
    ¬ ∀ s, podMachine.Reachable Machine.anyStep s → PodsCounted s.base.db := by
  intro h
  have hcounted := h _ (Machine.reachable_run init_smallPodState (failedProvisioning ++
    [.base (.openApproval 1 .verify 1), .base (.resetTenant 1), .base (.reloadTenant 1),
      .base (.approveTenant 1 .none (.ok ()) true)]))
  exact absurd (hcounted 1 _ rfl).1 (by decide)

end ProxmoxIaas.Provisioning
