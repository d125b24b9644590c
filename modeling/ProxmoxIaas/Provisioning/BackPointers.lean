import ProxmoxIaas.Provisioning.System

/-!
# Back-Pointers of the Pools

A row of a pool that is allocated should point back to the network that uses it. The pointer is
copied from the network before the network is inserted, and only then it gets an id: the rows that
are allocated point to nothing.

## Main results

- `ForallPools.step`: what a step keeps of the rows of the pools.
- `backPointers_iff`: the pointers are right in a state that is reached if and only if no row is
  allocated in it.
- `backPointers_of_reachable`: they are right as long as nothing is allocated, and the first
  allocation makes them wrong.
- `not_backPointers`: an approval is enough.
-/

namespace ProxmoxIaas.Provisioning

/-- A row of a pool that is allocated has the id of the live network that uses it, and one that is
free has none. -/
structure BackPointers (db : Db) : Prop where
  /-- The subnets that are allocated. -/
  subnet_allocated : ∀ id subnet, db.globalIpPool.get? id = some subnet →
    subnet.status = .allocated → ∃ networkId network,
      db.tenantNetworks.get? networkId = some network ∧ network.live = true ∧
      network.ipPoolId = some id ∧ subnet.tenantNetworkId = some networkId
  /-- The subnets that are free. -/
  subnet_free : ∀ id subnet, db.globalIpPool.get? id = some subnet → subnet.status = .free →
    subnet.tenantNetworkId = none
  /-- The VLANs that are allocated. -/
  vlan_allocated : ∀ podId vlanId vlan, db.vlanAllocations.get? (podId, vlanId) = some vlan →
    vlan.status = .allocated → ∃ networkId network,
      db.tenantNetworks.get? networkId = some network ∧ network.live = true ∧
      network.podId = podId ∧ network.vlanId = some vlanId ∧
      vlan.tenantNetworkId = some networkId
  /-- The VLANs that are free. -/
  vlan_free : ∀ key vlan, db.vlanAllocations.get? key = some vlan → vlan.status = .free →
    vlan.tenantNetworkId = none

/-- The rows of both pools have some property. -/
structure ForallPools (P : GlobalIPPool → Prop) (Q : VlanAllocation → Prop) (db : Db) : Prop where
  /-- The subnets. -/
  subnet : ∀ id subnet, db.globalIpPool.get? id = some subnet → P subnet
  /-- The VLANs. -/
  vlan : ∀ key vlan, db.vlanAllocations.get? key = some vlan → Q vlan

/-- No row points to a network. -/
def Unlinked : Db → Prop :=
  ForallPools (fun subnet => subnet.tenantNetworkId = none) fun vlan => vlan.tenantNetworkId = none

/-- Every row is free. -/
def NothingAllocated : Db → Prop :=
  ForallPools (fun subnet => subnet.status = .free) fun vlan => vlan.status = .free

/-- An approval has a tenant that may be approved, and all that it hands out. -/
def approvalAllocates (db : Db) (locks : Locks) (tenantId : ℕ) (tenant : Tenant)
    (bridgeCreation : Except String Unit) : Bool :=
  tenant.status ∈ [TenantStatus.pendingApproval, .verified, .error] &&
    (truthy tenant.bridgeId).isNone && (assignPod db locks.pods).isSome &&
    (allocateBridge db tenantId).any (fun allocated => allocated.1 ≠ 0) &&
    (offeredSubnet? db locks.subnets).isSome && bridgeCreation.isOk

/-- A request for a network has a tenant with a pod and a default network, a subnet and a VLAN. -/
def creationAllocates (db : Db) (locks : Locks) (tenantId : ℕ) : Bool :=
  ((db.tenants.get? tenantId).bind fun tenant => truthy tenant.podId).any fun podId =>
    (offeredSubnet? db locks.subnets).isSome && (freeVlan? db locks.vlans podId).isSome &&
      (defaultNetwork? db tenantId).isSome

/-- The steps that take a row of a pool. -/
def allocates (s : State) : Event → Bool
  | .approveTenant call locks bridgeCreation _ => (s.approvals.get? call).any fun approval =>
      !approval.approved && approval.tenant.any fun tenant =>
        approvalAllocates s.db locks approval.tenantId tenant bridgeCreation
  | .createNetwork locks tenantId _ => creationAllocates s.db locks tenantId
  | _ => false

/-- A VLAN is allocated if there is a free one. -/
theorem allocateVlan_of_free {db : Db} {locked : List (ℕ × ℕ)} {podId : ℕ}
    {free : (ℕ × ℕ) × VlanAllocation} (h : freeVlan? db locked podId = some free) :
    allocateVlan db locked podId = .ok (free.1.2, { db with
      vlanAllocations := db.vlanAllocations.modify free.1 .allocate }) := by
  rw [allocateVlan, h]

/-- A VLAN that is allocated was free. -/
theorem exists_freeVlan? {db db' : Db} {locked : List (ℕ × ℕ)} {podId vlanId : ℕ}
    (h : allocateVlan db locked podId = .ok (vlanId, db')) :
    ∃ free, freeVlan? db locked podId = some free := by
  unfold allocateVlan at h
  split at h
  case h_1 key vlan hfree => exact ⟨(key, vlan), hfree⟩
  case h_2 => cases h

/-- An approval is committed exactly under its condition. -/
theorem isOk_approveTenant (db : Db) (locks : Locks) (tenantId : ℕ) (tenant : Tenant)
    (bridgeCreation : Except String Unit) :
    (∃ message db', approveTenant db locks tenantId tenant bridgeCreation = .ok (message, db')) ↔
      approvalAllocates db locks tenantId tenant bridgeCreation = true := by
  simp only [approvalAllocates, Bool.and_eq_true, decide_eq_true_eq, Option.isNone_iff_eq_none]
  constructor
  · rintro ⟨message, db', h⟩
    simp only [approveTenant, Except.bind_eq_ok_iff, Except.ofOption_eq_ok_iff,
      Except.require_eq_ok_iff, Option.filter_eq_some_iff, Prod.exists] at h
    obtain ⟨-, hstatus, -, hbridge, podId, pod, hpod, bridgeId, db₁, ⟨hallocated, hne⟩, _, _, _,
      hsubnet, hcreated⟩ := h
    -- the bridge is taken from another table than the subnet
    have hoffered : (offeredSubnet? db locks.subnets).isSome = true := by
      have hoffered := allocateSubnet_offered hsubnet
      obtain ⟨_, -, heq⟩ := Option.map_eq_some_iff.mp hallocated
      cases heq
      exact Option.isSome_iff_exists.mpr ⟨_, hoffered⟩
    refine ⟨⟨⟨⟨⟨hstatus, hbridge⟩, ?_⟩, ?_⟩, hoffered⟩, ?_⟩
    · rw [hpod, Option.isSome_some]
    · rw [hallocated, Option.any_some]
      exact hne
    · cases bridgeCreation with
      | error e => cases hcreated
      | ok => rfl
  · rintro ⟨⟨⟨⟨⟨hstatus, hbridge⟩, hpod⟩, hallocated⟩, hoffered⟩, hcreated⟩
    obtain ⟨⟨podId, pod⟩, hpod⟩ := Option.isSome_iff_exists.mp hpod
    obtain ⟨⟨bridgeId, db₁⟩, hallocated, hne⟩ := (Option.any_eq_true ..).mp hallocated
    obtain ⟨subnet, hoffered⟩ := Option.isSome_iff_exists.mp hoffered
    have hoffered₁ : offeredSubnet? db₁ locks.subnets = some subnet := by
      obtain ⟨_, -, heq⟩ := Option.map_eq_some_iff.mp hallocated
      cases heq
      exact hoffered
    have hsubnet := allocateSubnet_of_offered hoffered₁
    cases bridgeCreation with
    | error e => cases hcreated
    | ok =>
      simp only [approveTenant, Except.bind_eq_ok_iff, Except.ofOption_eq_ok_iff,
        Except.require_eq_ok_iff, Option.filter_eq_some_iff, Prod.exists]
      exact ⟨_, _, ⟨⟩, hstatus, ⟨⟩, hbridge, podId, pod, hpod, bridgeId, db₁, ⟨hallocated, hne⟩,
        subnet.1, subnet.2, _, hsubnet, rfl⟩

/-- A request for a network is committed exactly under its condition. -/
theorem isOk_createNetwork (db : Db) (locks : Locks) (tenantId : ℕ) (name : String) :
    (∃ message db', createNetwork db locks tenantId name = .ok (message, db')) ↔
      creationAllocates db locks tenantId = true := by
  constructor
  · rintro ⟨message, db', h⟩
    simp only [createNetwork, Except.bind_eq_ok_iff, Except.ofOption_eq_ok_iff, Prod.exists] at h
    obtain ⟨tenant, htenant, podId, hpod, _, _, db₁, hsubnet, vlanId, db₂, hvlan, _, _, hdefault,
      -⟩ := h
    have hoffered := allocateSubnet_offered hsubnet
    obtain ⟨-, -, -, rfl⟩ := allocateSubnet_eq_ok hsubnet
    obtain ⟨free, hfree⟩ := exists_freeVlan? hvlan
    obtain ⟨_, -, -, -, rfl⟩ := allocateVlan_eq_ok hvlan
    -- neither pool is read by the queries for the rest
    have hfree : (freeVlan? db locks.vlans podId).isSome = true :=
      Option.isSome_iff_exists.mpr ⟨free, hfree⟩
    have hnetwork : (defaultNetwork? db tenantId).isSome = true :=
      Option.isSome_iff_exists.mpr ⟨_, hdefault⟩
    rw [creationAllocates, htenant, Option.bind_some, hpod, Option.any_some, hoffered, hfree,
      hnetwork]
    rfl
  · intro h
    obtain ⟨podId, hpod, hall⟩ := (Option.any_eq_true ..).mp h
    obtain ⟨tenant, htenant, hpod⟩ := Option.bind_eq_some_iff.mp hpod
    simp only [Bool.and_eq_true, Option.isSome_iff_exists] at hall
    obtain ⟨⟨⟨subnet, hoffered⟩, free, hfree⟩, defaultNetwork, hdefault⟩ := hall
    have hsubnet := allocateSubnet_of_offered hoffered
    -- the pool of subnets is not read for the VLAN
    have hfree₁ : freeVlan? { db with globalIpPool := db.globalIpPool.modify subnet.1 .allocate }
        locks.vlans podId = some free := hfree
    have hvlan := allocateVlan_of_free hfree₁
    simp only [createNetwork, Except.bind_eq_ok_iff, Except.ofOption_eq_ok_iff, Prod.exists]
    exact ⟨_, _, tenant, htenant, podId, hpod, subnet.1, subnet.2, _, hsubnet, _, _, hvlan,
      defaultNetwork.1, defaultNetwork.2, hdefault, rfl⟩

namespace ForallPools

variable {P : GlobalIPPool → Prop} {Q : VlanAllocation → Prop} {db db' : Db}

/-- The property depends on the rows of the pools only. -/
theorem congr (h : ForallPools P Q db) (hsubnets : db'.globalIpPool.get? = db.globalIpPool.get?)
    (hvlans : db'.vlanAllocations.get? = db.vlanAllocations.get?) : ForallPools P Q db' where
  subnet id subnet hget := h.subnet id subnet (hsubnets ▸ hget)
  vlan key vlan hget := h.vlan key vlan (hvlans ▸ hget)

/-- A row is written. -/
theorem modify_subnet (h : ForallPools P Q db) {f : GlobalIPPool → GlobalIPPool} (id : ℕ)
    (hf : ∀ subnet, P subnet → P (f subnet)) :
    ForallPools P Q { db with globalIpPool := db.globalIpPool.modify id f } where
  subnet id' subnet hget := by
    rw [Serial.get?_modify] at hget
    split at hget
    case isTrue =>
      obtain ⟨row, hrow, rfl⟩ := Option.map_eq_some_iff.mp hget
      exact hf row (h.subnet _ _ hrow)
    case isFalse => exact h.subnet _ _ hget
  vlan := h.vlan

theorem modify_vlan (h : ForallPools P Q db) {f : VlanAllocation → VlanAllocation} (key : ℕ × ℕ)
    (hf : ∀ vlan, Q vlan → Q (f vlan)) :
    ForallPools P Q { db with vlanAllocations := db.vlanAllocations.modify key f } where
  subnet := h.subnet
  vlan key' vlan hget := by
    rw [Table.get?_modify] at hget
    split at hget
    case isTrue =>
      obtain ⟨row, hrow, rfl⟩ := Option.map_eq_some_iff.mp hget
      exact hf row (h.vlan _ _ hrow)
    case isFalse => exact h.vlan _ _ hget

/-- A network gives back what it has. -/
theorem release (h : ForallPools P Q db) (network : TenantNetwork)
    (hsubnet : ∀ subnet, P subnet → P subnet.release) (hvlan : ∀ vlan, Q vlan → Q vlan.release) :
    ForallPools P Q { db with
      globalIpPool := (releaseNetworkSubnet db network).globalIpPool
      vlanAllocations := (releaseNetworkVlan db network).vlanAllocations } := by
  have hsubnets : ForallPools P Q (releaseNetworkSubnet db network) := by
    unfold releaseNetworkSubnet
    split
    · exact h.modify_subnet _ hsubnet
    · exact h
  have hvlans : ForallPools P Q (releaseNetworkVlan db network) := by
    unfold releaseNetworkVlan
    split
    · exact h.modify_vlan _ hvlan
    · exact h
  exact ⟨hsubnets.subnet, hvlans.vlan⟩

/-- What holds of every row is kept by a step if it is kept when a row is released, and when a row
is taken in a step that takes one. -/
theorem step {s : State} {e : Event} (h : ForallPools P Q s.db)
    (hsubnet : ∀ subnet, P subnet → P subnet.release)
    (hvlan : ∀ vlan, Q vlan → Q vlan.release)
    (hallocate : allocates s e = true → (∀ subnet, P subnet → P (subnet.allocate.link none)) ∧
      ∀ vlan, Q vlan → Q (vlan.allocate.link none)) : ForallPools P Q (step s e).db := by
  cases e with
  | openApproval call request tenantId => exact (openApproval_db s call request tenantId) ▸ h
  | reloadTenant call => exact (reloadStep_db s call) ▸ h
  | openRelease call bridgeId => exact (openRelease_db s call bridgeId) ▸ h
  | beginProvision run index => exact (beginStep_db s run index) ▸ h
  | lookUpVlan => exact h
  | destroyTenant => exact h
  -- these write tenants, bridges and networks only
  | resetTenant call =>
    rcases resetStep_db s call with heq | ⟨_, _, -, -, heq⟩
    · exact heq ▸ h
    · exact heq ▸ h.congr rfl rfl
  | verifyTenant call =>
    rcases verifyStep_db s call with heq | ⟨_, heq⟩
    · exact heq ▸ h
    · exact heq ▸ h.congr rfl rfl
  | releaseBridge call =>
    rcases releaseStep_db s call with heq | ⟨_, _, _, -, heq⟩
    · exact heq ▸ h
    · exact heq ▸ h.congr rfl rfl
  | stepProvision run step =>
    rcases provisionStep_db s run step with heq | ⟨_, _, -, -, heq⟩
    · exact heq ▸ h
    · exact heq ▸ h.congr rfl rfl
  | markVlan run =>
    rcases markStep_db s run with heq | ⟨vlanRun, -, -, heq⟩
    · exact heq ▸ h
    · rw [Provisioning.step, heq, vlanMark]
      split
      · exact h.congr rfl rfl
      · exact h
  | finishVlan run optName =>
    rcases finishStep_db s run optName with heq | ⟨vlanRun, -, -, heq⟩
    · exact heq ▸ h
    · exact heq ▸ h.congr rfl rfl
  | failVlan run =>
    rcases failStep_db s run with heq | ⟨vlanRun, -, heq⟩
    · exact heq ▸ h
    · rw [Provisioning.step, heq, vlanFail]
      split
      · exact h.congr rfl rfl
      · exact h
  | reorder row =>
    cases row with
    | pod id => exact h.congr rfl rfl
    | bridge id => exact h.congr rfl rfl
    | subnet id => exact h.congr (funext fun _ => Serial.get?_toFront ..) rfl
    | vlan key => exact h.congr rfl (funext fun _ => Table.get?_toFront ..)
    | network id => exact h.congr rfl rfl
  | approveTenant call locks bridgeCreation dispatched =>
    rcases approveStep_db s call locks bridgeCreation dispatched with
      heq | ⟨_, tenantId, tenant, message, db, hcall, happrove, heq⟩
    · exact heq ▸ h
    · have hok : allocates s (.approveTenant call locks bridgeCreation dispatched) = true := by
        simp only [allocates, hcall, Option.any_some, Bool.not_false, Bool.true_and]
        exact (isOk_approveTenant ..).mp ⟨message, db, happrove⟩
      obtain ⟨_, _, _, subnetId, _, -, -, -, -, -, -, -, -, rfl⟩ := approveTenant_eq_ok happrove
      rw [Provisioning.step, heq, Serial.modify_modify]
      exact (h.modify_subnet subnetId (hallocate hok).1).congr rfl rfl
  | createNetwork locks tenantId name =>
    rcases createNetworkStep_db s locks tenantId name with heq | ⟨message, db, hcreate, heq⟩
    · exact heq ▸ h
    · have hok : allocates s (.createNetwork locks tenantId name) = true :=
        (isOk_createNetwork ..).mp ⟨message, db, hcreate⟩
      obtain ⟨podId, subnetId, _, vlanId, _, _, -, -, -, -, rfl⟩ := createNetwork_eq_ok hcreate
      rw [Provisioning.step, heq, Serial.modify_modify, Table.modify_modify]
      exact ((h.modify_subnet subnetId (hallocate hok).1).modify_vlan (podId, vlanId)
        (hallocate hok).2).congr rfl rfl
  | deleteNetwork tenantId networkId =>
    rcases deleteNetworkStep_db s tenantId networkId with heq | ⟨_, hdelete, heq⟩
    · exact heq ▸ h
    · obtain ⟨network, -, -, -, rfl⟩ := deleteNetwork_eq_ok hdelete
      exact heq ▸ (h.release network hsubnet hvlan).congr rfl rfl

end ForallPools

/-- No row of a pool ever points to a network. -/
theorem unlinked_of_reachable {ok : State → Event → Prop} {s : State}
    (h : machine.Reachable ok s) : Unlinked s.db := by
  refine h.invariant (fun s => Unlinked s.db) ?_ fun s e hs _ => ?_
  · rintro _ ⟨db, hseeded, rfl⟩
    exact ⟨fun id subnet hget => (hseeded.subnets id subnet hget).2.1,
      fun key vlan hget => by rw [(hseeded.vlans key vlan hget).2]⟩
  · exact hs.step (fun _ _ => rfl) (fun _ _ => rfl) fun _ => ⟨fun _ _ => rfl, fun _ _ => rfl⟩

/-- Rows without pointers are right if and only if all of them are free. -/
theorem Unlinked.backPointers_iff {db : Db} (h : Unlinked db) :
    BackPointers db ↔ NothingAllocated db := by
  constructor
  · intro hright
    refine ⟨fun id subnet hget => ?_, fun key vlan hget => ?_⟩
    · cases hstatus : subnet.status with
      | free => rfl
      | allocated =>
        obtain ⟨_, _, -, -, -, hlink⟩ := hright.subnet_allocated id subnet hget hstatus
        rw [h.subnet id subnet hget] at hlink
        cases hlink
    · cases hstatus : vlan.status with
      | free => rfl
      | allocated =>
        obtain ⟨_, _, -, -, -, -, hlink⟩ := hright.vlan_allocated key.1 key.2 vlan hget hstatus
        rw [h.vlan key vlan hget] at hlink
        cases hlink
  · intro hfree
    refine ⟨?_, fun id subnet hget _ => h.subnet id subnet hget, ?_,
      fun key vlan hget _ => h.vlan key vlan hget⟩
    · intro id subnet hget hstatus
      rw [hfree.subnet id subnet hget] at hstatus
      cases hstatus
    · intro podId vlanId vlan hget hstatus
      rw [hfree.vlan _ vlan hget] at hstatus
      cases hstatus

/-- In a state that is reached, the pointers are right if and only if nothing is allocated. -/
theorem backPointers_iff {ok : State → Event → Prop} {s : State} (h : machine.Reachable ok s) :
    BackPointers s.db ↔ NothingAllocated s.db :=
  (unlinked_of_reachable h).backPointers_iff

/-- A step that takes no row leaves a pool without allocated rows as it is. -/
theorem nothingAllocated_step {s : State} {e : Event} (h : NothingAllocated s.db)
    (hok : allocates s e = false) : NothingAllocated (step s e).db := by
  refine ForallPools.step h (fun _ _ => rfl) (fun _ _ => rfl) fun hallocates => ?_
  rw [hok] at hallocates
  cases hallocates

/-- A step that takes a row leaves a row that is allocated. -/
theorem not_nothingAllocated_step {s : State} {e : Event} (h : allocates s e = true) :
    ¬ NothingAllocated (step s e).db := by
  intro hfree
  -- the row that is taken from a pool
  have htaken : ∀ {pool : Serial GlobalIPPool} {id : ℕ} {subnet : GlobalIPPool},
      pool.get? id = some subnet →
      ((pool.modify id .allocate).modify id (.link none)).get? id =
        some (subnet.allocate.link none) := by
    intro pool id subnet hget
    rw [Serial.modify_modify, Serial.get?_modify, if_pos rfl, hget]
    rfl
  cases e with
  | approveTenant call locks bridgeCreation dispatched =>
    obtain ⟨⟨request, tenantId, tenant, approved⟩, hcall, hok⟩ := (Option.any_eq_true ..).mp h
    obtain ⟨hopen, hok⟩ := Bool.and_eq_true_iff.mp hok
    obtain ⟨tenant, rfl, hok⟩ := (Option.any_eq_true ..).mp hok
    obtain rfl : approved = false := (Bool.not_eq_true' _).mp hopen
    obtain ⟨message, db, happrove⟩ := (isOk_approveTenant ..).mpr hok
    have hdb : (step s (.approveTenant call locks bridgeCreation dispatched)).db = db := by
      simp only [step, approveStep, hcall, happrove]
    rw [hdb] at hfree
    obtain ⟨_, _, _, _, _, -, -, -, -, -, hget, -, -, rfl⟩ := approveTenant_eq_ok happrove
    cases hfree.subnet _ _ (htaken hget)
  | createNetwork locks tenantId name =>
    obtain ⟨message, db, hcreate⟩ := (isOk_createNetwork s.db locks tenantId name).mpr h
    have hdb : (step s (.createNetwork locks tenantId name)).db = db := by
      simp only [step, createNetworkStep, hcreate]
    rw [hdb] at hfree
    obtain ⟨_, _, _, _, _, _, hget, -, -, -, rfl⟩ := createNetwork_eq_ok hcreate
    cases hfree.subnet _ _ (htaken hget)
  | _ => cases h

/-- As long as no row is taken the pointers are right, and the step that takes the first one makes
them wrong. -/
theorem backPointers_of_reachable {s : State}
    (h : machine.Reachable (fun s e => allocates s e = false) s) :
    BackPointers s.db ∧ ∀ e, BackPointers (step s e).db ↔ allocates s e = false := by
  have hfree : NothingAllocated s.db := by
    refine h.invariant (fun s => NothingAllocated s.db) ?_ fun s e hs hok => ?_
    · rintro _ ⟨db, hseeded, rfl⟩
      exact ⟨fun id subnet hget => (hseeded.subnets id subnet hget).1,
        fun key vlan hget => by rw [(hseeded.vlans key vlan hget).2]⟩
    · exact nothingAllocated_step hs hok
  have hunlinked := unlinked_of_reachable h
  refine ⟨hunlinked.backPointers_iff.mpr hfree, fun e => ?_⟩
  have hnext : Unlinked (step s e).db :=
    hunlinked.step (fun _ _ => rfl) (fun _ _ => rfl) fun _ => ⟨fun _ _ => rfl, fun _ _ => rfl⟩
  rw [hnext.backPointers_iff]
  constructor
  · exact fun h => Bool.eq_false_iff.mpr fun hallocates => not_nothingAllocated_step hallocates h
  · exact nothingAllocated_step hfree

/-- A tenant is loaded for its approval, and its pointers would be wrong after it. -/
theorem backPointers_small :
    BackPointers (machine.run smallState [.openApproval 0 .admin 1]).db :=
  (backPointers_of_reachable ((Machine.Reachable.start init_smallState).run (by decide))).1

/-- A tenant is approved, and its subnet points to nothing. -/
theorem not_backPointers :
    ¬ ∀ s, machine.Reachable Machine.anyStep s → BackPointers s.db := by
  intro h
  have hright := h _ (Machine.reachable_run init_smallState
    [.openApproval 0 .admin 1, .approveTenant 0 .none (.ok ()) true])
  obtain ⟨_, _, -, -, -, hlink⟩ := hright.subnet_allocated 3 _ rfl rfl
  cases hlink

end ProxmoxIaas.Provisioning
