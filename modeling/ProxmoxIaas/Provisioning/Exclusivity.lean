import ProxmoxIaas.Foundation.Allocation
import ProxmoxIaas.Provisioning.System

/-!
# Exclusive Subnets and VLANs

No two live networks share a subnet or a VLAN of a pod, and the pool rows that are free are
those that no live network uses. This holds as long as a network that is deleted a second
time gives back only rows that nobody else has been given, and no late task writes a status
onto a deleted network.

## Main results

- `ExclusiveNetworks.step`: one step keeps the allocation exclusive.
- `networks_step`, `subnetCidr_step`: what a step does to the networks and to the pool's subnets.
- `subnets_and_vlans_exclusive`: the allocation is exclusive in every state of such a run.
- `subnets_and_vlans_not_exclusive`: it is not in the run in which a tenant deletes a network
  again after its subnet has gone to another tenant.
-/

namespace ProxmoxIaas

/-- The subnet that a network uses while it is live. -/
def TenantNetwork.usedSubnet (network : TenantNetwork) : Option ℕ :=
  if network.live then network.ipPoolId else none

/-- The pod and VLAN tag that a network uses while it is live. -/
def TenantNetwork.usedVlan (network : TenantNetwork) : Option (ℕ × ℕ) :=
  if network.live then network.vlanId.map fun vlanId => (network.podId, vlanId) else none

namespace Provisioning

/-- No two live networks use the same subnet or the same VLAN of a pod, and a pool row is free
exactly when no live network uses it. -/
structure ExclusiveUse (db : Db) : Prop where
  /-- No two live networks hold the same pool row. -/
  subnet_unique : ∀ i j network network' subnetId,
    db.tenantNetworks.get? i = some network → db.tenantNetworks.get? j = some network' →
    network.live = true → network'.live = true →
    network.ipPoolId = some subnetId → network'.ipPoolId = some subnetId → i = j
  /-- No two live networks hold the same subnet. -/
  cidr_unique : ∀ i j network network',
    db.tenantNetworks.get? i = some network → db.tenantNetworks.get? j = some network' →
    network.live = true → network'.live = true → network.cidr = network'.cidr → i = j
  /-- No two live networks hold the same VLAN of a pod. -/
  vlan_unique : ∀ i j network network' vlanId,
    db.tenantNetworks.get? i = some network → db.tenantNetworks.get? j = some network' →
    network.live = true → network'.live = true → network.podId = network'.podId →
    network.vlanId = some vlanId → network'.vlanId = some vlanId → i = j
  /-- A subnet is free exactly when no live network uses it. -/
  subnet_free_iff : ∀ subnetId subnet, db.globalIpPool.get? subnetId = some subnet →
    (subnet.status = .free ↔ ∀ i network, db.tenantNetworks.get? i = some network →
      network.live = true → network.ipPoolId ≠ some subnetId)
  /-- A VLAN is free exactly when no live network uses it. -/
  vlan_free_iff : ∀ podId vlanId vlan, db.vlanAllocations.get? (podId, vlanId) = some vlan →
    (vlan.status = .free ↔ ∀ i network, db.tenantNetworks.get? i = some network →
      network.live = true → network.podId = podId → network.vlanId ≠ some vlanId)

/-- The subnet of each pool row. -/
def subnetCidr (pool : Serial GlobalIPPool) : ℕ → Option String :=
  pool.column fun subnet => some subnet.cidr

/-- The invariant: the two pools are allocated exclusively to the live networks, and every
network has the CIDR of its pool row. -/
structure ExclusiveNetworks (db : Db) : Prop where
  /-- Subnets are allocated exclusively. -/
  subnets : db.globalIpPool.rows.AllocatedTo (·.status = .free)
    (db.tenantNetworks.column (·.usedSubnet))
  /-- VLANs are allocated exclusively. -/
  vlans : db.vlanAllocations.AllocatedTo (·.status = .free)
    (db.tenantNetworks.column (·.usedVlan))
  /-- VLAN tags are positive. -/
  vlan_pos : ∀ key, (db.vlanAllocations.get? key).isSome = true → 0 < key.2
  /-- The subnet of a network is the one of its pool row. -/
  network_subnet : ∀ i network, db.tenantNetworks.get? i = some network →
    ∃ subnetId, network.ipPoolId = some subnetId ∧
      subnetCidr db.globalIpPool subnetId = some network.cidr
  /-- The pool rows have different subnets. -/
  cidr_unique : ∀ id id' cidr, subnetCidr db.globalIpPool id = some cidr →
    subnetCidr db.globalIpPool id' = some cidr → id = id'

/-- What a live network uses is what its row says. -/
private theorem used_of_live {network : TenantNetwork} (hlive : network.live = true) :
    network.usedSubnet = network.ipPoolId ∧
      network.usedVlan = network.vlanId.map fun vlanId => (network.podId, vlanId) :=
  ⟨if_pos hlive, if_pos hlive⟩

/-- A network that is not live uses nothing. -/
private theorem used_of_not_live {network : TenantNetwork} (hlive : network.live = false) :
    network.usedSubnet = none ∧ network.usedVlan = none := by
  simp [TenantNetwork.usedSubnet, TenantNetwork.usedVlan, hlive]

/-- A network uses a subnet exactly when it is live and its row names it. -/
private theorem usedSubnet_eq_some_iff {network : TenantNetwork} {subnetId : ℕ} :
    network.usedSubnet = some subnetId ↔
      network.live = true ∧ network.ipPoolId = some subnetId := by
  unfold TenantNetwork.usedSubnet
  split
  case isTrue h => simp [h]
  case isFalse h => simp [h]

/-- A network uses a VLAN exactly when it is live and its row names it. -/
private theorem usedVlan_eq_some_iff {network : TenantNetwork} {podId vlanId : ℕ} :
    network.usedVlan = some (podId, vlanId) ↔
      network.live = true ∧ network.podId = podId ∧ network.vlanId = some vlanId := by
  unfold TenantNetwork.usedVlan
  split
  case isTrue h => simp [h, and_comm]
  case isFalse h => simp [h]

/-- The invariant says that subnets and VLANs are used exclusively. -/
theorem ExclusiveNetworks.exclusiveUse {db : Db} (h : ExclusiveNetworks db) :
    ExclusiveUse db := by
  have hsubnet : ∀ i network, db.tenantNetworks.get? i = some network →
      network.live = true →
      db.tenantNetworks.column (·.usedSubnet) i = network.ipPoolId := by
    intro i network hget hlive
    rw [Serial.column_of_get? hget, (used_of_live hlive).1]
  have hvlan : ∀ i network vlanId, db.tenantNetworks.get? i = some network →
      network.live = true → network.vlanId = some vlanId →
      db.tenantNetworks.column (·.usedVlan) i = some (network.podId, vlanId) := by
    intro i network vlanId hget hlive hv
    rw [Serial.column_of_get? hget, (used_of_live hlive).2, hv, Option.map_some]
  refine ⟨?_, ?_, ?_, ?_, ?_⟩
  · intro i j network network' subnetId hi hj hlive hlive' hp hp'
    exact h.subnets.unique i j subnetId ((hsubnet i _ hi hlive).trans hp)
      ((hsubnet j _ hj hlive').trans hp')
  · intro i j network network' hi hj hlive hlive' hcidr
    obtain ⟨p, hp, hc⟩ := h.network_subnet i network hi
    obtain ⟨p', hp', hc'⟩ := h.network_subnet j network' hj
    have hpp : p = p' := h.cidr_unique p p' _ hc (hcidr ▸ hc')
    exact h.subnets.unique i j p ((hsubnet i _ hi hlive).trans hp)
      ((hsubnet j _ hj hlive').trans (hpp ▸ hp'))
  · intro i j network network' vlanId hi hj hlive hlive' hpod hv hv'
    exact h.vlans.unique i j (network.podId, vlanId) (hvlan i _ _ hi hlive hv)
      (hpod ▸ hvlan j _ _ hj hlive' hv')
  · intro subnetId subnet hget
    rw [h.subnets.row_free_iff hget]
    simp only [ne_eq, Serial.column_eq_some_iff, usedSubnet_eq_some_iff, not_exists, not_and]
  · intro podId vlanId vlan hget
    rw [h.vlans.row_free_iff hget]
    simp only [ne_eq, Serial.column_eq_some_iff, usedVlan_eq_some_iff, not_exists, not_and]

/-- A seeded database satisfies the invariant. -/
theorem ExclusiveNetworks.of_seeded {db : Db} (h : Seeded db) : ExclusiveNetworks db where
  subnets := .of_unused
    (fun id subnet hget => (h.subnets id subnet hget).1)
    (fun i => congrArg (Option.bind · TenantNetwork.usedSubnet) (h.networks i))
  vlans := .of_unused
    (fun key vlan hget => by rw [(h.vlans key vlan hget).2])
    (fun i => congrArg (Option.bind · TenantNetwork.usedVlan) (h.networks i))
  vlan_pos key hkey := by
    obtain ⟨vlan, hget⟩ := Option.isSome_iff_exists.mp hkey
    exact (h.vlans key vlan hget).1
  network_subnet i network hget := by simp [h.networks i] at hget
  cidr_unique id id' cidr hid hid' := by
    obtain ⟨subnet, hget, hcidr⟩ := Serial.column_eq_some_iff.mp hid
    obtain ⟨subnet', hget', hcidr'⟩ := Serial.column_eq_some_iff.mp hid'
    exact h.cidr_unique id id' subnet subnet' hget hget'
      (Option.some.inj (hcidr.trans hcidr'.symm))

/-- The invariant only depends on the pool rows and the networks that queries return. -/
private theorem ExclusiveNetworks.congr {db db' : Db} (h : ExclusiveNetworks db)
    (hpool : db'.globalIpPool.get? = db.globalIpPool.get?)
    (hvlans : db'.vlanAllocations.get? = db.vlanAllocations.get?)
    (hnetworks : db'.tenantNetworks.get? = db.tenantNetworks.get?) : ExclusiveNetworks db' := by
  have hcidr : subnetCidr db'.globalIpPool = subnetCidr db.globalIpPool :=
    Serial.column_congr hpool _
  exact {
    subnets := by
      rw [Serial.column_congr hnetworks]
      exact h.subnets.congr hpool
    vlans := by
      rw [Serial.column_congr hnetworks]
      exact h.vlans.congr hvlans
    vlan_pos := by rw [hvlans]; exact h.vlan_pos
    network_subnet := by rw [hnetworks, hcidr]; exact h.network_subnet
    cidr_unique := by rw [hcidr]; exact h.cidr_unique }

/-- Handing out a subnet does not change the subnets of the pool rows. -/
private theorem subnetCidr_allocate (pool : Serial GlobalIPPool) (id : ℕ) :
    subnetCidr ((pool.modify id .allocate).modify id (.link none)) = subnetCidr pool := by
  unfold subnetCidr
  rw [Serial.column_modify_of_eq, Serial.column_modify_of_eq]
  all_goals
    intro subnet _
    rfl

/-- Taking back a subnet does not change the subnets of the pool rows. -/
private theorem subnetCidr_release (db : Db) (network : TenantNetwork) :
    subnetCidr (releaseNetworkSubnet db network).globalIpPool = subnetCidr db.globalIpPool := by
  unfold releaseNetworkSubnet
  split
  · unfold subnetCidr
    refine Serial.column_modify_of_eq ?_
    intro subnet _
    rfl
  · rfl

/-- Inserting a live network that uses a free subnet keeps the invariant, provided that the
VLANs stay exclusive. -/
private theorem ExclusiveNetworks.insert_network {db : Db} (h : ExclusiveNetworks db)
    {subnetId : ℕ} {subnet : GlobalIPPool} {network : TenantNetwork}
    {vlans : Table (ℕ × ℕ) VlanAllocation}
    (hget : db.globalIpPool.get? subnetId = some subnet) (hfree : subnet.status = .free)
    (hused : network.usedSubnet = some subnetId) (hcidr : network.cidr = subnet.cidr)
    (hvlans : vlans.AllocatedTo (·.status = .free)
      (Function.update (db.tenantNetworks.column (·.usedVlan)) db.tenantNetworks.next
        network.usedVlan))
    (hpos : ∀ key, (vlans.get? key).isSome = true → 0 < key.2) :
    ExclusiveNetworks { db with
      globalIpPool := (db.globalIpPool.modify subnetId .allocate).modify subnetId (.link none)
      vlanAllocations := vlans
      tenantNetworks := db.tenantNetworks.add network } where
  subnets := by
    rw [Serial.column_add, hused]
    exact (h.subnets.acquire (db.tenantNetworks.column_next _) hget hfree
      GlobalIPPool.allocate_not_free).modify
      fun _ => Iff.rfl
  vlans := by
    rw [Serial.column_add]
    exact hvlans
  vlan_pos := hpos
  network_subnet := by
    intro i row hrow
    rw [subnetCidr_allocate]
    rw [Serial.get?_add] at hrow
    split at hrow
    case isTrue =>
      cases hrow
      refine ⟨subnetId, (usedSubnet_eq_some_iff.mp hused).2, ?_⟩
      rw [subnetCidr, Serial.column_of_get? hget, hcidr]
    case isFalse => exact h.network_subnet i row hrow
  cidr_unique := by
    rw [subnetCidr_allocate]
    exact h.cidr_unique

/-- A committed approval keeps the invariant: its network is untagged. -/
private theorem ExclusiveNetworks.approveTenant {db db' : Db} (h : ExclusiveNetworks db)
    {locks : Locks} {tenantId : ℕ} {tenant : Tenant} {bridgeCreation : Except String Unit}
    {message : ProvisionMessage}
    (hok : ProxmoxIaas.approveTenant db locks tenantId tenant bridgeCreation =
      .ok (message, db')) : ExclusiveNetworks db' := by
  obtain ⟨podId, bridgeId, _, subnetId, subnet, -, -, -, -, -, hget, hfree, -, rfl⟩ :=
    approveTenant_eq_ok hok
  have hvlans : db.vlanAllocations.AllocatedTo (·.status = .free)
      (Function.update (db.tenantNetworks.column (·.usedVlan)) db.tenantNetworks.next
        (approvedNetwork tenantId podId bridgeId (subnetId, subnet)).usedVlan) := by
    have hnone : (approvedNetwork tenantId podId bridgeId (subnetId, subnet)).usedVlan =
        db.tenantNetworks.column (·.usedVlan) db.tenantNetworks.next :=
      (db.tenantNetworks.column_next _).symm
    rw [hnone, Function.update_eq_self]
    exact h.vlans
  exact (h.insert_network hget hfree rfl rfl hvlans h.vlan_pos).congr rfl rfl rfl

/-- A committed `create_network` keeps the invariant. -/
private theorem ExclusiveNetworks.createNetwork {db db' : Db} (h : ExclusiveNetworks db)
    {locks : Locks} {tenantId : ℕ} {name : String} {message : VlanMessage}
    (hok : ProxmoxIaas.createNetwork db locks tenantId name = .ok (message, db')) :
    ExclusiveNetworks db' := by
  obtain ⟨podId, subnetId, subnet, vlanId, vlan, providerRef, hget, hfree, hvget, hvfree, rfl⟩ :=
    createNetwork_eq_ok hok
  refine h.insert_network hget hfree rfl rfl ?_ ?_
  · exact (h.vlans.acquire (db.tenantNetworks.column_next _) hvget hvfree
      VlanAllocation.allocate_not_free).modify
      fun _ => Iff.rfl
  · intro key hkey
    rw [Table.isSome_get?_modify, Table.isSome_get?_modify] at hkey
    exact h.vlan_pos key hkey

/-- Whether a live network uses a subnet. -/
def subnetInUse (db : Db) (subnetId : ℕ) : Bool :=
  (db.tenantNetworks.first? fun _ network => network.usedSubnet = some subnetId).isSome

/-- Whether a live network uses a VLAN of a pod. -/
def vlanInUse (db : Db) (podId vlanId : ℕ) : Bool :=
  (db.tenantNetworks.first? fun _ network =>
    network.usedVlan = some (podId, vlanId)).isSome

/-- A subnet that is not in use is held by nobody. -/
private theorem unheld_of_subnetInUse {db : Db} {subnetId : ℕ}
    (h : subnetInUse db subnetId = false) (i : ℕ) :
    db.tenantNetworks.column (·.usedSubnet) i ≠ some subnetId := by
  intro hi
  obtain ⟨network, hget, hused⟩ := Serial.column_eq_some_iff.mp hi
  have hnone := Option.not_isSome_iff_eq_none.mp (Bool.eq_false_iff.mp h)
  exact of_decide_eq_false (Serial.first?_eq_none_iff.mp hnone i network hget) hused

/-- A VLAN that is not in use is held by nobody. -/
private theorem unheld_of_vlanInUse {db : Db} {podId vlanId : ℕ}
    (h : vlanInUse db podId vlanId = false) (i : ℕ) :
    db.tenantNetworks.column (·.usedVlan) i ≠ some (podId, vlanId) := by
  intro hi
  obtain ⟨network, hget, hused⟩ := Serial.column_eq_some_iff.mp hi
  have hnone := Option.not_isSome_iff_eq_none.mp (Bool.eq_false_iff.mp h)
  exact of_decide_eq_false (Serial.first?_eq_none_iff.mp hnone i network hget) hused

/-- Rewriting other columns of a live network keeps the invariant. -/
private theorem ExclusiveNetworks.rewrite_live {db : Db} (h : ExclusiveNetworks db) {i : ℕ}
    {f : TenantNetwork → TenantNetwork}
    (hsame : ∀ network, (f network).ipPoolId = network.ipPoolId ∧
      (f network).podId = network.podId ∧ (f network).vlanId = network.vlanId ∧
      (f network).cidr = network.cidr)
    (hlive : ∀ network, db.tenantNetworks.get? i = some network →
      network.live = true ∧ (f network).live = true) :
    ExclusiveNetworks { db with tenantNetworks := db.tenantNetworks.modify i f } where
  subnets := by
    rw [Serial.column_modify_of_eq]
    · exact h.subnets
    · intro network hget
      obtain ⟨hold, hnew⟩ := hlive network hget
      rw [(used_of_live hold).1, (used_of_live hnew).1, (hsame network).1]
  vlans := by
    rw [Serial.column_modify_of_eq]
    · exact h.vlans
    · intro network hget
      obtain ⟨hold, hnew⟩ := hlive network hget
      obtain ⟨-, hpod, hvlan, -⟩ := hsame network
      rw [(used_of_live hold).2, (used_of_live hnew).2, hpod, hvlan]
  vlan_pos := h.vlan_pos
  network_subnet := by
    intro j row hrow
    obtain ⟨network, hget, hip, hcidr⟩ : ∃ network, db.tenantNetworks.get? j = some network ∧
        row.ipPoolId = network.ipPoolId ∧ row.cidr = network.cidr := by
      rw [Serial.get?_modify] at hrow
      split at hrow
      · obtain ⟨network, hget, rfl⟩ := Option.map_eq_some_iff.mp hrow
        exact ⟨network, hget, (hsame network).1, (hsame network).2.2.2⟩
      · exact ⟨row, hrow, rfl, rfl⟩
    rw [hip, hcidr]
    exact h.network_subnet j network hget
  cidr_unique := h.cidr_unique

/-- Returning the subnet of a network that nobody else uses keeps the subnets exclusive. -/
private theorem ExclusiveNetworks.return_subnet {db : Db} (h : ExclusiveNetworks db)
    {networkId : ℕ} {network : TenantNetwork}
    (hget : db.tenantNetworks.get? networkId = some network)
    (hown : ∀ subnetId, network.ipPoolId = some subnetId → ∀ i, i ≠ networkId →
      db.tenantNetworks.column (·.usedSubnet) i ≠ some subnetId) :
    (releaseNetworkSubnet db network).globalIpPool.rows.AllocatedTo (·.status = .free)
      (Function.update (db.tenantNetworks.column (·.usedSubnet)) networkId none) := by
  obtain ⟨subnetId, hip, hcidr⟩ := h.network_subnet networkId network hget
  obtain ⟨subnet, hpool, -⟩ := Serial.column_eq_some_iff.mp hcidr
  -- The id of a stored row is positive, so the subnet is returned.
  have htruthy : truthy network.ipPoolId = some subnetId := by
    rw [hip]
    exact Option.filter_eq_some_iff.mpr
      ⟨rfl, decide_eq_true (Serial.bound_of_get? hpool).1.ne'⟩
  rw [releaseNetworkSubnet, htruthy]
  refine h.subnets.release (fun id hid => ?_) (hown subnetId hip) fun _ => rfl
  rw [Serial.column_of_get? hget, usedSubnet_eq_some_iff, hip] at hid
  exact (Option.some.inj hid.2).symm

/-- Returning the VLAN of a network that nobody else uses keeps the VLANs exclusive. -/
private theorem ExclusiveNetworks.return_vlan {db : Db} (h : ExclusiveNetworks db)
    {networkId : ℕ} {network : TenantNetwork}
    (hget : db.tenantNetworks.get? networkId = some network)
    (hown : ∀ vlanId, network.vlanId = some vlanId → ∀ i, i ≠ networkId →
      db.tenantNetworks.column (·.usedVlan) i ≠ some (network.podId, vlanId)) :
    (releaseNetworkVlan db network).vlanAllocations.AllocatedTo (·.status = .free)
      (Function.update (db.tenantNetworks.column (·.usedVlan)) networkId none) := by
  have hcolumn := Serial.column_of_get? (f := (·.usedVlan)) hget
  cases htruthy : truthy network.vlanId with
  | some vlanId =>
    obtain ⟨hvlan, -⟩ := Option.filter_eq_some_iff.mp htruthy
    rw [releaseNetworkVlan, htruthy]
    refine h.vlans.release (fun key hkey => ?_) (hown vlanId hvlan) fun _ => rfl
    rw [hcolumn, usedVlan_eq_some_iff, hvlan] at hkey
    exact Prod.ext hkey.2.1.symm (Option.some.inj hkey.2.2).symm
  | none =>
    -- A network without a positive tag uses no VLAN, since every tag in the pool is positive.
    have hnone : db.tenantNetworks.column (·.usedVlan) networkId = none := by
      cases hused : db.tenantNetworks.column (·.usedVlan) networkId with
      | none => rfl
      | some key =>
        obtain ⟨vlan, hrow⟩ := h.vlans.exists_row hused
        have hpos := h.vlan_pos key (by rw [hrow]; rfl)
        rw [hcolumn, usedVlan_eq_some_iff] at hused
        rw [hused.2.2, truthy, Option.filter_eq_none_iff] at htruthy
        exact absurd (decide_eq_true hpos.ne') (htruthy key.2 rfl)
    rw [releaseNetworkVlan, htruthy, ← hnone, Function.update_eq_self]
    exact h.vlans

/-- A deletion that returns only rows that no other network uses keeps the invariant. -/
private theorem ExclusiveNetworks.deleteNetwork {db db' : Db} (h : ExclusiveNetworks db)
    {tenantId networkId : ℕ}
    (hok : ProxmoxIaas.deleteNetwork db tenantId networkId = .ok db')
    (hown : ∀ network, tenantNetwork? db tenantId networkId = some network →
      network.isDefault = false → network.live = false →
      (∀ subnetId, network.ipPoolId = some subnetId → subnetInUse db subnetId = false) ∧
      ∀ vlanId, network.vlanId = some vlanId → vlanInUse db network.podId vlanId = false) :
    ExclusiveNetworks db' := by
  obtain ⟨network, hget, htenant, hdefault, rfl⟩ := deleteNetwork_eq_ok hok
  have hdeleted {β : Type} (f : TenantNetwork → Option β) (hf : f network.delete = none) :
      (db.tenantNetworks.modify networkId .delete).column f =
        Function.update (db.tenantNetworks.column f) networkId none := by
    rw [Serial.column_modify, hget, Option.bind_some, Function.comp_apply, hf]
  -- Nobody else uses the rows: a live network holds them itself, and those of a network that
  -- is deleted already are not in use.
  have hothers : (∀ subnetId, network.ipPoolId = some subnetId → ∀ i, i ≠ networkId →
        db.tenantNetworks.column (·.usedSubnet) i ≠ some subnetId) ∧
      ∀ vlanId, network.vlanId = some vlanId → ∀ i, i ≠ networkId →
        db.tenantNetworks.column (·.usedVlan) i ≠ some (network.podId, vlanId) := by
    cases hlive : network.live with
    | true =>
      refine ⟨fun subnetId hip i hne hi => hne ?_, fun vlanId hv i hne hi => hne ?_⟩
      · refine h.subnets.unique i networkId subnetId hi ?_
        rw [Serial.column_of_get? hget, usedSubnet_eq_some_iff]
        exact ⟨hlive, hip⟩
      · refine h.vlans.unique i networkId (network.podId, vlanId) hi ?_
        rw [Serial.column_of_get? hget, usedVlan_eq_some_iff]
        exact ⟨hlive, rfl, hv⟩
    | false =>
      obtain ⟨hsubnet, hvlan⟩ := hown network
        (Option.filter_eq_some_iff.mpr ⟨hget, decide_eq_true htenant⟩) hdefault hlive
      exact ⟨fun subnetId hip i _ => unheld_of_subnetInUse (hsubnet subnetId hip) i,
        fun vlanId hv i _ => unheld_of_vlanInUse (hvlan vlanId hv) i⟩
  have hcidrs := subnetCidr_release db network
  exact {
    subnets := by
      rw [hdeleted _ (used_of_not_live rfl).1]
      exact h.return_subnet hget hothers.1
    vlans := by
      rw [hdeleted _ (used_of_not_live rfl).2]
      exact h.return_vlan hget hothers.2
    vlan_pos := by
      intro key hkey
      refine h.vlan_pos key ?_
      unfold releaseNetworkVlan at hkey
      split at hkey
      · rwa [releaseVlan, Table.isSome_get?_modify] at hkey
      · exact hkey
    network_subnet := by
      intro i row hrow
      rw [hcidrs]
      rw [Serial.get?_modify] at hrow
      split at hrow
      · obtain ⟨old, hold, rfl⟩ := Option.map_eq_some_iff.mp hrow
        exact h.network_subnet i old hold
      · exact h.network_subnet i row hrow
    cidr_unique := by
      rw [hcidrs]
      exact h.cidr_unique }

/-- No row under a network id is a deleted network. -/
def liveOrAbsent (db : Db) (networkId : ℕ) : Bool :=
  (db.tenantNetworks.get? networkId).all (·.live)

/-- A deletion returns only rows that no other network uses: the network it addresses is still
live, or no live network has been given its subnet or its VLAN. -/
def returnsOwnRows (db : Db) (tenantId networkId : ℕ) : Bool :=
  (tenantNetwork? db tenantId networkId).all fun network =>
    network.isDefault || network.live ||
      (network.ipPoolId.all fun subnetId => !subnetInUse db subnetId) &&
      network.vlanId.all fun vlanId => !vlanInUse db network.podId vlanId

/-- The condition on a step: a deletion returns only rows that no other network uses, and a
run of `create_opnsense_vlan` writes no status onto a deleted network. -/
def ownersAct (s : State) : Event → Bool
  | .deleteNetwork tenantId networkId => returnsOwnRows s.db tenantId networkId
  | .markVlan run => (s.vlanRuns.get? run).all fun vlanRun =>
      vlanRun.phase != .looked || !vlanRun.networkExists ||
        liveOrAbsent s.db vlanRun.networkId
  | .finishVlan run _ => (s.vlanRuns.get? run).all fun vlanRun =>
      vlanRun.phase != .provisioning || liveOrAbsent s.db vlanRun.networkId
  | .failVlan run => (s.vlanRuns.get? run).all fun vlanRun =>
      !vlanRun.networkExists || liveOrAbsent s.db vlanRun.networkId
  | _ => true

/-- Writing a status other than deleted onto a live network keeps the invariant. -/
private theorem ExclusiveNetworks.write_status {db : Db} (h : ExclusiveNetworks db)
    {networkId : ℕ} {f : TenantNetwork → TenantNetwork}
    (hsame : ∀ network, (f network).ipPoolId = network.ipPoolId ∧
      (f network).podId = network.podId ∧ (f network).vlanId = network.vlanId ∧
      (f network).cidr = network.cidr)
    (hstatus : ∀ network, (f network).live = true)
    (htarget : liveOrAbsent db networkId = true) :
    ExclusiveNetworks { db with tenantNetworks := db.tenantNetworks.modify networkId f } := by
  refine h.rewrite_live hsame fun network hget => ⟨?_, hstatus network⟩
  rw [liveOrAbsent, hget] at htarget
  exact htarget

/-- One step keeps subnets and VLANs exclusive. -/
theorem ExclusiveNetworks.step {s : State} {e : Event} (h : ExclusiveNetworks s.db)
    (hok : ownersAct s e = true) : ExclusiveNetworks (step s e).db := by
  cases e with
  | openApproval call request tenantId => exact (openApproval_db s call request tenantId) ▸ h
  | reloadTenant call => exact (reloadStep_db s call) ▸ h
  | openRelease call bridgeId => exact (openRelease_db s call bridgeId) ▸ h
  | beginProvision run index => exact (beginStep_db s run index) ▸ h
  | lookUpVlan => exact h
  | destroyTenant => exact h
  -- These write tenants and bridges only.
  | resetTenant call =>
    rcases resetStep_db s call with heq | ⟨_, _, -, -, heq⟩
    · exact heq ▸ h
    · exact heq ▸ h.congr rfl rfl rfl
  | verifyTenant call =>
    rcases verifyStep_db s call with heq | ⟨_, heq⟩
    · exact heq ▸ h
    · exact heq ▸ h.congr rfl rfl rfl
  | releaseBridge call =>
    rcases releaseStep_db s call with heq | ⟨_, _, _, -, heq⟩
    · exact heq ▸ h
    · exact heq ▸ h.congr rfl rfl rfl
  | stepProvision run step =>
    rcases provisionStep_db s run step with heq | ⟨_, _, -, -, heq⟩
    · exact heq ▸ h
    · exact heq ▸ h.congr rfl rfl rfl
  | approveTenant call locks bridgeCreation dispatched =>
    rcases approveStep_db s call locks bridgeCreation dispatched with
      heq | ⟨_, _, _, _, _, -, happrove, heq⟩
    · exact heq ▸ h
    · exact heq ▸ h.approveTenant happrove
  | createNetwork locks tenantId name =>
    rcases createNetworkStep_db s locks tenantId name with heq | ⟨_, _, hcreate, heq⟩
    · exact heq ▸ h
    · exact heq ▸ h.createNetwork hcreate
  | deleteNetwork tenantId networkId =>
    rcases deleteNetworkStep_db s tenantId networkId with heq | ⟨_, hdelete, heq⟩
    · exact heq ▸ h
    · refine heq ▸ h.deleteNetwork hdelete fun network hget hdefault hlive => ?_
      rw [ownersAct, returnsOwnRows, hget] at hok
      simp only [Option.all_some, hdefault, hlive, Bool.false_or, Bool.and_eq_true,
        Option.all_eq_true, Bool.not_eq_eq_eq_not, Bool.not_true] at hok
      exact hok
  | markVlan run =>
    rcases markStep_db s run with heq | ⟨vlanRun, hrun, hphase, heq⟩
    · exact heq ▸ h
    · rw [Provisioning.step, heq, vlanMark]
      split
      case isTrue hexists =>
        refine h.write_status (fun _ => ⟨rfl, rfl, rfl, rfl⟩) (fun _ => rfl) ?_
        simpa [ownersAct, hrun, hphase, hexists] using hok
      case isFalse => exact h
  | finishVlan run optName =>
    rcases finishStep_db s run optName with heq | ⟨vlanRun, hrun, hphase, heq⟩
    · exact heq ▸ h
    · rw [Provisioning.step, heq]
      refine h.write_status (fun _ => ⟨rfl, rfl, rfl, rfl⟩) (fun _ => rfl) ?_
      simpa [ownersAct, hrun, hphase] using hok
  | failVlan run =>
    rcases failStep_db s run with heq | ⟨vlanRun, hrun, heq⟩
    · exact heq ▸ h
    · rw [Provisioning.step, heq, vlanFail]
      split
      case isTrue hexists =>
        refine h.write_status (fun _ => ⟨rfl, rfl, rfl, rfl⟩) (fun _ => rfl) ?_
        simpa [ownersAct, hrun, hexists] using hok
      case isFalse => exact h
  | reorder row =>
    cases row with
    | pod id => exact h.congr rfl rfl rfl
    | bridge id => exact h.congr rfl rfl rfl
    | subnet id => exact h.congr (funext fun _ => Serial.get?_toFront ..) rfl rfl
    | vlan key => exact h.congr rfl (funext fun _ => Table.get?_toFront ..) rfl
    | network id => exact h.congr rfl rfl (funext fun _ => Serial.get?_toFront ..)

/-- In every run whose deletions return only rows that no other network uses, and whose VLAN
tasks write no status onto a deleted network, subnets and VLANs are used exclusively. -/
theorem subnets_and_vlans_exclusive {s : State}
    (h : machine.Reachable (fun s e => ownersAct s e = true) s) : ExclusiveUse s.db := by
  have hinv : ExclusiveNetworks s.db := by
    refine h.invariant (fun s => ExclusiveNetworks s.db) ?_ ?_
    · rintro _ ⟨db, hseeded, rfl⟩
      exact .of_seeded hseeded
    · intro s e hs hok
      exact hs.step hok
  exact hinv.exclusiveUse

/-- The subnets that are locked while a step allocates one. -/
def lockedSubnets : Event → Option (List ℕ)
  | .approveTenant _ locks _ _ => some locks.subnets
  | .createNetwork locks _ _ => some locks.subnets
  | _ => none

/-- What a step does to the networks: nothing, one network more that has the offered subnet, or a
write to one network that keeps its subnet and, under the condition on steps, does not revive it. -/
theorem networks_step (s : State) (e : Event) :
    (step s e).db.tenantNetworks.get? = s.db.tenantNetworks.get? ∨
    (∃ locked subnet network, lockedSubnets e = some locked ∧
      offeredSubnet? s.db locked = some subnet ∧ network.cidr = subnet.2.cidr ∧
      (step s e).db.tenantNetworks = s.db.tenantNetworks.add network) ∨
    ∃ id f, (step s e).db.tenantNetworks = s.db.tenantNetworks.modify id f ∧
      (∀ network, (f network).cidr = network.cidr) ∧
      (ownersAct s e = true → ∀ network, s.db.tenantNetworks.get? id = some network →
        (f network).live = true → network.live = true) := by
  -- A run of the VLAN task writes a status other than deleted.
  have hrevive : ∀ {id : ℕ} {f : TenantNetwork → TenantNetwork},
      (ownersAct s e = true → liveOrAbsent s.db id = true) →
      ownersAct s e = true → ∀ network, s.db.tenantNetworks.get? id = some network →
        (f network).live = true → network.live = true := by
    intro id f htarget hok network hget _
    have := htarget hok
    rw [liveOrAbsent, hget] at this
    exact this
  cases e with
  | openApproval call request tenantId =>
    exact Or.inl (by rw [step, openApproval_db])
  | reloadTenant call => exact Or.inl (by rw [step, reloadStep_db])
  | openRelease call bridgeId => exact Or.inl (by rw [step, openRelease_db])
  | beginProvision run index => exact Or.inl (by rw [step, beginStep_db])
  | lookUpVlan => exact Or.inl rfl
  | destroyTenant => exact Or.inl rfl
  | resetTenant call =>
    rcases resetStep_db s call with heq | ⟨_, _, -, -, heq⟩
    · exact Or.inl (by rw [step, heq])
    · exact Or.inl (by rw [step, heq, resetTenant])
  | verifyTenant call =>
    rcases verifyStep_db s call with heq | ⟨_, heq⟩
    · exact Or.inl (by rw [step, heq])
    · exact Or.inl (by rw [step, heq, verifyTenant])
  | releaseBridge call =>
    rcases releaseStep_db s call with heq | ⟨_, _, _, -, heq⟩
    · exact Or.inl (by rw [step, heq])
    · rw [step, heq]
      exact Or.inl rfl
  | stepProvision run step =>
    rcases provisionStep_db s run step with heq | ⟨_, _, -, -, heq⟩ <;>
      exact Or.inl (by rw [Provisioning.step, heq])
  | approveTenant call locks bridgeCreation dispatched =>
    rcases approveStep_db s call locks bridgeCreation dispatched with
      heq | ⟨_, _, _, _, _, -, happrove, heq⟩
    · exact Or.inl (by rw [step, heq])
    · obtain ⟨subnet, network, hoffered, hcidr, hadd⟩ := approveTenant_offered happrove
      exact Or.inr (Or.inl ⟨_, subnet, network, rfl, hoffered, hcidr, by rw [step, heq, hadd]⟩)
  | createNetwork locks tenantId name =>
    rcases createNetworkStep_db s locks tenantId name with heq | ⟨_, _, hcreate, heq⟩
    · exact Or.inl (by rw [step, heq])
    · obtain ⟨subnet, network, hoffered, hcidr, -, hadd⟩ := createNetwork_offered hcreate
      exact Or.inr (Or.inl ⟨_, subnet, network, rfl, hoffered, hcidr, by rw [step, heq, hadd]⟩)
  | deleteNetwork tenantId networkId =>
    rcases deleteNetworkStep_db s tenantId networkId with heq | ⟨_, hdelete, heq⟩
    · exact Or.inl (by rw [step, heq])
    · obtain ⟨_, -, -, -, rfl⟩ := deleteNetwork_eq_ok hdelete
      exact Or.inr (Or.inr ⟨networkId, .delete, by rw [step, heq], fun _ => rfl,
        fun _ _ _ hlive => Bool.noConfusion hlive⟩)
  | markVlan run =>
    rcases markStep_db s run with heq | ⟨vlanRun, hrun, hphase, heq⟩
    · exact Or.inl (by rw [step, heq])
    · cases hexists : vlanRun.networkExists with
      | false => exact Or.inl (by rw [step, heq, vlanMark, hexists]; rfl)
      | true =>
        refine Or.inr (Or.inr ⟨vlanRun.networkId, fun network =>
          { network with status := .provisioning }, ?_, fun _ => rfl, hrevive fun hok => ?_⟩)
        · rw [step, heq, vlanMark, hexists, if_pos rfl, setNetworkStatus]
        · simpa [ownersAct, hrun, hphase, hexists] using hok
  | finishVlan run optName =>
    rcases finishStep_db s run optName with heq | ⟨vlanRun, hrun, hphase, heq⟩
    · exact Or.inl (by rw [step, heq])
    · refine Or.inr (Or.inr ⟨vlanRun.networkId, fun network =>
        { network with status := .active, opnsenseInterface := some optName }, ?_, fun _ => rfl,
        hrevive fun hok => ?_⟩)
      · rw [step, heq, vlanFinish]
      · simpa [ownersAct, hrun, hphase] using hok
  | failVlan run =>
    rcases failStep_db s run with heq | ⟨vlanRun, hrun, heq⟩
    · exact Or.inl (by rw [step, heq])
    · cases hexists : vlanRun.networkExists with
      | false => exact Or.inl (by rw [step, heq, vlanFail, hexists]; rfl)
      | true =>
        refine Or.inr (Or.inr ⟨vlanRun.networkId, fun network => { network with status := .error },
          ?_, fun _ => rfl, hrevive fun hok => ?_⟩)
        · rw [step, heq, vlanFail, hexists, if_pos rfl, setNetworkStatus]
        · simpa [ownersAct, hrun, hexists] using hok
  | reorder row =>
    cases row with
    | network id => exact Or.inl (funext fun _ => Serial.get?_toFront ..)
    | _ => exact Or.inl rfl

/-- No step changes the subnets of the pool rows. -/
theorem subnetCidr_step (s : State) (e : Event) :
    subnetCidr (step s e).db.globalIpPool = subnetCidr s.db.globalIpPool := by
  cases e with
  | openApproval call request tenantId => rw [step, openApproval_db]
  | reloadTenant call => rw [step, reloadStep_db]
  | openRelease call bridgeId => rw [step, openRelease_db]
  | beginProvision run index => rw [step, beginStep_db]
  | lookUpVlan => rfl
  | destroyTenant => rfl
  | resetTenant call =>
    rcases resetStep_db s call with heq | ⟨_, _, -, -, heq⟩
    · rw [step, heq]
    · rw [step, heq, resetTenant]
  | verifyTenant call =>
    rcases verifyStep_db s call with heq | ⟨_, heq⟩
    · rw [step, heq]
    · rw [step, heq, verifyTenant]
  | releaseBridge call =>
    rcases releaseStep_db s call with heq | ⟨_, _, _, -, heq⟩
    · rw [step, heq]
    · rw [step, heq]
      rfl
  | stepProvision run step =>
    rcases provisionStep_db s run step with heq | ⟨_, _, -, -, heq⟩ <;> rw [Provisioning.step, heq]
  -- only the status and the link of a row of the pool are ever written
  | approveTenant call locks bridgeCreation dispatched =>
    rcases approveStep_db s call locks bridgeCreation dispatched with
      heq | ⟨_, _, _, _, _, -, happrove, heq⟩
    · rw [step, heq]
    · obtain ⟨_, _, _, _, _, -, -, -, -, -, -, -, -, rfl⟩ := approveTenant_eq_ok happrove
      rw [step, heq]
      exact subnetCidr_allocate _ _
  | createNetwork locks tenantId name =>
    rcases createNetworkStep_db s locks tenantId name with heq | ⟨_, _, hcreate, heq⟩
    · rw [step, heq]
    · obtain ⟨_, _, _, _, _, _, -, -, -, -, rfl⟩ := createNetwork_eq_ok hcreate
      rw [step, heq]
      exact subnetCidr_allocate _ _
  | deleteNetwork tenantId networkId =>
    rcases deleteNetworkStep_db s tenantId networkId with heq | ⟨_, hdelete, heq⟩
    · rw [step, heq]
    · obtain ⟨network, -, -, -, rfl⟩ := deleteNetwork_eq_ok hdelete
      rw [step, heq]
      exact subnetCidr_release _ _
  | markVlan run =>
    rcases markStep_db s run with heq | ⟨vlanRun, -, -, heq⟩
    · rw [step, heq]
    · rw [step, heq, vlanMark]
      split <;> rfl
  | finishVlan run optName =>
    rcases finishStep_db s run optName with heq | ⟨vlanRun, -, -, heq⟩ <;> rw [step, heq]
    rfl
  | failVlan run =>
    rcases failStep_db s run with heq | ⟨vlanRun, -, heq⟩
    · rw [step, heq]
    · rw [step, heq, vlanFail]
      split <;> rfl
  | reorder row =>
    cases row with
    | subnet id => exact Serial.column_congr (funext fun _ => Serial.get?_toFront ..) _
    | _ => rfl

/-- Both tenants are approved, and the first one creates and deletes a network. -/
def firstNetwork : List Event :=
  [.openApproval 0 .admin 1, .approveTenant 0 .none (.ok ()) true,
    .openApproval 1 .admin 2, .approveTenant 1 .none (.ok ()) true,
    .createNetwork .none 1 "app", .deleteNetwork 1 3]

/-- The first tenant deletes its network again before anyone else is given its subnet, and a
VLAN task of the second tenant's network runs to its end. -/
theorem subnets_and_vlans_exclusive_small : ExclusiveUse (machine.run smallState
    (firstNetwork ++ [.deleteNetwork 1 3, .createNetwork .none 2 "db",
      .lookUpVlan 0 ⟨2, 11, some "198.51.100.7", some "key", some "secret"⟩,
      .markVlan 0, .finishVlan 0 "opt1"])).db :=
  subnets_and_vlans_exclusive ((Machine.Reachable.start init_smallState).run (by decide))

/-- The first tenant deletes its network again after its subnet and VLAN have gone to the
second tenant. They are handed out a second time. -/
theorem subnets_and_vlans_not_exclusive :
    ¬ ∀ s, machine.Reachable Machine.anyStep s → ExclusiveUse s.db := by
  intro h
  have huse := h _ (Machine.reachable_run init_smallState
    (firstNetwork ++ [.createNetwork .none 2 "db", .deleteNetwork 1 3,
      .createNetwork .none 1 "app"]))
  have hsame : (4 : ℕ) = 5 := huse.subnet_unique 4 5 _ _ 1 rfl rfl rfl rfl rfl rfl
  exact absurd hsame (by decide)

end Provisioning

end ProxmoxIaas
