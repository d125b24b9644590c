import ProxmoxIaas.Provisioning.Ipam

/-!
# Tenant Networks

The endpoints that create and delete additional networks, and the bookkeeping of the task
that configures a network's VLAN on the tenant's OPNsense VM. Between its commits the task
only talks to the VM, so a run of the task is the sequence of its database sessions: the
lookup, the mark as provisioning, and the final status.

## Main results

- `createNetwork_eq_ok`, `deleteNetwork_eq_ok`: what a committed request changed.
-/

namespace ProxmoxIaas

/-- The rows that concurrent transactions hold locked while a request runs. -/
structure Locks where
  /-- Locked rows of `pods`. -/
  pods : List ℕ
  /-- Locked rows of `global_ip_pool`. -/
  subnets : List ℕ
  /-- Locked rows of `vlan_allocations`. -/
  vlans : List (ℕ × ℕ)

/-- No row is locked. -/
def Locks.none : Locks := ⟨[], [], []⟩

/-- Set the back-pointer of a subnet. The id of a network is assigned when it is flushed, so
a network that has not been flushed has no id. -/
def GlobalIPPool.link (networkId : Option ℕ) (row : GlobalIPPool) : GlobalIPPool :=
  { row with tenantNetworkId := networkId }

/-- Set the back-pointer of a VLAN. -/
def VlanAllocation.link (networkId : Option ℕ) (row : VlanAllocation) : VlanAllocation :=
  { row with tenantNetworkId := networkId }

/-- The default network of a tenant. -/
def defaultNetwork? (db : Db) (tenantId : ℕ) : Option (ℕ × TenantNetwork) :=
  db.tenantNetworks.first? fun _ network =>
    network.tenantId = tenantId ∧ network.isDefault = true

/-- The arguments `create_network` dispatches `create_opnsense_vlan` with. -/
structure VlanMessage where
  /-- The tenant. -/
  tenantId : ℕ
  /-- The VLAN tag to configure. -/
  vlanTag : ℕ
  /-- The address of the VLAN interface. -/
  ipAddress : String
  /-- The prefix length of the VLAN interface. -/
  subnet : ℕ
  deriving DecidableEq, Repr

/-- The network row that `create_network` inserts. -/
def additionalNetwork (tenantId podId : ℕ) (subnet : ℕ × GlobalIPPool) (vlanId : ℕ)
    (name : String) (providerRef : Option String) : TenantNetwork where
  tenantId := tenantId
  podId := podId
  ipPoolId := some subnet.1
  cidr := subnet.2.cidr
  gatewayIp := subnet.2.gatewayIp
  vlanId := some vlanId
  name := name
  isDefault := false
  status := .pending
  providerRef := providerRef
  opnsenseInterface := none

/-- Create an additional network for a tenant: it gets its own subnet and VLAN tag, and
shares the bridge of the default network. -/
def createNetwork (db : Db) (locks : Locks) (tenantId : ℕ) (name : String) :
    Except ApiError (VlanMessage × Db) := do
  let tenant ← Except.ofOption (.http 404 "Tenant not found") (db.tenants.get? tenantId)
  let podId ← Except.ofOption
    (.http 400 "Tenant not fully provisioned — no pod assigned") (truthy tenant.podId)
  let (subnet, db) ← allocateSubnet db locks.subnets
  let (vlanId, db) ← allocateVlan db locks.vlans podId
  let (_, defaultNetwork) ← Except.ofOption
    (.http 400 "Tenant has no default network") (defaultNetwork? db tenantId)
  let network := additionalNetwork tenantId podId subnet vlanId name defaultNetwork.providerRef
  -- Both back-pointers are copied from the network before it has an id.
  let db := { db with
    globalIpPool := db.globalIpPool.modify subnet.1 (.link none)
    vlanAllocations := db.vlanAllocations.modify (podId, vlanId) (.link none)
    tenantNetworks := db.tenantNetworks.add network }
  let message := { tenantId, vlanTag := vlanId, ipAddress := subnet.2.gatewayIp, subnet := 24 }
  return (message, db)

/-- Mark a network as deleted. -/
def TenantNetwork.delete (network : TenantNetwork) : TenantNetwork :=
  { network with status := .deleted }

/-- Return the subnet of a network to the pool, if it has one. -/
def releaseNetworkSubnet (db : Db) (network : TenantNetwork) : Db :=
  match truthy network.ipPoolId with
  | some ipPoolId => releaseSubnet db ipPoolId
  | none => db

/-- Return the VLAN of a network to its pod, if it has one. -/
def releaseNetworkVlan (db : Db) (network : TenantNetwork) : Db :=
  match truthy network.vlanId with
  | some vlanId => releaseVlan db network.podId vlanId
  | none => db

/-- The network that a request of a tenant addresses. -/
def tenantNetwork? (db : Db) (tenantId networkId : ℕ) : Option TenantNetwork :=
  (db.tenantNetworks.get? networkId).filter fun network => network.tenantId = tenantId

/-- Delete a non-default network and return its subnet and VLAN to their pools. The status
of the network is not looked at. -/
def deleteNetwork (db : Db) (tenantId networkId : ℕ) : Except ApiError Db := do
  let network ← Except.ofOption (.http 404 "Network not found")
    (tenantNetwork? db tenantId networkId)
  Except.require (.http 400 "Cannot delete the default network") (network.isDefault = false)
  let db := releaseNetworkSubnet db network
  let db := releaseNetworkVlan db network
  return { db with tenantNetworks := db.tenantNetworks.modify networkId .delete }

/-- How far a run of `create_opnsense_vlan` has come. -/
inductive VlanPhase where
  /-- The lookup session raised an error. -/
  | raised (error : ApiError)
  /-- The lookup session found its data. -/
  | looked
  /-- The network is marked as provisioning, and the VM is being configured. -/
  | provisioning
  deriving DecidableEq, Repr

/-- A run of `create_opnsense_vlan` between two of its database sessions. -/
structure VlanRun where
  /-- The network the run reports on. -/
  networkId : ℕ
  /-- Whether the lookup found a network. -/
  networkExists : Bool
  /-- How far the run has come. -/
  phase : VlanPhase
  deriving DecidableEq, Repr

/-- The arguments of a run of `create_opnsense_vlan` that its database sessions use. -/
structure VlanArguments where
  /-- The tenant. -/
  tenantId : ℕ
  /-- The VLAN tag. -/
  vlanTag : ℕ
  /-- WAN address given by the caller. -/
  wanIp : Option String
  /-- API key given by the caller. -/
  apiKey : Option String
  /-- API secret given by the caller. -/
  apiSecret : Option String
  deriving DecidableEq, Repr

/-- The arguments of a run that was dispatched by `create_network`. -/
def VlanMessage.arguments (message : VlanMessage) : VlanArguments where
  tenantId := message.tenantId
  vlanTag := message.vlanTag
  wanIp := none
  apiKey := none
  apiSecret := none

/-- The network with a VLAN tag that the task looks up. -/
def vlanNetwork? (db : Db) (tenantId vlanTag : ℕ) : Option (ℕ × TenantNetwork) :=
  db.tenantNetworks.first? fun _ network => network.tenantId = tenantId ∧
    network.vlanId = some vlanTag ∧ network.status ∈ [NetworkStatus.active, .pending]

/-- The checks of the lookup session on the data of the tenant. -/
def vlanCredentials (tenant : Tenant) (arguments : VlanArguments) : Except ApiError Unit := do
  let wanIp := (truthyText arguments.wanIp).or (truthyText tenant.wanIp)
  let apiKey := (truthyText arguments.apiKey).or (truthyText tenant.opnsenseApiKey)
  let apiSecret := (truthyText arguments.apiSecret).or (truthyText tenant.opnsenseApiSecret)
  Except.require (.valueError s!"Tenant {arguments.tenantId} has no WAN IP")
    (wanIp.isSome = true)
  Except.require (.valueError s!"Tenant {arguments.tenantId} has no OPNsense API credentials")
    (apiKey.isSome = true ∧ apiSecret.isSome = true)

/-- The phase after the checks of the lookup session. -/
def VlanPhase.ofResult : Except ApiError Unit → VlanPhase
  | .ok _ => .looked
  | .error e => .raised e

/-- The lookup session: the run falls back to the VLAN tag as network id. -/
def vlanLookup (db : Db) (arguments : VlanArguments) : VlanRun :=
  match db.tenants.get? arguments.tenantId with
  | none =>
    { networkId := arguments.vlanTag, networkExists := false,
      phase := .raised (.valueError s!"Tenant {arguments.tenantId} not found") }
  | some tenant =>
    let phase := VlanPhase.ofResult (vlanCredentials tenant arguments)
    match vlanNetwork? db arguments.tenantId arguments.vlanTag with
    | some (id, _) => { networkId := id, networkExists := true, phase }
    | none => { networkId := arguments.vlanTag, networkExists := false, phase }

/-- Write the status of the network with an id, if there is one. -/
def setNetworkStatus (db : Db) (networkId : ℕ) (status : NetworkStatus) : Db :=
  { db with
    tenantNetworks := db.tenantNetworks.modify networkId fun network =>
      { network with status := status } }

/-- The session that marks the network as provisioning. -/
def vlanMark (db : Db) (run : VlanRun) : Db :=
  if run.networkExists then setNetworkStatus db run.networkId .provisioning else db

/-- The session at the end of a run that completed all its steps. It does not ask whether
the lookup had found a network. -/
def vlanFinish (db : Db) (run : VlanRun) (optName : String) : Db :=
  { db with
    tenantNetworks := db.tenantNetworks.modify run.networkId fun network =>
      { network with status := .active, opnsenseInterface := some optName } }

/-- The session of the error path. -/
def vlanFail (db : Db) (run : VlanRun) : Db :=
  if run.networkExists then setNetworkStatus db run.networkId .error else db

/-- A committed `create_network` took a free subnet and a free VLAN of the tenant's pod, and
inserted a network that uses them. -/
theorem createNetwork_eq_ok {db db' : Db} {locks : Locks} {tenantId : ℕ} {name : String}
    {message : VlanMessage} (h : createNetwork db locks tenantId name = .ok (message, db')) :
    ∃ podId subnetId subnet vlanId vlan providerRef,
      db.globalIpPool.get? subnetId = some subnet ∧ subnet.status = .free ∧
      db.vlanAllocations.get? (podId, vlanId) = some vlan ∧ vlan.status = .free ∧
      db' = { db with
        globalIpPool := (db.globalIpPool.modify subnetId .allocate).modify subnetId (.link none)
        vlanAllocations := (db.vlanAllocations.modify (podId, vlanId) .allocate).modify
          (podId, vlanId) (.link none)
        tenantNetworks := db.tenantNetworks.add
          (additionalNetwork tenantId podId (subnetId, subnet) vlanId name providerRef) } := by
  simp only [createNetwork, Except.bind_eq_ok_iff, Except.ofOption_eq_ok_iff,
    Except.pure_eq_ok_iff, Prod.exists, Prod.mk.injEq] at h
  obtain ⟨tenant, -, podId, -, subnetId, subnet, db₁, hsubnet, vlanId, db₂, hvlan,
    _, defaultNetwork, -, -, rfl⟩ := h
  obtain ⟨hget, -, hfree, rfl⟩ := allocateSubnet_eq_ok hsubnet
  obtain ⟨vlan, hvget, -, hvfree, rfl⟩ := allocateVlan_eq_ok hvlan
  exact ⟨podId, subnetId, subnet, vlanId, vlan, defaultNetwork.providerRef, hget, hfree, hvget,
    hvfree, rfl⟩

/-- The network of a committed `create_network` is live and has the subnet that was offered. -/
theorem createNetwork_offered {db db' : Db} {locks : Locks} {tenantId : ℕ} {name : String}
    {message : VlanMessage} (h : createNetwork db locks tenantId name = .ok (message, db')) :
    ∃ subnet network, offeredSubnet? db locks.subnets = some subnet ∧
      network.cidr = subnet.2.cidr ∧ network.live = true ∧
      db'.tenantNetworks = db.tenantNetworks.add network := by
  simp only [createNetwork, Except.bind_eq_ok_iff, Except.pure_eq_ok_iff, Prod.exists,
    Prod.mk.injEq] at h
  obtain ⟨_, -, _, -, subnetId, subnet, db₁, hsubnet, vlanId, db₂, hvlan, _, _, -, -, rfl⟩ := h
  obtain ⟨-, -, -, rfl⟩ := allocateSubnet_eq_ok hsubnet
  obtain ⟨_, -, -, -, rfl⟩ := allocateVlan_eq_ok hvlan
  exact ⟨_, _, allocateSubnet_offered hsubnet, rfl, rfl, rfl⟩

/-- A committed `delete_network` addressed a non-default network of the tenant, marked it as
deleted and returned its subnet and VLAN. -/
theorem deleteNetwork_eq_ok {db db' : Db} {tenantId networkId : ℕ}
    (h : deleteNetwork db tenantId networkId = .ok db') :
    ∃ network, db.tenantNetworks.get? networkId = some network ∧
      network.tenantId = tenantId ∧ network.isDefault = false ∧
      db' = { db with
        globalIpPool := (releaseNetworkSubnet db network).globalIpPool
        vlanAllocations := (releaseNetworkVlan db network).vlanAllocations
        tenantNetworks := db.tenantNetworks.modify networkId .delete } := by
  simp only [deleteNetwork, tenantNetwork?, Except.bind_eq_ok_iff, Except.ofOption_eq_ok_iff,
    Option.filter_eq_some_iff, decide_eq_true_eq, Except.require_eq_ok_iff,
    Except.pure_eq_ok_iff] at h
  obtain ⟨network, ⟨hget, htenant⟩, -, hdefault, rfl⟩ := h
  refine ⟨network, hget, htenant, hdefault, ?_⟩
  unfold releaseNetworkVlan releaseNetworkSubnet
  split <;> split <;> rfl

end ProxmoxIaas
