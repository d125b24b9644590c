import ProxmoxIaas.Foundation.Result
import ProxmoxIaas.Foundation.Table
import Mathlib.Data.List.MinMax

/-!
# Provisioning Records

The rows that tenant provisioning and tenant networks read and write: tenants, pods, the
bridge pool, the global pool of subnets, the VLAN allocations of each pod and the tenant
networks. A `Db` is the committed content of these tables.

Requests work on a session that does not autoflush and is committed once, so a request is a
function from the committed database to an error, which leaves it unchanged, or to the
database it commits. A session writes only the columns it changed since it loaded the row;
`writeColumn` is that rule for one column.
-/

namespace ProxmoxIaas

/-- The ways a request or a task can fail. -/
inductive ApiError where
  /-- `HTTPException` with its status code and detail. -/
  | http (status : ℕ) (detail : String)
  /-- `ValueError` with its message. -/
  | valueError (message : String)
  deriving DecidableEq, Repr

/-- The error of a violated constraint of the database. -/
def integrityError : ApiError := .http 500 "Internal Server Error"

/-- The truthiness of an optional integer column: `None` and zero count as absent. -/
def truthy (v : Option ℕ) : Option ℕ := v.filter (· ≠ 0)

/-- The truthiness of an optional text column: `None` and the empty text count as absent. -/
def truthyText (v : Option String) : Option String := v.filter (· ≠ "")

/-- The value of a column after a session assigned `value` to it and was committed. The
session writes the column unless it had loaded that very value; `none` is an expired
session, which has loaded nothing. -/
def writeColumn {τ β : Type} [DecidableEq β] (loaded : Option τ) (column : τ → β)
    (value stored : β) : β :=
  if loaded.map column = some value then stored else value

/-- A session writes a column that differs from what it had loaded. -/
theorem writeColumn_of_ne {τ β : Type} [DecidableEq β] {loaded : τ} {column : τ → β}
    {value stored : β} (h : column loaded ≠ value) :
    writeColumn (some loaded) column value stored = value :=
  if_neg fun heq => h (Option.some.inj heq)

/-- After a commit a column has the assigned value or the one it had. -/
theorem writeColumn_eq_or {τ β : Type} [DecidableEq β] (loaded : Option τ) (column : τ → β)
    (value stored : β) :
    writeColumn loaded column value stored = value ∨
      writeColumn loaded column value stored = stored := by
  unfold writeColumn
  split
  · exact Or.inr rfl
  · exact Or.inl rfl

/-- The values of `TenantStatus`. -/
inductive TenantStatus where
  | pending
  | pendingApproval
  | verified
  | provisioning
  | active
  | suspended
  | deprovisioned
  | error
  deriving DecidableEq, Repr

/-- The text stored for a tenant status. -/
def TenantStatus.text : TenantStatus → String
  | pending => "pending"
  | pendingApproval => "pending_approval"
  | verified => "verified"
  | provisioning => "provisioning"
  | active => "active"
  | suspended => "suspended"
  | deprovisioned => "deprovisioned"
  | error => "error"

/-- A row of `tenants`: the columns that provisioning and networking use. -/
structure Tenant where
  /-- Lifecycle status. -/
  status : TenantStatus
  /-- Whether a super admin has verified the tenant. -/
  isVerified : Bool
  /-- The bridge the tenant was given. -/
  bridgeId : Option ℕ
  /-- The pod the tenant was placed in. -/
  podId : Option ℕ
  /-- The hypervisor id of the tenant's OPNsense VM. -/
  opnsenseVmId : Option ℤ
  /-- The name of the tenant's OPNsense VM. -/
  opnsenseVmName : Option String
  /-- The LAN address of the OPNsense VM. -/
  lanIp : Option String
  /-- The WAN address of the OPNsense VM. -/
  wanIp : Option String
  /-- The OPNsense API key. -/
  opnsenseApiKey : Option String
  /-- The OPNsense API secret. -/
  opnsenseApiSecret : Option String
  /-- The text of the last provisioning error. -/
  error : Option String
  deriving DecidableEq, Repr

/-- The values that `update_pod` accepts for the status of a pod. -/
inductive PodStatus where
  | active
  | maintenance
  | full
  deriving DecidableEq, Repr

/-- A row of `pods`. -/
structure Pod where
  /-- Only active pods take new tenants. -/
  status : PodStatus
  /-- Capacity. -/
  maxTenants : ℤ
  /-- Number of tenants placed in the pod. -/
  tenantCount : ℕ
  deriving DecidableEq, Repr

/-- The status of a bridge. -/
inductive BridgeStatus where
  | available
  | inUse
  deriving DecidableEq, Repr

/-- A row of `bridge_pool`, stored under its `bridge_id`. -/
structure BridgePool where
  /-- Whether the bridge is given to a tenant. -/
  status : BridgeStatus
  /-- The tenant that owns the bridge. -/
  tenantId : Option ℕ
  deriving DecidableEq, Repr

/-- The two parts of the address space. -/
inductive PoolName where
  | safe
  | overflow
  deriving DecidableEq, Repr

/-- The status of a pooled subnet or VLAN. -/
inductive PoolStatus where
  | free
  | allocated
  deriving DecidableEq, Repr

/-- A row of `global_ip_pool`. -/
structure GlobalIPPool where
  /-- The subnet. -/
  cidr : String
  /-- The gateway address of the subnet. -/
  gatewayIp : String
  /-- The part of the address space the subnet belongs to. -/
  pool : PoolName
  /-- Whether the subnet is allocated. -/
  status : PoolStatus
  /-- Back-pointer to the network that uses the subnet. -/
  tenantNetworkId : Option ℕ
  deriving DecidableEq, Repr

/-- A row of `vlan_allocations`, stored under its unique pair `(pod_id, vlan_id)`. -/
structure VlanAllocation where
  /-- Whether the VLAN is allocated. -/
  status : PoolStatus
  /-- Back-pointer to the network that uses the VLAN. -/
  tenantNetworkId : Option ℕ
  deriving DecidableEq, Repr

/-- The status of a tenant network. -/
inductive NetworkStatus where
  | pending
  | provisioning
  | active
  | error
  | deleted
  deriving DecidableEq, Repr

/-- A row of `tenant_networks`. -/
structure TenantNetwork where
  /-- The owner. -/
  tenantId : ℕ
  /-- The pod whose VLANs the network uses. -/
  podId : ℕ
  /-- The pooled subnet the network uses. -/
  ipPoolId : Option ℕ
  /-- The subnet. -/
  cidr : String
  /-- The gateway address. -/
  gatewayIp : String
  /-- The VLAN tag; the default network is untagged. -/
  vlanId : Option ℕ
  /-- Display name. -/
  name : String
  /-- Whether this is the network created at approval. -/
  isDefault : Bool
  /-- Lifecycle status. -/
  status : NetworkStatus
  /-- The hypervisor bridge. -/
  providerRef : Option String
  /-- The OPNsense interface that serves the network. -/
  opnsenseInterface : Option String
  deriving DecidableEq, Repr

/-- A network is live until it is deleted. -/
def TenantNetwork.live (network : TenantNetwork) : Bool := network.status != .deleted

/-- The committed content of the provisioning tables. -/
structure Db where
  /-- Table `tenants`. -/
  tenants : Serial Tenant
  /-- Table `pods`. -/
  pods : Serial Pod
  /-- Table `bridge_pool`. -/
  bridgePool : Table ℕ BridgePool
  /-- Table `global_ip_pool`. -/
  globalIpPool : Serial GlobalIPPool
  /-- Table `vlan_allocations`. -/
  vlanAllocations : Table (ℕ × ℕ) VlanAllocation
  /-- Table `tenant_networks`. -/
  tenantNetworks : Serial TenantNetwork

end ProxmoxIaas
