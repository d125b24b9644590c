import ProxmoxIaas.Provisioning.Networks
import ProxmoxIaas.VirtualMachines.Model

/-!
# The Checks of the Provisioning Endpoint

`provision_vm` resolves the network that a VM is attached to on the hypervisor and validates a
static address against it, before anything is written. The network is not stored with the VM:
the background task finds it again, by the address that the VM was given.

Static addresses are IPv4 addresses here.

## Main results

- `provisionNetwork_eq_ok`: the network of a request that passes is an active one of the tenant.
-/

namespace ProxmoxIaas

/-- The values of `ip_mode`. -/
inductive IpMode where
  | dhcp
  | static
  deriving DecidableEq, Repr

/-- The fields of `VMProvisionRequest` that the endpoint and the row of the VM use. -/
structure VMProvisionRequest where
  /-- The name of the VM. -/
  name : String
  /-- The number of cores. -/
  cpu : ℕ
  /-- The memory in MiB. -/
  ram : ℕ
  /-- How the VM gets its address. -/
  ipMode : IpMode
  /-- The static address. -/
  ipAddress : Option String
  /-- The network; without one the default network is used. -/
  networkId : Option ℕ
  /-- The size of the disk in GiB; without one it is that of the template. -/
  diskSizeGb : Option ℕ
  deriving DecidableEq, Repr

/-- The limits that the schema puts on a request. -/
structure VMProvisionRequest.Valid (request : VMProvisionRequest) : Prop where
  cpu : 1 ≤ request.cpu ∧ request.cpu ≤ 32
  ram : 512 ≤ request.ram ∧ request.ram ≤ 65536
  diskSizeGb : ∀ size ∈ request.diskSizeGb, 1 ≤ size ∧ size ≤ 10000
  ipAddress : request.ipMode = .static → truthyText request.ipAddress ≠ none

instance (request : VMProvisionRequest) : Decidable request.Valid :=
  decidable_of_iff
    ((1 ≤ request.cpu ∧ request.cpu ≤ 32) ∧ (512 ≤ request.ram ∧ request.ram ≤ 65536) ∧
      (∀ size ∈ request.diskSizeGb, 1 ≤ size ∧ size ≤ 10000) ∧
      (request.ipMode = .static → truthyText request.ipAddress ≠ none))
    ⟨fun ⟨hcpu, hram, hdisk, hip⟩ => ⟨hcpu, hram, hdisk, hip⟩,
      fun ⟨hcpu, hram, hdisk, hip⟩ => ⟨hcpu, hram, hdisk, hip⟩⟩

/-- The network that a request names, or the default one. -/
def resolveNetwork (db : Db) (tenantId : ℕ) (networkId : Option ℕ) :
    Except ApiError TenantNetwork :=
  match truthy networkId with
  | some networkId =>
    Except.ofOption (.http 404 "Network not found or does not belong to this tenant")
      ((db.tenantNetworks.get? networkId).filter fun network =>
        network.tenantId = tenantId ∧ network.status = .active)
  | none =>
    Except.ofOption (.http 400 "Tenant has no default network — not fully provisioned")
      ((db.tenantNetworks.first? fun _ network =>
        network.tenantId = tenantId ∧ network.isDefault = true ∧ network.status = .active).map
          (·.2))

/-- The validation of a static address. -/
def checkStaticIp (network : TenantNetwork) (ipAddress : String) : Except ApiError Unit :=
  match Ipv4.parse? ipAddress.toList, Ipv4Net.parse? network.cidr.toList with
  | some ip, some net => do
    Except.require (.http 400 s!"Static IP must be in {network.cidr} range") (ip ∈ net)
    Except.require (.http 400 s!"Cannot use gateway IP ({network.gatewayIp})")
      (ip.text ≠ network.gatewayIp)
    Except.require (.http 400 "Cannot use network or broadcast address")
      (ip.value ≠ net.network ∧ ip.value ≠ net.broadcast)
  | none, _ => .error (.http 400
      s!"Invalid IP address: '{ipAddress}' does not appear to be an IPv4 or IPv6 address")
  | _, none => .error (.http 400
      s!"Invalid IP address: '{network.cidr}' does not appear to be an IPv4 or IPv6 network")

/-- The address of a request is validated if it is a static one. -/
def checkAddress (network : TenantNetwork) (request : VMProvisionRequest) : Except ApiError Unit :=
  match request.ipMode, truthyText request.ipAddress with
  | .static, some ipAddress => checkStaticIp network ipAddress
  | _, _ => return

/-- The checks up to the quota: the tenant has a pod, the network exists, and a static address
fits it. -/
def provisionNetwork (db : Db) (tenantId : ℕ) (request : VMProvisionRequest) :
    Except ApiError TenantNetwork := do
  let tenant ← Except.ofOption (.http 404 "Tenant not found") (db.tenants.get? tenantId)
  Except.require (.http 400
    "Tenant not provisioned - no pod assigned. Please wait for tenant approval.")
    (truthy tenant.podId ≠ none)
  let network ← resolveNetwork db tenantId request.networkId
  checkAddress network request
  return network

/-- The static address that is stored with the row. -/
def VMProvisionRequest.storedAddress (request : VMProvisionRequest) : Option String :=
  if request.ipMode = .static then request.ipAddress else none

/-- A resolved network is an active one of the tenant. -/
theorem resolveNetwork_eq_ok {db : Db} {tenantId : ℕ} {networkId : Option ℕ}
    {network : TenantNetwork} (h : resolveNetwork db tenantId networkId = .ok network) :
    ∃ id, db.tenantNetworks.get? id = some network ∧ network.tenantId = tenantId ∧
      network.status = .active := by
  unfold resolveNetwork at h
  split at h
  case h_1 id _ =>
    rw [Except.ofOption_eq_ok_iff, Option.filter_eq_some_iff, decide_eq_true_eq] at h
    exact ⟨id, h.1, h.2.1, h.2.2⟩
  case h_2 =>
    rw [Except.ofOption_eq_ok_iff, Option.map_eq_some_iff] at h
    obtain ⟨⟨id, found⟩, hfound, rfl⟩ := h
    obtain ⟨hget, hcond⟩ := Serial.first?_eq_some hfound
    obtain ⟨htenant, -, hactive⟩ := of_decide_eq_true hcond
    exact ⟨id, hget, htenant, hactive⟩

/-- A request that passes the checks is attached to an active network of its tenant. -/
theorem provisionNetwork_eq_ok {db : Db} {tenantId : ℕ} {request : VMProvisionRequest}
    {network : TenantNetwork} (h : provisionNetwork db tenantId request = .ok network) :
    ∃ id, db.tenantNetworks.get? id = some network ∧ network.tenantId = tenantId ∧
      network.status = .active := by
  simp only [provisionNetwork, Except.bind_eq_ok_iff, Except.ofOption_eq_ok_iff,
    Except.require_eq_ok_iff, Except.pure_eq_ok_iff] at h
  obtain ⟨_, -, -, -, found, hfound, -, -, rfl⟩ := h
  exact resolveNetwork_eq_ok hfound

end ProxmoxIaas
