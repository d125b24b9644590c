import ProxmoxIaas.OpnsenseVm.Runs

/-!
# The VM that a VLAN Task Configures

The dispatch of `create_opnsense_vlan` by `create_network` names no VM, so the task configures the
default VM of the settings, for every tenant.

## Main results

- `vlanTask_targets_iff`: when every remote call of a dispatched task goes to the OPNsense VM of
  its tenant and to no other tenant's.
-/

namespace ProxmoxIaas.OpnsenseVm

/-- A guest-agent command or API call. -/
structure RemoteCall where
  /-- The VM it is sent to. -/
  vmId : ℤ
  /-- The execution it belongs to. -/
  phase : Phase
  deriving DecidableEq, Repr

/-- The calls of a run from a phase on. Each call finds the VM as other runs left it, so the
states it finds are arbitrary; the run ends with them, with an exception or when it is done. -/
def callsFrom (vmId : ℤ) (task : VlanTask) (parentIf : String) : Phase → List Opnsense →
    List RemoteCall
  | .done _ _, _ => []
  | _, [] => []
  | phase, vm :: vms => ⟨vmId, phase⟩ ::
      match vlanStep task parentIf vm phase with
      | none => []
      | some (next, _) => callsFrom vmId task parentIf next vms

/-- The remote calls of a run of `create_opnsense_vlan` that `create_network` has dispatched. A
lookup session that raises ends the run before the first one. -/
def remoteCalls (settings : Settings) (db : Db) (message : VlanMessage) (vms : List Opnsense) :
    List RemoteCall :=
  match (vlanLookup db message.arguments).phase with
  | .raised _ => []
  | _ =>
    let task := VlanTask.ofMessage message
    callsFrom (task.targetVm settings) task (task.parent settings) .listVlans vms

/-- A VM is the OPNsense VM of a tenant and of no other one. -/
def OwnFirewall (db : Db) (tenantId : ℕ) (vmId : ℤ) : Prop :=
  (∃ tenant, db.tenants.get? tenantId = some tenant ∧ tenant.opnsenseVmId = some vmId) ∧
    ∀ other tenant, db.tenants.get? other = some tenant → other ≠ tenantId →
      tenant.opnsenseVmId ≠ some vmId

/-- All calls of a run go to one VM. -/
theorem vmId_of_mem_callsFrom {vmId : ℤ} {task : VlanTask} {parentIf : String}
    {vms : List Opnsense} {phase : Phase} {call : RemoteCall}
    (h : call ∈ callsFrom vmId task parentIf phase vms) : call.vmId = vmId := by
  induction vms generalizing phase with
  | nil => cases phase <;> simp [callsFrom] at h
  | cons vm vms ih =>
    unfold callsFrom at h
    split at h
    case h_1 => cases h
    case h_2 => cases h
    case h_3 heq =>
      cases heq
      rcases List.mem_cons.mp h with rfl | h
      · rfl
      · split at h
        case h_1 => cases h
        case h_2 => exact ih h

/-- Whether the lookup session of a dispatched task finds the data it asks for. -/
def hasCredentials (db : Db) (tenantId : ℕ) : Bool :=
  (db.tenants.get? tenantId).any fun tenant => (truthyText tenant.wanIp).isSome &&
    (truthyText tenant.opnsenseApiKey).isSome && (truthyText tenant.opnsenseApiSecret).isSome

/-- The lookup session of a dispatched task raises exactly if data of its tenant is missing. -/
theorem vlanLookup_phase (db : Db) (message : VlanMessage) :
    ((vlanLookup db message.arguments).phase = .looked ∧ hasCredentials db message.tenantId) ∨
    ((∃ error, (vlanLookup db message.arguments).phase = .raised error) ∧
      hasCredentials db message.tenantId = false) := by
  unfold vlanLookup hasCredentials VlanMessage.arguments
  cases db.tenants.get? message.tenantId with
  | none => simp
  | some tenant =>
    have hphase : (VlanPhase.ofResult (vlanCredentials tenant
          ⟨message.tenantId, message.vlanTag, none, none, none⟩) = .looked ∧
        ((truthyText tenant.wanIp).isSome && (truthyText tenant.opnsenseApiKey).isSome &&
          (truthyText tenant.opnsenseApiSecret).isSome) = true) ∨
        ((∃ error, VlanPhase.ofResult (vlanCredentials tenant
          ⟨message.tenantId, message.vlanTag, none, none, none⟩) = .raised error) ∧
        ((truthyText tenant.wanIp).isSome && (truthyText tenant.opnsenseApiKey).isSome &&
          (truthyText tenant.opnsenseApiSecret).isSome) = false) := by
      have hnone : truthyText none = none := rfl
      simp only [vlanCredentials, hnone, Option.none_or]
      cases (truthyText tenant.wanIp).isSome <;> cases (truthyText tenant.opnsenseApiKey).isSome <;>
        cases (truthyText tenant.opnsenseApiSecret).isSome <;>
        simp [Except.require, VlanPhase.ofResult, bind, Except.bind]
    cases vlanNetwork? db message.tenantId message.vlanTag with
    | none => exact hphase
    | some network => exact hphase

/-- The dispatched message names the tenant of the request. -/
theorem createNetwork_tenantId {db db' : Db} {locks : Locks} {tenantId : ℕ} {name : String}
    {message : VlanMessage} (h : createNetwork db locks tenantId name = .ok (message, db')) :
    message.tenantId = tenantId := by
  simp only [createNetwork, Except.bind_eq_ok_iff, Except.pure_eq_ok_iff, Prod.exists,
    Prod.mk.injEq] at h
  obtain ⟨tenant, -, podId, -, subnetId, subnet, db₁, -, vlanId, db₂, -, id, network, -, rfl, -⟩ :=
    h
  rfl

/-- The calls of a task that `create_network` has dispatched for a tenant all go to the OPNsense
VM of this tenant, and to no other tenant's, exactly if the lookup session finds no credentials
(there are no calls then) or the default VM of the settings is the one of this tenant and of no
other. The VM may be in any state at each call. -/
theorem vlanTask_targets_iff (settings : Settings) {db db' : Db} {locks : Locks} {tenantId : ℕ}
    {name : String} {message : VlanMessage}
    (h : createNetwork db locks tenantId name = .ok (message, db')) (later : Db) (vm : Opnsense)
    (vms : List Opnsense) :
    (∀ call ∈ remoteCalls settings later message (vm :: vms),
      OwnFirewall later tenantId call.vmId) ↔
    (hasCredentials later tenantId = false ∨
      OwnFirewall later tenantId settings.defaultOpnsenseVmId) := by
  have htenant := createNetwork_tenantId h
  have htarget : (VlanTask.ofMessage message).targetVm settings =
      settings.defaultOpnsenseVmId := rfl
  unfold remoteCalls
  rcases vlanLookup_phase later message with ⟨hlooked, hhas⟩ | ⟨⟨error, hraised⟩, hhas⟩
  · rw [hlooked]
    rw [htenant] at hhas
    simp only [htarget, hhas, Bool.true_eq_false, false_or]
    constructor
    · intro hcalls
      exact hcalls ⟨_, .listVlans⟩ List.mem_cons_self
    · intro hown call hcall
      rwa [vmId_of_mem_callsFrom hcall]
  · rw [hraised]
    rw [htenant] at hhas
    simp [hhas]

/-- A tenant whose OPNsense VM has an id. -/
def provisionedTenant (opnsenseVmId : ℤ) : Tenant where
  status := .active
  isVerified := true
  bridgeId := some 100
  podId := some 1
  opnsenseVmId := some opnsenseVmId
  opnsenseVmName := some "opnsense"
  lanIp := some "172.16.0.1"
  wanIp := some "192.168.1.50"
  opnsenseApiKey := some "key"
  opnsenseApiSecret := some "secret"
  error := none

/-- Two provisioned tenants, the first with a default network, and a free subnet and VLAN. -/
def twoTenants : Db where
  tenants := (Serial.empty.add (provisionedTenant 10000)).add (provisionedTenant 10001)
  pods := Serial.empty.add { status := .active, maxTenants := 100, tenantCount := 2 }
  bridgePool := ∅
  globalIpPool := Serial.empty.add
    { cidr := "172.16.1.0/24", gatewayIp := "172.16.1.1", pool := .safe, status := .free,
      tenantNetworkId := none }
  vlanAllocations := (∅ : Table (ℕ × ℕ) VlanAllocation).insert (1, 10)
    { status := .free, tenantNetworkId := none }
  tenantNetworks := (Serial.empty.add
    { additionalNetwork 1 1 (1, ⟨"172.16.0.0/24", "172.16.0.1", .safe, .allocated, none⟩) 0 "lan"
        none with isDefault := true, vlanId := none }).add
    { additionalNetwork 2 1 (2, ⟨"172.16.2.0/24", "172.16.2.1", .safe, .allocated, none⟩) 0 "lan"
        none with isDefault := true, vlanId := none }

/-- The message that the first tenant's request for a network dispatches, or the second's. -/
def twoTenantsMessage (tenantId : ℕ) : VlanMessage where
  tenantId := tenantId
  vlanTag := 10
  ipAddress := "172.16.1.1"
  subnet := 24

/-- The default settings. -/
def defaultSettings : Settings where
  defaultOpnsenseVmId := 10000
  defaultOpnsenseParentIf := "vtnet1"

/-- A VM without VLANs. -/
def plainVm : Opnsense where
  config := { vlans := [], interfaces := ∅ }
  kea := { subnets := [], interfaces := [] }

/-- The request for a network is committed and dispatched for both tenants. -/
theorem createNetwork_twoTenants {tenantId : ℕ} (h : tenantId = 1 ∨ tenantId = 2) :
    ∃ db', createNetwork twoTenants .none tenantId "dmz" =
      .ok (twoTenantsMessage tenantId, db') := by
  rcases h with rfl | rfl
  · exact ⟨_, rfl⟩
  · exact ⟨_, rfl⟩

/-- The tenant whose VM is the default one is served on its own VM. -/
theorem vlanTask_targets_iff_default : OwnFirewall twoTenants 1 10000 ∧
    ∀ call ∈ remoteCalls defaultSettings twoTenants (twoTenantsMessage 1) [plainVm],
      OwnFirewall twoTenants 1 call.vmId := by
  have hown : OwnFirewall twoTenants 1 10000 := by
    refine ⟨⟨provisionedTenant 10000, by decide, rfl⟩, fun other tenant hget hne => ?_⟩
    simp only [twoTenants, Serial.get?_add, Serial.get?_empty] at hget
    split_ifs at hget with hother hfirst
    · cases hget
      decide
    · exact absurd hfirst hne
  obtain ⟨db', h⟩ := createNetwork_twoTenants (Or.inl rfl)
  exact ⟨hown, (vlanTask_targets_iff defaultSettings h twoTenants plainVm []).mpr (Or.inr hown)⟩

/-- A task of another tenant configures the VM of the first one. -/
theorem vlanTask_targets_other :
    ¬ ∀ (settings : Settings) (db db' : Db) (locks : Locks) (tenantId : ℕ) (name : String)
      (message : VlanMessage), createNetwork db locks tenantId name = .ok (message, db') →
      ∀ (later : Db) (vms : List Opnsense), ∀ call ∈ remoteCalls settings later message vms,
        OwnFirewall later tenantId call.vmId := by
  intro htargets
  obtain ⟨db', h⟩ := createNetwork_twoTenants (Or.inr rfl)
  obtain ⟨⟨tenant, hget, hvm⟩, -⟩ := htargets defaultSettings _ _ _ _ _ _ h twoTenants [plainVm]
    ⟨10000, .listVlans⟩ (by decide)
  obtain rfl : provisionedTenant 10001 = tenant := Option.some.inj hget
  exact absurd hvm (by decide)

end ProxmoxIaas.OpnsenseVm
