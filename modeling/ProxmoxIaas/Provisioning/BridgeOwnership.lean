import ProxmoxIaas.Foundation.Allocation
import ProxmoxIaas.Provisioning.System

/-!
# Bridge and Default-Network Ownership

The bridge of a tenant is recorded at the tenant and at the bridge, and its LAN address at
the tenant and at its default network. The copies agree as long as a reset does not forget a
bridge the tenant owns, an approval is committed only for a tenant without bridge and default
network, a release by hand finds the bridge as it had loaded it, and a provisioning run
completes only for a tenant whose address is known.

## Main results

- `Ownership.step`: one step keeps the copies in agreement.
- `bridges_and_default_networks_owned`: they agree in every state of such a run.
- `bridges_and_default_networks_not_owned`: they do not after the reset of a failed tenant.
-/

namespace ProxmoxIaas

/-- The owner and gateway of a live default network. -/
def TenantNetwork.defaultOf (network : TenantNetwork) : Option (ℕ × String) :=
  if network.isDefault && network.live then some (network.tenantId, network.gatewayIp) else none

namespace Provisioning

/-- Each tenant owns at most one bridge and one live default network, the two records of the
ownership of bridges agree, and an active tenant has the address of its default network. -/
structure OwnershipAgrees (db : Db) : Prop where
  /-- A tenant owns at most one bridge. -/
  one_bridge : ∀ b b' bridge bridge' tenantId, db.bridgePool.get? b = some bridge →
    db.bridgePool.get? b' = some bridge' → bridge.tenantId = some tenantId →
    bridge'.tenantId = some tenantId → b = b'
  /-- A tenant owns at most one live default network. -/
  one_default : ∀ i j network network', db.tenantNetworks.get? i = some network →
    db.tenantNetworks.get? j = some network' → network.live = true → network'.live = true →
    network.isDefault = true → network'.isDefault = true →
    network.tenantId = network'.tenantId → i = j
  /-- A bridge is in use for a tenant exactly when it is the tenant's bridge. -/
  in_use_iff : ∀ b bridge tenantId tenant, db.bridgePool.get? b = some bridge →
    db.tenants.get? tenantId = some tenant →
    (bridge.status = .inUse ∧ bridge.tenantId = some tenantId ↔ tenant.bridgeId = some b)
  /-- The LAN address of an active tenant is the gateway of its default network. -/
  lan_ip : ∀ tenantId tenant, db.tenants.get? tenantId = some tenant →
    tenant.status = .active → ∃ i network, db.tenantNetworks.get? i = some network ∧
      network.live = true ∧ network.isDefault = true ∧ network.tenantId = tenantId ∧
      tenant.lanIp = some network.gatewayIp

/-- The owner and gateway of each live default network. -/
def defaults (db : Db) : ℕ → Option (ℕ × String) := db.tenantNetworks.column (·.defaultOf)

/-- A tenant has a live default network with a gateway. -/
def HasDefault (db : Db) (tenantId : ℕ) (gatewayIp : String) : Prop :=
  ∃ i, defaults db i = some (tenantId, gatewayIp)

/-- The records of the ownership of bridges agree. -/
structure BridgesAgree (db : Db) : Prop where
  /-- The bridges of the tenants and the tenants of the bridges are inverse records. -/
  paired : Paired (db.tenants.column (·.bridgeId)) (db.bridgePool.column (·.tenantId))
  /-- A bridge is in use exactly when it has a tenant. -/
  in_use_iff : ∀ b bridge, db.bridgePool.get? b = some bridge →
    (bridge.status = .inUse ↔ bridge.tenantId ≠ none)

/-- Default networks are live and belong to different tenants. -/
structure DefaultsUnique (db : Db) : Prop where
  /-- Default networks are live. -/
  live : ∀ i network, db.tenantNetworks.get? i = some network → network.isDefault = true →
    network.live = true
  /-- No tenant has two default networks. -/
  unique : ∀ i j tenantId gatewayIp gatewayIp', defaults db i = some (tenantId, gatewayIp) →
    defaults db j = some (tenantId, gatewayIp') → i = j
  /-- Every pooled subnet has a gateway. -/
  gateway_ne : ∀ id subnet, db.globalIpPool.get? id = some subnet → subnet.gatewayIp ≠ ""

/-- The addresses of the tenants are those of their default networks. -/
structure AddressesKnown (db : Db) : Prop where
  /-- An address of a tenant is the gateway of its default network. -/
  known : ∀ tenantId tenant lanIp, db.tenants.get? tenantId = some tenant →
    tenant.lanIp = some lanIp → HasDefault db tenantId lanIp
  /-- An active tenant has an address. -/
  active : ∀ tenantId tenant, db.tenants.get? tenantId = some tenant →
    tenant.status = .active → tenant.lanIp ≠ none

/-- A message of the provisioning task carries the gateway of its tenant's default network. -/
def MessageKnown (db : Db) (message : ProvisionMessage) : Prop :=
  HasDefault db message.tenantId message.gatewayIp ∧ message.gatewayIp ≠ ""

/-- An open release had loaded a bridge in use together with its tenant. -/
def ReleaseKnown (release : BridgeRelease) : Prop :=
  release.bridge.status = .inUse ∧ ∃ tenantId tenant,
    release.bridge.tenantId = some tenantId ∧ truthy (some tenantId) = some tenantId ∧
    release.tenant = some tenant ∧ tenant.bridgeId = some release.bridgeId

/-- The invariant of the system. -/
structure Ownership (s : State) : Prop where
  /-- The records of the ownership of bridges agree. -/
  bridges : BridgesAgree s.db
  /-- Default networks are live and belong to different tenants. -/
  defaults : DefaultsUnique s.db
  /-- The addresses of the tenants are those of their default networks. -/
  addresses : AddressesKnown s.db
  /-- Dispatched messages carry the right gateway. -/
  messages : ∀ message ∈ s.messages, MessageKnown s.db message
  /-- So do the runs in flight. -/
  runs : ∀ run provisionRun, s.provisionRuns.get? run = some provisionRun →
    MessageKnown s.db provisionRun.message
  /-- Open releases had loaded a bridge in use. -/
  releases : ∀ call release, s.releases.get? call = some release → ReleaseKnown release

/-- A live default network is one that a tenant has. -/
private theorem defaultOf_eq_some_iff {network : TenantNetwork} {tenantId : ℕ}
    {gatewayIp : String} : network.defaultOf = some (tenantId, gatewayIp) ↔
      network.isDefault = true ∧ network.live = true ∧ network.tenantId = tenantId ∧
        network.gatewayIp = gatewayIp := by
  unfold TenantNetwork.defaultOf
  split
  case isTrue h =>
    rw [Bool.and_eq_true] at h
    simp [h]
  case isFalse h =>
    rw [Bool.and_eq_true] at h
    simp only [reduceCtorEq, false_iff]
    exact fun hall => h ⟨hall.1, hall.2.1⟩

/-- The invariant says that the copies agree. -/
theorem Ownership.agrees {s : State} (h : Ownership s) : OwnershipAgrees s.db where
  one_bridge b b' bridge bridge' tenantId hb hb' howner howner' := by
    have hheld := (h.bridges.paired tenantId b).mp ((Table.column_of_get? hb).trans howner)
    have hheld' := (h.bridges.paired tenantId b').mp ((Table.column_of_get? hb').trans howner')
    exact Option.some.inj (hheld.symm.trans hheld')
  one_default i j network network' hi hj hlive hlive' hdefault hdefault' htenant :=
    h.defaults.unique i j network.tenantId network.gatewayIp network'.gatewayIp
      ((Serial.column_of_get? hi).trans
        (defaultOf_eq_some_iff.mpr ⟨hdefault, hlive, rfl, rfl⟩))
      ((Serial.column_of_get? hj).trans
        (defaultOf_eq_some_iff.mpr ⟨hdefault', hlive', htenant.symm, rfl⟩))
  in_use_iff b bridge tenantId tenant hb htenant := by
    have hpair := h.bridges.paired tenantId b
    rw [Table.column_of_get? hb, Serial.column_of_get? htenant] at hpair
    rw [h.bridges.in_use_iff b bridge hb, ← hpair]
    constructor
    · exact fun hboth => hboth.2
    · intro howner
      exact ⟨by rw [howner]; exact Option.some_ne_none _, howner⟩
  lan_ip tenantId tenant htenant hactive := by
    obtain ⟨lanIp, hlan⟩ := Option.ne_none_iff_exists'.mp
      (h.addresses.active tenantId tenant htenant hactive)
    obtain ⟨i, hi⟩ := h.addresses.known tenantId tenant lanIp htenant hlan
    obtain ⟨network, hget, hof⟩ := Serial.column_eq_some_iff.mp hi
    obtain ⟨hdefault, hlive, howner, hgateway⟩ := defaultOf_eq_some_iff.mp hof
    exact ⟨i, network, hget, hlive, hdefault, howner, hlan.trans (by rw [hgateway])⟩

/-- A seeded system satisfies the invariant. -/
theorem Ownership.of_seeded {db : Db} (h : Seeded db) :
    Ownership ⟨db, ∅, ∅, ∅, [], ∅⟩ where
  bridges :=
    { paired := by
        intro tenantId b
        constructor
        · intro howner
          obtain ⟨bridge, hget, hb⟩ := Table.column_eq_some_iff.mp howner
          rw [(h.bridges b bridge hget).2] at hb
          cases hb
        · intro hheld
          obtain ⟨tenant, hget, ht⟩ := Serial.column_eq_some_iff.mp hheld
          rw [(h.tenants tenantId tenant hget).1] at ht
          cases ht
      in_use_iff := by
        intro b bridge hget
        simp [(h.bridges b bridge hget).2] }
  defaults :=
    { live := fun i network hget => by simp [h.networks i] at hget
      unique := fun i j _ _ _ hi => by
        obtain ⟨network, hget, -⟩ := Serial.column_eq_some_iff.mp hi
        simp [h.networks i] at hget
      gateway_ne := fun id subnet hget => (h.subnets id subnet hget).2.2.1 }
  addresses :=
    { known := fun tenantId tenant lanIp hget hlan => by
        rw [(h.tenants tenantId tenant hget).2.1] at hlan
        cases hlan
      active := fun tenantId tenant hget hactive =>
        absurd hactive (h.tenants tenantId tenant hget).2.2 }
  messages _ hmem := absurd hmem List.not_mem_nil
  runs _ _ hget := by cases hget
  releases _ _ hget := by cases hget

/-- A step that changes neither tenants nor bridges nor default networks keeps the
invariant. -/
private theorem Ownership.of_same_defaults {s s' : State} (h : Ownership s)
    (htenants : s'.db.tenants = s.db.tenants) (hbridges : s'.db.bridgePool = s.db.bridgePool)
    (hdefaults : Provisioning.defaults s'.db = Provisioning.defaults s.db)
    (hunique : DefaultsUnique s'.db) (hmessages : s'.messages = s.messages)
    (hruns : s'.provisionRuns = s.provisionRuns) (hreleases : s'.releases = s.releases) :
    Ownership s' where
  bridges :=
    { paired := by rw [htenants, hbridges]; exact h.bridges.paired
      in_use_iff := by rw [hbridges]; exact h.bridges.in_use_iff }
  defaults := hunique
  addresses :=
    { known := by
        unfold HasDefault
        rw [htenants, hdefaults]
        exact h.addresses.known
      active := by rw [htenants]; exact h.addresses.active }
  messages := by
    unfold MessageKnown HasDefault
    rw [hmessages, hdefaults]
    exact h.messages
  runs := by
    unfold MessageKnown HasDefault
    rw [hruns, hdefaults]
    exact h.runs
  releases := by rw [hreleases]; exact h.releases

/-- Rewriting a network without changing whose default network it is, and without deleting a
default network, keeps the default networks. -/
private theorem DefaultsUnique.modify_network {db : Db} (h : DefaultsUnique db) {i : ℕ}
    {f : TenantNetwork → TenantNetwork}
    (hsame : ∀ network, db.tenantNetworks.get? i = some network →
      (f network).isDefault = network.isDefault ∧ (f network).tenantId = network.tenantId ∧
      (f network).gatewayIp = network.gatewayIp ∧
      (network.isDefault = true → (f network).live = true)) :
    Provisioning.defaults { db with tenantNetworks := db.tenantNetworks.modify i f } =
        Provisioning.defaults db ∧
      DefaultsUnique { db with tenantNetworks := db.tenantNetworks.modify i f } := by
  have hdefaults :
      Provisioning.defaults { db with tenantNetworks := db.tenantNetworks.modify i f } =
        Provisioning.defaults db := by
    refine Serial.column_modify_of_eq fun network hget => ?_
    obtain ⟨hdefault, htenant, hgateway, hlive⟩ := hsame network hget
    unfold TenantNetwork.defaultOf
    cases hd : network.isDefault with
    | false => simp [hdefault, hd]
    | true => simp [hdefault, hd, htenant, hgateway, hlive hd, h.live i network hget hd]
  refine ⟨hdefaults, ?_, ?_, h.gateway_ne⟩
  · intro j row hrow hd
    rw [Serial.get?_modify] at hrow
    split at hrow
    case isTrue hji =>
      obtain ⟨network, hget, rfl⟩ := Option.map_eq_some_iff.mp hrow
      rw [hji] at hget
      obtain ⟨hdefault, -, -, hlive⟩ := hsame network hget
      exact hlive (hdefault ▸ hd)
    case isFalse => exact h.live j row hrow hd
  · rw [hdefaults]
    exact h.unique

/-- Inserting a network that is not a default network keeps the default networks. -/
private theorem DefaultsUnique.add_network {db : Db} (h : DefaultsUnique db)
    (network : TenantNetwork) (hdefault : network.isDefault = false) :
    Provisioning.defaults { db with tenantNetworks := db.tenantNetworks.add network } =
        Provisioning.defaults db ∧
      DefaultsUnique { db with tenantNetworks := db.tenantNetworks.add network } := by
  have hdefaults :
      Provisioning.defaults { db with tenantNetworks := db.tenantNetworks.add network } =
        Provisioning.defaults db := by
    have hnone : network.defaultOf = none := by simp [TenantNetwork.defaultOf, hdefault]
    unfold Provisioning.defaults
    rw [Serial.column_add, hnone, ← Serial.column_next db.tenantNetworks (·.defaultOf),
      Function.update_eq_self]
  refine ⟨hdefaults, ?_, ?_, h.gateway_ne⟩
  · intro j row hrow hd
    rw [Serial.get?_add] at hrow
    split at hrow
    case isTrue =>
      cases hrow
      rw [hdefault] at hd
      cases hd
    case isFalse => exact h.live j row hrow hd
  · rw [hdefaults]
    exact h.unique

/-- Rewriting the rows of the pool without changing their gateways keeps the default
networks. -/
private theorem DefaultsUnique.modify_pool {db : Db} (h : DefaultsUnique db) (id : ℕ)
    {f : GlobalIPPool → GlobalIPPool} (hf : ∀ subnet, (f subnet).gatewayIp = subnet.gatewayIp) :
    DefaultsUnique { db with globalIpPool := db.globalIpPool.modify id f } where
  live := h.live
  unique := h.unique
  gateway_ne := by
    intro id' row hrow
    rw [Serial.get?_modify] at hrow
    split at hrow
    · obtain ⟨subnet, hget, rfl⟩ := Option.map_eq_some_iff.mp hrow
      rw [hf]
      exact h.gateway_ne id' subnet hget
    · exact h.gateway_ne id' row hrow

/-- Rewriting one tenant keeps the addresses known if the address it leaves is known. -/
private theorem AddressesKnown.modify_tenant {db db' : Db} (h : AddressesKnown db)
    (tenantId : ℕ) {f : Tenant → Tenant} (hdb : db'.tenants = db.tenants.modify tenantId f)
    (hmono : ∀ id gatewayIp, HasDefault db id gatewayIp → HasDefault db' id gatewayIp)
    (hknown : ∀ tenant lanIp, db.tenants.get? tenantId = some tenant →
      (f tenant).lanIp = some lanIp → HasDefault db' tenantId lanIp)
    (hactive : ∀ tenant, db.tenants.get? tenantId = some tenant →
      (f tenant).status = .active → (f tenant).lanIp ≠ none) : AddressesKnown db' where
  known := by
    intro id row lanIp hrow hlan
    rw [hdb, Serial.get?_modify] at hrow
    split at hrow
    case isTrue hid =>
      obtain ⟨tenant, hget, rfl⟩ := Option.map_eq_some_iff.mp hrow
      rw [hid] at hget ⊢
      exact hknown tenant lanIp hget hlan
    case isFalse => exact hmono id lanIp (h.known id row lanIp hrow hlan)
  active := by
    intro id row hrow hstatus
    rw [hdb, Serial.get?_modify] at hrow
    split at hrow
    case isTrue hid =>
      obtain ⟨tenant, hget, rfl⟩ := Option.map_eq_some_iff.mp hrow
      rw [hid] at hget
      exact hactive tenant hget hstatus
    case isFalse => exact h.active id row hrow hstatus

/-- A step that rewrites one tenant, without changing its bridge, keeps the invariant if the
address it leaves is known. -/
private theorem Ownership.of_tenant {s s' : State} (h : Ownership s) {tenantId : ℕ}
    {f : Tenant → Tenant}
    (hdb : s'.db = { s.db with tenants := s.db.tenants.modify tenantId f })
    (hbridge : ∀ tenant, s.db.tenants.get? tenantId = some tenant →
      (f tenant).bridgeId = tenant.bridgeId)
    (hknown : ∀ tenant lanIp, s.db.tenants.get? tenantId = some tenant →
      (f tenant).lanIp = some lanIp → HasDefault s.db tenantId lanIp)
    (hactive : ∀ tenant, s.db.tenants.get? tenantId = some tenant →
      (f tenant).status = .active → (f tenant).lanIp ≠ none)
    (hmessages : s'.messages = s.messages)
    (hruns : ∀ run provisionRun, s'.provisionRuns.get? run = some provisionRun →
      MessageKnown s.db provisionRun.message)
    (hreleases : s'.releases = s.releases) : Ownership s' where
  bridges :=
    { paired := by
        rw [hdb, Serial.column_modify_of_eq hbridge]
        exact h.bridges.paired
      in_use_iff := by rw [hdb]; exact h.bridges.in_use_iff }
  defaults := by
    rw [hdb]
    exact ⟨h.defaults.live, h.defaults.unique, h.defaults.gateway_ne⟩
  addresses := by
    rw [hdb]
    exact h.addresses.modify_tenant tenantId rfl (fun _ _ hdefault => hdefault) hknown hactive
  messages := by
    rw [hmessages, hdb]
    exact h.messages
  runs := by
    rw [hdb]
    exact hruns
  releases := by rw [hreleases]; exact h.releases

/-- A run that knows the gateway of its tenant's default network configures that gateway. -/
private theorem lanGateway_of_known {db : Db} {message : ProvisionMessage} {tenant : Tenant}
    (h : MessageKnown db message) (hsome : (lanGateway message tenant).isSome = true) :
    lanGateway message tenant = some message.gatewayIp := by
  have htruthy : truthyText (some message.gatewayIp) = some message.gatewayIp :=
    Option.filter_eq_some_iff.mpr ⟨rfl, decide_eq_true h.2⟩
  unfold lanGateway at hsome ⊢
  rw [htruthy] at hsome ⊢
  obtain ⟨gateway, hgateway⟩ := Option.isSome_iff_exists.mp hsome
  obtain ⟨cidr, hcidr, -⟩ := Option.bind_eq_some_iff.mp hgateway
  rw [hcidr, Option.bind_some, Option.some_or]

/-- A step of a provisioning run keeps the invariant, if a run completes only for a tenant
whose address is known. -/
private theorem Ownership.provisionStep {s : State} (h : Ownership s) {run : ℕ}
    {e : ProvisionStep}
    (hcomplete : e = .complete → ∀ provisionRun tenant stored,
      s.provisionRuns.get? run = some provisionRun → provisionRun.phase = .keyed →
      provisionRun.session = some tenant → tenant.status ≠ .active →
      s.db.tenants.get? provisionRun.message.tenantId = some stored → stored.lanIp ≠ none) :
    Ownership (provisionStep s run e) := by
  unfold Provisioning.provisionStep
  split
  case h_1 => exact h
  case h_2 provisionRun hrun =>
    split
    case h_1 => exact h
    case h_2 stored hstored =>
      have hmessage := h.runs run provisionRun hrun
      have hlan := provisionRun.step_lanIp stored e
      refine h.of_tenant rfl ?_ ?_ ?_ rfl ?_ rfl
      · intro tenant hget
        cases hstored.symm.trans hget
        exact provisionRun.step_bridgeId stored e
      · intro tenant lanIp hget hlanIp
        -- a run leaves the address, or writes the one of its message
        rcases hlan with hsame | ⟨hsome, hset⟩
        · exact h.addresses.known _ stored lanIp hstored (hsame.symm.trans hlanIp)
        · rw [lanGateway_of_known hmessage hsome] at hset
          rw [hset] at hlanIp
          cases hlanIp
          exact hmessage.1
      · intro tenant hget hactive
        have hstays : stored.lanIp ≠ none → (provisionRun.step stored e).1.lanIp ≠ none := by
          intro hne
          rcases hlan with hsame | ⟨hsome, hset⟩
          · rwa [hsame]
          · rw [hset, lanGateway_of_known hmessage hsome]
            exact Option.some_ne_none _
        rcases provisionRun.step_status stored e with hsame | herror | ⟨he, hkeyed, t, ht, hne⟩
        · exact hstays (h.addresses.active _ stored hstored (hsame.symm.trans hactive))
        · rw [herror] at hactive
          cases hactive
        · exact hstays (hcomplete he provisionRun t stored hrun hkeyed ht hne hstored)
      · intro run' next hnext
        dsimp only at hnext
        split at hnext
        case h_1 provisionRun' hnext' =>
          rw [Table.get?_modify] at hnext
          split at hnext
          · obtain ⟨_, -, rfl⟩ := Option.map_eq_some_iff.mp hnext
            rw [provisionRun.step_message stored e hnext']
            exact hmessage
          · exact h.runs run' next hnext
        case h_2 =>
          obtain ⟨-, hnext⟩ := Table.get?_erase_eq_some.mp hnext
          exact h.runs run' next hnext

/-- The bridge that the database stores for a tenant. -/
def storedBridge? (db : Db) (tenantId : ℕ) : Option ℕ := db.tenants.column (·.bridgeId) tenantId

/-- An approval raises: a check on the loaded tenant fails, a pool is exhausted, or the bridge
cannot be created on the hypervisor. -/
def approvalRaises (db : Db) (locks : Locks) (tenant : Tenant)
    (bridgeCreation : Except String Unit) : Bool :=
  decide (tenant.status ∉ [TenantStatus.pendingApproval, .verified, .error]) ||
    (truthy tenant.bridgeId).isSome || (assignPod db locks.pods).isNone ||
    (db.bridgePool.first? fun _ bridge => bridge.status = .available).isNone ||
    ([PoolName.safe, .overflow].findSome? (freeSubnet? db locks.subnets)).isNone ||
    !bridgeCreation.isOk

/-- The condition on a step: a reset does not forget a bridge the tenant owns, an approval is
committed only for a tenant without bridge and default network, a release by hand finds the
bridge as it had loaded it, and a run completes only for a tenant whose address is known. -/
def ownersKept (s : State) : Event → Bool
  | .resetTenant call => (s.approvals.get? call).all fun approval =>
      approval.request != .verify || approval.approved || approval.tenant.all fun tenant =>
        tenant.status != .error || tenant.bridgeId == none ||
          storedBridge? s.db approval.tenantId == none
  | .approveTenant call locks bridgeCreation _ => (s.approvals.get? call).all fun approval =>
      approval.approved || approval.tenant.all fun tenant =>
        approvalRaises s.db locks tenant bridgeCreation ||
          ((s.db.tenants.get? approval.tenantId).any (·.bridgeId == none) &&
            (defaultNetwork? s.db approval.tenantId).isNone)
  | .releaseBridge call => (s.releases.get? call).all fun release =>
      let owner := s.db.bridgePool.column (·.tenantId) release.bridgeId
      owner == release.bridge.tenantId || (owner == none &&
        release.bridge.tenantId.all fun tenantId => storedBridge? s.db tenantId == none)
  | .stepProvision run .complete => (s.provisionRuns.get? run).all fun provisionRun =>
      provisionRun.phase != .keyed || provisionRun.session.all fun tenant =>
        tenant.status == .active ||
          (s.db.tenants.get? provisionRun.message.tenantId).all (·.lanIp != none)
  | _ => true

/-- A committed approval has not raised. -/
private theorem approvalRaises_eq_false {db db' : Db} {locks : Locks} {tenantId : ℕ}
    {tenant : Tenant} {bridgeCreation : Except String Unit} {message : ProvisionMessage}
    (h : approveTenant db locks tenantId tenant bridgeCreation = .ok (message, db')) :
    approvalRaises db locks tenant bridgeCreation = false := by
  simp only [approveTenant, Except.bind_eq_ok_iff, Except.ofOption_eq_ok_iff,
    Except.require_eq_ok_iff, Option.filter_eq_some_iff, allocateBridge,
    Option.map_eq_some_iff, Prod.exists] at h
  obtain ⟨-, hstatus, -, hnobridge, podId, pod, hpod, _, _,
    ⟨⟨bridgeId, bridge, hbridge, hallocated⟩, -⟩, subnetId, subnet, db₂, hsubnet, hcreated⟩ := h
  cases hallocated
  have hfree : ([PoolName.safe, .overflow].findSome? (freeSubnet? db locks.subnets)).isNone =
      false := by
    unfold allocateSubnet at hsubnet
    split at hsubnet
    case h_1 hfound => exact congrArg Option.isNone hfound
    case h_2 => cases hsubnet
  cases bridgeCreation with
  | error => cases hcreated
  | ok => simp [approvalRaises, hstatus, hnobridge, hpod, hbridge, hfree, Except.isOk,
      Except.toBool]

/-- A reset that forgets no bridge keeps the invariant. -/
private theorem Ownership.resetStep {s : State} (h : Ownership s) {call : ℕ}
    (hok : ownersKept s (.resetTenant call) = true) : Ownership (resetStep s call) := by
  unfold Provisioning.resetStep
  split
  case h_1 tenantId tenant hcall =>
    split
    case isTrue herror =>
      have hforget : tenant.bridgeId = none ∨ storedBridge? s.db tenantId = none := by
        simpa [ownersKept, hcall, herror] using hok
      refine h.of_tenant rfl ?_ ?_ ?_ rfl h.runs rfl
      · intro stored hget
        rcases hforget with hloaded | hstored
        · exact if_pos (by rw [Option.map_some, hloaded])
        · have hnone : stored.bridgeId = none := (Serial.column_of_get? hget).symm.trans hstored
          rcases writeColumn_eq_or (some tenant) (·.bridgeId) none stored.bridgeId with hw | hw
          · exact hw.trans hnone.symm
          · exact hw
      · intro stored lanIp hget hlan
        rcases writeColumn_eq_or (some tenant) (·.lanIp) none stored.lanIp with hw | hw
        · cases hw.symm.trans hlan
        · exact h.addresses.known tenantId stored lanIp hget (hw.symm.trans hlan)
      · intro stored hget hactive
        have hpending : (Tenant.reset tenant stored).status = .pendingApproval :=
          writeColumn_of_ne (by rw [herror]; decide)
        rw [hpending] at hactive
        cases hactive
    case isFalse => exact h
  case h_2 => exact h

/-- Marking a tenant as verified keeps the invariant. -/
private theorem Ownership.verifyStep {s : State} (h : Ownership s) {call : ℕ} :
    Ownership (verifyStep s call) := by
  unfold Provisioning.verifyStep
  split
  case h_1 tenantId _ hcall =>
    exact h.of_tenant rfl (fun _ _ => rfl)
      (fun tenant lanIp hget hlan => h.addresses.known tenantId tenant lanIp hget hlan)
      (fun tenant hget hactive => h.addresses.active tenantId tenant hget hactive) rfl h.runs rfl
  case h_2 => exact h

/-- A request to release a bridge loads the bridge in use and its tenant. -/
private theorem Ownership.openRelease {s : State} (h : Ownership s) {call bridgeId : ℕ} :
    Ownership (openRelease s call bridgeId) := by
  unfold Provisioning.openRelease
  split
  case h_1 => exact h
  case h_2 bridge hcheck =>
    obtain ⟨hget, hinUse⟩ := releaseBridgeCheck_eq_ok hcheck
    refine ⟨h.bridges, h.defaults, h.addresses, h.messages, h.runs, ?_⟩
    intro call' release hrelease
    rcases Table.get?_insert_eq_some.mp hrelease with ⟨-, rfl⟩ | ⟨-, hrelease⟩
    · obtain ⟨tenantId, howner⟩ := Option.ne_none_iff_exists'.mp
        ((h.bridges.in_use_iff bridgeId bridge hget).mp hinUse)
      have hheld := (h.bridges.paired tenantId bridgeId).mp
        ((Table.column_of_get? hget).trans howner)
      obtain ⟨tenant, htenant, hbridge⟩ := Serial.column_eq_some_iff.mp hheld
      have htruthy : truthy (some tenantId) = some tenantId :=
        Option.filter_eq_some_iff.mpr
          ⟨rfl, decide_eq_true (Serial.bound_of_get? htenant).1.ne'⟩
      refine ⟨hinUse, tenantId, tenant, howner, htruthy, ?_, hbridge⟩
      rw [howner, htruthy, Option.bind_some, htenant]
    · exact h.releases call' release hrelease

/-- A release by hand of a bridge that is as it was loaded keeps the records of the ownership
of bridges in agreement. -/
private theorem BridgesAgree.releaseBridge {db : Db} (h : BridgesAgree db)
    {release : BridgeRelease} (hrelease : ReleaseKnown release)
    (hok : let owner := db.bridgePool.column (·.tenantId) release.bridgeId
      owner = release.bridge.tenantId ∨ owner = none ∧
        ∀ tenantId, release.bridge.tenantId = some tenantId →
          storedBridge? db tenantId = none) :
    BridgesAgree (releaseBridge db release.bridgeId release.bridge release.tenant) := by
  obtain ⟨hinUse, tenantId, tenant, howner, htruthy, htenant, hbridge⟩ := hrelease
  have hdb : ProxmoxIaas.releaseBridge db release.bridgeId release.bridge release.tenant =
      { db with
        tenants := db.tenants.modify tenantId (.loseBridge tenant)
        bridgePool := db.bridgePool.modify release.bridgeId (.release release.bridge) } := by
    unfold ProxmoxIaas.releaseBridge
    rw [howner, htruthy, htenant]
  have hreleased : ∀ bridge, BridgePool.release release.bridge bridge =
      { status := .available, tenantId := none } := by
    intro bridge
    rw [BridgePool.release, writeColumn_of_ne (by rw [hinUse]; decide),
      writeColumn_of_ne (by rw [howner]; exact Option.some_ne_none _)]
  have hcolumn : (db.tenants.modify tenantId (.loseBridge tenant)).column (·.bridgeId) =
      Function.update (db.tenants.column (·.bridgeId)) tenantId none := by
    rw [Serial.column_modify]
    congr 1
    cases db.tenants.get? tenantId with
    | none => rfl
    | some stored => exact writeColumn_of_ne (by rw [hbridge]; exact Option.some_ne_none _)
  have howners : (db.bridgePool.modify release.bridgeId (.release release.bridge)).column
      (·.tenantId) =
      Function.update (db.bridgePool.column (·.tenantId)) release.bridgeId none := by
    rw [Table.column_modify]
    congr 1
    cases db.bridgePool.get? release.bridgeId with
    | none => rfl
    | some bridge => exact congrArg BridgePool.tenantId (hreleased bridge)
  rw [hdb]
  constructor
  · rw [hcolumn, howners]
    rcases hok with hsame | ⟨hfree, hnone⟩
    · exact h.paired.release ((h.paired tenantId release.bridgeId).mp (hsame.trans howner))
    · -- Somebody else has released the bridge already, and the tenant has got no other one.
      have hheld : db.tenants.column (·.bridgeId) tenantId = none := hnone tenantId howner
      rw [← hheld, Function.update_eq_self, hheld, ← hfree, Function.update_eq_self]
      exact h.paired
  · intro b row hrow
    rw [Table.get?_modify] at hrow
    split at hrow
    · obtain ⟨bridge, -, rfl⟩ := Option.map_eq_some_iff.mp hrow
      simp [hreleased bridge]
    · exact h.in_use_iff b row hrow

/-- A release by hand keeps the invariant. -/
private theorem Ownership.releaseStep {s : State} (h : Ownership s) {call : ℕ}
    (hok : ownersKept s (.releaseBridge call) = true) : Ownership (releaseStep s call) := by
  unfold Provisioning.releaseStep
  split
  case h_2 => exact h
  case h_1 bridgeId bridge tenant hcall =>
    have hrelease := h.releases call _ hcall
    have hguard := hok
    simp only [ownersKept, hcall, Option.all_some, Bool.or_eq_true, beq_iff_eq,
      Bool.and_eq_true, Option.all_eq_true] at hguard
    have hbridges := h.bridges.releaseBridge hrelease hguard
    obtain ⟨-, tenantId, loaded, howner, htruthy, htenant, -⟩ := hrelease
    dsimp only at howner htenant
    refine ⟨hbridges, ⟨h.defaults.live, h.defaults.unique, h.defaults.gateway_ne⟩, ?_,
      h.messages, h.runs, ?_⟩
    · refine h.addresses.modify_tenant tenantId (f := .loseBridge loaded) ?_
        (fun _ _ hdefault => hdefault) ?_ ?_
      · simp only [ProxmoxIaas.releaseBridge, howner, htruthy, htenant]
      · intro stored lanIp hget hlan
        exact h.addresses.known tenantId stored lanIp hget hlan
      · intro stored hget hactive
        rcases writeColumn_eq_or (some loaded) (·.status) .error stored.status with hw | hw
        · cases hw.symm.trans hactive
        · exact h.addresses.active tenantId stored hget (hw.symm.trans hactive)
    · intro call' release hget
      obtain ⟨-, hget⟩ := Table.get?_erase_eq_some.mp hget
      exact h.releases call' release hget

/-- Inserting a default network for a tenant that has none. -/
private theorem defaults_add_default {db : Db} {network : TenantNetwork} {tenantId : ℕ}
    {gatewayIp : String} (hnew : network.defaultOf = some (tenantId, gatewayIp)) :
    Provisioning.defaults { db with tenantNetworks := db.tenantNetworks.add network } =
      Function.update (Provisioning.defaults db) db.tenantNetworks.next
        (some (tenantId, gatewayIp)) := by
  unfold Provisioning.defaults
  rw [Serial.column_add, hnew]

/-- A tenant without a default network in the database has none among the live ones. -/
private theorem no_default_of_defaultNetwork? {db : Db} {tenantId : ℕ}
    (h : defaultNetwork? db tenantId = none) (i : ℕ) (gatewayIp : String) :
    Provisioning.defaults db i ≠ some (tenantId, gatewayIp) := by
  intro hi
  obtain ⟨network, hget, hof⟩ := Serial.column_eq_some_iff.mp hi
  obtain ⟨hdefault, -, htenant, -⟩ := defaultOf_eq_some_iff.mp hof
  exact of_decide_eq_false (Serial.first?_eq_none_iff.mp h i network hget) ⟨htenant, hdefault⟩

/-- The insertion of a default network for a tenant that has none keeps them unique. -/
private theorem DefaultsUnique.add_default {db : Db} (h : DefaultsUnique db)
    {network : TenantNetwork} {tenantId : ℕ} {gatewayIp : String}
    (hnew : network.defaultOf = some (tenantId, gatewayIp))
    (hnone : defaultNetwork? db tenantId = none) :
    DefaultsUnique { db with tenantNetworks := db.tenantNetworks.add network } where
  live := by
    intro i row hrow hdefault
    rw [Serial.get?_add] at hrow
    split at hrow
    case isTrue =>
      cases hrow
      exact (defaultOf_eq_some_iff.mp hnew).2.1
    case isFalse => exact h.live i row hrow hdefault
  unique := by
    intro i j owner gateway gateway' hi hj
    rw [defaults_add_default hnew] at hi hj
    by_cases hin : i = db.tenantNetworks.next <;> by_cases hjn : j = db.tenantNetworks.next
    · rw [hin, hjn]
    · rw [hin, Function.update_self] at hi
      cases hi
      rw [Function.update_of_ne hjn] at hj
      exact absurd hj (no_default_of_defaultNetwork? hnone j gateway')
    · rw [hjn, Function.update_self] at hj
      cases hj
      rw [Function.update_of_ne hin] at hi
      exact absurd hi (no_default_of_defaultNetwork? hnone i gateway)
    · rw [Function.update_of_ne hin] at hi
      rw [Function.update_of_ne hjn] at hj
      exact h.unique i j owner gateway gateway' hi hj
  gateway_ne := h.gateway_ne

/-- The insertion of a default network forgets no default network. -/
private theorem HasDefault.add_default {db : Db} {network : TenantNetwork} {tenantId : ℕ}
    {gatewayIp : String} (hnew : network.defaultOf = some (tenantId, gatewayIp)) {owner : ℕ}
    {gateway : String} (h : HasDefault db owner gateway) :
    HasDefault { db with tenantNetworks := db.tenantNetworks.add network } owner gateway := by
  obtain ⟨i, hi⟩ := h
  refine ⟨i, ?_⟩
  rw [defaults_add_default hnew, Function.update_of_ne]
  · exact hi
  · rintro rfl
    exact absurd (hi.symm.trans (Serial.column_next _ _)) (Option.some_ne_none _)

/-- The two records of the ownership of bridges after an approval. -/
private theorem BridgesAgree.approve {db : Db} (h : BridgesAgree db) {tenantId bridgeId : ℕ}
    {stored loaded : Tenant} {bridge : BridgePool} (podId : ℕ) (gatewayIp : String)
    (hstored : db.tenants.get? tenantId = some stored) (hnone : stored.bridgeId = none)
    (hloaded : truthy loaded.bridgeId = none) (hne : bridgeId ≠ 0)
    (hbridge : db.bridgePool.get? bridgeId = some bridge) (hfree : bridge.status = .available) :
    BridgesAgree { db with
      tenants := db.tenants.modify tenantId
        (.approve tenantId podId bridgeId gatewayIp loaded)
      bridgePool := db.bridgePool.modify bridgeId fun _ =>
        { status := .inUse, tenantId := some tenantId } } where
  paired := by
    have hunowned : bridge.tenantId = none := by
      by_contra howned
      have hinUse := (h.in_use_iff bridgeId bridge hbridge).mpr howned
      rw [hfree] at hinUse
      cases hinUse
    have hwritten : (Tenant.approve tenantId podId bridgeId gatewayIp loaded stored).bridgeId =
        some bridgeId := by
      refine writeColumn_of_ne fun heq => ?_
      rw [heq, truthy, Option.filter_eq_none_iff] at hloaded
      exact hloaded bridgeId rfl (decide_eq_true hne)
    rw [Serial.column_modify, hstored, Option.bind_some, Function.comp_apply, hwritten,
      Table.column_modify, hbridge, Option.bind_some, Function.comp_apply]
    exact h.paired.acquire ((Serial.column_of_get? hstored).trans hnone)
      ((Table.column_of_get? hbridge).trans hunowned)
  in_use_iff := by
    intro b row hrow
    rw [Table.get?_modify] at hrow
    split at hrow
    · obtain ⟨_, -, rfl⟩ := Option.map_eq_some_iff.mp hrow
      simp
    · exact h.in_use_iff b row hrow

/-- A committed approval of a tenant without bridge and default network keeps the
invariant. -/
private theorem Ownership.approveStep {s : State} (h : Ownership s) {call : ℕ} {locks : Locks}
    {bridgeCreation : Except String Unit} {dispatched : Bool}
    (hok : ownersKept s (.approveTenant call locks bridgeCreation dispatched) = true) :
    Ownership (approveStep s call locks bridgeCreation dispatched) := by
  unfold Provisioning.approveStep
  split
  case h_2 => exact h
  case h_1 request tenantId loaded hcall =>
    split
    case h_1 => exact ⟨h.bridges, h.defaults, h.addresses, h.messages, h.runs, h.releases⟩
    case h_2 message db happrove =>
      -- the tenant has neither a bridge nor a default network yet
      have hready : (∃ stored, s.db.tenants.get? tenantId = some stored ∧
          stored.bridgeId = none) ∧ defaultNetwork? s.db tenantId = none := by
        have hnotRaised := approvalRaises_eq_false happrove
        simpa [ownersKept, hcall, hnotRaised, Option.any_eq_true] using hok
      obtain ⟨⟨stored, hstored, hnobridge⟩, hnodefault⟩ := hready
      obtain ⟨podId, bridgeId, bridge, subnetId, subnet, hstatus, hloaded, hbridge, havailable,
        hne, hsubnet, -, rfl, rfl⟩ := approveTenant_eq_ok happrove
      have hgateway := h.defaults.gateway_ne subnetId subnet hsubnet
      have hnew : (approvedNetwork tenantId podId bridgeId (subnetId, subnet)).defaultOf =
          some (tenantId, subnet.gatewayIp) := rfl
      generalize approvedNetwork tenantId podId bridgeId (subnetId, subnet) = network at hnew ⊢
      -- the approval takes an available bridge and inserts the default network
      have hbridges := h.bridges.approve podId subnet.gatewayIp hstored hnobridge hloaded hne
        hbridge havailable
      have hallocated := h.defaults.modify_pool subnetId (f := .allocate) fun _ => rfl
      have hlinked := hallocated.modify_pool subnetId (f := .link none) fun _ => rfl
      have hdefaults := hlinked.add_default hnew hnodefault
      have hmono : ∀ owner gateway, HasDefault s.db owner gateway → HasDefault { s.db with
          tenantNetworks := s.db.tenantNetworks.add network } owner gateway :=
        fun owner gateway hdefault => hdefault.add_default hnew
      have hown : HasDefault { s.db with
          tenantNetworks := s.db.tenantNetworks.add network } tenantId subnet.gatewayIp := by
        refine ⟨s.db.tenantNetworks.next, ?_⟩
        rw [defaults_add_default hnew, Function.update_self]
      refine ⟨⟨hbridges.paired, hbridges.in_use_iff⟩,
        ⟨hdefaults.live, hdefaults.unique, hdefaults.gateway_ne⟩, ?_, ?_, ?_, h.releases⟩
      · refine h.addresses.modify_tenant tenantId rfl hmono ?_ ?_
        · intro tenant lanIp hget hlan
          -- the address is that of the new default network, or the one that the row had
          rcases writeColumn_eq_or (some loaded) (·.lanIp) (some subnet.gatewayIp) tenant.lanIp
            with hw | hw
          · cases hw.symm.trans hlan
            exact hown
          · exact hmono _ _ (h.addresses.known tenantId tenant lanIp hget (hw.symm.trans hlan))
        · intro tenant hget hactive
          have hprovisioning : (Tenant.approve tenantId podId bridgeId subnet.gatewayIp loaded
              tenant).status = .provisioning := by
            refine writeColumn_of_ne fun heq => ?_
            rw [heq] at hstatus
            exact absurd hstatus (by decide)
          rw [hprovisioning] at hactive
          cases hactive
      · intro message hmem
        dsimp only at hmem
        split at hmem
        · rcases List.mem_append.mp hmem with hold | hlast
          · exact ⟨hmono _ _ (h.messages message hold).1, (h.messages message hold).2⟩
          · cases List.mem_singleton.mp hlast
            exact ⟨hown, hgateway⟩
        · exact ⟨hmono _ _ (h.messages message hmem).1, (h.messages message hmem).2⟩
      · intro run provisionRun hrun
        exact ⟨hmono _ _ (h.runs run provisionRun hrun).1, (h.runs run provisionRun hrun).2⟩

/-- A delivered message starts a run with the message's arguments. -/
private theorem Ownership.beginStep {s : State} (h : Ownership s) {run index : ℕ} :
    Ownership (beginStep s run index) := by
  unfold Provisioning.beginStep
  split
  case h_2 => exact h
  case h_1 provisionRun hbegin =>
    refine ⟨h.bridges, h.defaults, h.addresses, h.messages, ?_, h.releases⟩
    intro run' row hrow
    rcases Table.get?_insert_eq_some.mp hrow with ⟨-, rfl⟩ | ⟨-, hrow⟩
    · obtain ⟨message, hmessage, hrun⟩ := Option.bind_eq_some_iff.mp hbegin
      have hsame : provisionRun.message = message := by
        unfold beginProvision at hrun
        split at hrun
        · cases hrun
        · split at hrun <;> cases hrun
          rfl
      rw [hsame]
      exact h.messages message (List.mem_of_getElem? hmessage)
    · exact h.runs run' row hrow

/-- A request or task that rewrites one network, without making it the default network of
another tenant or deleting a default network, keeps the invariant. -/
private theorem Ownership.of_network {s s' : State} (h : Ownership s) {i : ℕ}
    {f : TenantNetwork → TenantNetwork}
    (hdb : s'.db = { s.db with tenantNetworks := s.db.tenantNetworks.modify i f })
    (hsame : ∀ network, s.db.tenantNetworks.get? i = some network →
      (f network).isDefault = network.isDefault ∧ (f network).tenantId = network.tenantId ∧
      (f network).gatewayIp = network.gatewayIp ∧
      (network.isDefault = true → (f network).live = true))
    (hmessages : s'.messages = s.messages) (hruns : s'.provisionRuns = s.provisionRuns)
    (hreleases : s'.releases = s.releases) : Ownership s' := by
  obtain ⟨hdefaults, hunique⟩ := h.defaults.modify_network hsame
  exact h.of_same_defaults (by rw [hdb]) (by rw [hdb]) (by rw [hdb]; exact hdefaults)
    (by rw [hdb]; exact hunique) hmessages hruns hreleases

/-- A committed `create_network` inserts no default network. -/
private theorem Ownership.createNetworkStep {s : State} (h : Ownership s) {locks : Locks}
    {tenantId : ℕ} {name : String} : Ownership (createNetworkStep s locks tenantId name) := by
  unfold Provisioning.createNetworkStep
  split
  case h_1 => exact h
  case h_2 message db hcreate =>
    obtain ⟨podId, subnetId, subnet, vlanId, vlan, providerRef, -, -, -, -, rfl⟩ :=
      createNetwork_eq_ok hcreate
    have hallocated := h.defaults.modify_pool subnetId (f := .allocate) fun _ => rfl
    have hlinked := hallocated.modify_pool subnetId (f := .link none) fun _ => rfl
    obtain ⟨hdefaults, hunique⟩ := hlinked.add_network
      (additionalNetwork tenantId podId (subnetId, subnet) vlanId name providerRef) rfl
    exact h.of_same_defaults rfl rfl hdefaults
      ⟨hunique.live, hunique.unique, hunique.gateway_ne⟩ rfl rfl rfl

/-- A committed `delete_network` deletes no default network. -/
private theorem Ownership.deleteNetworkStep {s : State} (h : Ownership s)
    {tenantId networkId : ℕ} : Ownership (deleteNetworkStep s tenantId networkId) := by
  unfold Provisioning.deleteNetworkStep
  split
  case h_1 => exact h
  case h_2 db hdelete =>
    obtain ⟨network, hget, -, hdefault, rfl⟩ := deleteNetwork_eq_ok hdelete
    obtain ⟨hdefaults, hunique⟩ := h.defaults.modify_network (i := networkId) (f := .delete)
      (by
        intro row hrow
        cases hget.symm.trans hrow
        exact ⟨rfl, rfl, rfl, fun htrue => absurd (hdefault.symm.trans htrue) nofun⟩)
    refine h.of_same_defaults rfl rfl hdefaults ⟨hunique.live, hunique.unique, ?_⟩ rfl rfl rfl
    have hpool : (releaseNetworkSubnet s.db network).globalIpPool = s.db.globalIpPool ∨
        ∃ id, (releaseNetworkSubnet s.db network).globalIpPool =
          s.db.globalIpPool.modify id .release := by
      unfold releaseNetworkSubnet
      split
      case h_1 id _ => exact Or.inr ⟨id, rfl⟩
      case h_2 => exact Or.inl rfl
    rcases hpool with heq | ⟨id, heq⟩
    · rw [heq]
      exact h.defaults.gateway_ne
    · rw [heq]
      exact (h.defaults.modify_pool id (f := .release) fun _ => rfl).gateway_ne

/-- Loading a tenant for an approval writes nothing. -/
private theorem Ownership.openApproval {s : State} (h : Ownership s) {call : ℕ}
    {request : ApprovalRequest} {tenantId : ℕ} :
    Ownership (openApproval s call request tenantId) := by
  unfold Provisioning.openApproval
  split
  · exact h
  · dsimp only
    split
    · exact h
    · exact ⟨h.bridges, h.defaults, h.addresses, h.messages, h.runs, h.releases⟩

/-- Loading a tenant again writes nothing. -/
private theorem Ownership.reloadStep {s : State} (h : Ownership s) {call : ℕ} :
    Ownership (reloadStep s call) := by
  unfold Provisioning.reloadStep
  split
  · exact ⟨h.bridges, h.defaults, h.addresses, h.messages, h.runs, h.releases⟩
  · exact h

/-- The sessions of a VLAN task change the status of a network, which leaves it live. -/
private theorem Ownership.markStep {s : State} (h : Ownership s) {run : ℕ} :
    Ownership (markStep s run) := by
  unfold Provisioning.markStep
  split
  case h_2 => exact h
  case h_1 vlanRun _ =>
    split
    case isFalse => exact h
    case isTrue =>
      dsimp only [vlanMark]
      split
      · exact h.of_network rfl (fun _ _ => ⟨rfl, rfl, rfl, fun _ => rfl⟩) rfl rfl rfl
      · exact ⟨h.bridges, h.defaults, h.addresses, h.messages, h.runs, h.releases⟩

private theorem Ownership.finishStep {s : State} (h : Ownership s) {run : ℕ}
    {optName : String} : Ownership (finishStep s run optName) := by
  unfold Provisioning.finishStep
  split
  case h_2 => exact h
  case h_1 vlanRun _ =>
    split
    case isFalse => exact h
    case isTrue => exact h.of_network rfl (fun _ _ => ⟨rfl, rfl, rfl, fun _ => rfl⟩) rfl rfl rfl

private theorem Ownership.failStep {s : State} (h : Ownership s) {run : ℕ} :
    Ownership (failStep s run) := by
  unfold Provisioning.failStep
  split
  case h_2 => exact h
  case h_1 vlanRun _ =>
    dsimp only [vlanFail]
    split
    · exact h.of_network rfl (fun _ _ => ⟨rfl, rfl, rfl, fun _ => rfl⟩) rfl rfl rfl
    · exact ⟨h.bridges, h.defaults, h.addresses, h.messages, h.runs, h.releases⟩

/-- The invariant does not depend on the storage order. -/
private theorem Ownership.reorder {s : State} (h : Ownership s) (row : StoredRow) :
    Ownership { s with db := reorder s.db row } := by
  cases row with
  | pod id => exact ⟨⟨h.bridges.paired, h.bridges.in_use_iff⟩,
      ⟨h.defaults.live, h.defaults.unique, h.defaults.gateway_ne⟩,
      ⟨h.addresses.known, h.addresses.active⟩, h.messages, h.runs, h.releases⟩
  | vlan key => exact ⟨⟨h.bridges.paired, h.bridges.in_use_iff⟩,
      ⟨h.defaults.live, h.defaults.unique, h.defaults.gateway_ne⟩,
      ⟨h.addresses.known, h.addresses.active⟩, h.messages, h.runs, h.releases⟩
  | bridge id =>
    have hsame : (s.db.bridgePool.toFront id).get? = s.db.bridgePool.get? :=
      funext fun _ => Table.get?_toFront ..
    refine ⟨⟨?_, ?_⟩, ⟨h.defaults.live, h.defaults.unique, h.defaults.gateway_ne⟩,
      ⟨h.addresses.known, h.addresses.active⟩, h.messages, h.runs, h.releases⟩
    · exact (Table.column_congr hsame (·.tenantId)) ▸ h.bridges.paired
    · exact hsame ▸ h.bridges.in_use_iff
  | subnet id =>
    have hsame : (s.db.globalIpPool.toFront id).get? = s.db.globalIpPool.get? :=
      funext fun _ => Serial.get?_toFront ..
    exact h.of_same_defaults rfl rfl rfl
      ⟨h.defaults.live, h.defaults.unique, hsame ▸ h.defaults.gateway_ne⟩ rfl rfl rfl
  | network id =>
    have hsame : (s.db.tenantNetworks.toFront id).get? = s.db.tenantNetworks.get? :=
      funext fun _ => Serial.get?_toFront ..
    have hdefaults : Provisioning.defaults (Provisioning.reorder s.db (.network id)) =
        Provisioning.defaults s.db := Serial.column_congr hsame _
    refine h.of_same_defaults rfl rfl hdefaults ⟨?_, ?_, h.defaults.gateway_ne⟩ rfl rfl rfl
    · exact hsame ▸ h.defaults.live
    · exact hdefaults ▸ h.defaults.unique

/-- One step keeps the invariant. -/
theorem Ownership.step {s : State} {e : Event} (h : Ownership s)
    (hok : ownersKept s e = true) : Ownership (step s e) := by
  cases e with
  | openApproval call request tenantId => exact h.openApproval
  | resetTenant call => exact h.resetStep hok
  | reloadTenant call => exact h.reloadStep
  | approveTenant call locks bridgeCreation dispatched => exact h.approveStep hok
  | verifyTenant call => exact h.verifyStep
  | openRelease call bridgeId => exact h.openRelease
  | releaseBridge call => exact h.releaseStep hok
  | createNetwork locks tenantId name => exact h.createNetworkStep
  | deleteNetwork tenantId networkId => exact h.deleteNetworkStep
  | lookUpVlan run arguments =>
    exact ⟨h.bridges, h.defaults, h.addresses, h.messages, h.runs, h.releases⟩
  | markVlan run => exact h.markStep
  | finishVlan run optName => exact h.finishStep
  | failVlan run => exact h.failStep
  | beginProvision run index => exact h.beginStep
  | stepProvision run step =>
    refine h.provisionStep fun hcomplete provisionRun tenant stored hrun hkeyed hsession hne
      hstored => ?_
    subst hcomplete
    simpa [ownersKept, hrun, hkeyed, hsession, hne, hstored] using hok
  | destroyTenant tenantId => exact h
  | reorder row => exact h.reorder row

/-- In every run in which no reset forgets a bridge, no approval is committed for a tenant with
a bridge or a default network, no release by hand finds a bridge that has changed hands, and
no provisioning run completes for a tenant without address, the records of the ownership of
bridges, default networks and addresses agree. -/
theorem bridges_and_default_networks_owned {s : State}
    (h : machine.Reachable (fun s e => ownersKept s e = true) s) : OwnershipAgrees s.db := by
  have hinv : Ownership s := by
    refine h.invariant Ownership ?_ ?_
    · rintro _ ⟨db, hseeded, rfl⟩
      exact .of_seeded hseeded
    · intro s e hs hok
      exact hs.step hok
  exact hinv.agrees

/-- The first tenant is approved and provisioned; the second one's provisioning fails, its
bridge is released by hand, and it is reset. -/
theorem bridges_and_default_networks_owned_small : OwnershipAgrees (machine.run smallState
    [.openApproval 0 .admin 1, .approveTenant 0 .none (.ok ()) true,
      .openApproval 1 .admin 2, .approveTenant 1 .none (.ok ()) true, .beginProvision 0 0,
      .stepProvision 0 (.setWanIp "198.51.100.7"), .stepProvision 0 .setLanIp,
      .stepProvision 0 .load,
      .stepProvision 0 (.rotateKey "key" "secret"), .stepProvision 0 .load,
      .stepProvision 0 .complete, .beginProvision 1 1,
      .stepProvision 1 (.fail "Timeout waiting for WAN IP via DHCP"),
      .openRelease 0 100, .releaseBridge 0, .openApproval 2 .verify 2, .resetTenant 2,
      .destroyTenant 2]).db :=
  bridges_and_default_networks_owned ((Machine.Reachable.start init_smallState).run (by decide))

/-- The reset of a tenant whose provisioning failed forgets its bridge, which stays in use for
the tenant. -/
theorem bridges_and_default_networks_not_owned :
    ¬ ∀ s, machine.Reachable Machine.anyStep s → OwnershipAgrees s.db := by
  intro h
  have hagrees := h _ (Machine.reachable_run init_smallState
    [.openApproval 0 .admin 1, .approveTenant 0 .none (.ok ()) true, .beginProvision 0 0,
      .stepProvision 0 (.fail "Timeout waiting for WAN IP via DHCP"),
      .openApproval 1 .verify 1, .resetTenant 1])
  have hbridge := (hagrees.in_use_iff 101 _ 1 _ rfl rfl).mp ⟨rfl, rfl⟩
  exact absurd hbridge (by decide)

end Provisioning

end ProxmoxIaas
