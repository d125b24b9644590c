import ProxmoxIaas.Quota.Model
import ProxmoxIaas.WireGuard.ListenPorts

/-!
# The Quota of Networks and Tunnels

`create_network` asks no quota. `create_tunnel` does: it compares the number of active networks
with `max_networks`, which is the only limit there is for tunnels, and never counts tunnels.

The runs are those of the tunnel system without the approval of tenants: the endpoints that
create and delete networks and tunnels, and the tasks that they dispatch. It is the task of
`create_network` that makes a network active.

## Main results

- `networkQuota_kept`: where the quota is kept, and what is reported of it.
-/

namespace ProxmoxIaas.Quota

open Tunnels (State Event)

section

variable (tenantId : ℕ) (limit : Option ℕ)

/-- The number of active networks of the tenant. -/
def activeNetworks (s : State) : ℕ :=
  s.base.db.tenantNetworks.count fun network =>
    network.tenantId = tenantId ∧ network.status = .active

/-- The number of tunnels of the tenant. -/
def tunnelCount (s : State) : ℕ := s.wg.tunnels.count fun tunnel => tunnel.tenantId = tenantId

/-- The tenant keeps to the limit with its active networks, and with its tunnels. -/
structure WithinNetworkQuota (s : State) : Prop where
  networks : ∀ max ∈ limit, activeNetworks tenantId s ≤ max
  tunnels : ∀ max ∈ limit, tunnelCount tenantId s ≤ max

/-- The tunnel system, started within the quota of the tenant. -/
def networkMachine : Machine State Event where
  init s := WithinNetworkQuota tenantId limit s
  step := Tunnels.step

/-- The steps of the endpoints that create and delete networks and tunnels, and of their tasks.
`create_tunnel` is called with the limit in the settings of the tenant. -/
def inScope : Event → Bool
  | .base (.createNetwork ..) | .base (.deleteNetwork ..) | .base (.lookUpVlan ..)
  | .base (.markVlan ..) | .base (.finishVlan ..) | .base (.failVlan ..)
  | .base (.reorder ..) => true
  | .base _ => false
  | .openTunnel _ id maxNetworks _ => id ≠ tenantId || maxNetworks = limit
  | _ => true

/-- The step makes no network active and inserts no tunnel beyond the limit. -/
def keepsNetworkQuota (s : State) : Event → Bool
  | .base (.finishVlan run _) =>
    (s.base.vlanRuns.get? run).all fun vlanRun =>
      vlanRun.phase ≠ .provisioning ||
        (s.base.db.tenantNetworks.get? vlanRun.networkId).all fun network =>
          network.tenantId ≠ tenantId || network.status = .active ||
            limit.all fun max => activeNetworks tenantId s + 1 ≤ max
  | .createTunnel call _ =>
    (s.requests.get? call).all fun request =>
      request.tenantId ≠ tenantId || limit.all fun max => tunnelCount tenantId s + 1 ≤ max
  | _ => true

end

variable {tenantId : ℕ} {limit : Option ℕ} {s : State}

/-- The number of active networks of a tenant in a database. -/
abbrev activeCount (tenantId : ℕ) (db : Db) : ℕ :=
  db.tenantNetworks.count fun network => network.tenantId = tenantId ∧ network.status = .active

/-- Writing a status other than active makes no network active. -/
theorem activeCount_setNetworkStatus_le (db : Db) (networkId : ℕ) {status : NetworkStatus}
    (h : status ≠ .active) :
    activeCount tenantId (setNetworkStatus db networkId status) ≤ activeCount tenantId db :=
  Serial.count_modify_le fun _ hboth => absurd (of_decide_eq_true hboth).2 h

/-- A network that was not active adds to the number when its task completes. -/
theorem activeCount_vlanFinish_le (db : Db) (vlanRun : VlanRun) (optName : String)
    (h : ∀ network, db.tenantNetworks.get? vlanRun.networkId = some network →
      network.tenantId = tenantId → network.status ≠ .active →
        ∀ max ∈ limit, activeCount tenantId db + 1 ≤ max)
    (hwithin : ∀ max ∈ limit, activeCount tenantId db ≤ max) :
    ∀ max ∈ limit, activeCount tenantId (vlanFinish db vlanRun optName) ≤ max := by
  intro max hmax
  have hbefore := hwithin max hmax
  simp only [activeCount] at hbefore h
  show (db.tenantNetworks.modify vlanRun.networkId fun network =>
    { network with status := .active, opnsenseInterface := some optName }).count _ ≤ max
  cases hget : db.tenantNetworks.get? vlanRun.networkId with
  | none =>
    rw [Serial.count_modify_of_eq fun network hsome => by rw [hget] at hsome; cases hsome]
    exact hbefore
  | some network =>
    have hsum := Serial.count_modify hget (fun network : TenantNetwork =>
      { network with status := .active, opnsenseInterface := some optName }) fun network =>
        decide (network.tenantId = tenantId ∧ network.status = .active)
    by_cases howner : network.tenantId = tenantId
    · by_cases hactive : network.status = .active
      · -- the network counts already
        simp only [howner, hactive, and_self, decide_true] at hsum
        omega
      · have hroom := h network hget howner hactive max hmax
        simp only [howner, hactive] at hsum
        simp only [and_false, decide_false, and_self, decide_true, Bool.toNat_false,
          Bool.toNat_true] at hsum
        omega
    · simp only [howner, false_and, decide_false, Bool.toNat_false] at hsum
      omega

/-- The networks keep to the limit. -/
theorem networks_step {e : Event} (h : WithinNetworkQuota tenantId limit s)
    (hscope : inScope tenantId limit e = true) (hok : keepsNetworkQuota tenantId limit s e = true) :
    ∀ max ∈ limit, activeNetworks tenantId (Tunnels.step s e) ≤ max := by
  -- Most steps make no network active.
  have hfewer : ∀ {db : Db}, (Tunnels.step s e).base.db = db →
      activeCount tenantId db ≤ activeCount tenantId s.base.db →
        ∀ max ∈ limit, activeNetworks tenantId (Tunnels.step s e) ≤ max := by
    intro db hdb hle max hmax
    have hbefore := h.networks max hmax
    rw [activeNetworks, hdb]
    exact Nat.le_trans hle hbefore
  rcases Tunnels.step_base s e with hbase | ⟨e, rfl, hstep⟩
  · exact hfewer (congrArg (·.db) hbase) (Nat.le_refl _)
  · cases e with
    | createNetwork locks id name =>
      rcases Provisioning.createNetworkStep_db s.base locks id name with
        hsame | ⟨message, db, hcreate, hdb⟩
      · exact hfewer hsame (Nat.le_refl _)
      · obtain ⟨podId, subnetId, subnet, vlanId, vlan, providerRef, -, -, -, -, rfl⟩ :=
          createNetwork_eq_ok hcreate
        refine hfewer hdb ?_
        -- the new network is pending
        show (s.base.db.tenantNetworks.add _).count _ ≤ _
        rw [Serial.count_add]
        refine Nat.le_of_eq (Nat.add_eq_left.mpr ?_)
        simp [additionalNetwork]
    | deleteNetwork id networkId =>
      rcases Provisioning.deleteNetworkStep_db s.base id networkId with hsame | ⟨db, hdelete, hdb⟩
      · exact hfewer hsame (Nat.le_refl _)
      · obtain ⟨network, -, -, -, rfl⟩ := deleteNetwork_eq_ok hdelete
        refine hfewer hdb (Serial.count_modify_le fun network hboth => ?_)
        exact absurd (of_decide_eq_true hboth).2 NetworkStatus.noConfusion
    | lookUpVlan run arguments => exact hfewer rfl (Nat.le_refl _)
    | markVlan run =>
      rcases Provisioning.markStep_db s.base run with hsame | ⟨vlanRun, -, -, hdb⟩
      · exact hfewer hsame (Nat.le_refl _)
      · refine hfewer hdb ?_
        rw [vlanMark]
        split
        · exact activeCount_setNetworkStatus_le _ _ NetworkStatus.noConfusion
        · exact Nat.le_refl _
    | failVlan run =>
      rcases Provisioning.failStep_db s.base run with hsame | ⟨vlanRun, -, hdb⟩
      · exact hfewer hsame (Nat.le_refl _)
      · refine hfewer hdb ?_
        rw [vlanFail]
        split
        · exact activeCount_setNetworkStatus_le _ _ NetworkStatus.noConfusion
        · exact Nat.le_refl _
    | finishVlan run optName =>
      rcases Provisioning.finishStep_db s.base run optName with
        hsame | ⟨vlanRun, hrun, hphase, hdb⟩
      · exact hfewer hsame (Nat.le_refl _)
      · rw [activeNetworks, show (Tunnels.step s (.base (.finishVlan run optName))).base.db = _
          from hdb]
        refine activeCount_vlanFinish_le _ _ _ (fun network hget howner hactive max hmax => ?_)
          h.networks
        have hroom : limit.all (fun max => activeNetworks tenantId s + 1 ≤ max) = true := by
          simpa [keepsNetworkQuota, hrun, hphase, hget, howner, hactive] using hok
        exact of_decide_eq_true ((Option.all_eq_true _ _).mp hroom max hmax)
    | reorder row =>
      refine hfewer rfl ?_
      cases row with
      | network id =>
        exact Nat.le_of_eq (Serial.count_congr (funext fun id' => Serial.get?_toFront ..) _)
      | _ => exact Nat.le_refl _
    | _ => cases hscope

/-- Every tunnel was there before, with the same owner. -/
def OwnersKept (wg wg' : TunnelDb) : Prop :=
  ∀ id tunnel, wg'.tunnels.get? id = some tunnel →
    ∃ before, wg.tunnels.get? id = some before ∧ before.tenantId = tunnel.tenantId

theorem OwnersKept.of_eq {wg wg' : TunnelDb} (h : wg'.tunnels = wg.tunnels) :
    OwnersKept wg wg' := by
  intro id tunnel hget
  rw [h] at hget
  exact ⟨tunnel, hget, rfl⟩

theorem OwnersKept.write {wg wg' : TunnelDb} {tunnelId : ℕ} {f : Tunnel → Tunnel}
    (hwg : wg'.tunnels = wg.tunnels.modify tunnelId f)
    (hf : ∀ tunnel, (f tunnel).tenantId = tunnel.tenantId) : OwnersKept wg wg' := by
  intro id tunnel hget
  rw [hwg, Serial.get?_modify] at hget
  split at hget
  case isTrue =>
    obtain ⟨before, hbefore, rfl⟩ := Option.map_eq_some_iff.mp hget
    exact ⟨before, hbefore, (hf before).symm⟩
  case isFalse => exact ⟨tunnel, hget, rfl⟩

theorem OwnersKept.writeTunnel (run id : ℕ) {write : Tunnel → Tunnel}
    (phase : TunnelPhase) (h : ∀ tunnel, (write tunnel).tenantId = tunnel.tenantId) :
    OwnersKept s.wg (s.writeTunnel run id write phase).wg := by
  unfold Tunnels.State.writeTunnel
  split
  · exact .of_eq rfl
  · exact .write rfl h

theorem OwnersKept.provideSubnet {wg wg' : TunnelDb} {locked : List ℕ}
    {arguments : TunnelArguments} {loaded : Tunnel}
    (h : provideSubnet wg locked arguments = .ok (loaded, wg')) : OwnersKept wg wg' := by
  intro id tunnel hget
  obtain ⟨before, hbefore, howner, -⟩ := (Tunnels.provideSubnet_port h).2 id tunnel hget
  exact ⟨before, hbefore, howner⟩

/-- A request inserts a tunnel of its tenant; every other step keeps or deletes tunnels. -/
theorem owners_step (s : State) (e : Event) : OwnersKept s.wg (Tunnels.step s e).wg ∨
    ∃ call locked request poolId poolRow, e = .createTunnel call locked ∧
      s.requests.get? call = some request ∧
      (Tunnels.step s e).wg.tunnels = s.wg.tunnels.add (newTunnel request poolId poolRow) := by
  cases e with
  -- the creation is the only step that inserts a tunnel
  | createTunnel call locked =>
    rw [Tunnels.step, Tunnels.createStep]
    split
    case h_1 => exact Or.inl (.of_eq rfl)
    case h_2 request hrequest =>
      split
      case h_1 => exact Or.inl (.of_eq rfl)
      case h_2 id wg hok =>
        obtain ⟨poolId, poolRow, -, -, -, rfl⟩ := createTunnel_eq_ok hok
        exact Or.inr ⟨call, locked, request, poolId, poolRow, rfl, hrequest, rfl⟩
  | base e => exact Or.inl (.of_eq rfl)
  | reorderPool id => exact Or.inl (.of_eq rfl)
  | openTunnel call id maxNetworks body =>
    refine Or.inl ?_
    rw [Tunnels.step, Tunnels.openStep]
    split <;> exact .of_eq rfl
  -- a run of the provisioning task writes other columns than the owner
  | startTunnel run arguments =>
    refine Or.inl ?_
    rw [Tunnels.step, Tunnels.startStep]
    split
    case h_1 => exact .of_eq rfl
    case h_2 => exact .of_eq rfl
    case h_3 wg hok =>
      rw [startTunnel_eq_some_ok hok]
      exact .write rfl fun _ => rfl
  | provideSubnet run locked =>
    refine Or.inl ?_
    rw [Tunnels.step, Tunnels.provideStep]
    split
    case h_1 =>
      split
      case h_1 => exact .of_eq rfl
      case h_2 hok => exact .provideSubnet hok
    case h_2 => exact .of_eq rfl
  | choosePort run =>
    refine Or.inl ?_
    rw [Tunnels.step, Tunnels.portStep]
    split <;> exact .of_eq rfl
  | serveTunnel run serverUuid publicKey privateKey =>
    refine Or.inl ?_
    rw [Tunnels.step, Tunnels.serveStep]
    split
    case h_1 =>
      split
      · exact .of_eq rfl
      · exact .writeTunnel _ _ _ fun _ => rfl
    case h_2 => exact .of_eq rfl
  | linkTunnel run optName =>
    refine Or.inl ?_
    rw [Tunnels.step, Tunnels.linkStep]
    split
    · exact .writeTunnel _ _ _ fun _ => rfl
    · exact .of_eq rfl
  | activateTunnel run =>
    refine Or.inl ?_
    rw [Tunnels.step, Tunnels.activateStep]
    split
    · exact .write rfl fun _ => rfl
    · exact .of_eq rfl
  | failTunnel run message =>
    refine Or.inl ?_
    rw [Tunnels.step, Tunnels.failStep]
    split
    · exact .write rfl fun _ => rfl
    · exact .of_eq rfl
  | openDestroy run arguments =>
    refine Or.inl ?_
    rw [Tunnels.step, Tunnels.openDestroyStep]
    split
    case h_1 => exact .of_eq rfl
    case h_2 wg hok =>
      simp only [openTunnelDestroy, Option.bind_eq_bind, Option.bind_eq_some_iff] at hok
      obtain ⟨_, -, _, -, hok⟩ := hok
      obtain rfl := Option.some.inj hok
      exact .write rfl fun _ => rfl
  | loadDestroy run =>
    refine Or.inl ?_
    rw [Tunnels.step, Tunnels.loadDestroyStep]
    split
    · split <;> exact .of_eq rfl
    · exact .of_eq rfl
  | destroyTunnel run =>
    refine Or.inl ?_
    rw [Tunnels.step, Tunnels.destroyStep]
    split
    case h_1 id tunnel hrun =>
      split
      case h_1 => exact .of_eq rfl
      case h_2 wg hok =>
        -- the rows that are left are rows from before
        rw [destroyTunnel_eq_some hok]
        intro i stored hget
        rw [Serial.get?_deleteWhere] at hget
        exact ⟨stored, (Option.filter_eq_some_iff.mp hget).1, rfl⟩
    case h_2 => exact .of_eq rfl

/-- The tunnels keep to the limit. -/
theorem tunnels_step {e : Event} (h : WithinNetworkQuota tenantId limit s)
    (hok : keepsNetworkQuota tenantId limit s e = true) :
    ∀ max ∈ limit, tunnelCount tenantId (Tunnels.step s e) ≤ max := by
  intro max hmax
  have hbefore := h.tunnels max hmax
  rcases owners_step s e with hkept | ⟨call, locked, request, poolId, poolRow, rfl, hcall, hadd⟩
  · refine Nat.le_trans (Serial.count_le fun id tunnel hget howner => ?_) hbefore
    obtain ⟨before, hget', hsame⟩ := hkept id tunnel hget
    exact ⟨before, hget', by rwa [hsame]⟩
  · rw [tunnelCount, hadd, Serial.count_add]
    by_cases howner : request.tenantId = tenantId
    · have hroom : limit.all (fun max => tunnelCount tenantId s + 1 ≤ max) = true := by
        simpa [keepsNetworkQuota, hcall, howner] using hok
      have hnew : (newTunnel request poolId poolRow).tenantId = tenantId := howner
      rw [hnew, decide_eq_true rfl]
      exact of_decide_eq_true ((Option.all_eq_true _ _).mp hroom max hmax)
    · -- the tunnel of another tenant does not count
      have hnew : (newTunnel request poolId poolRow).tenantId ≠ tenantId := howner
      rw [decide_eq_false hnew]
      exact hbefore

/-- The first tenant is served, and keeps to the limit. -/
theorem init_small (max : ℕ) (hmax : 1 ≤ max) :
    (networkMachine 1 (some max)).init Tunnels.smallTunnelState := by
  constructor
  · intro max' heq
    obtain rfl := Option.some.inj heq
    exact hmax
  · intro max' heq
    exact Nat.zero_le max'

/-- The first tenant creates a network, whose VLAN task runs to its end. -/
def growNetworks : List Event :=
  [.base (.createNetwork .none 1 "app"),
    .base (.lookUpVlan 0 ⟨1, 11, some "198.51.100.7", some "key", some "secret"⟩),
    .base (.markVlan 0), .base (.finishVlan 0 "opt1")]

end ProxmoxIaas.Quota
