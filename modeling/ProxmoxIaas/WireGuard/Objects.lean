import ProxmoxIaas.Foundation.Registry
import ProxmoxIaas.WireGuard.PoolOwnership
import ProxmoxIaas.WireGuard.System

/-!
# WireGuard Objects on OPNsense

The systems of tunnels and peers together, with the servers, interfaces and clients that their tasks
make on OPNsense. A call that makes or deletes an object is a step of its own; it takes effect or
raises without effect. A run can crash at any time, and its message is delivered again.

A server is committed with its endpoint, an interface after the configuration is reloaded, and a
client as soon as its uuid is found; a run that ends before that forgets what it has made. The
destroy tasks delete what is on record, and go on if the call fails. An interface is never deleted.

## Main results

- `tunnelRows_step`, `peerRows_step`: steps that keep the objects on record.
- `tunnelRuns_step`, `peerRuns_step`: steps that keep what runs have made.
-/

namespace ProxmoxIaas

/-- The columns of a tunnel that peers depend on. -/
def Tunnel.forPeers (tunnel : Tunnel) : WireGuardTunnel where
  tenantId := tunnel.tenantId
  opnsenseServerUuid := tunnel.opnsenseServerUuid
  cidr := tunnel.cidr
  gatewayIp := tunnel.gatewayIp
  peerKeepalive := tunnel.peerKeepalive
  status := tunnel.status

namespace Objects

/-- The database, OPNsense, and the runs in flight. -/
structure State where
  /-- The tunnels, with the requests and runs that are about them. -/
  tunnels : Tunnels.State
  /-- Table `wireguard_peers`. -/
  peers : Serial WireGuardPeer
  /-- Runs of `provision_wireguard_peer_task`. -/
  peerRuns : Table ℕ PeerRun
  /-- Runs of `destroy_wireguard_peer_task`. -/
  peerDestroys : Table ℕ WireGuard.PeerDestroy
  /-- The servers on OPNsense by uuid, with the tunnel that each was made for. -/
  servers : Table String ℕ
  /-- The interfaces of tunnels on OPNsense by name, with the tunnel that each was made for. -/
  interfaces : Table String ℕ
  /-- The clients on OPNsense by uuid. -/
  clients : Table String WgClient
  /-- The peer that a client was made for. -/
  clientPeers : Table String ℕ
  /-- The servers that runs have made and not committed. -/
  madeServers : Table ℕ String
  /-- The interfaces that runs have made and not committed. -/
  madeInterfaces : Table ℕ String

/-- The peers with all that they depend on. -/
def State.peerSystem (s : State) : WireGuard.State where
  db := {
    tenants := s.tunnels.base.db.tenants
    tunnels := s.tunnels.wg.tunnels.map Tunnel.forPeers
    peers := s.peers }
  clients := s.clients
  runs := s.peerRuns
  destroys := s.peerDestroys

/-- The steps of the system. -/
inductive Event where
  /-- A step of the tunnels. -/
  | tunnel (e : Tunnels.Event)
  /-- OPNsense adds the server of a run's tunnel. -/
  | addWgServer (run : ℕ) (uuid : String)
  /-- OPNsense adds the interface of a run's tunnel. -/
  | addOptInterface (run : ℕ) (optName : String)
  /-- A run of the destroy task deletes the server of its tunnel from OPNsense. -/
  | delWgServer (run : ℕ)
  /-- A step of the peers. -/
  | peer (e : WireGuard.Event)
  /-- A run of `provision_wireguard_tunnel_task` crashes. -/
  | crashTunnel (run : ℕ)
  /-- A run of `destroy_wireguard_tunnel_task` crashes. -/
  | crashDestroy (run : ℕ)
  /-- A run of `provision_wireguard_peer_task` crashes. -/
  | crashPeer (run : ℕ)
  /-- A run of `destroy_wireguard_peer_task` crashes. -/
  | crashPeerDestroy (run : ℕ)

/-- The tunnel of a run. -/
def tunnelOf (s : Tunnels.State) (run : ℕ) : Option ℕ :=
  (s.runs.get? run).map (·.arguments.tunnelId)

/-- A column of the tunnel of a run. -/
def recordOf (s : Tunnels.State) (run : ℕ) (column : Tunnel → Option String) : Option String :=
  ((tunnelOf s run).bind s.wg.tunnels.get?).bind column

/-- What runs have made and not committed, once a run has written to its tunnel. -/
def committed (made : Table ℕ String) (run : ℕ) (record : Option String) : Table ℕ String :=
  if record = made.get? run then made.erase run else made

/-- A step of the tunnels. Runs have different numbers, and a run commits the objects that it has
made. The peers of a tunnel are deleted with it. -/
def tunnelStep (s : State) (e : Tunnels.Event) : State :=
  let s' := { s with tunnels := Tunnels.step s.tunnels e }
  match e with
  | .startTunnel run _ =>
    if (s.tunnels.runs.get? run).isSome then s
    -- the number may have been used by a run that has ended
    else { s' with
      madeServers := s.madeServers.erase run
      madeInterfaces := s.madeInterfaces.erase run }
  | .serveTunnel run serverUuid _ _ =>
    if s.madeServers.get? run = some serverUuid then
      { s' with
        madeServers :=
          committed s.madeServers run (recordOf s'.tunnels run (·.opnsenseServerUuid)) }
    else s
  | .linkTunnel run optName =>
    if s.madeInterfaces.get? run = some optName then
      { s' with
        madeInterfaces :=
          committed s.madeInterfaces run (recordOf s'.tunnels run (·.optInterface)) }
    else s
  -- the foreign key of a peer deletes it with its tunnel
  | .destroyTunnel _ =>
    { s' with
      peers := s.peers.deleteWhere fun _ peer =>
        (s.tunnels.wg.tunnels.get? peer.tunnelId).isSome &&
          (s'.tunnels.wg.tunnels.get? peer.tunnelId).isNone }
  | _ => s'

/-- Add the server of a run's tunnel to OPNsense, under a uuid that is not in use. -/
def addServerStep (s : State) (run : ℕ) (uuid : String) : State :=
  match s.tunnels.runs.get? run with
  -- the call is made once a port is chosen, before anything is committed
  | some { arguments, phase := .numbered _ _ } =>
    if s.madeServers.get? run = none ∧ s.servers.get? uuid = none then
      { s with
        servers := s.servers.insert uuid arguments.tunnelId
        madeServers := s.madeServers.insert run uuid }
    else s
  | _ => s

/-- Add or update the interface of a run's tunnel on OPNsense. -/
def addInterfaceStep (s : State) (run : ℕ) (optName : String) : State :=
  match s.tunnels.runs.get? run with
  | some { arguments, phase := .served } =>
    if s.madeInterfaces.get? run = none then
      { s with
        interfaces := s.interfaces.insert optName arguments.tunnelId
        madeInterfaces := s.madeInterfaces.insert run optName }
    else s
  | _ => s

/-- The server that the destroy task deletes from OPNsense, if the tenant has an OPNsense VM and the
tunnel has a server. -/
def serverToDelete (db : Db) (tunnel : Tunnel) : Option String := do
  let tenant ← db.tenants.get? tunnel.tenantId
  let _ ← tenant.opnsenseVmId.filter (· ≠ 0)
  let _ ← truthyText tenant.opnsenseApiKey
  truthyText tunnel.opnsenseServerUuid

/-- Delete the server of a tunnel that is being destroyed; the call may also fail and be ignored. -/
def delServerStep (s : State) (run : ℕ) : State :=
  match s.tunnels.destroys.get? run with
  | some { tunnel := some tunnel, .. } =>
    match serverToDelete s.tunnels.base.db tunnel with
    | some uuid => { s with servers := s.servers.erase uuid }
    | none => s
  | _ => s

/-- A step of the peers. Runs have different numbers, and a client is made for the peer of its
run. -/
def peerStep (s : State) (e : WireGuard.Event) : State :=
  let after := WireGuard.step s.peerSystem e
  let s' := { s with
    peers := after.db.peers
    clients := after.clients
    peerRuns := after.runs
    peerDestroys := after.destroys }
  match e with
  | .startPeer run _ _ => if (s.peerRuns.get? run).isSome then s else s'
  | .addWgClient run uuid _ =>
    match s.peerRuns.get? run with
    | some peerRun =>
      if s.clients.get? uuid = none then
        { s' with clientPeers := s.clientPeers.insert uuid peerRun.arguments.peerId }
      else s'
    | none => s'
  | _ => s'

/-- The state after a step. -/
def step (s : State) : Event → State
  | .tunnel e => tunnelStep s e
  | .addWgServer run uuid => addServerStep s run uuid
  | .addOptInterface run optName => addInterfaceStep s run optName
  | .delWgServer run => delServerStep s run
  | .peer e => peerStep s e
  | .crashTunnel run => { s with tunnels := { s.tunnels with runs := s.tunnels.runs.erase run } }
  | .crashDestroy run =>
    { s with tunnels := { s.tunnels with destroys := s.tunnels.destroys.erase run } }
  | .crashPeer run => { s with peerRuns := s.peerRuns.erase run }
  | .crashPeerDestroy run => { s with peerDestroys := s.peerDestroys.erase run }

/-- The system, started without tunnels and objects. -/
def machine : Machine State Event where
  init s := ∃ tunnels, Tunnels.freshMachine.init tunnels ∧
    s = ⟨tunnels, .empty, ∅, ∅, ∅, ∅, ∅, ∅, ∅, ∅⟩
  step := step

/-! ### What is made, recorded and there -/

/-- The object that the run of a number has made and not committed, with its tunnel. -/
def heldObject (s : Tunnels.State) (made : Table ℕ String) (run : ℕ) : Option (ℕ × String) :=
  (tunnelOf s run).bind fun id => (made.get? run).map fun name => (id, name)

/-- A run that has made nothing holds nothing. -/
theorem heldObject_of_none (s : Tunnels.State) {made : Table ℕ String}
    (hmade : made.get? run = none) : heldObject s made run = none := by
  rw [heldObject, hmade]
  cases tunnelOf s run <;> rfl

/-- The client that a run has added and not registered, with its peer. -/
def addedClient (peerRun : PeerRun) : Option (ℕ × String) :=
  match peerRun.phase with
  | .added _ _ _ clientUuid => some (peerRun.arguments.peerId, clientUuid)
  | _ => none

/-- The client that the run of a number has added and not registered. -/
def heldClient (s : WireGuard.State) (run : ℕ) : Option (ℕ × String) :=
  (s.runs.get? run).bind addedClient

/-- The peer that a client on OPNsense was made for. -/
def State.clientPeer (s : State) (uuid : String) : Option ℕ :=
  (s.clients.get? uuid).bind fun _ => s.clientPeers.get? uuid

/-- The servers of tunnels. -/
def State.serverRegistry (s : State) : Registry ℕ ℕ String :=
  .ofTable s.tunnels.wg.tunnels (·.opnsenseServerUuid) (heldObject s.tunnels s.madeServers)
    s.servers.get?

/-- The interfaces of tunnels. -/
def State.interfaceRegistry (s : State) : Registry ℕ ℕ String :=
  .ofTable s.tunnels.wg.tunnels (·.optInterface) (heldObject s.tunnels s.madeInterfaces)
    s.interfaces.get?

/-- The clients of peers. -/
def State.clientRegistry (s : State) : Registry ℕ ℕ String :=
  .ofTable s.peers (·.opnsenseClientUuid) (heldClient s.peerSystem) s.clientPeer

/-- No run is in flight. A run of the provisioning task of peers is complete once it has committed
the active status. -/
structure Quiescent (s : State) : Prop where
  tunnelRuns : s.tunnels.runs = ∅
  tunnelDestroys : s.tunnels.destroys = ∅
  peerRuns : ∀ run peerRun, s.peerRuns.get? run = some peerRun → peerRun.phase = .activated
  peerDestroys : s.peerDestroys = ∅

/-! ### Steps of tunnels -/

section Tunnels

variable {column : Tunnel → Option String}

/-- A column that is empty in a new tunnel, and that only the commits of objects write. -/
structure ObjectColumn (column : Tunnel → Option String) : Prop where
  new : ∀ request poolId poolRow, column (newTunnel request poolId poolRow) = none
  status : ∀ tunnel status error, column { tunnel with status, error } = column tunnel
  subnet : ∀ tunnel poolId poolRow, column (.setSubnet poolId poolRow tunnel) = column tunnel

theorem objectColumn_server : ObjectColumn (·.opnsenseServerUuid) :=
  ⟨fun _ _ _ => rfl, fun _ _ _ => rfl, fun _ _ _ => rfl⟩

theorem objectColumn_interface : ObjectColumn (·.optInterface) :=
  ⟨fun _ _ _ => rfl, fun _ _ _ => rfl, fun _ _ _ => rfl⟩

/-- The tunnel that a step may delete. -/
def destroyedTunnel (s : Tunnels.State) : Tunnels.Event → Option ℕ
  | .destroyTunnel run => (s.destroys.get? run).map (·.tunnelId)
  | _ => none

/-- A write to a tunnel that keeps the column. -/
theorem tunnelRows_writeTunnel (s : Tunnels.State) (run tunnelId : ℕ) {write : Tunnel → Tunnel}
    (phase : TunnelPhase) {gone : ℕ → Prop}
    (hwrite : ∀ tunnel, column (write tunnel) = column tunnel) :
    s.wg.tunnels.Keeps column (s.writeTunnel run tunnelId write phase).wg.tunnels gone := by
  unfold Tunnels.State.writeTunnel
  split
  · exact .refl _ _ _
  · exact .modify _ hwrite

/-- Apart from the commits of objects, steps keep the objects on record. -/
theorem tunnelRows_step (hcolumn : ObjectColumn column) (s : Tunnels.State) {e : Tunnels.Event}
    (hserve : ∀ run serverUuid publicKey privateKey,
      e = .serveTunnel run serverUuid publicKey privateKey →
        ∀ loaded server endpoint tunnel,
          column (.serve loaded server endpoint tunnel) = column tunnel)
    (hlink : ∀ run optName, e = .linkTunnel run optName → ∀ tunnel : Tunnel,
      column { tunnel with optInterface := some optName } = column tunnel) :
    s.wg.tunnels.Keeps column (Tunnels.step s e).wg.tunnels
      fun id => destroyedTunnel s e = some id := by
  cases e with
  | base e => exact .refl _ _ _
  | reorderPool id => exact .refl _ _ _
  | openTunnel call tenantId maxNetworks body =>
    rw [Tunnels.step, Tunnels.openStep]
    split <;> exact .refl _ _ _
  | createTunnel call locked =>
    rw [Tunnels.step, Tunnels.createStep]
    split
    case h_1 => exact .refl _ _ _
    case h_2 =>
      split
      case h_1 => exact .refl _ _ _
      case h_2 hok =>
        -- the new tunnel has no object yet
        obtain ⟨poolId, poolRow, -, -, -, rfl⟩ := createTunnel_eq_ok hok
        exact .add (hcolumn.new _ _ _)
  | startTunnel run arguments =>
    rw [Tunnels.step, Tunnels.startStep]
    split
    case h_1 => exact .refl _ _ _
    case h_2 => exact .refl _ _ _
    case h_3 wg hok =>
      rw [startTunnel_eq_some_ok hok]
      exact .modify _ fun tunnel => hcolumn.status tunnel _ _
  | provideSubnet run locked =>
    rw [Tunnels.step, Tunnels.provideStep]
    split
    case h_1 arguments hrun =>
      split
      case h_1 => exact .refl _ _ _
      case h_2 tunnel wg hok =>
        simp only [provideSubnet, Except.bind_eq_ok_iff, Except.ofOption_eq_ok_iff] at hok
        obtain ⟨stored, hget, hok⟩ := hok
        cases hpool : truthy stored.poolId with
        -- a tunnel that has its subnet is left as it is
        | some poolId =>
          rw [hpool] at hok
          cases hok
          exact .refl _ _ _
        | none =>
          simp only [hpool, Except.bind_eq_ok_iff, Except.pure_eq_ok_iff, Prod.exists] at hok
          obtain ⟨poolId, poolRow, wg₁, hsubnet, heq⟩ := hok
          obtain ⟨-, -, -, rfl⟩ := allocateTunnelSubnet_eq_ok hsubnet
          cases heq
          exact .modify _ fun tunnel => hcolumn.subnet tunnel _ _
    case h_2 => exact .refl _ _ _
  | choosePort run =>
    rw [Tunnels.step, Tunnels.portStep]
    split <;> exact .refl _ _ _
  | serveTunnel run serverUuid publicKey privateKey =>
    rw [Tunnels.step, Tunnels.serveStep]
    split
    case h_1 =>
      split
      · exact .refl _ _ _
      · exact tunnelRows_writeTunnel _ _ _ _ fun tunnel => hserve _ _ _ _ rfl _ _ _ tunnel
    case h_2 => exact .refl _ _ _
  | linkTunnel run optName =>
    rw [Tunnels.step, Tunnels.linkStep]
    split
    · exact tunnelRows_writeTunnel _ _ _ _ fun tunnel => hlink _ _ rfl tunnel
    · exact .refl _ _ _
  | activateTunnel run =>
    rw [Tunnels.step, Tunnels.activateStep]
    split
    · exact .modify _ fun tunnel => hcolumn.status tunnel _ _
    · exact .refl _ _ _
  | failTunnel run message =>
    rw [Tunnels.step, Tunnels.failStep]
    split
    · exact .modify _ fun tunnel => hcolumn.status tunnel _ _
    · exact .refl _ _ _
  | openDestroy run arguments =>
    rw [Tunnels.step, Tunnels.openDestroyStep]
    split
    case h_1 => exact .refl _ _ _
    case h_2 wg hok =>
      simp only [openTunnelDestroy, Option.bind_eq_bind, Option.bind_eq_some_iff] at hok
      obtain ⟨_, -, _, -, hok⟩ := hok
      obtain rfl := Option.some.inj hok
      exact .modify _ fun tunnel => hcolumn.status tunnel _ _
  | loadDestroy run =>
    rw [Tunnels.step, Tunnels.loadDestroyStep]
    split
    · split <;> exact .refl _ _ _
    · exact .refl _ _ _
  | destroyTunnel run =>
    rw [Tunnels.step, Tunnels.destroyStep]
    split
    case h_1 tunnelId tunnel hrun =>
      split
      case h_1 => exact .refl _ _ _
      case h_2 wg hok =>
        -- only the tunnel of the run is deleted
        rw [destroyTunnel_eq_some hok]
        refine .deleteWhere fun id _ _ hid => ?_
        show (s.destroys.get? run).map (·.tunnelId) = some id
        rw [hrun, of_decide_eq_true hid]
        rfl
    case h_2 => exact .refl _ _ _

/-- The run of the provisioning task that a step ends. -/
def endedTunnelRun : Tunnels.Event → Option ℕ
  | .activateTunnel run => some run
  | .failTunnel run _ => some run
  | _ => none

/-- What a step can do to the run of a number: its arguments stay, or it starts, or it ends. -/
def RunKept (s s' : Tunnels.State) (e : Tunnels.Event) (run : ℕ) : Prop :=
  (s'.runs.get? run).map (·.arguments) = (s.runs.get? run).map (·.arguments) ∨
    (∃ arguments, e = .startTunnel run arguments) ∨
      endedTunnelRun e = some run ∧ s'.runs.get? run = none

/-- A run goes on to another phase. -/
theorem runKept_setPhase (s : Tunnels.State) (e : Tunnels.Event) (run' : ℕ) (phase : TunnelPhase)
    (run : ℕ) : RunKept s (s.setPhase run' phase) e run := by
  left
  rw [Tunnels.State.setPhase, Table.get?_modify]
  split
  case isTrue =>
    rw [Option.map_map]
    rfl
  case isFalse => rfl

/-- A run goes on after a commit, or its commit raises. -/
theorem runKept_writeTunnel (s : Tunnels.State) (e : Tunnels.Event) (run' tunnelId : ℕ)
    (write : Tunnel → Tunnel) (phase : TunnelPhase) (run : ℕ) :
    RunKept s (s.writeTunnel run' tunnelId write phase) e run := by
  unfold Tunnels.State.writeTunnel
  split
  · exact runKept_setPhase s e run' _ run
  · exact runKept_setPhase s e run' phase run

/-- A step starts runs, ends runs, and otherwise keeps their arguments. -/
theorem tunnelRuns_step (s : Tunnels.State) (e : Tunnels.Event) (run : ℕ) :
    RunKept s (Tunnels.step s e) e run := by
  -- a run that ends leaves the others as they were
  have herase : ∀ ended, endedTunnelRun e = some ended →
      (Table.get? (s.runs.erase ended) run).map (·.arguments) =
          (s.runs.get? run).map (·.arguments) ∨
        (∃ arguments, e = .startTunnel run arguments) ∨
          endedTunnelRun e = some run ∧ Table.get? (s.runs.erase ended) run = none := by
    intro ended hended
    rw [Table.get?_erase]
    split
    case isTrue heq => exact Or.inr (Or.inr ⟨heq ▸ hended, rfl⟩)
    case isFalse => exact Or.inl rfl
  cases e with
  | startTunnel run' arguments =>
    by_cases heq : run = run'
    · exact Or.inr (Or.inl ⟨arguments, by rw [heq]⟩)
    · left
      rw [Tunnels.step, Tunnels.startStep]
      split
      · rfl
      · rw [Table.get?_insert, if_neg heq]
      · rw [Table.get?_insert, if_neg heq]
  | provideSubnet run' locked =>
    rw [Tunnels.step, Tunnels.provideStep]
    split
    · split
      · exact runKept_setPhase s _ run' _ run
      · exact runKept_setPhase s _ run' _ run
    · exact Or.inl rfl
  | choosePort run' =>
    rw [Tunnels.step, Tunnels.portStep]
    split
    · exact runKept_setPhase s _ run' _ run
    · exact Or.inl rfl
  | serveTunnel run' serverUuid publicKey privateKey =>
    rw [Tunnels.step, Tunnels.serveStep]
    split
    · split
      · exact runKept_setPhase s _ run' _ run
      · exact runKept_writeTunnel s _ run' _ _ _ run
    · exact Or.inl rfl
  | linkTunnel run' optName =>
    rw [Tunnels.step, Tunnels.linkStep]
    split
    · exact runKept_writeTunnel s _ run' _ _ _ run
    · exact Or.inl rfl
  | activateTunnel run' =>
    rw [Tunnels.step, Tunnels.activateStep]
    split
    · exact herase run' rfl
    · exact Or.inl rfl
  | failTunnel run' message =>
    rw [Tunnels.step, Tunnels.failStep]
    split
    · exact herase run' rfl
    · exact Or.inl rfl
  -- The other steps do not touch the runs of the provisioning task.
  | base e => exact Or.inl rfl
  | reorderPool id => exact Or.inl rfl
  | openTunnel call tenantId maxNetworks body =>
    rw [Tunnels.step, Tunnels.openStep]
    split <;> exact Or.inl rfl
  | createTunnel call locked =>
    rw [Tunnels.step, Tunnels.createStep]
    split
    · exact Or.inl rfl
    · split <;> exact Or.inl rfl
  | openDestroy run' arguments =>
    rw [Tunnels.step, Tunnels.openDestroyStep]
    split <;> exact Or.inl rfl
  | loadDestroy run' =>
    rw [Tunnels.step, Tunnels.loadDestroyStep]
    split
    · split <;> exact Or.inl rfl
    · exact Or.inl rfl
  | destroyTunnel run' =>
    rw [Tunnels.step, Tunnels.destroyStep]
    split
    · split <;> exact Or.inl rfl
    · exact Or.inl rfl

end Tunnels

/-! ### Steps of peers -/

/-- The peer that a step may delete. -/
def deletedPeer (s : WireGuard.State) : WireGuard.Event → Option ℕ
  | .removePeer run => (s.runs.get? run).map (·.arguments.peerId)
  | .destroyPeer run => (s.destroys.get? run).map (·.peerId)
  | _ => none

/-- Apart from registrations, steps keep the clients on record. -/
theorem peerRows_step (s : WireGuard.State) {e : WireGuard.Event}
    (hregister : ∀ run, e ≠ .registerPeer run) :
    s.db.peers.Keeps (·.opnsenseClientUuid) (WireGuard.step s e).db.peers
      fun id => deletedPeer s e = some id := by
  cases e with
  | registerPeer run => exact absurd rfl (hregister run)
  | createPeer tenantId tunnelId name endpoint keepalive =>
    rw [WireGuard.step, WireGuard.createStep]
    split
    case h_1 => exact .refl _ _ _
    case h_2 hok =>
      simp only [createPeer, Except.bind_eq_ok_iff, Except.pure_eq_ok_iff, Prod.mk.injEq] at hok
      -- a new peer has no client on record
      obtain ⟨tunnel, -, -, -, -, -, -, rfl⟩ := hok
      exact .add rfl
  | startPeer run arguments retries =>
    rw [WireGuard.step, WireGuard.startStep]
    split
    case h_1 => exact .refl _ _ _
    case h_2 => exact .refl _ _ _
    case h_3 hok =>
      simp only [startPeer, Option.bind_eq_bind, Option.bind_eq_some_iff, Option.pure_def,
        Option.some.injEq, Except.bind_eq_ok_iff, Except.pure_eq_ok_iff] at hok
      obtain ⟨_, -, _, -, _, -, _, -, _, -, rfl⟩ := hok
      exact .modify _ fun _ => rfl
  | allocatePeerIp run keys =>
    rw [WireGuard.step, WireGuard.allocateStep]
    split <;> exact .refl _ _ _
  | addWgClient run uuid located =>
    rw [WireGuard.step, WireGuard.addClientStep]
    split
    · split
      · split <;> exact .refl _ _ _
      · exact .refl _ _ _
    · exact .refl _ _ _
  | activatePeer run =>
    rw [WireGuard.step, WireGuard.activateStep]
    split
    · split
      · exact .modify _ fun _ => rfl
      · exact .refl _ _ _
    · exact .refl _ _ _
  | failPeer run message =>
    rw [WireGuard.step, WireGuard.failStep]
    split
    case h_1 => exact .refl _ _ _
    case h_2 peerRun hrun =>
      split
      case isTrue => exact .refl _ _ _
      case isFalse =>
        -- a failure writes the status and the error only
        have hrows : ∀ message, s.db.peers.Keeps (·.opnsenseClientUuid)
            (failPeer s.db peerRun message).1.peers
            fun id => deletedPeer s (.failPeer run message) = some id := by
          intro message
          unfold failPeer
          split
          · exact .refl _ _ _
          · split
            · exact .refl _ _ _
            · exact .modify _ fun _ => rfl
        dsimp only
        split <;> exact hrows _
  | removePeer run =>
    rw [WireGuard.step, WireGuard.removeStep]
    split
    case h_1 arguments retries hrun =>
      -- only the peer of the run is deleted
      refine .deleteWhere fun id _ _ hid => ?_
      show (s.runs.get? run).map (·.arguments.peerId) = some id
      rw [hrun, of_decide_eq_true hid]
      rfl
    case h_2 => exact .refl _ _ _
  | openDestroy run arguments =>
    rw [WireGuard.step, WireGuard.openDestroyStep]
    split <;> exact .refl _ _ _
  | delWgClient run =>
    rw [WireGuard.step, WireGuard.delClientStep]
    split <;> exact .refl _ _ _
  | destroyPeer run =>
    rw [WireGuard.step, WireGuard.destroyStep]
    split
    case h_1 peerId client hrun =>
      refine .deleteWhere fun id _ _ hid => ?_
      show (s.destroys.get? run).map (·.peerId) = some id
      rw [hrun, of_decide_eq_true hid]
      rfl
    case h_2 => exact .refl _ _ _

/-- What a step other than a call or a registration can do to what a run holds: it stays, or the run
starts or fails and holds nothing. -/
def HoldKept (s s' : WireGuard.State) (e : WireGuard.Event) (run : ℕ) : Prop :=
  heldClient s' run = heldClient s run ∨
    ((∃ arguments retries, e = .startPeer run arguments retries) ∨
      ∃ message, e = .failPeer run message) ∧ heldClient s' run = none

/-- A run that holds nothing goes on to a phase in which it holds nothing. -/
theorem heldClient_setPhase {s : WireGuard.State} {run' : ℕ} {before : PeerRun}
    (hbefore : s.runs.get? run' = some before) (hnone : addedClient before = none)
    {phase : PeerPhase} (hphase : addedClient { before with phase } = none) (run : ℕ) :
    heldClient (s.setPhase run' phase) run = heldClient s run := by
  unfold heldClient WireGuard.State.setPhase
  rw [Table.get?_modify]
  split
  case isTrue heq =>
    rw [heq, hbefore]
    exact hphase.trans hnone.symm
  case isFalse => rfl

/-- An allocation adds no client. -/
theorem addedClient_allocatePhase (db : WireGuardDb) (arguments : PeerArguments)
    (keys : PeerKeys) (retries : ℕ) :
    addedClient ⟨arguments, retries, allocatePhase db arguments keys⟩ = none := by
  unfold allocatePhase
  split
  · split
    · rfl
    · split <;> rfl
  · rfl

/-- Apart from the calls that add clients and from registrations, steps start runs, end runs, and
otherwise keep what runs hold. -/
theorem peerRuns_step (s : WireGuard.State) {e : WireGuard.Event}
    (hadd : ∀ run uuid located, e ≠ .addWgClient run uuid located)
    (hregister : ∀ run, e ≠ .registerPeer run) (run : ℕ) :
    HoldKept s (WireGuard.step s e) e run := by
  cases e with
  | addWgClient run' uuid located => exact absurd rfl (hadd _ _ _)
  | registerPeer run' => exact absurd rfl (hregister _)
  | createPeer tenantId tunnelId name endpoint keepalive =>
    rw [WireGuard.step, WireGuard.createStep]
    split <;> exact Or.inl rfl
  | startPeer run' arguments retries =>
    -- a run that starts has made nothing yet
    have hinsert : ∀ phase, addedClient ⟨arguments, retries, phase⟩ = none →
        (Table.get? (s.runs.insert run' ⟨arguments, retries, phase⟩) run).bind addedClient =
            heldClient s run ∨
          run = run' ∧ (Table.get? (s.runs.insert run' ⟨arguments, retries, phase⟩) run).bind
            addedClient = none := by
      intro phase hphase
      rw [Table.get?_insert]
      split
      case isTrue heq => exact Or.inr ⟨heq, hphase⟩
      case isFalse => exact Or.inl rfl
    rw [WireGuard.step, WireGuard.startStep]
    split
    case h_1 => exact Or.inl rfl
    case h_2 message _ =>
      refine (hinsert (.raised message) rfl).imp_right fun hnone => ⟨Or.inl ?_, hnone.2⟩
      exact ⟨arguments, retries, by rw [hnone.1]⟩
    case h_3 =>
      refine (hinsert .started rfl).imp_right fun hnone => ⟨Or.inl ?_, hnone.2⟩
      exact ⟨arguments, retries, by rw [hnone.1]⟩
  | allocatePeerIp run' keys =>
    rw [WireGuard.step, WireGuard.allocateStep]
    split
    case h_1 hrun =>
      exact Or.inl (heldClient_setPhase hrun rfl (addedClient_allocatePhase _ _ _ _) run)
    case h_2 => exact Or.inl rfl
  | activatePeer run' =>
    rw [WireGuard.step, WireGuard.activateStep]
    split
    case h_1 hrun =>
      split
      · exact Or.inl (heldClient_setPhase hrun rfl rfl run)
      · exact Or.inl (heldClient_setPhase hrun rfl rfl run)
    case h_2 => exact Or.inl rfl
  | failPeer run' message =>
    rw [WireGuard.step, WireGuard.failStep]
    split
    case h_1 => exact Or.inl rfl
    case h_2 peerRun hrun =>
      split
      case isTrue => exact Or.inl rfl
      case isFalse =>
        dsimp only
        by_cases heq : run = run'
        · subst heq
          refine Or.inr ⟨Or.inr ⟨message, rfl⟩, ?_⟩
          -- after the last retry the run still has to remove its peer, otherwise it is gone
          unfold heldClient
          split
          · rw [WireGuard.State.setPhase, Table.get?_modify, if_pos rfl, hrun]
            rfl
          · rw [Table.get?_erase, if_pos rfl]
            rfl
        · left
          unfold heldClient
          split
          · rw [WireGuard.State.setPhase, Table.get?_modify, if_neg heq]
          · rw [Table.get?_erase, if_neg heq]
  | removePeer run' =>
    rw [WireGuard.step, WireGuard.removeStep]
    split
    -- a run that removes its peer has failed, and holds nothing
    case h_1 hrun =>
      left
      unfold heldClient
      rw [Table.get?_erase]
      split
      case isTrue heq =>
        rw [heq, hrun]
        rfl
      case isFalse => rfl
    case h_2 => exact Or.inl rfl
  | openDestroy run' arguments =>
    rw [WireGuard.step, WireGuard.openDestroyStep]
    split <;> exact Or.inl rfl
  | delWgClient run' =>
    rw [WireGuard.step, WireGuard.delClientStep]
    split <;> exact Or.inl rfl
  | destroyPeer run' =>
    rw [WireGuard.step, WireGuard.destroyStep]
    split <;> exact Or.inl rfl

/-- Apart from the calls that add clients, steps add none. -/
theorem peerClients_step (s : WireGuard.State) {e : WireGuard.Event}
    (hadd : ∀ run uuid located, e ≠ .addWgClient run uuid located) {uuid : String}
    {client : WgClient} (h : (WireGuard.step s e).clients.get? uuid = some client) :
    s.clients.get? uuid = some client := by
  cases e with
  | addWgClient run uuid located => exact absurd rfl (hadd _ _ _)
  | delWgClient run =>
    rw [WireGuard.step, WireGuard.delClientStep] at h
    split at h
    · exact (Table.get?_erase_eq_some.mp h).2
    · exact h
  -- The other steps do not touch OPNsense.
  | createPeer tenantId tunnelId name endpoint keepalive =>
    rw [WireGuard.step, WireGuard.createStep] at h
    split at h <;> exact h
  | startPeer run arguments retries =>
    rw [WireGuard.step, WireGuard.startStep] at h
    split at h <;> exact h
  | allocatePeerIp run keys =>
    rw [WireGuard.step, WireGuard.allocateStep] at h
    split at h <;> exact h
  | registerPeer run =>
    rw [WireGuard.step, WireGuard.registerStep] at h
    split at h
    · split at h <;> exact h
    · exact h
  | activatePeer run =>
    rw [WireGuard.step, WireGuard.activateStep] at h
    split at h
    · split at h <;> exact h
    · exact h
  | failPeer run message =>
    rw [WireGuard.step, WireGuard.failStep] at h
    split at h
    · exact h
    · split at h
      · exact h
      · dsimp only at h
        split at h <;> exact h
  | removePeer run =>
    rw [WireGuard.step, WireGuard.removeStep] at h
    split at h <;> exact h
  | openDestroy run arguments =>
    rw [WireGuard.step, WireGuard.openDestroyStep] at h
    split at h <;> exact h
  | destroyPeer run =>
    rw [WireGuard.step, WireGuard.destroyStep] at h
    split at h <;> exact h

end Objects

end ProxmoxIaas
