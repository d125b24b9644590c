import ProxmoxIaas.Provisioning.System
import ProxmoxIaas.WireGuard.Tunnels

/-!
# The Tunnel System

The provisioning system together with the requests and tasks that create, provision and destroy
WireGuard tunnels, interleaved at the granularity of commits. Tasks are acknowledged late and
retried, so a run can be started at any time with any arguments, and a run that is never
continued has crashed.

## Main results

- `change_step`: what a step does to the tables of tunnels.
- `destroys_step`: what a run of the destroy task has loaded.
-/

namespace ProxmoxIaas.Tunnels

/-- The provisioning system, the tables of tunnels, and the requests and runs in flight. -/
structure State where
  /-- The provisioning system. -/
  base : Provisioning.State
  /-- The committed tables of tunnels. -/
  wg : TunnelDb
  /-- Requests to create a tunnel that have passed their checks. -/
  requests : Table ℕ TunnelRequest
  /-- Runs of `provision_wireguard_tunnel_task`. -/
  runs : Table ℕ TunnelRun
  /-- Runs of `destroy_wireguard_tunnel_task`. -/
  destroys : Table ℕ TunnelDestroy

/-- The steps of the system. Requests and runs are named by a number of the caller's choice. -/
inductive Event where
  /-- A step of the provisioning system. -/
  | base (e : Provisioning.Event)
  /-- `create_tunnel` checks its request, for a tenant whose settings limit its networks. -/
  | openTunnel (call tenantId : ℕ) (maxNetworks : Option ℕ) (body : TunnelCreate)
  /-- `create_tunnel` commits. -/
  | createTunnel (call : ℕ) (locked : List ℕ)
  /-- A first, retried or redelivered run commits its start. -/
  | startTunnel (run : ℕ) (arguments : TunnelArguments)
  /-- A run that has generated its keys loads its tunnel and provides it with a subnet. -/
  | provideSubnet (run : ℕ) (locked : List ℕ)
  /-- A run chooses the port of its tunnel. -/
  | choosePort (run : ℕ)
  /-- OPNsense has added the server, and the run commits it. -/
  | serveTunnel (run : ℕ) (serverUuid publicKey privateKey : String)
  /-- OPNsense has added the interface, and the run commits it. -/
  | linkTunnel (run : ℕ) (optName : String)
  /-- The run commits that the tunnel is active. -/
  | activateTunnel (run : ℕ)
  /-- A run takes its error path. -/
  | failTunnel (run : ℕ) (message : String)
  /-- A run of the destroy task commits its start. -/
  | openDestroy (run : ℕ) (arguments : TunnelArguments)
  /-- A run of the destroy task loads its tunnel again. -/
  | loadDestroy (run : ℕ)
  /-- A run of the destroy task commits the deletion. -/
  | destroyTunnel (run : ℕ)
  /-- The storage order of the pool changes. -/
  | reorderPool (id : ℕ)

/-- A run goes on to another phase. -/
def State.setPhase (s : State) (run : ℕ) (phase : TunnelPhase) : State :=
  { s with runs := s.runs.modify run fun tunnelRun => { tunnelRun with phase } }

/-- A run commits a write to its tunnel and goes on; if the tunnel is gone, the commit raises. -/
def State.writeTunnel (s : State) (run tunnelId : ℕ) (write : Tunnel → Tunnel)
    (phase : TunnelPhase) : State :=
  match s.wg.tunnels.get? tunnelId with
  | none => s.setPhase run (.raised
      "UPDATE statement on table 'wireguard_tunnels' expected to update 1 row(s); 0 were matched.")
  | some _ =>
    { s.setPhase run phase with
      wg := { s.wg with tunnels := s.wg.tunnels.modify tunnelId write } }

/-- A request whose checks raise ends without a trace. -/
def openStep (s : State) (call tenantId : ℕ) (maxNetworks : Option ℕ) (body : TunnelCreate) :
    State :=
  match createTunnelCheck s.base.db s.wg tenantId maxNetworks body with
  | .error _ => s
  | .ok request => { s with requests := s.requests.insert call request }

/-- The commit of a request, which ends it in any case. -/
def createStep (s : State) (call : ℕ) (locked : List ℕ) : State :=
  match s.requests.get? call with
  | none => s
  | some request =>
    match ProxmoxIaas.createTunnel s.base.db s.wg locked request with
    | .error _ => { s with requests := s.requests.erase call }
    | .ok (_, wg) => { s with wg, requests := s.requests.erase call }

/-- Start a run, unless the task returns at once. -/
def startStep (s : State) (run : ℕ) (arguments : TunnelArguments) : State :=
  match ProxmoxIaas.startTunnel s.base.db s.wg arguments with
  | none => s
  | some (.error message) =>
    { s with runs := s.runs.insert run ⟨arguments, .raised message⟩ }
  | some (.ok wg) => { s with wg, runs := s.runs.insert run ⟨arguments, .started⟩ }

/-- The text of an error. -/
def errorText : ApiError → String
  | .http _ detail => detail
  | .valueError message => message

/-- Load the tunnel of a started run and provide it with a subnet. -/
def provideStep (s : State) (run : ℕ) (locked : List ℕ) : State :=
  match s.runs.get? run with
  | some { arguments, phase := .started } =>
    match ProxmoxIaas.provideSubnet s.wg locked arguments with
    | .error e => s.setPhase run (.raised (errorText e))
    | .ok (tunnel, wg) => { s.setPhase run (.located tunnel) with wg }
  | _ => s

/-- Choose the port of a run's tunnel. -/
def portStep (s : State) (run : ℕ) : State :=
  match s.runs.get? run with
  | some { arguments, phase := .located tunnel } =>
    s.setPhase run (.numbered tunnel
      (chooseListenPort s.wg arguments.tenantId tunnel.listenPort))
  | _ => s

/-- Commit the server of a run's tunnel. -/
def serveStep (s : State) (run : ℕ) (serverUuid publicKey privateKey : String) : State :=
  match s.runs.get? run with
  | some { arguments, phase := .numbered tunnel listenPort } =>
    match tunnelEndpoint s.base.db arguments tunnel listenPort with
    | none => s.setPhase run
        (.raised "Tenant has no WAN IP and tunnel endpoint was not provided")
    | some endpoint =>
      let mtu := (truthy tunnel.mtu).getD 1420
      s.writeTunnel run arguments.tunnelId
        (.serve tunnel ⟨listenPort, mtu, serverUuid, publicKey, privateKey⟩ endpoint) .served
  | _ => s

/-- Commit the interface of a run's tunnel. -/
def linkStep (s : State) (run : ℕ) (optName : String) : State :=
  match s.runs.get? run with
  | some { arguments, phase := .served } =>
    s.writeTunnel run arguments.tunnelId
      (fun tunnel => { tunnel with optInterface := some optName }) .linked
  | _ => s

/-- Commit that a run's tunnel is active, which ends the run. -/
def activateStep (s : State) (run : ℕ) : State :=
  match s.runs.get? run with
  | some { arguments, phase := .linked } =>
    { s with
      wg := { s.wg with
        tunnels := s.wg.tunnels.modify arguments.tunnelId fun tunnel =>
          { tunnel with status := .active } }
      runs := s.runs.erase run }
  | _ => s

/-- The error path, with the text of the error that was raised or of a call that fails now. -/
def failStep (s : State) (run : ℕ) (message : String) : State :=
  match s.runs.get? run with
  | some tunnelRun =>
    let text := match tunnelRun.phase with
      | .raised raised => raised
      | _ => message
    { s with
      wg := ProxmoxIaas.failTunnel s.wg tunnelRun.arguments.tunnelId text
      runs := s.runs.erase run }
  | none => s

/-- Start a run of the destroy task, unless it returns at once. -/
def openDestroyStep (s : State) (run : ℕ) (arguments : TunnelArguments) : State :=
  match openTunnelDestroy s.base.db s.wg arguments with
  | none => s
  | some wg => { s with wg, destroys := s.destroys.insert run ⟨arguments.tunnelId, none⟩ }

/-- Load the tunnel of a destroy run again; if it is gone, the run raises. -/
def loadDestroyStep (s : State) (run : ℕ) : State :=
  match s.destroys.get? run with
  | some { tunnelId, tunnel := none } =>
    match s.wg.tunnels.get? tunnelId with
    | none => { s with destroys := s.destroys.erase run }
    | some tunnel => { s with
        destroys := s.destroys.modify run fun destroy => { destroy with tunnel := some tunnel } }
  | _ => s

/-- The last commit of a destroy run, which ends it in any case. -/
def destroyStep (s : State) (run : ℕ) : State :=
  match s.destroys.get? run with
  | some { tunnelId, tunnel := some tunnel } =>
    match ProxmoxIaas.destroyTunnel s.wg tunnelId tunnel with
    | none => { s with destroys := s.destroys.erase run }
    | some wg => { s with wg, destroys := s.destroys.erase run }
  | _ => s

/-- The state after a step. -/
def step (s : State) : Event → State
  | .base e => { s with base := Provisioning.step s.base e }
  | .openTunnel call tenantId maxNetworks body => openStep s call tenantId maxNetworks body
  | .createTunnel call locked => createStep s call locked
  | .startTunnel run arguments => startStep s run arguments
  | .provideSubnet run locked => provideStep s run locked
  | .choosePort run => portStep s run
  | .serveTunnel run serverUuid publicKey privateKey =>
    serveStep s run serverUuid publicKey privateKey
  | .linkTunnel run optName => linkStep s run optName
  | .activateTunnel run => activateStep s run
  | .failTunnel run message => failStep s run message
  | .openDestroy run arguments => openDestroyStep s run arguments
  | .loadDestroy run => loadDestroyStep s run
  | .destroyTunnel run => destroyStep s run
  | .reorderPool id => { s with wg := { s.wg with pool := s.wg.pool.toFront id } }

/-- What a step does to the tables of tunnels. -/
inductive Change (s : State) : Event → TunnelDb → Prop
  /-- The tables are as they were. -/
  | same {e : Event} : Change s e s.wg
  /-- The storage order of the pool changes. -/
  | reorder {e : Event} (id : ℕ) : Change s e { s.wg with pool := s.wg.pool.toFront id }
  /-- A tunnel is written, and keeps its subnet. -/
  | write {e : Event} {tunnelId : ℕ} {f : Tunnel → Tunnel}
      (hf : ∀ tunnel, (f tunnel).poolId = tunnel.poolId ∧ (f tunnel).cidr = tunnel.cidr) :
      Change s e { s.wg with tunnels := s.wg.tunnels.modify tunnelId f }
  /-- A tunnel is created with the first free subnet. -/
  | create {call : ℕ} {locked : List ℕ} {request : TunnelRequest} {poolId : ℕ}
      {poolRow : WireGuardPool}
      (hoffered : freeTunnelSubnet? s.wg locked = some (poolId, poolRow))
      (hget : s.wg.pool.get? poolId = some poolRow) (hfree : poolRow.status = .free) :
      Change s (.createTunnel call locked) {
        pool := (s.wg.pool.modify poolId .allocate).modify poolId (.link s.wg.tunnels.next)
        tunnels := s.wg.tunnels.add (newTunnel request poolId poolRow) }
  /-- A run provides a tunnel that has no subnet with one. -/
  | provide {run : ℕ} {locked : List ℕ} {tunnelId : ℕ} {tunnel : Tunnel} {wg : TunnelDb}
      (hget : s.wg.tunnels.get? tunnelId = some tunnel) (hnone : truthy tunnel.poolId = none) :
      Change s (.provideSubnet run locked) wg
  /-- A run of the destroy task deletes its tunnel and returns the subnet it had loaded. -/
  | destroy {run tunnelId : ℕ} {tunnel : Tunnel}
      (hrun : s.destroys.get? run = some ⟨tunnelId, some tunnel⟩) :
      Change s (.destroyTunnel run) {
        pool := (releaseTunnelPool s.wg tunnel).pool
        tunnels := s.wg.tunnels.deleteWhere fun id _ => id = tunnelId }

/-- A write to a tunnel that keeps its subnet. -/
theorem change_writeTunnel (s : State) (e : Event) (run tunnelId : ℕ) {write : Tunnel → Tunnel}
    (phase : TunnelPhase)
    (hwrite : ∀ tunnel, (write tunnel).poolId = tunnel.poolId ∧
      (write tunnel).cidr = tunnel.cidr) :
    Change s e (s.writeTunnel run tunnelId write phase).wg := by
  unfold State.writeTunnel
  split
  · exact .same
  · exact .write hwrite

/-- Every step changes the tables of tunnels in one of these ways. -/
theorem change_step (s : State) (e : Event) : Change s e (step s e).wg := by
  cases e with
  | base e => exact .same
  | reorderPool id => exact .reorder id
  | openTunnel call tenantId maxNetworks body =>
    rw [step, openStep]
    split <;> exact .same
  | createTunnel call locked =>
    rw [step, createStep]
    split
    case h_1 => exact .same
    case h_2 request hrequest =>
      split
      case h_1 => exact .same
      case h_2 tunnelId wg hok =>
        -- a request has been offered a free row of the pool
        obtain ⟨poolId, poolRow, hoffered, hget, hfree, rfl⟩ := createTunnel_eq_ok hok
        exact .create hoffered hget hfree
  | startTunnel run arguments =>
    rw [step, startStep]
    split
    case h_1 => exact .same
    case h_2 => exact .same
    case h_3 wg hok =>
      rw [startTunnel_eq_some_ok hok]
      exact .write fun _ => ⟨rfl, rfl⟩
  | provideSubnet run locked =>
    rw [step, provideStep]
    split
    case h_1 arguments hrun =>
      split
      case h_1 => exact .same
      case h_2 tunnel wg hok =>
        -- the tunnel has its subnet already, or gets one
        obtain ⟨stored, hget, rfl | hnone⟩ := provideSubnet_eq_ok hok
        · exact .same
        · exact .provide hget hnone
    case h_2 => exact .same
  | choosePort run =>
    rw [step, portStep]
    split <;> exact .same
  | serveTunnel run serverUuid publicKey privateKey =>
    rw [step, serveStep]
    split
    case h_1 =>
      split
      · exact .same
      · exact change_writeTunnel _ _ _ _ _ fun _ => ⟨rfl, rfl⟩
    case h_2 => exact .same
  | linkTunnel run optName =>
    rw [step, linkStep]
    split
    · exact change_writeTunnel _ _ _ _ _ fun _ => ⟨rfl, rfl⟩
    · exact .same
  | activateTunnel run =>
    rw [step, activateStep]
    split
    · exact .write fun _ => ⟨rfl, rfl⟩
    · exact .same
  | failTunnel run message =>
    rw [step, failStep]
    split
    · exact .write fun _ => ⟨rfl, rfl⟩
    · exact .same
  | openDestroy run arguments =>
    rw [step, openDestroyStep]
    split
    case h_1 => exact .same
    case h_2 wg hok =>
      simp only [openTunnelDestroy, Option.bind_eq_bind, Option.bind_eq_some_iff] at hok
      obtain ⟨_, -, _, -, hok⟩ := hok
      obtain rfl := Option.some.inj hok
      exact .write fun _ => ⟨rfl, rfl⟩
  | loadDestroy run =>
    rw [step, loadDestroyStep]
    split
    · split <;> exact .same
    · exact .same
  | destroyTunnel run =>
    rw [step, destroyStep]
    split
    case h_1 tunnelId tunnel hrun =>
      split
      case h_1 => exact .same
      case h_2 wg hok =>
        -- the destroy task gives the row of the pool back with the tunnel
        rw [destroyTunnel_eq_some hok]
        exact .destroy hrun
    case h_2 => exact .same

/-- A write to a tunnel does not touch the runs of the destroy task. -/
theorem writeTunnel_destroys (s : State) (run tunnelId : ℕ) (write : Tunnel → Tunnel)
    (phase : TunnelPhase) : (s.writeTunnel run tunnelId write phase).destroys = s.destroys := by
  unfold State.writeTunnel
  split <;> rfl

/-- A run of the destroy task keeps what it has loaded, or what it has loaded is the stored
tunnel. -/
theorem destroys_step (s : State) (e : Event) {run : ℕ} {destroy : TunnelDestroy}
    (hget : (step s e).destroys.get? run = some destroy) :
    s.destroys.get? run = some destroy ∨
    ∃ tunnel, s.wg.tunnels.get? destroy.tunnelId = some tunnel ∧
      ∀ loaded ∈ destroy.tunnel, loaded = tunnel := by
  have herase : ∀ {key : ℕ}, Table.get? (s.destroys.erase key) run = some destroy →
      s.destroys.get? run = some destroy := by
    intro key hget
    exact (Table.get?_erase_eq_some.mp hget).2
  cases e with
  | openDestroy run' arguments =>
    rw [step, openDestroyStep] at hget
    split at hget
    case h_1 => exact Or.inl hget
    case h_2 wg hok =>
      rcases Table.get?_insert_eq_some.mp hget with ⟨-, rfl⟩ | ⟨-, hget⟩
      · simp only [openTunnelDestroy, Option.bind_eq_bind, Option.bind_eq_some_iff] at hok
        obtain ⟨_, -, tunnel, htunnel, -⟩ := hok
        refine Or.inr ⟨tunnel, (Option.filter_eq_some_iff.mp htunnel).1, fun loaded hloaded => ?_⟩
        exact absurd hloaded (Option.not_mem_none loaded)
      · exact Or.inl hget
  | loadDestroy run' =>
    rw [step, loadDestroyStep] at hget
    split at hget
    case h_1 tunnelId hrun =>
      split at hget
      case h_1 => exact Or.inl (herase hget)
      case h_2 tunnel htunnel =>
        rw [Table.get?_modify] at hget
        split at hget
        case isTrue heq =>
          rw [heq, hrun] at hget
          obtain rfl := Option.some.inj hget
          exact Or.inr ⟨tunnel, htunnel, fun loaded hloaded => (Option.some.inj hloaded).symm⟩
        case isFalse => exact Or.inl hget
    case h_2 => exact Or.inl hget
  | destroyTunnel run' =>
    rw [step, destroyStep] at hget
    split at hget
    case h_1 =>
      split at hget
      · exact Or.inl (herase hget)
      · exact Or.inl (herase hget)
    case h_2 => exact Or.inl hget
  -- The other steps do not touch the runs of the destroy task.
  | base => exact Or.inl hget
  | reorderPool => exact Or.inl hget
  | openTunnel =>
    rw [step, openStep] at hget
    split at hget <;> exact Or.inl hget
  | createTunnel =>
    rw [step, createStep] at hget
    split at hget
    · exact Or.inl hget
    · split at hget <;> exact Or.inl hget
  | startTunnel =>
    rw [step, startStep] at hget
    split at hget <;> exact Or.inl hget
  | provideSubnet =>
    rw [step, provideStep] at hget
    split at hget
    · split at hget <;> exact Or.inl hget
    · exact Or.inl hget
  | choosePort =>
    rw [step, portStep] at hget
    split at hget <;> exact Or.inl hget
  | serveTunnel =>
    rw [step, serveStep] at hget
    split at hget
    · split at hget
      · exact Or.inl hget
      · rw [writeTunnel_destroys] at hget
        exact Or.inl hget
    · exact Or.inl hget
  | linkTunnel =>
    rw [step, linkStep] at hget
    split at hget
    · rw [writeTunnel_destroys] at hget
      exact Or.inl hget
    · exact Or.inl hget
  | activateTunnel =>
    rw [step, activateStep] at hget
    split at hget <;> exact Or.inl hget
  | failTunnel =>
    rw [step, failStep] at hget
    split at hget <;> exact Or.inl hget

/-- The steps of tunnels do not touch the provisioning system. -/
theorem step_base (s : State) (e : Event) :
    (step s e).base = s.base ∨ ∃ e', e = .base e' ∧
      step s e = { s with base := Provisioning.step s.base e' } := by
  -- the commit of a run writes a tunnel or raises
  have hwrite : ∀ {run tunnelId : ℕ} {write : Tunnel → Tunnel} {phase : TunnelPhase},
      (s.writeTunnel run tunnelId write phase).base = s.base := by
    intro run tunnelId write phase
    unfold State.writeTunnel
    split <;> rfl
  cases e with
  | base e => exact Or.inr ⟨e, rfl, rfl⟩
  | reorderPool => exact Or.inl rfl
  | openTunnel =>
    rw [step, openStep]
    split <;> exact Or.inl rfl
  | createTunnel =>
    rw [step, createStep]
    split
    · exact Or.inl rfl
    · split <;> exact Or.inl rfl
  | startTunnel =>
    rw [step, startStep]
    split <;> exact Or.inl rfl
  | provideSubnet =>
    rw [step, provideStep]
    split
    · split <;> exact Or.inl rfl
    · exact Or.inl rfl
  | choosePort =>
    rw [step, portStep]
    split <;> exact Or.inl rfl
  | serveTunnel =>
    rw [step, serveStep]
    split
    · split
      · exact Or.inl rfl
      · exact Or.inl hwrite
    · exact Or.inl rfl
  | linkTunnel =>
    rw [step, linkStep]
    split
    · exact Or.inl hwrite
    · exact Or.inl rfl
  | activateTunnel =>
    rw [step, activateStep]
    split <;> exact Or.inl rfl
  | failTunnel =>
    rw [step, failStep]
    split <;> exact Or.inl rfl
  | openDestroy =>
    rw [step, openDestroyStep]
    split <;> exact Or.inl rfl
  | loadDestroy =>
    rw [step, loadDestroyStep]
    split
    · split <;> exact Or.inl rfl
    · exact Or.inl rfl
  | destroyTunnel =>
    rw [step, destroyStep]
    split
    · split <;> exact Or.inl rfl
    · exact Or.inl rfl

/-- A database whose pools of subnets are as they are seeded by default, with no tunnels. -/
structure Seeded (db : Db) (wg : TunnelDb) : Prop where
  /-- The provisioning tables are as they are seeded. -/
  base : Provisioning.Seeded db
  /-- The subnets of tenant networks are those of `seed_global_ip_pool`. -/
  lans : db.globalIpPool = seedGlobalIpPool .empty
  /-- The subnets of tunnels are those of `seed_wireguard_pool`. -/
  pool : wg.pool = seedWireguardPool .empty wireguardNetwork
  /-- There are no tunnels. -/
  tunnels : wg.tunnels = .empty

/-- The tunnel system, started on seeded pools with nothing in flight. -/
def machine : Machine State Event where
  init s := ∃ db wg, Seeded db wg ∧ s = ⟨⟨db, ∅, ∅, ∅, [], ∅⟩, wg, ∅, ∅, ∅⟩
  step := step

end ProxmoxIaas.Tunnels
