import ProxmoxIaas.WireGuard.PoolOwnership

/-!
# Listen Ports

A tunnel gets its port when it is created: the one that the request gives, or the first one from
the default port on that no active or provisioning tunnel of the tenant has. The provisioning task
keeps the port. The scan does not see the tunnels in other states, and the given port is not
compared with anything, so two tunnels of a tenant can have one port.

## Main results

- `portFrom_notMem`, `portFrom_before`: the scan finds the first port that it does not see.
- `PortAllocation.step`: one step keeps the ports of each tenant different.
- `listenPorts_unique`: they are different and at most 65535 in every state of a run whose
  requests choose ports that are not in use.
- `listenPorts_not_unique`: two tunnels that are created one after the other have one port.
-/

namespace ProxmoxIaas.Tunnels

/-- The tunnels of each tenant have different ports, and ports are at most 65535. -/
structure PortsUnique (wg : TunnelDb) : Prop where
  /-- No two tunnels of a tenant have one port. -/
  unique : ∀ i j tunnel tunnel' port, wg.tunnels.get? i = some tunnel →
    wg.tunnels.get? j = some tunnel' → tunnel.tenantId = tunnel'.tenantId →
    tunnel.listenPort = some port → tunnel'.listenPort = some port → i = j
  /-- Ports are at most 65535. -/
  bound : ∀ i tunnel port, wg.tunnels.get? i = some tunnel → tunnel.listenPort = some port →
    port ≤ 65535

/-! ## The scan -/

/-- The scan starts at some port. -/
theorem le_portFrom (existing : List ℕ) (port attempts : ℕ) :
    port ≤ portFrom existing port attempts := by
  induction attempts generalizing port with
  | zero => exact le_rfl
  | succ attempts ih =>
    rw [portFrom]
    split
    · exact (Nat.le_succ port).trans (ih (port + 1))
    · exact le_rfl

/-- The scan passes over ports that it sees. -/
theorem portFrom_before {existing : List ℕ} {port attempts p : ℕ} (hstart : port ≤ p)
    (hbefore : p < portFrom existing port attempts) : p ∈ existing := by
  induction attempts generalizing port with
  | zero => exact absurd hstart (not_le.mpr hbefore)
  | succ attempts ih =>
    rw [portFrom] at hbefore
    split at hbefore
    case isTrue hmem =>
      rcases Nat.eq_or_lt_of_le hstart with rfl | hlt
      · exact hmem
      · exact ih hlt hbefore
    case isFalse => exact absurd hstart (not_le.mpr hbefore)

/-- A scan that ends at a port that it sees has made all its attempts. -/
theorem portFrom_of_mem {existing : List ℕ} {port attempts : ℕ}
    (h : portFrom existing port attempts ∈ existing) :
    portFrom existing port attempts = port + attempts := by
  induction attempts generalizing port with
  | zero => rfl
  | succ attempts ih =>
    rw [portFrom] at h ⊢
    split at h
    case isTrue hmem =>
      rw [if_pos hmem, ih h]
      omega
    case isFalse hmem => exact absurd h hmem

/-- As many attempts as there are ports to pass over suffice. -/
theorem portFrom_notMem (existing : List ℕ) (port : ℕ) :
    portFrom existing port existing.length ∉ existing := by
  intro hmem
  have hend := portFrom_of_mem hmem
  -- All of `port, ..., port + existing.length` would be among the ports.
  have hsubset : List.range' port (existing.length + 1) ⊆ existing := by
    intro p hp
    obtain ⟨hstart, hlt⟩ := List.mem_range'_1.mp hp
    by_cases heq : p = portFrom existing port existing.length
    · exact heq ▸ hmem
    · have hbefore : p < portFrom existing port existing.length := by omega
      exact portFrom_before hstart hbefore
  have hlength := (List.subperm_of_subset List.nodup_range' hsubset).length_le
  rw [List.length_range'] at hlength
  omega

/-! ## The condition -/

/-- The ports of a tenant that the scan does not see: those of its tunnels that are neither active
nor being provisioned, and those of its other requests in flight. -/
def unseenPorts (s : State) (call tenantId : ℕ) : List ℕ :=
  (s.wg.tunnels.select fun _ tunnel => tunnel.tenantId = tenantId ∧
    tunnel.status ∉ [TunnelStatus.active, .provisioning]).filterMap
      (fun (_, tunnel) => tunnel.listenPort) ++
  (s.requests.select fun call' request => call' ≠ call ∧ request.tenantId = tenantId).map
    fun (_, request) => request.listenPort

/-- Some port from the default port on and below a bound is not seen by the scan. -/
def gapBelow (seen : List ℕ) (bound : ℕ) : Bool :=
  (List.range' defaultListenPort (bound - defaultListenPort)).any fun port => port ∉ seen

/-- The condition on a step. A given port is a port, and is not in use. Without a given port there
is a port left to find, and each port that the scan does not see lies before its start or after
the first gap in what it sees. -/
def choosesUnused (s : State) : Event → Bool
  | .openTunnel call tenantId _ body =>
    let seen := existingPorts s.wg tenantId
    let unseen := unseenPorts s call tenantId
    match truthy body.listenPort with
    | some port => port ≤ 65535 && port ∉ seen && port ∉ unseen
    | none => gapBelow seen 65536 &&
        unseen.all fun port => port < defaultListenPort || port ∈ seen || gapBelow seen port
  | _ => true

/-- The scan ends before the end of a range that has a gap. -/
theorem portFrom_lt_of_gapBelow {seen : List ℕ} {bound : ℕ} (h : gapBelow seen bound = true) :
    portFrom seen defaultListenPort seen.length < bound := by
  obtain ⟨p, hp, hunseen⟩ := List.any_eq_true.mp h
  obtain ⟨hstart, hlt⟩ := List.mem_range'_1.mp hp
  by_contra hge
  have hle : p < portFrom seen defaultListenPort seen.length := by omega
  exact of_decide_eq_true hunseen (portFrom_before hstart hle)

/-- A port that is chosen under the condition is a port that neither the scan sees nor anybody
else of the tenant has. -/
theorem chooseListenPort_unused {s : State} {call tenantId : ℕ} {maxNetworks : Option ℕ}
    {body : TunnelCreate} (h : choosesUnused s (.openTunnel call tenantId maxNetworks body) = true) :
    chooseListenPort s.wg tenantId body.listenPort ≠ 0 ∧
      chooseListenPort s.wg tenantId body.listenPort ≤ 65535 ∧
      chooseListenPort s.wg tenantId body.listenPort ∉ existingPorts s.wg tenantId ∧
      chooseListenPort s.wg tenantId body.listenPort ∉ unseenPorts s call tenantId := by
  rw [choosesUnused] at h
  cases hport : truthy body.listenPort with
  | some port =>
    have hchosen : chooseListenPort s.wg tenantId body.listenPort = port := by
      rw [chooseListenPort, hport, Option.getD_some]
    simp only [hport, Bool.and_eq_true, decide_eq_true_eq] at h
    obtain ⟨⟨hbound, hseen⟩, hunseen⟩ := h
    have hne : port ≠ 0 := of_decide_eq_true (Option.filter_eq_some_iff.mp hport).2
    rw [hchosen]
    exact ⟨hne, hbound, hseen, hunseen⟩
  | none =>
    have hchosen : chooseListenPort s.wg tenantId body.listenPort =
        portFrom (existingPorts s.wg tenantId) defaultListenPort
          (existingPorts s.wg tenantId).length := by
      rw [chooseListenPort, hport, Option.getD_none]
    simp only [hport, Bool.and_eq_true, List.all_eq_true] at h
    obtain ⟨hgap, hunseen⟩ := h
    have hnotMem := portFrom_notMem (existingPorts s.wg tenantId) defaultListenPort
    have hstart := le_portFrom (existingPorts s.wg tenantId) defaultListenPort
      (existingPorts s.wg tenantId).length
    have hdefault : 0 < defaultListenPort := by decide
    rw [hchosen]
    refine ⟨by omega, Nat.lt_succ_iff.mp (portFrom_lt_of_gapBelow hgap), hnotMem, fun hmem => ?_⟩
    -- Such a port lies before the start, is seen, or lies after the end of the scan.
    have hcases := hunseen _ hmem
    simp only [Bool.or_eq_true, decide_eq_true_eq] at hcases
    rcases hcases with (hbefore | hseen) | hafter
    · omega
    · exact hnotMem hseen
    · exact absurd (portFrom_lt_of_gapBelow hafter) (lt_irrefl _)

/-! ## What a step writes -/

/-- The ports that a run of the provisioning task carries. -/
def CarriesPort : TunnelPhase → Prop
  | .located tunnel => truthy tunnel.listenPort ≠ none
  | .numbered tunnel listenPort => tunnel.listenPort = some listenPort
  | _ => True

/-- The invariant of the system: the ports of the tunnels and of the requests in flight. -/
structure PortAllocation (s : State) : Prop where
  /-- The ports of the tunnels. -/
  ports : PortsUnique s.wg
  /-- A tunnel has a port. -/
  numbered : ∀ i tunnel, s.wg.tunnels.get? i = some tunnel → truthy tunnel.listenPort ≠ none
  /-- The port of a request is a port that no tunnel of its tenant has. -/
  request : ∀ call request, s.requests.get? call = some request →
    request.listenPort ≠ 0 ∧ request.listenPort ≤ 65535 ∧
      ∀ i tunnel, s.wg.tunnels.get? i = some tunnel → tunnel.tenantId = request.tenantId →
        tunnel.listenPort ≠ some request.listenPort
  /-- No two requests of a tenant have one port. -/
  requests : ∀ call call' request request', s.requests.get? call = some request →
    s.requests.get? call' = some request' → request.tenantId = request'.tenantId →
    request.listenPort = request'.listenPort → call = call'
  /-- A run writes the port that its tunnel has. -/
  runs : ∀ run tunnelRun, s.runs.get? run = some tunnelRun → CarriesPort tunnelRun.phase

/-- Two tunnels have the owner and the port in common. -/
def SamePort (tunnel tunnel' : Tunnel) : Prop :=
  tunnel.tenantId = tunnel'.tenantId ∧ tunnel.listenPort = tunnel'.listenPort

/-- Every tunnel was there before with the same owner and port. -/
def PortsKept (wg wg' : TunnelDb) : Prop :=
  ∀ i tunnel, wg'.tunnels.get? i = some tunnel →
    ∃ before, wg.tunnels.get? i = some before ∧ SamePort before tunnel

/-- Tunnels that are not touched keep their ports. -/
theorem PortsKept.of_eq {wg wg' : TunnelDb} (h : wg'.tunnels = wg.tunnels) : PortsKept wg wg' := by
  intro i tunnel hget
  rw [h] at hget
  exact ⟨tunnel, hget, rfl, rfl⟩

/-- A write to a tunnel that keeps its port. -/
theorem PortsKept.write {wg wg' : TunnelDb} {tunnelId : ℕ} {f : Tunnel → Tunnel}
    (hwg : wg'.tunnels = wg.tunnels.modify tunnelId f)
    (hf : ∀ tunnel, wg.tunnels.get? tunnelId = some tunnel → SamePort tunnel (f tunnel)) :
    PortsKept wg wg' := by
  intro i tunnel hget
  rw [hwg, Serial.get?_modify] at hget
  split at hget
  case isTrue heq =>
    obtain ⟨stored, hstored, rfl⟩ := Option.map_eq_some_iff.mp hget
    rw [heq] at hstored ⊢
    exact ⟨stored, hstored, hf stored hstored⟩
  case isFalse => exact ⟨tunnel, hget, rfl, rfl⟩

/-- A run that provides its tunnel with a subnet keeps the ports, and has loaded the tunnel. -/
theorem provideSubnet_port {wg wg' : TunnelDb} {locked : List ℕ} {arguments : TunnelArguments}
    {loaded : Tunnel} (h : provideSubnet wg locked arguments = .ok (loaded, wg')) :
    (∃ stored, wg.tunnels.get? arguments.tunnelId = some stored ∧ SamePort stored loaded) ∧
      PortsKept wg wg' := by
  simp only [provideSubnet, Except.bind_eq_ok_iff, Except.ofOption_eq_ok_iff] at h
  obtain ⟨stored, hget, h⟩ := h
  cases hpool : truthy stored.poolId with
  | some poolId =>
    rw [hpool] at h
    cases h
    exact ⟨⟨loaded, hget, rfl, rfl⟩, .of_eq rfl⟩
  | none =>
    simp only [hpool, Except.bind_eq_ok_iff, Except.pure_eq_ok_iff, Prod.exists] at h
    obtain ⟨poolId, poolRow, wg₁, hsubnet, heq⟩ := h
    obtain ⟨-, -, -, rfl⟩ := allocateTunnelSubnet_eq_ok hsubnet
    cases heq
    exact ⟨⟨stored, hget, rfl, rfl⟩, .write rfl fun _ _ => ⟨rfl, rfl⟩⟩

/-- A request that has passed its checks carries the chosen port. -/
theorem createTunnelCheck_port {db : Db} {wg : TunnelDb} {tenantId : ℕ} {maxNetworks : Option ℕ}
    {body : TunnelCreate} {request : TunnelRequest}
    (h : createTunnelCheck db wg tenantId maxNetworks body = .ok request) :
    request.tenantId = tenantId ∧
      request.listenPort = chooseListenPort wg tenantId body.listenPort := by
  simp only [createTunnelCheck, Except.bind_eq_ok_iff, Except.pure_eq_ok_iff] at h
  obtain ⟨_, -, _, -, _, -, _, -, _, -, rfl⟩ := h
  exact ⟨rfl, rfl⟩

/-- What a step does to the tunnels and to the requests in flight. -/
inductive PortChange (s : State) : Event → State → Prop
  /-- The tunnels keep their ports, and there is no new request. -/
  | kept {e : Event} {s' : State} (hwg : PortsKept s.wg s'.wg)
      (hrequests : s'.requests = s.requests ∨ ∃ call, s'.requests = s.requests.erase call) :
      PortChange s e s'
  /-- A request has passed its checks. -/
  | opened {call tenantId : ℕ} {maxNetworks : Option ℕ} {body : TunnelCreate}
      {request : TunnelRequest} (htenant : request.tenantId = tenantId)
      (hport : request.listenPort = chooseListenPort s.wg tenantId body.listenPort) :
      PortChange s (.openTunnel call tenantId maxNetworks body)
        { s with requests := s.requests.insert call request }
  /-- A request creates its tunnel. -/
  | created {call : ℕ} {locked : List ℕ} {request : TunnelRequest} {poolId : ℕ}
      {poolRow : WireGuardPool} {s' : State} (hrequest : s.requests.get? call = some request)
      (hwg : s'.wg.tunnels = s.wg.tunnels.add (newTunnel request poolId poolRow))
      (hrequests : s'.requests = s.requests.erase call) :
      PortChange s (.createTunnel call locked) s'

/-- A write of a run keeps the ports if it keeps the port of its tunnel. -/
theorem portChange_writeTunnel {s : State} (e : Event) (run tunnelId : ℕ)
    {write : Tunnel → Tunnel} (phase : TunnelPhase)
    (hwrite : ∀ tunnel, s.wg.tunnels.get? tunnelId = some tunnel →
      SamePort tunnel (write tunnel)) :
    PortChange s e (s.writeTunnel run tunnelId write phase) := by
  unfold State.writeTunnel
  split
  · exact .kept (.of_eq rfl) (.inl rfl)
  · exact .kept (.write rfl hwrite) (.inl rfl)

/-- A tunnel that is served keeps the port that the run has loaded. -/
theorem samePort_serve {loaded tunnel : Tunnel} {server : TunnelServer} {endpoint : String}
    (h : loaded.listenPort = some server.listenPort) :
    SamePort tunnel (loaded.serve server endpoint tunnel) := by
  refine ⟨rfl, ?_⟩
  show tunnel.listenPort = writeColumn (some loaded) (·.listenPort) (some server.listenPort)
    tunnel.listenPort
  rw [← h, writeColumn, if_pos (by simp)]

namespace PortAllocation

variable {s : State} (h : PortAllocation s)
include h

/-- Every step does one of these things to the ports. -/
theorem portChange_step (e : Event) : PortChange s e (step s e) := by
  cases e with
  | base e => exact .kept (.of_eq rfl) (.inl rfl)
  | reorderPool id => exact .kept (.of_eq rfl) (.inl rfl)
  | openTunnel call tenantId maxNetworks body =>
    rw [step, openStep]
    split
    case h_1 => exact .kept (.of_eq rfl) (.inl rfl)
    case h_2 request hok =>
      obtain ⟨htenant, hport⟩ := createTunnelCheck_port hok
      exact .opened htenant hport
  | createTunnel call locked =>
    rw [step, createStep]
    split
    case h_1 => exact .kept (.of_eq rfl) (.inl rfl)
    case h_2 request hrequest =>
      split
      case h_1 => exact .kept (.of_eq rfl) (.inr ⟨call, rfl⟩)
      case h_2 tunnelId wg hok =>
        obtain ⟨poolId, poolRow, -, -, -, rfl⟩ := createTunnel_eq_ok hok
        exact .created hrequest rfl rfl
  | startTunnel run arguments =>
    rw [step, startStep]
    split
    case h_1 => exact .kept (.of_eq rfl) (.inl rfl)
    case h_2 => exact .kept (.of_eq rfl) (.inl rfl)
    case h_3 wg hok =>
      rw [startTunnel_eq_some_ok hok]
      exact .kept (.write rfl fun _ _ => ⟨rfl, rfl⟩) (.inl rfl)
  | provideSubnet run locked =>
    rw [step, provideStep]
    split
    case h_1 =>
      split
      case h_1 => exact .kept (.of_eq rfl) (.inl rfl)
      case h_2 hok => exact .kept (provideSubnet_port hok).2 (.inl rfl)
    case h_2 => exact .kept (.of_eq rfl) (.inl rfl)
  | choosePort run =>
    rw [step, portStep]
    split <;> exact .kept (.of_eq rfl) (.inl rfl)
  | serveTunnel run serverUuid publicKey privateKey =>
    rw [step, serveStep]
    split
    case h_1 arguments tunnel listenPort hrun =>
      split
      case h_1 => exact .kept (.of_eq rfl) (.inl rfl)
      case h_2 =>
        -- The run has chosen the port that it had loaded.
        have hcarried : CarriesPort (.numbered tunnel listenPort) := h.runs _ _ hrun
        exact portChange_writeTunnel _ _ _ _ fun _ _ => samePort_serve hcarried
    case h_2 => exact .kept (.of_eq rfl) (.inl rfl)
  | linkTunnel run optName =>
    rw [step, linkStep]
    split
    · exact portChange_writeTunnel _ _ _ _ fun _ _ => ⟨rfl, rfl⟩
    · exact .kept (.of_eq rfl) (.inl rfl)
  | activateTunnel run =>
    rw [step, activateStep]
    split
    · exact .kept (.write rfl fun _ _ => ⟨rfl, rfl⟩) (.inl rfl)
    · exact .kept (.of_eq rfl) (.inl rfl)
  | failTunnel run message =>
    rw [step, failStep]
    split
    · exact .kept (.write rfl fun _ _ => ⟨rfl, rfl⟩) (.inl rfl)
    · exact .kept (.of_eq rfl) (.inl rfl)
  | openDestroy run arguments =>
    rw [step, openDestroyStep]
    split
    case h_1 => exact .kept (.of_eq rfl) (.inl rfl)
    case h_2 wg hok =>
      simp only [openTunnelDestroy, Option.bind_eq_bind, Option.bind_eq_some_iff] at hok
      obtain ⟨_, -, _, -, hok⟩ := hok
      obtain rfl := Option.some.inj hok
      exact .kept (.write rfl fun _ _ => ⟨rfl, rfl⟩) (.inl rfl)
  | loadDestroy run =>
    rw [step, loadDestroyStep]
    split
    · split <;> exact .kept (.of_eq rfl) (.inl rfl)
    · exact .kept (.of_eq rfl) (.inl rfl)
  | destroyTunnel run =>
    rw [step, destroyStep]
    split
    case h_1 tunnelId tunnel hrun =>
      split
      case h_1 => exact .kept (.of_eq rfl) (.inl rfl)
      case h_2 wg hok =>
        rw [destroyTunnel_eq_some hok]
        refine .kept (fun i stored hget => ?_) (.inl rfl)
        rw [Serial.get?_deleteWhere] at hget
        exact ⟨stored, (Option.filter_eq_some_iff.mp hget).1, rfl, rfl⟩
    case h_2 => exact .kept (.of_eq rfl) (.inl rfl)

/-- A run that goes on to a phase with the right port. -/
theorem runs_setPhase {run run' : ℕ} {phase : TunnelPhase} {tunnelRun : TunnelRun}
    (hget : (s.setPhase run phase).runs.get? run' = some tunnelRun) (hphase : CarriesPort phase) :
    CarriesPort tunnelRun.phase := by
  rw [State.setPhase, Table.get?_modify] at hget
  split at hget
  case isTrue =>
    obtain ⟨before, -, rfl⟩ := Option.map_eq_some_iff.mp hget
    exact hphase
  case isFalse => exact h.runs run' tunnelRun hget

/-- A run that has written its tunnel. -/
theorem runs_writeTunnel {run run' tunnelId : ℕ} {write : Tunnel → Tunnel} {phase : TunnelPhase}
    {tunnelRun : TunnelRun}
    (hget : (s.writeTunnel run tunnelId write phase).runs.get? run' = some tunnelRun)
    (hphase : CarriesPort phase) : CarriesPort tunnelRun.phase := by
  rw [State.writeTunnel] at hget
  split at hget
  · exact h.runs_setPhase hget trivial
  · exact h.runs_setPhase hget hphase

/-- A run that has ended. -/
theorem runs_erase {run run' : ℕ} {tunnelRun : TunnelRun}
    (hget : Table.get? (s.runs.erase run) run' = some tunnelRun) :
    CarriesPort tunnelRun.phase := by
  obtain ⟨-, hget⟩ := Table.get?_erase_eq_some.mp hget
  exact h.runs run' tunnelRun hget

/-- A run that has started. -/
theorem runs_insert {run run' : ℕ} {new tunnelRun : TunnelRun}
    (hget : Table.get? (s.runs.insert run new) run' = some tunnelRun)
    (hnew : CarriesPort new.phase) : CarriesPort tunnelRun.phase := by
  rcases Table.get?_insert_eq_some.mp hget with ⟨-, rfl⟩ | ⟨-, hget⟩
  · exact hnew
  · exact h.runs run' tunnelRun hget

/-- After a step each run carries the port of its tunnel. -/
theorem runs_step (e : Event) {run : ℕ} {tunnelRun : TunnelRun}
    (hget : (step s e).runs.get? run = some tunnelRun) : CarriesPort tunnelRun.phase := by
  cases e with
  | startTunnel run' arguments =>
    rw [step, startStep] at hget
    split at hget
    · exact h.runs run tunnelRun hget
    · exact h.runs_insert hget trivial
    · exact h.runs_insert hget trivial
  | provideSubnet run' locked =>
    rw [step, provideStep] at hget
    split at hget
    case h_1 arguments hrun =>
      split at hget
      case h_1 => exact h.runs_setPhase hget trivial
      case h_2 tunnel wg hok =>
        -- The run has loaded a stored tunnel, which has a port.
        obtain ⟨stored, hstored, -, hport⟩ := (provideSubnet_port hok).1
        have hnumbered : CarriesPort (.located tunnel) := by
          show truthy tunnel.listenPort ≠ none
          rw [← hport]
          exact h.numbered _ _ hstored
        exact h.runs_setPhase hget hnumbered
    case h_2 => exact h.runs run tunnelRun hget
  | choosePort run' =>
    rw [step, portStep] at hget
    split at hget
    case h_1 arguments tunnel hrun =>
      have hlocated : truthy tunnel.listenPort ≠ none := h.runs _ _ hrun
      obtain ⟨port, hport⟩ := Option.ne_none_iff_exists'.mp hlocated
      have hnumbered : CarriesPort (.numbered tunnel
          (chooseListenPort s.wg arguments.tenantId tunnel.listenPort)) := by
        show tunnel.listenPort = some (chooseListenPort s.wg arguments.tenantId tunnel.listenPort)
        rw [chooseListenPort, hport, Option.getD_some]
        exact (Option.filter_eq_some_iff.mp hport).1
      exact h.runs_setPhase hget hnumbered
    case h_2 => exact h.runs run tunnelRun hget
  | serveTunnel run' serverUuid publicKey privateKey =>
    rw [step, serveStep] at hget
    split at hget
    · split at hget
      · exact h.runs_setPhase hget trivial
      · exact h.runs_writeTunnel hget trivial
    · exact h.runs run tunnelRun hget
  | linkTunnel run' optName =>
    rw [step, linkStep] at hget
    split at hget
    · exact h.runs_writeTunnel hget trivial
    · exact h.runs run tunnelRun hget
  | activateTunnel run' =>
    rw [step, activateStep] at hget
    split at hget
    · exact h.runs_erase hget
    · exact h.runs run tunnelRun hget
  | failTunnel run' message =>
    rw [step, failStep] at hget
    split at hget
    · exact h.runs_erase hget
    · exact h.runs run tunnelRun hget
  -- The other steps do not touch the runs of the provisioning task.
  | base e => exact h.runs run tunnelRun hget
  | reorderPool id => exact h.runs run tunnelRun hget
  | openTunnel call tenantId maxNetworks body =>
    rw [step, openStep] at hget
    split at hget <;> exact h.runs run tunnelRun hget
  | createTunnel call locked =>
    rw [step, createStep] at hget
    split at hget
    · exact h.runs run tunnelRun hget
    · split at hget <;> exact h.runs run tunnelRun hget
  | openDestroy run' arguments =>
    rw [step, openDestroyStep] at hget
    split at hget <;> exact h.runs run tunnelRun hget
  | loadDestroy run' =>
    rw [step, loadDestroyStep] at hget
    split at hget
    · split at hget <;> exact h.runs run tunnelRun hget
    · exact h.runs run tunnelRun hget
  | destroyTunnel run' =>
    rw [step, destroyStep] at hget
    split at hget
    · split at hget <;> exact h.runs run tunnelRun hget
    · exact h.runs run tunnelRun hget

/-- The scan or the condition sees the port of every tunnel of the tenant. -/
theorem mem_seen_or_unseen {i call : ℕ} {tunnel : Tunnel} {port : ℕ}
    (hget : s.wg.tunnels.get? i = some tunnel) (hport : tunnel.listenPort = some port) :
    port ∈ existingPorts s.wg tunnel.tenantId ∨ port ∈ unseenPorts s call tunnel.tenantId := by
  have htruthy : truthy tunnel.listenPort = some port := by
    obtain ⟨port', hport'⟩ := Option.ne_none_iff_exists'.mp (h.numbered i tunnel hget)
    have := (Option.filter_eq_some_iff.mp hport').1
    rw [hport', ← this, hport]
  by_cases hstatus : tunnel.status ∈ [TunnelStatus.active, .provisioning]
  · left
    exact List.mem_filterMap.mpr ⟨(i, tunnel),
      Table.mem_select.mpr ⟨hget, decide_eq_true ⟨rfl, hstatus⟩⟩, htruthy⟩
  · right
    exact List.mem_append_left _ (List.mem_filterMap.mpr ⟨(i, tunnel),
      Table.mem_select.mpr ⟨hget, decide_eq_true ⟨rfl, hstatus⟩⟩, hport⟩)

/-- Tunnels that keep their ports and requests that were there before. -/
theorem of_kept {s' : State} (hwg : PortsKept s.wg s'.wg)
    (hrequests : ∀ call request, s'.requests.get? call = some request →
      s.requests.get? call = some request)
    (hruns : ∀ run tunnelRun, s'.runs.get? run = some tunnelRun →
      CarriesPort tunnelRun.phase) : PortAllocation s' where
  ports := {
    unique := by
      intro i j tunnel tunnel' port hi hj htenant hport hport'
      obtain ⟨before, hbefore, hsame⟩ := hwg i tunnel hi
      obtain ⟨before', hbefore', hsame'⟩ := hwg j tunnel' hj
      exact h.ports.unique i j before before' port hbefore hbefore'
        (hsame.1.trans (htenant.trans hsame'.1.symm)) (hsame.2.trans hport) (hsame'.2.trans hport')
    bound := by
      intro i tunnel port hi hport
      obtain ⟨before, hbefore, hsame⟩ := hwg i tunnel hi
      exact h.ports.bound i before port hbefore (hsame.2.trans hport) }
  numbered i tunnel hi := by
    obtain ⟨before, hbefore, hsame⟩ := hwg i tunnel hi
    rw [← hsame.2]
    exact h.numbered i before hbefore
  request call request hcall := by
    obtain ⟨hne, hbound, hunused⟩ := h.request call request (hrequests call request hcall)
    refine ⟨hne, hbound, fun i tunnel hi htenant => ?_⟩
    obtain ⟨before, hbefore, hsame⟩ := hwg i tunnel hi
    rw [← hsame.2]
    exact hunused i before hbefore (hsame.1.trans htenant)
  requests call call' request request' hcall hcall' :=
    h.requests call call' request request' (hrequests call request hcall)
      (hrequests call' request' hcall')
  runs := hruns

/-- A request that has chosen a port that nobody of its tenant has. -/
theorem of_opened {call tenantId : ℕ} {maxNetworks : Option ℕ} {body : TunnelCreate}
    {request : TunnelRequest}
    (hok : choosesUnused s (.openTunnel call tenantId maxNetworks body) = true)
    (htenant : request.tenantId = tenantId)
    (hport : request.listenPort = chooseListenPort s.wg tenantId body.listenPort) :
    PortAllocation { s with requests := s.requests.insert call request } := by
  have hchosen := chooseListenPort_unused hok
  rw [← hport] at hchosen
  obtain ⟨hne, hbound, hseen, hunseen⟩ := hchosen
  have hfree : ∀ i tunnel, s.wg.tunnels.get? i = some tunnel →
      tunnel.tenantId = request.tenantId → tunnel.listenPort ≠ some request.listenPort := by
    intro i tunnel hget hsame hused
    rw [← htenant, ← hsame] at hseen hunseen
    rcases h.mem_seen_or_unseen hget hused with hmem | hmem
    · exact hseen hmem
    · exact hunseen hmem
  -- other requests of the tenant have chosen other ports
  have hother : ∀ call' request', call' ≠ call → s.requests.get? call' = some request' →
      request'.tenantId = request.tenantId → request'.listenPort ≠ request.listenPort := by
    intro call' request' hdifferent hget hsame hused
    apply hunseen
    rw [← hused]
    exact List.mem_append_right _ (List.mem_map.mpr ⟨(call', request'),
      Table.mem_select.mpr ⟨hget, decide_eq_true ⟨hdifferent, hsame.trans htenant⟩⟩, rfl⟩)
  constructor
  case ports => exact h.ports
  case numbered => exact h.numbered
  case request =>
    intro call' request' hget
    rcases Table.get?_insert_eq_some.mp hget with ⟨-, rfl⟩ | ⟨-, hget⟩
    · exact ⟨hne, hbound, hfree⟩
    · exact h.request call' request' hget
  case requests =>
    intro call₁ call₂ request₁ request₂ hget₁ hget₂ hsame hused
    rw [Table.get?_insert] at hget₁ hget₂
    split at hget₁ <;> split at hget₂
    case isTrue.isTrue heq₁ heq₂ => rw [heq₁, heq₂]
    case isTrue.isFalse heq₁ hne₂ =>
      cases hget₁
      exact absurd hused.symm (hother call₂ request₂ hne₂ hget₂ hsame.symm)
    case isFalse.isTrue hne₁ heq₂ =>
      cases hget₂
      exact absurd hused (hother call₁ request₁ hne₁ hget₁ hsame)
    case isFalse.isFalse => exact h.requests _ _ _ _ hget₁ hget₂ hsame hused
  case runs => exact h.runs

/-- A request creates its tunnel. -/
theorem of_created {call : ℕ} {request : TunnelRequest} {poolId : ℕ} {poolRow : WireGuardPool}
    {s' : State} (hrequest : s.requests.get? call = some request)
    (hwg : s'.wg.tunnels = s.wg.tunnels.add (newTunnel request poolId poolRow))
    (hrequests : s'.requests = s.requests.erase call)
    (hruns : ∀ run tunnelRun, s'.runs.get? run = some tunnelRun →
      CarriesPort tunnelRun.phase) : PortAllocation s' := by
  obtain ⟨hne, hbound, hunused⟩ := h.request call request hrequest
  have hcases : ∀ i tunnel, s'.wg.tunnels.get? i = some tunnel →
      (i = s.wg.tunnels.next ∧ tunnel = newTunnel request poolId poolRow) ∨
        s.wg.tunnels.get? i = some tunnel := by
    intro i tunnel hget
    rw [hwg, Serial.get?_add] at hget
    split at hget
    case isTrue heq => exact Or.inl ⟨heq, (Option.some.inj hget).symm⟩
    case isFalse => exact Or.inr hget
  have hother : ∀ call' request', s'.requests.get? call' = some request' →
      call' ≠ call ∧ s.requests.get? call' = some request' := by
    intro call' request' hget
    rw [hrequests] at hget
    obtain ⟨hdifferent, hget⟩ := Table.get?_erase_eq_some.mp hget
    exact ⟨hdifferent, hget⟩
  constructor
  case ports =>
    constructor
    case unique =>
      intro i j tunnel tunnel' port hi hj htenant hport hport'
      rcases hcases i tunnel hi with ⟨rfl, rfl⟩ | hold <;>
        rcases hcases j tunnel' hj with ⟨rfl, rfl⟩ | hold'
      · rfl
      · exact absurd (hport'.trans hport.symm) (hunused j tunnel' hold' htenant.symm)
      · exact absurd (hport.trans hport'.symm) (hunused i tunnel hold htenant)
      · exact h.ports.unique i j tunnel tunnel' port hold hold' htenant hport hport'
    case bound =>
      intro i tunnel port hi hport
      rcases hcases i tunnel hi with ⟨rfl, rfl⟩ | hold
      · cases hport
        exact hbound
      · exact h.ports.bound i tunnel port hold hport
  case numbered =>
    intro i tunnel hi
    rcases hcases i tunnel hi with ⟨rfl, rfl⟩ | hold
    · have htruthy : truthy (newTunnel request poolId poolRow).listenPort =
          some request.listenPort :=
        Option.filter_eq_some_iff.mpr ⟨rfl, decide_eq_true hne⟩
      rw [htruthy]
      exact Option.some_ne_none _
    · exact h.numbered i tunnel hold
  case request =>
    intro call' request' hget
    obtain ⟨hdifferent, hget'⟩ := hother call' request' hget
    obtain ⟨hne', hbound', hunused'⟩ := h.request call' request' hget'
    refine ⟨hne', hbound', fun i tunnel hi htenant hport => ?_⟩
    rcases hcases i tunnel hi with ⟨rfl, rfl⟩ | hold
    · -- The other request has another port than the one that has become a tunnel.
      exact hdifferent (h.requests call' call request' request hget' hrequest htenant.symm
        (Option.some.inj hport).symm)
    · exact hunused' i tunnel hold htenant hport
  case requests =>
    intro call₁ call₂ request₁ request₂ hget₁ hget₂
    exact h.requests call₁ call₂ request₁ request₂ (hother _ _ hget₁).2 (hother _ _ hget₂).2
  case runs => exact hruns

/-- One step keeps the ports of each tenant different. -/
theorem step {e : Event} (hok : choosesUnused s e = true) : PortAllocation (step s e) := by
  have hruns : ∀ run tunnelRun, (Tunnels.step s e).runs.get? run = some tunnelRun →
      CarriesPort tunnelRun.phase := fun _ _ hget => h.runs_step e hget
  have hchange := h.portChange_step e
  generalize Tunnels.step s e = s' at hruns hchange
  cases hchange with
  | kept hwg hrequests =>
    refine h.of_kept hwg (fun call request hget => ?_) hruns
    rcases hrequests with hsame | ⟨call', herase⟩
    · rwa [hsame] at hget
    · rw [herase] at hget
      exact (Table.get?_erase_eq_some.mp hget).2
  | opened htenant hport => exact h.of_opened hok htenant hport
  | created hrequest hwg hrequests => exact h.of_created hrequest hwg hrequests hruns

end PortAllocation

/-- In every run whose requests choose ports under the condition, the tunnels of each tenant have
different ports, which are at most 65535. -/
theorem listenPorts_unique {s : State}
    (h : freshMachine.Reachable (fun s e => choosesUnused s e = true) s) : PortsUnique s.wg := by
  have hinv : PortAllocation s := by
    refine h.invariant PortAllocation ?_ fun s e hs hok => hs.step hok
    rintro _ ⟨base, pool, -, rfl⟩
    exact {
      ports := {
        unique := fun _ _ _ _ _ hget => by cases hget
        bound := fun _ _ _ hget => by cases hget }
      numbered := fun _ _ hget => by cases hget
      request := fun _ _ hget => by cases hget
      requests := fun _ _ _ _ hget => by cases hget
      runs := fun _ _ hget => by cases hget }
  exact hinv.ports

/-- A tunnel is created and started, and a second one is created. -/
theorem listenPorts_unique_small : PortsUnique (freshMachine.run smallTunnelState
    (createSmall "vpn" ++ [.startTunnel 0 ⟨1, 1⟩] ++ createSmall "vpn2")).wg :=
  listenPorts_unique ((Machine.Reachable.start init_smallTunnelState).run (by decide +kernel))

/-- Two tunnels are created before the first one is started. -/
theorem listenPorts_not_unique :
    ¬ ∀ s, freshMachine.Reachable Machine.anyStep s → PortsUnique s.wg := by
  intro h
  have hports := h _ (Machine.reachable_run init_smallTunnelState
    (createSmall "vpn" ++ createSmall "vpn2"))
  have hsame : (1 : ℕ) = 2 := hports.unique 1 2 _ _ 51820 rfl rfl (by decide +kernel)
    (by decide +kernel) (by decide +kernel)
  exact absurd hsame (by decide)

end ProxmoxIaas.Tunnels
