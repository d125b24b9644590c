import ProxmoxIaas.WireGuard.Objects

/-!
# Leaked WireGuard Objects

A retried run makes its server, interface or client again, whatever an earlier run has made. A
server that was made before the endpoint was set is not on record yet, so it is forgotten with the
run; one that is on record is replaced there by the next one. The destroy tasks delete the object on
record and delete the row even if that call fails, and a run that removes its peer after the last
retry does not delete the client at all.

## Main results

- `Tracked.step`: what a step does to the objects of tunnels and peers.
- `no_leaks`: where no object is leaked.
-/

namespace ProxmoxIaas.Objects

/-- On OPNsense a tunnel has at most one server and one interface, and a peer at most one client. -/
structure Single (s : State) : Prop where
  servers : ∀ id tunnel uuid uuid', s.tunnels.wg.tunnels.get? id = some tunnel →
    s.servers.get? uuid = some id → s.servers.get? uuid' = some id → uuid = uuid'
  interfaces : ∀ id tunnel optName optName', s.tunnels.wg.tunnels.get? id = some tunnel →
    s.interfaces.get? optName = some id → s.interfaces.get? optName' = some id →
      optName = optName'
  clients : ∀ id peer uuid uuid', s.peers.get? id = some peer →
    s.clientPeer uuid = some id → s.clientPeer uuid' = some id → uuid = uuid'

/-- No object is leaked: once no run is in flight, every row has at most one object, and what a row
leaves behind when it is deleted is not a server or a client. -/
structure NoLeaks (s : State) : Prop where
  single : Quiescent s → Single s
  servers : ∀ uuid id, s.servers.get? uuid = some id → s.tunnels.wg.tunnels.get? id ≠ none
  clients : ∀ uuid id, s.clientPeer uuid = some id → s.peers.get? id ≠ none

/-- A run of the provisioning task of tunnels has committed what it has made. -/
def State.HoldsNothing (s : State) (run : ℕ) : Prop :=
  heldObject s.tunnels s.madeServers run = none ∧ heldObject s.tunnels s.madeInterfaces run = none

/-- The uuid of an added client is not the one that the run has loaded with its peer. -/
def FreshClient (peerRun : PeerRun) : Prop :=
  match peerRun.phase with
  | .added peer _ _ clientUuid => peer.opnsenseClientUuid ≠ some clientUuid
  | _ => True

/-- What a run of the provisioning task of peers has to do. A client is added only for a stored peer
that has none, as far as the peer and the other runs tell, and is found afterwards; and a run fails
only before it has added a client or after it has registered it. -/
def runKeepsTrack (s : State) : WireGuard.Event → Prop
  | .addWgClient run _ located => located = true ∧ ∀ peerRun ∈ s.peerRuns.get? run,
      s.peers.get? peerRun.arguments.peerId ≠ none ∧
        s.clientRegistry.Vacant peerRun.arguments.peerId
  | .registerPeer run => ∀ peerRun ∈ s.peerRuns.get? run, FreshClient peerRun
  | .failPeer run _ => heldClient s.peerSystem run = none
  | _ => True

/-- The steps that leak nothing. An object is made only for a stored row that has none, as far as
the row and the other runs tell. A run ends only after it has committed what it has made. A row is
deleted only when its objects are gone. -/
def keepsTrack (s : State) : Event → Prop
  | .tunnel e => (∀ run ∈ endedTunnelRun e, s.HoldsNothing run) ∧
      ∀ id ∈ destroyedTunnel s.tunnels e, s.serverRegistry.Vacant id ∧
        ∀ peerId peer, s.peers.get? peerId = some peer → peer.tunnelId = id →
          s.clientRegistry.Vacant peerId
  | .addWgServer run _ => ∀ id ∈ tunnelOf s.tunnels run,
      s.tunnels.wg.tunnels.get? id ≠ none ∧ s.serverRegistry.Vacant id
  | .addOptInterface run _ => ∀ id ∈ tunnelOf s.tunnels run,
      s.tunnels.wg.tunnels.get? id ≠ none ∧ s.interfaceRegistry.Vacant id
  | .peer e => runKeepsTrack s e ∧
      ∀ id ∈ deletedPeer s.peerSystem e, s.clientRegistry.Vacant id
  | .crashTunnel run => s.HoldsNothing run
  | .crashPeer run => heldClient s.peerSystem run = none
  | _ => True

instance (s : State) (id : ℕ) : Decidable (s.serverRegistry.Vacant id) :=
  Registry.ofTable_vacant_decidable s.madeServers.keys fun run hheld => by
    by_contra hmade
    exact hheld (heldObject_of_none s.tunnels (AList.lookup_eq_none.mpr hmade))

instance (s : State) (id : ℕ) : Decidable (s.interfaceRegistry.Vacant id) :=
  Registry.ofTable_vacant_decidable s.madeInterfaces.keys fun run hheld => by
    by_contra hmade
    exact hheld (heldObject_of_none s.tunnels (AList.lookup_eq_none.mpr hmade))

instance (s : State) (id : ℕ) : Decidable (s.clientRegistry.Vacant id) :=
  Registry.ofTable_vacant_decidable s.peerRuns.keys fun run hheld => by
    by_contra hrun
    refine hheld ?_
    show (s.peerRuns.get? run).bind addedClient = none
    rw [Table.get?, AList.lookup_eq_none.mpr hrun]
    rfl

instance (s : State) (run : ℕ) : Decidable (s.HoldsNothing run) := instDecidableAnd

instance (peerRun : PeerRun) : Decidable (FreshClient peerRun) := by
  unfold FreshClient
  split <;> infer_instance

instance (s : State) : DecidablePred (runKeepsTrack s)
  | .addWgClient run _ located => inferInstanceAs (Decidable (located = true ∧
      ∀ peerRun ∈ s.peerRuns.get? run, s.peers.get? peerRun.arguments.peerId ≠ none ∧
        s.clientRegistry.Vacant peerRun.arguments.peerId))
  | .registerPeer run => inferInstanceAs (Decidable (∀ peerRun ∈ s.peerRuns.get? run,
      FreshClient peerRun))
  | .failPeer run _ => inferInstanceAs (Decidable (heldClient s.peerSystem run = none))
  | .createPeer .. => isTrue trivial
  | .startPeer .. => isTrue trivial
  | .allocatePeerIp .. => isTrue trivial
  | .activatePeer _ => isTrue trivial
  | .removePeer _ => isTrue trivial
  | .openDestroy .. => isTrue trivial
  | .delWgClient _ => isTrue trivial
  | .destroyPeer _ => isTrue trivial

instance (s : State) (tunnelId : ℕ) : Decidable (∀ peerId peer, s.peers.get? peerId = some peer →
    peer.tunnelId = tunnelId → s.clientRegistry.Vacant peerId) :=
  decidable_of_iff _ Serial.forall_get?_iff.symm

instance (s : State) : DecidablePred (keepsTrack s)
  | .tunnel e => inferInstanceAs (Decidable ((∀ run ∈ endedTunnelRun e, s.HoldsNothing run) ∧
      ∀ id ∈ destroyedTunnel s.tunnels e, s.serverRegistry.Vacant id ∧
        ∀ peerId peer, s.peers.get? peerId = some peer → peer.tunnelId = id →
          s.clientRegistry.Vacant peerId))
  | .addWgServer run _ => inferInstanceAs (Decidable (∀ id ∈ tunnelOf s.tunnels run,
      s.tunnels.wg.tunnels.get? id ≠ none ∧ s.serverRegistry.Vacant id))
  | .addOptInterface run _ => inferInstanceAs (Decidable (∀ id ∈ tunnelOf s.tunnels run,
      s.tunnels.wg.tunnels.get? id ≠ none ∧ s.interfaceRegistry.Vacant id))
  | .delWgServer _ => isTrue trivial
  | .peer e => inferInstanceAs (Decidable (runKeepsTrack s e ∧
      ∀ id ∈ deletedPeer s.peerSystem e, s.clientRegistry.Vacant id))
  | .crashTunnel run => inferInstanceAs (Decidable (s.HoldsNothing run))
  | .crashDestroy _ => isTrue trivial
  | .crashPeer run => inferInstanceAs (Decidable (heldClient s.peerSystem run = none))
  | .crashPeerDestroy _ => isTrue trivial

/-- Every server and client has its row, and a row's objects are on record or held by the run that
has made them. -/
structure Tracked (s : State) : Prop where
  servers : s.serverRegistry.Tidy
  serversOwned : s.serverRegistry.Owned
  interfaces : s.interfaceRegistry.Tidy
  interfacesBound : ∀ optName id, s.interfaces.get? optName = some id →
    id < s.tunnels.wg.tunnels.next
  clients : s.clientRegistry.Tidy
  clientsOwned : s.clientRegistry.Owned

/-- Where everything is tracked, nothing is leaked. -/
theorem Tracked.noLeaks {s : State} (h : Tracked s) : NoLeaks s where
  single _ := {
    servers := fun _ _ _ _ hrow hobject hobject' =>
      h.servers.unique (Registry.ofTable_stored_ne_none.mpr
        (ne_of_eq_of_ne hrow (Option.some_ne_none _))) hobject hobject'
    interfaces := fun _ _ _ _ hrow hobject hobject' =>
      h.interfaces.unique (Registry.ofTable_stored_ne_none.mpr
        (ne_of_eq_of_ne hrow (Option.some_ne_none _))) hobject hobject'
    clients := fun _ _ _ _ hrow hobject hobject' =>
      h.clients.unique (Registry.ofTable_stored_ne_none.mpr
        (ne_of_eq_of_ne hrow (Option.some_ne_none _))) hobject hobject' }
  servers uuid id hobject := Registry.ofTable_stored_ne_none.mp (h.serversOwned uuid id hobject)
  clients uuid id hobject := Registry.ofTable_stored_ne_none.mp (h.clientsOwned uuid id hobject)

/-! ### Tunnels -/

section Tunnels

variable {s s' : State} {e : Tunnels.Event} {made made' : Table ℕ String}
  {column : Tunnel → Option String}

/-- A run keeps its tunnel along with its arguments. -/
theorem tunnelOf_eq {s s' : Tunnels.State} {run : ℕ}
    (h : (s'.runs.get? run).map (·.arguments) = (s.runs.get? run).map (·.arguments)) :
    tunnelOf s' run = tunnelOf s run := by
  have htunnelId := congrArg (Option.map fun a : TunnelArguments => a.tunnelId) h
  rw [Option.map_map, Option.map_map] at htunnelId
  exact htunnelId

/-- Runs keep what they hold, if those that end hold nothing. -/
theorem heldObject_step {s : Tunnels.State}
    (hmade : ∀ run, (∀ arguments, e ≠ .startTunnel run arguments) →
      made'.get? run = made.get? run)
    (hstart : ∀ run arguments, e = .startTunnel run arguments →
      s.runs.get? run = none ∧ made'.get? run = none)
    (hends : ∀ run ∈ endedTunnelRun e, heldObject s made run = none) (run : ℕ) :
    heldObject (Tunnels.step s e) made' run = heldObject s made run := by
  -- a run starts under a number that is free, goes on, or ends
  rcases tunnelRuns_step s e run with hsame | ⟨arguments, hstarted⟩ | ⟨hended, hnone⟩
  · by_cases hstarts : ∃ arguments, e = .startTunnel run arguments
    · obtain ⟨arguments, hstarted⟩ := hstarts
      obtain ⟨hfree, hmade'⟩ := hstart run arguments hstarted
      simp [heldObject, tunnelOf, hfree, hmade']
    · rw [heldObject, heldObject, tunnelOf_eq hsame,
        hmade run fun arguments heq => hstarts ⟨arguments, heq⟩]
  · obtain ⟨hfree, hmade'⟩ := hstart run arguments hstarted
    simp [heldObject, tunnelOf, hfree, hmade']
  · rw [hends run hended]
    simp [heldObject, tunnelOf, hnone]

/-- What a run holds after a commit that writes the object into the column of its tunnel. -/
theorem heldObject_committed {s s' : Tunnels.State} {run tunnelId : ℕ} {name : String}
    (hmade : made.get? run = some name) (htunnel : tunnelOf s run = some tunnelId)
    (hruns : ∀ run, tunnelOf s' run = tunnelOf s run) (run' : ℕ) :
    heldObject s' (committed made run (recordOf s' run column)) run' =
      if run' = run ∧ (s'.wg.tunnels.get? tunnelId).bind column = some name then none
      else heldObject s made run' := by
  have hrecord : recordOf s' run column = (s'.wg.tunnels.get? tunnelId).bind column := by
    rw [recordOf, hruns, htunnel]
    rfl
  rw [committed, hrecord, hmade, heldObject, hruns]
  -- the run holds the object until the column has its name
  by_cases hwritten : (s'.wg.tunnels.get? tunnelId).bind column = some name
  · simp only [hwritten, if_true, and_true]
    rw [Table.get?_erase]
    split
    case isTrue heq => cases tunnelOf s run' <;> rfl
    case isFalse => rfl
  · simp only [hwritten, if_false, and_false]
    rfl

/-- A run writes the name of an object into a column of its tunnel, if the write takes place. -/
def WritesObject (column : Tunnel → Option String) (s s' : Tunnels.State) (run : ℕ)
    (name : String) : Prop :=
  ∃ tunnelId write, tunnelOf s run = some tunnelId ∧
    (∀ id, s'.wg.tunnels.get? id =
      if id = tunnelId then (s.wg.tunnels.get? id).map write else s.wg.tunnels.get? id) ∧
    ∀ tunnel, column (write tunnel) = some name ∨ column (write tunnel) = column tunnel

/-- A run that writes nothing writes the row as it is. -/
theorem writesObject_of_eq {s s' : Tunnels.State} {run tunnelId : ℕ} {name : String}
    (htunnel : tunnelOf s run = some tunnelId) (heq : s'.wg = s.wg) :
    WritesObject column s s' run name := by
  refine ⟨tunnelId, id, htunnel, fun key => ?_, fun _ => Or.inr rfl⟩
  rw [heq, Option.map_id]
  split <;> rfl

/-- The commit of a run writes the object, or raises. -/
theorem writesObject_writeTunnel {s : Tunnels.State} {run tunnelId : ℕ} {name : String}
    {write : Tunnel → Tunnel} (phase : TunnelPhase) (htunnel : tunnelOf s run = some tunnelId)
    (hwrite : ∀ tunnel, column (write tunnel) = some name ∨
      column (write tunnel) = column tunnel) :
    WritesObject column s (s.writeTunnel run tunnelId write phase) run name := by
  unfold Tunnels.State.writeTunnel
  split
  · exact writesObject_of_eq htunnel rfl
  · exact ⟨tunnelId, write, htunnel, fun id => Serial.get?_modify _ _ _ _, hwrite⟩

/-- The commit of a server. -/
theorem writesObject_serve (s : Tunnels.State) {run : ℕ}
    (serverUuid publicKey privateKey : String) (hrun : s.runs.get? run ≠ none) :
    WritesObject (·.opnsenseServerUuid) s
      (Tunnels.step s (.serveTunnel run serverUuid publicKey privateKey)) run serverUuid := by
  obtain ⟨tunnelRun, hget⟩ := Option.ne_none_iff_exists'.mp hrun
  have htunnel : tunnelOf s run = some tunnelRun.arguments.tunnelId := by rw [tunnelOf, hget]; rfl
  rw [Tunnels.step, Tunnels.serveStep]
  split
  case h_1 hnumbered =>
    obtain rfl := Option.some.inj (hget.symm.trans hnumbered)
    split
    · exact writesObject_of_eq htunnel rfl
    · refine writesObject_writeTunnel _ htunnel fun tunnel => ?_
      -- the column is left as it is, if it had this very value when the run loaded the tunnel
      show writeColumn _ _ _ _ = _ ∨ writeColumn _ _ _ _ = _
      unfold writeColumn
      split
      · exact Or.inr rfl
      · exact Or.inl rfl
  case h_2 => exact writesObject_of_eq htunnel rfl

/-- The commit of an interface. -/
theorem writesObject_link (s : Tunnels.State) {run : ℕ} (optName : String)
    (hrun : s.runs.get? run ≠ none) :
    WritesObject (·.optInterface) s (Tunnels.step s (.linkTunnel run optName)) run optName := by
  obtain ⟨tunnelRun, hget⟩ := Option.ne_none_iff_exists'.mp hrun
  have htunnel : tunnelOf s run = some tunnelRun.arguments.tunnelId := by rw [tunnelOf, hget]; rfl
  rw [Tunnels.step, Tunnels.linkStep]
  split
  case h_1 hserved =>
    obtain rfl := Option.some.inj (hget.symm.trans hserved)
    exact writesObject_writeTunnel _ htunnel fun _ => Or.inl rfl
  case h_2 => exact writesObject_of_eq htunnel rfl

/-- Only the commit of a server writes the servers on record. -/
theorem serverRows_step (s : Tunnels.State)
    (hserve : ∀ run serverUuid publicKey privateKey,
      e ≠ .serveTunnel run serverUuid publicKey privateKey) :
    s.wg.tunnels.Keeps (·.opnsenseServerUuid) (Tunnels.step s e).wg.tunnels
      fun id => destroyedTunnel s e = some id :=
  tunnelRows_step objectColumn_server s (fun _ _ _ _ heq => absurd heq (hserve _ _ _ _))
    fun _ _ _ _ => rfl

/-- Only the commit of an interface writes the interfaces on record. -/
theorem interfaceRows_step (s : Tunnels.State)
    (hlink : ∀ run optName, e ≠ .linkTunnel run optName) :
    s.wg.tunnels.Keeps (·.optInterface) (Tunnels.step s e).wg.tunnels
      fun id => destroyedTunnel s e = some id :=
  tunnelRows_step objectColumn_interface s (fun _ _ _ _ _ _ _ _ _ => rfl)
    fun _ _ heq => absurd heq (hlink _ _)

/-- The servers, after a step that neither makes nor commits one. -/
theorem Tracked.servers_keep (h : Tracked s) (htunnels : s'.tunnels = Tunnels.step s.tunnels e)
    (hservers : s'.servers = s.servers)
    (hserve : ∀ run serverUuid publicKey privateKey,
      e ≠ .serveTunnel run serverUuid publicKey privateKey)
    (hgone : ∀ id, destroyedTunnel s.tunnels e = some id → s.serverRegistry.Vacant id)
    (hheld : ∀ run, heldObject s'.tunnels s'.madeServers run =
      heldObject s.tunnels s.madeServers run) :
    s'.serverRegistry.Tidy ∧ s'.serverRegistry.Owned := by
  have hrows := serverRows_step s.tunnels hserve
  rw [← htunnels] at hrows
  have hobjects : ∀ uuid id, s'.servers.get? uuid = some id → s.servers.get? uuid = some id := by
    rw [hservers]
    exact fun _ _ => id
  refine ⟨h.servers.keeps hrows (fun _ _ => h.serversOwned.bound) hobjects hheld,
    h.serversOwned.keeps hrows (fun id uuid hdeleted hobject => ?_) hobjects⟩
  exact h.servers.not_object (h.serversOwned uuid id hobject) (hgone id hdeleted) uuid hobject

/-- The interfaces, after a step that neither makes nor commits one. -/
theorem Tracked.interfaces_keep (h : Tracked s) (htunnels : s'.tunnels = Tunnels.step s.tunnels e)
    (hinterfaces : s'.interfaces = s.interfaces)
    (hlink : ∀ run optName, e ≠ .linkTunnel run optName)
    (hheld : ∀ run, heldObject s'.tunnels s'.madeInterfaces run =
      heldObject s.tunnels s.madeInterfaces run) :
    s'.interfaceRegistry.Tidy := by
  have hrows := interfaceRows_step s.tunnels hlink
  rw [← htunnels] at hrows
  refine h.interfaces.keeps hrows h.interfacesBound ?_ hheld
  rw [hinterfaces]
  exact fun _ _ => id

/-- The sequence of the tunnels' ids goes up. -/
theorem next_le_step (s : Tunnels.State) (e : Tunnels.Event) :
    s.wg.tunnels.next ≤ (Tunnels.step s e).wg.tunnels.next := by
  -- the commit of an interface writes no server, and every other step no interface
  by_cases hlink : ∃ run optName, e = .linkTunnel run optName
  · obtain ⟨run, optName, rfl⟩ := hlink
    exact (serverRows_step s (by simp)).next_le
  · exact (interfaceRows_step s fun run optName heq => hlink ⟨run, optName, heq⟩).next_le

/-- A run that starts is a new one, and holds nothing. -/
theorem heldObject_start {run : ℕ} {arguments : TunnelArguments}
    (hfree : ¬ (s.tunnels.runs.get? run).isSome) (run' : ℕ) :
    heldObject (Tunnels.step s.tunnels (.startTunnel run arguments)) (made.erase run) run' =
      heldObject s.tunnels made run' := by
  refine heldObject_step (fun other hother => ?_) (fun other _ heq => ?_)
    (by simp [endedTunnelRun]) run'
  · rw [Table.get?_erase, if_neg]
    rintro rfl
    exact hother arguments rfl
  · obtain ⟨rfl, -⟩ := Tunnels.Event.startTunnel.inj heq
    exact ⟨Option.not_isSome_iff_eq_none.mp hfree, by rw [Table.get?_erase, if_pos rfl]⟩

/-- A commit that a run makes keeps the tunnels of the runs. -/
theorem tunnelOf_step (s : Tunnels.State) (hstart : ∀ run arguments, e ≠ .startTunnel run arguments)
    (hended : endedTunnelRun e = none) (run : ℕ) :
    tunnelOf (Tunnels.step s e) run = tunnelOf s run := by
  rcases tunnelRuns_step s e run with hsame | ⟨arguments, hstarted⟩ | ⟨hends, -⟩
  · exact tunnelOf_eq hsame
  · exact absurd hstarted (hstart _ _)
  · cases hended.symm.trans hends

/-- A commit of a run that has ended does nothing. -/
theorem committed_of_absent {run : ℕ} {name : String} (hmade : made.get? run = some name)
    (htunnel : tunnelOf s.tunnels run = none) :
    committed made run (recordOf s.tunnels run column) = made := by
  rw [committed, recordOf, htunnel, hmade]
  exact if_neg nofun

/-- The servers, after a step of the tunnels. -/
theorem Tracked.tunnel_servers (h : Tracked s) (hok : keepsTrack s (.tunnel e)) :
    (tunnelStep s e).serverRegistry.Tidy ∧ (tunnelStep s e).serverRegistry.Owned := by
  have hends : ∀ run ∈ endedTunnelRun e, heldObject s.tunnels s.madeServers run = none :=
    fun run hended => (hok.1 run hended).1
  have hgone : ∀ id, destroyedTunnel s.tunnels e = some id → s.serverRegistry.Vacant id :=
    fun id hdestroyed => (hok.2 id hdestroyed).1
  cases e with
  | startTunnel run arguments =>
    rw [tunnelStep]
    split
    case isTrue => exact ⟨h.servers, h.serversOwned⟩
    case isFalse hfree =>
      exact h.servers_keep rfl rfl (by simp) hgone (heldObject_start hfree)
  | serveTunnel run serverUuid publicKey privateKey =>
    rw [tunnelStep]
    split
    case isFalse => exact ⟨h.servers, h.serversOwned⟩
    case isTrue hmade =>
      -- the run may have crashed since it has made the server
      by_cases hrun : s.tunnels.runs.get? run = none
      case pos =>
        have hsame : Tunnels.step s.tunnels (.serveTunnel run serverUuid publicKey privateKey) =
            s.tunnels := by
          rw [Tunnels.step, Tunnels.serveStep, hrun]
        dsimp only
        rw [hsame, committed_of_absent hmade (by rw [tunnelOf, hrun]; rfl)]
        exact ⟨h.servers, h.serversOwned⟩
      case neg =>
        obtain ⟨tunnelId, write, htunnel, hrows, hwrite⟩ := writesObject_serve s.tunnels
          serverUuid publicKey privateKey hrun
        have hheld : heldObject s.tunnels s.madeServers run = some (tunnelId, serverUuid) := by
          rw [heldObject, htunnel, hmade]
          rfl
        exact ⟨h.servers.write hheld hrows (fun tunnel _ => hwrite tunnel)
            (heldObject_committed hmade htunnel (tunnelOf_step _ (by simp) rfl)),
          h.serversOwned.write hrows⟩
  | linkTunnel run optName =>
    rw [tunnelStep]
    split
    case isTrue =>
      exact h.servers_keep rfl rfl (by simp) hgone
        (heldObject_step (fun _ _ => rfl) (by simp) hends)
    case isFalse => exact ⟨h.servers, h.serversOwned⟩
  | _ =>
    exact h.servers_keep rfl rfl (by simp) hgone
      (heldObject_step (fun _ _ => rfl) (by simp) hends)

/-- The interfaces, after a step of the tunnels. -/
theorem Tracked.tunnel_interfaces (h : Tracked s) (hok : keepsTrack s (.tunnel e)) :
    (tunnelStep s e).interfaceRegistry.Tidy := by
  have hends : ∀ run ∈ endedTunnelRun e, heldObject s.tunnels s.madeInterfaces run = none :=
    fun run hended => (hok.1 run hended).2
  unfold tunnelStep
  split
  case h_1 run arguments =>
    split
    case isTrue => exact h.interfaces
    case isFalse hfree =>
      exact h.interfaces_keep (e := .startTunnel run arguments) rfl rfl (by simp)
        (heldObject_start hfree)
  case h_2 run serverUuid publicKey privateKey =>
    split
    case isTrue =>
      exact h.interfaces_keep (e := .serveTunnel run serverUuid publicKey privateKey) rfl rfl
        (by simp) (heldObject_step (fun _ _ => rfl) (by simp) hends)
    case isFalse => exact h.interfaces
  case h_3 run optName =>
    split
    case isFalse => exact h.interfaces
    case isTrue hmade =>
      -- the run may have crashed since it has made the interface
      by_cases hrun : s.tunnels.runs.get? run = none
      case pos =>
        have hsame : Tunnels.step s.tunnels (.linkTunnel run optName) = s.tunnels := by
          rw [Tunnels.step, Tunnels.linkStep, hrun]
        dsimp only
        rw [hsame, committed_of_absent hmade (by rw [tunnelOf, hrun]; rfl)]
        exact h.interfaces
      case neg =>
        obtain ⟨tunnelId, write, htunnel, hrows, hwrite⟩ := writesObject_link s.tunnels optName hrun
        have hheld : heldObject s.tunnels s.madeInterfaces run = some (tunnelId, optName) := by
          rw [heldObject, htunnel, hmade]
          rfl
        exact h.interfaces.write hheld hrows (fun tunnel _ => hwrite tunnel)
          (heldObject_committed hmade htunnel (tunnelOf_step _ (by simp) rfl))
  case h_4 run =>
    exact h.interfaces_keep (e := .destroyTunnel run) rfl rfl (by simp)
      (heldObject_step (fun _ _ => rfl) (by simp) hends)
  case h_5 hstart _ hlink _ =>
    exact h.interfaces_keep (e := e) rfl rfl hlink
      (heldObject_step (fun _ _ => rfl) (fun run arguments heq => absurd heq (hstart run arguments))
        hends)

/-- Every interface was made for a tunnel, after a step of the tunnels. -/
theorem Tracked.tunnel_interfacesBound (h : Tracked s) (optName : String) (id : ℕ)
    (hobject : (tunnelStep s e).interfaces.get? optName = some id) :
    id < (tunnelStep s e).tunnels.wg.tunnels.next := by
  -- no step of the tunnels makes or deletes an interface on OPNsense
  have hstep : ((tunnelStep s e).tunnels = s.tunnels ∨
      (tunnelStep s e).tunnels = Tunnels.step s.tunnels e) ∧
        (tunnelStep s e).interfaces = s.interfaces := by
    unfold tunnelStep
    split
    · split <;> simp
    · split <;> simp
    · split <;> simp
    · simp
    · simp
  rw [hstep.2] at hobject
  have hbound := h.interfacesBound optName id hobject
  rcases hstep.1 with heq | heq
  · rw [heq]
    exact hbound
  · rw [heq]
    exact hbound.trans_le (next_le_step s.tunnels e)

/-- The clients, after a step of the tunnels. -/
theorem Tracked.tunnel_clients (h : Tracked s) (hok : keepsTrack s (.tunnel e)) :
    (tunnelStep s e).clientRegistry.Tidy ∧ (tunnelStep s e).clientRegistry.Owned := by
  have hsame : s.clientRegistry.Tidy ∧ s.clientRegistry.Owned := ⟨h.clients, h.clientsOwned⟩
  cases e with
  | destroyTunnel run =>
    -- the peers of a deleted tunnel have no clients
    have hrows : s.peers.Keeps (·.opnsenseClientUuid)
        (tunnelStep s (.destroyTunnel run)).peers fun id => s.clientRegistry.Vacant id := by
      refine .deleteWhere fun id peer hpeer hdeleted => ?_
      obtain ⟨hbefore, hafter⟩ := Bool.and_eq_true_iff.mp hdeleted
      obtain ⟨tunnel, htunnel⟩ := Option.isSome_iff_exists.mp hbefore
      rcases (serverRows_step (e := .destroyTunnel run) s.tunnels (by simp)).row _ tunnel htunnel
        with hgone | ⟨_, hstored⟩
      · exact (hok.2 _ hgone).2 id peer hpeer rfl
      · rw [Option.isNone_iff_eq_none] at hafter
        cases hafter.symm.trans hstored
    refine ⟨h.clients.keeps hrows (fun _ _ => h.clientsOwned.bound) (fun _ _ => id) fun _ => rfl,
      h.clientsOwned.keeps hrows (fun id uuid hvacant hobject => ?_) fun _ _ => id⟩
    exact h.clients.not_object (h.clientsOwned uuid id hobject) hvacant uuid hobject
  | startTunnel run arguments =>
    rw [tunnelStep]
    split <;> exact hsame
  | serveTunnel run serverUuid publicKey privateKey =>
    rw [tunnelStep]
    split <;> exact hsame
  | linkTunnel run optName =>
    rw [tunnelStep]
    split <;> exact hsame
  | _ => exact hsame

/-- A step of the tunnels that leaks nothing. -/
theorem Tracked.tunnel (h : Tracked s) (hok : keepsTrack s (.tunnel e)) :
    Tracked (tunnelStep s e) where
  servers := (h.tunnel_servers hok).1
  serversOwned := (h.tunnel_servers hok).2
  interfaces := h.tunnel_interfaces hok
  interfacesBound := h.tunnel_interfacesBound
  clients := (h.tunnel_clients hok).1
  clientsOwned := (h.tunnel_clients hok).2

end Tunnels

/-! ### Calls to OPNsense and crashes -/

section Calls

variable {s : State} {run : ℕ}

/-- What runs hold, after one of them has made an object. -/
theorem heldObject_insert (s : Tunnels.State) (made : Table ℕ String) {tunnelId : ℕ} {name : String}
    (htunnel : tunnelOf s run = some tunnelId) (run' : ℕ) :
    heldObject s (made.insert run name) run' =
      if run' = run then some (tunnelId, name) else heldObject s made run' := by
  rw [heldObject, Table.get?_insert]
  split
  case isTrue heq =>
    rw [heq, htunnel]
    rfl
  case isFalse => rfl

/-- OPNsense adds a server. -/
theorem Tracked.addServer (h : Tracked s) {uuid : String}
    (hok : keepsTrack s (.addWgServer run uuid)) : Tracked (addServerStep s run uuid) := by
  unfold addServerStep
  split
  case h_2 => exact h
  case h_1 arguments _ _ hrun =>
    split
    case isFalse => exact h
    case isTrue hfree =>
      have htunnel : tunnelOf s.tunnels run = some arguments.tunnelId := by
        rw [tunnelOf, hrun]
        rfl
      obtain ⟨hrow, hvacant⟩ := hok _ htunnel
      have hobjects : ∀ uuid', Table.get? (s.servers.insert uuid arguments.tunnelId) uuid' =
          if uuid' = uuid then some arguments.tunnelId else s.servers.get? uuid' :=
        fun uuid' => Table.get?_insert _ _ _ _
      exact { h with
        servers := h.servers.make hvacant (heldObject_of_none s.tunnels hfree.1) rfl hobjects
          (heldObject_insert s.tunnels s.madeServers htunnel)
        serversOwned :=
          h.serversOwned.make (Registry.ofTable_stored_ne_none.mpr hrow) rfl hobjects }

/-- OPNsense adds an interface. -/
theorem Tracked.addInterface (h : Tracked s) {optName : String}
    (hok : keepsTrack s (.addOptInterface run optName)) :
    Tracked (addInterfaceStep s run optName) := by
  unfold addInterfaceStep
  split
  case h_2 => exact h
  case h_1 arguments hrun =>
    split
    case isFalse => exact h
    case isTrue hfree =>
      have htunnel : tunnelOf s.tunnels run = some arguments.tunnelId := by
        rw [tunnelOf, hrun]
        rfl
      obtain ⟨hrow, hvacant⟩ := hok _ htunnel
      have hobjects : ∀ optName', Table.get? (s.interfaces.insert optName arguments.tunnelId)
          optName' = if optName' = optName then some arguments.tunnelId
            else s.interfaces.get? optName' :=
        fun optName' => Table.get?_insert _ _ _ _
      refine { h with
        interfaces := h.interfaces.make hvacant (heldObject_of_none s.tunnels hfree) rfl hobjects
          (heldObject_insert s.tunnels s.madeInterfaces htunnel)
        interfacesBound := fun optName' id hobject => ?_ }
      rw [hobjects] at hobject
      split at hobject
      case isTrue =>
        obtain rfl := Option.some.inj hobject
        obtain ⟨tunnel, hget⟩ := Option.ne_none_iff_exists'.mp hrow
        exact (Serial.bound_of_get? hget).2
      case isFalse => exact h.interfacesBound optName' id hobject

/-- A run of the destroy task deletes a server. -/
theorem Tracked.delServer (h : Tracked s) (run : ℕ) : Tracked (delServerStep s run) := by
  unfold delServerStep
  split
  case h_2 => exact h
  case h_1 =>
    split
    case h_2 => exact h
    case h_1 uuid _ =>
      have hobjects : ∀ uuid' id, Table.get? (s.servers.erase uuid) uuid' = some id →
          s.servers.get? uuid' = some id := by
        intro uuid' id hobject
        exact (Table.get?_erase_eq_some.mp hobject).2
      -- the deletion of an object leaves the record of it, which does not count any more
      have hrows := Serial.Keeps.refl (·.opnsenseServerUuid) s.tunnels.wg.tunnels fun _ => False
      exact { h with
        servers := h.servers.keeps hrows (fun _ _ => h.serversOwned.bound) hobjects fun _ => rfl
        serversOwned := h.serversOwned.keeps hrows (fun _ _ => False.elim) hobjects }

/-- A run of the provisioning task of tunnels crashes. -/
theorem Tracked.crashTunnel (h : Tracked s) (hok : keepsTrack s (.crashTunnel run)) :
    Tracked (step s (.crashTunnel run)) := by
  have hheld : ∀ made : Table ℕ String, heldObject s.tunnels made run = none → ∀ run',
      heldObject (step s (.crashTunnel run)).tunnels made run' =
        heldObject s.tunnels made run' := by
    intro made hnone run'
    show ((Table.get? (s.tunnels.runs.erase run) run').map _).bind _ = _
    rw [Table.get?_erase]
    split
    case isTrue heq => exact (heq ▸ hnone).symm
    case isFalse => rfl
  exact { h with
    servers := h.servers.mono (fun _ _ => id) (hheld _ hok.1) fun _ _ hstored => Or.inl hstored
    interfaces := h.interfaces.mono (fun _ _ => id) (hheld _ hok.2)
      fun _ _ hstored => Or.inl hstored }

/-- A run of the provisioning task of peers crashes. -/
theorem Tracked.crashPeer (h : Tracked s) (hok : keepsTrack s (.crashPeer run)) :
    Tracked (step s (.crashPeer run)) := by
  have hheld : ∀ run', heldClient (step s (.crashPeer run)).peerSystem run' =
      heldClient s.peerSystem run' := by
    intro run'
    show (Table.get? (s.peerRuns.erase run) run').bind addedClient = _
    rw [Table.get?_erase]
    split
    case isTrue heq => exact (heq ▸ hok).symm
    case isFalse => rfl
  exact { h with
    clients := h.clients.mono (fun _ _ => id) hheld fun _ _ hstored => Or.inl hstored }

end Calls

/-! ### Peers -/

section Peers

variable {s : State} {e : WireGuard.Event}

/-- A step of the peers does not touch the tunnels and their objects. -/
theorem peerStep_tunnels (s : State) (e : WireGuard.Event) :
    (peerStep s e).serverRegistry = s.serverRegistry ∧
      (peerStep s e).interfaceRegistry = s.interfaceRegistry ∧
        (peerStep s e).interfaces = s.interfaces ∧ (peerStep s e).tunnels = s.tunnels := by
  unfold peerStep
  split
  · split <;> exact ⟨rfl, rfl, rfl, rfl⟩
  · split
    · split <;> exact ⟨rfl, rfl, rfl, rfl⟩
    · exact ⟨rfl, rfl, rfl, rfl⟩
  · exact ⟨rfl, rfl, rfl, rfl⟩

/-- The clients, after a step that neither makes nor registers one. -/
theorem Tracked.clients_keep (h : Tracked s) (hok : keepsTrack s (.peer e)) {s' : State}
    (hpeers : s'.peers = (WireGuard.step s.peerSystem e).db.peers)
    (hclients : s'.clients = (WireGuard.step s.peerSystem e).clients)
    (hclientPeers : s'.clientPeers = s.clientPeers)
    (hruns : s'.peerRuns = (WireGuard.step s.peerSystem e).runs)
    (hadd : ∀ run uuid located, e ≠ .addWgClient run uuid located)
    (hregister : ∀ run, e ≠ .registerPeer run)
    (hstart : ∀ run arguments retries, e = .startPeer run arguments retries →
      s.peerRuns.get? run = none) :
    s'.clientRegistry.Tidy ∧ s'.clientRegistry.Owned := by
  have hrows := peerRows_step s.peerSystem hregister
  rw [← hpeers] at hrows
  have hobjects : ∀ uuid id, s'.clientPeer uuid = some id → s.clientPeer uuid = some id := by
    intro uuid id hobject
    obtain ⟨client, hclient, hpeer⟩ := Option.bind_eq_some_iff.mp hobject
    rw [hclients] at hclient
    rw [hclientPeers] at hpeer
    exact Option.bind_eq_some_iff.mpr ⟨client, peerClients_step s.peerSystem hadd hclient, hpeer⟩
  have hheld : ∀ run, heldClient s'.peerSystem run = heldClient s.peerSystem run := by
    intro run
    have hsame : heldClient s'.peerSystem run = heldClient (WireGuard.step s.peerSystem e) run := by
      show (s'.peerRuns.get? run).bind addedClient = _
      rw [hruns]
      rfl
    rw [hsame]
    -- a run that starts or fails holds nothing, and held nothing before
    rcases peerRuns_step s.peerSystem hadd hregister run with hkept | ⟨hstarts | hfails, hnone⟩
    · exact hkept
    · obtain ⟨arguments, retries, heq⟩ := hstarts
      rw [hnone]
      show none = (s.peerRuns.get? run).bind addedClient
      rw [hstart run arguments retries heq]
      rfl
    · obtain ⟨message, rfl⟩ := hfails
      exact hnone.trans (Eq.symm hok.1)
  refine ⟨h.clients.keeps hrows (fun _ _ => h.clientsOwned.bound) hobjects hheld,
    h.clientsOwned.keeps hrows (fun id uuid hdeleted hobject => ?_) hobjects⟩
  exact h.clients.not_object (h.clientsOwned uuid id hobject)
    (hok.2 id hdeleted) uuid hobject

/-- What runs hold, after one of them goes on. -/
theorem heldClient_setPhase_of_get? {s : WireGuard.State} {run : ℕ} {peerRun : PeerRun}
    (hrun : s.runs.get? run = some peerRun) (phase : PeerPhase) (run' : ℕ) :
    heldClient (s.setPhase run phase) run' =
      if run' = run then addedClient { peerRun with phase } else heldClient s run' := by
  unfold heldClient WireGuard.State.setPhase
  rw [Table.get?_modify]
  split
  case isTrue heq =>
    rw [heq, hrun]
    rfl
  case isFalse => rfl

/-- A call that adds a client and finds it, or that does nothing. -/
theorem addClientStep_cases (s : WireGuard.State) (run : ℕ) (uuid : String) :
    WireGuard.step s (.addWgClient run uuid true) = s ∨
      ∃ peerRun peer keys peerIp client, s.runs.get? run = some peerRun ∧
        addedClient peerRun = none ∧ s.clients.get? uuid = none ∧
          WireGuard.step s (.addWgClient run uuid true) =
            { s.setPhase run (.added peer keys peerIp uuid) with
              clients := s.clients.insert uuid client } := by
  rw [WireGuard.step, WireGuard.addClientStep]
  split
  case h_2 => exact Or.inl rfl
  case h_1 arguments retries peer keys peerIp hrun =>
    split
    case h_2 => exact Or.inl rfl
    case h_1 tunnel _ =>
      split
      case isFalse => exact Or.inl rfl
      case isTrue hfree =>
        exact Or.inr
          ⟨_, peer, keys, peerIp, wgClient tunnel peer keys peerIp, hrun, rfl, hfree, rfl⟩

/-- OPNsense adds a client, which is found. -/
theorem Tracked.addClient (h : Tracked s) {run : ℕ} {uuid : String} {located : Bool}
    (hok : keepsTrack s (.peer (.addWgClient run uuid located))) :
    (peerStep s (.addWgClient run uuid located)).clientRegistry.Tidy ∧
      (peerStep s (.addWgClient run uuid located)).clientRegistry.Owned := by
  obtain ⟨⟨rfl, hvacant⟩, -⟩ := hok
  rcases addClientStep_cases s.peerSystem run uuid with
    hstep | ⟨peerRun, peer, keys, peerIp, client, hrun, hfirst, hfree, hstep⟩
  · -- nothing is added, so it does not matter for whom
    have hsame : ∀ uuid' id, (peerStep s (.addWgClient run uuid true)).clientPeer uuid' = some id →
        s.clientPeer uuid' = some id := by
      simp only [peerStep, hstep]
      split
      case h_1 peerRun _ =>
        split
        case isTrue hfree =>
          intro uuid' id hobject
          obtain ⟨client, hclient, hpeer⟩ := Option.bind_eq_some_iff.mp hobject
          rw [Table.get?_insert] at hpeer
          split at hpeer
          case isTrue heq =>
            subst heq
            cases hfree.symm.trans hclient
          case isFalse => exact Option.bind_eq_some_iff.mpr ⟨client, hclient, hpeer⟩
        case isFalse => exact fun _ _ => id
      case h_2 => exact fun _ _ => id
    have hrest : (peerStep s (.addWgClient run uuid true)).peers = s.peers ∧
        (peerStep s (.addWgClient run uuid true)).peerRuns = s.peerRuns := by
      simp only [peerStep, hstep]
      split
      · split <;> exact ⟨rfl, rfl⟩
      · exact ⟨rfl, rfl⟩
    have hrows := Serial.Keeps.refl (·.opnsenseClientUuid) s.peers fun _ => False
    rw [State.clientRegistry, hrest.1]
    refine ⟨h.clients.keeps hrows (fun _ _ => h.clientsOwned.bound) hsame fun run' => ?_,
      h.clientsOwned.keeps hrows (fun _ _ => False.elim) hsame⟩
    show ((peerStep s (.addWgClient run uuid true)).peerRuns.get? run').bind addedClient = _
    rw [hrest.2]
    rfl
  · -- the uuid is not in use, so no client changes hands
    have hrun' : s.peerRuns.get? run = some peerRun := hrun
    have hfree' : s.clients.get? uuid = none := hfree
    have hafter : peerStep s (.addWgClient run uuid true) =
        { s with
          clients := s.clients.insert uuid client
          peerRuns := (s.peerSystem.setPhase run (.added peer keys peerIp uuid)).runs
          clientPeers := s.clientPeers.insert uuid peerRun.arguments.peerId } := by
      simp only [peerStep, hstep, hrun', hfree', if_true]
      rfl
    rw [hafter]
    have hobjects : ∀ uuid', State.clientPeer
        { s with
          clients := s.clients.insert uuid client
          peerRuns := (s.peerSystem.setPhase run (.added peer keys peerIp uuid)).runs
          clientPeers := s.clientPeers.insert uuid peerRun.arguments.peerId } uuid' =
        if uuid' = uuid then some peerRun.arguments.peerId else s.clientPeer uuid' := by
      intro uuid'
      simp only [State.clientPeer, Table.get?_insert]
      split <;> rfl
    obtain ⟨hrow, hvacant⟩ := hvacant peerRun hrun
    have hnone : heldClient s.peerSystem run = none := by
      rw [heldClient, hrun]
      exact hfirst
    exact ⟨h.clients.make hvacant hnone rfl hobjects
        (heldClient_setPhase_of_get? hrun (.added peer keys peerIp uuid)),
      h.clientsOwned.make (Registry.ofTable_stored_ne_none.mpr hrow) rfl hobjects⟩

/-- A registration writes the client of the run, raises, or does nothing. -/
theorem registerStep_cases (s : WireGuard.State) (run : ℕ) :
    WireGuard.step s (.registerPeer run) = s ∨
      ∃ arguments retries peer keys peerIp clientUuid,
        s.runs.get? run = some ⟨arguments, retries, .added peer keys peerIp clientUuid⟩ ∧
          (s.db.peers.get? arguments.peerId ≠ none ∧ WireGuard.step s (.registerPeer run) =
              { s.setPhase run .registered with
                db := { s.db with
                  peers := s.db.peers.modify arguments.peerId
                    (.register peer keys peerIp clientUuid) } } ∨
            s.db.peers.get? arguments.peerId = none ∧
              WireGuard.step s (.registerPeer run) = s.setPhase run WireGuard.staleData) := by
  rw [WireGuard.step, WireGuard.registerStep]
  split
  case h_2 => exact Or.inl rfl
  case h_1 arguments retries peer keys peerIp clientUuid hrun =>
    refine Or.inr ⟨arguments, retries, peer, keys, peerIp, clientUuid, hrun, ?_⟩
    split
    case h_1 stored hget => exact Or.inl ⟨ne_of_eq_of_ne hget (Option.some_ne_none _), rfl⟩
    case h_2 hgone => exact Or.inr ⟨hgone, rfl⟩

/-- A run registers its client. -/
theorem Tracked.register (h : Tracked s) {run : ℕ}
    (hok : keepsTrack s (.peer (.registerPeer run))) :
    (peerStep s (.registerPeer run)).clientRegistry.Tidy ∧
      (peerStep s (.registerPeer run)).clientRegistry.Owned := by
  rcases registerStep_cases s.peerSystem run with
    hstep | ⟨arguments, retries, peer, keys, peerIp, clientUuid, hrun, hcommit⟩
  · have hafter : peerStep s (.registerPeer run) = s := by
      simp only [peerStep, hstep]
      rfl
    rw [hafter]
    exact ⟨h.clients, h.clientsOwned⟩
  have hheld : heldClient s.peerSystem run = some (arguments.peerId, clientUuid) := by
    rw [heldClient, hrun]
    rfl
  rcases hcommit with ⟨hrow, hstep⟩ | ⟨hgone, hstep⟩
  · have hfresh : peer.opnsenseClientUuid ≠ some clientUuid := hok.1 _ hrun
    have hafter : peerStep s (.registerPeer run) =
        { s with
          peers := s.peers.modify arguments.peerId (.register peer keys peerIp clientUuid)
          peerRuns := (s.peerSystem.setPhase run .registered).runs } := by
      simp only [peerStep, hstep]
      rfl
    rw [hafter]
    have hrows : ∀ id, (s.peers.modify arguments.peerId
        (.register peer keys peerIp clientUuid)).get? id =
          if id = arguments.peerId then
            (s.peers.get? id).map (.register peer keys peerIp clientUuid)
          else s.peers.get? id :=
      fun id => Serial.get?_modify _ _ _ _
    -- the column takes the uuid, since the run had loaded another value
    have hwrite : ∀ stored : WireGuardPeer,
        (peer.register keys peerIp clientUuid stored).opnsenseClientUuid = some clientUuid :=
      fun _ => writeColumn_of_ne hfresh
    have hrecorded : ((s.peers.modify arguments.peerId
        (.register peer keys peerIp clientUuid)).get? arguments.peerId).bind
          (·.opnsenseClientUuid) = some clientUuid := by
      obtain ⟨stored, hget⟩ := Option.ne_none_iff_exists'.mp hrow
      have hget' : s.peers.get? arguments.peerId = some stored := hget
      rw [hrows, if_pos rfl, hget']
      exact hwrite stored
    refine ⟨h.clients.write hheld hrows (fun stored _ => Or.inl (hwrite stored)) fun run' => ?_,
      h.clientsOwned.write hrows⟩
    simp only [hrecorded, and_true]
    exact heldClient_setPhase_of_get? hrun .registered run'
  · -- the peer is gone, and the commit raises
    have hafter : peerStep s (.registerPeer run) =
        { s with peerRuns := (s.peerSystem.setPhase run WireGuard.staleData).runs } := by
      simp only [peerStep, hstep]
      rfl
    rw [hafter]
    have hnone : s.clientRegistry.stored arguments.peerId = none := by
      show (s.peers.get? arguments.peerId).map _ = none
      rw [show s.peers.get? arguments.peerId = none from hgone]
      rfl
    exact ⟨h.clients.forget hheld hnone rfl rfl
        (heldClient_setPhase_of_get? hrun WireGuard.staleData), h.clientsOwned⟩

/-- The clients, after a step of the peers. -/
theorem Tracked.peer_clients (h : Tracked s) (hok : keepsTrack s (.peer e)) :
    (peerStep s e).clientRegistry.Tidy ∧ (peerStep s e).clientRegistry.Owned := by
  cases e with
  | addWgClient run uuid located => exact h.addClient hok
  | registerPeer run => exact h.register hok
  | startPeer run arguments retries =>
    rw [peerStep]
    split
    case isTrue => exact ⟨h.clients, h.clientsOwned⟩
    -- the number of a run is given once
    case isFalse hfree =>
      refine h.clients_keep hok rfl rfl rfl rfl (by simp) (by simp) fun run' _ _ heq => ?_
      obtain ⟨rfl, -, -⟩ := WireGuard.Event.startPeer.inj heq
      exact Option.not_isSome_iff_eq_none.mp hfree
  | _ => exact h.clients_keep hok rfl rfl rfl rfl (by simp) (by simp) (by simp)

/-- A step of the peers that leaks nothing. -/
theorem Tracked.peer (h : Tracked s) (hok : keepsTrack s (.peer e)) : Tracked (peerStep s e) := by
  obtain ⟨hservers, hinterfaces, hobjects, htunnels⟩ := peerStep_tunnels s e
  exact {
    servers := hservers ▸ h.servers
    serversOwned := hservers ▸ h.serversOwned
    interfaces := hinterfaces ▸ h.interfaces
    interfacesBound := by
      rw [hobjects, htunnels]
      exact h.interfacesBound
    clients := (h.peer_clients hok).1
    clientsOwned := (h.peer_clients hok).2 }

end Peers

/-! ### Runs -/

/-- A step that leaks nothing keeps track of all objects. -/
theorem Tracked.step {s : State} (h : Tracked s) (e : Event) (hok : keepsTrack s e) :
    Tracked (step s e) := by
  cases e with
  | tunnel e => exact h.tunnel hok
  | addWgServer run uuid => exact h.addServer hok
  | addOptInterface run optName => exact h.addInterface hok
  | delWgServer run => exact h.delServer run
  | peer e => exact h.peer hok
  | crashTunnel run => exact h.crashTunnel hok
  | crashPeer run => exact h.crashPeer hok
  -- The runs of the destroy tasks make nothing.
  | crashDestroy run => exact { h with }
  | crashPeerDestroy run => exact { h with }

/-- The state before the first tunnel. -/
def smallState : State := ⟨Tunnels.smallTunnelState, .empty, ∅, ∅, ∅, ∅, ∅, ∅, ∅, ∅⟩

/-- The small state is an initial state. -/
theorem init_smallState : machine.init smallState := ⟨_, Tunnels.init_smallTunnelState, rfl⟩

/-- A tunnel is created. -/
def createTunnel : List Event := (Tunnels.createSmall "vpn").map .tunnel

/-- A run of the provisioning task chooses the port of the first tunnel. -/
def numberTunnel : List Event :=
  [.tunnel (.startTunnel 0 ⟨1, 1⟩), .tunnel (.provideSubnet 0 []), .tunnel (.choosePort 0)]

/-- The run makes the server and the interface of the tunnel, and commits them. -/
def provideTunnel (uuid : String) : List Event :=
  [.addWgServer 0 uuid, .tunnel (.serveTunnel 0 uuid "public" "private"),
    .addOptInterface 0 "opt3", .tunnel (.linkTunnel 0 "opt3"), .tunnel (.activateTunnel 0)]

/-- A peer is created and provided with a client. -/
def providePeer : List Event :=
  [.peer (.createPeer 1 1 "laptop" none none), .peer (.startPeer 0 ⟨1, 1, 1⟩ 0),
    .peer (.allocatePeerIp 0 ⟨"pub", "priv", "psk", "enc"⟩), .peer (.addWgClient 0 "client" true),
    .peer (.registerPeer 0), .peer (.activatePeer 0)]

/-- The peer and the tunnel are destroyed, and the calls to OPNsense succeed. -/
def destroyBoth : List Event :=
  [.peer (.openDestroy 0 ⟨1, 1, 1⟩), .peer (.delWgClient 0), .peer (.destroyPeer 0),
    .tunnel (.openDestroy 0 ⟨1, 1⟩), .tunnel (.loadDestroy 0), .delWgServer 0,
    .tunnel (.destroyTunnel 0)]

/-- The first run adds the server, and the call that sets its endpoint raises. The run is retried
and completes. -/
def retriedTunnel : List Event :=
  createTunnel ++ numberTunnel ++ [.addWgServer 0 "first", .tunnel (.failTunnel 0 "timeout")] ++
    numberTunnel ++ provideTunnel "second"

end ProxmoxIaas.Objects
