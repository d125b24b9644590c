import ProxmoxIaas.Foundation.Machine
import ProxmoxIaas.WireGuard.Model

/-!
# The WireGuard Peer System

The requests and tasks that create, provision and destroy peers, interleaved at the
granularity of commits and of calls to OPNsense. The tunnels are fixed.

Tasks are acknowledged late and retried, so a run can be started at any time with any
arguments, and a run that is never continued has crashed.

## Main results

- `evolves_step`: what a step can change in the peers' rows.
- `runFrom_of_get?_step`: what a step can change in the runs.
-/

namespace ProxmoxIaas.WireGuard

/-- A run of `destroy_wireguard_peer_task`. -/
structure PeerDestroy where
  /-- The peer to destroy. -/
  peerId : ℕ
  /-- The client that is deleted from OPNsense. -/
  client : Option String
  deriving DecidableEq, Repr

/-- The committed database, OPNsense, and the runs in flight. -/
structure State where
  /-- The committed database. -/
  db : WireGuardDb
  /-- The clients on OPNsense, by uuid. -/
  clients : Table String WgClient
  /-- Runs of `provision_wireguard_peer_task`. -/
  runs : Table ℕ PeerRun
  /-- Runs of `destroy_wireguard_peer_task`. -/
  destroys : Table ℕ PeerDestroy

/-- The steps of the system. Runs are named by a number of the caller's choice. -/
inductive Event where
  /-- `create_peer`. -/
  | createPeer (tenantId tunnelId : ℕ) (name : String) (endpoint : Option String)
      (keepalive : Option ℕ)
  /-- A first, retried or redelivered run commits its start. -/
  | startPeer (run : ℕ) (arguments : PeerArguments) (retries : ℕ)
  /-- A run has generated its keys and chooses the address. -/
  | allocatePeerIp (run : ℕ) (keys : PeerKeys)
  /-- OPNsense adds the client; `located` tells whether the call finds it afterwards. -/
  | addWgClient (run : ℕ) (uuid : String) (located : Bool)
  /-- A run commits the registration. -/
  | registerPeer (run : ℕ)
  /-- A run commits the active status. -/
  | activatePeer (run : ℕ)
  /-- A run takes its error path. -/
  | failPeer (run : ℕ) (message : String)
  /-- A run that has failed for the last time removes the peer. -/
  | removePeer (run : ℕ)
  /-- A run of the destroy task loads its peer. -/
  | openDestroy (run : ℕ) (arguments : PeerArguments)
  /-- A run of the destroy task deletes the client from OPNsense. -/
  | delWgClient (run : ℕ)
  /-- A run of the destroy task deletes the peer. -/
  | destroyPeer (run : ℕ)

/-- A run goes on to another phase. -/
def State.setPhase (s : State) (run : ℕ) (phase : PeerPhase) : State :=
  { s with runs := s.runs.modify run fun peerRun => { peerRun with phase } }

/-- A request that raises leaves the database as it was. -/
def createStep (s : State) (tenantId tunnelId : ℕ) (name : String) (endpoint : Option String)
    (keepalive : Option ℕ) : State :=
  match createPeer s.db tenantId tunnelId name endpoint keepalive with
  | .error _ => s
  | .ok (_, db) => { s with db }

/-- Start a run, unless the task returns at once. -/
def startStep (s : State) (run : ℕ) (arguments : PeerArguments) (retries : ℕ) : State :=
  match ProxmoxIaas.startPeer s.db arguments with
  | none => s
  | some (.error message) =>
    { s with runs := s.runs.insert run ⟨arguments, retries, .raised message⟩ }
  | some (.ok db) => { s with db, runs := s.runs.insert run ⟨arguments, retries, .started⟩ }

/-- Choose the address of the peer of a started run. -/
def allocateStep (s : State) (run : ℕ) (keys : PeerKeys) : State :=
  match s.runs.get? run with
  | some { arguments, phase := .started, .. } =>
    s.setPhase run (allocatePhase s.db arguments keys)
  | _ => s

/-- Add a client to OPNsense, under a uuid that was not used before. If the call does not find
the client again, composing its error text raises an error of its own. -/
def addClientStep (s : State) (run : ℕ) (uuid : String) (located : Bool) : State :=
  match s.runs.get? run with
  | some { arguments, phase := .allocated peer keys peerIp, .. } =>
    match s.db.tunnels.get? arguments.tunnelId with
    | some tunnel =>
      if s.clients.get? uuid = none then
        let phase := if located then .added peer keys peerIp uuid
          else .raised "name 'clients' is not defined"
        { s.setPhase run phase with
          clients := s.clients.insert uuid (wgClient tunnel peer keys peerIp) }
      else s
    | none => s
  | _ => s

/-- The error of an update whose row is gone. -/
def staleData : PeerPhase :=
  .raised "UPDATE statement on table 'wireguard_peers' expected to update 1 row(s); 0 were matched."

/-- Commit the registration of a peer whose client is on OPNsense. -/
def registerStep (s : State) (run : ℕ) : State :=
  match s.runs.get? run with
  | some { arguments, phase := .added peer keys peerIp clientUuid, .. } =>
    match s.db.peers.get? arguments.peerId with
    | some _ =>
      { s.setPhase run .registered with
        db := { s.db with
          peers := s.db.peers.modify arguments.peerId
            (.register peer keys peerIp clientUuid) } }
    | none => s.setPhase run staleData
  | _ => s

/-- Commit the active status of a registered peer. -/
def activateStep (s : State) (run : ℕ) : State :=
  match s.runs.get? run with
  | some { arguments, phase := .registered, .. } =>
    match s.db.peers.get? arguments.peerId with
    | some _ =>
      { s.setPhase run .activated with
        db := { s.db with
          peers := s.db.peers.modify arguments.peerId fun peer =>
            { peer with status := .active, error := none } } }
    | none => s.setPhase run staleData
  | _ => s

/-- Take the error path, with the text of the error that was raised. -/
def failStep (s : State) (run : ℕ) (message : String) : State :=
  match s.runs.get? run with
  | none => s
  | some peerRun =>
    if peerRun.phase = .failed then s
    else
      let (db, removes) := ProxmoxIaas.failPeer s.db peerRun (peerRun.errorText message)
      if removes then { s.setPhase run .failed with db }
      else { s with db, runs := s.runs.erase run }

/-- Remove the peer of a run that has failed for the last time. -/
def removeStep (s : State) (run : ℕ) : State :=
  match s.runs.get? run with
  | some { arguments, phase := .failed, .. } =>
    { s with db := deletePeer s.db arguments.peerId, runs := s.runs.erase run }
  | _ => s

/-- The client that the destroy task deletes from OPNsense, if the tenant has an OPNsense VM
and the peer was registered there. -/
def clientToDelete (db : WireGuardDb) (tenantId : ℕ) (peer : WireGuardPeer) : Option String := do
  let tenant ← db.tenants.get? tenantId
  let _ ← tenant.opnsenseVmId.filter (· ≠ 0)
  let _ ← truthyText tenant.opnsenseApiKey
  truthyText peer.opnsenseClientUuid

/-- Load the peer that a destroy task addresses; the task returns if it is gone. -/
def openDestroyStep (s : State) (run : ℕ) (arguments : PeerArguments) : State :=
  match tunnelPeer? s.db arguments with
  | none => s
  | some peer =>
    { s with
      destroys := s.destroys.insert run
        ⟨arguments.peerId, clientToDelete s.db arguments.tenantId peer⟩ }

/-- Delete the client of a destroyed peer; the call may also fail and be ignored. -/
def delClientStep (s : State) (run : ℕ) : State :=
  match s.destroys.get? run with
  | some { client := some uuid, .. } => { s with clients := s.clients.erase uuid }
  | _ => s

/-- Delete the row of a destroyed peer. -/
def destroyStep (s : State) (run : ℕ) : State :=
  match s.destroys.get? run with
  | some { peerId, .. } =>
    { s with db := deletePeer s.db peerId, destroys := s.destroys.erase run }
  | none => s

/-- The state after a step. -/
def step (s : State) : Event → State
  | .createPeer tenantId tunnelId name endpoint keepalive =>
    createStep s tenantId tunnelId name endpoint keepalive
  | .startPeer run arguments retries => startStep s run arguments retries
  | .allocatePeerIp run keys => allocateStep s run keys
  | .addWgClient run uuid located => addClientStep s run uuid located
  | .registerPeer run => registerStep s run
  | .activatePeer run => activateStep s run
  | .failPeer run message => failStep s run message
  | .removePeer run => removeStep s run
  | .openDestroy run arguments => openDestroyStep s run arguments
  | .delWgClient run => delClientStep s run
  | .destroyPeer run => destroyStep s run

/-- The peer system, started without peers and runs. An active tunnel has been given a row of
the pool, which is seeded with subnets of 24 bits. -/
def machine : Machine State Event where
  init s := (∀ id tunnel, s.db.tunnels.get? id = some tunnel → tunnel.status = .active →
      ∃ x, tunnel.SubnetOf x) ∧
    (∀ id, s.db.peers.get? id = none) ∧ s.runs = ∅ ∧ s.destroys = ∅
  step := step

/-- The row and the address that a registration writes. -/
def writtenAddress (s : State) : Event → Option (ℕ × String)
  | .registerPeer run =>
    match s.runs.get? run with
    | some { arguments, phase := .added peer _ peerIp _, .. } =>
      if peer.allowedIp = peerIp then none else some (arguments.peerId, peerIp)
    | _ => none
  | _ => none

/-- The tunnels stay, peers keep their tunnels, new peers have no address, and at most one peer
is written an address. -/
structure Evolves (db db' : WireGuardDb) (written : Option (ℕ × String)) : Prop where
  /-- The tunnels stay. -/
  tunnels : db'.tunnels = db.tunnels
  /-- The sequence of the peers' ids goes up. -/
  next_le : db.peers.next ≤ db'.peers.next
  /-- Every peer was there before or is new. -/
  rows : ∀ id peer', db'.peers.get? id = some peer' →
    (∃ peer, db.peers.get? id = some peer ∧ peer'.tunnelId = peer.tunnelId ∧
      (peer'.allowedIp = peer.allowedIp ∨ written = some (id, peer'.allowedIp))) ∨
    db.peers.next ≤ id ∧ peer'.allowedIp = ""

namespace Evolves

/-- Nothing changes. -/
theorem refl (db : WireGuardDb) {written : Option (ℕ × String)} : Evolves db db written :=
  ⟨rfl, Nat.le_refl _, fun _ peer hget => Or.inl ⟨peer, hget, rfl, Or.inl rfl⟩⟩

/-- A write onto one peer that leaves its tunnel alone. -/
theorem of_modify {db : WireGuardDb} {written : Option (ℕ × String)} {peerId : ℕ}
    {f : WireGuardPeer → WireGuardPeer} (htunnel : ∀ peer, (f peer).tunnelId = peer.tunnelId)
    (haddress : ∀ peer, (f peer).allowedIp = peer.allowedIp ∨
      written = some (peerId, (f peer).allowedIp)) :
    Evolves db { db with peers := db.peers.modify peerId f } written := by
  refine ⟨rfl, Nat.le_refl _, fun id peer' hget => Or.inl ?_⟩
  rw [Serial.get?_modify] at hget
  split at hget
  case isTrue heq =>
    obtain ⟨peer, hpeer, rfl⟩ := Option.map_eq_some_iff.mp hget
    exact ⟨peer, hpeer, htunnel peer, heq ▸ haddress peer⟩
  case isFalse => exact ⟨peer', hget, rfl, Or.inl rfl⟩

/-- A peer is deleted. -/
theorem of_deletePeer (db : WireGuardDb) (peerId : ℕ) :
    Evolves db (deletePeer db peerId) none := by
  refine ⟨rfl, Nat.le_refl _, fun id peer hget => Or.inl ⟨peer, ?_, rfl, Or.inl rfl⟩⟩
  rw [deletePeer, Serial.get?_deleteWhere] at hget
  exact (Option.filter_eq_some_iff.mp hget).1

/-- `create_peer` inserts a peer without an address. -/
theorem of_createPeer {db db' : WireGuardDb} {tenantId tunnelId peerId : ℕ} {name : String}
    {endpoint : Option String} {keepalive : Option ℕ}
    (h : createPeer db tenantId tunnelId name endpoint keepalive = .ok (peerId, db')) :
    Evolves db db' none := by
  simp only [createPeer, Except.bind_eq_ok_iff, Except.pure_eq_ok_iff, Prod.mk.injEq] at h
  obtain ⟨tunnel, -, -, -, -, -, -, rfl⟩ := h
  refine ⟨rfl, Nat.le_succ _, fun id peer' hget => ?_⟩
  rw [Serial.get?_add] at hget
  split at hget
  case isTrue heq =>
    obtain rfl := Option.some.inj hget
    exact Or.inr ⟨Nat.le_of_eq heq.symm, rfl⟩
  case isFalse => exact Or.inl ⟨peer', hget, rfl, Or.inl rfl⟩

end Evolves

/-- The start of a run writes a status. -/
private theorem evolves_startPeer {db db' : WireGuardDb} {arguments : PeerArguments}
    (h : startPeer db arguments = some (.ok db')) : Evolves db db' none := by
  simp only [startPeer, Option.bind_eq_bind, Option.bind_eq_some_iff, Option.pure_def,
    Option.some.injEq, Except.bind_eq_ok_iff, Except.pure_eq_ok_iff] at h
  obtain ⟨_, -, _, -, _, -, _, -, _, -, rfl⟩ := h
  exact .of_modify (fun _ => rfl) fun _ => Or.inl rfl

/-- The error path writes a status and an error. -/
private theorem evolves_failPeer (db : WireGuardDb) (peerRun : PeerRun) (message : String) :
    Evolves db (failPeer db peerRun message).1 none := by
  unfold failPeer
  split
  case h_1 => exact .refl db
  case h_2 =>
    split
    case isTrue => exact .refl db
    case isFalse => exact .of_modify (fun _ => rfl) fun _ => Or.inl rfl

/-- Apart from registrations, no step writes an address; a registration writes the address that
its run has chosen, unless the session had loaded that very address. -/
theorem evolves_step (s : State) (e : Event) :
    Evolves s.db (step s e).db (writtenAddress s e) := by
  cases e with
  | createPeer tenantId tunnelId name endpoint keepalive =>
    show Evolves s.db (createStep s tenantId tunnelId name endpoint keepalive).db none
    unfold createStep
    split
    case h_1 => exact .refl s.db
    case h_2 hok => exact .of_createPeer hok
  | startPeer run arguments retries =>
    show Evolves s.db (startStep s run arguments retries).db none
    unfold startStep
    split
    case h_1 => exact .refl s.db
    case h_2 => exact .refl s.db
    case h_3 hok => exact evolves_startPeer hok
  | allocatePeerIp run keys =>
    show Evolves s.db (allocateStep s run keys).db none
    unfold allocateStep
    split <;> exact .refl s.db
  | addWgClient run uuid located =>
    show Evolves s.db (addClientStep s run uuid located).db none
    unfold addClientStep
    split
    case h_1 =>
      split
      case h_1 => split <;> exact .refl s.db
      case h_2 => exact .refl s.db
    case h_2 => exact .refl s.db
  -- the registration is the only write of an address
  | registerPeer run =>
    show Evolves s.db (registerStep s run).db (writtenAddress s (.registerPeer run))
    unfold registerStep writtenAddress
    split
    case h_1 arguments _ peer keys peerIp clientUuid hrun =>
      simp only [hrun]
      split
      case h_1 stored hstored =>
        refine .of_modify (fun _ => rfl) fun _ => ?_
        -- the session leaves the column as it is if it has loaded the value that it assigns
        rw [WireGuardPeer.register_allowedIp]
        split
        case isTrue => exact Or.inl rfl
        case isFalse => exact Or.inr rfl
      case h_2 => exact .refl s.db
    case h_2 => exact .refl s.db
  | activatePeer run =>
    show Evolves s.db (activateStep s run).db none
    unfold activateStep
    split
    case h_1 =>
      split
      case h_1 => exact .of_modify (fun _ => rfl) fun _ => Or.inl rfl
      case h_2 => exact .refl s.db
    case h_2 => exact .refl s.db
  | failPeer run message =>
    show Evolves s.db (failStep s run message).db none
    unfold failStep
    split
    case h_1 => exact .refl s.db
    case h_2 peerRun _ =>
      split
      case isTrue => exact .refl s.db
      case isFalse =>
        dsimp only
        split <;> exact evolves_failPeer s.db peerRun _
  | removePeer run =>
    show Evolves s.db (removeStep s run).db none
    unfold removeStep
    split
    case h_1 => exact .of_deletePeer s.db _
    case h_2 => exact .refl s.db
  | openDestroy run arguments =>
    show Evolves s.db (openDestroyStep s run arguments).db none
    unfold openDestroyStep
    split <;> exact .refl s.db
  | delWgClient run =>
    show Evolves s.db (delClientStep s run).db none
    unfold delClientStep
    split <;> exact .refl s.db
  | destroyPeer run =>
    show Evolves s.db (destroyStep s run).db none
    unfold destroyStep
    split
    case h_1 => exact .of_deletePeer s.db _
    case h_2 => exact .refl s.db

/-- Where a run comes from that is in flight in a step's outcome: it was in flight before, with
the address it has now if it has one, or it has just been started for a peer of its tunnel, or
it has just chosen its address. -/
def RunFrom (s : State) (run : ℕ) (peerRun : PeerRun) : Prop :=
  (∃ before, s.runs.get? run = some before ∧ peerRun.arguments = before.arguments ∧
    (peerRun.phase.address? = before.phase.address? ∨ peerRun.phase.address? = none)) ∨
  (tunnelPeer? s.db peerRun.arguments).isSome ∧ peerRun.phase.address? = none ∨
  ∃ before keys, s.runs.get? run = some before ∧ peerRun.arguments = before.arguments ∧
    peerRun.phase = allocatePhase s.db peerRun.arguments keys

/-- A run that is not touched. -/
private theorem RunFrom.same {s : State} {run : ℕ} {peerRun : PeerRun}
    (h : s.runs.get? run = some peerRun) : RunFrom s run peerRun :=
  Or.inl ⟨peerRun, h, rfl, Or.inl rfl⟩

/-- A run that goes on to a phase without a new address. -/
private theorem RunFrom.of_setPhase {s : State} {run run' : ℕ} {phase : PeerPhase}
    {before peerRun : PeerRun} (hbefore : s.runs.get? run = some before)
    (haddress : phase.address? = before.phase.address? ∨
      phase.address? = none)
    (h : (s.setPhase run phase).runs.get? run' = some peerRun) : RunFrom s run' peerRun := by
  simp only [State.setPhase, Table.get?_modify] at h
  split at h
  case isTrue heq =>
    rw [heq, hbefore, Option.map_some, Option.some.injEq] at h
    exact Or.inl ⟨before, heq ▸ hbefore, h ▸ rfl, h ▸ haddress⟩
  case isFalse => exact .same h

/-- A run that is removed leaves the others as they were. -/
private theorem RunFrom.of_erase {s : State} {run run' : ℕ} {peerRun : PeerRun}
    (h : Table.get? (s.runs.erase run) run' = some peerRun) : RunFrom s run' peerRun := by
  obtain ⟨-, h⟩ := Table.get?_erase_eq_some.mp h
  exact .same h

/-- A started task has found its peer in its tunnel. -/
private theorem tunnelPeer?_of_startPeer {db : WireGuardDb} {arguments : PeerArguments}
    {result : Except String WireGuardDb} (h : startPeer db arguments = some result) :
    (tunnelPeer? db arguments).isSome := by
  simp only [startPeer, Option.bind_eq_bind, Option.bind_eq_some_iff] at h
  obtain ⟨_, -, _, -, peer, hpeer, -⟩ := h
  rw [hpeer, Option.isSome_some]

/-- A step starts runs, lets runs choose their addresses, and otherwise keeps their
addresses. -/
theorem runFrom_of_get?_step {s : State} {e : Event} {run : ℕ} {peerRun : PeerRun}
    (h : (step s e).runs.get? run = some peerRun) : RunFrom s run peerRun := by
  cases e with
  | createPeer tenantId tunnelId name endpoint keepalive =>
    have hsame : (createStep s tenantId tunnelId name endpoint keepalive).runs = s.runs := by
      unfold createStep
      split <;> rfl
    exact .same (hsame ▸ h)
  | startPeer run' arguments retries =>
    change (startStep s run' arguments retries).runs.get? run = some peerRun at h
    -- A run that raises at its start has found its peer, like one that goes on.
    unfold startStep at h
    split at h
    case h_1 => exact .same h
    case h_2 hstart =>
      rcases Table.get?_insert_eq_some.mp h with ⟨-, rfl⟩ | ⟨-, h⟩
      · exact Or.inr (Or.inl ⟨tunnelPeer?_of_startPeer hstart, rfl⟩)
      · exact .same h
    case h_3 hstart =>
      rcases Table.get?_insert_eq_some.mp h with ⟨-, rfl⟩ | ⟨-, h⟩
      · exact Or.inr (Or.inl ⟨tunnelPeer?_of_startPeer hstart, rfl⟩)
      · exact .same h
  | allocatePeerIp run' keys =>
    change (allocateStep s run' keys).runs.get? run = some peerRun at h
    unfold allocateStep at h
    split at h
    case h_1 before =>
      simp only [State.setPhase, Table.get?_modify] at h
      split at h
      case isTrue heq =>
        rw [heq, before, Option.map_some, Option.some.injEq] at h
        exact Or.inr (Or.inr ⟨_, keys, heq ▸ before, h ▸ rfl, h ▸ rfl⟩)
      case isFalse => exact .same h
    case h_2 => exact .same h
  | addWgClient run' uuid located =>
    change (addClientStep s run' uuid located).runs.get? run = some peerRun at h
    unfold addClientStep at h
    split at h
    case h_1 before =>
      split at h
      case h_1 =>
        split at h
        case isTrue =>
          refine .of_setPhase before ?_ h
          cases located
          · exact Or.inr rfl
          · exact Or.inl rfl
        case isFalse => exact .same h
      case h_2 => exact .same h
    case h_2 => exact .same h
  | registerPeer run' =>
    change (registerStep s run').runs.get? run = some peerRun at h
    unfold registerStep at h
    split at h
    case h_1 before =>
      split at h
      case h_1 => exact .of_setPhase before (Or.inr rfl) h
      case h_2 => exact .of_setPhase before (Or.inr rfl) h
    case h_2 => exact .same h
  | activatePeer run' =>
    change (activateStep s run').runs.get? run = some peerRun at h
    unfold activateStep at h
    split at h
    case h_1 before =>
      split at h
      case h_1 => exact .of_setPhase before (Or.inr rfl) h
      case h_2 => exact .of_setPhase before (Or.inr rfl) h
    case h_2 => exact .same h
  | failPeer run' message =>
    change (failStep s run' message).runs.get? run = some peerRun at h
    unfold failStep at h
    split at h
    case h_1 => exact .same h
    case h_2 before hbefore =>
      split at h
      case isTrue => exact .same h
      case isFalse =>
        dsimp only at h
        split at h
        case isTrue => exact .of_setPhase hbefore (Or.inr rfl) h
        case isFalse => exact .of_erase h
  | removePeer run' =>
    change (removeStep s run').runs.get? run = some peerRun at h
    unfold removeStep at h
    split at h
    case h_1 => exact .of_erase h
    case h_2 => exact .same h
  | openDestroy run' arguments =>
    have hsame : (openDestroyStep s run' arguments).runs = s.runs := by
      unfold openDestroyStep
      split <;> rfl
    exact .same (hsame ▸ h)
  | delWgClient run' =>
    have hsame : (delClientStep s run').runs = s.runs := by
      unfold delClientStep
      split <;> rfl
    exact .same (hsame ▸ h)
  | destroyPeer run' =>
    have hsame : (destroyStep s run').runs = s.runs := by
      unfold destroyStep
      split <;> rfl
    exact .same (hsame ▸ h)

end ProxmoxIaas.WireGuard
