import ProxmoxIaas.WireGuard.System

/-!
# Addresses of WireGuard Peers

The allocator skips the addresses that it finds among the stored ones, but it looks only at
texts with a prefix length, and the task stores addresses without one. So every peer of a tunnel
is given the address after the gateway, and the addresses of a tunnel are different exactly when
at most one of its peers has one.

## Main results

- `addresses_first`: in every run, the address of every peer is the one after the gateway.
- `peer_addresses_unique`: the addresses are different in every run that registers a peer only
  while no other peer of its tunnel has an address, and allocated addresses are usable in every
  run.
- `peer_addresses_not_unique`: two peers that are provisioned one after the other get the same
  address.
-/

namespace ProxmoxIaas

namespace WireGuard

/-- Any two peers of a tunnel that have an address have different ones. -/
def UniqueAddresses (db : WireGuardDb) : Prop :=
  ∀ id id' peer peer', db.peers.get? id = some peer → db.peers.get? id' = some peer' →
    peer.tunnelId = peer'.tunnelId → peer.allowedIp ≠ "" → peer.allowedIp = peer'.allowedIp →
    id = id'

/-- A text is an address of the tunnel's subnet, and neither its gateway nor its network address
nor its broadcast address. -/
def Usable (tunnel : WireGuardTunnel) (ip : String) : Prop :=
  ∃ net x, Ipv4Net.parse? tunnel.cidr.toList = some net ∧ Ipv4.parse? ip.toList = some x ∧
    x ∈ net ∧ ip ≠ tunnel.gatewayIp ∧ x.value ≠ net.network ∧ x.value ≠ net.broadcast

/-- The addresses of a tunnel's peers are different, and whatever is allocated for an active
tunnel is usable. -/
structure PeerAddresses (db : WireGuardDb) : Prop where
  /-- The addresses are different. -/
  unique : UniqueAddresses db
  /-- An allocated address is usable. -/
  usable : ∀ tunnelId tunnel ip, db.tunnels.get? tunnelId = some tunnel →
    tunnel.status = .active → allocatePeerIp db tunnelId tunnel = .ok ip → Usable tunnel ip

/-- A host of a subnet of 24 bits above the first one is usable. -/
private theorem usable_of_subnetOf {tunnel : WireGuardTunnel} {x : Ipv4} {n : Fin 256}
    (h : tunnel.SubnetOf x) (hlow : 2 ≤ n.val) (hhigh : n.val ≤ 254) :
    Usable tunnel { x with d := n }.text := by
  obtain ⟨hcidr, hgateway⟩ := h
  refine ⟨.ofHost { x with d := 0 } 24 (by decide), { x with d := n }, ?_,
    Ipv4.parse?_text _, (Ipv4Net.mem_slash24_iff _).mpr ⟨rfl, rfl, rfl⟩, ?_, ?_, ?_⟩
  · rw [hcidr, String.toList_append]
    exact Ipv4Net.parse?_text { x with d := 0 } (n := 24) (by decide)
  · -- Texts of different addresses are read as different addresses.
    rw [hgateway]
    intro heq
    have hparse := congrArg (fun text : String => Ipv4.parse? text.toList) heq
    simp only [Ipv4.parse?_text, Option.some.injEq, Ipv4.mk.injEq, Fin.ext_iff] at hparse
    have : n.val = 1 := hparse.2.2.2
    omega
  · simp only [Ipv4Net.ofHost, Ipv4.value]
    have hsize : 2 ^ (32 - 24) = 256 := rfl
    rw [hsize]
    have hzero : ((0 : Fin 256) : ℕ) = 0 := rfl
    omega
  · simp only [Ipv4Net.ofHost, Ipv4Net.broadcast, Ipv4Net.size, Ipv4.value]
    have hsize : 2 ^ (32 - 24) = 256 := rfl
    rw [hsize]
    have hzero : ((0 : Fin 256) : ℕ) = 0 := rfl
    omega

/-- If no address of the tunnel's peers has a prefix length, the allocator sees none. -/
private theorem existingIps_eq_nil {db : WireGuardDb} {tunnelId : ℕ}
    (h : ∀ id peer, db.peers.get? id = some peer → peer.tunnelId = tunnelId →
      '/' ∉ peer.allowedIp.toList) : existingIps db tunnelId = [] := by
  refine List.filterMap_eq_nil_iff.mpr fun r hr => ?_
  obtain ⟨hget, htunnel⟩ := Table.mem_select.mp hr
  exact if_neg (h r.1 r.2 hget (of_decide_eq_true htunnel))

/-- In a tunnel with a subnet of 24 bits, a peer has no address or the one after the gateway. -/
def FirstAddress (db : WireGuardDb) (tunnelId : ℕ) (allowedIp : String) : Prop :=
  ∀ tunnel x, db.tunnels.get? tunnelId = some tunnel → tunnel.SubnetOf x →
    allowedIp = "" ∨ allowedIp = { x with d := 2 }.text

/-- What is known about a run: its peer is in its tunnel as long as it exists, and the address it
has chosen is the peer's own or the one after the gateway. -/
structure RunOk (db : WireGuardDb) (peerRun : PeerRun) : Prop where
  /-- The id of the peer was drawn from the sequence. -/
  peerId_lt : peerRun.arguments.peerId < db.peers.next
  /-- The peer is in the tunnel of the run. -/
  tunnelId : ∀ peer, db.peers.get? peerRun.arguments.peerId = some peer →
    peer.tunnelId = peerRun.arguments.tunnelId
  /-- A peer that was loaded with an address keeps it. -/
  kept : ∀ peer peerIp, peerRun.phase.address? = some (peer, peerIp) → peer.allowedIp ≠ "" →
    peerIp = peer.allowedIp
  /-- The address is the one after the gateway. -/
  first : ∀ peer peerIp, peerRun.phase.address? = some (peer, peerIp) →
    FirstAddress db peerRun.arguments.tunnelId peerIp

/-- The invariant of every run: all addresses are the first of their tunnel. -/
structure Invariant (s : State) : Prop where
  /-- The stored addresses. -/
  peers : ∀ id peer, s.db.peers.get? id = some peer →
    FirstAddress s.db peer.tunnelId peer.allowedIp
  /-- The addresses that runs have chosen. -/
  runs : ∀ run peerRun, s.runs.get? run = some peerRun → RunOk s.db peerRun
  /-- Active tunnels have a subnet of 24 bits. -/
  tunnels : ∀ id tunnel, s.db.tunnels.get? id = some tunnel → tunnel.status = .active →
    ∃ x, tunnel.SubnetOf x

/-- The first address of a tunnel depends on its row only. -/
private theorem FirstAddress.congr {db db' : WireGuardDb} {tunnelId : ℕ} {ip : String}
    (h : FirstAddress db tunnelId ip) (htunnels : db'.tunnels = db.tunnels) :
    FirstAddress db' tunnelId ip := by
  intro tunnel x htunnel
  exact h tunnel x (htunnels ▸ htunnel)

/-- A run stays as it is while the database evolves. -/
private theorem RunOk.evolves {db db' : WireGuardDb} {written : Option (ℕ × String)}
    {peerRun : PeerRun} (h : RunOk db peerRun) (hdb : Evolves db db' written) :
    RunOk db' peerRun where
  peerId_lt := Nat.lt_of_lt_of_le h.peerId_lt hdb.next_le
  tunnelId := by
    intro peer hget
    rcases hdb.rows _ peer hget with ⟨before, hbefore, htunnel, -⟩ | ⟨hnew, -⟩
    · exact htunnel.trans (h.tunnelId before hbefore)
    · exact absurd h.peerId_lt (Nat.not_lt.mpr hnew)
  kept := h.kept
  first peer peerIp haddress := (h.first peer peerIp haddress).congr hdb.tunnels

/-- A run that has just chosen its address keeps the peer's own or takes the first of its
tunnel. -/
private theorem RunOk.of_allocatePhase {s : State} (h : Invariant s) {before peerRun : PeerRun}
    {keys : PeerKeys} (hbefore : RunOk s.db before)
    (harguments : peerRun.arguments = before.arguments)
    (hphase : peerRun.phase = allocatePhase s.db peerRun.arguments keys) :
    RunOk s.db peerRun := by
  refine ⟨harguments ▸ hbefore.peerId_lt, harguments ▸ hbefore.tunnelId, ?_, ?_⟩ <;>
    intro peer peerIp haddress <;>
    obtain ⟨tunnel, hpeer, htunnel, hip⟩ := allocatePhase_address? (hphase ▸ haddress)
  · intro hne
    rcases hip with ⟨-, rfl⟩ | ⟨hempty, -⟩
    · rfl
    · exact absurd hempty hne
  · have hpeerTunnel := hbefore.tunnelId peer (harguments ▸ hpeer)
    rcases hip with ⟨-, rfl⟩ | ⟨-, hok⟩
    · rw [harguments, ← hpeerTunnel]
      exact h.peers _ peer hpeer
    · -- Every stored address is empty or a quad, so none has a prefix length.
      intro tunnel' x htunnel' hsubnet
      obtain rfl := Option.some.inj (htunnel.symm.trans htunnel')
      have hexisting : existingIps s.db peerRun.arguments.tunnelId = [] := by
        refine existingIps_eq_nil fun id other hother hsame => ?_
        rcases h.peers id other hother tunnel x (hsame ▸ htunnel) hsubnet with hip | hip
        · rw [hip]
          exact List.not_mem_nil
        · rw [hip]
          exact Ipv4.slash_not_mem_text _
      rw [allocatePeerIp_of_existingIps_eq_nil hsubnet hexisting] at hok
      exact Or.inr (Except.ok.inj hok).symm

/-- The runs in flight stay as they should be. -/
private theorem Invariant.runOk_step {s : State} {e : Event} (h : Invariant s) {run : ℕ}
    {peerRun : PeerRun} (hrun : (step s e).runs.get? run = some peerRun) :
    RunOk s.db peerRun := by
  rcases runFrom_of_get?_step hrun with
    ⟨before, hbefore, harguments, haddress⟩ | ⟨hpeer, haddress⟩ |
      ⟨before, keys, hbefore, harguments, hphase⟩
  · have hok := h.runs run before hbefore
    refine ⟨harguments ▸ hok.peerId_lt, harguments ▸ hok.tunnelId, ?_, ?_⟩ <;>
      intro peer peerIp hnow <;>
      rcases haddress with hsame | hnone
    · exact hok.kept peer peerIp (hsame ▸ hnow)
    · rw [hnone] at hnow
      cases hnow
    · rw [harguments]
      exact hok.first peer peerIp (hsame ▸ hnow)
    · rw [hnone] at hnow
      cases hnow
  · -- A new run has found its peer, which is in its tunnel.
    obtain ⟨peer, hfound⟩ := Option.isSome_iff_exists.mp hpeer
    obtain ⟨hget, htunnel⟩ := Option.filter_eq_some_iff.mp hfound
    refine ⟨(Serial.bound_of_get? hget).2, ?_, ?_, ?_⟩
    · intro other hother
      obtain rfl := Option.some.inj (hget.symm.trans hother)
      exact of_decide_eq_true htunnel
    · intro peer peerIp hnow
      rw [haddress] at hnow
      cases hnow
    · intro peer peerIp hnow
      rw [haddress] at hnow
      cases hnow
  · exact .of_allocatePhase h (h.runs run before hbefore) harguments hphase

/-- The address that a registration writes is the first of the tunnel. -/
private theorem Invariant.first_of_written {s : State} {e : Event} (h : Invariant s)
    {id : ℕ} {ip : String} (hwritten : writtenAddress s e = some (id, ip)) {peer : WireGuardPeer}
    (hpeer : s.db.peers.get? id = some peer) : FirstAddress s.db peer.tunnelId ip := by
  unfold writtenAddress at hwritten
  split at hwritten
  case h_1 run =>
    split at hwritten
    case h_1 hrun =>
      split at hwritten
      case isTrue => cases hwritten
      case isFalse =>
        obtain ⟨rfl, rfl⟩ := Prod.mk.inj (Option.some.inj hwritten)
        have hok := h.runs run _ hrun
        rw [hok.tunnelId peer hpeer]
        exact hok.first _ _ rfl
    case h_2 => cases hwritten
  case h_2 => cases hwritten

/-- One step keeps all addresses the first of their tunnel. -/
private theorem Invariant.step {s : State} {e : Event} (h : Invariant s) :
    Invariant (step s e) := by
  have hdb := evolves_step s e
  refine ⟨?_, ?_, ?_⟩
  · intro id peer' hpeer'
    rcases hdb.rows id peer' hpeer' with
      ⟨peer, hpeer, htunnel, haddress | hwritten⟩ | ⟨-, hempty⟩
    · rw [htunnel, haddress]
      exact (h.peers id peer hpeer).congr hdb.tunnels
    · rw [htunnel]
      exact (h.first_of_written hwritten hpeer).congr hdb.tunnels
    · intro tunnel x _ _
      exact Or.inl hempty
  · intro run peerRun hrun
    exact (h.runOk_step hrun).evolves hdb
  · intro id tunnel htunnel
    exact h.tunnels id tunnel (hdb.tunnels ▸ htunnel)

/-- In every run the invariant holds. -/
private theorem invariant_of_reachable {s : State} {ok : State → Event → Prop}
    (h : machine.Reachable ok s) : Invariant s := by
  refine h.invariant Invariant ?_ fun s e hs _ => hs.step
  rintro s ⟨htunnels, hpeers, hruns, -⟩
  refine ⟨?_, ?_, htunnels⟩
  · intro id peer hpeer
    rw [hpeers id] at hpeer
    cases hpeer
  · intro run peerRun hrun
    rw [hruns] at hrun
    cases hrun

/-- In every run, a peer that has an address has the one after the gateway of its tunnel. -/
theorem addresses_first {s : State} (h : machine.Reachable Machine.anyStep s) {id : ℕ}
    {peer : WireGuardPeer} {tunnel : WireGuardTunnel} {x : Ipv4}
    (hpeer : s.db.peers.get? id = some peer)
    (htunnel : s.db.tunnels.get? peer.tunnelId = some tunnel) (hsubnet : tunnel.SubnetOf x)
    (haddress : peer.allowedIp ≠ "") : peer.allowedIp = { x with d := 2 }.text :=
  ((invariant_of_reachable h).peers id peer hpeer tunnel x htunnel hsubnet).resolve_left haddress

/-- Another peer of a peer's tunnel has an address. -/
def otherAddress (db : WireGuardDb) (peerId : ℕ) (peer : WireGuardPeer) : Bool :=
  (db.peers.first? fun id other =>
    id ≠ peerId ∧ other.tunnelId = peer.tunnelId ∧ other.allowedIp ≠ "").isSome

/-- The condition on a step: a registration of a peer that its session had loaded without an
address happens only while no other peer of the tunnel has one, or after the peer is gone. -/
def registersFirst (s : State) : Event → Bool
  | .registerPeer run => (s.runs.get? run).all fun peerRun =>
    match peerRun.phase with
    | .added loaded _ _ _ =>
      loaded.allowedIp ≠ "" ||
        (s.db.peers.get? peerRun.arguments.peerId).all fun peer =>
          !otherAddress s.db peerRun.arguments.peerId peer
    | _ => true
  | _ => true

/-- A step that meets the condition writes no address next to another one. -/
private theorem Invariant.alone_of_written {s : State} {e : Event} (h : Invariant s)
    (hok : registersFirst s e = true) {id id' : ℕ} {ip : String}
    (hwritten : writtenAddress s e = some (id, ip)) {peer peer' : WireGuardPeer}
    (hpeer : s.db.peers.get? id = some peer) (hpeer' : s.db.peers.get? id' = some peer')
    (htunnel : peer'.tunnelId = peer.tunnelId) (haddress : peer'.allowedIp ≠ "") : id' = id := by
  unfold writtenAddress at hwritten
  split at hwritten
  case h_1 run =>
    split at hwritten
    case h_1 arguments _ loaded _ _ _ hrun =>
      split at hwritten
      case isTrue => cases hwritten
      case isFalse hchanged =>
        obtain ⟨rfl, rfl⟩ := Prod.mk.inj (Option.some.inj hwritten)
        -- The session had loaded the peer without an address, since the address has changed.
        have hempty : loaded.allowedIp = "" := by
          by_contra hne
          exact hchanged ((h.runs run _ hrun).kept _ _ rfl hne).symm
        simp only [registersFirst, hrun, Option.all_some, hempty, ne_eq, not_true_eq_false,
          decide_false, Bool.false_or, hpeer, otherAddress, Bool.not_eq_true',
          Option.isSome_eq_false_iff, Option.isNone_iff_eq_none, Serial.first?_eq_none_iff] at hok
        by_contra hne
        have hother := hok id' peer' hpeer'
        simp [hne, htunnel, haddress] at hother
    case h_2 => cases hwritten
  case h_2 => cases hwritten

/-- A step that meets the condition keeps the addresses different. -/
private theorem UniqueAddresses.step {s : State} {e : Event} (h : UniqueAddresses s.db)
    (hinv : Invariant s) (hok : registersFirst s e = true) :
    UniqueAddresses (step s e).db := by
  have hdb := evolves_step s e
  intro id id' peer peer' hpeer hpeer' htunnel haddress hsame
  have haddress' : peer'.allowedIp ≠ "" := hsame ▸ haddress
  -- A peer with an address is no new one.
  rcases hdb.rows id peer hpeer with ⟨old, hold, hoTunnel, hoAddress⟩ | ⟨-, hempty⟩
  case inr => exact absurd hempty haddress
  rcases hdb.rows id' peer' hpeer' with ⟨old', hold', hoTunnel', hoAddress'⟩ | ⟨-, hempty⟩
  case inr => exact absurd hempty haddress'
  have holdTunnel : old.tunnelId = old'.tunnelId :=
    hoTunnel.symm.trans (htunnel.trans hoTunnel')
  rcases hoAddress with hkeep | hwritten
  · rcases hoAddress' with hkeep' | hwritten'
    · exact h id id' old old' hold hold' holdTunnel (hkeep ▸ haddress)
        (hkeep ▸ hkeep' ▸ hsame)
    · exact hinv.alone_of_written hok hwritten' hold' hold holdTunnel (hkeep ▸ haddress)
  · rcases hoAddress' with hkeep' | hwritten'
    · exact (hinv.alone_of_written hok hwritten hold hold' holdTunnel.symm
        (hkeep' ▸ haddress')).symm
    · rw [hwritten, Option.some.injEq, Prod.mk.injEq] at hwritten'
      exact hwritten'.1

/-- In every run that registers a peer only while no other peer of its tunnel has an address, the
addresses of a tunnel are different, and whatever is allocated for an active tunnel is usable. -/
theorem peer_addresses_unique {s : State}
    (h : machine.Reachable (fun s e => registersFirst s e = true) s) : PeerAddresses s.db where
  unique := by
    have hboth : Invariant s ∧ UniqueAddresses s.db := by
      refine h.invariant (fun s => Invariant s ∧ UniqueAddresses s.db) ?_ ?_
      · intro s hinit
        have hstart : machine.Reachable Machine.anyStep s := .start hinit
        refine ⟨invariant_of_reachable hstart, ?_⟩
        intro id id' peer peer' hpeer
        rw [hinit.2.1 id] at hpeer
        cases hpeer
      · rintro s e ⟨hinv, hunique⟩ hok
        exact ⟨hinv.step, hunique.step hinv hok⟩
    exact hboth.2
  usable := by
    intro tunnelId tunnel ip htunnel hactive hok
    obtain ⟨x, hsubnet⟩ := (invariant_of_reachable h).tunnels tunnelId tunnel htunnel hactive
    obtain ⟨n, hlow, hhigh, -, rfl⟩ := allocatePeerIp_eq_ok hsubnet hok
    exact usable_of_subnetOf hsubnet hlow hhigh

/-- An active tunnel with the first subnet of the pool. -/
def smallTunnel : WireGuardTunnel where
  tenantId := 1
  opnsenseServerUuid := some "server"
  cidr := "10.200.0.0/24"
  gatewayIp := "10.200.0.1"
  peerKeepalive := some 25
  status := .active

/-- One tenant with one active tunnel. -/
def smallState : State where
  db :=
    { tenants := Serial.empty.add
        { status := .active
          isVerified := true
          bridgeId := some 100
          podId := some 1
          opnsenseVmId := some 10000
          opnsenseVmName := some "VM_OPNsense_1"
          lanIp := some "172.16.0.1"
          wanIp := some "198.51.100.7"
          opnsenseApiKey := some "key"
          opnsenseApiSecret := some "secret"
          error := none }
      tunnels := Serial.empty.add smallTunnel
      peers := .empty }
  clients := ∅
  runs := ∅
  destroys := ∅

/-- The small state is an initial state. -/
theorem init_smallState : machine.init smallState := by
  refine ⟨fun id tunnel htunnel _ => ?_, fun _ => rfl, rfl, rfl⟩
  simp only [smallState, Serial.get?_add, Serial.get?_empty] at htunnel
  split at htunnel
  · obtain rfl := Option.some.inj htunnel
    exact ⟨⟨10, 200, 0, 0⟩, by decide, by decide⟩
  · cases htunnel

/-- The first peer of the tunnel is created and provisioned, up to its registration. -/
def firstPeer : List Event :=
  [.createPeer 1 1 "laptop" none none, .startPeer 0 ⟨1, 1, 1⟩ 0,
    .allocatePeerIp 0 ⟨"pub", "priv", "psk", "enc"⟩, .addWgClient 0 "client" true,
    .registerPeer 0]

/-- A second peer is created and provisioned, up to its registration. -/
def secondPeer : List Event :=
  [.createPeer 1 1 "phone" none none, .startPeer 1 ⟨1, 1, 2⟩ 0,
    .allocatePeerIp 1 ⟨"pub2", "priv2", "psk2", "enc2"⟩, .addWgClient 1 "client2" true,
    .registerPeer 1]

/-- The second peer is provisioned after the first one is destroyed. -/
theorem peer_addresses_unique_small : PeerAddresses (machine.run smallState
    (firstPeer ++ [.activatePeer 0, .openDestroy 0 ⟨1, 1, 1⟩, .delWgClient 0, .destroyPeer 0] ++
      secondPeer)).db :=
  peer_addresses_unique ((Machine.Reachable.start init_smallState).run (by decide +kernel))

/-- Two peers are provisioned one after the other. -/
theorem peer_addresses_not_unique :
    ¬ ∀ s, machine.Reachable Machine.anyStep s → PeerAddresses s.db := by
  intro h
  have hunique := (h _ (Machine.reachable_run init_smallState (firstPeer ++ secondPeer))).unique
  have hsame : (1 : ℕ) = 2 :=
    hunique 1 2 _ _ rfl rfl rfl (by decide +kernel) (by decide +kernel)
  exact absurd hsame (by decide)

end WireGuard

end ProxmoxIaas
