import ProxmoxIaas.Foundation.Ipv4
import ProxmoxIaas.Provisioning.Model

/-!
# WireGuard Peers

The rows of WireGuard tunnels and peers, the choice of a peer's address, and the commits of
the task that provisions a peer. A run of the task commits its start, the registration of the
peer and its activation; an error rolls it back, and the last retry removes the peer.

The texts of addresses are read and written character by character, because the allocator
compares what it parses from stored texts.

## Main results

- `searchPeerIp_eq_ok`: the octet that the search over the subnet returns.
- `allocatePeerIp_eq_ok`: an allocated address is a host of the tunnel's subnet and no gateway.
- `allocatePeerIp_of_existingIps_eq_nil`: the address if no peer has one with a prefix length.
- `WireGuardPeer.register_allowedIp`: the address of a peer after its registration.
-/

namespace ProxmoxIaas

/-- The values of `WireGuardTunnel.status`. -/
inductive TunnelStatus where
  | pending
  | provisioning
  | active
  | error
  | destroying
  deriving DecidableEq, Repr

/-- The text stored for the status of a tunnel. -/
def TunnelStatus.text : TunnelStatus → String
  | pending => "pending"
  | provisioning => "provisioning"
  | active => "active"
  | error => "error"
  | destroying => "destroying"

/-- A row of `wireguard_tunnels`: the columns that peers depend on. -/
structure WireGuardTunnel where
  /-- The owner. -/
  tenantId : ℕ
  /-- The server on OPNsense. -/
  opnsenseServerUuid : Option String
  /-- The subnet of the tunnel. -/
  cidr : String
  /-- The server's address inside the tunnel. -/
  gatewayIp : String
  /-- Default keepalive of the peers. -/
  peerKeepalive : Option ℕ
  /-- Lifecycle status. -/
  status : TunnelStatus
  deriving DecidableEq, Repr

/-- A tunnel whose subnet is the /24 of an address, with its first host as the gateway. -/
def WireGuardTunnel.SubnetOf (tunnel : WireGuardTunnel) (x : Ipv4) : Prop :=
  tunnel.cidr = { x with d := 0 }.text ++ "/24" ∧ tunnel.gatewayIp = { x with d := 1 }.text

/-- The values of `WireGuardPeer.status`. -/
inductive PeerStatus where
  | pending
  | provisioning
  | active
  | error
  deriving DecidableEq, Repr

/-- A row of `wireguard_peers`. -/
structure WireGuardPeer where
  /-- The tunnel of the peer. -/
  tunnelId : ℕ
  /-- The client on OPNsense. -/
  opnsenseClientUuid : Option String
  /-- Display name, unique within the tunnel. -/
  name : String
  /-- Public key. -/
  publicKey : String
  /-- Private key, encrypted. -/
  privateKeyEnc : String
  /-- Preshared key, encrypted. -/
  presharedKeyEnc : String
  /-- The address of the peer inside the tunnel; empty until the peer is registered. -/
  allowedIp : String
  /-- Public address of the peer. -/
  endpoint : Option String
  /-- Keepalive in seconds. -/
  keepalive : Option ℕ
  /-- Lifecycle status. -/
  status : PeerStatus
  /-- The text of the last error. -/
  error : Option String
  deriving DecidableEq, Repr

/-- The committed content of the WireGuard tables. -/
structure WireGuardDb where
  /-- Table `tenants`. -/
  tenants : Serial Tenant
  /-- Table `wireguard_tunnels`. -/
  tunnels : Serial WireGuardTunnel
  /-- Table `wireguard_peers`. -/
  peers : Serial WireGuardPeer

/-- The part of an address after its last dot, as an integer. -/
def lastOctet? (address : List Char) : Option ℤ :=
  (Text.afterLast? '.' address).bind Text.int?

/-- The last octets that the peers of a tunnel occupy, as far as the allocator reads them: it
looks only at addresses with a prefix length. -/
def existingIps (db : WireGuardDb) (tunnelId : ℕ) : List ℤ :=
  (db.peers.select fun _ peer => peer.tunnelId = tunnelId).filterMap fun (_, peer) =>
    if '/' ∈ peer.allowedIp.toList then lastOctet? (Text.before '/' peer.allowedIp.toList)
    else none

/-- The first of some octets that is unoccupied and makes an address of the network. -/
def searchPeerIp (network : Ipv4Net) (base : List Char) (existing : List ℤ) :
    List ℤ → Except String (Option String)
  | [] => .ok none
  | octet :: octets =>
    if octet ∈ existing then searchPeerIp network base existing octets
    else
      let address := base ++ '.' :: (toString octet).toList
      match Ipv4.parse? address with
      | none => .error s!"'{String.ofList address
          }' does not appear to be an IPv4 or IPv6 address"
      | some x =>
        if x ∈ network then .ok (some (String.ofList address))
        else searchPeerIp network base existing octets

/-- The octets above a last octet, up to 254. -/
def octetsAbove (lastOctet : ℤ) : List ℤ :=
  (List.range (254 - lastOctet).toNat).map fun (i : ℕ) => lastOctet + 1 + (i : ℤ)

/-- Allocate the next address inside the subnet of a tunnel. -/
def allocatePeerIp (db : WireGuardDb) (tunnelId : ℕ) (tunnel : WireGuardTunnel) :
    Except String String := do
  let network ← Except.ofOption
    s!"'{tunnel.cidr}' does not appear to be an IPv4 or IPv6 network"
    (Ipv4Net.parse? tunnel.cidr.toList)
  let gateway := Text.before '/' tunnel.gatewayIp.toList
  let base := Text.join '.' ((Text.split '.' gateway).take 3)
  let lastPart ← Except.ofOption "list index out of range" (Text.afterLast? '.' gateway)
  let lastOctet ← Except.ofOption
    s!"invalid literal for int() with base 10: '{String.ofList lastPart}'" (Text.int? lastPart)
  let found ← searchPeerIp network base (existingIps db tunnelId) (octetsAbove lastOctet)
  Except.ofOption s!"WireGuard tunnel {tunnelId} subnet {tunnel.cidr} is full" found

/-- `create_peer`: a peer without an address. -/
def createPeer (db : WireGuardDb) (tenantId tunnelId : ℕ) (name : String)
    (endpoint : Option String) (keepalive : Option ℕ) : Except ApiError (ℕ × WireGuardDb) := do
  let tunnel ← Except.ofOption (.http 404 "Tunnel not found")
    ((db.tunnels.get? tunnelId).filter fun tunnel => tunnel.tenantId = tenantId)
  Except.require
    (.http 400 s!"Tunnel is in status '{tunnel.status.text}', not 'active'. Cannot add peer.")
    (tunnel.status = .active)
  Except.require (.http 409 s!"Peer with name '{name}' already exists")
    (db.peers.first? (fun _ peer => peer.tunnelId = tunnelId ∧ peer.name = name) = none)
  return (db.peers.next, { db with
    peers := db.peers.add
      { tunnelId
        opnsenseClientUuid := none
        name
        publicKey := "pending"
        privateKeyEnc := ""
        presharedKeyEnc := ""
        allowedIp := ""
        endpoint
        keepalive := some (((truthy keepalive).or (truthy tunnel.peerKeepalive)).getD 25)
        status := .pending
        error := none } })

/-- The arguments of the tasks that provision and destroy a peer. -/
structure PeerArguments where
  /-- The tenant. -/
  tenantId : ℕ
  /-- The tunnel of the peer. -/
  tunnelId : ℕ
  /-- The peer. -/
  peerId : ℕ
  deriving DecidableEq, Repr

/-- The peer that a task addresses. -/
def tunnelPeer? (db : WireGuardDb) (arguments : PeerArguments) : Option WireGuardPeer :=
  (db.peers.get? arguments.peerId).filter fun peer => peer.tunnelId = arguments.tunnelId

/-- The start of `provision_wireguard_peer_task`: it returns if something is missing, raises
if the tunnel cannot take peers, and otherwise commits that the peer is being provisioned. -/
def startPeer (db : WireGuardDb) (arguments : PeerArguments) :
    Option (Except String WireGuardDb) := do
  let _ ← db.tenants.get? arguments.tenantId
  let tunnel ← (db.tunnels.get? arguments.tunnelId).filter fun tunnel =>
    tunnel.tenantId = arguments.tenantId
  let _ ← tunnelPeer? db arguments
  return do
    Except.require "Tunnel has no OPNsense server UUID; is it provisioned?"
      (truthyText tunnel.opnsenseServerUuid ≠ none)
    Except.require s!"Tunnel is in status {tunnel.status.text}; cannot add peer"
      (tunnel.status = .active)
    return { db with
      peers := db.peers.modify arguments.peerId fun peer =>
        { peer with status := .provisioning } }

/-- The keys of a peer. The encrypted texts are what the encryption returned. -/
structure PeerKeys where
  /-- Public key. -/
  pubkey : String
  /-- Private key, encrypted. -/
  privkeyEnc : String
  /-- Preshared key. -/
  psk : String
  /-- Preshared key, encrypted. -/
  pskEnc : String
  deriving DecidableEq, Repr

/-- A client of a WireGuard server on OPNsense. -/
structure WgClient where
  /-- The server of the client. -/
  serverUuid : String
  /-- Name of the peer. -/
  name : String
  /-- Public key. -/
  pubkey : String
  /-- Preshared key. -/
  psk : String
  /-- The address of the client, with a prefix length. -/
  tunnelAddress : String
  /-- Keepalive in seconds. -/
  keepalive : ℕ
  /-- Public address of the client. -/
  endpoint : String
  deriving DecidableEq, Repr

/-- The client that is registered on OPNsense for a peer. -/
def wgClient (tunnel : WireGuardTunnel) (peer : WireGuardPeer) (keys : PeerKeys)
    (peerIp : String) : WgClient where
  serverUuid := tunnel.opnsenseServerUuid.getD "None"
  name := peer.name
  pubkey := keys.pubkey
  psk := keys.psk
  tunnelAddress := s!"{peerIp}/32"
  keepalive := ((truthy peer.keepalive).or (truthy tunnel.peerKeepalive)).getD 25
  endpoint := peer.endpoint.getD ""

/-- The columns of a peer that its registration writes. Encrypting a text twice gives two
different results, so the keys are always written. -/
def WireGuardPeer.register (loaded : WireGuardPeer) (keys : PeerKeys)
    (peerIp clientUuid : String) (stored : WireGuardPeer) : WireGuardPeer :=
  { stored with
    allowedIp := writeColumn (some loaded) (·.allowedIp) peerIp stored.allowedIp
    opnsenseClientUuid :=
      writeColumn (some loaded) (·.opnsenseClientUuid) (some clientUuid)
        stored.opnsenseClientUuid
    publicKey := writeColumn (some loaded) (·.publicKey) keys.pubkey stored.publicKey
    privateKeyEnc := keys.privkeyEnc
    presharedKeyEnc := keys.pskEnc }

/-- How far a run of `provision_wireguard_peer_task` has come. -/
inductive PeerPhase where
  /-- The provisioning status is committed; the keys are being generated. -/
  | started
  /-- The session has loaded the peer and has an address for it. -/
  | allocated (peer : WireGuardPeer) (keys : PeerKeys) (peerIp : String)
  /-- The client is on OPNsense. -/
  | added (peer : WireGuardPeer) (keys : PeerKeys) (peerIp clientUuid : String)
  /-- The registration is committed. -/
  | registered
  /-- The active status is committed. -/
  | activated
  /-- The run has raised an error. -/
  | raised (message : String)
  /-- The last retry has committed the error status and removes the peer next. -/
  | failed
  deriving DecidableEq, Repr

/-- The peer as its session has loaded it and its address, once the run has chosen one. -/
def PeerPhase.address? : PeerPhase → Option (WireGuardPeer × String)
  | .allocated peer _ peerIp => some (peer, peerIp)
  | .added peer _ peerIp _ => some (peer, peerIp)
  | _ => none

/-- A run of `provision_wireguard_peer_task` between two of its steps. -/
structure PeerRun where
  /-- The arguments of the task. -/
  arguments : PeerArguments
  /-- How often the task was retried before. -/
  retries : ℕ
  /-- How far the run has come. -/
  phase : PeerPhase
  deriving DecidableEq, Repr

/-- The maximal number of retries of the task. -/
def peerMaxRetries : ℕ := 3

/-- A started run loads the peer again, which the commit had expired, and keeps the address of
the peer or allocates one. -/
def allocatePhase (db : WireGuardDb) (arguments : PeerArguments) (keys : PeerKeys) :
    PeerPhase :=
  match db.peers.get? arguments.peerId, db.tunnels.get? arguments.tunnelId with
  | some peer, some tunnel =>
    if peer.allowedIp ≠ "" then .allocated peer keys peer.allowedIp
    else
      match allocatePeerIp db arguments.tunnelId tunnel with
      | .ok peerIp => .allocated peer keys peerIp
      | .error message => .raised message
  | _, _ => .raised "Instance has been deleted, or its row is otherwise not present."

/-- The text of the error that ends a run: the one that was raised, or that of a call that
fails now. -/
def PeerRun.errorText (peerRun : PeerRun) (message : String) : String :=
  match peerRun.phase with
  | .raised raised => raised
  | _ => message

/-- The error path of a run: the peer is left to the next retry, or its error status is
committed. In the latter case the run goes on to remove the peer. -/
def failPeer (db : WireGuardDb) (peerRun : PeerRun) (message : String) : WireGuardDb × Bool :=
  match db.peers.get? peerRun.arguments.peerId with
  | none => (db, false)
  | some _ =>
    -- The column takes 500 characters; a longer text is an error of its own, which is swallowed.
    if peerRun.retries < peerMaxRetries ∨ 500 < message.length then (db, false)
    else
      ({ db with
          peers := db.peers.modify peerRun.arguments.peerId fun peer =>
            { peer with status := .error, error := some message } }, true)

/-- Delete a peer, if it is still there. -/
def deletePeer (db : WireGuardDb) (peerId : ℕ) : WireGuardDb :=
  { db with peers := db.peers.deleteWhere fun id _ => id = peerId }

/-- The search returns an unoccupied octet of its list, as an address of the network. -/
theorem searchPeerIp_eq_ok {network : Ipv4Net} {base : List Char} {existing octets : List ℤ}
    {ip : String} (h : searchPeerIp network base existing octets = .ok (some ip)) :
    ∃ octet ∈ octets, octet ∉ existing ∧
      ip.toList = base ++ '.' :: (toString octet).toList ∧
      ∃ x ∈ network, Ipv4.parse? ip.toList = some x := by
  -- The octets before the one that is returned are occupied or outside the network.
  induction octets with
  | nil => cases h
  | cons octet octets ih =>
    have hlater : searchPeerIp network base existing octets = .ok (some ip) →
        ∃ octet' ∈ octet :: octets, octet' ∉ existing ∧
          ip.toList = base ++ '.' :: (toString octet').toList ∧
          ∃ x ∈ network, Ipv4.parse? ip.toList = some x := by
      intro hfound
      obtain ⟨octet', hmem, hrest⟩ := ih hfound
      exact ⟨octet', List.mem_cons_of_mem _ hmem, hrest⟩
    rw [searchPeerIp] at h
    split at h
    case isTrue => exact hlater h
    case isFalse hexisting =>
      dsimp only at h
      split at h
      case h_1 => cases h
      case h_2 x hx =>
        split at h
        case isTrue hmem =>
          obtain rfl := Option.some.inj (Except.ok.inj h)
          refine ⟨octet, List.mem_cons_self, hexisting, String.toList_ofList, x, hmem, ?_⟩
          rw [String.toList_ofList]
          exact hx
        case isFalse => exact hlater h

/-- The octets above a last octet. -/
theorem mem_octetsAbove {lastOctet octet : ℤ} :
    octet ∈ octetsAbove lastOctet ↔ lastOctet < octet ∧ octet ≤ 254 := by
  simp only [octetsAbove, List.mem_map, List.mem_range]
  constructor
  · rintro ⟨i, hi, rfl⟩
    omega
  · intro h
    exact ⟨(octet - lastOctet - 1).toNat, by omega, by omega⟩

/-- The least octet above a last octet comes first. -/
private theorem octetsAbove_eq_cons {lastOctet : ℤ} (h : lastOctet < 254) :
    octetsAbove lastOctet = (lastOctet + 1) :: octetsAbove (lastOctet + 1) := by
  have hlen : (254 - lastOctet).toNat = (254 - (lastOctet + 1)).toNat + 1 := by omega
  unfold octetsAbove
  rw [hlen, List.range_succ_eq_map, List.map_cons, List.map_map]
  congr 1
  · simp
  · refine List.map_congr_left fun i _ => ?_
    simp only [Function.comp_apply, Nat.succ_eq_add_one]
    omega

/-- The characters of an address, with its last octet set apart. -/
private theorem toList_text_withLast (x : Ipv4) (n : Fin 256) :
    { x with d := n }.text.toList =
      Text.join '.' [Text.digits x.a, Text.digits x.b, Text.digits x.c] ++
        '.' :: (toString (n : ℤ)).toList := by
  have hdigits : (toString (n : ℤ)).toList = Text.digits n := by
    have hnat : toString ((n : ℕ) : ℤ) = toString (n : ℕ) := rfl
    simp [hnat, Text.digits]
  rw [Ipv4.toList_text, hdigits]
  simp [Text.join, List.intercalate]

/-- The parts of a gateway's address that the allocator reads. -/
private theorem gateway_parts (x : Ipv4) :
    Text.before '/' x.text.toList = x.text.toList ∧
      (Text.split '.' x.text.toList).take 3 =
        [Text.digits x.a, Text.digits x.b, Text.digits x.c] ∧
      Text.afterLast? '.' x.text.toList = some (Text.digits x.d) := by
  refine ⟨Text.before_of_not_mem x.slash_not_mem_text, ?_, ?_⟩
  · rw [Ipv4.split_text]
    rfl
  · have hdot : '.' ∈ x.text.toList := by
      simp [Ipv4.toList_text, Text.join, List.intercalate]
    rw [Text.afterLast?, if_pos hdot, Ipv4.split_text]
    rfl

/-- In the subnet of a tunnel the allocation is the search over its hosts above the gateway. -/
theorem allocatePeerIp_eq {db : WireGuardDb} {tunnelId : ℕ} {tunnel : WireGuardTunnel} {x : Ipv4}
    (h : tunnel.SubnetOf x) :
    allocatePeerIp db tunnelId tunnel =
      (searchPeerIp (.ofHost { x with d := 0 } 24 (by decide))
        (Text.join '.' [Text.digits x.a, Text.digits x.b, Text.digits x.c])
        (existingIps db tunnelId) (octetsAbove 1)).bind
      (Except.ofOption s!"WireGuard tunnel {tunnelId} subnet {tunnel.cidr} is full") := by
  obtain ⟨hcidr, hgateway⟩ := h
  have hnet : Ipv4Net.parse? tunnel.cidr.toList =
      some (.ofHost { x with d := 0 } 24 (by decide)) := by
    rw [hcidr, String.toList_append]
    exact Ipv4Net.parse?_text { x with d := 0 } (n := 24) (by decide)
  obtain ⟨hbefore, htake, hlast⟩ := gateway_parts { x with d := 1 }
  unfold allocatePeerIp
  rw [hnet, hgateway]
  simp only [hbefore, htake, hlast]
  rfl

/-- An allocated address is an unoccupied host of the tunnel's subnet above its gateway. -/
theorem allocatePeerIp_eq_ok {db : WireGuardDb} {tunnelId : ℕ} {tunnel : WireGuardTunnel}
    {x : Ipv4} {ip : String} (h : tunnel.SubnetOf x)
    (hok : allocatePeerIp db tunnelId tunnel = .ok ip) :
    ∃ n : Fin 256, 2 ≤ n.val ∧ n.val ≤ 254 ∧ (n : ℤ) ∉ existingIps db tunnelId ∧
      ip = { x with d := n }.text := by
  rw [allocatePeerIp_eq h] at hok
  obtain ⟨found, hsearch, hfound⟩ := Except.bind_eq_ok_iff.mp hok
  obtain rfl := Except.ofOption_eq_ok_iff.mp hfound
  obtain ⟨octet, hmem, hexisting, htext, -⟩ := searchPeerIp_eq_ok hsearch
  obtain ⟨hlow, hhigh⟩ := mem_octetsAbove.mp hmem
  lift octet to ℕ using by omega
  refine ⟨⟨octet, by omega⟩, by simp only; omega, by simp only; omega, hexisting, ?_⟩
  exact String.toList_injective (htext.trans (toList_text_withLast x ⟨octet, by omega⟩).symm)

/-- If no peer of the tunnel has an address with a prefix length, the allocation returns the
address after the gateway, whatever addresses the peers have. -/
theorem allocatePeerIp_of_existingIps_eq_nil {db : WireGuardDb} {tunnelId : ℕ}
    {tunnel : WireGuardTunnel} {x : Ipv4} (h : tunnel.SubnetOf x)
    (hexisting : existingIps db tunnelId = []) :
    allocatePeerIp db tunnelId tunnel = .ok { x with d := 2 }.text := by
  have hoctets : octetsAbove 1 = 2 :: octetsAbove 2 := octetsAbove_eq_cons (by decide)
  have haddress : Text.join '.' [Text.digits x.a, Text.digits x.b, Text.digits x.c] ++
      '.' :: (toString (2 : ℤ)).toList = { x with d := 2 }.text.toList :=
    (toList_text_withLast x 2).symm
  have hmem : { x with d := 2 } ∈ Ipv4Net.ofHost { x with d := 0 } 24 (by decide) :=
    (Ipv4Net.mem_slash24_iff _).mpr ⟨rfl, rfl, rfl⟩
  rw [allocatePeerIp_eq h, hexisting, hoctets, searchPeerIp, if_neg List.not_mem_nil]
  simp only [haddress, Ipv4.parse?_text, if_pos hmem, String.ofList_toList]
  rfl

/-- A run that has chosen an address keeps the one its peer has, or has allocated one. -/
theorem allocatePhase_address? {db : WireGuardDb} {arguments : PeerArguments} {keys : PeerKeys}
    {peer : WireGuardPeer} {peerIp : String}
    (h : (allocatePhase db arguments keys).address? = some (peer, peerIp)) :
    ∃ tunnel, db.peers.get? arguments.peerId = some peer ∧
      db.tunnels.get? arguments.tunnelId = some tunnel ∧
      (peer.allowedIp ≠ "" ∧ peerIp = peer.allowedIp ∨
        peer.allowedIp = "" ∧ allocatePeerIp db arguments.tunnelId tunnel = .ok peerIp) := by
  unfold allocatePhase at h
  split at h
  case h_1 loaded tunnel hpeer htunnel =>
    split at h
    case isTrue hne =>
      obtain ⟨rfl, rfl⟩ := Prod.mk.inj (Option.some.inj h)
      exact ⟨tunnel, hpeer, htunnel, Or.inl ⟨hne, rfl⟩⟩
    case isFalse hempty =>
      split at h
      case h_1 ip hok =>
        obtain ⟨rfl, rfl⟩ := Prod.mk.inj (Option.some.inj h)
        exact ⟨tunnel, hpeer, htunnel, Or.inr ⟨not_not.mp hempty, hok⟩⟩
      case h_2 => cases h
  case h_2 => cases h

/-- A registration keeps the address of a peer that had one, and gives the new address to a
peer that had none. -/
theorem WireGuardPeer.register_allowedIp {loaded stored : WireGuardPeer} {keys : PeerKeys}
    {peerIp clientUuid : String} :
    (loaded.register keys peerIp clientUuid stored).allowedIp =
      if loaded.allowedIp = peerIp then stored.allowedIp else peerIp := by
  simp only [register, writeColumn, Option.map_some, Option.some.injEq]

end ProxmoxIaas
