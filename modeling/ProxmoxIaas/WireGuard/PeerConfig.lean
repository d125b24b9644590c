import ProxmoxIaas.Foundation.Ini

/-!
# The Client Configuration of a WireGuard Peer

`get_peer_config` writes the `.conf` file of a peer from the columns of the peer and its tunnel. The
columns `dns` and `endpoint` hold what `create_tunnel` and `update_tunnel` are given, which checks
neither; all others are keys, addresses and numbers of the platform.

## Main results

- `sections?_twoSections_iff`: a file is read back if and only if all its values are on one line,
  without comments, and have no white space at their ends.
- `peerFaithful_iff`: for the file of a peer, these are the columns `dns` and `endpoint`.
-/

namespace ProxmoxIaas.WireGuard.PeerConfig

/-! ### The rows -/

/-- The characters of keys, addresses and networks. -/
def isTokenChar (c : Char) : Bool := c.isAlphanum || c ∈ ['+', '/', '=', '.', ':']

/-- The text of a key, an address or a network. -/
structure Token where
  chars : List Char
  plain : ∀ c ∈ chars, isTokenChar c = true

/-- A row of `wireguard_tunnels`. -/
structure Tunnel where
  tenantId : ℕ
  dns : Option (List Char)
  endpoint : Option (List Char)
  cidr : Token
  publicKey : Token
  peerKeepalive : ℕ
  allowedNetworkIds : List ℕ

/-- What the provisioning task stores in a peer: its keys, which are encrypted in the table, and its
address. -/
structure Provisioned where
  privateKey : Token
  presharedKey : Token
  allowedIp : Token

/-- A row of `wireguard_peers`. -/
structure Peer where
  provisioned : Option Provisioned
  keepalive : ℕ

/-- A row of the tenant's networks. -/
structure TenantNetwork where
  id : ℕ
  tenantId : ℕ
  active : Bool
  cidr : Token

/-! ### The endpoints that store them -/

/-- `WireGuardTunnelCreate`. -/
structure WireGuardTunnelCreate where
  dns : Option (List Char)
  endpoint : Option (List Char)
  peerKeepalive : Option ℕ
  allowedNetworkIds : List ℕ

/-- `WireGuardTunnelUpdate`. -/
structure WireGuardTunnelUpdate where
  dns : Option (List Char)
  endpoint : Option (List Char)
  peerKeepalive : Option ℕ
  allowedNetworkIds : Option (List ℕ)

/-- `a or b` for a number that may be missing: zero counts as missing. -/
def numberOr (n : Option ℕ) (default : ℕ) : ℕ :=
  match n with
  | some (n + 1) => n + 1
  | _ => default

/-- A text that is missing or empty. -/
def isBlank (text : Option (List Char)) : Bool := text.getD [] = []

/-- The key of a tunnel that is not set up. -/
def pending : Token := ⟨"pending".toList, List.all_eq_true.mp rfl⟩

/-- `create_tunnel` with a subnet of the pool. -/
def createTunnel (tenantId : ℕ) (cidr : Token) (body : WireGuardTunnelCreate) : Tunnel where
  tenantId := tenantId
  dns := body.dns
  endpoint := body.endpoint
  cidr := cidr
  publicKey := pending
  peerKeepalive := numberOr body.peerKeepalive 25
  allowedNetworkIds := body.allowedNetworkIds

/-- `provision_wireguard_tunnel_task`: the key of OPNsense, and an endpoint from the WAN address if
there is none. -/
def provisionTunnel (publicKey address : Token) (tunnel : Tunnel) : Tunnel where
  __ := tunnel
  publicKey := publicKey
  endpoint := if isBlank tunnel.endpoint then some address.chars else tunnel.endpoint

/-- `update_tunnel`: what the request has replaces what is stored. -/
def updateTunnel (body : WireGuardTunnelUpdate) (tunnel : Tunnel) : Tunnel where
  __ := tunnel
  dns := body.dns.or tunnel.dns
  endpoint := body.endpoint.or tunnel.endpoint
  peerKeepalive := body.peerKeepalive.getD tunnel.peerKeepalive
  allowedNetworkIds := body.allowedNetworkIds.getD tunnel.allowedNetworkIds

/-- The tunnels that the endpoints and their task store. -/
inductive StoredTunnel : Tunnel → Prop
  | create (tenantId : ℕ) (cidr : Token) (body : WireGuardTunnelCreate) :
    StoredTunnel (createTunnel tenantId cidr body)
  | provision {tunnel : Tunnel} (publicKey address : Token) (h : StoredTunnel tunnel) :
    StoredTunnel (provisionTunnel publicKey address tunnel)
  | update {tunnel : Tunnel} (body : WireGuardTunnelUpdate) (h : StoredTunnel tunnel) :
    StoredTunnel (updateTunnel body tunnel)

/-- `create_peer`. -/
def createPeer (keepalive : Option ℕ) (tunnel : Tunnel) : Peer where
  provisioned := none
  keepalive := numberOr keepalive (numberOr (some tunnel.peerKeepalive) 25)

/-- The peers that the endpoints and their task store. -/
inductive StoredPeer : Peer → Prop
  | create {tunnel : Tunnel} (keepalive : Option ℕ) (h : StoredTunnel tunnel) :
    StoredPeer (createPeer keepalive tunnel)
  | provision {peer : Peer} (provisioned : Provisioned) (h : StoredPeer peer) :
    StoredPeer { peer with provisioned := some provisioned }
  | update {peer : Peer} (keepalive : ℕ) (h : StoredPeer peer) :
    StoredPeer { peer with keepalive := keepalive }

/-! ### The file -/

/-- The line `DNS`, if there is a server. -/
def dnsLine (dns : Option (List Char)) : List (List Char) :=
  if isBlank dns then [] else ["DNS = ".toList ++ dns.getD []]

/-- The text of a file. -/
def conf (privateKey address : List Char) (dns : Option (List Char))
    (publicKey psk endpoint allowedIps : List Char) (keepalive : ℕ) : List Char :=
  (["[Interface]".toList,
      "PrivateKey = ".toList ++ privateKey,
      "Address = ".toList ++ address ++ "/32".toList] ++
    dnsLine dns ++
    [[],
      "[Peer]".toList,
      "PublicKey = ".toList ++ publicKey,
      "PresharedKey = ".toList ++ psk,
      "Endpoint = ".toList ++ endpoint,
      "AllowedIPs = ".toList ++ allowedIps,
      "PersistentKeepalive = ".toList ++ Text.digits keepalive]).flatMap fun line => line ++ ['\n']

/-- `_compute_allowed_ips`: the network of the tunnel and the active networks of its tenant that it
may access. -/
def computeAllowedIps (tunnel : Tunnel) (networks : List TenantNetwork) : List Char :=
  let rows := networks.filter fun network =>
    network.id ∈ tunnel.allowedNetworkIds ∧ network.tenantId = tunnel.tenantId ∧ network.active
  [',', ' '].intercalate (tunnel.cidr.chars ::
    (rows.map fun network => network.cidr.chars).filter (· ≠ []))

/-- `get_peer_config`. A peer without keys has nothing to decrypt, and the response needs an
endpoint. -/
def getPeerConfig (tunnel : Tunnel) (networks : List TenantNetwork) (peer : Peer) :
    Option (List Char) := do
  let provisioned ← peer.provisioned
  let endpoint ← tunnel.endpoint
  return conf provisioned.privateKey.chars provisioned.allowedIp.chars tunnel.dns
    tunnel.publicKey.chars provisioned.presharedKey.chars endpoint
    (computeAllowedIps tunnel networks) peer.keepalive

/-- `_build_peer_config` of the tasks. -/
def buildPeerConfig (peer : Peer) (allowedIp : List Char) (tunnel : Tunnel)
    (serverPubkey serverEndpoint psk clientPrivateKey lanCidr : List Char) : List Char :=
  conf clientPrivateKey allowedIp tunnel.dns serverPubkey psk serverEndpoint
    (if lanCidr = [] then tunnel.cidr.chars else tunnel.cidr.chars ++ ", ".toList ++ lanCidr)
    (numberOr (some peer.keepalive) tunnel.peerKeepalive)

/-! ### The sections that the file is for -/

/-- The entries of the section `[Interface]`; there is no `DNS` without a server. -/
def interfaceEntries (privateKey address : List Char) (dns : Option (List Char)) :
    List Ini.Entry :=
  [("PrivateKey".toList, privateKey), ("Address".toList, address ++ "/32".toList)] ++
    (if isBlank dns then [] else [("DNS".toList, dns.getD [])])

/-- The entries of the section `[Peer]`. -/
def peerEntries (publicKey psk endpoint allowedIps : List Char) (keepalive : ℕ) : List Ini.Entry :=
  [("PublicKey".toList, publicKey), ("PresharedKey".toList, psk), ("Endpoint".toList, endpoint),
    ("AllowedIPs".toList, allowedIps), ("PersistentKeepalive".toList, Text.digits keepalive)]

/-- Reading the file of a peer gives the two sections, with exactly the stored values. -/
def Faithful (d : Ini.Dialect) (tunnel : Tunnel) (networks : List TenantNetwork) (peer : Peer) :
    Prop :=
  ∀ content, getPeerConfig tunnel networks peer = some content →
    ∀ provisioned endpoint, peer.provisioned = some provisioned →
      tunnel.endpoint = some endpoint →
        d.sections? content = some
          [("Interface".toList, interfaceEntries provisioned.privateKey.chars
              provisioned.allowedIp.chars tunnel.dns),
            ("Peer".toList, peerEntries tunnel.publicKey.chars provisioned.presharedKey.chars
              endpoint (computeAllowedIps tunnel networks) peer.keepalive)]

open Ini

/-! ### Reading the file -/

variable {d : Dialect}

/-- The entries of a section are collected one by one. -/
theorem collect_entries (entries : List Entry) (lines : List Line) :
    collect (entries.map (fun entry => .entry entry.1 entry.2) ++ lines) =
      (collect lines).map fun (more, sections) => (entries ++ more, sections) := by
  induction entries with
  | nil => simp
  | cons entry entries ih =>
    rw [List.map_cons, List.cons_append, collect, ih, Option.map_map]
    rfl

/-- A key is a word. -/
def IsKey (key : List Char) : Prop := key ≠ [] ∧ ∀ c ∈ key, c.isAlphanum = true

/-- A line with a key and a value. -/
def entryLine (entry : Entry) : List Char := entry.1 ++ " = ".toList ++ entry.2

/-- A file with two sections. -/
def twoSections (interface peer : List Entry) : List Char :=
  (["[Interface]".toList] ++ interface.map entryLine ++ [[], "[Peer]".toList] ++
    peer.map entryLine).flatMap fun line => line ++ ['\n']

/-- The lines of a file. -/
theorem map_line {interface peer : List Entry}
    (hinterface : interface.map (fun entry => d.line (entryLine entry)) =
      interface.map fun entry => .entry entry.1 entry.2)
    (hpeer : peer.map (fun entry => d.line (entryLine entry)) =
      peer.map fun entry => .entry entry.1 entry.2) :
    (["[Interface]".toList] ++ interface.map entryLine ++ [[], "[Peer]".toList] ++
        peer.map entryLine).map d.line ++ [Line.blank] =
      .heading "Interface".toList :: (interface.map (fun entry => Line.entry entry.1 entry.2) ++
        .blank :: .heading "Peer".toList ::
          (peer.map (fun entry => Line.entry entry.1 entry.2) ++ [Line.blank])) := by
  have hhead : d.line "[Interface]".toList = .heading "Interface".toList :=
    @Dialect.line_heading d "Interface".toList (List.all_eq_true.mp rfl)
  have hnext : d.line "[Peer]".toList = .heading "Peer".toList :=
    @Dialect.line_heading d "Peer".toList (List.all_eq_true.mp rfl)
  simp only [List.map_append, List.map_map, Function.comp_def, List.map_cons, hhead, hnext,
    Dialect.line_nil, hinterface, hpeer, List.cons_append, List.nil_append,
    List.append_assoc]

theorem not_ends_of_ordinary {text : List Char} (h : text.all isOrdinary = true) :
    ∀ c ∈ text, d.ends c = false := fun c hc =>
  (d.ordinary c (List.all_eq_true.mp h c hc)).1

/-- No line of a file ends early. -/
theorem not_ends_of_clean {interface peer : List Entry}
    (hkeys : ∀ entry ∈ interface ++ peer, IsKey entry.1)
    (hclean : ∀ entry ∈ interface ++ peer, d.Clean entry.2) :
    ∀ line ∈ ["[Interface]".toList] ++ interface.map entryLine ++ [[], "[Peer]".toList] ++
      peer.map entryLine, ∀ c ∈ line, d.ends c = false := by
  have hentry : ∀ entry ∈ interface ++ peer, ∀ c ∈ entryLine entry, d.ends c = false := by
    intro entry hentry c hc
    rw [entryLine, List.append_assoc, List.mem_append, List.mem_append] at hc
    rcases hc with hc | hc | hc
    · have hordinary : isOrdinary c = true := by
        rw [isOrdinary, (hkeys entry hentry).2 c hc, Bool.true_or]
      exact (d.ordinary c hordinary).1
    · exact not_ends_of_ordinary rfl c hc
    · exact ((hclean entry hentry).1 c hc).1
  intro line hline
  simp only [List.mem_append, List.mem_cons, List.not_mem_nil, or_false, List.mem_map] at hline
  rcases hline with ((rfl | ⟨entry, hmem, rfl⟩) | rfl | rfl) | ⟨entry, hmem, rfl⟩
  · exact not_ends_of_ordinary rfl
  · exact hentry entry (List.mem_append_left _ hmem)
  · exact fun c hc => absurd hc List.not_mem_nil
  · exact not_ends_of_ordinary rfl
  · exact hentry entry (List.mem_append_right _ hmem)

/-- A file of two sections is read back if and only if all its values are clean. -/
theorem sections?_twoSections_iff {interface peer : List Entry}
    (hkeys : ∀ entry ∈ interface ++ peer, IsKey entry.1) :
    d.sections? (twoSections interface peer) =
        some [("Interface".toList, interface), ("Peer".toList, peer)] ↔
      ∀ entry ∈ interface ++ peer, d.Clean entry.2 := by
  constructor
  · intro h entry hentry
    rcases List.mem_append.mp hentry with hentry | hentry
    · exact @Dialect.clean_of_mem d _ _ h ("Interface".toList, interface)
        (List.mem_cons.mpr (Or.inl rfl)) entry hentry
    · exact @Dialect.clean_of_mem d _ _ h ("Peer".toList, peer)
        (List.mem_cons_of_mem _ (List.mem_singleton.mpr rfl)) entry hentry
  · intro hclean
    have hmap (entries : List Entry) (hentries : ∀ entry ∈ entries, entry ∈ interface ++ peer) :
        entries.map (fun entry => d.line (entryLine entry)) =
          entries.map fun entry => .entry entry.1 entry.2 :=
      List.map_congr_left fun entry hentry =>
        have hmem := hentries entry hentry
        Dialect.line_entry (hkeys entry hmem).1 (hkeys entry hmem).2 (hclean entry hmem)
    have hlines := map_line (hmap interface fun _ => List.mem_append_left _)
      (hmap peer fun _ => List.mem_append_right _)
    have hends := not_ends_of_clean hkeys hclean
    have hsections := Dialect.sections?_lines hends
    rw [hlines] at hsections
    refine hsections.trans ?_
    simp only [collect, collect_entries, Option.map_some, Option.bind_some, List.append_nil,
      if_true]

/-! ### The file of a peer -/

section

variable {privateKey address publicKey psk endpoint allowedIps : List Char}
  {dns : Option (List Char)} {keepalive : ℕ}

theorem conf_eq : conf privateKey address dns publicKey psk endpoint allowedIps keepalive =
    twoSections (interfaceEntries privateKey address dns)
      (peerEntries publicKey psk endpoint allowedIps keepalive) := by
  have hdns : dnsLine dns =
      (if isBlank dns then [] else [("DNS".toList, dns.getD [])]).map entryLine := by
    rw [dnsLine]
    cases isBlank dns <;> rfl
  have hline (key value : List Char) : entryLine (key, value) = key ++ " = ".toList ++ value := rfl
  have hprivate : "PrivateKey = ".toList = "PrivateKey".toList ++ " = ".toList := rfl
  have haddress : "Address = ".toList = "Address".toList ++ " = ".toList := rfl
  have hpublic : "PublicKey = ".toList = "PublicKey".toList ++ " = ".toList := rfl
  have hpsk : "PresharedKey = ".toList = "PresharedKey".toList ++ " = ".toList := rfl
  have hendpoint : "Endpoint = ".toList = "Endpoint".toList ++ " = ".toList := rfl
  have hallowed : "AllowedIPs = ".toList = "AllowedIPs".toList ++ " = ".toList := rfl
  have hkeepalive : "PersistentKeepalive = ".toList =
      "PersistentKeepalive".toList ++ " = ".toList := rfl
  unfold conf twoSections interfaceEntries peerEntries
  refine congrArg (List.flatMap fun line => line ++ ['\n']) ?_
  simp only [hdns, hprivate, haddress, hpublic, hpsk, hendpoint, hallowed, hkeepalive,
    List.map_cons, List.map_nil, hline, List.append_assoc, List.cons_append, List.nil_append]

theorem isKey_of_all {key : List Char} (hne : key.isEmpty = false)
    (hall : key.all Char.isAlphanum = true) : IsKey key :=
  ⟨fun h => by rw [h] at hne; exact Bool.noConfusion hne, List.all_eq_true.mp hall⟩

theorem isKey_entries : ∀ entry ∈ interfaceEntries privateKey address dns ++
    peerEntries publicKey psk endpoint allowedIps keepalive, IsKey entry.1 := by
  have hdns : ∀ entry ∈ (if isBlank dns then [] else [("DNS".toList, dns.getD [])]),
      IsKey entry.1 := by
    cases isBlank dns
    · exact List.forall_mem_singleton.mpr (isKey_of_all rfl rfl)
    · exact fun entry hentry => absurd hentry List.not_mem_nil
  rw [List.forall_mem_append, interfaceEntries, List.forall_mem_append, peerEntries]
  simp only [List.forall_mem_cons, List.not_mem_nil, false_implies, implies_true, and_true]
  exact ⟨⟨⟨isKey_of_all rfl rfl, isKey_of_all rfl rfl⟩, hdns⟩, isKey_of_all rfl rfl,
    isKey_of_all rfl rfl, isKey_of_all rfl rfl, isKey_of_all rfl rfl, isKey_of_all rfl rfl⟩

/-- The values of a file. -/
theorem forall_clean_iff : (∀ entry ∈ interfaceEntries privateKey address dns ++
      peerEntries publicKey psk endpoint allowedIps keepalive, d.Clean entry.2) ↔
    ((d.Clean privateKey ∧ d.Clean (address ++ "/32".toList)) ∧ d.Clean (dns.getD [])) ∧
      d.Clean publicKey ∧ d.Clean psk ∧ d.Clean endpoint ∧ d.Clean allowedIps ∧
        d.Clean (Text.digits keepalive) := by
  have hdns : (∀ entry ∈ (if isBlank dns then [] else [("DNS".toList, dns.getD [])]),
      d.Clean entry.2) ↔ d.Clean (dns.getD []) := by
    split
    case isTrue h =>
      rw [of_decide_eq_true h]
      simp [Dialect.clean_nil]
    case isFalse h => simp
  rw [List.forall_mem_append, interfaceEntries, List.forall_mem_append, hdns]
  simp [peerEntries]

end

/-! ### Values that are always clean -/

theorem isWhitespace_of_isTokenChar {c : Char} (h : isTokenChar c = true) :
    c.isWhitespace = false := by
  rw [isTokenChar, Bool.or_eq_true, decide_eq_true_eq] at h
  rcases h with h | h
  · exact Dialect.isWhitespace_of_isAlphanum h
  · simp only [List.mem_cons, List.not_mem_nil, or_false] at h
    rcases h with rfl | rfl | rfl | rfl | rfl <;> rfl

theorem isOrdinary_of_isTokenChar {c : Char} (h : isTokenChar c = true) : isOrdinary c = true := by
  rw [isTokenChar, Bool.or_eq_true, decide_eq_true_eq] at h
  rcases h with h | h
  · rw [isOrdinary, h, Bool.true_or]
  · simp only [List.mem_cons, List.not_mem_nil, or_false] at h
    rcases h with rfl | rfl | rfl | rfl | rfl <;> rfl

theorem clean_of_ordinary {text : List Char} (h : ∀ c ∈ text, isOrdinary c = true)
    (hhead : ∀ c ∈ text.head?, c.isWhitespace = false)
    (hlast : ∀ c ∈ text.getLast?, c.isWhitespace = false) : d.Clean text :=
  ⟨fun c hc => d.ordinary c (h c hc), Text.strip_eq_self hhead hlast⟩

theorem clean_of_isTokenChar {text : List Char} (h : ∀ c ∈ text, isTokenChar c = true) :
    d.Clean text :=
  clean_of_ordinary (fun c hc => isOrdinary_of_isTokenChar (h c hc))
    (fun c hc => isWhitespace_of_isTokenChar (h c (List.mem_of_mem_head? hc)))
    fun c hc => isWhitespace_of_isTokenChar (h c (List.mem_of_getLast? hc))

theorem clean_address (address : Token) : d.Clean (address.chars ++ "/32".toList) := by
  refine clean_of_isTokenChar fun c hc => ?_
  rcases List.mem_append.mp hc with hc | hc
  · exact address.plain c hc
  · exact List.all_eq_true.mp (show "/32".toList.all isTokenChar = true from rfl) c hc

theorem clean_digits (n : ℕ) : d.Clean (Text.digits n) := by
  refine clean_of_isTokenChar fun c hc => ?_
  have hdigit := Text.isDigit_of_mem_digits hc
  rw [isTokenChar, Char.isAlphanum, hdigit, Bool.or_true, Bool.true_or]

theorem intercalate_ne_nil {first : List Char} (hfirst : first ≠ []) (parts : List (List Char)) :
    [',', ' '].intercalate (first :: parts) ≠ [] := by
  cases parts with
  | nil => simpa [List.intercalate_singleton] using hfirst
  | cons next parts => simp [List.intercalate_cons_cons]

/-- Networks with a comma and a blank between them. -/
theorem ordinary_intercalate {first : List Char} {parts : List (List Char)}
    (hfirst : ∀ c ∈ first, isTokenChar c = true)
    (hparts : ∀ part ∈ parts, part ≠ [] ∧ ∀ c ∈ part, isTokenChar c = true) :
    (∀ c ∈ [',', ' '].intercalate (first :: parts), isOrdinary c = true) ∧
      (∀ c ∈ ([',', ' '].intercalate (first :: parts)).head?, c.isWhitespace = false) ∧
        ∀ c ∈ ([',', ' '].intercalate (first :: parts)).getLast?, c.isWhitespace = false := by
  induction parts generalizing first with
  | nil =>
    rw [List.intercalate_singleton]
    exact ⟨fun c hc => isOrdinary_of_isTokenChar (hfirst c hc),
      fun c hc => isWhitespace_of_isTokenChar (hfirst c (List.mem_of_mem_head? hc)),
      fun c hc => isWhitespace_of_isTokenChar (hfirst c (List.mem_of_getLast? hc))⟩
  | cons next parts ih =>
    obtain ⟨⟨hne, hnext⟩, hparts⟩ := List.forall_mem_cons.mp hparts
    obtain ⟨hordinary, -, hlast⟩ := ih hnext hparts
    rw [List.intercalate_cons_cons, List.append_assoc]
    refine ⟨fun c hc => ?_, fun c hc => ?_, fun c hc => ?_⟩
    · rcases List.mem_append.mp hc with hc | hc
      · exact isOrdinary_of_isTokenChar (hfirst c hc)
      · rcases List.mem_append.mp hc with hc | hc
        · exact List.all_eq_true.mp (show [',', ' '].all isOrdinary = true from rfl) c hc
        · exact hordinary c hc
    · cases first with
      | nil =>
        obtain rfl := Option.some.inj hc
        rfl
      | cons c' first =>
        obtain rfl := Option.some.inj hc
        exact isWhitespace_of_isTokenChar (hfirst _ List.mem_cons_self)
    · refine hlast c ?_
      have hrest := intercalate_ne_nil hne parts
      rw [List.getLast?_append, List.getLast?_append] at hc
      rw [List.getLast?_eq_some_getLast hrest] at hc ⊢
      exact hc

theorem clean_computeAllowedIps (tunnel : Tunnel) (networks : List TenantNetwork) :
    d.Clean (computeAllowedIps tunnel networks) := by
  unfold computeAllowedIps
  extract_lets rows
  have hparts : ∀ part ∈ (rows.map fun network => network.cidr.chars).filter (· ≠ []),
      part ≠ [] ∧ ∀ c ∈ part, isTokenChar c = true := by
    intro part hpart
    obtain ⟨hmem, hne⟩ := List.mem_filter.mp hpart
    obtain ⟨network, -, rfl⟩ := List.mem_map.mp hmem
    exact ⟨of_decide_eq_true hne, network.cidr.plain⟩
  obtain ⟨hordinary, hhead, hlast⟩ := ordinary_intercalate tunnel.cidr.plain hparts
  exact clean_of_ordinary hordinary hhead hlast

theorem getPeerConfig_eq {tunnel : Tunnel} {peer : Peer} {provisioned : Provisioned}
    {endpoint : List Char} (hprovisioned : peer.provisioned = some provisioned)
    (hendpoint : tunnel.endpoint = some endpoint) (networks : List TenantNetwork) :
    getPeerConfig tunnel networks peer = some
      (conf provisioned.privateKey.chars provisioned.allowedIp.chars tunnel.dns
        tunnel.publicKey.chars provisioned.presharedKey.chars endpoint
        (computeAllowedIps tunnel networks) peer.keepalive) := by
  rw [getPeerConfig, hprovisioned, hendpoint]
  rfl

/-- The file of a peer is read back if and only if the columns `dns` and `endpoint` are clean. -/
theorem sections?_getPeerConfig_iff (tunnel : Tunnel) (networks : List TenantNetwork)
    (peer : Peer) (provisioned : Provisioned) (endpoint : List Char) :
    d.sections? (conf provisioned.privateKey.chars provisioned.allowedIp.chars tunnel.dns
        tunnel.publicKey.chars provisioned.presharedKey.chars endpoint
        (computeAllowedIps tunnel networks) peer.keepalive) = some
      [("Interface".toList, interfaceEntries provisioned.privateKey.chars
          provisioned.allowedIp.chars tunnel.dns),
        ("Peer".toList, peerEntries tunnel.publicKey.chars provisioned.presharedKey.chars
          endpoint (computeAllowedIps tunnel networks) peer.keepalive)] ↔
      d.Clean (tunnel.dns.getD []) ∧ d.Clean endpoint := by
  have htokens (token : Token) : d.Clean token.chars := clean_of_isTokenChar token.plain
  rw [conf_eq, sections?_twoSections_iff isKey_entries, forall_clean_iff]
  simp only [htokens, clean_address, clean_digits, clean_computeAllowedIps, true_and, and_true]

/-- The file of every peer that has one is faithful if and only if the columns `dns` and `endpoint`
are clean. -/
theorem peerFaithful_iff (d : Dialect) (tunnel : Tunnel) (networks : List TenantNetwork)
    (peer : Peer) :
    Faithful d tunnel networks peer ↔
      (peer.provisioned ≠ none → ∀ endpoint, tunnel.endpoint = some endpoint →
        d.Clean (tunnel.dns.getD []) ∧ d.Clean endpoint) := by
  constructor
  · intro h hne endpoint hendpoint
    obtain ⟨provisioned, hprovisioned⟩ := Option.ne_none_iff_exists'.mp hne
    have hcontent := getPeerConfig_eq hprovisioned hendpoint networks
    exact (sections?_getPeerConfig_iff tunnel networks peer provisioned endpoint).mp
      (h _ hcontent provisioned endpoint hprovisioned hendpoint)
  · intro h content hcontent provisioned endpoint hprovisioned hendpoint
    rw [getPeerConfig_eq hprovisioned hendpoint networks] at hcontent
    obtain rfl := Option.some.inj hcontent
    have hne : peer.provisioned ≠ none := by
      rw [hprovisioned]
      exact Option.some_ne_none provisioned
    exact (sections?_getPeerConfig_iff tunnel networks peer provisioned endpoint).mpr
      (h hne endpoint hendpoint)

/-- The file that the tasks can build from texts of any kind. -/
theorem sections?_buildPeerConfig_iff (peer : Peer) (allowedIp : List Char) (tunnel : Tunnel)
    (serverPubkey serverEndpoint psk clientPrivateKey lanCidr : List Char) :
    d.sections? (buildPeerConfig peer allowedIp tunnel serverPubkey serverEndpoint psk
        clientPrivateKey lanCidr) = some
      [("Interface".toList, interfaceEntries clientPrivateKey allowedIp tunnel.dns),
        ("Peer".toList, peerEntries serverPubkey psk serverEndpoint
          (if lanCidr = [] then tunnel.cidr.chars else tunnel.cidr.chars ++ ", ".toList ++ lanCidr)
          (numberOr (some peer.keepalive) tunnel.peerKeepalive))] ↔
      ((d.Clean clientPrivateKey ∧ d.Clean (allowedIp ++ "/32".toList)) ∧
        d.Clean (tunnel.dns.getD [])) ∧ d.Clean serverPubkey ∧ d.Clean psk ∧
          d.Clean serverEndpoint ∧ d.Clean (if lanCidr = [] then tunnel.cidr.chars else
            tunnel.cidr.chars ++ ", ".toList ++ lanCidr) := by
  rw [buildPeerConfig, conf_eq, sections?_twoSections_iff isKey_entries, forall_clean_iff]
  simp only [clean_digits, and_true]

/-- How `wg-quick` reads a file: a number sign starts a comment. -/
def wgQuick : Dialect where
  ends := (· == '\n')
  comment := (· == '#')
  ends_newline := rfl
  ordinary := by
    intro c hc
    constructor
    · rw [beq_eq_false_iff_ne]
      rintro rfl
      exact absurd hc (by decide)
    · rw [beq_eq_false_iff_ne]
      rintro rfl
      exact absurd hc (by decide)

/-- A key, and a network. -/
def sampleKey : Token := ⟨"c2VjcmV0".toList, List.all_eq_true.mp rfl⟩

def sampleNet : Token := ⟨"10.200.0.0".toList, List.all_eq_true.mp rfl⟩

/-- The request that stores a line of its own. -/
def postUp : WireGuardTunnelUpdate where
  dns := some "1.1.1.1\nPostUp = reboot".toList
  endpoint := none
  peerKeepalive := none
  allowedNetworkIds := none

/-- An update of the servers brings a line with it. -/
theorem not_peerFaithful : ¬ ∀ (d : Dialect) (tunnel : Tunnel) (networks : List TenantNetwork)
    (peer : Peer), StoredTunnel tunnel → StoredPeer peer → Faithful d tunnel networks peer := by
  intro h
  have hcreated := StoredTunnel.create 1 sampleNet ⟨none, none, none, [1]⟩
  have htunnel := StoredTunnel.update postUp (StoredTunnel.provision sampleKey sampleNet hcreated)
  have hpeer := StoredPeer.provision ⟨sampleKey, sampleKey, sampleNet⟩
    (StoredPeer.create none hcreated)
  have hfaithful := h wgQuick _ [] _ htunnel hpeer
  have hclean := (sections?_getPeerConfig_iff _ _ _ _ _).mp (hfaithful _
    (getPeerConfig_eq rfl rfl []) _ sampleNet.chars rfl rfl)
  exact absurd (hclean.1.1 '\n' (by decide)).1 (by decide)

end ProxmoxIaas.WireGuard.PeerConfig
