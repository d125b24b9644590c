import Mathlib.Data.List.Sort
import ProxmoxIaas.Foundation.Result
import ProxmoxIaas.Provisioning.Ipam
import ProxmoxIaas.WireGuard.Model

/-!
# WireGuard Tunnels

The pool of subnets for tunnels, the endpoint that creates a tunnel, and the commits of the tasks
that provision and destroy one. Two services hand out subnets, each from its own pool, and
neither reads the pool of the other.

The destroy task loads the tunnel again after its first commit and then talks to OPNsense, so
what it gives back is what it had loaded by then.

## Main results

- `allocateTunnelSubnet_eq_ok`: an allocation takes a free row of the pool.
- `createTunnel_eq_ok`, `destroyTunnel_eq_some`: what a committed request or run changed.
- `wireguardSubnets_slash24`, `wireguardSubnets_overflow`: the seeded subnets of tunnels are
  overflow subnets of tenant networks too.
-/

namespace ProxmoxIaas

/-- A row of `wireguard_ip_pool`. -/
structure WireGuardPool where
  /-- The subnet. -/
  cidr : String
  /-- The gateway address of the subnet. -/
  gatewayIp : String
  /-- Whether the subnet is allocated. -/
  status : PoolStatus
  /-- Back-pointer to the tunnel that uses the subnet. -/
  wireguardTunnelId : Option ℕ
  deriving DecidableEq, Repr

/-- Mark a subnet as allocated. -/
def WireGuardPool.allocate (row : WireGuardPool) : WireGuardPool :=
  { row with status := .allocated }

/-- Set the back-pointer of a subnet. -/
def WireGuardPool.link (tunnelId : ℕ) (row : WireGuardPool) : WireGuardPool :=
  { row with wireguardTunnelId := some tunnelId }

/-- Mark a subnet as free. -/
def WireGuardPool.release (row : WireGuardPool) : WireGuardPool :=
  { row with status := .free, wireguardTunnelId := none }

/-- A row of `wireguard_tunnels`, with the columns that its provisioning uses. -/
structure Tunnel where
  /-- The owner. -/
  tenantId : ℕ
  /-- Display name, unique within the tenant. -/
  name : String
  /-- The server on OPNsense. -/
  opnsenseServerUuid : Option String
  /-- UDP port of the server. -/
  listenPort : Option ℕ
  /-- MTU of the server. -/
  mtu : Option ℕ
  /-- Name servers of the clients. -/
  dns : Option String
  /-- The server's address with its prefix length. -/
  tunnelAddress : String
  /-- The subnet. -/
  cidr : String
  /-- The server's address. -/
  gatewayIp : String
  /-- The pooled subnet the tunnel uses. -/
  poolId : Option ℕ
  /-- Public key of the server. -/
  publicKey : String
  /-- Private key of the server. -/
  privateKey : String
  /-- Public address of the server. -/
  endpoint : Option String
  /-- The OPNsense interface of the tunnel. -/
  optInterface : Option String
  /-- Lifecycle status. -/
  status : TunnelStatus
  /-- The text of the last error. -/
  error : Option String
  /-- Default keepalive of the peers. -/
  peerKeepalive : Option ℕ
  /-- The networks that the peers may reach. -/
  allowedNetworkIds : List ℕ
  deriving DecidableEq, Repr

/-- The committed content of the tables that tunnels are made of. -/
structure TunnelDb where
  /-- Table `wireguard_ip_pool`. -/
  pool : Serial WireGuardPool
  /-- Table `wireguard_tunnels`. -/
  tunnels : Serial Tunnel

/-! ## The pool -/

/-- The default network of all tunnels, `10.200.0.0/14`. -/
def wireguardNetwork : Ipv4Net := .ofHost ⟨10, 200, 0, 0⟩ 14 (by decide)

/-- The subnets of a network that are seeded for tunnels. -/
def wireguardSubnets (network : Ipv4Net) : List WireGuardPool :=
  (network.subnets 24 (by decide)).map fun sub =>
    { cidr := sub.text
      gatewayIp := (Ipv4.ofValue (sub.network + 1)).text
      status := .free
      wireguardTunnelId := none }

/-- Seed the pool of tunnels. A row whose CIDR is stored already is skipped. -/
def seedWireguardPool (pool : Serial WireGuardPool) (network : Ipv4Net) : Serial WireGuardPool :=
  pool.addAllDistinct (·.cidr) (wireguardSubnets network)

/-- The first free subnet that is not locked. -/
def freeTunnelSubnet? (db : TunnelDb) (locked : List ℕ) : Option (ℕ × WireGuardPool) :=
  db.pool.first? fun id row => id ∉ locked ∧ row.status = .free

/-- Allocate the next free subnet for a tunnel. -/
def allocateTunnelSubnet (db : TunnelDb) (locked : List ℕ) :
    Except ApiError ((ℕ × WireGuardPool) × TunnelDb) :=
  match freeTunnelSubnet? db locked with
  | some (id, row) => .ok ((id, row), { db with pool := db.pool.modify id .allocate })
  | none => .error (.valueError
      "WireGuard IP pool exhausted — add more rows to wireguard_ip_pool or expand WIREGUARD_GLOBAL_POOL_CIDR")

/-- Return a subnet to the pool. -/
def releaseTunnelSubnet (db : TunnelDb) (poolId : ℕ) : TunnelDb :=
  { db with pool := db.pool.modify poolId .release }

/-! ## Creation -/

/-- The body of a request to create a tunnel, after its validation. -/
structure TunnelCreate where
  /-- Display name. -/
  name : String
  /-- UDP port. -/
  listenPort : Option ℕ
  /-- MTU. -/
  mtu : Option ℕ
  /-- Name servers of the clients. -/
  dns : Option String
  /-- Public address of the server. -/
  endpoint : Option String
  /-- Default keepalive of the peers. -/
  peerKeepalive : Option ℕ
  /-- The networks that the peers may reach. -/
  allowedNetworkIds : List ℕ
  deriving DecidableEq, Repr

/-- The default UDP port, `WIREGUARD_DEFAULT_LISTEN_PORT`. -/
def defaultListenPort : ℕ := 51820

/-- The ports of the tunnels of a tenant that are active or being provisioned. -/
def existingPorts (db : TunnelDb) (tenantId : ℕ) : List ℕ :=
  (db.tunnels.select fun _ tunnel =>
    tunnel.tenantId = tenantId ∧ tunnel.status ∈ [TunnelStatus.active, .provisioning]).filterMap
      fun (_, tunnel) => truthy tunnel.listenPort

/-- The first port from some port on that is not in a list, within some number of attempts. -/
def portFrom (existing : List ℕ) (port : ℕ) : ℕ → ℕ
  | 0 => port
  | attempts + 1 => if port ∈ existing then portFrom existing (port + 1) attempts else port

/-- The port of a tunnel: the given one, or the first one that is not used. As many attempts as
there are used ports suffice. -/
def chooseListenPort (db : TunnelDb) (tenantId : ℕ) (listenPort : Option ℕ) : ℕ :=
  let existing := existingPorts db tenantId
  (truthy listenPort).getD (portFrom existing defaultListenPort existing.length)

/-- A request to create a tunnel that has passed its checks. -/
structure TunnelRequest where
  /-- The tenant. -/
  tenantId : ℕ
  /-- The body. -/
  body : TunnelCreate
  /-- The allowed networks, sorted. -/
  allowedNetworkIds : List ℕ
  /-- The port of the tunnel. -/
  listenPort : ℕ
  deriving DecidableEq, Repr

/-- `check_network_quota`: the quota counts networks, and a tunnel is held to it. -/
def networkQuotaCheck (db : Db) (tenantId : ℕ) (maxNetworks : Option ℕ) : Except ApiError Unit :=
  let current := (db.tenantNetworks.select fun _ network =>
    network.tenantId = tenantId ∧ network.status = .active).length
  match maxNetworks with
  | none => .ok ()
  | some limit => Except.require
      (.http 429 s!"Quota exceeded for max_networks: limit={limit}, current={current}, requested=1")
      (current + 1 ≤ limit)

/-- The checks of `create_tunnel`, for a tenant whose settings limit its networks. -/
def createTunnelCheck (db : Db) (wg : TunnelDb) (tenantId : ℕ) (maxNetworks : Option ℕ)
    (body : TunnelCreate) : Except ApiError TunnelRequest := do
  let tenant ← Except.ofOption (.http 404 "Tenant not found") (db.tenants.get? tenantId)
  Except.require (.http 400 "OPNsense is not configured for this tenant")
    (tenant.opnsenseVmId.filter (· ≠ 0) ≠ none)
  Except.require (.http 409 s!"Tunnel with name '{body.name}' already exists")
    (wg.tunnels.first? (fun _ tunnel => tunnel.tenantId = tenantId ∧ tunnel.name = body.name) =
      none)
  networkQuotaCheck db tenantId maxNetworks
  let validIds := (db.tenantNetworks.select fun id network => network.tenantId = tenantId ∧
    id ∈ body.allowedNetworkIds ∧ network.status = .active).map (·.1)
  let invalidIds := (body.allowedNetworkIds.filter (· ∉ validIds)).dedup
  Except.require
    (.http 400 s!"Invalid or inactive network IDs: {invalidIds.insertionSort (· ≤ ·)}")
    (invalidIds = [])
  return {
    tenantId
    body
    allowedNetworkIds := validIds.insertionSort (· ≤ ·)
    listenPort := chooseListenPort wg tenantId body.listenPort }

/-- The row that `create_tunnel` inserts. -/
def newTunnel (request : TunnelRequest) (poolId : ℕ) (poolRow : WireGuardPool) : Tunnel where
  tenantId := request.tenantId
  name := request.body.name
  opnsenseServerUuid := none
  listenPort := some request.listenPort
  mtu := some ((truthy request.body.mtu).getD 1420)
  dns := request.body.dns
  tunnelAddress := s!"{poolRow.gatewayIp}/24"
  cidr := poolRow.cidr
  gatewayIp := poolRow.gatewayIp
  poolId := some poolId
  publicKey := "pending"
  privateKey := "pending"
  endpoint := request.body.endpoint
  optInterface := none
  status := .pending
  error := none
  peerKeepalive := some ((truthy request.body.peerKeepalive).getD 25)
  allowedNetworkIds := request.allowedNetworkIds

/-- The commit of `create_tunnel`: the tunnel gets a subnet of its own. -/
def createTunnel (db : Db) (wg : TunnelDb) (locked : List ℕ) (request : TunnelRequest) :
    Except ApiError (ℕ × TunnelDb) := do
  let (subnet, wg) ← allocateTunnelSubnet wg locked
  Except.require integrityError (wg.tunnels.first? (fun _ tunnel =>
    tunnel.tenantId = request.tenantId ∧ tunnel.name = request.body.name) = none)
  Except.require integrityError ((db.tenants.get? request.tenantId).isSome = true)
  let tunnelId := wg.tunnels.next
  return (tunnelId, {
    pool := wg.pool.modify subnet.1 (.link tunnelId)
    tunnels := wg.tunnels.add (newTunnel request subnet.1 subnet.2) })

/-! ## Provisioning -/

/-- The arguments of the tasks that provision and destroy a tunnel. -/
structure TunnelArguments where
  /-- The tenant. -/
  tenantId : ℕ
  /-- The tunnel. -/
  tunnelId : ℕ
  deriving DecidableEq, Repr

/-- The tunnel that a task addresses. -/
def tenantTunnel? (wg : TunnelDb) (arguments : TunnelArguments) : Option Tunnel :=
  (wg.tunnels.get? arguments.tunnelId).filter fun tunnel => tunnel.tenantId = arguments.tenantId

/-- The start of `provision_wireguard_tunnel_task`: it returns if something is missing or the
tunnel is active, raises if the tenant is not provisioned, and otherwise commits that the tunnel
is being provisioned. -/
def startTunnel (db : Db) (wg : TunnelDb) (arguments : TunnelArguments) :
    Option (Except String TunnelDb) := do
  let tenant ← db.tenants.get? arguments.tenantId
  if tenant.opnsenseVmId.filter (· ≠ 0) = none ∨ truthyText tenant.opnsenseApiKey = none ∨
      truthyText tenant.opnsenseApiSecret = none then
    return .error s!"Tenant {arguments.tenantId} is not fully provisioned (no OPNsense VM/API)"
  else
    let tunnel ← tenantTunnel? wg arguments
    Option.require (tunnel.status ≠ .active)
    return .ok { wg with
      tunnels := wg.tunnels.modify arguments.tunnelId fun tunnel =>
        { tunnel with status := .provisioning, error := none } }

/-- Give a tunnel the subnet of a pool row. -/
def Tunnel.setSubnet (poolId : ℕ) (poolRow : WireGuardPool) (tunnel : Tunnel) : Tunnel :=
  { tunnel with
    poolId := some poolId
    cidr := poolRow.cidr
    gatewayIp := poolRow.gatewayIp
    tunnelAddress := s!"{poolRow.gatewayIp}/24" }

/-- A started run loads the tunnel again. A tunnel without a subnet gets one, which is
committed. -/
def provideSubnet (wg : TunnelDb) (locked : List ℕ) (arguments : TunnelArguments) :
    Except ApiError (Tunnel × TunnelDb) := do
  let tunnel ← Except.ofOption
    (.valueError "Instance has been deleted, or its row is otherwise not present.")
    (wg.tunnels.get? arguments.tunnelId)
  match truthy tunnel.poolId with
  | some _ => return (tunnel, wg)
  | none =>
    let (subnet, wg) ← allocateTunnelSubnet wg locked
    return (tunnel.setSubnet subnet.1 subnet.2, {
      pool := wg.pool.modify subnet.1 (.link arguments.tunnelId)
      tunnels := wg.tunnels.modify arguments.tunnelId (.setSubnet subnet.1 subnet.2) })

/-- What a run has chosen and received for the server of its tunnel. -/
structure TunnelServer where
  /-- UDP port. -/
  listenPort : ℕ
  /-- MTU. -/
  mtu : ℕ
  /-- The server on OPNsense. -/
  serverUuid : String
  /-- Public key. -/
  publicKey : String
  /-- Private key. -/
  privateKey : String
  deriving DecidableEq, Repr

/-- The public address of a tunnel's server. -/
def tunnelEndpoint (db : Db) (arguments : TunnelArguments) (tunnel : Tunnel) (listenPort : ℕ) :
    Option String :=
  (truthyText tunnel.endpoint).or
    (((db.tenants.get? arguments.tenantId).bind fun tenant => truthyText tenant.wanIp).map
      fun wanIp => s!"{wanIp}:{listenPort}")

/-- The columns that a run writes once the server is on OPNsense. -/
def Tunnel.serve (loaded : Tunnel) (server : TunnelServer) (endpoint : String)
    (stored : Tunnel) : Tunnel :=
  { stored with
    listenPort := writeColumn (some loaded) (·.listenPort) (some server.listenPort)
      stored.listenPort
    mtu := writeColumn (some loaded) (·.mtu) (some server.mtu) stored.mtu
    opnsenseServerUuid := writeColumn (some loaded) (·.opnsenseServerUuid)
      (some server.serverUuid) stored.opnsenseServerUuid
    publicKey := writeColumn (some loaded) (·.publicKey) server.publicKey stored.publicKey
    privateKey := writeColumn (some loaded) (·.privateKey) server.privateKey stored.privateKey
    endpoint := writeColumn (some loaded) (·.endpoint) (some endpoint) stored.endpoint }

/-- How far a run of `provision_wireguard_tunnel_task` has come. -/
inductive TunnelPhase where
  /-- The provisioning status is committed; the keys are being generated. -/
  | started
  /-- The session has loaded the tunnel with its subnet. -/
  | located (tunnel : Tunnel)
  /-- The port is chosen. -/
  | numbered (tunnel : Tunnel) (listenPort : ℕ)
  /-- The server is on OPNsense and committed. -/
  | served
  /-- The interface is on OPNsense and committed. -/
  | linked
  /-- The run has raised an error. -/
  | raised (message : String)
  deriving DecidableEq, Repr

/-- A run of `provision_wireguard_tunnel_task` between two of its steps. -/
structure TunnelRun where
  /-- The arguments of the task. -/
  arguments : TunnelArguments
  /-- How far the run has come. -/
  phase : TunnelPhase
  deriving DecidableEq, Repr

/-- The error path of a run: the error status of the tunnel is committed, if it is still there. -/
def failTunnel (wg : TunnelDb) (tunnelId : ℕ) (message : String) : TunnelDb :=
  { wg with
    tunnels := wg.tunnels.modify tunnelId fun tunnel =>
      { tunnel with status := .error, error := some (Text.take 500 message) } }

/-! ## Destruction -/

/-- A run of `destroy_wireguard_tunnel_task`, which has committed that the tunnel is being
destroyed. -/
structure TunnelDestroy where
  /-- The tunnel to destroy. -/
  tunnelId : ℕ
  /-- The tunnel as the run has loaded it after its first commit. -/
  tunnel : Option Tunnel
  deriving DecidableEq, Repr

/-- The first commit of the destroy task, unless it returns because something is missing. -/
def openTunnelDestroy (db : Db) (wg : TunnelDb) (arguments : TunnelArguments) :
    Option TunnelDb := do
  let _ ← db.tenants.get? arguments.tenantId
  let _ ← tenantTunnel? wg arguments
  return { wg with
    tunnels := wg.tunnels.modify arguments.tunnelId fun tunnel =>
      { tunnel with status := .destroying } }

/-- Return the subnet of a tunnel to the pool, if it has one. -/
def releaseTunnelPool (wg : TunnelDb) (tunnel : Tunnel) : TunnelDb :=
  match truthy tunnel.poolId with
  | some poolId => releaseTunnelSubnet wg poolId
  | none => wg

/-- The last commit of the destroy task. Deleting a row that is gone already only logs a warning;
a pool row that still refers to the tunnel makes the commit fail. -/
def destroyTunnel (wg : TunnelDb) (tunnelId : ℕ) (tunnel : Tunnel) : Option TunnelDb :=
  let wg := releaseTunnelPool wg tunnel
  if wg.pool.first? (fun _ row => row.wireguardTunnelId = some tunnelId) = none then
    some { wg with tunnels := wg.tunnels.deleteWhere fun id _ => id = tunnelId }
  else none

/-! ## What an operation does -/

/-- An allocated subnet was the first free one, and nothing else changes. -/
theorem allocateTunnelSubnet_eq_ok {db db' : TunnelDb} {locked : List ℕ} {id : ℕ}
    {row : WireGuardPool} (h : allocateTunnelSubnet db locked = .ok ((id, row), db')) :
    freeTunnelSubnet? db locked = some (id, row) ∧ db.pool.get? id = some row ∧
      row.status = .free ∧ db' = { db with pool := db.pool.modify id .allocate } := by
  unfold allocateTunnelSubnet at h
  split at h
  case h_2 => cases h
  case h_1 id' row' hfound =>
    cases h
    obtain ⟨hget, hcond⟩ := Serial.first?_eq_some hfound
    obtain ⟨-, hfree⟩ := of_decide_eq_true hcond
    exact ⟨hfound, hget, hfree, rfl⟩

/-- A committed `create_tunnel` took the first free subnet and inserted a tunnel that uses it. -/
theorem createTunnel_eq_ok {db : Db} {wg wg' : TunnelDb} {locked : List ℕ}
    {request : TunnelRequest} {tunnelId : ℕ}
    (h : createTunnel db wg locked request = .ok (tunnelId, wg')) :
    ∃ poolId poolRow, freeTunnelSubnet? wg locked = some (poolId, poolRow) ∧
      wg.pool.get? poolId = some poolRow ∧ poolRow.status = .free ∧
      wg' = {
        pool := (wg.pool.modify poolId .allocate).modify poolId (.link wg.tunnels.next)
        tunnels := wg.tunnels.add (newTunnel request poolId poolRow) } := by
  simp only [createTunnel, Except.bind_eq_ok_iff, Except.require_eq_ok_iff,
    Except.pure_eq_ok_iff, Prod.exists, Prod.mk.injEq] at h
  obtain ⟨poolId, poolRow, wg₁, hsubnet, -, -, -, -, -, rfl⟩ := h
  obtain ⟨hfound, hget, hfree, rfl⟩ := allocateTunnelSubnet_eq_ok hsubnet
  exact ⟨poolId, poolRow, hfound, hget, hfree, rfl⟩

/-- A committed start marks the tunnel as being provisioned. -/
theorem startTunnel_eq_some_ok {db : Db} {wg wg' : TunnelDb} {arguments : TunnelArguments}
    (h : startTunnel db wg arguments = some (.ok wg')) :
    wg' = { wg with
      tunnels := wg.tunnels.modify arguments.tunnelId fun tunnel =>
        { tunnel with status := .provisioning, error := none } } := by
  simp only [startTunnel, Option.bind_eq_bind, Option.bind_eq_some_iff] at h
  obtain ⟨tenant, -, h⟩ := h
  split at h
  case isTrue => cases h
  case isFalse =>
    obtain ⟨tunnel, -, h⟩ := Option.bind_eq_some_iff.mp h
    obtain ⟨_, -, h⟩ := Option.bind_eq_some_iff.mp h
    cases h
    rfl

/-- A run loads a tunnel that has a subnet without writing, and gives one to a tunnel without. -/
theorem provideSubnet_eq_ok {wg wg' : TunnelDb} {locked : List ℕ} {arguments : TunnelArguments}
    {tunnel : Tunnel} (h : provideSubnet wg locked arguments = .ok (tunnel, wg')) :
    ∃ stored, wg.tunnels.get? arguments.tunnelId = some stored ∧
      (wg' = wg ∨ truthy stored.poolId = none) := by
  simp only [provideSubnet, Except.bind_eq_ok_iff, Except.ofOption_eq_ok_iff] at h
  obtain ⟨stored, hget, h⟩ := h
  refine ⟨stored, hget, ?_⟩
  cases hpool : truthy stored.poolId with
  | none => exact Or.inr rfl
  | some poolId =>
    rw [hpool] at h
    cases h
    exact Or.inl rfl

/-- The last commit of the destroy task returned the subnet it had loaded and deleted the row. -/
theorem destroyTunnel_eq_some {wg wg' : TunnelDb} {tunnelId : ℕ} {tunnel : Tunnel}
    (h : destroyTunnel wg tunnelId tunnel = some wg') :
    wg' = {
      pool := (releaseTunnelPool wg tunnel).pool
      tunnels := wg.tunnels.deleteWhere fun id _ => id = tunnelId } := by
  simp only [destroyTunnel] at h
  split at h
  case isFalse => cases h
  case isTrue =>
    obtain rfl := Option.some.inj h
    unfold releaseTunnelPool
    split <;> rfl

/-! ## The seeded subnets -/

/-- A subnet that is seeded for tunnels has a prefix of 24 bits, and starts with 10. -/
theorem wireguardSubnets_slash24 {row : WireGuardPool}
    (h : row ∈ wireguardSubnets wireguardNetwork) :
    ∃ x : Ipv4, x.a = 10 ∧ row.cidr = x.slash24 := by
  simp only [wireguardSubnets, Ipv4Net.subnets, List.map_map, List.mem_map] at h
  obtain ⟨i, hi, rfl⟩ := h
  refine ⟨_, ?_, Ipv4.text_ofHost_24 _⟩
  -- The second octet goes from 200 to 203, so the first one does not change.
  have hi' : i < 1024 := List.mem_range.mp hi
  have hnetwork : wireguardNetwork.network = 180879360 := by decide
  simp only [Ipv4.ofValue, hnetwork, Fin.ext_iff, Fin.val_ofNat]
  omega

/-- The seeded subnets of tunnels are overflow subnets of tenant networks too. -/
theorem wireguardSubnets_overflow {row : WireGuardPool}
    (h : row ∈ wireguardSubnets wireguardNetwork) :
    ∃ subnet ∈ overflowSubnets, subnet.cidr = row.cidr := by
  obtain ⟨x, hx, hcidr⟩ := wireguardSubnets_slash24 h
  obtain ⟨subnet, hmem, heq, -⟩ := slash24_mem_overflowSubnets hx
  exact ⟨subnet, hmem, heq.trans hcidr.symm⟩

/-- The rows of a seeded pool of tunnels. -/
theorem seedWireguardPool_mem {id : ℕ} {row : WireGuardPool}
    (h : (seedWireguardPool .empty wireguardNetwork).get? id = some row) :
    row ∈ wireguardSubnets wireguardNetwork := by
  rcases Serial.get?_addAllDistinct h with hempty | hmem
  · cases hempty
  · exact hmem

/-- The CIDR of every seeded row is stored. -/
theorem exists_cidr_seedWireguardPool {row : WireGuardPool}
    (h : row ∈ wireguardSubnets wireguardNetwork) :
    ∃ id row', (seedWireguardPool .empty wireguardNetwork).get? id = some row' ∧
      row'.cidr = row.cidr :=
  Serial.exists_key_addAllDistinct h

/-- Every subnet of the seeded pool of tunnels has a prefix of 24 bits. -/
theorem seedWireguardPool_slash24 {id : ℕ} {row : WireGuardPool}
    (h : (seedWireguardPool .empty wireguardNetwork).get? id = some row) :
    ∃ x : Ipv4, row.cidr = x.slash24 := by
  obtain ⟨x, -, hx⟩ := wireguardSubnets_slash24 (seedWireguardPool_mem h)
  exact ⟨x, hx⟩

/-- Every subnet of the seeded pool of tunnels is free. -/
theorem seedWireguardPool_free {id : ℕ} {row : WireGuardPool}
    (h : (seedWireguardPool .empty wireguardNetwork).get? id = some row) : row.status = .free := by
  obtain ⟨sub, -, rfl⟩ := List.mem_map.mp (seedWireguardPool_mem h)
  rfl

/-- The default network is the one that the seeding is called with. -/
theorem parse?_wireguardNetwork :
    Ipv4Net.parse? "10.200.0.0/14".toList = some wireguardNetwork := by decide +kernel

/-- The seeded subnets of tunnels are different. -/
theorem seedWireguardPool_injective {id id' : ℕ} {row row' : WireGuardPool}
    (h : (seedWireguardPool .empty wireguardNetwork).get? id = some row)
    (h' : (seedWireguardPool .empty wireguardNetwork).get? id' = some row')
    (hcidr : row.cidr = row'.cidr) : id = id' :=
  Serial.key_injective_addAllDistinct (fun _ _ _ _ hk => by cases hk) h h' hcidr

-- A seeded pool is known by these lemmas; its rows are too many to compute with.
attribute [irreducible] seedWireguardPool

end ProxmoxIaas
