import ProxmoxIaas.Provisioning.Exclusivity
import ProxmoxIaas.WireGuard.PoolOwnership

/-!
# Disjoint Networks and Tunnels

The subnets of live tenant networks and of tunnels have no address in common, as long as no
subnet is handed out that the other service has handed out under the same CIDR, and nothing is
given back that somebody else uses. Every seeded subnet of a tunnel is an overflow subnet of
tenant networks too, so the first condition is not implied by the way the pools are seeded.

## Main results

- `DisjointAllocation.step`: one step keeps the two allocations disjoint.
- `networks_and_tunnels_disjoint`: they are disjoint in every state of such a run.
- `networks_and_tunnels_not_disjoint`: they are not in the run in which an approval falls back
  to an overflow subnet that a tunnel uses.
-/

namespace ProxmoxIaas.Tunnels

open Provisioning (smallDb newTenant seeded_smallDb)

/-- The ranges of the live tenant networks and of the tunnels are pairwise disjoint. -/
structure DisjointUse (db : Db) (wg : TunnelDb) : Prop where
  /-- No two live networks overlap. -/
  networks : ∀ i j network network', db.tenantNetworks.get? i = some network →
    db.tenantNetworks.get? j = some network' → network.live = true → network'.live = true →
    i ≠ j → DisjointRanges network.cidr network'.cidr
  /-- No two tunnels overlap. -/
  tunnels : ∀ i j tunnel tunnel', wg.tunnels.get? i = some tunnel →
    wg.tunnels.get? j = some tunnel' → i ≠ j → DisjointRanges tunnel.cidr tunnel'.cidr
  /-- No live network overlaps with a tunnel. -/
  mixed : ∀ i j network tunnel, db.tenantNetworks.get? i = some network →
    wg.tunnels.get? j = some tunnel → network.live = true →
    DisjointRanges network.cidr tunnel.cidr

/-- The subnet of each row of the pool of tunnels. -/
def poolCidr (pool : Serial WireGuardPool) : ℕ → Option String :=
  pool.column fun row => some row.cidr

/-- A text is a range with a prefix of 24 bits. -/
def IsSlash24 (cidr : String) : Prop := ∃ x : Ipv4, cidr = x.slash24

/-- Different ranges of that kind are disjoint. -/
theorem IsSlash24.disjoint {cidr cidr' : String} (h : IsSlash24 cidr) (h' : IsSlash24 cidr')
    (hne : cidr ≠ cidr') : DisjointRanges cidr cidr' := by
  obtain ⟨x, rfl⟩ := h
  obtain ⟨y, rfl⟩ := h'
  exact Ipv4.disjointRanges_slash24 hne

/-- The invariant of the tables of tunnels: the pool is allocated exclusively to the tunnels, and
every tunnel has the subnet of its pool row. -/
structure ExclusiveTunnels (wg : TunnelDb) : Prop where
  /-- Subnets are allocated exclusively. -/
  subnets : wg.pool.rows.AllocatedTo (·.status = .free) (wg.tunnels.column (·.poolId))
  /-- The subnet of a tunnel is the one of its pool row. -/
  tunnel_subnet : ∀ i tunnel, wg.tunnels.get? i = some tunnel →
    ∃ poolId, tunnel.poolId = some poolId ∧ poolCidr wg.pool poolId = some tunnel.cidr
  /-- The pool rows have different subnets. -/
  cidr_unique : ∀ id id' cidr, poolCidr wg.pool id = some cidr →
    poolCidr wg.pool id' = some cidr → id = id'
  /-- The subnets of the pool have a prefix of 24 bits. -/
  ranges : ∀ id cidr, poolCidr wg.pool id = some cidr → IsSlash24 cidr

/-- The invariant of the whole system. -/
structure DisjointAllocation (s : State) : Prop where
  /-- The subnets of tenant networks are allocated exclusively. -/
  lans : Provisioning.ExclusiveNetworks s.base.db
  /-- The subnets of tenant networks have a prefix of 24 bits. -/
  lan_ranges : ∀ id cidr, Provisioning.subnetCidr s.base.db.globalIpPool id = some cidr →
    IsSlash24 cidr
  /-- The subnets of tunnels are allocated exclusively. -/
  tunnels : ExclusiveTunnels s.wg
  /-- A run of the destroy task will return the subnet of its tunnel. -/
  loaded : ∀ run destroy, s.destroys.get? run = some destroy →
    destroy.tunnelId < s.wg.tunnels.next ∧
      ∀ tunnel stored, destroy.tunnel = some tunnel →
        s.wg.tunnels.get? destroy.tunnelId = some stored → stored.poolId = tunnel.poolId
  /-- No live network has the CIDR of a tunnel. -/
  apart : ∀ i j network tunnel, s.base.db.tenantNetworks.get? i = some network →
    s.wg.tunnels.get? j = some tunnel → network.live = true → network.cidr ≠ tunnel.cidr

/-- The invariant says that the ranges are disjoint. -/
theorem DisjointAllocation.disjointUse {s : State} (h : DisjointAllocation s) :
    DisjointUse s.base.db s.wg := by
  have hlan : ∀ i network, s.base.db.tenantNetworks.get? i = some network →
      IsSlash24 network.cidr := by
    intro i network hget
    obtain ⟨subnetId, -, hcidr⟩ := h.lans.network_subnet i network hget
    exact h.lan_ranges subnetId _ hcidr
  have htunnel : ∀ i tunnel, s.wg.tunnels.get? i = some tunnel → IsSlash24 tunnel.cidr := by
    intro i tunnel hget
    obtain ⟨poolId, -, hcidr⟩ := h.tunnels.tunnel_subnet i tunnel hget
    exact h.tunnels.ranges poolId _ hcidr
  constructor
  case networks =>
    intro i j network network' hi hj hlive hlive' hij
    refine (hlan i network hi).disjoint (hlan j network' hj) fun hsame => hij ?_
    exact h.lans.exclusiveUse.cidr_unique i j network network' hi hj hlive hlive' hsame
  case tunnels =>
    intro i j tunnel tunnel' hi hj hij
    refine (htunnel i tunnel hi).disjoint (htunnel j tunnel' hj) fun hsame => hij ?_
    -- Tunnels with one CIDR have one pool row, which only one of them holds.
    obtain ⟨poolId, hpool, hcidr⟩ := h.tunnels.tunnel_subnet i tunnel hi
    obtain ⟨poolId', hpool', hcidr'⟩ := h.tunnels.tunnel_subnet j tunnel' hj
    have hrow := h.tunnels.cidr_unique poolId poolId' _ hcidr (hsame ▸ hcidr')
    exact h.tunnels.subnets.unique i j poolId ((Serial.column_of_get? hi).trans hpool)
      ((Serial.column_of_get? hj).trans (hrow ▸ hpool'))
  case mixed =>
    intro i j network tunnel hi hj hlive
    exact (hlan i network hi).disjoint (htunnel j tunnel hj)
      (h.apart i j network tunnel hi hj hlive)

/-- Some live network has a CIDR. -/
def networkHas (db : Db) (cidr : String) : Bool :=
  (db.tenantNetworks.first? fun _ network => network.live && network.cidr == cidr).isSome

/-- Some tunnel has a CIDR. -/
def tunnelHas (wg : TunnelDb) (cidr : String) : Bool :=
  (wg.tunnels.first? fun _ tunnel => tunnel.cidr == cidr).isSome

/-- The condition on a step: a network is not offered the CIDR of a tunnel or a tunnel that of a
live network, a run of the destroy task returns no subnet that another tunnel has, and the steps
of the provisioning system meet the condition under which its subnets are exclusive. -/
def keepsApart (s : State) : Event → Bool
  | .base e => Provisioning.ownersAct s.base e &&
      (Provisioning.lockedSubnets e).all fun locked =>
        (offeredSubnet? s.base.db locked).all fun subnet => !tunnelHas s.wg subnet.2.cidr
  | .createTunnel _ locked => (freeTunnelSubnet? s.wg locked).all fun poolRow =>
      !networkHas s.base.db poolRow.2.cidr
  | .destroyTunnel run => (s.destroys.get? run).all fun destroy =>
      destroy.tunnel.all fun tunnel => (s.wg.tunnels.first? fun id other =>
        id != destroy.tunnelId && other.poolId == tunnel.poolId).isNone
  | _ => true

/-- Writing a status or a back-pointer does not change the subnets of the pool rows. -/
theorem poolCidr_modify (pool : Serial WireGuardPool) (id : ℕ) {f : WireGuardPool → WireGuardPool}
    (hf : ∀ row, (f row).cidr = row.cidr) : poolCidr (pool.modify id f) = poolCidr pool := by
  refine Serial.column_modify_of_eq fun row _ => ?_
  rw [hf]

/-- Returning the subnet of a tunnel does not change the subnets of the pool rows. -/
theorem poolCidr_release (wg : TunnelDb) (tunnel : Tunnel) :
    poolCidr (releaseTunnelPool wg tunnel).pool = poolCidr wg.pool := by
  unfold releaseTunnelPool
  split
  · exact poolCidr_modify _ _ fun _ => rfl
  · rfl

namespace ExclusiveTunnels

variable {wg : TunnelDb}

/-- The pool is allocated exclusively. -/
theorem exclusivePool (h : ExclusiveTunnels wg) : ExclusivePool wg where
  subnets := h.subnets
  pooled i tunnel hget := by
    obtain ⟨poolId, hpool, -⟩ := h.tunnel_subnet i tunnel hget
    rw [hpool]
    exact Option.some_ne_none poolId

/-- The storage order of the pool does not matter. -/
theorem reorder (h : ExclusiveTunnels wg) (id : ℕ) :
    ExclusiveTunnels { wg with pool := wg.pool.toFront id } := by
  have hget : (wg.pool.toFront id).get? = wg.pool.get? := funext fun _ => Serial.get?_toFront ..
  have hcidr : poolCidr (wg.pool.toFront id) = poolCidr wg.pool := Serial.column_congr hget _
  constructor
  case subnets => exact (h.exclusivePool.reorder id).subnets
  case tunnel_subnet =>
    rw [hcidr]
    exact h.tunnel_subnet
  case cidr_unique =>
    rw [hcidr]
    exact h.cidr_unique
  case ranges =>
    rw [hcidr]
    exact h.ranges

/-- A write to a tunnel that keeps its subnet. -/
theorem write (h : ExclusiveTunnels wg) (tunnelId : ℕ) {f : Tunnel → Tunnel}
    (hf : ∀ tunnel, (f tunnel).poolId = tunnel.poolId ∧ (f tunnel).cidr = tunnel.cidr) :
    ExclusiveTunnels { wg with tunnels := wg.tunnels.modify tunnelId f } := by
  constructor
  case subnets => exact (h.exclusivePool.write tunnelId fun tunnel => (hf tunnel).1).subnets
  case tunnel_subnet =>
    intro i tunnel hget
    rw [Serial.get?_modify] at hget
    split at hget
    case isTrue =>
      obtain ⟨stored, hstored, rfl⟩ := Option.map_eq_some_iff.mp hget
      rw [(hf stored).1, (hf stored).2]
      exact h.tunnel_subnet i stored hstored
    case isFalse => exact h.tunnel_subnet i tunnel hget
  case cidr_unique => exact h.cidr_unique
  case ranges => exact h.ranges

/-- A new tunnel takes a free row of the pool. -/
theorem create (h : ExclusiveTunnels wg) {request : TunnelRequest} {poolId : ℕ}
    {poolRow : WireGuardPool} (hget : wg.pool.get? poolId = some poolRow)
    (hfree : poolRow.status = .free) :
    ExclusiveTunnels {
      pool := (wg.pool.modify poolId .allocate).modify poolId (.link wg.tunnels.next)
      tunnels := wg.tunnels.add (newTunnel request poolId poolRow) } := by
  have hcidr : poolCidr ((wg.pool.modify poolId .allocate).modify poolId
      (.link wg.tunnels.next)) = poolCidr wg.pool := by
    rw [poolCidr_modify, poolCidr_modify] <;> exact fun _ => rfl
  constructor
  case subnets => exact (h.exclusivePool.create hget hfree).subnets
  case tunnel_subnet =>
    intro i tunnel hrow
    rw [hcidr]
    rw [Serial.get?_add] at hrow
    split at hrow
    case isTrue =>
      cases hrow
      exact ⟨poolId, rfl, Serial.column_of_get? hget⟩
    case isFalse => exact h.tunnel_subnet i tunnel hrow
  case cidr_unique =>
    rw [hcidr]
    exact h.cidr_unique
  case ranges =>
    rw [hcidr]
    exact h.ranges

/-- A tunnel is deleted and its subnet, which no other tunnel has, is returned. -/
theorem destroy (h : ExclusiveTunnels wg) {tunnelId : ℕ} {loaded : Tunnel}
    (hloaded : ∀ stored, wg.tunnels.get? tunnelId = some stored → stored.poolId = loaded.poolId)
    (hother : ∀ i other, wg.tunnels.get? i = some other → i ≠ tunnelId →
      other.poolId ≠ loaded.poolId) :
    ExclusiveTunnels {
      pool := (releaseTunnelPool wg loaded).pool
      tunnels := wg.tunnels.deleteWhere fun id _ => id = tunnelId } := by
  have hget : ∀ {i tunnel}, (wg.tunnels.deleteWhere fun id _ => id = tunnelId).get? i =
      some tunnel → wg.tunnels.get? i = some tunnel := by
    intro i tunnel hrow
    rw [Serial.get?_deleteWhere] at hrow
    exact (Option.filter_eq_some_iff.mp hrow).1
  constructor
  case subnets => exact (h.exclusivePool.destroy hloaded hother).subnets
  case tunnel_subnet =>
    intro i tunnel hrow
    rw [poolCidr_release]
    exact h.tunnel_subnet i tunnel (hget hrow)
  case cidr_unique =>
    rw [poolCidr_release]
    exact h.cidr_unique
  case ranges =>
    rw [poolCidr_release]
    exact h.ranges

end ExclusiveTunnels

/-- A live network does not have a CIDR that no live network has. -/
theorem cidr_ne_of_networkHas {db : Db} {cidr : String} (h : networkHas db cidr = false) {i : ℕ}
    {network : TenantNetwork} (hget : db.tenantNetworks.get? i = some network)
    (hlive : network.live = true) : network.cidr ≠ cidr := by
  rw [networkHas, Option.isSome_eq_false_iff, Option.isNone_iff_eq_none,
    Serial.first?_eq_none_iff] at h
  simpa [hlive] using h i network hget

/-- A tunnel does not have a CIDR that no tunnel has. -/
theorem cidr_ne_of_tunnelHas {wg : TunnelDb} {cidr : String} (h : tunnelHas wg cidr = false)
    {i : ℕ} {tunnel : Tunnel} (hget : wg.tunnels.get? i = some tunnel) : tunnel.cidr ≠ cidr := by
  rw [tunnelHas, Option.isSome_eq_false_iff, Option.isNone_iff_eq_none,
    Serial.first?_eq_none_iff] at h
  simpa using h i tunnel hget

namespace DisjointAllocation

variable {s : State}

/-- The pool is allocated exclusively. -/
theorem poolAllocation (h : DisjointAllocation s) : PoolAllocation s where
  pool := h.tunnels.exclusivePool
  loaded := h.loaded

/-- The condition on a step implies that it returns no row of another tunnel. -/
theorem returnsOwn_of_keepsApart {e : Event} (hok : keepsApart s e = true) :
    returnsOwn s e = true := by
  cases e with
  | destroyTunnel run => exact hok
  | _ => rfl

/-- One step keeps the pool of tunnels exclusive. -/
theorem tunnels_step (h : DisjointAllocation s) {e : Event} (hok : keepsApart s e = true) :
    ExclusiveTunnels (step s e).wg := by
  generalize hwg : (step s e).wg = wg
  have hchange : Change s e wg := hwg ▸ change_step s e
  cases hchange with
  | same => exact h.tunnels
  | reorder id => exact h.tunnels.reorder id
  | write hf => exact h.tunnels.write _ hf
  | create hoffered hget hfree => exact h.tunnels.create hget hfree
  | provide hget hnone => exact (h.poolAllocation.not_provided hget hnone).elim
  | destroy hrun =>
    exact h.tunnels.destroy (fun stored hstored => (h.loaded _ _ hrun).2 _ stored rfl hstored)
      (returned_unheld hrun (returnsOwn_of_keepsApart hok))

/-- One step of the provisioning system keeps the networks apart from the tunnels. -/
theorem apart_base (h : DisjointAllocation s) {e : Provisioning.Event}
    (hok : keepsApart s (.base e) = true) {i j : ℕ} {network : TenantNetwork} {tunnel : Tunnel}
    (hi : (Provisioning.step s.base e).db.tenantNetworks.get? i = some network)
    (hj : s.wg.tunnels.get? j = some tunnel) (hlive : network.live = true) :
    network.cidr ≠ tunnel.cidr := by
  have hok' := hok
  rw [keepsApart, Bool.and_eq_true] at hok'
  obtain ⟨howners, hoffers⟩ := hok'
  rcases Provisioning.networks_step s.base e with hsame |
    ⟨locked, subnet, added, hlocked, hoffered, hcidr, hadd⟩ | ⟨id, f, hmodify, hcidr, hrevive⟩
  · rw [hsame] at hi
    exact h.apart i j network tunnel hi hj hlive
  · rw [hadd, Serial.get?_add] at hi
    split at hi
    case isTrue =>
      cases hi
      rw [hlocked] at hoffers
      simp only [Option.all_some, hoffered, Bool.not_eq_eq_eq_not, Bool.not_true] at hoffers
      rw [hcidr]
      exact (cidr_ne_of_tunnelHas hoffers hj).symm
    case isFalse => exact h.apart i j network tunnel hi hj hlive
  · rw [hmodify, Serial.get?_modify] at hi
    split at hi
    case isTrue heq =>
      obtain ⟨before, hbefore, rfl⟩ := Option.map_eq_some_iff.mp hi
      rw [hcidr before]
      exact h.apart i j before tunnel hbefore hj (hrevive howners before (heq ▸ hbefore) hlive)
    case isFalse => exact h.apart i j network tunnel hi hj hlive

/-- One step keeps the two allocations disjoint. -/
theorem step {e : Event} (h : DisjointAllocation s) (hok : keepsApart s e = true) :
    DisjointAllocation (step s e) := by
  have htunnels := h.tunnels_step hok
  have hloaded : ∀ run destroy, (Tunnels.step s e).destroys.get? run = some destroy → _ :=
    fun _ _ hget => h.poolAllocation.loaded_step e hget
  rcases step_base s e with hbase | ⟨e', rfl, hstep⟩
  · constructor
    case lans =>
      rw [hbase]
      exact h.lans
    case lan_ranges =>
      rw [hbase]
      exact h.lan_ranges
    case tunnels => exact htunnels
    case loaded => exact hloaded
    case apart =>
      intro i j network tunnel hi hj hlive
      rw [hbase] at hi
      rcases h.poolAllocation.tunnel_of_step hj with ⟨before, hbefore, -, hcidr⟩ |
        ⟨call, locked, poolRow, rfl, -, hoffered, hcidr⟩
      · rw [← hcidr]
        exact h.apart i j network before hi hbefore hlive
      · rw [hcidr]
        simp only [keepsApart, hoffered, Option.all_some, Bool.not_eq_eq_eq_not,
          Bool.not_true] at hok
        exact cidr_ne_of_networkHas hok hi hlive
  · rw [hstep] at htunnels hloaded ⊢
    have howners : Provisioning.ownersAct s.base e' = true := by
      rw [keepsApart, Bool.and_eq_true] at hok
      exact hok.1
    constructor
    case lans => exact h.lans.step howners
    case lan_ranges =>
      rw [Provisioning.subnetCidr_step]
      exact h.lan_ranges
    case tunnels => exact htunnels
    case loaded => exact hloaded
    case apart =>
      intro i j network tunnel hi hj hlive
      exact h.apart_base hok hi hj hlive

/-- The seeded pools are disjoint as long as nothing is allocated. -/
theorem of_seeded {db : Db} {wg : TunnelDb} (h : Seeded db wg) :
    DisjointAllocation ⟨⟨db, ∅, ∅, ∅, [], ∅⟩, wg, ∅, ∅, ∅⟩ where
  lans := .of_seeded h.base
  lan_ranges id cidr hcidr := by
    obtain ⟨row, hrow, hsome⟩ := Serial.column_eq_some_iff.mp hcidr
    obtain rfl := Option.some.inj hsome
    change db.globalIpPool.get? id = some row at hrow
    rw [h.lans] at hrow
    exact seedGlobalIpPool_slash24 hrow
  tunnels := by
    have hrow : ∀ {id row}, wg.pool.get? id = some row →
        (seedWireguardPool .empty wireguardNetwork).get? id = some row := by
      intro id row hget
      rwa [h.pool] at hget
    have hnone : ∀ i, wg.tunnels.get? i = none := by
      intro i
      rw [h.tunnels]
      rfl
    constructor
    case subnets =>
      refine .of_unused (fun id row hget => ?_) fun i => congrArg (Option.bind · _) (hnone i)
      exact seedWireguardPool_free (hrow hget)
    case tunnel_subnet =>
      intro i tunnel hget
      rw [hnone] at hget
      cases hget
    case cidr_unique =>
      intro id id' cidr hid hid'
      obtain ⟨row, hget, hcidr⟩ := Serial.column_eq_some_iff.mp hid
      obtain ⟨row', hget', hcidr'⟩ := Serial.column_eq_some_iff.mp hid'
      exact seedWireguardPool_injective (hrow hget) (hrow hget')
        (Option.some.inj (hcidr.trans hcidr'.symm))
    case ranges =>
      intro id cidr hid
      obtain ⟨row, hget, hsome⟩ := Serial.column_eq_some_iff.mp hid
      obtain rfl := Option.some.inj hsome
      exact seedWireguardPool_slash24 (hrow hget)
  loaded run destroy hget := by cases hget
  apart i j network tunnel hi := by
    rw [show db.tenantNetworks.get? i = none from h.base.networks i] at hi
    cases hi

end DisjointAllocation

/-- In every run that offers no network the subnet of a tunnel and no tunnel that of a live
network, returns only what nobody else uses, and writes no status onto a deleted network, the
ranges of live networks and tunnels are pairwise disjoint. -/
theorem networks_and_tunnels_disjoint {s : State}
    (h : machine.Reachable (fun s e => keepsApart s e = true) s) : DisjointUse s.base.db s.wg := by
  have hinv : DisjointAllocation s := by
    refine h.invariant DisjointAllocation ?_ fun s e hs hok => hs.step hok
    rintro _ ⟨db, wg, hseeded, rfl⟩
    exact .of_seeded hseeded
  exact hinv.disjointUse

/-- The small database with another pool of subnets. -/
def dbWith (subnets : Serial GlobalIPPool) : Db := { smallDb with globalIpPool := subnets }

/-- The small database after the first tenant was approved and given a subnet. -/
def approvedDb (subnets : Serial GlobalIPPool) (subnet : ℕ × GlobalIPPool) : Db where
  tenants := smallDb.tenants.modify 1 (.approve 1 1 101 subnet.2.gatewayIp newTenant)
  pods := smallDb.pods.modify 1 fun pod => { pod with tenantCount := pod.tenantCount + 1 }
  bridgePool := smallDb.bridgePool.modify 101 fun _ => { status := .inUse, tenantId := some 1 }
  globalIpPool := (subnets.modify subnet.1 .allocate).modify subnet.1 (.link none)
  vlanAllocations := smallDb.vlanAllocations
  tenantNetworks := Serial.empty.add (approvedNetwork 1 1 101 subnet)

theorem approve_dbWith {subnets : Serial GlobalIPPool} {subnet : ℕ × GlobalIPPool}
    (h : offeredSubnet? (dbWith subnets) [] = some subnet) :
    approveTenant (dbWith subnets) .none 1 newTenant (.ok ()) =
      .ok (⟨1, 1, 101, subnet.2.gatewayIp, subnet.2.cidr⟩, approvedDb subnets subnet) := by
  have hbridge : (allocateBridge (dbWith subnets) 1).filter (fun allocated => allocated.1 ≠ 0) =
      some (101, { dbWith subnets with bridgePool := (approvedDb subnets subnet).bridgePool }) := rfl
  have hpod : assignPod (dbWith subnets) [] = some (1, ⟨.active, 100, 0⟩) := rfl
  have hsub : allocateSubnet
      { dbWith subnets with bridgePool := (approvedDb subnets subnet).bridgePool } [] =
        .ok (subnet, { dbWith subnets with
          bridgePool := (approvedDb subnets subnet).bridgePool
          globalIpPool := subnets.modify subnet.1 .allocate }) := by
    have hfree : [PoolName.safe, .overflow].findSome? (freeSubnet? { dbWith subnets with
        bridgePool := (approvedDb subnets subnet).bridgePool } []) = some subnet := h
    unfold allocateSubnet
    rw [hfree]
    rfl
  simp only [approveTenant, Except.bind_eq_ok_iff, Except.ofOption_eq_ok_iff,
    Except.require_eq_ok_iff, Prod.exists]
  exact ⟨⟨⟩, by decide, ⟨⟩, rfl, 1, _, hpod, 101, _, hbridge, subnet.1, subnet.2, _, hsub, rfl⟩

/-- The system on the small database with other pools. -/
def stateWith (subnets : Serial GlobalIPPool) (pool : Serial WireGuardPool) : State :=
  ⟨⟨dbWith subnets, ∅, ∅, ∅, [], ∅⟩, ⟨pool, .empty⟩, ∅, ∅, ∅⟩

/-- A request for a tunnel that may reach the first network. -/
def tunnelBody : TunnelCreate := ⟨"vpn", none, none, none, none, none, [1]⟩

/-- The request after its checks. -/
def tunnelRequest : TunnelRequest := ⟨1, tunnelBody, [1], 51820⟩

/-- The first tenant is approved, and its request for a tunnel passes its checks. -/
def openedTunnel : List Event :=
  [.base (.openApproval 0 .admin 1), .base (.approveTenant 0 .none (.ok ()) true),
    .openTunnel 0 1 none tunnelBody]

/-- The first tenant is approved and creates a tunnel. -/
def firstTunnel : List Event := openedTunnel ++ [.createTunnel 0 []]

/-- The tables of tunnels after the first tunnel was created. -/
def firstTunnelDb (pool : Serial WireGuardPool) (poolRow : ℕ × WireGuardPool) : TunnelDb where
  pool := (pool.modify poolRow.1 .allocate).modify poolRow.1 (.link 1)
  tunnels := Serial.empty.add (newTunnel tunnelRequest poolRow.1 poolRow.2)

section Runs

variable {subnets : Serial GlobalIPPool} {subnet : ℕ × GlobalIPPool}
  {pool : Serial WireGuardPool} {poolRow : ℕ × WireGuardPool}

/-- The provisioning system after the first tenant was approved. -/
def approvedBase (subnets : Serial GlobalIPPool) : Provisioning.State :=
  Provisioning.approveStep ⟨dbWith subnets,
    (∅ : Table ℕ Provisioning.Approval).insert 0 ⟨.admin, 1, some newTenant, false⟩, ∅, ∅, [], ∅⟩
    0 .none (.ok ()) true

/-- The database after the first tenant was approved. -/
theorem approvedBase_db (hsubnet : offeredSubnet? (dbWith subnets) [] = some subnet) :
    (approvedBase subnets).db = approvedDb subnets subnet := by
  have hget : Table.get? ((∅ : Table ℕ Provisioning.Approval).insert 0
      ⟨.admin, 1, some newTenant, false⟩) 0 = some ⟨.admin, 1, some newTenant, false⟩ := rfl
  simp only [approvedBase, Provisioning.approveStep, hget, approve_dbWith hsubnet]

/-- The state in which the request of the first tenant has passed its checks. -/
theorem run_openedTunnel (pool : Serial WireGuardPool)
    (hsubnet : offeredSubnet? (dbWith subnets) [] = some subnet) :
    machine.run (stateWith subnets pool) openedTunnel = ⟨approvedBase subnets, ⟨pool, .empty⟩,
      (∅ : Table ℕ TunnelRequest).insert 0 tunnelRequest, ∅, ∅⟩ := by
  have hcheck : createTunnelCheck (approvedDb subnets subnet) ⟨pool, .empty⟩ 1 none tunnelBody =
      .ok tunnelRequest := rfl
  change openStep ⟨approvedBase subnets, ⟨pool, .empty⟩, ∅, ∅, ∅⟩ 0 1 none tunnelBody = _
  rw [openStep, approvedBase_db hsubnet, hcheck]

/-- There are no tunnels when the first tenant is approved. -/
theorem respects_openedTunnel (subnets : Serial GlobalIPPool) (pool : Serial WireGuardPool) :
    machine.Respects (fun s e => keepsApart s e = true) (stateWith subnets pool)
      openedTunnel := by
  have hoffers : (offeredSubnet? (dbWith subnets) []).all
      (fun offered => !tunnelHas ⟨pool, .empty⟩ offered.2.cidr) = true := by
    rw [Option.all_eq_true]
    exact fun _ _ => rfl
  exact ⟨rfl, hoffers, rfl, trivial⟩

/-- The database and the tables of tunnels after the first tunnel was created. -/
theorem run_firstTunnel (hsubnet : offeredSubnet? (dbWith subnets) [] = some subnet)
    (hpool : freeTunnelSubnet? ⟨pool, .empty⟩ [] = some poolRow) :
    (machine.run (stateWith subnets pool) firstTunnel).base.db = approvedDb subnets subnet ∧
      (machine.run (stateWith subnets pool) firstTunnel).wg = firstTunnelDb pool poolRow := by
  have hcreate : createTunnel (approvedDb subnets subnet) ⟨pool, .empty⟩ [] tunnelRequest =
      .ok (1, firstTunnelDb pool poolRow) := by
    have hallocate : allocateTunnelSubnet ⟨pool, .empty⟩ [] =
        .ok (poolRow, ⟨pool.modify poolRow.1 .allocate, .empty⟩) := by
      rw [allocateTunnelSubnet, hpool]
    simp only [createTunnel, Except.bind_eq_ok_iff, Except.require_eq_ok_iff, Prod.exists]
    exact ⟨poolRow.1, poolRow.2, _, hallocate, ⟨⟩, rfl, ⟨⟩, rfl, rfl⟩
  have hcreated : machine.run (stateWith subnets pool) firstTunnel =
      ⟨approvedBase subnets, firstTunnelDb pool poolRow,
        ((∅ : Table ℕ TunnelRequest).insert 0 tunnelRequest).erase 0, ∅, ∅⟩ := by
    rw [firstTunnel, Machine.run_append, run_openedTunnel pool hsubnet]
    have hget : Table.get? ((∅ : Table ℕ TunnelRequest).insert 0 tunnelRequest) 0 =
        some tunnelRequest := rfl
    change createStep ⟨approvedBase subnets, ⟨pool, .empty⟩,
      (∅ : Table ℕ TunnelRequest).insert 0 tunnelRequest, ∅, ∅⟩ 0 [] = _
    simp only [createStep, hget, approvedBase_db hsubnet, hcreate]
  rw [hcreated]
  exact ⟨approvedBase_db hsubnet, rfl⟩

/-- The first tunnel is given a subnet that the network of its tenant does not have. -/
theorem respects_firstTunnel (hsubnet : offeredSubnet? (dbWith subnets) [] = some subnet)
    (hpool : freeTunnelSubnet? ⟨pool, .empty⟩ [] = some poolRow)
    (hne : subnet.2.cidr ≠ poolRow.2.cidr) :
    machine.Respects (fun s e => keepsApart s e = true) (stateWith subnets pool) firstTunnel := by
  refine Machine.respects_append (respects_openedTunnel subnets pool) ⟨?_, trivial⟩
  rw [run_openedTunnel pool hsubnet]
  change (freeTunnelSubnet? ⟨pool, .empty⟩ []).all
    (fun poolRow => !networkHas (approvedBase subnets).db poolRow.2.cidr) = true
  rw [hpool, Option.all_some, approvedBase_db hsubnet]
  have hnone : networkHas (approvedDb subnets subnet) poolRow.2.cidr = false := by
    rw [networkHas, Option.isSome_eq_false_iff, Option.isNone_iff_eq_none,
      Serial.first?_eq_none_iff]
    intro id network hget
    rw [approvedDb, Serial.get?_add] at hget
    split at hget
    case isTrue =>
      cases hget
      simpa [approvedNetwork] using fun _ => hne
    case isFalse => cases hget
  rw [hnone]
  rfl

end Runs

/-- The small database with seeded pools. -/
def seededState : State :=
  stateWith (seedGlobalIpPool .empty) (seedWireguardPool .empty wireguardNetwork)

/-- The small state is an initial state. -/
theorem init_seededState : machine.init seededState := by
  refine ⟨dbWith (seedGlobalIpPool .empty), ⟨seedWireguardPool .empty wireguardNetwork, .empty⟩,
    ⟨?_, rfl, rfl, rfl⟩, rfl⟩
  exact {
    bridges := seeded_smallDb.bridges
    subnets := by
      intro id subnet hget
      have hmem := seedGlobalIpPool_mem hget
      have hfree : subnet.status = .free ∧ subnet.tenantNetworkId = none := by
        rcases hmem with hsafe | hoverflow
        · exact (safeSubnets_free hsafe).2
        · exact (overflowSubnets_free hoverflow).2
      exact ⟨hfree.1, hfree.2, seedGlobalIpPool_ne hmem⟩
    cidr_unique := by
      intro id id' subnet subnet' hget hget' hcidr
      exact seedGlobalIpPool_injective hget hget' hcidr
    vlans := seeded_smallDb.vlans
    networks := seeded_smallDb.networks
    tenants := seeded_smallDb.tenants }

/-- A seeded pool offers a safe subnet. -/
theorem exists_offered : ∃ subnet, offeredSubnet? (dbWith (seedGlobalIpPool .empty)) [] =
    some subnet ∧ (seedGlobalIpPool .empty).get? subnet.1 = some subnet.2 ∧
      subnet.2 ∈ safeSubnets := by
  have hfirst : (⟨"172.16.0.0/24", "172.16.0.1", .safe, .free, none⟩ : GlobalIPPool) ∈
      safeSubnets := List.mem_map.mpr ⟨0, List.mem_range.mpr (by decide), by decide⟩
  obtain ⟨id, row, hget, hrow, -⟩ := exists_safe_seedGlobalIpPool hfirst
  obtain ⟨hpool, hfree, -⟩ := safeSubnets_free hrow
  have hsome : freeSubnet? (dbWith (seedGlobalIpPool .empty)) [] .safe ≠ none := by
    intro hnone
    have := Serial.first?_eq_none_iff.mp hnone id row hget
    simp [hpool, hfree] at this
  obtain ⟨subnet, hsubnet⟩ := Option.ne_none_iff_exists'.mp hsome
  obtain ⟨hgetSubnet, hcond⟩ := Serial.first?_eq_some hsubnet
  obtain ⟨-, hsafe, -⟩ := of_decide_eq_true hcond
  refine ⟨subnet, ?_, hgetSubnet, ?_⟩
  · rw [offeredSubnet?, List.findSome?_cons, hsubnet]
  · rcases seedGlobalIpPool_mem hgetSubnet with hmem | hmem
    · exact hmem
    · rw [(overflowSubnets_free hmem).1] at hsafe
      cases hsafe

/-- A seeded pool of tunnels offers a subnet. -/
theorem exists_poolRow : ∃ poolRow,
    freeTunnelSubnet? ⟨seedWireguardPool .empty wireguardNetwork, .empty⟩ [] = some poolRow ∧
      poolRow.2 ∈ wireguardSubnets wireguardNetwork := by
  have hfirst : ∃ row, row ∈ wireguardSubnets wireguardNetwork :=
    ⟨_, List.mem_map.mpr ⟨_, List.mem_map.mpr ⟨0, List.mem_range.mpr (by decide), rfl⟩, rfl⟩⟩
  obtain ⟨row, hrow⟩ := hfirst
  obtain ⟨id, row', hget, -⟩ := exists_cidr_seedWireguardPool hrow
  have hsome : freeTunnelSubnet? ⟨seedWireguardPool .empty wireguardNetwork, .empty⟩ [] ≠
      none := by
    intro hnone
    have := Serial.first?_eq_none_iff.mp hnone id row' hget
    simp [seedWireguardPool_free hget] at this
  obtain ⟨poolRow, hpoolRow⟩ := Option.ne_none_iff_exists'.mp hsome
  exact ⟨poolRow, hpoolRow, seedWireguardPool_mem (Serial.first?_eq_some hpoolRow).1⟩

/-- The networks and tunnels after the first tunnel was created in a run that meets the
condition. -/
theorem networks_and_tunnels_disjoint_small :
    DisjointUse (machine.run seededState firstTunnel).base.db
      (machine.run seededState firstTunnel).wg := by
  obtain ⟨subnet, hsubnet, -, hsafe⟩ := exists_offered
  obtain ⟨poolRow, hpoolRow, hrow⟩ := exists_poolRow
  obtain ⟨overflow, hoverflow, hsame⟩ := wireguardSubnets_overflow hrow
  have hne : subnet.2.cidr ≠ poolRow.2.cidr :=
    hsame ▸ safeSubnets_ne_overflowSubnets hsafe hoverflow
  exact networks_and_tunnels_disjoint ((Machine.Reachable.start init_seededState).run
    (respects_firstTunnel hsubnet hpoolRow hne))

/-- The first tenant creates a network while some subnets are locked. -/
theorem createNetwork_approvedDb {subnets subnets' : Serial GlobalIPPool}
    {subnet offered : ℕ × GlobalIPPool} {locked : List ℕ}
    (h : offeredSubnet? { approvedDb subnets subnet with globalIpPool := subnets' } locked =
      some offered) :
    ∃ message db, createNetwork { approvedDb subnets subnet with globalIpPool := subnets' }
      ⟨[], locked, []⟩ 1 "app" = .ok (message, db) := by
  have hallocate : allocateSubnet { approvedDb subnets subnet with globalIpPool := subnets' }
      locked = .ok (offered, { approvedDb subnets subnet with
        globalIpPool := subnets'.modify offered.1 .allocate }) := by
    unfold allocateSubnet
    rw [show [PoolName.safe, .overflow].findSome? _ = some offered from h]
  simp only [createNetwork, Except.bind_eq_ok_iff, Except.ofOption_eq_ok_iff,
    Except.pure_eq_ok_iff, Prod.exists]
  exact ⟨_, _, _, rfl, 1, rfl, offered.1, offered.2, _, hallocate, 11, _, rfl, 1, _, rfl, rfl⟩

/-- The ids of the safe subnets. -/
def safeIds (db : Db) : List ℕ :=
  (db.globalIpPool.select fun _ row => row.pool = .safe).map (·.1)

/-- The subnet that is offered once all safe subnets are locked. -/
theorem offered_overflow {db : Db} {id : ℕ} {row : GlobalIPPool}
    (hget : db.globalIpPool.get? id = some row) (hpool : row.pool = .overflow)
    (hfree : row.status = .free) :
    offeredSubnet? { db with globalIpPool := db.globalIpPool.toFront id } (safeIds db) =
      some (id, row) := by
  have hlocked : id ∉ safeIds db := by
    intro hmem
    obtain ⟨⟨id', row'⟩, hselect, rfl⟩ := List.mem_map.mp hmem
    obtain ⟨hget', hsafe⟩ := Table.mem_select.mp hselect
    obtain rfl := Option.some.inj (hget.symm.trans hget')
    rw [hpool] at hsafe
    cases of_decide_eq_true hsafe
  rw [offeredSubnet?, List.findSome?_cons]
  have hnone : freeSubnet? { db with globalIpPool := db.globalIpPool.toFront id }
      (safeIds db) .safe = none := by
    refine Serial.first?_eq_none_iff.mpr fun id' row' hget' => decide_eq_false ?_
    rintro ⟨hunlocked, hsafe, -⟩
    rw [Serial.get?_toFront] at hget'
    exact hunlocked (List.mem_map.mpr
      ⟨(id', row'), Table.mem_select.mpr ⟨hget', decide_eq_true hsafe⟩, rfl⟩)
  have hsome : freeSubnet? { db with globalIpPool := db.globalIpPool.toFront id }
      (safeIds db) .overflow = some (id, row) :=
    Table.first?_toFront hget (decide_eq_true ⟨hlocked, hpool, hfree⟩)
  rw [hnone, List.findSome?_cons, hsome]

/-- A network is created after a subnet has come to the front of the storage order. -/
theorem run_createNetwork {s : State} {id tenantId : ℕ} {locks : Locks} {name : String}
    {message : VlanMessage} {db : Db}
    (h : createNetwork { s.base.db with globalIpPool := s.base.db.globalIpPool.toFront id } locks
      tenantId name = .ok (message, db)) :
    machine.run s [.base (.reorder (.subnet id)), .base (.createNetwork locks tenantId name)] =
      { s with base := { s.base with db } } := by
  let moved : Provisioning.State := { s.base with
    db := { s.base.db with globalIpPool := s.base.db.globalIpPool.toFront id } }
  change ({ s with base := Provisioning.createNetworkStep moved locks tenantId name } : State) = _
  rw [Provisioning.createNetworkStep, h]

/-- The first tenant creates a tunnel, and then a network while some subnets are locked and one is
at the front of the storage order. -/
def tunnelThenNetwork (id : ℕ) (locked : List ℕ) : List Event :=
  firstTunnel ++ [.base (.reorder (.subnet id)), .base (.createNetwork ⟨[], locked, []⟩ 1 "app")]

/-- If all safe subnets are locked, the network is given the subnet at the front. -/
theorem run_tunnelThenNetwork {subnets : Serial GlobalIPPool} {subnet : ℕ × GlobalIPPool}
    {pool : Serial WireGuardPool} {poolRow : ℕ × WireGuardPool} {id : ℕ} {row : GlobalIPPool}
    (hsubnet : offeredSubnet? (dbWith subnets) [] = some subnet)
    (hpoolRow : freeTunnelSubnet? ⟨pool, .empty⟩ [] = some poolRow)
    (hget : (approvedDb subnets subnet).globalIpPool.get? id = some row)
    (hpool : row.pool = .overflow) (hfree : row.status = .free) :
    ∃ s network tunnel, machine.run (stateWith subnets pool)
        (tunnelThenNetwork id (safeIds (approvedDb subnets subnet))) = s ∧
      network.cidr = row.cidr ∧ network.live = true ∧ tunnel.cidr = poolRow.2.cidr ∧
      s.base.db.tenantNetworks.get? 2 = some network ∧ s.wg.tunnels.get? 1 = some tunnel := by
  obtain ⟨hdb, hwg⟩ := run_firstTunnel hsubnet hpoolRow
  have hoffered := offered_overflow hget hpool hfree
  obtain ⟨message, db, hcreate⟩ := createNetwork_approvedDb hoffered
  obtain ⟨offered, network, hoffered', hcidr, hlive, hadd⟩ := createNetwork_offered hcreate
  obtain rfl := Option.some.inj (hoffered.symm.trans hoffered')
  rw [← hdb] at hcreate
  have hrun := run_createNetwork hcreate
  rw [← Machine.run_append, ← tunnelThenNetwork, hdb] at hrun
  refine ⟨_, network, newTunnel tunnelRequest poolRow.1 poolRow.2, hrun, hcidr, hlive, rfl, ?_, ?_⟩
  · change db.tenantNetworks.get? 2 = _
    rw [hadd, Serial.get?_add]
    rfl
  · change (machine.run (stateWith subnets pool) firstTunnel).wg.tunnels.get? 1 = _
    rw [hwg]
    rfl

/-- All safe subnets are locked when the first tenant creates a network, and the first overflow
subnet is the one of its tunnel. -/
theorem networks_and_tunnels_not_disjoint :
    ¬ ∀ s, machine.Reachable Machine.anyStep s → DisjointUse s.base.db s.wg := by
  obtain ⟨subnet, hsubnet, hsubnetGet, hsafe⟩ := exists_offered
  obtain ⟨poolRow, hpoolRow, hrow⟩ := exists_poolRow
  -- The subnet of the tunnel is an overflow subnet as well.
  obtain ⟨overflow, hoverflow, hsame⟩ := wireguardSubnets_overflow hrow
  obtain ⟨id, row, hget, hmem, hcidr⟩ := exists_overflow_seedGlobalIpPool hoverflow
  obtain ⟨hpool, hfree, -⟩ := overflowSubnets_free hmem
  have hne : id ≠ subnet.1 := by
    rintro rfl
    obtain rfl := Option.some.inj (hget.symm.trans hsubnetGet)
    rw [(safeSubnets_free hsafe).1] at hpool
    cases hpool
  have hgetApproved : (approvedDb (seedGlobalIpPool .empty) subnet).globalIpPool.get? id =
      some row := by
    rw [approvedDb, Serial.get?_modify, if_neg hne, Serial.get?_modify, if_neg hne, hget]
  obtain ⟨s, network, tunnel, hrun, hnetworkCidr, hlive, htunnelCidr, hnetwork, htunnel⟩ :=
    run_tunnelThenNetwork hsubnet hpoolRow hgetApproved hpool hfree
  intro h
  have huse := h s (hrun ▸ Machine.reachable_run init_seededState _)
  have hdisjoint := huse.mixed 2 1 network tunnel hnetwork htunnel hlive
  obtain ⟨x, -, hx⟩ := wireguardSubnets_slash24 hrow
  rw [hnetworkCidr, hcidr, hsame, htunnelCidr, hx] at hdisjoint
  exact Ipv4.not_disjointRanges_slash24_self x hdisjoint

end ProxmoxIaas.Tunnels
