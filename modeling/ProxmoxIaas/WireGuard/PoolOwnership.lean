import ProxmoxIaas.Foundation.Allocation
import ProxmoxIaas.WireGuard.TunnelSystem

/-!
# Owners of Pool Rows

A row of the pool of tunnels belongs to the tunnel that refers to it. Only the last commit of the
destroy task gives rows back, and it gives back the row that its run has loaded. If two runs
destroy one tunnel, the second one commits although the tunnel is gone, and by then the row can
belong to another tunnel.

## Main results

- `PoolAllocation.step`: one step keeps the pool allocated exclusively.
- `poolRows_owned`: every row has at most one owner, and is free exactly if it has none, in every
  state of a run that gives back no row of another tunnel.
- `poolRows_not_owned`: this fails in the run in which a tunnel is destroyed twice.
-/

namespace ProxmoxIaas.Tunnels

/-- Every pool row is used by at most one tunnel, and is allocated exactly while it is used. -/
structure PoolOwned (wg : TunnelDb) : Prop where
  /-- No row is used by two tunnels. -/
  unique : ∀ i j tunnel tunnel' poolId, wg.tunnels.get? i = some tunnel →
    wg.tunnels.get? j = some tunnel' → tunnel.poolId = some poolId →
    tunnel'.poolId = some poolId → i = j
  /-- A row that a tunnel uses is allocated. -/
  allocated : ∀ i tunnel poolId row, wg.tunnels.get? i = some tunnel →
    tunnel.poolId = some poolId → wg.pool.get? poolId = some row → row.status = .allocated
  /-- A row that no tunnel uses is free. -/
  free : ∀ poolId row, wg.pool.get? poolId = some row →
    (∀ i tunnel, wg.tunnels.get? i = some tunnel → tunnel.poolId ≠ some poolId) →
    row.status = .free

/-- The pool is allocated exclusively to the tunnels, and every tunnel has a row. -/
structure ExclusivePool (wg : TunnelDb) : Prop where
  /-- Subnets are allocated exclusively. -/
  subnets : wg.pool.rows.AllocatedTo (·.status = .free) (wg.tunnels.column (·.poolId))
  /-- A tunnel has a subnet. -/
  pooled : ∀ i tunnel, wg.tunnels.get? i = some tunnel → tunnel.poolId ≠ none

/-- The invariant of the system: the pool, and what runs of the destroy task know about it. -/
structure PoolAllocation (s : State) : Prop where
  /-- The pool is allocated exclusively. -/
  pool : ExclusivePool s.wg
  /-- A run of the destroy task will return the subnet of its tunnel. -/
  loaded : ∀ run destroy, s.destroys.get? run = some destroy →
    destroy.tunnelId < s.wg.tunnels.next ∧
      ∀ tunnel stored, destroy.tunnel = some tunnel →
        s.wg.tunnels.get? destroy.tunnelId = some stored → stored.poolId = tunnel.poolId

/-- The condition on a step: the last commit of a destroy run returns a row that no other tunnel
has. -/
def returnsOwn (s : State) : Event → Bool
  | .destroyTunnel run => (s.destroys.get? run).all fun destroy =>
      destroy.tunnel.all fun tunnel => (s.wg.tunnels.first? fun id other =>
        id != destroy.tunnelId && other.poolId == tunnel.poolId).isNone
  | _ => true

/-- A run of the destroy task returns a subnet that no other tunnel has. -/
theorem returned_unheld {s : State} {run tunnelId : ℕ} {tunnel : Tunnel}
    (hrun : s.destroys.get? run = some ⟨tunnelId, some tunnel⟩)
    (hok : returnsOwn s (.destroyTunnel run) = true) (i : ℕ) (other : Tunnel)
    (hget : s.wg.tunnels.get? i = some other) (hne : i ≠ tunnelId) :
    other.poolId ≠ tunnel.poolId := by
  have hfirst : (s.wg.tunnels.first? fun id other =>
      id != tunnelId && other.poolId == tunnel.poolId) = none := by
    simpa [returnsOwn, hrun] using hok
  have := Serial.first?_eq_none_iff.mp hfirst i other hget
  simpa [hne] using this

namespace ExclusivePool

variable {wg : TunnelDb}

/-- The pool row of a tunnel has a positive id. -/
theorem truthy_poolId (h : ExclusivePool wg) {i : ℕ} {tunnel : Tunnel}
    (hget : wg.tunnels.get? i = some tunnel) : truthy tunnel.poolId ≠ none := by
  obtain ⟨poolId, hpool⟩ := Option.ne_none_iff_exists'.mp (h.pooled i tunnel hget)
  obtain ⟨row, hrow⟩ := h.subnets.exists_row ((Serial.column_of_get? hget).trans hpool)
  have hpos : poolId ≠ 0 := (Serial.bound_of_get? (t := wg.pool) hrow).1.ne'
  have htruthy : truthy tunnel.poolId = some poolId :=
    Option.filter_eq_some_iff.mpr ⟨hpool, decide_eq_true hpos⟩
  rw [htruthy]
  exact Option.some_ne_none poolId

/-- The storage order of the pool does not matter. -/
theorem reorder (h : ExclusivePool wg) (id : ℕ) :
    ExclusivePool { wg with pool := wg.pool.toFront id } where
  subnets := h.subnets.congr (funext fun _ => Serial.get?_toFront ..)
  pooled := h.pooled

/-- A write to a tunnel that keeps its subnet. -/
theorem write (h : ExclusivePool wg) (tunnelId : ℕ) {f : Tunnel → Tunnel}
    (hf : ∀ tunnel, (f tunnel).poolId = tunnel.poolId) :
    ExclusivePool { wg with tunnels := wg.tunnels.modify tunnelId f } := by
  constructor
  case subnets =>
    rw [Serial.column_modify_of_eq fun tunnel _ => hf tunnel]
    exact h.subnets
  case pooled =>
    intro i tunnel hget
    rw [Serial.get?_modify] at hget
    split at hget
    case isTrue =>
      obtain ⟨stored, hstored, rfl⟩ := Option.map_eq_some_iff.mp hget
      rw [hf stored]
      exact h.pooled i stored hstored
    case isFalse => exact h.pooled i tunnel hget

/-- A new tunnel takes a free row of the pool. -/
theorem create (h : ExclusivePool wg) {request : TunnelRequest} {poolId : ℕ}
    {poolRow : WireGuardPool} (hget : wg.pool.get? poolId = some poolRow)
    (hfree : poolRow.status = .free) :
    ExclusivePool {
      pool := (wg.pool.modify poolId .allocate).modify poolId (.link wg.tunnels.next)
      tunnels := wg.tunnels.add (newTunnel request poolId poolRow) } := by
  constructor
  case subnets =>
    rw [Serial.column_add]
    exact (h.subnets.acquire (wg.tunnels.column_next _) hget hfree
      fun _ => PoolStatus.noConfusion).modify fun _ => Iff.rfl
  case pooled =>
    intro i tunnel hrow
    rw [Serial.get?_add] at hrow
    split at hrow
    case isTrue =>
      cases hrow
      exact Option.some_ne_none poolId
    case isFalse => exact h.pooled i tunnel hrow

/-- A tunnel is deleted and its subnet, which no other tunnel has, is returned. -/
theorem destroy (h : ExclusivePool wg) {tunnelId : ℕ} {loaded : Tunnel}
    (hloaded : ∀ stored, wg.tunnels.get? tunnelId = some stored → stored.poolId = loaded.poolId)
    (hother : ∀ i other, wg.tunnels.get? i = some other → i ≠ tunnelId →
      other.poolId ≠ loaded.poolId) :
    ExclusivePool {
      pool := (releaseTunnelPool wg loaded).pool
      tunnels := wg.tunnels.deleteWhere fun id _ => id = tunnelId } := by
  have hheld : ∀ {i poolId}, wg.tunnels.column (·.poolId) i = some poolId →
      ∃ tunnel, wg.tunnels.get? i = some tunnel ∧ tunnel.poolId = some poolId :=
    Serial.column_eq_some_iff.mp
  constructor
  case subnets =>
    rw [Serial.column_deleteWhere_key]
    cases hpool : truthy loaded.poolId with
    | some poolId =>
      have hpoolId := (Option.filter_eq_some_iff.mp hpool).1
      rw [releaseTunnelPool, hpool]
      refine h.subnets.release (fun poolId' hcolumn => ?_) (fun i hne hcolumn => ?_) fun _ => rfl
      · obtain ⟨stored, hstored, hstoredPool⟩ := hheld hcolumn
        rw [hloaded stored hstored, hpoolId] at hstoredPool
        exact (Option.some.inj hstoredPool).symm
      · obtain ⟨other, hget, hotherPool⟩ := hheld hcolumn
        exact hother i other hget hne (hotherPool.trans hpoolId.symm)
    | none =>
      -- A stored tunnel has a pool row, so this one is gone already.
      have hgone : wg.tunnels.column (·.poolId) tunnelId = none := by
        cases hcolumn : wg.tunnels.column (·.poolId) tunnelId with
        | none => rfl
        | some poolId =>
          exfalso
          obtain ⟨stored, hstored, -⟩ := hheld hcolumn
          apply h.truthy_poolId hstored
          rw [hloaded stored hstored, hpool]
      have hsame : releaseTunnelPool wg loaded = wg := by rw [releaseTunnelPool, hpool]
      rw [hsame, ← hgone, Function.update_eq_self]
      exact h.subnets
  case pooled =>
    intro i tunnel hrow
    rw [Serial.get?_deleteWhere] at hrow
    exact h.pooled i tunnel (Option.filter_eq_some_iff.mp hrow).1

/-- A pool of free rows without tunnels. -/
theorem of_free (hfree : ∀ id row, wg.pool.get? id = some row → row.status = .free)
    (hnone : ∀ id, wg.tunnels.get? id = none) : ExclusivePool wg where
  subnets := .of_unused hfree fun i => congrArg (Option.bind · _) (hnone i)
  pooled i tunnel hget := by
    rw [hnone] at hget
    cases hget

/-- The invariant says who owns each row. -/
theorem poolOwned (h : ExclusivePool wg) : PoolOwned wg where
  unique i j tunnel tunnel' poolId hi hj hpool hpool' :=
    h.subnets.unique i j poolId ((Serial.column_of_get? hi).trans hpool)
      ((Serial.column_of_get? hj).trans hpool')
  allocated i tunnel poolId row hi hpool hrow := by
    have hheld : wg.tunnels.column (·.poolId) i = some poolId :=
      (Serial.column_of_get? hi).trans hpool
    cases hstatus : row.status with
    | allocated => rfl
    | free => exact absurd hheld ((h.subnets.row_free_iff hrow).mp hstatus i)
  free poolId row hrow hunused := by
    apply (h.subnets.row_free_iff hrow).mpr
    intro i hcolumn
    obtain ⟨tunnel, hget, hpool⟩ := Serial.column_eq_some_iff.mp hcolumn
    exact hunused i tunnel hget hpool

end ExclusivePool

namespace PoolAllocation

variable {s : State}

/-- Every stored tunnel has a subnet, so no run provides one. -/
theorem not_provided (h : PoolAllocation s) {tunnelId : ℕ} {tunnel : Tunnel}
    (hget : s.wg.tunnels.get? tunnelId = some tunnel) (hnone : truthy tunnel.poolId = none) :
    False :=
  h.pool.truthy_poolId hget hnone

/-- One step keeps the pool exclusive. -/
theorem pool_step (h : PoolAllocation s) {e : Event} (hok : returnsOwn s e = true) :
    ExclusivePool (step s e).wg := by
  generalize hwg : (step s e).wg = wg
  have hchange : Change s e wg := hwg ▸ change_step s e
  cases hchange with
  | same => exact h.pool
  | reorder id => exact h.pool.reorder id
  | write hf => exact h.pool.write _ fun tunnel => (hf tunnel).1
  | create hoffered hget hfree => exact h.pool.create hget hfree
  | provide hget hnone => exact (h.not_provided hget hnone).elim
  | destroy hrun =>
    exact h.pool.destroy (fun stored hstored => (h.loaded _ _ hrun).2 _ stored rfl hstored)
      (returned_unheld hrun hok)

/-- A tunnel after a step was there before with the same subnet, or has just been created with
the first free subnet. -/
theorem tunnel_of_step (h : PoolAllocation s) {e : Event} {i : ℕ} {tunnel : Tunnel}
    (hget : (step s e).wg.tunnels.get? i = some tunnel) :
    (∃ before, s.wg.tunnels.get? i = some before ∧ before.poolId = tunnel.poolId ∧
      before.cidr = tunnel.cidr) ∨
    ∃ call locked poolRow, e = .createTunnel call locked ∧ i = s.wg.tunnels.next ∧
      freeTunnelSubnet? s.wg locked = some poolRow ∧ tunnel.cidr = poolRow.2.cidr := by
  generalize hwg : (step s e).wg = wg at hget
  have hchange : Change s e wg := hwg ▸ change_step s e
  cases hchange with
  | same => exact Or.inl ⟨tunnel, hget, rfl, rfl⟩
  | reorder id => exact Or.inl ⟨tunnel, hget, rfl, rfl⟩
  | write hf =>
    rw [Serial.get?_modify] at hget
    split at hget
    case isTrue =>
      obtain ⟨before, hbefore, rfl⟩ := Option.map_eq_some_iff.mp hget
      exact Or.inl ⟨before, hbefore, (hf before).1.symm, (hf before).2.symm⟩
    case isFalse => exact Or.inl ⟨tunnel, hget, rfl, rfl⟩
  | @create call locked request poolId poolRow hoffered hfound hfree =>
    rw [Serial.get?_add] at hget
    split at hget
    case isTrue heq =>
      cases hget
      exact Or.inr ⟨call, locked, (poolId, poolRow), rfl, heq, hoffered, rfl⟩
    case isFalse => exact Or.inl ⟨tunnel, hget, rfl, rfl⟩
  | provide hstored hnone => exact (h.not_provided hstored hnone).elim
  | destroy hrun =>
    rw [Serial.get?_deleteWhere] at hget
    exact Or.inl ⟨tunnel, (Option.filter_eq_some_iff.mp hget).1, rfl, rfl⟩

/-- Ids of tunnels are not used again. -/
theorem next_le_step (h : PoolAllocation s) (e : Event) :
    s.wg.tunnels.next ≤ (step s e).wg.tunnels.next := by
  generalize hwg : (step s e).wg = wg
  have hchange : Change s e wg := hwg ▸ change_step s e
  cases hchange with
  | same => exact le_rfl
  | reorder id => exact le_rfl
  | write hf => exact le_rfl
  | create => exact Nat.le_succ _
  | provide hstored hnone => exact (h.not_provided hstored hnone).elim
  | destroy hrun => exact le_rfl

/-- One step keeps what runs of the destroy task have loaded up to date. -/
theorem loaded_step (h : PoolAllocation s) (e : Event) {run : ℕ} {destroy : TunnelDestroy}
    (hget : (step s e).destroys.get? run = some destroy) :
    destroy.tunnelId < (step s e).wg.tunnels.next ∧
      ∀ tunnel stored, destroy.tunnel = some tunnel →
        (step s e).wg.tunnels.get? destroy.tunnelId = some stored →
        stored.poolId = tunnel.poolId := by
  have hnext := h.next_le_step e
  -- Before the step the run knew the subnet of its tunnel, if it had loaded it.
  have hbefore : destroy.tunnelId < s.wg.tunnels.next ∧
      ∀ tunnel stored, destroy.tunnel = some tunnel →
        s.wg.tunnels.get? destroy.tunnelId = some stored → stored.poolId = tunnel.poolId := by
    rcases destroys_step s e hget with hold | ⟨stored, hstored, hloaded⟩
    · exact h.loaded run destroy hold
    · refine ⟨(Serial.bound_of_get? hstored).2, fun tunnel stored' htunnel hstored' => ?_⟩
      rw [hloaded tunnel htunnel, Option.some.inj (hstored'.symm.trans hstored)]
  refine ⟨hbefore.1.trans_le hnext, fun tunnel stored htunnel hstored => ?_⟩
  rcases h.tunnel_of_step hstored with ⟨before, hgetBefore, hpool, -⟩ | ⟨_, _, _, -, heq, -⟩
  · rw [← hpool]
    exact hbefore.2 tunnel before htunnel hgetBefore
  · exact absurd heq hbefore.1.ne

/-- One step keeps the invariant. -/
theorem step {e : Event} (h : PoolAllocation s) (hok : returnsOwn s e = true) :
    PoolAllocation (step s e) where
  pool := h.pool_step hok
  loaded _ _ hget := h.loaded_step e hget

end PoolAllocation

/-- The tunnel system, started with a free pool and no tunnels in any state of the provisioning
system. -/
def freshMachine : Machine State Event where
  init s := ∃ base pool, (∀ id row, pool.get? id = some row → row.status = PoolStatus.free) ∧
    s = ⟨base, ⟨pool, .empty⟩, ∅, ∅, ∅⟩
  step := step

/-- The invariant holds in every state of a run that returns no row of another tunnel. -/
theorem poolAllocation_of_reachable {s : State}
    (h : freshMachine.Reachable (fun s e => returnsOwn s e = true) s) : PoolAllocation s := by
  refine h.invariant PoolAllocation ?_ fun s e hs hok => hs.step hok
  rintro _ ⟨base, pool, hfree, rfl⟩
  exact { pool := .of_free hfree fun _ => rfl, loaded := fun _ _ hget => by cases hget }

/-- In every run in which the last commit of each destroy run returns a row that no other tunnel
has, each row is used by at most one tunnel and is allocated exactly while it is used. -/
theorem poolRows_owned {s : State}
    (h : freshMachine.Reachable (fun s e => returnsOwn s e = true) s) : PoolOwned s.wg :=
  (poolAllocation_of_reachable h).pool.poolOwned

/-- A tenant with an OPNsense VM. -/
def servedTenant : Tenant where
  status := .active
  isVerified := true
  bridgeId := some 100
  podId := some 1
  opnsenseVmId := some 10000
  opnsenseVmName := some "VM_OPNsense_1"
  lanIp := some "172.16.0.1"
  wanIp := some "198.51.100.7"
  opnsenseApiKey := some "key"
  opnsenseApiSecret := some "secret"
  error := none

/-- The provisioning system with one tenant that has one network. -/
def servedBase : Provisioning.State where
  db := { Provisioning.smallDb with
    tenants := Serial.empty.add servedTenant
    tenantNetworks := Serial.empty.add
      (approvedNetwork 1 1 100 (1, Provisioning.freeSubnet "172.16.0.0/24" "172.16.0.1")) }
  approvals := ∅
  releases := ∅
  vlanRuns := ∅
  messages := []
  provisionRuns := ∅

/-- The tunnel system with one served tenant and a pool of two rows. -/
def smallTunnelState : State where
  base := servedBase
  wg := {
    pool := (Serial.empty.add ⟨"10.200.0.0/24", "10.200.0.1", .free, none⟩).add
      ⟨"10.200.1.0/24", "10.200.1.1", .free, none⟩
    tunnels := .empty }
  requests := ∅
  runs := ∅
  destroys := ∅

/-- The small state is an initial state. -/
theorem init_smallTunnelState : freshMachine.init smallTunnelState := by
  refine ⟨servedBase, smallTunnelState.wg.pool, fun id row hget => ?_, rfl⟩
  simp only [smallTunnelState, Serial.get?_add, Serial.get?_empty] at hget
  split_ifs at hget <;> cases hget <;> rfl

/-- A request for a tunnel of some name, with or without a port. -/
def smallTunnelBody (name : String) (listenPort : Option ℕ) : TunnelCreate :=
  ⟨name, listenPort, none, none, none, none, [1]⟩

/-- The first tenant creates a tunnel. -/
def createSmall (name : String) : List Event :=
  [.openTunnel 0 1 none (smallTunnelBody name none), .createTunnel 0 []]

/-- A tunnel is created, destroyed, and replaced. -/
theorem poolRows_owned_small : PoolOwned (freshMachine.run smallTunnelState
    (createSmall "vpn" ++ [.openDestroy 0 ⟨1, 1⟩, .loadDestroy 0, .destroyTunnel 0] ++
      createSmall "vpn2")).wg :=
  poolRows_owned ((Machine.Reachable.start init_smallTunnelState).run (by decide +kernel))

/-- A tunnel is destroyed by two runs at once, and replaced before the second one commits. -/
def destroyTwice : List Event :=
  createSmall "vpn" ++ [.openDestroy 0 ⟨1, 1⟩, .openDestroy 1 ⟨1, 1⟩, .loadDestroy 0,
    .loadDestroy 1, .destroyTunnel 0] ++ createSmall "vpn2" ++ [.destroyTunnel 1]

/-- The second run of the destroy task frees the row that the new tunnel uses. -/
theorem poolRows_not_owned :
    ¬ ∀ s, freshMachine.Reachable Machine.anyStep s → PoolOwned s.wg := by
  intro h
  have howned := h _ (Machine.reachable_run init_smallTunnelState destroyTwice)
  have hfree : ((freshMachine.run smallTunnelState destroyTwice).wg.pool.get? 2).map (·.status) =
      some .free := by decide +kernel
  have hused : ((freshMachine.run smallTunnelState destroyTwice).wg.tunnels.get? 2).bind
      (·.poolId) = some 2 := by decide +kernel
  obtain ⟨row, hrow, hstatus⟩ := Option.map_eq_some_iff.mp hfree
  obtain ⟨tunnel, htunnel, hpool⟩ := Option.bind_eq_some_iff.mp hused
  have hallocated := howned.allocated 2 tunnel 2 row htunnel hpool hrow
  rw [hstatus] at hallocated
  cases hallocated

end ProxmoxIaas.Tunnels
