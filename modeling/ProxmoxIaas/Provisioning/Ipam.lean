import ProxmoxIaas.Foundation.Ipv4
import ProxmoxIaas.Provisioning.Model

/-!
# Address and VLAN Allocation

The service functions that seed the pool of subnets, and those that hand out and take back
pooled subnets and VLANs. A query with `FOR UPDATE SKIP LOCKED` does not see the rows that
concurrent transactions have locked; those rows are an argument of the functions that run such
a query.

## Main results

- `allocateSubnet_eq_ok`, `allocateVlan_eq_ok`: an allocation takes a free row, and changes
  nothing but that row.
- `seedGlobalIpPool_slash24`: the seeded subnets have a prefix of 24 bits.
-/

namespace ProxmoxIaas

/-- Mark a subnet as allocated. -/
def GlobalIPPool.allocate (row : GlobalIPPool) : GlobalIPPool :=
  { row with status := .allocated }

/-- An allocated subnet is not free. -/
theorem GlobalIPPool.allocate_not_free (row : GlobalIPPool) : row.allocate.status ≠ .free :=
  PoolStatus.noConfusion

/-- Mark a subnet as free. -/
def GlobalIPPool.release (row : GlobalIPPool) : GlobalIPPool :=
  { row with status := .free, tenantNetworkId := none }

/-- Mark a VLAN as allocated. -/
def VlanAllocation.allocate (row : VlanAllocation) : VlanAllocation :=
  { row with status := .allocated }

/-- An allocated VLAN is not free. -/
theorem VlanAllocation.allocate_not_free (row : VlanAllocation) : row.allocate.status ≠ .free :=
  PoolStatus.noConfusion

/-- Mark a VLAN as free. -/
def VlanAllocation.release (row : VlanAllocation) : VlanAllocation :=
  { row with status := .free, tenantNetworkId := none }

/-- The safe subnets that are seeded, 172.16.0.0/24 to 172.31.255.0/24. -/
def safeSubnets : List GlobalIPPool :=
  (List.range 4096).map fun i =>
    let second := 16 + i / 256
    let third := i % 256
    { cidr := s!"172.{second}.{third}.0/24"
      gatewayIp := s!"172.{second}.{third}.1"
      pool := .safe
      status := .free
      tenantNetworkId := none }

/-- The overflow subnets that are seeded, 10.0.0.0/24 to 10.255.255.0/24. -/
def overflowSubnets : List GlobalIPPool :=
  (List.range 65536).map fun i =>
    let second := i / 256
    let third := i % 256
    { cidr := s!"10.{second}.{third}.0/24"
      gatewayIp := s!"10.{second}.{third}.1"
      pool := .overflow
      status := .free
      tenantNetworkId := none }

/-- Seed the pool of subnets. A row whose CIDR is stored already is skipped. -/
def seedGlobalIpPool (pool : Serial GlobalIPPool) : Serial GlobalIPPool :=
  pool.addAllDistinct (·.cidr) (safeSubnets ++ overflowSubnets)

/-- The first free subnet of a part of the address space that is not locked. -/
def freeSubnet? (db : Db) (locked : List ℕ) (pool : PoolName) : Option (ℕ × GlobalIPPool) :=
  db.globalIpPool.first? fun id row => id ∉ locked ∧ row.pool = pool ∧ row.status = .free

/-- The first free VLAN of a pod that is not locked. -/
def freeVlan? (db : Db) (locked : List (ℕ × ℕ)) (podId : ℕ) :
    Option ((ℕ × ℕ) × VlanAllocation) :=
  db.vlanAllocations.first? fun key row => key ∉ locked ∧ key.1 = podId ∧ row.status = .free

/-- The subnet that the next allocation takes: a safe one as long as there is one. -/
def offeredSubnet? (db : Db) (locked : List ℕ) : Option (ℕ × GlobalIPPool) :=
  [PoolName.safe, .overflow].findSome? (freeSubnet? db locked)

/-- Allocate the next free subnet, preferring the safe part of the address space. -/
def allocateSubnet (db : Db) (locked : List ℕ) :
    Except ApiError ((ℕ × GlobalIPPool) × Db) :=
  match [PoolName.safe, .overflow].findSome? (freeSubnet? db locked) with
  | some (id, row) =>
    .ok ((id, row), { db with globalIpPool := db.globalIpPool.modify id .allocate })
  | none => .error (.valueError "IP space exhausted across all pools")

/-- Allocate the next free VLAN of a pod. -/
def allocateVlan (db : Db) (locked : List (ℕ × ℕ)) (podId : ℕ) :
    Except ApiError (ℕ × Db) :=
  match freeVlan? db locked podId with
  | some (key, _) =>
    .ok (key.2, { db with vlanAllocations := db.vlanAllocations.modify key .allocate })
  | none => .error (.valueError s!"Pod {podId} has no free VLAN IDs")

/-- Return a subnet to the pool. -/
def releaseSubnet (db : Db) (ipPoolId : ℕ) : Db :=
  { db with globalIpPool := db.globalIpPool.modify ipPoolId .release }

/-- Return a VLAN to its pod. -/
def releaseVlan (db : Db) (podId vlanId : ℕ) : Db :=
  { db with vlanAllocations := db.vlanAllocations.modify (podId, vlanId) .release }

/-- An allocated subnet was free and unlocked, and nothing else changes. -/
theorem allocateSubnet_eq_ok {db db' : Db} {locked : List ℕ} {id : ℕ} {row : GlobalIPPool}
    (h : allocateSubnet db locked = .ok ((id, row), db')) :
    db.globalIpPool.get? id = some row ∧ id ∉ locked ∧ row.status = .free ∧
      db' = { db with globalIpPool := db.globalIpPool.modify id .allocate } := by
  unfold allocateSubnet at h
  split at h
  case h_2 => cases h
  case h_1 id' row' hfound =>
    cases h
    obtain ⟨pool, -, hpool⟩ := List.exists_of_findSome?_eq_some hfound
    obtain ⟨hget, hcond⟩ := Serial.first?_eq_some hpool
    obtain ⟨hlocked, -, hfree⟩ := of_decide_eq_true hcond
    exact ⟨hget, hlocked, hfree, rfl⟩

/-- A subnet that is offered is allocated. -/
theorem allocateSubnet_of_offered {db : Db} {locked : List ℕ} {subnet : ℕ × GlobalIPPool}
    (h : offeredSubnet? db locked = some subnet) :
    allocateSubnet db locked =
      .ok (subnet, { db with globalIpPool := db.globalIpPool.modify subnet.1 .allocate }) := by
  unfold allocateSubnet
  rw [show [PoolName.safe, .overflow].findSome? _ = some subnet from h]

/-- An allocation takes the subnet that is offered. -/
theorem allocateSubnet_offered {db db' : Db} {locked : List ℕ} {subnet : ℕ × GlobalIPPool}
    (h : allocateSubnet db locked = .ok (subnet, db')) :
    offeredSubnet? db locked = some subnet := by
  unfold allocateSubnet at h
  split at h
  case h_2 => cases h
  case h_1 id row hfound =>
    cases h
    exact hfound

/-- An allocated VLAN was free and unlocked, and nothing else changes. -/
theorem allocateVlan_eq_ok {db db' : Db} {locked : List (ℕ × ℕ)} {podId vlanId : ℕ}
    (h : allocateVlan db locked podId = .ok (vlanId, db')) :
    ∃ row, db.vlanAllocations.get? (podId, vlanId) = some row ∧ (podId, vlanId) ∉ locked ∧
      row.status = .free ∧
      db' = { db with
        vlanAllocations := db.vlanAllocations.modify (podId, vlanId) .allocate } := by
  unfold allocateVlan at h
  split at h
  case h_2 => cases h
  case h_1 key row hfound =>
    cases h
    obtain ⟨hget, hcond⟩ := Table.first?_eq_some hfound
    obtain ⟨hlocked, rfl, hfree⟩ := of_decide_eq_true hcond
    exact ⟨row, hget, hlocked, hfree, rfl⟩

/-- A safe subnet has a prefix of 24 bits. -/
theorem safeSubnets_slash24 {row : GlobalIPPool} (h : row ∈ safeSubnets) :
    ∃ x : Ipv4, x.a = 172 ∧ row.cidr = x.slash24 := by
  have hlit : (toString "172.").toList =
      Nat.toDigits 10 ((172 : Fin 256) : ℕ) ++ (toString ".").toList := by decide
  obtain ⟨i, hi, rfl⟩ := List.mem_map.mp h
  have hi' : i < 4096 := List.mem_range.mp hi
  refine ⟨⟨172, ⟨16 + i / 256, by omega⟩, ⟨i % 256, by omega⟩, 0⟩, rfl, ?_⟩
  rw [Ipv4.slash24_eq]
  apply String.toList_injective
  simp [hlit]

/-- An overflow subnet has a prefix of 24 bits. -/
theorem overflowSubnets_slash24 {row : GlobalIPPool} (h : row ∈ overflowSubnets) :
    ∃ x : Ipv4, x.a = 10 ∧ row.cidr = x.slash24 := by
  have hlit : (toString "10.").toList =
      Nat.toDigits 10 ((10 : Fin 256) : ℕ) ++ (toString ".").toList := by decide
  obtain ⟨i, hi, rfl⟩ := List.mem_map.mp h
  have hi' : i < 65536 := List.mem_range.mp hi
  refine ⟨⟨10, ⟨i / 256, by omega⟩, ⟨i % 256, by omega⟩, 0⟩, rfl, ?_⟩
  rw [Ipv4.slash24_eq]
  apply String.toList_injective
  simp [hlit]

/-- Every range with a prefix of 24 bits that starts with 10 is among the overflow subnets. -/
theorem slash24_mem_overflowSubnets {x : Ipv4} (h : x.a = 10) :
    ∃ row ∈ overflowSubnets, row.cidr = x.slash24 ∧ row.pool = .overflow := by
  have hlit : (toString "10.").toList =
      Nat.toDigits 10 ((10 : Fin 256) : ℕ) ++ (toString ".").toList := by decide
  have hb := x.b.isLt
  have hc := x.c.isLt
  refine ⟨_, List.mem_map.mpr ⟨x.b * 256 + x.c, List.mem_range.mpr (by omega), rfl⟩, ?_, rfl⟩
  have hsecond : (x.b * 256 + x.c) / 256 = x.b.val := by omega
  have hthird : (x.b * 256 + x.c) % 256 = x.c.val := by omega
  rw [Ipv4.slash24_eq]
  apply String.toList_injective
  simp [hlit, hsecond, hthird, h]

/-- No safe subnet is an overflow subnet. -/
theorem safeSubnets_ne_overflowSubnets {row row' : GlobalIPPool} (h : row ∈ safeSubnets)
    (h' : row' ∈ overflowSubnets) : row.cidr ≠ row'.cidr := by
  obtain ⟨x, hx, hcidr⟩ := safeSubnets_slash24 h
  obtain ⟨y, hy, hcidr'⟩ := overflowSubnets_slash24 h'
  intro hsame
  rw [hcidr, hcidr', Ipv4.slash24_eq_iff, hx, hy] at hsame
  exact absurd hsame.1 (by decide)

/-- The rows of a seeded pool. -/
theorem seedGlobalIpPool_mem {id : ℕ} {row : GlobalIPPool}
    (h : (seedGlobalIpPool .empty).get? id = some row) :
    row ∈ safeSubnets ∨ row ∈ overflowSubnets := by
  rcases Serial.get?_addAllDistinct h with hempty | hmem
  · cases hempty
  · exact List.mem_append.mp hmem

/-- Every subnet of a seeded pool has a prefix of 24 bits. -/
theorem seedGlobalIpPool_slash24 {id : ℕ} {row : GlobalIPPool}
    (h : (seedGlobalIpPool .empty).get? id = some row) : ∃ x : Ipv4, row.cidr = x.slash24 := by
  rcases seedGlobalIpPool_mem h with hsafe | hoverflow
  · obtain ⟨x, -, hx⟩ := safeSubnets_slash24 hsafe
    exact ⟨x, hx⟩
  · obtain ⟨x, -, hx⟩ := overflowSubnets_slash24 hoverflow
    exact ⟨x, hx⟩

/-- The CIDR of every seeded row is stored. -/
theorem exists_cidr_seedGlobalIpPool {row : GlobalIPPool} (h : row ∈ safeSubnets ++ overflowSubnets) :
    ∃ id row', (seedGlobalIpPool .empty).get? id = some row' ∧ row'.cidr = row.cidr :=
  Serial.exists_key_addAllDistinct h

/-- A safe subnet is stored in a seeded pool. -/
theorem exists_safe_seedGlobalIpPool {row : GlobalIPPool} (h : row ∈ safeSubnets) :
    ∃ id row', (seedGlobalIpPool .empty).get? id = some row' ∧ row' ∈ safeSubnets ∧
      row'.cidr = row.cidr := by
  obtain ⟨id, row', hget, hcidr⟩ := exists_cidr_seedGlobalIpPool (List.mem_append_left _ h)
  rcases seedGlobalIpPool_mem hget with hsafe | hoverflow
  · exact ⟨id, row', hget, hsafe, hcidr⟩
  · exact absurd hcidr.symm (safeSubnets_ne_overflowSubnets h hoverflow)

/-- An overflow subnet is stored in a seeded pool. -/
theorem exists_overflow_seedGlobalIpPool {row : GlobalIPPool} (h : row ∈ overflowSubnets) :
    ∃ id row', (seedGlobalIpPool .empty).get? id = some row' ∧ row' ∈ overflowSubnets ∧
      row'.cidr = row.cidr := by
  obtain ⟨id, row', hget, hcidr⟩ := exists_cidr_seedGlobalIpPool (List.mem_append_right _ h)
  rcases seedGlobalIpPool_mem hget with hsafe | hoverflow
  · exact absurd hcidr (safeSubnets_ne_overflowSubnets hsafe h)
  · exact ⟨id, row', hget, hoverflow, hcidr⟩

/-- The safe subnets are seeded as free and safe. -/
theorem safeSubnets_free {row : GlobalIPPool} (h : row ∈ safeSubnets) :
    row.pool = .safe ∧ row.status = .free ∧ row.tenantNetworkId = none := by
  obtain ⟨i, -, rfl⟩ := List.mem_map.mp h
  exact ⟨rfl, rfl, rfl⟩

/-- The overflow subnets are seeded as free and overflow. -/
theorem overflowSubnets_free {row : GlobalIPPool} (h : row ∈ overflowSubnets) :
    row.pool = .overflow ∧ row.status = .free ∧ row.tenantNetworkId = none := by
  obtain ⟨i, -, rfl⟩ := List.mem_map.mp h
  exact ⟨rfl, rfl, rfl⟩

/-- The seeded subnets and their gateways are not empty texts. -/
theorem seedGlobalIpPool_ne {row : GlobalIPPool} (h : row ∈ safeSubnets ∨ row ∈ overflowSubnets) :
    row.gatewayIp ≠ "" ∧ row.cidr ≠ "" := by
  have hne : ∀ {first rest : String}, first ≠ "" → first ++ rest ≠ "" := by
    intro first rest hfirst hempty
    exact hfirst (String.append_eq_empty_iff.mp hempty).1
  rcases h with h | h <;> obtain ⟨i, -, rfl⟩ := List.mem_map.mp h
  all_goals
    constructor
    all_goals
      refine hne (hne (hne (hne ?_)))
      decide

/-- The seeded subnets are different. -/
theorem seedGlobalIpPool_injective {id id' : ℕ} {row row' : GlobalIPPool}
    (h : (seedGlobalIpPool .empty).get? id = some row)
    (h' : (seedGlobalIpPool .empty).get? id' = some row') (hcidr : row.cidr = row'.cidr) :
    id = id' :=
  Serial.key_injective_addAllDistinct (fun _ _ _ _ hk => by cases hk) h h' hcidr

-- A seeded pool is known by these lemmas; its rows are too many to compute with.
attribute [irreducible] seedGlobalIpPool

end ProxmoxIaas
