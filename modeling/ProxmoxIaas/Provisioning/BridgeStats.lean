import Mathlib.Algebra.Order.Ring.Int
import Mathlib.Data.List.Sort
import ProxmoxIaas.Iam.Model

/-!
# Statistics of the Bridge Pool

Two endpoints report how many bridges there are, how many are available and how many are in use.
The one that also lists bridges counts those of its page once more.

## Main results

- `getBridgeStats_eq_ok`: the endpoint for statistics adds up.
- `sameCounts_iff`: the endpoints agree if and only if the page of the list is empty.
- `not_sameCounts`: a list of one bridge reports two of them.
-/

namespace ProxmoxIaas

namespace BridgeStats

/-- The text stored for the status of a bridge. -/
def statusText : BridgeStatus → String
  | .available => "available"
  | .inUse => "in_use"

/-- The tables that the endpoints read. -/
structure BridgeDb where
  /-- The account tables. -/
  iam : IamDb
  /-- Table `bridge_pool`. -/
  bridgePool : Table ℕ BridgePool
  /-- When a bridge was allocated. -/
  allocatedAt : ℕ → Option String

/-- The parameters of `list_bridges`. -/
structure BridgeQuery where
  /-- Filter by status. -/
  statusFilter : Option String
  /-- Number of rows to skip. -/
  skip : ℤ
  /-- Number of rows to return. -/
  limit : ℤ
  deriving DecidableEq, Repr

/-- A bridge as it is listed. -/
structure BridgePoolEntry where
  /-- The number of the bridge. -/
  bridgeId : ℕ
  /-- Its status. -/
  status : String
  /-- The tenant that owns it. -/
  tenantId : Option ℕ
  /-- The name of this tenant. -/
  tenantName : Option String
  /-- When it was allocated. -/
  allocatedAt : Option String
  deriving DecidableEq, Repr

/-- The reply of `get_bridge_stats`. -/
structure BridgePoolStats where
  /-- Number of bridges. -/
  total : ℕ
  /-- Number of bridges that are available. -/
  available : ℕ
  /-- Number of bridges that are in use. -/
  inUse : ℕ
  deriving DecidableEq, Repr

/-- The reply of `list_bridges`. -/
structure BridgePoolResponse where
  /-- The numbers of the reply. -/
  stats : BridgePoolStats
  /-- The bridges of the page. -/
  bridges : List BridgePoolEntry
  /-- Number of rows that were skipped. -/
  skip : ℤ
  /-- Number of rows that were asked for. -/
  limit : ℤ
  /-- Number of rows that pass the filter. -/
  totalFiltered : ℕ
  deriving DecidableEq, Repr

/-- The counts of the table. -/
def countBridges (db : BridgeDb) : BridgePoolStats where
  total := db.bridgePool.count fun _ => true
  available := db.bridgePool.count fun bridge => bridge.status = .available
  inUse := db.bridgePool.count fun bridge => bridge.status = .inUse

/-- Whether a bridge passes the filter. An empty text filters nothing. -/
def BridgeQuery.matches (query : BridgeQuery) (bridge : BridgePool) : Bool :=
  (truthyText query.statusFilter).all fun text => statusText bridge.status = text

/-- The bridges that pass the filter, in the order of their numbers. -/
def matchingBridges (db : BridgeDb) (query : BridgeQuery) : List (ℕ × BridgePool) :=
  (db.bridgePool.select fun _ bridge => query.matches bridge).insertionSort fun a b => a.1 ≤ b.1

/-- The database takes an offset or a limit that is not negative and fits in eight bytes. -/
def IsBound (n : ℤ) : Prop := 0 ≤ n ∧ n < 2 ^ 63

instance (n : ℤ) : Decidable (IsBound n) := inferInstanceAs (Decidable (_ ∧ _))

/-- The bridges of the page. -/
def pageOf (db : BridgeDb) (query : BridgeQuery) : List (ℕ × BridgePool) :=
  ((matchingBridges db query).drop query.skip.toNat).take query.limit.toNat

/-- The entry of a bridge. -/
def entryOf (db : BridgeDb) (row : ℕ × BridgePool) : BridgePoolEntry where
  bridgeId := row.1
  status := statusText row.2.status
  tenantId := row.2.tenantId
  tenantName := (truthy row.2.tenantId).bind fun id => (db.iam.tenants.get? id).map (·.name)
  allocatedAt := db.allocatedAt row.1

/-- A bridge of the page is counted again. -/
def BridgePoolStats.add (stats : BridgePoolStats) (row : ℕ × BridgePool) : BridgePoolStats :=
  if row.2.status = .available then { stats with available := stats.available + 1 }
  else { stats with inUse := stats.inUse + 1 }

/-- The check of both endpoints. -/
def requireSuperAdmin (db : BridgeDb) (userId : ℕ) : Except ApiError Unit := do
  let _ ← currentUser db.iam userId
  Except.require (.http 403 "Super admin access required") (isSuperAdmin db.iam userId = true)

/-- `list_bridges`. -/
def listBridges (db : BridgeDb) (userId : ℕ) (query : BridgeQuery) :
    Except ApiError BridgePoolResponse := do
  requireSuperAdmin db userId
  Except.require integrityError (IsBound query.skip ∧ IsBound query.limit)
  let page := pageOf db query
  return {
    stats := page.foldl .add (countBridges db)
    bridges := page.map (entryOf db)
    skip := query.skip
    limit := query.limit
    totalFiltered := (matchingBridges db query).length }

/-- `get_bridge_stats`. -/
def getBridgeStats (db : BridgeDb) (userId : ℕ) : Except ApiError BridgePoolStats := do
  requireSuperAdmin db userId
  return countBridges db

/-- The numbers of a reply add up. -/
def BridgePoolStats.AddsUp (stats : BridgePoolStats) : Prop :=
  stats.total = stats.available + stats.inUse

/-- The endpoints report the same numbers, and these add up. -/
def SameCounts (db : BridgeDb) (userId : ℕ) (query : BridgeQuery) : Prop :=
  ∀ page stats, listBridges db userId query = .ok page → getBridgeStats db userId = .ok stats →
    page.stats = stats ∧ page.stats.AddsUp ∧ stats.AddsUp

/-- A bridge that is not available is in use. -/
theorem addsUp_countBridges (db : BridgeDb) : (countBridges db).AddsUp := by
  have hrest : db.bridgePool.count (fun bridge => bridge.status = .inUse) =
      db.bridgePool.entries.countP fun row => ¬ row.2.status = .available := by
    refine List.countP_congr fun row _ => ?_
    cases hstatus : row.2.status with
    | available => simp [hstatus]
    | inUse => simp [hstatus]
  unfold BridgePoolStats.AddsUp countBridges
  dsimp only
  rw [hrest, Table.count, Table.count, List.countP_true]
  simpa using List.length_eq_countP_add_countP (l := db.bridgePool.entries)
    fun row => decide (row.2.status = .available)

/-- The endpoint for statistics reports the counts of the table. -/
theorem getBridgeStats_eq_ok {db : BridgeDb} {userId : ℕ} {stats : BridgePoolStats} :
    getBridgeStats db userId = .ok stats ↔
      requireSuperAdmin db userId = .ok () ∧ countBridges db = stats := by
  simp only [getBridgeStats, Except.bind_eq_ok_iff, Except.pure_eq_ok_iff]
  constructor
  · rintro ⟨_, h⟩
    exact h
  · exact fun h => ⟨(), h⟩

/-- A bridge of a page adds one to the two counts together. -/
theorem BridgePoolStats.foldl_add (page : List (ℕ × BridgePool)) (stats : BridgePoolStats) :
    (page.foldl BridgePoolStats.add stats).available +
        (page.foldl BridgePoolStats.add stats).inUse =
      stats.available + stats.inUse + page.length := by
  induction page generalizing stats with
  | nil => rfl
  | cons row page ih =>
    rw [List.foldl_cons, ih, List.length_cons]
    unfold BridgePoolStats.add
    split
    case isTrue => dsimp only; omega
    case isFalse => dsimp only; omega

/-- Counting a page again leaves the counts as they are only if the page is empty. -/
theorem BridgePoolStats.foldl_add_eq_self_iff {page : List (ℕ × BridgePool)}
    {stats : BridgePoolStats} : page.foldl BridgePoolStats.add stats = stats ↔ page = [] := by
  constructor
  · intro h
    have hlength := BridgePoolStats.foldl_add page stats
    rw [h] at hlength
    exact List.length_eq_zero_iff.mp (by omega)
  · rintro rfl
    rfl

/-- A page is empty if it ends where it starts, or starts behind the last bridge. -/
theorem pageOf_eq_nil_iff {db : BridgeDb} {query : BridgeQuery} (hskip : 0 ≤ query.skip)
    (hlimit : 0 ≤ query.limit) :
    pageOf db query = [] ↔
      query.limit = 0 ∨ ((matchingBridges db query).length : ℤ) ≤ query.skip := by
  rw [← List.length_eq_zero_iff, pageOf, List.length_take, List.length_drop]
  omega

/-- The endpoints report the same exactly for requests that are refused and for pages without a
bridge. -/
theorem sameCounts_iff (db : BridgeDb) (userId : ℕ) (query : BridgeQuery) :
    SameCounts db userId query ↔
      (requireSuperAdmin db userId = .ok () → IsBound query.skip → IsBound query.limit →
        query.limit = 0 ∨ ((matchingBridges db query).length : ℤ) ≤ query.skip) := by
  simp only [SameCounts, getBridgeStats_eq_ok, listBridges, Except.bind_eq_ok_iff,
    Except.require_eq_ok_iff, Except.pure_eq_ok_iff]
  constructor
  · intro hsame hadmin hskip hlimit
    obtain ⟨hstats, -⟩ :=
      hsame _ _ ⟨(), hadmin, ⟨⟩, ⟨hskip, hlimit⟩, rfl⟩ ⟨hadmin, rfl⟩
    rw [← pageOf_eq_nil_iff hskip.1 hlimit.1]
    exact BridgePoolStats.foldl_add_eq_self_iff.mp hstats
  · rintro hempty page stats ⟨_, hadmin, _, ⟨hskip, hlimit⟩, rfl⟩ ⟨-, rfl⟩
    have hnil := (pageOf_eq_nil_iff hskip.1 hlimit.1).mpr (hempty hadmin hskip hlimit)
    have hstats : (pageOf db query).foldl BridgePoolStats.add (countBridges db) = countBridges db :=
      BridgePoolStats.foldl_add_eq_self_iff.mpr hnil
    refine ⟨hstats, ?_, addsUp_countBridges db⟩
    dsimp only
    rw [hstats]
    exact addsUp_countBridges db

/-- A super admin and one bridge that is available. -/
def oneBridge : BridgeDb where
  iam :=
    { tenants := .empty
      users := Serial.empty.add ⟨"root", "root@cloud.example", true, none⟩
      permissions := .empty
      roles := Serial.empty.add ⟨"super_admin", none, none, true, true, ∅⟩
      userRoles := Serial.empty.add ⟨1, none, 1, none⟩
      invitations := .empty }
  bridgePool := (∅ : Table ℕ BridgePool).insert 100 ⟨.available, none⟩
  allocatedAt _ := none

/-- The default page of a pool with one bridge reports that two are available. -/
theorem not_sameCounts : ¬ SameCounts oneBridge 1 ⟨none, 0, 100⟩ := by
  intro h
  have hpage : ∃ page, listBridges oneBridge 1 ⟨none, 0, 100⟩ = .ok page ∧
      page.stats.available = 2 := ⟨_, rfl, by decide⟩
  have hstats : ∃ stats, getBridgeStats oneBridge 1 = .ok stats ∧ stats.available = 1 :=
    ⟨_, rfl, by decide⟩
  obtain ⟨page, hlist, htwo⟩ := hpage
  obtain ⟨stats, hget, hone⟩ := hstats
  have heq := (h page stats hlist hget).1
  rw [heq, hone] at htwo
  exact absurd htwo (by decide)

end BridgeStats

end ProxmoxIaas
