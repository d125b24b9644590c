import Mathlib.Data.List.Sort
import ProxmoxIaas.Foundation.Numerals
import ProxmoxIaas.Iam.Permissions

/-!
# Audit Logs

The two endpoints that read the audit log. The list is restricted to the tenant that a header
names, after a check of the permission to read it, or else to the tenant the user was registered
in, without a check. The single entry is restricted to the tenant the user was registered in,
after a check of the permission in it. A user without a tenant is compared with rows without one.

## Main results

- `onlyVisible_iff`: the rows of a reply are visible to the user exactly under a condition on the
  request.
- `not_onlyVisible`: a viewer without any permission reads the audit log of the tenant.
-/

namespace ProxmoxIaas

/-- A row of `audit_logs`. -/
structure AuditLog where
  /-- When it was written. -/
  timestamp : ℤ
  /-- Who acted. -/
  actorId : Option ℕ
  /-- The name of who acted. -/
  actorUsername : String
  /-- What was done. -/
  action : String
  /-- The kind of object it was done to. -/
  targetType : String
  /-- The object. -/
  targetId : Option ℤ
  /-- The name of the object. -/
  targetName : Option String
  /-- The value before. -/
  oldValue : Option String
  /-- The value after. -/
  newValue : Option String
  /-- Details. -/
  details : Option String
  /-- The request. -/
  requestId : Option String
  /-- The address of the client. -/
  ipAddress : Option String
  /-- The tenant the row belongs to. -/
  tenantId : Option ℕ
  deriving DecidableEq, Repr

/-- The account tables and the audit log. -/
structure AuditDb where
  /-- The account tables. -/
  iam : IamDb
  /-- Table `audit_logs`. -/
  auditLogs : Serial AuditLog

/-- The parameters of `get_audit_logs`, after their validation. -/
structure AuditQuery where
  /-- Filter by action. -/
  action : Option String
  /-- Filter by the kind of object. -/
  targetType : Option String
  /-- Filter by actor. -/
  actorId : Option ℤ
  /-- Filter by object. -/
  targetId : Option ℤ
  /-- The first moment. -/
  startDate : Option ℤ
  /-- The last moment. -/
  endDate : Option ℤ
  /-- Number of rows to skip. -/
  skip : ℕ
  /-- Number of rows to return. -/
  limit : ℕ
  /-- At least one row is returned, and at most a thousand. -/
  limit_range : 1 ≤ limit ∧ limit ≤ 1000

/-- The reply of `get_audit_logs`. -/
structure AuditPage where
  /-- Number of rows that match. -/
  total : ℕ
  /-- The rows of the page, with their ids. -/
  logs : List (ℕ × AuditLog)
  /-- Number of rows that were skipped. -/
  skip : ℕ
  /-- Number of rows that were asked for. -/
  limit : ℕ

/-- Whether a row passes the filters of a query. An empty text and a zero filter nothing. -/
def AuditQuery.matches (query : AuditQuery) (log : AuditLog) : Bool :=
  ((truthyText query.action).all fun action => log.action = action) &&
  ((truthyText query.targetType).all fun targetType => log.targetType = targetType) &&
  ((query.actorId.filter (· ≠ 0)).all fun actorId => columnIs (some actorId) log.actorId) &&
  ((query.targetId.filter (· ≠ 0)).all fun targetId => log.targetId = some targetId) &&
  (query.startDate.all fun startDate => startDate ≤ log.timestamp) &&
  query.endDate.all fun endDate => log.timestamp ≤ endDate

/-- The tenant that the header `X-Tenant-ID` names, if it is an integer other than zero. -/
def headerTenant (header : Option String) : Option ℤ :=
  ((truthyText header).bind fun text => Text.integer? text.toList).filter (· ≠ 0)

/-- The tenant the user was registered in, as a value to compare a column with. -/
def User.tenantValue (user : User) : Option ℤ := user.tenantId.map Int.ofNat

/-- The permission to read the audit log. -/
def canReadAudit (db : AuditDb) (userId : ℕ) (tenantId : Option ℤ) : Bool :=
  hasPermission db.iam userId tenantId "audit:read"

/-- The rows of some tenant, or of all, that pass the filters of a query. -/
def matchingLogs (db : AuditDb) (scope : Option (Option ℤ)) (query : AuditQuery) :
    List (ℕ × AuditLog) :=
  db.auditLogs.select fun _ log =>
    (scope.all fun tenantId => columnIs tenantId log.tenantId) && query.matches log

/-- The rows of a page, the latest first. -/
def pageOf (query : AuditQuery) (logs : List (ℕ × AuditLog)) : List (ℕ × AuditLog) :=
  ((logs.insertionSort fun log log' => log'.2.timestamp ≤ log.2.timestamp).drop query.skip).take
    query.limit

/-- `get_audit_logs`. -/
def getAuditLogs (db : AuditDb) (userId : ℕ) (header : Option String) (query : AuditQuery) :
    Except ApiError AuditPage := do
  let user ← currentUser db.iam userId
  let named := headerTenant header
  Except.require (.http 403 "audit:read permission required for current tenant")
    (isSuperAdmin db.iam userId = true ∨
      ∀ tenantId ∈ named, canReadAudit db userId (some tenantId) = true)
  let scope := if isSuperAdmin db.iam userId then none else some (named.or user.tenantValue)
  let logs := matchingLogs db scope query
  return {
    total := logs.length
    logs := pageOf query logs
    skip := query.skip
    limit := query.limit }

/-- `get_audit_log`. -/
def getAuditLog (db : AuditDb) (userId logId : ℕ) : Except ApiError AuditLog := do
  let user ← currentUser db.iam userId
  Except.require (.http 403 "audit:read permission required")
    (isSuperAdmin db.iam userId = true ∨ canReadAudit db userId user.tenantValue = true)
  let log ← Except.ofOption (.http 404 "Audit log not found") (db.auditLogs.get? logId)
  Except.require (.http 403 "Access denied to view audit log from different tenant")
    (isSuperAdmin db.iam userId = true ∨ log.tenantId = user.tenantId)
  return log

/-- A request to read the audit log. -/
inductive AuditRequest where
  /-- `get_audit_logs`, with the header `X-Tenant-ID`. -/
  | list (header : Option String) (query : AuditQuery)
  /-- `get_audit_log`. -/
  | entry (logId : ℕ)

/-- The rows of the reply to a request. -/
def auditRows (db : AuditDb) (userId : ℕ) : AuditRequest → Except ApiError (List AuditLog)
  | .list header query => do
    let page ← getAuditLogs db userId header query
    return page.logs.map (·.2)
  | .entry logId => do
    let log ← getAuditLog db userId logId
    return [log]

/-- A row belongs to a tenant whose audit log the user may read. -/
def Visible (db : AuditDb) (userId : ℕ) (log : AuditLog) : Prop :=
  ∃ tenantId : ℕ, log.tenantId = some tenantId ∧ canReadAudit db userId (some tenantId) = true

/-- The reply to a request has only rows that are visible to the user. -/
def OnlyVisible (db : AuditDb) (userId : ℕ) (request : AuditRequest) : Prop :=
  ∀ logs, auditRows db userId request = .ok logs → ∀ log ∈ logs, Visible db userId log

/-- The condition on a request. A list is asked for under a header that names a tenant, or by a
user who may read the audit log of the tenant the user was registered in, or skips all rows that
match. An entry is asked for by a user with a tenant, or by one without the permission, or does
not exist or has a tenant. -/
def asksVisibly (db : AuditDb) (userId : ℕ) (user : User) : AuditRequest → Bool
  | .list header query => (headerTenant header).isSome ||
      (user.tenantId.any fun tenantId : ℕ => canReadAudit db userId (some (tenantId : ℤ))) ||
      (matchingLogs db (some user.tenantValue) query).length ≤ query.skip
  | .entry logId => user.tenantId.isSome || !canReadAudit db userId none ||
      (db.auditLogs.get? logId).all fun log => log.tenantId.isSome

/-- The rows of a page are among the rows that match. -/
theorem mem_of_mem_pageOf {query : AuditQuery} {logs : List (ℕ × AuditLog)} {row : ℕ × AuditLog}
    (h : row ∈ pageOf query logs) : row ∈ logs :=
  (List.perm_insertionSort _ logs).mem_iff.mp (List.mem_of_mem_drop (List.mem_of_mem_take h))

/-- A page that does not skip all rows has a row. -/
theorem exists_mem_pageOf {query : AuditQuery} {logs : List (ℕ × AuditLog)}
    (h : query.skip < logs.length) : ∃ row, row ∈ pageOf query logs := by
  apply List.exists_mem_of_length_pos
  have hlimit := query.limit_range.1
  rw [pageOf, List.length_take, List.length_drop, List.length_insertionSort]
  omega

/-- A row that matches has the tenant of the scope. -/
theorem columnIs_of_mem_matchingLogs {db : AuditDb} {tenantId : Option ℤ} {query : AuditQuery}
    {row : ℕ × AuditLog} (h : row ∈ matchingLogs db (some tenantId) query) :
    columnIs tenantId row.2.tenantId = true := by
  rw [matchingLogs] at h
  obtain ⟨-, hfits⟩ := Table.mem_select.mp h
  exact (Bool.and_eq_true_iff.mp hfits).1

section Reply

variable {db : AuditDb} {userId : ℕ} {user : User}
  (huser : currentUser db.iam userId = .ok user) (hsuper : isSuperAdmin db.iam userId = false)
include huser hsuper

/-- The rows of a list that is replied to a user who is no super admin. -/
theorem auditRows_list {header : Option String} {query : AuditQuery} {logs : List AuditLog} :
    auditRows db userId (.list header query) = .ok logs ↔
      (∀ tenantId ∈ headerTenant header, canReadAudit db userId (some tenantId) = true) ∧
        logs = (pageOf query (matchingLogs db
          (some ((headerTenant header).or user.tenantValue)) query)).map (·.2) := by
  simp only [auditRows, getAuditLogs, huser, hsuper, Except.bind_eq_ok_iff,
    Except.require_eq_ok_iff, Except.pure_eq_ok_iff, Bool.false_eq_true, false_or, if_false]
  constructor
  · rintro ⟨page, ⟨_, ⟨⟩, _, hallowed, rfl⟩, rfl⟩
    exact ⟨hallowed, rfl⟩
  · rintro ⟨hallowed, rfl⟩
    exact ⟨_, ⟨user, rfl, ⟨⟩, hallowed, rfl⟩, rfl⟩

/-- The row of an entry that is replied to a user who is no super admin. -/
theorem auditRows_entry {logId : ℕ} {logs : List AuditLog} :
    auditRows db userId (.entry logId) = .ok logs ↔
      canReadAudit db userId user.tenantValue = true ∧ ∃ log,
        db.auditLogs.get? logId = some log ∧ log.tenantId = user.tenantId ∧ logs = [log] := by
  simp only [auditRows, getAuditLog, huser, hsuper, Except.bind_eq_ok_iff,
    Except.ofOption_eq_ok_iff, Except.require_eq_ok_iff, Except.pure_eq_ok_iff,
    Bool.false_eq_true, false_or]
  constructor
  · rintro ⟨_, ⟨_, ⟨⟩, _, hallowed, log, hget, _, hsame, rfl⟩, rfl⟩
    exact ⟨hallowed, log, hget, hsame, rfl⟩
  · rintro ⟨hallowed, log, hget, hsame, rfl⟩
    exact ⟨log, ⟨user, rfl, ⟨⟩, hallowed, log, hget, ⟨⟩, hsame, rfl⟩, rfl⟩

/-- A list has only visible rows exactly under the condition. -/
theorem onlyVisible_list_iff (header : Option String) (query : AuditQuery) :
    OnlyVisible db userId (.list header query) ↔
      asksVisibly db userId user (.list header query) = true := by
  simp only [asksVisibly, Bool.or_eq_true, decide_eq_true_eq, OnlyVisible,
    auditRows_list huser hsuper]
  cases hheader : headerTenant header with
  | some named =>
    -- The permission was checked for the tenant of the rows.
    refine iff_of_true ?_ (Or.inl (Or.inl rfl))
    rintro _ ⟨hallowed, rfl⟩ log hlog
    obtain ⟨row, hrow, rfl⟩ := List.mem_map.mp hlog
    obtain ⟨tenantId, htenant, rfl⟩ :=
      columnIs_some (columnIs_of_mem_matchingLogs (mem_of_mem_pageOf hrow))
    exact ⟨tenantId, htenant, hallowed _ rfl⟩
  | none =>
    simp only [Option.not_mem_none, false_implies, implies_true, true_and, Option.none_or,
      forall_eq, Option.isSome_none, Bool.false_eq_true, false_or]
    have hown : ∀ {row}, row ∈ pageOf query (matchingLogs db (some user.tenantValue) query) →
        row.2.tenantId = user.tenantId := fun hrow =>
      eq_of_columnIs (columnIs_of_mem_matchingLogs (mem_of_mem_pageOf hrow))
        (columnIs_iff.mpr rfl)
    constructor
    · intro hvisible
      by_cases hskip : (matchingLogs db (some user.tenantValue) query).length ≤ query.skip
      · exact Or.inr hskip
      · left
        obtain ⟨row, hrow⟩ := exists_mem_pageOf (not_le.mp hskip)
        obtain ⟨tenantId, htenant, hread⟩ := hvisible row.2 (List.mem_map_of_mem hrow)
        rw [hown hrow] at htenant
        rw [htenant, Option.any_some, hread]
    · rintro (hread | hskip) log hlog
      · obtain ⟨row, hrow, rfl⟩ := List.mem_map.mp hlog
        obtain ⟨tenantId, htenant, hread⟩ := (Option.any_eq_true ..).mp hread
        exact ⟨tenantId, (hown hrow).trans htenant, hread⟩
      · exfalso
        obtain ⟨row, hrow, rfl⟩ := List.mem_map.mp hlog
        rw [pageOf, List.drop_eq_nil_of_le (by rwa [List.length_insertionSort]),
          List.take_nil] at hrow
        cases hrow

/-- An entry has only visible rows exactly under the condition. -/
theorem onlyVisible_entry_iff (logId : ℕ) :
    OnlyVisible db userId (.entry logId) ↔ asksVisibly db userId user (.entry logId) = true := by
  simp only [asksVisibly, Bool.or_eq_true, Bool.not_eq_true', OnlyVisible,
    auditRows_entry huser hsuper]
  cases htenant : user.tenantId with
  | some tenantId =>
    refine iff_of_true ?_ (Or.inl (Or.inl rfl))
    rintro _ ⟨hallowed, log, -, hsame, rfl⟩ log' hlog'
    obtain rfl := List.mem_singleton.mp hlog'
    refine ⟨tenantId, hsame, ?_⟩
    rwa [User.tenantValue, htenant] at hallowed
  | none =>
    have hvalue : user.tenantValue = none := by rw [User.tenantValue, htenant, Option.map_none]
    rw [hvalue]
    cases hget : db.auditLogs.get? logId with
    | none => simp
    | some log =>
      simp only [Option.isSome_none, Bool.false_eq_true, false_or, Option.all_some]
      constructor
      · intro hvisible
        by_cases hallowed : canReadAudit db userId none = true
        · right
          by_contra hnull
          have hsame : log.tenantId = none := by simpa using hnull
          obtain ⟨tenantId, hsome, -⟩ := hvisible [log] ⟨hallowed, log, rfl, hsame, rfl⟩ log
            (List.mem_singleton_self log)
          rw [hsame] at hsome
          cases hsome
        · exact Or.inl (Bool.eq_false_of_not_eq_true hallowed)
      · rintro hcases _ ⟨hallowed, log', hlog', hsame, rfl⟩ log'' hlog''
        exfalso
        obtain rfl := Option.some.inj hlog'
        rcases hcases with hrefused | hsome
        · rw [hallowed] at hrefused
          cases hrefused
        · rw [hsame] at hsome
          cases hsome

/-- The reply to a user who is no super admin has only visible rows exactly under the
condition. -/
theorem onlyVisible_iff (request : AuditRequest) :
    OnlyVisible db userId request ↔ asksVisibly db userId user request = true := by
  cases request with
  | list header query => exact onlyVisible_list_iff huser hsuper header query
  | entry logId => exact onlyVisible_entry_iff huser hsuper logId

end Reply

/-- One tenant with an auditor and a viewer, and one row of its audit log. -/
def auditDb : AuditDb where
  iam := {
    tenants := Serial.empty.add ⟨"First", "first"⟩
    users := (Serial.empty.add ⟨"ann", "ann@first.example", true, some 1⟩).add
      ⟨"bob", "bob@first.example", true, some 1⟩
    permissions := (Serial.empty.add "vm:read").add "audit:read"
    roles := (Serial.empty.add ⟨"viewer", none, none, true, false, {1}⟩).add
      ⟨"auditor", none, some 1, false, false, {2}⟩
    userRoles := (Serial.empty.add ⟨1, some 1, 2, none⟩).add ⟨2, some 1, 1, none⟩
    invitations := .empty }
  auditLogs := Serial.empty.add {
    timestamp := 0
    actorId := some 1
    actorUsername := "ann"
    action := "vm_create"
    targetType := "vm"
    targetId := some 1
    targetName := some "web"
    oldValue := none
    newValue := none
    details := none
    requestId := none
    ipAddress := none
    tenantId := some 1 }

/-- A query without filters. -/
def plainQuery : AuditQuery :=
  ⟨none, none, none, none, none, none, 0, 100, by decide, by decide⟩

/-- The auditor asks without a header. -/
theorem onlyVisible_auditor : OnlyVisible auditDb 1 (.list none plainQuery) := by
  have huser : currentUser auditDb.iam 1 = .ok ⟨"ann", "ann@first.example", true, some 1⟩ := rfl
  exact (onlyVisible_iff huser (by decide +kernel) _).mpr (by decide +kernel)

/-- The viewer asks without a header and is shown the audit log of the tenant. -/
theorem not_onlyVisible :
    ¬ ∀ db userId user request, currentUser db.iam userId = .ok user →
      isSuperAdmin db.iam userId = false → OnlyVisible db userId request := by
  intro h
  have huser : currentUser auditDb.iam 2 = .ok ⟨"bob", "bob@first.example", true, some 1⟩ := rfl
  have hvisible := h auditDb 2 _ (.list none plainQuery) huser (by decide +kernel)
  have hrows : auditRows auditDb 2 (.list none plainQuery) =
      .ok ((auditDb.auditLogs.get? 1).toList) := by decide +kernel
  obtain ⟨tenantId, htenant, hread⟩ := hvisible _ hrows _ (List.mem_singleton_self _)
  have hone : tenantId = 1 := (Option.some.inj htenant).symm
  rw [hone] at hread
  revert hread
  decide +kernel

end ProxmoxIaas
