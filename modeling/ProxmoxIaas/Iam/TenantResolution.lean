import ProxmoxIaas.Foundation.Numerals
import ProxmoxIaas.Iam.Model

/-!
# The Tenant of a Request

The tenant that a request acts on is found from its headers: a super admin may impersonate a
tenant, a header or the subdomain may name one, and otherwise it is the tenant the user was
registered in. A header that is no integer, or that names no tenant, falls through to the next
rule.

## Main results

- `getCurrentTenant_sound`: the tenant is active, and the user belongs to it or is a super admin.
-/

namespace ProxmoxIaas

/-- The account tables together with the activity of the tenants. -/
structure AccessDb where
  /-- The account tables. -/
  iam : IamDb
  /-- Column `is_active` of `tenants`, by the id of the row. -/
  tenantActive : ℕ → Bool

/-- The headers of a request that name a tenant. -/
structure TenantHeaders where
  /-- `X-Impersonate-Tenant-ID`. -/
  impersonateTenantId : Option String
  /-- `X-Tenant-ID`. -/
  tenantId : Option String
  /-- `Host`. -/
  host : Option String
  deriving DecidableEq, Repr

/-- What a header says about the tenant. -/
inductive TenantRef where
  /-- The id of a tenant. -/
  | byId (id : ℤ)
  /-- The short name of a tenant. -/
  | bySlug (slug : String)
  deriving DecidableEq, Repr

/-- Whether a reference counts as present. -/
def TenantRef.truthy : TenantRef → Bool
  | .byId id => id ≠ 0
  | .bySlug slug => slug ≠ ""

/-- The tenant that a reference names. -/
def AccessDb.findTenant? (db : AccessDb) : TenantRef → Option ℕ
  | .byId id => (db.iam.tenants.first? fun key _ => (key : ℤ) = id).map (·.1)
  | .bySlug slug => (db.iam.tenants.first? fun _ tenant => tenant.slug = slug).map (·.1)

/-- `extract_tenant_from_request`. A header that is no integer is skipped. -/
def extractTenant (headers : TenantHeaders) : Option TenantRef :=
  match (truthyText headers.tenantId).bind fun text => Text.integer? text.toList with
  | some id => some (.byId id)
  | none =>
    let host := (headers.host.getD "").toList
    let subdomain := String.ofList (Text.before '.' host)
    if '.' ∈ host ∧ subdomain ∉ ["www", "api", "localhost"] then some (.bySlug subdomain) else none

/-- The tenant that a super admin impersonates. The header is an id if it is an integer, and a
short name otherwise. -/
def impersonated? (db : AccessDb) (userId : ℕ) (headers : TenantHeaders) : Option ℕ := do
  let text ← truthyText headers.impersonateTenantId
  let reference := (Text.integer? text.toList).elim (.bySlug text) .byId
  let tenantId ← db.findTenant? reference
  Option.require (db.tenantActive tenantId = true ∧ isSuperAdmin db.iam userId = true)
  return tenantId

/-- The tenants that a user belongs to: those of the role assignments, and the one the user was
registered in. -/
def userTenantIds (db : IamDb) (userId : ℕ) (user : User) : List (Option ℕ) :=
  ((db.userRoles.select fun _ userRole => userRole.userId = userId).map
    fun (_, userRole) => userRole.tenantId).dedup ++ [user.tenantId]

/-- The check of a tenant that the request names. -/
def checkTenant (db : AccessDb) (userId : ℕ) (user : User) (tenantId : ℕ) :
    Except ApiError ℕ := do
  Except.require (.http 403 "Tenant is inactive") (db.tenantActive tenantId = true)
  Except.require (.http 403 "You do not have access to this tenant")
    (isSuperAdmin db.iam userId = true ∨ some tenantId ∈ userTenantIds db.iam userId user)
  return tenantId

/-- The tenant the user was registered in, for a request that names no tenant. -/
def ownTenant (db : AccessDb) (user : User) (reference : Option TenantRef) : Except ApiError ℕ :=
  match (truthy user.tenantId).filter fun tenantId =>
      (db.iam.tenants.get? tenantId).isSome && db.tenantActive tenantId with
  | some tenantId => .ok tenantId
  | none =>
    match reference with
    | none => .error (.http 400
        "Tenant not specified. Provide X-Tenant-ID header or access via tenant subdomain.")
    | some _ => .error (.http 404 "Tenant not found")

/-- `get_current_tenant`. -/
def getCurrentTenant (db : AccessDb) (userId : ℕ) (headers : TenantHeaders) :
    Except ApiError ℕ := do
  let user ← currentUser db.iam userId
  match impersonated? db userId headers with
  | some tenantId => return tenantId
  | none =>
    let reference := (extractTenant headers).filter (·.truthy)
    match reference.bind db.findTenant? with
    | some tenantId => checkTenant db userId user tenantId
    | none => ownTenant db user reference

/-! ## Membership -/

/-- A user belongs to a tenant by registration or by a role in it. -/
def IsMember (db : IamDb) (userId tenantId : ℕ) : Prop :=
  (∃ user, db.users.get? userId = some user ∧ user.tenantId = some tenantId) ∨
    ∃ id userRole, db.userRoles.get? id = some userRole ∧ userRole.userId = userId ∧
      userRole.tenantId = some tenantId

/-- The list of a user's tenants has the tenants that the user belongs to. -/
theorem isMember_of_mem_userTenantIds {db : IamDb} {userId tenantId : ℕ} {user : User}
    (huser : db.users.get? userId = some user)
    (h : some tenantId ∈ userTenantIds db userId user) : IsMember db userId tenantId := by
  rcases List.mem_append.mp h with hrole | hown
  · right
    obtain ⟨⟨id, userRole⟩, hselect, htenant⟩ := List.mem_map.mp (List.mem_dedup.mp hrole)
    obtain ⟨hget, hfits⟩ := Table.mem_select.mp hselect
    exact ⟨id, userRole, hget, of_decide_eq_true hfits, htenant⟩
  · left
    exact ⟨user, huser, (List.mem_singleton.mp hown).symm⟩

/-- A reference names a stored tenant. -/
theorem exists_of_findTenant? {db : AccessDb} {reference : TenantRef} {tenantId : ℕ}
    (h : db.findTenant? reference = some tenantId) :
    ∃ tenant, db.iam.tenants.get? tenantId = some tenant := by
  cases reference with
  | byId id =>
    obtain ⟨⟨key, tenant⟩, hfirst, rfl⟩ := Option.map_eq_some_iff.mp h
    exact ⟨tenant, (Serial.first?_eq_some hfirst).1⟩
  | bySlug slug =>
    obtain ⟨⟨key, tenant⟩, hfirst, rfl⟩ := Option.map_eq_some_iff.mp h
    exact ⟨tenant, (Serial.first?_eq_some hfirst).1⟩

/-- The tenant of a request is stored and active, and the user is a super admin or belongs to
it. -/
structure MayActIn (db : AccessDb) (userId tenantId : ℕ) : Prop where
  /-- The tenant is stored. -/
  stored : ∃ tenant, db.iam.tenants.get? tenantId = some tenant
  /-- The tenant is active. -/
  active : db.tenantActive tenantId = true
  /-- The user is a super admin or belongs to the tenant. -/
  allowed : isSuperAdmin db.iam userId = true ∨ IsMember db.iam userId tenantId

/-- Only super admins impersonate a tenant. -/
theorem mayActIn_of_impersonated? {db : AccessDb} {userId tenantId : ℕ} {headers : TenantHeaders}
    (h : impersonated? db userId headers = some tenantId) : MayActIn db userId tenantId := by
  simp only [impersonated?, Option.bind_eq_bind, Option.bind_eq_some_iff,
    Option.require_eq_some_iff, Option.pure_def, Option.some.injEq] at h
  obtain ⟨text, -, _, hfind, _, ⟨hactive, hsuper⟩, rfl⟩ := h
  exact ⟨exists_of_findTenant? hfind, hactive, Or.inl hsuper⟩

/-- A tenant that the request names is checked. -/
theorem mayActIn_of_checkTenant {db : AccessDb} {userId tenantId named : ℕ} {user : User}
    (huser : db.iam.users.get? userId = some user)
    (hstored : ∃ tenant, db.iam.tenants.get? named = some tenant)
    (h : checkTenant db userId user named = .ok tenantId) : MayActIn db userId tenantId := by
  simp only [checkTenant, Except.bind_eq_ok_iff, Except.require_eq_ok_iff,
    Except.pure_eq_ok_iff] at h
  obtain ⟨_, hactive, _, hallowed, rfl⟩ := h
  exact ⟨hstored, hactive, hallowed.imp_right (isMember_of_mem_userTenantIds huser)⟩

/-- The tenant the user was registered in is checked too. -/
theorem mayActIn_of_ownTenant {db : AccessDb} {userId tenantId : ℕ} {user : User}
    {reference : Option TenantRef} (huser : db.iam.users.get? userId = some user)
    (h : ownTenant db user reference = .ok tenantId) : MayActIn db userId tenantId := by
  unfold ownTenant at h
  split at h
  case h_1 own hown =>
    cases h
    obtain ⟨htruthy, hchecked⟩ := Option.filter_eq_some_iff.mp hown
    obtain ⟨hstored, hactive⟩ := Bool.and_eq_true_iff.mp hchecked
    have hregistered := (Option.filter_eq_some_iff.mp htruthy).1
    exact ⟨Option.isSome_iff_exists.mp hstored, hactive, Or.inr (Or.inl ⟨user, huser, hregistered⟩)⟩
  case h_2 =>
    -- Without a tenant of the user's own the request fails.
    exfalso
    split at h <;> cases h

/-- Whatever the headers say, a request acts on an active tenant, and its user belongs to the
tenant or is a super admin. -/
theorem getCurrentTenant_sound {db : AccessDb} {userId tenantId : ℕ} {headers : TenantHeaders}
    (h : getCurrentTenant db userId headers = .ok tenantId) : MayActIn db userId tenantId := by
  simp only [getCurrentTenant, currentUser, Except.bind_eq_ok_iff, Except.ofOption_eq_ok_iff,
    Except.require_eq_ok_iff, Except.pure_eq_ok_iff] at h
  obtain ⟨user, ⟨_, huser, _, -, rfl⟩, h⟩ := h
  split at h
  case h_1 named himpersonated =>
    cases h
    exact mayActIn_of_impersonated? himpersonated
  case h_2 =>
    split at h
    case h_1 named hnamed =>
      obtain ⟨reference, -, hfind⟩ := Option.bind_eq_some_iff.mp hnamed
      exact mayActIn_of_checkTenant huser (exists_of_findTenant? hfind) h
    case h_2 => exact mayActIn_of_ownTenant huser h

/-- Two tenants, of which the second one is not active, and a user who was registered in the first
one and has a role in the second one. -/
def accessDb : AccessDb where
  iam := {
    tenants := (Serial.empty.add ⟨"First", "first"⟩).add ⟨"Second", "second"⟩
    users := Serial.empty.add ⟨"ann", "ann@first.example", true, some 1⟩
    permissions := .empty
    roles := Serial.empty.add ⟨"viewer", none, none, true, false, ∅⟩
    userRoles := Serial.empty.add ⟨1, some 2, 1, none⟩
    invitations := .empty }
  tenantActive tenantId := tenantId = 1

/-- A header that is no integer is skipped. -/
theorem getCurrentTenant_sound_small : MayActIn accessDb 1 1 := by
  have hresolved : getCurrentTenant accessDb 1 ⟨none, some "first", some "localhost"⟩ = .ok 1 := by
    decide +kernel
  exact getCurrentTenant_sound hresolved

end ProxmoxIaas
