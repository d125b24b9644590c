import ProxmoxIaas.Provisioning.Model
import Mathlib.Data.Finset.Dedup
import Mathlib.Data.Finset.Filter
import Mathlib.Data.Finset.Insert

/-!
# Users, Roles and Permissions

The rows of tenants, users, permissions, roles, role assignments and invitations, the checks
that decide who is an administrator, and the endpoints that write these rows. An endpoint is a
function from the committed database to an error, which leaves it unchanged, or to the database
it commits.

Role assignments with a tenant hold inside that tenant; those without a tenant hold everywhere.

## Main results

- `isSuperAdmin_iff`, `isTenantAdmin_iff`: what the checks say about the rows.
-/

namespace ProxmoxIaas

/-- A row of `tenants`: the columns that accounts depend on. -/
structure TenantAccount where
  /-- Unique name. -/
  name : String
  /-- Unique short name. -/
  slug : String
  deriving DecidableEq, Repr

/-- A row of `users`. -/
structure User where
  /-- Unique login name. -/
  username : String
  /-- Unique e-mail address. -/
  email : String
  /-- Banned users are not active. -/
  isActive : Bool
  /-- The tenant the user was registered in. -/
  tenantId : Option ℕ
  deriving DecidableEq, Repr

/-- A row of `iam_roles`, with its rows of `permission_role`. -/
structure Role where
  /-- Name, unique within a tenant. -/
  name : String
  /-- Description. -/
  description : Option String
  /-- The tenant of a custom role. -/
  tenantId : Option ℕ
  /-- Whether the role is seeded. -/
  isPreset : Bool
  /-- Whether the role is a role of the system. -/
  isSystem : Bool
  /-- The permissions of the role. -/
  permissions : Finset ℕ
  deriving DecidableEq

/-- A row of `user_roles`. -/
structure UserRole where
  /-- The user. -/
  userId : ℕ
  /-- The tenant in which the user has the role, or everywhere. -/
  tenantId : Option ℕ
  /-- The role. -/
  roleId : ℕ
  /-- Who granted it. -/
  grantedBy : Option ℕ
  deriving DecidableEq, Repr

/-- A row of `invitations`. -/
structure Invitation where
  /-- The address that is invited. -/
  email : String
  /-- The tenant. -/
  tenantId : ℕ
  /-- The role that is granted on acceptance. -/
  roleId : Option ℕ
  /-- The secret that accepts the invitation. -/
  token : String
  /-- Who invited. -/
  invitedBy : Option ℕ
  /-- Whether the invitation was accepted. -/
  isUsed : Bool
  /-- The last moment of its validity. -/
  expiresAt : ℕ
  deriving DecidableEq, Repr

/-- The committed content of the account tables. -/
structure IamDb where
  /-- Table `tenants`. -/
  tenants : Serial TenantAccount
  /-- Table `users`. -/
  users : Serial User
  /-- The names of the rows of `permissions`. -/
  permissions : Serial String
  /-- Table `iam_roles`. -/
  roles : Serial Role
  /-- Table `user_roles`. -/
  userRoles : Serial UserRole
  /-- Table `invitations`. -/
  invitations : Serial Invitation

/-- `get_current_user`, once the token was verified. -/
def currentUser (db : IamDb) (userId : ℕ) : Except ApiError User := do
  let user ← Except.ofOption (.http 404 "User not found") (db.users.get? userId)
  Except.require (.http 403 "User account is deactivated") (user.isActive = true)
  return user

/-- Whether requests of the user are answered. -/
def isActive (db : IamDb) (userId : ℕ) : Bool := (db.users.get? userId).any (·.isActive)

/-- Whether the user has a role with some property among the assignments of a tenant, or among
those without a tenant. -/
def hasRole (db : IamDb) (userId : ℕ) (tenantId : Option ℕ) (p : Role → Bool) : Bool :=
  (db.userRoles.select fun _ userRole =>
    userRole.userId = userId ∧ userRole.tenantId = tenantId).any fun (_, userRole) =>
      (db.roles.get? userRole.roleId).any p

/-- The role of the system that makes a super admin. -/
def isSuperAdminRole (role : Role) : Bool := role.isSystem && role.name = "super_admin"

/-- `is_super_admin`. -/
def isSuperAdmin (db : IamDb) (userId : ℕ) : Bool := hasRole db userId none isSuperAdminRole

/-- `is_tenant_admin`. Super admins are admins of every tenant. -/
def isTenantAdmin (db : IamDb) (userId tenantId : ℕ) : Bool :=
  isSuperAdmin db userId || hasRole db userId (some tenantId) fun role =>
    role.name = "tenant_admin"

/-- The fields of `RoleCreate`. -/
structure RoleCreate where
  /-- Name. -/
  name : String
  /-- Description. -/
  description : Option String
  /-- Permissions. -/
  permissionIds : Option (List ℕ)
  deriving DecidableEq, Repr

/-- The fields of `RoleUpdate`; absent ones are left alone. -/
structure RoleUpdate where
  /-- Name. -/
  name : Option String
  /-- Description. -/
  description : Option String
  /-- Permissions. -/
  permissionIds : Option (List ℕ)
  deriving DecidableEq, Repr

/-- The permissions among some ids that exist. -/
def knownPermissions (db : IamDb) (ids : List ℕ) : Finset ℕ :=
  ids.toFinset.filter fun id => (db.permissions.get? id).isSome

/-- `create_role`. -/
def createRole (db : IamDb) (caller tenantId : ℕ) (data : RoleCreate) : Except ApiError IamDb := do
  let user ← currentUser db caller
  Except.require (.http 403 "Access denied")
    (isSuperAdmin db caller ∨ user.tenantId = some tenantId)
  Except.require (.http 403 "Tenant admin access required") (isTenantAdmin db caller tenantId)
  Except.require (.http 400 "Role with this name already exists")
    (db.roles.first? (fun _ role => role.name = data.name ∧ role.tenantId = some tenantId) = none)
  Except.require integrityError ((db.tenants.get? tenantId).isSome = true)
  return { db with
    roles := db.roles.add
      { name := data.name
        description := data.description
        tenantId := some tenantId
        isPreset := false
        isSystem := false
        permissions := knownPermissions db (data.permissionIds.getD []) } }

/-- The columns of a role that an update writes. -/
def Role.update (db : IamDb) (data : RoleUpdate) (role : Role) : Role :=
  { role with
    name := data.name.getD role.name
    description := data.description.or role.description
    permissions := match data.permissionIds with
      | some ids => knownPermissions db ids
      | none => role.permissions }

/-- Whether the name of a role stays unique under an update. Names are unique among the roles of
a tenant, and unconstrained without a tenant. -/
def nameFree (db : IamDb) (roleId : ℕ) (role : Role) (data : RoleUpdate) : Bool :=
  role.tenantId = none ∨ db.roles.first? (fun id other => id ≠ roleId ∧
    other.tenantId = role.tenantId ∧ other.name = data.name.getD role.name) = none

/-- `update_role`. The role is looked up by its id only. -/
def updateRole (db : IamDb) (caller tenantId roleId : ℕ) (data : RoleUpdate) :
    Except ApiError IamDb := do
  let _ ← currentUser db caller
  Except.require (.http 403 "Tenant admin access required")
    (isTenantAdmin db caller tenantId ∨ isSuperAdmin db caller)
  let role ← Except.ofOption (.http 404 "Role not found") (db.roles.get? roleId)
  Except.require (.http 400 "Cannot modify preset roles") (role.isPreset = false)
  Except.require integrityError (nameFree db roleId role data = true)
  return { db with roles := db.roles.modify roleId (.update db data) }

/-- `delete_role`. The role is looked up by its id only; invitations lose it. -/
def deleteRole (db : IamDb) (caller tenantId roleId : ℕ) : Except ApiError IamDb := do
  let _ ← currentUser db caller
  Except.require (.http 403 "Tenant admin access required")
    (isTenantAdmin db caller tenantId ∨ isSuperAdmin db caller)
  let role ← Except.ofOption (.http 404 "Role not found") (db.roles.get? roleId)
  Except.require (.http 400 "Cannot delete preset roles") (role.isPreset = false)
  Except.require (.http 400 "Cannot delete role that is assigned to users")
    (db.userRoles.first? (fun _ userRole => userRole.roleId = roleId) = none)
  return { db with
    roles := db.roles.deleteWhere fun id _ => id = roleId
    invitations := db.invitations.mapRows fun _ invitation =>
      { invitation with roleId := invitation.roleId.filter (· ≠ roleId) } }

/-- Insert a role assignment in a tenant. The role and the tenant must exist. -/
def addUserRole (db : IamDb) (userId tenantId roleId : ℕ) (grantedBy : Option ℕ) :
    Except ApiError IamDb := do
  Except.require integrityError
    ((db.roles.get? roleId).isSome = true ∧ (db.tenants.get? tenantId).isSome = true)
  return { db with
    userRoles := db.userRoles.add { userId, tenantId := some tenantId, roleId, grantedBy } }

/-- `assign_role`. Nothing is asked about the role except that it exists. -/
def assignRole (db : IamDb) (caller tenantId userId : ℕ) (roleId : Option ℕ) :
    Except ApiError IamDb := do
  let _ ← currentUser db caller
  Except.require (.http 403 "Tenant admin access required")
    (isTenantAdmin db caller tenantId ∨ isSuperAdmin db caller)
  let roleId ← Except.ofOption (.http 400 "role_id is required") (truthy roleId)
  let _ ← Except.ofOption (.http 404 "Role not found") (db.roles.get? roleId)
  let _ ← Except.ofOption (.http 404 "User not found") (db.users.get? userId)
  Except.require (.http 400 "User already has this role")
    (db.userRoles.first? (fun _ userRole => userRole.userId = userId ∧
      userRole.tenantId = some tenantId ∧ userRole.roleId = roleId) = none)
  addUserRole db userId tenantId roleId (some caller)

/-- `remove_role`. -/
def removeRole (db : IamDb) (caller tenantId userId roleId : ℕ) : Except ApiError IamDb := do
  let user ← currentUser db caller
  Except.require (.http 403 "Access denied")
    (isSuperAdmin db caller ∨ user.tenantId = some tenantId)
  Except.require (.http 403 "Tenant admin access required") (isTenantAdmin db caller tenantId)
  let (userRoleId, _) ← Except.ofOption (.http 404 "User role not found")
    (db.userRoles.first? fun _ userRole => userRole.userId = userId ∧
      userRole.tenantId = some tenantId ∧ userRole.roleId = roleId)
  return { db with userRoles := db.userRoles.deleteWhere fun id _ => id = userRoleId }

/-- `delete_tenant_user`. -/
def deleteTenantUser (db : IamDb) (caller tenantId userId : ℕ) : Except ApiError IamDb := do
  let _ ← currentUser db caller
  Except.require (.http 403 "Tenant admin access required")
    (isTenantAdmin db caller tenantId ∨ isSuperAdmin db caller)
  let _ ← Except.ofOption (.http 404 "User not found") (db.users.get? userId)
  return { db with
    userRoles := db.userRoles.deleteWhere fun _ userRole =>
      userRole.userId = userId ∧ userRole.tenantId = some tenantId }

/-- `create_tenant`. -/
def createTenant (db : IamDb) (caller : ℕ) (name slug : String) : Except ApiError IamDb := do
  let _ ← currentUser db caller
  Except.require (.http 403 "Super admin access required") (isSuperAdmin db caller)
  Except.require (.http 400 "Tenant with this name or slug already exists")
    (db.tenants.first? (fun _ tenant => tenant.slug = slug ∨ tenant.name = name) = none)
  return { db with tenants := db.tenants.add { name, slug } }

/-- `delete_tenant`. The tables of VMs and of the other rows that refer to a tenant are outside
of this model: `vmCount` is the number of the tenant's VMs, and `referenced` tells whether other
rows refer to it whose reference cannot be set to `NULL`. -/
def deleteTenant (db : IamDb) (caller tenantId vmCount : ℕ) (referenced : Bool) :
    Except ApiError IamDb := do
  let _ ← currentUser db caller
  Except.require (.http 403 "Super admin access required") (isSuperAdmin db caller)
  let _ ← Except.ofOption (.http 404 "Tenant not found") (db.tenants.get? tenantId)
  let userCount := (db.users.select fun _ user => user.tenantId = some tenantId).length
  Except.require
    (.http 400 s!"Cannot delete tenant with {userCount
      } user(s). Please reassign or delete users first.") (userCount = 0)
  Except.require
    (.http 400 s!"Cannot delete tenant with {vmCount
      } VM(s). Please delete or reassign VMs first.") (vmCount = 0)
  -- The invitations of a tenant refer to it by a column that is not nullable.
  Except.require integrityError (referenced = false ∧
    db.invitations.first? (fun _ invitation => invitation.tenantId = tenantId) = none)
  return { db with
    tenants := db.tenants.deleteWhere fun id _ => id = tenantId
    roles := db.roles.mapRows fun _ role =>
      { role with tenantId := role.tenantId.filter (· ≠ tenantId) }
    userRoles := db.userRoles.mapRows fun _ userRole =>
      { userRole with tenantId := userRole.tenantId.filter (· ≠ tenantId) } }

/-- The first role with a name that belongs to no tenant and is no role of the system. -/
def defaultRole (db : IamDb) (name : String) : Option (ℕ × Role) :=
  db.roles.first? fun _ role => role.name = name ∧ role.tenantId = none ∧ role.isSystem = false

/-- `assign_viewer_role`. Without the role nothing is assigned. -/
def assignViewerRole (db : IamDb) (userId tenantId : ℕ) : Except ApiError IamDb :=
  match defaultRole db "viewer" with
  | none => return db
  | some (roleId, _) => addUserRole db userId tenantId roleId none

/-- `assign_tenant_admin_role`. A user with a role in the tenant gets no other. -/
def assignTenantAdminRole (db : IamDb) (userId tenantId : ℕ) : Except ApiError IamDb :=
  match defaultRole db "tenant_admin" with
  | none => return db
  | some (roleId, _) =>
    match db.userRoles.first? fun _ userRole =>
        userRole.userId = userId ∧ userRole.tenantId = some tenantId with
    | some _ => return db
    | none => addUserRole db userId tenantId roleId none

/-- `register`. The seeding that it repeats finds every preset role; rate limits, the
registration switch and the list of allowed domains only refuse requests. -/
def register (db : IamDb) (username email tenantName tenantSlug : String) :
    Except ApiError IamDb := do
  Except.require (.http 400 "Username or email already registered")
    (db.users.first? (fun _ user => user.username = username ∨ user.email = email) = none)
  Except.require (.http 400 "Organization with this name already exists")
    (db.tenants.first? (fun _ tenant => tenant.slug = tenantSlug ∨ tenant.name = tenantName) =
      none)
  let tenantId := db.tenants.next
  let userId := db.users.next
  let db := { db with
    tenants := db.tenants.add { name := tenantName, slug := tenantSlug }
    users := db.users.add { username, email, isActive := true, tenantId := some tenantId } }
  assignTenantAdminRole db userId tenantId

/-- The check of the role that an invitation names. -/
def checkInvitedRole (db : IamDb) (roleId : Option ℕ) : Except ApiError Unit :=
  match truthy roleId with
  | none => return
  | some roleId => do
    let role ← Except.ofOption (.http 400 "Invalid role specified") (db.roles.get? roleId)
    Except.require (.http 400 "Cannot invite users with system role") (role.isSystem = false)

/-- The check that an address has no pending invitation to a tenant. -/
def checkPendingInvitation (db : IamDb) (tenantId : ℕ) (email : String) : Except ApiError Unit :=
  Except.require (.http 400 "Pending invitation already exists for this email")
    (db.invitations.first? (fun _ invitation => invitation.email = email ∧
      invitation.tenantId = tenantId ∧ invitation.isUsed = false) = none)

/-- `create_tenant_invitation`. Tokens are unique; `expiresAt` is seven days ahead. -/
def createTenantInvitation (db : IamDb) (caller tenantId : ℕ) (email : String)
    (roleId : Option ℕ) (token : String) (expiresAt : ℕ) : Except ApiError IamDb := do
  let user ← currentUser db caller
  Except.require (.http 403 "Access denied")
    (isSuperAdmin db caller ∨ user.tenantId = some tenantId)
  Except.require (.http 403 "Only tenant admins can invite users")
    (isTenantAdmin db caller tenantId)
  let _ ← Except.ofOption (.http 404 "Tenant not found") (db.tenants.get? tenantId)
  match db.users.first? fun _ user => user.email = email with
  | some (_, existing) =>
    Except.require (.http 400 "User with this email already exists in this tenant")
      (existing.tenantId ≠ some tenantId)
    checkInvitedRole db roleId
    checkPendingInvitation db tenantId email
  | none =>
    checkPendingInvitation db tenantId email
    checkInvitedRole db roleId
  Except.require integrityError
    ((roleId.all fun roleId => (db.roles.get? roleId).isSome) = true ∧
      db.invitations.first? (fun _ invitation => invitation.token = token) = none)
  return { db with
    invitations := db.invitations.add
      { email, tenantId, roleId, token, invitedBy := some caller, isUsed := false, expiresAt } }

/-- `delete_tenant_invitation`. -/
def deleteTenantInvitation (db : IamDb) (caller tenantId invitationId : ℕ) :
    Except ApiError IamDb := do
  let user ← currentUser db caller
  Except.require (.http 403 "Access denied")
    (isSuperAdmin db caller ∨ user.tenantId = some tenantId)
  Except.require (.http 403 "Only tenant admins can delete invitations")
    (isTenantAdmin db caller tenantId)
  let _ ← Except.ofOption (.http 404 "Invitation not found")
    ((db.invitations.get? invitationId).filter fun invitation => invitation.tenantId = tenantId)
  return { db with invitations := db.invitations.deleteWhere fun id _ => id = invitationId }

/-- The invitation with a token that was not accepted yet. -/
def openInvitation? (db : IamDb) (token : String) : Option (ℕ × Invitation) :=
  db.invitations.first? fun _ invitation => invitation.token = token ∧ invitation.isUsed = false

/-- Grant what an invitation promises: its role, or the role of a viewer. -/
def grantInvited (db : IamDb) (userId : ℕ) (invitation : Invitation) : Except ApiError IamDb :=
  match truthy invitation.roleId with
  | some roleId => addUserRole db userId invitation.tenantId roleId invitation.invitedBy
  | none => assignViewerRole db userId invitation.tenantId

/-- Mark an invitation as accepted. -/
def useInvitation (db : IamDb) (invitationId : ℕ) : IamDb :=
  { db with
    invitations := db.invitations.modify invitationId fun invitation =>
      { invitation with isUsed := true } }

/-- `accept_invitation`. -/
def acceptInvitation (db : IamDb) (token username : String) (now : ℕ) :
    Except ApiError IamDb := do
  let (invitationId, invitation) ← Except.ofOption (.http 404 "Invalid or expired invitation")
    (openInvitation? db token)
  Except.require (.http 400 "Invitation has expired") (now ≤ invitation.expiresAt)
  match db.users.first? fun _ user => user.email = invitation.email with
  | some (userId, _) => do
    Except.require (.http 400 "You already have access to this tenant")
      (db.userRoles.first? (fun _ userRole => userRole.userId = userId ∧
        userRole.tenantId = some invitation.tenantId) = none)
    let db ← grantInvited db userId invitation
    return useInvitation db invitationId
  | none => do
    Except.require (.http 400 "Username is required for new users") (username ≠ "")
    Except.require (.http 400 "Username already registered")
      (db.users.first? (fun _ user => user.username = username) = none)
    let userId := db.users.next
    let db := { db with
      users := db.users.add
        { username
          email := invitation.email
          isActive := true
          tenantId := some invitation.tenantId } }
    let db ← grantInvited db userId invitation
    return useInvitation db invitationId

/-- The users with a tenant and without any role. -/
def usersWithoutRoles (db : IamDb) : List (ℕ × User) :=
  db.users.select fun id user => truthy user.tenantId ≠ none ∧
    db.userRoles.first? (fun _ userRole => userRole.userId = id) = none

/-- The migration at the start of the application: users with a tenant and without any role
become tenant admins. The rest of the migration is skipped if an assignment fails. -/
def migrateUsers (db : IamDb) : List (ℕ × User) → IamDb
  | [] => db
  | (userId, user) :: users =>
    match truthy user.tenantId with
    | none => migrateUsers db users
    | some tenantId =>
      match assignTenantAdminRole db userId tenantId with
      | .ok db => migrateUsers db users
      | .error _ => db

/-- The current user is active. -/
theorem isActive_of_currentUser {db : IamDb} {userId : ℕ} {user : User}
    (h : currentUser db userId = .ok user) : isActive db userId = true := by
  simp only [currentUser, Except.bind_eq_ok_iff, Except.ofOption_eq_ok_iff,
    Except.require_eq_ok_iff, Except.pure_eq_ok_iff] at h
  obtain ⟨_, huser, _, hactive, -⟩ := h
  rw [isActive, huser, Option.any_some, hactive]

/-- A role of a user is found among the assignments. -/
theorem hasRole_iff {db : IamDb} {userId : ℕ} {tenantId : Option ℕ} {p : Role → Bool} :
    hasRole db userId tenantId p = true ↔ ∃ id userRole role,
      db.userRoles.get? id = some userRole ∧ userRole.userId = userId ∧
      userRole.tenantId = tenantId ∧ db.roles.get? userRole.roleId = some role ∧
      p role = true := by
  rw [hasRole, List.any_eq_true]
  constructor
  · rintro ⟨⟨id, userRole⟩, hmem, hany⟩
    obtain ⟨hget, hfits⟩ := Table.mem_select.mp hmem
    obtain ⟨role, hrole, hp⟩ := (Option.any_eq_true ..).mp hany
    obtain ⟨huser, htenant⟩ := of_decide_eq_true hfits
    exact ⟨id, userRole, role, hget, huser, htenant, hrole, hp⟩
  · rintro ⟨id, userRole, role, hget, huser, htenant, hrole, hp⟩
    refine ⟨(id, userRole), Table.mem_select.mpr ⟨hget, decide_eq_true ⟨huser, htenant⟩⟩, ?_⟩
    simp only [hrole, Option.any_some, hp]

/-- A super admin has the system role of that name outside of any tenant. -/
theorem isSuperAdmin_iff {db : IamDb} {userId : ℕ} :
    isSuperAdmin db userId = true ↔ ∃ id userRole role,
      db.userRoles.get? id = some userRole ∧ userRole.userId = userId ∧
      userRole.tenantId = none ∧ db.roles.get? userRole.roleId = some role ∧
      isSuperAdminRole role = true := by
  rw [isSuperAdmin, hasRole_iff]

/-- A tenant admin is a super admin or has a role of that name in the tenant. -/
theorem isTenantAdmin_iff {db : IamDb} {userId tenantId : ℕ} :
    isTenantAdmin db userId tenantId = true ↔ isSuperAdmin db userId = true ∨
      ∃ id userRole role, db.userRoles.get? id = some userRole ∧ userRole.userId = userId ∧
        userRole.tenantId = some tenantId ∧ db.roles.get? userRole.roleId = some role ∧
        role.name = "tenant_admin" := by
  simp only [isTenantAdmin, Bool.or_eq_true, hasRole_iff, decide_eq_true_eq]

end ProxmoxIaas
