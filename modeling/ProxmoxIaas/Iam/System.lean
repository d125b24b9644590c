import ProxmoxIaas.Foundation.Machine
import ProxmoxIaas.Iam.Model

/-!
# The Account System

The requests that write roles, role assignments, invitations, users and tenants, in any order.
Each request is one step.

What a step does to the roles and the role assignments is said once, by `Effect`; the results
about runs are case analyses over it.

## Main results

- `effect_step`: every step has one of the effects.
- `global_of_step`, `role_of_step`: where an assignment without a tenant, and a role, come from.
-/

namespace ProxmoxIaas.Iam

/-- The requests to the account system, and the start of the application. -/
inductive Event where
  /-- `create_tenant`. -/
  | createTenant (caller : ℕ) (name slug : String)
  /-- `register`. -/
  | register (username email tenantName tenantSlug : String)
  /-- `create_role`. -/
  | createRole (caller tenantId : ℕ) (data : RoleCreate)
  /-- `update_role`. -/
  | updateRole (caller tenantId roleId : ℕ) (data : RoleUpdate)
  /-- `delete_role`. -/
  | deleteRole (caller tenantId roleId : ℕ)
  /-- `assign_role`. -/
  | assignRole (caller tenantId userId : ℕ) (roleId : Option ℕ)
  /-- `remove_role`. -/
  | removeRole (caller tenantId userId roleId : ℕ)
  /-- `delete_tenant_user`. -/
  | deleteTenantUser (caller tenantId userId : ℕ)
  /-- `create_tenant_invitation`. -/
  | createInvitation (caller tenantId : ℕ) (email : String) (roleId : Option ℕ)
      (token : String) (expiresAt : ℕ)
  /-- `delete_tenant_invitation`. -/
  | deleteInvitation (caller tenantId invitationId : ℕ)
  /-- `accept_invitation`. -/
  | acceptInvitation (token username : String) (now : ℕ)
  /-- `delete_tenant`. -/
  | deleteTenant (caller tenantId vmCount : ℕ) (referenced : Bool)
  /-- The migration of users at the start of the application. -/
  | startup
  deriving DecidableEq, Repr

/-- The outcome of a request. -/
def request (db : IamDb) : Event → Except ApiError IamDb
  | .createTenant caller name slug => createTenant db caller name slug
  | .register username email tenantName tenantSlug =>
    ProxmoxIaas.register db username email tenantName tenantSlug
  | .createRole caller tenantId data => createRole db caller tenantId data
  | .updateRole caller tenantId roleId data => updateRole db caller tenantId roleId data
  | .deleteRole caller tenantId roleId => deleteRole db caller tenantId roleId
  | .assignRole caller tenantId userId roleId => assignRole db caller tenantId userId roleId
  | .removeRole caller tenantId userId roleId => removeRole db caller tenantId userId roleId
  | .deleteTenantUser caller tenantId userId => deleteTenantUser db caller tenantId userId
  | .createInvitation caller tenantId email roleId token expiresAt =>
    createTenantInvitation db caller tenantId email roleId token expiresAt
  | .deleteInvitation caller tenantId invitationId =>
    deleteTenantInvitation db caller tenantId invitationId
  | .acceptInvitation token username now => acceptInvitation db token username now
  | .deleteTenant caller tenantId vmCount referenced =>
    deleteTenant db caller tenantId vmCount referenced
  | .startup => .ok (migrateUsers db (usersWithoutRoles db))

/-- The database after a request; one that raises leaves it as it was. -/
def step (db : IamDb) (e : Event) : IamDb :=
  match request db e with
  | .ok db' => db'
  | .error _ => db

/-- The account system, started on a given database. -/
def machine (start : IamDb) : Machine IamDb Event where
  init db := db = start
  step := step

/-- Whether a deletion of a tenant passes all of its checks. -/
def deletesTenant (db : IamDb) (caller tenantId vmCount : ℕ) (referenced : Bool) : Bool :=
  isActive db caller && isSuperAdmin db caller && (db.tenants.get? tenantId).isSome &&
    (db.users.first? fun _ user => user.tenantId = some tenantId).isNone && vmCount = 0 &&
    !referenced &&
    (db.invitations.first? fun _ invitation => invitation.tenantId = tenantId).isNone

/-- Two databases have the same roles and the same role assignments. -/
structure SameRoles (db db' : IamDb) : Prop where
  /-- The same roles. -/
  roles : db'.roles = db.roles
  /-- The same role assignments. -/
  userRoles : db'.userRoles = db.userRoles

/-- Some role assignments were added that name the default role with a name. -/
inductive DefaultGrants (name : String) (db : IamDb) : IamDb → Prop
  /-- None. -/
  | refl {db' : IamDb} (h : SameRoles db db') : DefaultGrants name db db'
  /-- One more, for a user in a tenant. -/
  | grant {db₁ db' : IamDb} (userId tenantId roleId : ℕ) (role : Role)
      (before : DefaultGrants name db db₁) (found : defaultRole db name = some (roleId, role))
      (roles : db'.roles = db₁.roles)
      (userRoles : db'.userRoles = db₁.userRoles.add ⟨userId, some tenantId, roleId, none⟩) :
      DefaultGrants name db db'

/-- What a request does to the roles and the role assignments, and which of its checks it has
passed. -/
inductive Effect (db : IamDb) : Event → IamDb → Prop
  /-- The roles and their assignments stay. -/
  | same {e : Event} {db' : IamDb} (h : SameRoles db db') : Effect db e db'
  /-- A custom role is created in the caller's tenant. -/
  | addRole {db' : IamDb} (caller tenantId : ℕ) (data : RoleCreate) (role : Role)
      (admin : isTenantAdmin db caller tenantId = true) (tenant : role.tenantId = some tenantId)
      (preset : role.isPreset = false) (system : role.isSystem = false)
      (roles : db'.roles = db.roles.add role) (userRoles : db'.userRoles = db.userRoles) :
      Effect db (.createRole caller tenantId data) db'
  /-- A custom role is changed, of whatever tenant. -/
  | updateRole {db' : IamDb} (caller tenantId roleId : ℕ) (data : RoleUpdate) (role : Role)
      (active : isActive db caller = true) (admin : isTenantAdmin db caller tenantId = true)
      (found : db.roles.get? roleId = some role) (preset : role.isPreset = false)
      (free : nameFree db roleId role data = true)
      (roles : db'.roles = db.roles.modify roleId (.update db data))
      (userRoles : db'.userRoles = db.userRoles) :
      Effect db (.updateRole caller tenantId roleId data) db'
  /-- A custom role that nobody has is deleted, of whatever tenant. -/
  | deleteRole {db' : IamDb} (caller tenantId roleId : ℕ) (role : Role)
      (active : isActive db caller = true) (admin : isTenantAdmin db caller tenantId = true)
      (found : db.roles.get? roleId = some role) (preset : role.isPreset = false)
      (unused : ∀ id userRole, db.userRoles.get? id = some userRole → userRole.roleId ≠ roleId)
      (roles : db'.roles = db.roles.deleteWhere fun id _ => id = roleId)
      (userRoles : db'.userRoles = db.userRoles) :
      Effect db (.deleteRole caller tenantId roleId) db'
  /-- A role is assigned, of whatever tenant. -/
  | assignRole {db' : IamDb} (caller tenantId userId roleId : ℕ) (role : Role)
      (active : isActive db caller = true) (admin : isTenantAdmin db caller tenantId = true)
      (found : db.roles.get? roleId = some role) (user : (db.users.get? userId).isSome = true)
      (roles : db'.roles = db.roles)
      (userRoles : db'.userRoles =
        db.userRoles.add ⟨userId, some tenantId, roleId, some caller⟩) :
      Effect db (.assignRole caller tenantId userId (some roleId)) db'
  /-- Assignments of the caller's tenant are deleted. -/
  | revoke {db' : IamDb} {e : Event} (caller tenantId : ℕ) (p : ℕ → UserRole → Bool)
      (madeBy : (∃ userId roleId, e = .removeRole caller tenantId userId roleId) ∨
        ∃ userId, e = .deleteTenantUser caller tenantId userId)
      (admin : isTenantAdmin db caller tenantId = true)
      (inTenant : ∀ id userRole, db.userRoles.get? id = some userRole → p id userRole = true →
        userRole.tenantId = some tenantId)
      (roles : db'.roles = db.roles) (userRoles : db'.userRoles = db.userRoles.deleteWhere p) :
      Effect db e db'
  /-- An invitation grants the role that it names. -/
  | acceptRole {db' : IamDb} (token username : String) (now invitationId userId roleId : ℕ)
      (invitation : Invitation) (role : Role)
      (opened : openInvitation? db token = some (invitationId, invitation))
      (valid : now ≤ invitation.expiresAt) (named : truthy invitation.roleId = some roleId)
      (found : db.roles.get? roleId = some role) (roles : db'.roles = db.roles)
      (userRoles : db'.userRoles =
        db.userRoles.add ⟨userId, some invitation.tenantId, roleId, invitation.invitedBy⟩) :
      Effect db (.acceptInvitation token username now) db'
  /-- An invitation that names no role makes a viewer. -/
  | acceptViewer {db' : IamDb} (token username : String) (now invitationId : ℕ)
      (invitation : Invitation) (opened : openInvitation? db token = some (invitationId, invitation))
      (valid : now ≤ invitation.expiresAt) (unnamed : truthy invitation.roleId = none)
      (granted : DefaultGrants "viewer" db db') :
      Effect db (.acceptInvitation token username now) db'
  /-- A new user becomes the admin of a new tenant. -/
  | register {db' : IamDb} (username email tenantName tenantSlug : String)
      (granted : DefaultGrants "tenant_admin" db db') :
      Effect db (.register username email tenantName tenantSlug) db'
  /-- Users without roles become tenant admins. -/
  | startup {db' : IamDb} (pending : usersWithoutRoles db ≠ [])
      (granted : DefaultGrants "tenant_admin" db db') :
      Effect db .startup db'
  /-- A tenant without users is deleted; its roles and assignments lose it. -/
  | deleteTenant {db' : IamDb} (caller tenantId vmCount : ℕ) (referenced : Bool)
      (deletes : deletesTenant db caller tenantId vmCount referenced = true)
      (roles : db'.roles = db.roles.mapRows fun _ role =>
        { role with tenantId := role.tenantId.filter (· ≠ tenantId) })
      (userRoles : db'.userRoles = db.userRoles.mapRows fun _ userRole =>
        { userRole with tenantId := userRole.tenantId.filter (· ≠ tenantId) }) :
      Effect db (.deleteTenant caller tenantId vmCount referenced) db'

/-- Super admins are tenant admins. -/
theorem isTenantAdmin_of_isSuperAdmin {db : IamDb} {caller tenantId : ℕ}
    (h : isSuperAdmin db caller = true) : isTenantAdmin db caller tenantId = true :=
  isTenantAdmin_iff.mpr (Or.inl h)

/-- What an inserted assignment leaves. -/
private theorem addUserRole_eq_ok {db db' : IamDb} {userId tenantId roleId : ℕ}
    {grantedBy : Option ℕ} (h : addUserRole db userId tenantId roleId grantedBy = .ok db') :
    db'.roles = db.roles ∧
      db'.userRoles = db.userRoles.add ⟨userId, some tenantId, roleId, grantedBy⟩ ∧
      ∃ role, db.roles.get? roleId = some role := by
  simp only [addUserRole, Except.bind_eq_ok_iff, Except.require_eq_ok_iff,
    Except.pure_eq_ok_iff] at h
  obtain ⟨-, ⟨hrole, -⟩, rfl⟩ := h
  exact ⟨rfl, rfl, Option.isSome_iff_exists.mp hrole⟩

/-- A default grant to one user, on a database with the same roles. -/
private theorem DefaultGrants.addUserRole {name : String} {db db₁ db' : IamDb}
    {userId tenantId roleId : ℕ} {role : Role} (h : DefaultGrants name db db₁)
    (hfound : defaultRole db name = some (roleId, role))
    (hok : addUserRole db₁ userId tenantId roleId none = .ok db') : DefaultGrants name db db' := by
  obtain ⟨hroles, huserRoles, -⟩ := addUserRole_eq_ok hok
  exact .grant userId tenantId roleId role h hfound hroles huserRoles

/-- Default grants leave the roles alone. -/
theorem DefaultGrants.roles_eq {name : String} {db db' : IamDb} (h : DefaultGrants name db db') :
    db'.roles = db.roles := by
  induction h with
  | refl h => exact h.roles
  | grant _ _ _ _ _ _ hroles _ ih => exact hroles.trans ih

/-- The default role depends on the roles only. -/
private theorem defaultRole_congr {db db' : IamDb} (h : db'.roles = db.roles) (name : String) :
    defaultRole db' name = defaultRole db name := by
  rw [defaultRole, defaultRole, h]

/-- The assignment of the role of a tenant admin grants nothing else. -/
private theorem DefaultGrants.assignTenantAdminRole {db db₁ db' : IamDb} {userId tenantId : ℕ}
    (h : DefaultGrants "tenant_admin" db db₁)
    (hok : assignTenantAdminRole db₁ userId tenantId = .ok db') :
    DefaultGrants "tenant_admin" db db' := by
  unfold ProxmoxIaas.assignTenantAdminRole at hok
  split at hok
  case h_1 => exact Except.ok.inj hok ▸ h
  case h_2 roleId role hfound =>
    rw [defaultRole_congr h.roles_eq] at hfound
    split at hok
    case h_1 => exact Except.ok.inj hok ▸ h
    case h_2 => exact h.addUserRole hfound hok

/-- The migration grants the role of a tenant admin only. -/
private theorem DefaultGrants.migrateUsers {db db₁ : IamDb} {users : List (ℕ × User)}
    (h : DefaultGrants "tenant_admin" db db₁) :
    DefaultGrants "tenant_admin" db (migrateUsers db₁ users) := by
  -- Each user of the list adds at most one grant to those of the users before.
  induction users generalizing db₁ with
  | nil => exact h
  | cons entry users ih =>
    obtain ⟨userId, user⟩ := entry
    rw [ProxmoxIaas.migrateUsers]
    split
    case h_1 => exact ih h
    case h_2 tenantId _ =>
      split
      case h_1 db₂ hok => exact ih (h.assignTenantAdminRole hok)
      case h_2 => exact h

/-- The role that an invitation grants: the one that it names, or that of a viewer. -/
private theorem grantInvited_eq_ok {db db₁ db' : IamDb} {userId : ℕ} {invitation : Invitation}
    (hsame : SameRoles db db₁) (h : grantInvited db₁ userId invitation = .ok db') :
    (∃ roleId role, truthy invitation.roleId = some roleId ∧ db.roles.get? roleId = some role ∧
      db'.roles = db.roles ∧ db'.userRoles =
        db.userRoles.add ⟨userId, some invitation.tenantId, roleId, invitation.invitedBy⟩) ∨
    truthy invitation.roleId = none ∧ DefaultGrants "viewer" db db' := by
  unfold grantInvited at h
  split at h
  case h_1 roleId hnamed =>
    obtain ⟨hroles, huserRoles, role, hrole⟩ := addUserRole_eq_ok h
    rw [hsame.roles] at hroles hrole
    rw [hsame.userRoles] at huserRoles
    exact Or.inl ⟨roleId, role, hnamed, hrole, hroles, huserRoles⟩
  case h_2 hunnamed =>
    refine Or.inr ⟨hunnamed, ?_⟩
    unfold assignViewerRole at h
    split at h
    case h_1 => exact .refl (Except.ok.inj h ▸ hsame)
    case h_2 roleId role hfound =>
      rw [defaultRole_congr hsame.roles] at hfound
      exact (DefaultGrants.refl hsame).addUserRole hfound h

/-- An accepted invitation. -/
private theorem effect_acceptInvitation {db db' : IamDb} {token username : String} {now : ℕ}
    (h : acceptInvitation db token username now = .ok db') :
    Effect db (.acceptInvitation token username now) db' := by
  simp only [acceptInvitation, Except.bind_eq_ok_iff, Except.ofOption_eq_ok_iff,
    Except.require_eq_ok_iff] at h
  obtain ⟨⟨invitationId, invitation⟩, hopened, -, hvalid, h⟩ := h
  -- Whether the user is new makes no difference to the grant.
  have heffect : ∀ {db₁ db₂ : IamDb} {userId : ℕ}, SameRoles db db₁ →
      grantInvited db₁ userId invitation = .ok db₂ →
      Effect db (.acceptInvitation token username now) (useInvitation db₂ invitationId) := by
    intro db₁ db₂ userId hsame hgrant
    rcases grantInvited_eq_ok hsame hgrant with
      ⟨roleId, role, hnamed, hrole, hroles, huserRoles⟩ | ⟨hunnamed, hviewer⟩
    · exact .acceptRole token username now invitationId userId roleId invitation role hopened
        hvalid hnamed hrole hroles huserRoles
    · refine .acceptViewer token username now invitationId invitation hopened hvalid hunnamed ?_
      cases hviewer with
      | refl hsame => exact .refl ⟨hsame.roles, hsame.userRoles⟩
      | grant userId tenantId roleId role hbefore hfound hroles huserRoles =>
        exact .grant userId tenantId roleId role hbefore hfound hroles huserRoles
  split at h
  case h_1 userId _ _ =>
    simp only [Except.bind_eq_ok_iff, Except.require_eq_ok_iff, Except.pure_eq_ok_iff] at h
    obtain ⟨-, -, db₂, hgrant, rfl⟩ := h
    refine heffect ?_ hgrant
    exact ⟨rfl, rfl⟩
  case h_2 =>
    simp only [Except.bind_eq_ok_iff, Except.require_eq_ok_iff, Except.pure_eq_ok_iff] at h
    obtain ⟨-, -, -, -, db₂, hgrant, rfl⟩ := h
    refine heffect ?_ hgrant
    exact ⟨rfl, rfl⟩

/-- Every request that does not raise has one of the effects. -/
theorem effect_of_ok {db db' : IamDb} {e : Event} (h : request db e = .ok db') :
    Effect db e db' := by
  cases e with
  | createTenant caller name slug =>
    simp only [request, createTenant, Except.bind_eq_ok_iff, Except.pure_eq_ok_iff] at h
    obtain ⟨-, -, -, -, -, -, rfl⟩ := h
    exact .same ⟨rfl, rfl⟩
  | register username email tenantName tenantSlug =>
    simp only [request, ProxmoxIaas.register, Except.bind_eq_ok_iff] at h
    obtain ⟨-, -, -, -, h⟩ := h
    refine .register username email tenantName tenantSlug ?_
    refine DefaultGrants.assignTenantAdminRole ?_ h
    exact .refl ⟨rfl, rfl⟩
  | createRole caller tenantId data =>
    simp only [request, createRole, Except.bind_eq_ok_iff, Except.require_eq_ok_iff,
      Except.pure_eq_ok_iff] at h
    obtain ⟨-, -, -, -, -, hadmin, -, -, -, -, rfl⟩ := h
    exact .addRole caller tenantId data _ hadmin rfl rfl rfl rfl rfl
  | updateRole caller tenantId roleId data =>
    simp only [request, ProxmoxIaas.updateRole, Except.bind_eq_ok_iff, Except.require_eq_ok_iff,
      Except.ofOption_eq_ok_iff, Except.pure_eq_ok_iff] at h
    obtain ⟨_, huser, -, hadmin, role, hrole, -, hpreset, -, hfree, rfl⟩ := h
    exact .updateRole caller tenantId roleId data role (isActive_of_currentUser huser)
      (hadmin.elim (fun h => h) isTenantAdmin_of_isSuperAdmin) hrole hpreset hfree rfl rfl
  | deleteRole caller tenantId roleId =>
    simp only [request, ProxmoxIaas.deleteRole, Except.bind_eq_ok_iff, Except.require_eq_ok_iff,
      Except.ofOption_eq_ok_iff, Except.pure_eq_ok_iff, Serial.first?_eq_none_iff] at h
    obtain ⟨_, huser, -, hadmin, role, hrole, -, hpreset, -, hunused, rfl⟩ := h
    exact .deleteRole caller tenantId roleId role (isActive_of_currentUser huser)
      (hadmin.elim (fun h => h) isTenantAdmin_of_isSuperAdmin) hrole hpreset
      (fun id userRole hget => of_decide_eq_false (hunused id userRole hget)) rfl rfl
  | assignRole caller tenantId userId roleId =>
    simp only [request, ProxmoxIaas.assignRole, Except.bind_eq_ok_iff, Except.require_eq_ok_iff,
      Except.ofOption_eq_ok_iff] at h
    obtain ⟨_, hcaller, -, hadmin, roleId', hroleId, role, hrole, user, huser, -, -, h⟩ := h
    obtain ⟨hroles, huserRoles, -⟩ := addUserRole_eq_ok h
    rw [(Option.filter_eq_some_iff.mp hroleId).1]
    exact .assignRole caller tenantId userId roleId' role (isActive_of_currentUser hcaller)
      (hadmin.elim (fun h => h) isTenantAdmin_of_isSuperAdmin) hrole
      (Option.isSome_iff_exists.mpr ⟨user, huser⟩) hroles huserRoles
  | removeRole caller tenantId userId roleId =>
    simp only [request, removeRole, Except.bind_eq_ok_iff, Except.require_eq_ok_iff,
      Except.ofOption_eq_ok_iff, Except.pure_eq_ok_iff] at h
    obtain ⟨-, -, -, -, -, hadmin, ⟨userRoleId, userRole⟩, hfound, rfl⟩ := h
    obtain ⟨hget, hfits⟩ := Serial.first?_eq_some hfound
    refine .revoke caller tenantId _ (Or.inl ⟨userId, roleId, rfl⟩) hadmin ?_ rfl rfl
    intro id other hother hid
    rw [of_decide_eq_true hid, hget] at hother
    obtain rfl := Option.some.inj hother
    exact (of_decide_eq_true hfits).2.1
  | deleteTenantUser caller tenantId userId =>
    simp only [request, deleteTenantUser, Except.bind_eq_ok_iff, Except.require_eq_ok_iff,
      Except.ofOption_eq_ok_iff, Except.pure_eq_ok_iff] at h
    obtain ⟨-, -, -, hadmin, -, -, rfl⟩ := h
    refine .revoke caller tenantId _ (Or.inr ⟨userId, rfl⟩)
      (hadmin.elim (fun h => h) isTenantAdmin_of_isSuperAdmin) ?_ rfl rfl
    exact fun id userRole _ hfits => (of_decide_eq_true hfits).2
  | createInvitation caller tenantId email roleId token expiresAt =>
    simp only [request, createTenantInvitation, Except.bind_eq_ok_iff] at h
    obtain ⟨-, -, -, -, -, -, -, -, h⟩ := h
    split at h <;> simp only [Except.bind_eq_ok_iff, Except.pure_eq_ok_iff] at h
    · obtain ⟨-, -, -, -, -, -, -, -, rfl⟩ := h
      exact .same ⟨rfl, rfl⟩
    · obtain ⟨-, -, -, -, -, -, rfl⟩ := h
      exact .same ⟨rfl, rfl⟩
  | deleteInvitation caller tenantId invitationId =>
    simp only [request, deleteTenantInvitation, Except.bind_eq_ok_iff,
      Except.pure_eq_ok_iff] at h
    obtain ⟨-, -, -, -, -, -, -, -, rfl⟩ := h
    exact .same ⟨rfl, rfl⟩
  | acceptInvitation token username now => exact effect_acceptInvitation h
  | deleteTenant caller tenantId vmCount referenced =>
    simp only [request, ProxmoxIaas.deleteTenant, Except.bind_eq_ok_iff,
      Except.require_eq_ok_iff, Except.ofOption_eq_ok_iff, Except.pure_eq_ok_iff] at h
    obtain ⟨_, huser, -, hadmin, tenant, htenant, -, husers, -, hvms, -, ⟨hreferenced, hinvited⟩,
      rfl⟩ := h
    refine .deleteTenant caller tenantId vmCount referenced ?_ rfl rfl
    have hnone : db.users.first? (fun _ user => user.tenantId = some tenantId) = none := by
      refine Serial.first?_eq_none_iff.mpr fun id user hget => ?_
      by_contra hne
      rw [Bool.not_eq_false] at hne
      -- A user of the tenant would be among those that are counted.
      have hmem : (id, user) ∈ db.users.select fun _ user => user.tenantId = some tenantId :=
        Table.mem_select.mpr ⟨hget, hne⟩
      exact List.ne_nil_of_mem hmem (List.length_eq_zero_iff.mp husers)
    simp [deletesTenant, isActive_of_currentUser huser, hadmin, htenant, hnone, hvms, hreferenced,
      hinvited]
  | startup =>
    obtain rfl := Except.ok.inj h
    by_cases hpending : usersWithoutRoles db = []
    · rw [hpending]
      exact .same ⟨rfl, rfl⟩
    · exact .startup hpending (DefaultGrants.migrateUsers (.refl ⟨rfl, rfl⟩))

/-- Every step has one of the effects. -/
theorem effect_step (db : IamDb) (e : Event) : Effect db e (step db e) := by
  unfold step
  split
  case h_1 hok => exact effect_of_ok hok
  case h_2 => exact .same ⟨rfl, rfl⟩

/-- An assignment without a tenant was there before, and was not granted by default. -/
private theorem DefaultGrants.global {name : String} {db db' : IamDb} {id : ℕ}
    {userRole : UserRole} (h : DefaultGrants name db db')
    (hget : db'.userRoles.get? id = some userRole) (hglobal : userRole.tenantId = none) :
    db.userRoles.get? id = some userRole := by
  induction h with
  | refl hsame => exact hsame.userRoles ▸ hget
  | grant _ _ _ _ _ _ _ huserRoles ih =>
    rw [huserRoles, Serial.get?_add] at hget
    split at hget
    · obtain rfl := Option.some.inj hget
      cases hglobal
    · exact ih hget

/-- An assignment without a tenant was there before the step. It had no tenant then either, or
it lost the tenant that the step deletes. -/
theorem global_of_step {db : IamDb} {e : Event} {id : ℕ} {userRole : UserRole}
    (hget : (step db e).userRoles.get? id = some userRole) (hglobal : userRole.tenantId = none) :
    ∃ old, db.userRoles.get? id = some old ∧ userRole = { old with tenantId := none } ∧
      (old.tenantId = none ∨ ∃ caller tenantId vmCount referenced,
        e = .deleteTenant caller tenantId vmCount referenced ∧
        deletesTenant db caller tenantId vmCount referenced = true ∧
        old.tenantId = some tenantId) := by
  have heffect := effect_step db e
  generalize step db e = db' at heffect hget
  -- Only the deletion of a tenant takes a tenant from an assignment.
  have hkept : db.userRoles.get? id = some userRole →
      ∃ old, db.userRoles.get? id = some old ∧ userRole = { old with tenantId := none } ∧
        (old.tenantId = none ∨ ∃ caller tenantId vmCount referenced,
          e = .deleteTenant caller tenantId vmCount referenced ∧
          deletesTenant db caller tenantId vmCount referenced = true ∧
          old.tenantId = some tenantId) :=
    fun hold => ⟨userRole, hold, by rw [← hglobal], Or.inl hglobal⟩
  cases heffect with
  | same hsame => exact hkept (hsame.userRoles ▸ hget)
  | addRole _ _ _ _ _ _ _ _ _ huserRoles => exact hkept (huserRoles ▸ hget)
  | updateRole _ _ _ _ _ _ _ _ _ _ _ huserRoles => exact hkept (huserRoles ▸ hget)
  | deleteRole _ _ _ _ _ _ _ _ _ _ huserRoles => exact hkept (huserRoles ▸ hget)
  | assignRole _ _ _ _ _ _ _ _ _ _ huserRoles =>
    rw [huserRoles, Serial.get?_add] at hget
    split at hget
    · obtain rfl := Option.some.inj hget
      cases hglobal
    · exact hkept hget
  | revoke _ _ _ _ _ _ _ huserRoles =>
    rw [huserRoles, Serial.get?_deleteWhere] at hget
    exact hkept (Option.filter_eq_some_iff.mp hget).1
  | acceptRole _ _ _ _ _ _ _ _ _ _ _ _ _ huserRoles =>
    rw [huserRoles, Serial.get?_add] at hget
    split at hget
    · obtain rfl := Option.some.inj hget
      cases hglobal
    · exact hkept hget
  | acceptViewer _ _ _ _ _ _ _ _ hgranted => exact hkept (hgranted.global hget hglobal)
  | register _ _ _ _ hgranted => exact hkept (hgranted.global hget hglobal)
  | startup _ hgranted => exact hkept (hgranted.global hget hglobal)
  | deleteTenant caller tenantId vmCount referenced hdeletes _ huserRoles =>
    rw [huserRoles, Serial.get?_mapRows, Option.map_eq_some_iff] at hget
    obtain ⟨old, hold, rfl⟩ := hget
    have hlost : old.tenantId.filter (fun other => decide (other ≠ tenantId)) = none := hglobal
    refine ⟨old, hold, by rw [hlost], ?_⟩
    cases htenant : old.tenantId with
    | none => exact Or.inl rfl
    | some other =>
      refine Or.inr ⟨caller, tenantId, vmCount, referenced, rfl, hdeletes, ?_⟩
      by_contra hne
      rw [Option.some.injEq] at hne
      simp [htenant, hne] at hlost

/-- A role was there before the step, with the same name if it is preset, or it is a new custom
role. -/
theorem role_of_step {db : IamDb} {e : Event} {id : ℕ} {role : Role}
    (hget : (step db e).roles.get? id = some role) :
    (∃ old, db.roles.get? id = some old ∧ role.isSystem = old.isSystem ∧
      role.isPreset = old.isPreset ∧ (old.isPreset = true → role.name = old.name)) ∨
    role.isSystem = false := by
  have heffect := effect_step db e
  generalize step db e = db' at heffect hget
  have hkept : db.roles.get? id = some role →
      (∃ old, db.roles.get? id = some old ∧ role.isSystem = old.isSystem ∧
        role.isPreset = old.isPreset ∧ (old.isPreset = true → role.name = old.name)) ∨
      role.isSystem = false :=
    fun hold => Or.inl ⟨role, hold, rfl, rfl, fun _ => rfl⟩
  cases heffect with
  | same hsame => exact hkept (hsame.roles ▸ hget)
  | addRole _ _ _ _ _ _ _ hsystem hroles =>
    rw [hroles, Serial.get?_add] at hget
    split at hget
    · exact Or.inr (Option.some.inj hget ▸ hsystem)
    · exact hkept hget
  | updateRole _ _ _ _ old _ _ hfound hpreset _ hroles =>
    rw [hroles, Serial.get?_modify] at hget
    split at hget
    case isTrue hid =>
      rw [hid, hfound, Option.map_some, Option.some.injEq] at hget
      refine Or.inl ⟨old, hid ▸ hfound, by rw [← hget]; rfl, by rw [← hget]; rfl, ?_⟩
      exact fun htrue => absurd (hpreset.symm.trans htrue) Bool.false_ne_true
    case isFalse => exact hkept hget
  | deleteRole _ _ _ _ _ _ _ _ _ hroles =>
    rw [hroles, Serial.get?_deleteWhere] at hget
    exact hkept (Option.filter_eq_some_iff.mp hget).1
  | assignRole _ _ _ _ _ _ _ _ _ hroles => exact hkept (hroles ▸ hget)
  | revoke _ _ _ _ _ _ hroles => exact hkept (hroles ▸ hget)
  | acceptRole _ _ _ _ _ _ _ _ _ _ _ _ hroles => exact hkept (hroles ▸ hget)
  | acceptViewer _ _ _ _ _ _ _ _ hgranted => exact hkept (hgranted.roles_eq ▸ hget)
  | register _ _ _ _ hgranted => exact hkept (hgranted.roles_eq ▸ hget)
  | startup _ hgranted => exact hkept (hgranted.roles_eq ▸ hget)
  | deleteTenant _ _ _ _ _ hroles =>
    rw [hroles, Serial.get?_mapRows, Option.map_eq_some_iff] at hget
    obtain ⟨old, hold, rfl⟩ := hget
    exact Or.inl ⟨old, hold, rfl, rfl, fun _ => rfl⟩

/-- Two tenants with an admin and a custom role each, and a super admin. -/
def smallDb : IamDb where
  tenants := (Serial.empty.add ⟨"Acme", "acme"⟩).add ⟨"Globex", "globex"⟩
  users := ((Serial.empty.add ⟨"admin", "admin@cloud.example", true, none⟩).add
    ⟨"alice", "alice@acme.example", true, some 1⟩).add
    ⟨"bob", "bob@globex.example", true, some 2⟩
  permissions := (Serial.empty.add "vm:read").add "network:read"
  roles := ((((Serial.empty.add ⟨"tenant_admin", none, none, true, false, {1, 2}⟩).add
    ⟨"viewer", none, none, true, false, {1}⟩).add
    ⟨"super_admin", none, none, true, true, {1, 2}⟩).add
    ⟨"operators", none, some 1, false, false, {1}⟩).add
    ⟨"auditors", none, some 2, false, false, {2}⟩
  userRoles := ((Serial.empty.add ⟨1, none, 3, none⟩).add ⟨2, some 1, 1, none⟩).add
    ⟨3, some 2, 1, none⟩
  invitations := .empty

end ProxmoxIaas.Iam
