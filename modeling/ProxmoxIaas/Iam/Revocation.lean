import ProxmoxIaas.Iam.Escalation
import ProxmoxIaas.Iam.Permissions
import ProxmoxIaas.Iam.TenantResolution

/-!
# Revocation

What a user can still do in a tenant after the roles there were removed. The removal of a user
from a tenant deletes the role assignments and leaves the tenant that the user was registered in.
The resolution of the tenant falls back on that tenant, and the start of the application makes a
user without any role an admin of it again.

The runs are those of the account system, together with the requests that ban a user and that
change an e-mail address.

## Main results

- `holdsNothing_deleteTenantUser`: the removal of a user deletes all of the roles.
- `shutOut_iff`: who is shut out of a tenant.
- `revocation_final`: a user who was not registered in the tenant and is no super admin stays shut
  out, until the role of a super admin loses its tenant.
- `revocation_not_final`: the next start of the application undoes the removal.
-/

namespace ProxmoxIaas

/-- `ban_user`: bans a user, or lifts the ban. -/
def banUser (db : IamDb) (caller userId : ℕ) : Except ApiError IamDb := do
  let _ ← currentUser db caller
  Except.require (.http 403 "Super admin access required") (isSuperAdmin db caller)
  let _ ← Except.ofOption (.http 404 "User not found") (db.users.get? userId)
  Except.require (.http 400 "Cannot ban a super admin") (isSuperAdmin db userId = false)
  return { db with users := db.users.modify userId fun user =>
    { user with isActive := !user.isActive } }

/-- `update_current_user_profile`: the columns that accounts depend on. -/
def updateCurrentUserProfile (db : IamDb) (caller : ℕ) (email : Option String) :
    Except ApiError IamDb := do
  let _ ← currentUser db caller
  match email with
  | none => return db
  | some email =>
    Except.require (.http 400 "Email already in use")
      (db.users.first? (fun id user => user.email = email ∧ id ≠ caller) = none)
    return { db with users := db.users.modify caller fun user => { user with email } }

namespace Iam

/-- The requests to the account system, with those that change a user. -/
inductive AccountEvent where
  /-- A request to the account system, or the start of the application. -/
  | account (e : Event)
  /-- `ban_user`. -/
  | banUser (caller userId : ℕ)
  /-- `update_current_user_profile`. -/
  | updateProfile (caller : ℕ) (email : Option String)
  deriving DecidableEq, Repr

/-- The outcome of a request. -/
def accountRequest (db : IamDb) : AccountEvent → Except ApiError IamDb
  | .account e => request db e
  | .banUser caller userId => ProxmoxIaas.banUser db caller userId
  | .updateProfile caller email => updateCurrentUserProfile db caller email

/-- The database after a request; one that raises leaves it as it was. -/
def accountStep (db : IamDb) (e : AccountEvent) : IamDb :=
  match accountRequest db e with
  | .ok db' => db'
  | .error _ => db

/-- The accounts, started on a given database. -/
def accountMachine (start : IamDb) : Machine IamDb AccountEvent where
  init db := db = start
  step := accountStep

/-- No role assignment of the user names the tenant. -/
def HoldsNothing (db : IamDb) (userId tenantId : ℕ) : Prop :=
  ∀ id userRole, db.userRoles.get? id = some userRole → userRole.userId = userId →
    userRole.tenantId ≠ some tenantId

/-- The user has no permission in a tenant, and no request of the user acts on it, whatever its
headers are and whichever tenants are active. -/
structure ShutOut (db : IamDb) (userId tenantId : ℕ) : Prop where
  /-- No permission is granted. -/
  hasPermission (required : String) : hasPermission db userId (some tenantId) required = false
  /-- No request resolves to the tenant. -/
  getCurrentTenant (tenantActive : ℕ → Bool) (headers : TenantHeaders) :
    getCurrentTenant ⟨db, tenantActive⟩ userId headers ≠ .ok tenantId

/-- Whether a request grants the user a role in the tenant: an assignment of a role, or the
acceptance of an invitation. -/
def grantsIn (db : IamDb) (userId tenantId : ℕ) : AccountEvent → Bool
  | .account (.assignRole caller tenantId' userId' roleId) =>
    userId' = userId && tenantId' = tenantId &&
      (assignRole db caller tenantId' userId' roleId).isOk
  | .account (.acceptInvitation token username now) =>
    ((openInvitation? db token).any fun (_, invitation) =>
      invitation.tenantId = tenantId &&
        (db.users.first? fun _ user => user.email = invitation.email).any (·.1 = userId)) &&
      (acceptInvitation db token username now).isOk
  | _ => false

/-- The condition on a request: it deletes no tenant in which the user has the role of a super
admin. -/
def keepsSuperAdminInside (db : IamDb) (userId : ℕ) : AccountEvent → Bool
  | .account e => !orphansSuperAdmin db userId e
  | _ => true

/-- Role assignments were added, each for a user and a tenant with some property. -/
inductive GrantsTo (p : ℕ → ℕ → Prop) (db : IamDb) : IamDb → Prop
  /-- None. -/
  | refl : GrantsTo p db db
  /-- One more. -/
  | grant {db' : IamDb} (userId tenantId roleId : ℕ) (grantedBy : Option ℕ)
      (allowed : p userId tenantId) (before : GrantsTo p db db') :
      GrantsTo p db { db' with
        userRoles := db'.userRoles.add ⟨userId, some tenantId, roleId, grantedBy⟩ }

variable {db db' : IamDb} {userId tenantId : ℕ} {p q : ℕ → ℕ → Prop}

/-- The removal of a user from a tenant deletes all of the roles there. -/
theorem holdsNothing_deleteTenantUser {caller : ℕ}
    (h : deleteTenantUser db caller tenantId userId = .ok db') :
    HoldsNothing db' userId tenantId := by
  simp only [deleteTenantUser, Except.bind_eq_ok_iff, Except.pure_eq_ok_iff] at h
  obtain ⟨-, -, -, -, -, -, rfl⟩ := h
  intro id userRole hget huser htenant
  rw [Serial.get?_deleteWhere] at hget
  have hkept := (Option.filter_eq_some_iff.mp hget).2
  simp [huser, htenant] at hkept

/-- Who has no role in a tenant, was not registered in it and is no super admin is shut out. -/
theorem shutOut_of_holdsNothing (h : HoldsNothing db userId tenantId)
    (hsuper : isSuperAdmin db userId = false)
    (hregistered : ∀ user, db.users.get? userId = some user → user.tenantId ≠ some tenantId) :
    ShutOut db userId tenantId where
  hasPermission required := by
    rw [← Bool.not_eq_true, hasPermission_iff, hsuper]
    rintro (hfalse | ⟨name, hname, -⟩)
    · cases hfalse
    · obtain ⟨id, userRole, _, _, hget, huser, hcolumn, -⟩ := mem_grantedPermissions.mp hname
      obtain ⟨other, hother, heq⟩ := columnIs_some hcolumn
      obtain rfl := Int.ofNat.inj heq
      exact h id userRole hget huser hother
  getCurrentTenant tenantActive headers hok := by
    rcases (getCurrentTenant_sound hok).allowed with hadmin | ⟨user, hget, htenant⟩ |
      ⟨id, userRole, hget, huser, htenant⟩
    · exact absurd (hsuper.symm.trans hadmin) Bool.false_ne_true
    · exact hregistered user hget htenant
    · exact h id userRole hget huser htenant

/-- A request without headers acts on the tenant that its user was registered in. -/
theorem getCurrentTenant_registered {tenantActive : ℕ → Bool} {user : User}
    (huser : db.users.get? userId = some user) (hactive : user.isActive = true)
    (htenant : user.tenantId = some tenantId)
    (hstored : (db.tenants.get? tenantId).isSome = true)
    (htenantActive : tenantActive tenantId = true) :
    getCurrentTenant ⟨db, tenantActive⟩ userId ⟨none, none, none⟩ = .ok tenantId := by
  obtain ⟨tenant, hget⟩ := Option.isSome_iff_exists.mp hstored
  have hpos : tenantId ≠ 0 := Nat.ne_of_gt (Serial.bound_of_get? hget).1
  have hcurrent : currentUser db userId = .ok user := by
    simp only [currentUser, Except.bind_eq_ok_iff, Except.ofOption_eq_ok_iff,
      Except.require_eq_ok_iff, Except.pure_eq_ok_iff]
    exact ⟨user, huser, (), hactive, rfl⟩
  have htruthy : truthy user.tenantId = some tenantId := by
    rw [htenant]
    exact Option.filter_eq_some_iff.mpr ⟨rfl, decide_eq_true hpos⟩
  have hown : ownTenant ⟨db, tenantActive⟩ user none = .ok tenantId := by
    have hchosen : (truthy user.tenantId).filter (fun tenantId =>
        (db.tenants.get? tenantId).isSome && tenantActive tenantId) = some tenantId := by
      rw [htruthy, Option.filter_some, if_pos]
      rw [hstored, htenantActive]
      rfl
    unfold ownTenant
    rw [hchosen]
  -- Without headers nothing is impersonated and no tenant is named.
  refine Except.bind_eq_ok_iff.mpr ⟨user, hcurrent, ?_⟩
  exact hown

/-- Among the active users without a role in a stored tenant, exactly those are shut out of it who
were not registered in it and are no super admins. -/
theorem shutOut_iff {user : User} (h : HoldsNothing db userId tenantId)
    (huser : db.users.get? userId = some user) (hactive : user.isActive = true)
    (hstored : (db.tenants.get? tenantId).isSome = true) :
    ShutOut db userId tenantId ↔
      isSuperAdmin db userId = false ∧ user.tenantId ≠ some tenantId := by
  constructor
  · intro hshut
    refine ⟨?_, fun htenant => ?_⟩
    · by_contra hsuper
      rw [Bool.not_eq_false] at hsuper
      have hpermitted : hasPermission db userId (some tenantId) "" = true :=
        hasPermission_iff.mpr (Or.inl hsuper)
      exact absurd ((hshut.hasPermission "").symm.trans hpermitted) Bool.false_ne_true
    · exact hshut.getCurrentTenant (fun _ => true) ⟨none, none, none⟩
        (getCurrentTenant_registered huser hactive htenant hstored rfl)
  · rintro ⟨hsuper, htenant⟩
    refine shutOut_of_holdsNothing h hsuper fun other hother => ?_
    rw [huser, Option.some.injEq] at hother
    exact hother ▸ htenant

/-! ## Grants -/

/-- Grants write the role assignments only. -/
theorem GrantsTo.users_eq (h : GrantsTo p db db') : db'.users = db.users := by
  induction h with
  | refl => rfl
  | grant _ _ _ _ _ _ ih => exact ih

/-- Grants with a property have every weaker one. -/
theorem GrantsTo.mono (h : GrantsTo p db db') (hpq : ∀ userId tenantId, p userId tenantId →
    q userId tenantId) : GrantsTo q db db' := by
  induction h with
  | refl => exact .refl
  | grant userId tenantId roleId grantedBy hallowed _ ih =>
    exact .grant userId tenantId roleId grantedBy (hpq userId tenantId hallowed) ih

/-- Grants after grants. -/
theorem GrantsTo.trans {db₁ : IamDb} (h : GrantsTo p db db₁) (h' : GrantsTo p db₁ db') :
    GrantsTo p db db' := by
  induction h' with
  | refl => exact h
  | grant userId tenantId roleId grantedBy hallowed _ ih =>
    exact .grant userId tenantId roleId grantedBy hallowed ih

/-- Who holds nothing holds nothing after grants to others. -/
theorem HoldsNothing.of_grantsTo (h : HoldsNothing db userId tenantId) (hgrants : GrantsTo p db db')
    (hother : ¬ p userId tenantId) : HoldsNothing db' userId tenantId := by
  induction hgrants with
  | refl => exact h
  | grant userId' tenantId' _ _ hallowed _ ih =>
    intro id userRole hget huser htenant
    rw [Serial.get?_add] at hget
    split at hget
    case isTrue =>
      obtain rfl := Option.some.inj hget
      obtain rfl := Option.some.inj htenant
      exact hother (huser ▸ hallowed)
    case isFalse => exact ih id userRole hget huser htenant

/-- The inserted assignment. -/
theorem grantsTo_addUserRole {roleId : ℕ} {grantedBy : Option ℕ}
    (h : addUserRole db userId tenantId roleId grantedBy = .ok db') :
    GrantsTo (fun userId' tenantId' => userId' = userId ∧ tenantId' = tenantId) db db' := by
  simp only [addUserRole, Except.bind_eq_ok_iff, Except.pure_eq_ok_iff] at h
  obtain ⟨-, -, rfl⟩ := h
  exact .grant userId tenantId roleId grantedBy ⟨rfl, rfl⟩ .refl

/-- `assign_tenant_admin_role` grants to its user in its tenant. -/
theorem grantsTo_assignTenantAdminRole (h : assignTenantAdminRole db userId tenantId = .ok db') :
    GrantsTo (fun userId' tenantId' => userId' = userId ∧ tenantId' = tenantId) db db' := by
  unfold assignTenantAdminRole at h
  split at h
  case h_1 => exact Except.ok.inj h ▸ .refl
  case h_2 =>
    split at h
    case h_1 => exact Except.ok.inj h ▸ .refl
    case h_2 => exact grantsTo_addUserRole h

/-- The migration grants to its users, in the tenants that they were registered in. -/
theorem grantsTo_migrateUsers (users : List (ℕ × User)) :
    GrantsTo (fun userId tenantId =>
      ∃ user, (userId, user) ∈ users ∧ user.tenantId = some tenantId) db (migrateUsers db users) := by
  induction users generalizing db with
  | nil => exact .refl
  | cons entry users ih =>
    obtain ⟨userId, user⟩ := entry
    have hlater : ∀ {db : IamDb}, GrantsTo (fun userId' tenantId => ∃ other,
        (userId', other) ∈ (userId, user) :: users ∧ other.tenantId = some tenantId) db
        (migrateUsers db users) := fun {_} =>
      ih.mono fun _ _ ⟨other, hmem, htenant⟩ => ⟨other, List.mem_cons_of_mem _ hmem, htenant⟩
    rw [migrateUsers]
    split
    case h_1 => exact hlater
    case h_2 tenantId htruthy =>
      split
      case h_1 hok =>
        refine GrantsTo.trans ((grantsTo_assignTenantAdminRole hok).mono ?_) hlater
        rintro _ _ ⟨rfl, rfl⟩
        exact ⟨user, List.mem_cons_self, (Option.filter_eq_some_iff.mp htruthy).1⟩
      case h_2 => exact .refl

/-- An accepted invitation grants to its user in its tenant. -/
theorem grantsTo_grantInvited {invitation : Invitation}
    (h : grantInvited db userId invitation = .ok db') :
    GrantsTo (fun userId' tenantId' => userId' = userId ∧ tenantId' = invitation.tenantId)
      db db' := by
  unfold grantInvited at h
  split at h
  case h_1 => exact grantsTo_addUserRole h
  case h_2 =>
    unfold assignViewerRole at h
    split at h
    case h_1 => exact Except.ok.inj h ▸ .refl
    case h_2 => exact grantsTo_addUserRole h

/-! ## Runs -/

/-- What holds of a user who stays shut out. -/
structure StaysOut (db : IamDb) (userId tenantId : ℕ) : Prop where
  /-- The roles of the system are seeded. -/
  preset : SystemRolesPreset db
  /-- The user has no role in the tenant. -/
  nothing : HoldsNothing db userId tenantId
  /-- The user is no super admin. -/
  notSuper : isSuperAdmin db userId = false
  /-- The user was registered elsewhere. -/
  registered : ∃ user, db.users.get? userId = some user ∧ user.tenantId ≠ some tenantId

/-- An accepted invitation adds a user at most, and grants to one user in its tenant. -/
private theorem acceptInvitation_eq_ok {token username : String} {now : ℕ}
    (h : acceptInvitation db token username now = .ok db') :
    ∃ invitationId invitation userId db₁ db₂, openInvitation? db token =
        some (invitationId, invitation) ∧ db' = useInvitation db₂ invitationId ∧
      GrantsTo (fun userId' tenantId' => userId' = userId ∧ tenantId' = invitation.tenantId)
        db₁ db₂ ∧ db₁.userRoles = db.userRoles ∧
      ((∃ user, db.users.first? (fun _ user => user.email = invitation.email) =
          some (userId, user) ∧ db₁.users = db.users) ∨
        userId = db.users.next ∧ ∃ user, db₁.users = db.users.add user) := by
  simp only [acceptInvitation, Except.bind_eq_ok_iff, Except.ofOption_eq_ok_iff] at h
  obtain ⟨⟨invitationId, invitation⟩, hopened, -, -, h⟩ := h
  split at h
  case h_1 userId user hfound =>
    simp only [Except.bind_eq_ok_iff, Except.pure_eq_ok_iff] at h
    obtain ⟨-, -, db₂, hgrant, rfl⟩ := h
    exact ⟨invitationId, invitation, userId, db, db₂, hopened, rfl, grantsTo_grantInvited hgrant,
      rfl, Or.inl ⟨user, hfound, rfl⟩⟩
  case h_2 =>
    simp only [Except.bind_eq_ok_iff, Except.pure_eq_ok_iff] at h
    obtain ⟨-, -, -, -, db₂, hgrant, rfl⟩ := h
    exact ⟨invitationId, invitation, db.users.next, _, db₂, hopened, rfl,
      grantsTo_grantInvited hgrant, rfl, Or.inr ⟨rfl, _, rfl⟩⟩

/-- A request to the account system adds a user at most. -/
private theorem users_of_ok {e : Event} (h : request db e = .ok db') :
    db'.users = db.users ∨ ∃ user, db'.users = db.users.add user := by
  cases e with
  | register username email tenantName tenantSlug =>
    simp only [request, register, Except.bind_eq_ok_iff] at h
    obtain ⟨-, -, -, -, h⟩ := h
    exact Or.inr ⟨_, (grantsTo_assignTenantAdminRole h).users_eq⟩
  | acceptInvitation token username now =>
    obtain ⟨_, _, _, _, db₂, -, rfl, hgrants, -, ⟨_, -, husers⟩ | ⟨-, user, husers⟩⟩ :=
      acceptInvitation_eq_ok h
    · -- the account is one of the users already, or is created here
      exact Or.inl (hgrants.users_eq.trans husers)
    · exact Or.inr ⟨user, hgrants.users_eq.trans husers⟩
  | assignRole caller tenantId userId roleId =>
    simp only [request, assignRole, Except.bind_eq_ok_iff] at h
    obtain ⟨-, -, -, -, _, -, -, -, -, -, -, -, h⟩ := h
    exact Or.inl (grantsTo_addUserRole h).users_eq
  | startup =>
    obtain rfl := Except.ok.inj h
    exact Or.inl (grantsTo_migrateUsers _).users_eq
  | createInvitation caller tenantId email roleId token expiresAt =>
    simp only [request, createTenantInvitation, Except.bind_eq_ok_iff] at h
    obtain ⟨-, -, -, -, -, -, -, -, h⟩ := h
    split at h <;> simp only [Except.bind_eq_ok_iff, Except.pure_eq_ok_iff] at h
    · obtain ⟨-, -, -, -, -, -, -, -, rfl⟩ := h
      exact Or.inl rfl
    · obtain ⟨-, -, -, -, -, -, rfl⟩ := h
      exact Or.inl rfl
  | createTenant caller name slug =>
    simp only [request, createTenant, Except.bind_eq_ok_iff, Except.pure_eq_ok_iff] at h
    obtain ⟨-, -, -, -, -, -, rfl⟩ := h
    exact Or.inl rfl
  | createRole caller tenantId data =>
    simp only [request, createRole, Except.bind_eq_ok_iff, Except.pure_eq_ok_iff] at h
    obtain ⟨-, -, -, -, -, -, -, -, -, -, rfl⟩ := h
    exact Or.inl rfl
  | updateRole caller tenantId roleId data =>
    simp only [request, updateRole, Except.bind_eq_ok_iff, Except.pure_eq_ok_iff] at h
    obtain ⟨-, -, -, -, -, -, -, -, -, -, rfl⟩ := h
    exact Or.inl rfl
  | deleteRole caller tenantId roleId =>
    simp only [request, deleteRole, Except.bind_eq_ok_iff, Except.pure_eq_ok_iff] at h
    obtain ⟨-, -, -, -, -, -, -, -, -, -, rfl⟩ := h
    exact Or.inl rfl
  | removeRole caller tenantId userId roleId =>
    simp only [request, removeRole, Except.bind_eq_ok_iff, Except.pure_eq_ok_iff] at h
    obtain ⟨-, -, -, -, -, -, -, -, rfl⟩ := h
    exact Or.inl rfl
  | deleteTenantUser caller tenantId userId =>
    simp only [request, deleteTenantUser, Except.bind_eq_ok_iff, Except.pure_eq_ok_iff] at h
    obtain ⟨-, -, -, -, -, -, rfl⟩ := h
    exact Or.inl rfl
  | deleteInvitation caller tenantId invitationId =>
    simp only [request, deleteTenantInvitation, Except.bind_eq_ok_iff,
      Except.pure_eq_ok_iff] at h
    obtain ⟨-, -, -, -, -, -, -, -, rfl⟩ := h
    exact Or.inl rfl
  | deleteTenant caller tenantId vmCount referenced =>
    simp only [request, deleteTenant, Except.bind_eq_ok_iff, Except.pure_eq_ok_iff] at h
    obtain ⟨-, -, -, -, -, -, -, -, -, -, -, -, rfl⟩ := h
    exact Or.inl rfl

/-- Users stay registered where they were. -/
private theorem registered_step {e : AccountEvent} {user : User}
    (huser : db.users.get? userId = some user) :
    ∃ user', (accountStep db e).users.get? userId = some user' ∧
      user'.tenantId = user.tenantId := by
  -- A request changes columns of the user that are not the tenant, or none.
  have hmodify : ∀ (id : ℕ) (f : User → User), (∀ user, (f user).tenantId = user.tenantId) →
      ∃ user', (db.users.modify id f).get? userId = some user' ∧
        user'.tenantId = user.tenantId := by
    intro id f hf
    rw [Serial.get?_modify, huser]
    split
    · exact ⟨f user, rfl, hf user⟩
    · exact ⟨user, rfl, rfl⟩
  unfold accountStep
  split
  case h_2 => exact ⟨user, huser, rfl⟩
  case h_1 db' hok =>
    cases e with
    | account e =>
      rcases users_of_ok hok with husers | ⟨added, husers⟩
      · exact ⟨user, husers ▸ huser, rfl⟩
      · refine ⟨user, ?_, rfl⟩
        rw [husers, Serial.get?_add, if_neg (Nat.ne_of_lt (Serial.bound_of_get? huser).2)]
        exact huser
    | banUser caller banned =>
      simp only [accountRequest, banUser, Except.bind_eq_ok_iff, Except.pure_eq_ok_iff] at hok
      obtain ⟨-, -, -, -, -, -, -, -, rfl⟩ := hok
      exact hmodify banned _ fun _ => rfl
    | updateProfile caller email =>
      simp only [accountRequest, updateCurrentUserProfile, Except.bind_eq_ok_iff] at hok
      obtain ⟨-, -, hok⟩ := hok
      split at hok
      case h_1 => exact ⟨user, Except.ok.inj hok ▸ huser, rfl⟩
      case h_2 =>
        simp only [Except.bind_eq_ok_iff, Except.pure_eq_ok_iff] at hok
        obtain ⟨-, -, rfl⟩ := hok
        exact hmodify caller _ fun _ => rfl

/-- The roles in a tenant do not become more when rows keep what they say about it. -/
private theorem HoldsNothing.of_rows (h : HoldsNothing db userId tenantId)
    (hrows : ∀ id userRole, db'.userRoles.get? id = some userRole →
      userRole.tenantId = some tenantId → db.userRoles.get? id = some userRole) :
    HoldsNothing db' userId tenantId :=
  fun id userRole hget huser htenant => h id userRole (hrows id userRole hget htenant) huser htenant

/-- An accepted invitation that is not a grant to the user. -/
private theorem HoldsNothing.acceptInvitation {token username : String} {now : ℕ}
    (h : HoldsNothing db userId tenantId) (huser : (db.users.get? userId).isSome = true)
    (hno : grantsIn db userId tenantId (.account (.acceptInvitation token username now)) = false)
    (hok : acceptInvitation db token username now = .ok db') :
    HoldsNothing db' userId tenantId := by
  obtain ⟨_, invitation, invited, db₁, db₂, hopened, rfl, hgrants, huserRoles, hinvited⟩ :=
    acceptInvitation_eq_ok hok
  have hbefore : HoldsNothing db₁ userId tenantId :=
    h.of_rows fun id userRole hget _ => huserRoles ▸ hget
  show HoldsNothing db₂ userId tenantId
  refine hbefore.of_grantsTo hgrants ?_
  rintro ⟨rfl, rfl⟩
  rcases hinvited with ⟨user, hfound, -⟩ | ⟨hnext, -⟩
  · simp [grantsIn, hopened, hfound, hok, Except.isOk, Except.toBool] at hno
  · rw [hnext, Serial.get?_next] at huser
    cases huser

/-- A registration grants to the new user only. -/
private theorem HoldsNothing.register {username email tenantName tenantSlug : String}
    (h : HoldsNothing db userId tenantId) (huser : (db.users.get? userId).isSome = true)
    (hok : register db username email tenantName tenantSlug = .ok db') :
    HoldsNothing db' userId tenantId := by
  simp only [ProxmoxIaas.register, Except.bind_eq_ok_iff] at hok
  obtain ⟨-, -, -, -, hok⟩ := hok
  refine HoldsNothing.of_grantsTo ?_ (grantsTo_assignTenantAdminRole hok) ?_
  · exact h
  · rintro ⟨hnext, -⟩
    rw [hnext, Serial.get?_next] at huser
    cases huser

/-- The migration grants nothing to a user who was registered elsewhere. -/
private theorem HoldsNothing.migrateUsers {user : User} (h : HoldsNothing db userId tenantId)
    (huser : db.users.get? userId = some user) (htenant : user.tenantId ≠ some tenantId) :
    HoldsNothing (migrateUsers db (usersWithoutRoles db)) userId tenantId := by
  refine h.of_grantsTo (grantsTo_migrateUsers _) ?_
  rintro ⟨other, hmem, hother⟩
  rw [usersWithoutRoles] at hmem
  obtain ⟨hget, -⟩ := Table.mem_select.mp hmem
  obtain rfl := Option.some.inj (huser.symm.trans hget)
  exact htenant hother

/-- Without a grant to the user, a request leaves the user without a role in the tenant. -/
private theorem HoldsNothing.request {e : Event} {user : User}
    (h : HoldsNothing db userId tenantId) (huser : db.users.get? userId = some user)
    (htenant : user.tenantId ≠ some tenantId)
    (hno : grantsIn db userId tenantId (.account e) = false) (hok : request db e = .ok db') :
    HoldsNothing db' userId tenantId := by
  have hsome : (db.users.get? userId).isSome = true := by rw [huser, Option.isSome_some]
  cases effect_of_ok hok with
  | same hsame => exact h.of_rows fun _ _ hget _ => hsame.userRoles ▸ hget
  | addRole _ _ _ _ _ _ _ _ _ huserRoles => exact h.of_rows fun _ _ hget _ => huserRoles ▸ hget
  | updateRole _ _ _ _ _ _ _ _ _ _ _ huserRoles =>
    exact h.of_rows fun _ _ hget _ => huserRoles ▸ hget
  | deleteRole _ _ _ _ _ _ _ _ _ _ huserRoles =>
    exact h.of_rows fun _ _ hget _ => huserRoles ▸ hget
  | assignRole caller tenantId' userId' roleId _ _ _ _ _ _ huserRoles =>
    intro id userRole hget hholder hin
    rw [huserRoles, Serial.get?_add] at hget
    split at hget
    case isTrue =>
      -- The new assignment would be a grant to the user.
      obtain rfl := Option.some.inj hget
      obtain rfl := Option.some.inj hin
      obtain rfl := hholder
      have hassigned : ProxmoxIaas.assignRole db caller tenantId' userId' (some roleId) = .ok db' :=
        hok
      simp [grantsIn, hassigned, Except.isOk, Except.toBool] at hno
    case isFalse => exact h id userRole hget hholder hin
  | revoke _ _ _ _ _ _ _ huserRoles =>
    refine h.of_rows fun id userRole hget _ => ?_
    rw [huserRoles, Serial.get?_deleteWhere] at hget
    exact (Option.filter_eq_some_iff.mp hget).1
  | acceptRole token username now => exact h.acceptInvitation hsome hno hok
  | acceptViewer token username now => exact h.acceptInvitation hsome hno hok
  | register username email tenantName tenantSlug => exact h.register hsome hok
  | startup => exact Except.ok.inj hok ▸ h.migrateUsers huser htenant
  | deleteTenant _ deleted _ _ _ _ huserRoles =>
    refine h.of_rows fun id userRole hget hin => ?_
    rw [huserRoles, Serial.get?_mapRows, Option.map_eq_some_iff] at hget
    obtain ⟨old, hold, rfl⟩ := hget
    have hkept := (Option.filter_eq_some_iff.mp hin).1
    have hfilter : old.tenantId.filter (fun other => decide (other ≠ deleted)) = old.tenantId :=
      hin.trans hkept.symm
    rw [hold, hfilter]

/-- A step that meets the conditions keeps the user out. -/
private theorem StaysOut.step {e : AccountEvent} (h : StaysOut db userId tenantId)
    (hno : grantsIn db userId tenantId e = false) (hinside : keepsSuperAdminInside db userId e = true) :
    StaysOut (accountStep db e) userId tenantId := by
  obtain ⟨user, huser, htenant⟩ := h.registered
  have hregistered : ∃ user, (accountStep db e).users.get? userId = some user ∧
      user.tenantId ≠ some tenantId := by
    obtain ⟨user', huser', heq⟩ := registered_step huser (e := e)
    exact ⟨user', huser', heq ▸ htenant⟩
  -- Requests that write users only leave the roles and their assignments.
  have hsame : SameRoles db (accountStep db e) →
      StaysOut (accountStep db e) userId tenantId := by
    rintro ⟨hroles, huserRoles⟩
    refine ⟨?_, ?_, ?_, hregistered⟩
    · rw [SystemRolesPreset, hroles]
      exact h.preset
    · rw [HoldsNothing, huserRoles]
      exact h.nothing
    · rw [isSuperAdmin, hasRole, hroles, huserRoles]
      exact h.notSuper
  cases e with
  | account e =>
    refine ⟨h.preset.step, ?_, ?_, hregistered⟩
    · unfold accountStep
      split
      case h_1 db' hok => exact h.nothing.request huser htenant hno hok
      case h_2 => exact h.nothing
    · by_contra hne
      rw [Bool.not_eq_false] at hne
      rcases isSuperAdmin_of_step h.preset hne with hsuper | horphans
      · exact absurd (h.notSuper.symm.trans hsuper) Bool.false_ne_true
      · rw [keepsSuperAdminInside, horphans] at hinside
        cases hinside
  | banUser caller banned =>
    apply hsame
    unfold accountStep
    split
    case h_1 db' hok =>
      simp only [accountRequest, banUser, Except.bind_eq_ok_iff, Except.pure_eq_ok_iff] at hok
      obtain ⟨-, -, -, -, -, -, -, -, rfl⟩ := hok
      exact ⟨rfl, rfl⟩
    case h_2 => exact ⟨rfl, rfl⟩
  | updateProfile caller email =>
    apply hsame
    unfold accountStep
    split
    case h_1 db' hok =>
      simp only [accountRequest, updateCurrentUserProfile, Except.bind_eq_ok_iff] at hok
      obtain ⟨-, -, hok⟩ := hok
      split at hok
      case h_1 => exact Except.ok.inj hok ▸ ⟨rfl, rfl⟩
      case h_2 =>
        simp only [Except.bind_eq_ok_iff, Except.pure_eq_ok_iff] at hok
        obtain ⟨-, -, rfl⟩ := hok
        exact ⟨rfl, rfl⟩
    case h_2 => exact ⟨rfl, rfl⟩

/-- The user stays shut out. -/
private theorem StaysOut.shutOut (h : StaysOut db userId tenantId) : ShutOut db userId tenantId := by
  refine shutOut_of_holdsNothing h.nothing h.notSuper fun other hother => ?_
  obtain ⟨user, huser, htenant⟩ := h.registered
  obtain rfl := Option.some.inj (huser.symm.trans hother)
  exact htenant

/-- After the roles of a user in a tenant were removed, the user is shut out of it in every run
without a grant to the user there, if the user was not registered in the tenant and is no super
admin, and the run deletes no tenant in which the user has the role of a super admin. -/
theorem revocation_final {start : IamDb} {user : User} (hpreset : SystemRolesPreset start)
    (hrevoked : HoldsNothing start userId tenantId)
    (huser : start.users.get? userId = some user) (hregistered : user.tenantId ≠ some tenantId)
    (hsuper : isSuperAdmin start userId = false)
    (h : (accountMachine start).Reachable (fun db e => grantsIn db userId tenantId e = false ∧
      keepsSuperAdminInside db userId e = true) db) : ShutOut db userId tenantId := by
  have hinv : StaysOut db userId tenantId := by
    refine h.invariant (fun db => StaysOut db userId tenantId) ?_ ?_
    · rintro s rfl
      exact ⟨hpreset, hrevoked, hsuper, user, huser, hregistered⟩
    · rintro s e hout ⟨hno, hinside⟩
      exact hout.step hno hinside
  exact hinv.shutOut

/-- The small database after a user was made a viewer in a tenant. -/
def joined (userId tenantId : ℕ) : IamDb := step smallDb (.assignRole 1 tenantId userId (some 2))

/-- The small database after a user was made a viewer in a tenant and was removed from it. -/
def removed (userId tenantId : ℕ) : IamDb :=
  step (joined userId tenantId) (.deleteTenantUser 1 tenantId userId)

/-- The roles of the system are seeded in it. -/
theorem systemRolesPreset_removed (userId tenantId : ℕ) :
    SystemRolesPreset (removed userId tenantId) :=
  systemRolesPreset_smallDb.step.step

/-- Bob, of the second tenant, was removed from the first one. The application starts, and he is
banned. -/
theorem revocation_final_small : ShutOut ((accountMachine (removed 3 1)).run (removed 3 1)
    [.account .startup, .banUser 1 3]) 3 1 := by
  refine revocation_final (systemRolesPreset_removed 3 1) ?_ rfl (by decide) (by decide)
    ((Machine.Reachable.start rfl).run (by decide))
  exact @holdsNothing_deleteTenantUser (joined 3 1) _ 3 1 1 rfl

/-- The next start of the application makes Alice an admin of her tenant again. -/
theorem revocation_not_final : ¬ ∀ (start db : IamDb) (userId tenantId : ℕ),
    SystemRolesPreset start → HoldsNothing start userId tenantId →
    (start.users.get? userId).isSome = true → isSuperAdmin start userId = false →
    (accountMachine start).Reachable (fun db e => grantsIn db userId tenantId e = false) db →
    ShutOut db userId tenantId := by
  intro h
  have hreach : (accountMachine (removed 2 1)).Reachable
      (fun db e => grantsIn db 2 1 e = false)
      ((accountMachine (removed 2 1)).run (removed 2 1) [.account .startup]) :=
    (Machine.Reachable.start rfl).run (by decide)
  have hshut := h (removed 2 1) _ 2 1 (systemRolesPreset_removed 2 1)
    (@holdsNothing_deleteTenantUser (joined 2 1) _ 2 1 1 rfl) (by decide) (by decide) hreach
  have hpermitted := hshut.hasPermission "vm:read"
  exact absurd hpermitted (by decide +kernel)

end Iam

end ProxmoxIaas
