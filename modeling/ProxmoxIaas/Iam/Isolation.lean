import ProxmoxIaas.Iam.System

/-!
# Isolation of Tenants

What a user whose rights end at a tenant can do to the roles and role assignments outside of it.
The requests check the caller against the tenant of the request, but look the role up by its id
alone: an update or a deletion reaches the custom roles of every tenant.

## Main results

- `outside_unchanged`: nothing outside of the tenant changes in every run whose updates and
  deletions stay inside.
- `outside_changed`: the admin of one tenant renames a role of another.
-/

namespace ProxmoxIaas.Iam

/-- The requests by which a user writes roles and role assignments. -/
def madeBy (caller : ℕ) : Event → Bool
  | .createRole user _ _ => user = caller
  | .updateRole user _ _ _ => user = caller
  | .deleteRole user _ _ => user = caller
  | .assignRole user _ _ _ => user = caller
  | .removeRole user _ _ _ => user = caller
  | .deleteTenantUser user _ _ => user = caller
  | _ => false

/-- The user is no super admin, and an admin of one tenant at most. -/
structure ConfinedTo (db : IamDb) (caller tenantId : ℕ) : Prop where
  /-- The user is no super admin. -/
  notSuperAdmin : isSuperAdmin db caller = false
  /-- The user is no admin of another tenant. -/
  notAdmin : ∀ other, other ≠ tenantId → isTenantAdmin db caller other = false

/-- Every assignment refers to a role. -/
def RolesExist (db : IamDb) : Prop :=
  ∀ id userRole, db.userRoles.get? id = some userRole →
    ∃ role, db.roles.get? userRole.roleId = some role

/-- The roles, with their permissions, and the role assignments outside of a tenant are the
same. -/
structure UnchangedOutside (tenantId : ℕ) (db db' : IamDb) : Prop where
  /-- The roles. -/
  roles : db'.roles.rowsWhere (·.tenantId ≠ some tenantId) =
    db.roles.rowsWhere (·.tenantId ≠ some tenantId)
  /-- The role assignments. -/
  userRoles : db'.userRoles.rowsWhere (·.tenantId ≠ some tenantId) =
    db.userRoles.rowsWhere (·.tenantId ≠ some tenantId)

/-- Whether a role, assigned in a tenant or everywhere, makes an admin outside of a tenant. -/
def adminOutside (tenantId : ℕ) (assignedIn : Option ℕ) (role : Role) : Bool :=
  match assignedIn with
  | none => isSuperAdminRole role
  | some other => other ≠ tenantId && role.name = "tenant_admin"

/-- Whether the update changes nothing. -/
def idleUpdate (db : IamDb) (role : Role) (data : RoleUpdate) : Bool :=
  data.name.all (· = role.name) && data.description.all (some · = role.description) &&
    data.permissionIds.all (knownPermissions db · = role.permissions)

/-- Whether the new name of a role makes the caller, who has the role elsewhere, an admin
there. -/
def promotes (db : IamDb) (caller tenantId roleId : ℕ) (role : Role) (data : RoleUpdate) : Bool :=
  (db.userRoles.first? fun _ userRole => userRole.userId = caller ∧ userRole.roleId = roleId ∧
    adminOutside tenantId userRole.tenantId
      { role with name := data.name.getD role.name }).isSome

/-- The condition on a request: an update or a deletion that passes its checks concerns a role of
the tenant, or changes nothing, and does not make the caller an admin elsewhere. -/
def staysInside (tenantId : ℕ) (db : IamDb) : Event → Bool
  | .updateRole caller requested roleId data =>
    !isActive db caller || !isTenantAdmin db caller requested ||
      (db.roles.get? roleId).all fun role =>
        role.isPreset || !nameFree db roleId role data || idleUpdate db role data ||
          role.tenantId = some tenantId && !promotes db caller tenantId roleId role data
  | .deleteRole caller requested roleId =>
    !isActive db caller || !isTenantAdmin db caller requested ||
      (db.roles.get? roleId).all fun role =>
        role.isPreset || role.tenantId = some tenantId ||
          (db.userRoles.first? fun _ userRole => userRole.roleId = roleId).isSome
  | _ => true

variable {db db' : IamDb} {caller tenantId : ℕ}

/-- A user is confined to a tenant if no role of the user makes an admin outside of it. -/
theorem confinedTo_iff : ConfinedTo db caller tenantId ↔ ∀ id userRole role,
    db.userRoles.get? id = some userRole → userRole.userId = caller →
    db.roles.get? userRole.roleId = some role →
    adminOutside tenantId userRole.tenantId role = false := by
  constructor
  · intro h id userRole role hget huser hrole
    by_contra hne
    rw [Bool.not_eq_false] at hne
    cases htenant : userRole.tenantId with
    | none =>
      rw [htenant, adminOutside] at hne
      have hadmin : isSuperAdmin db caller = true :=
        isSuperAdmin_iff.mpr ⟨id, userRole, role, hget, huser, htenant, hrole, hne⟩
      exact absurd (h.notSuperAdmin.symm.trans hadmin) Bool.false_ne_true
    | some other =>
      rw [htenant, adminOutside, Bool.and_eq_true, decide_eq_true_eq, decide_eq_true_eq] at hne
      have hadmin : isTenantAdmin db caller other = true :=
        isTenantAdmin_iff.mpr (Or.inr ⟨id, userRole, role, hget, huser, htenant, hrole, hne.2⟩)
      exact absurd ((h.notAdmin other hne.1).symm.trans hadmin) Bool.false_ne_true
  · intro h
    have hsuper : isSuperAdmin db caller = false := by
      by_contra hne
      rw [Bool.not_eq_false, isSuperAdmin_iff] at hne
      obtain ⟨id, userRole, role, hget, huser, htenant, hrole, hsuper⟩ := hne
      have houtside := h id userRole role hget huser hrole
      simp [htenant, adminOutside, hsuper] at houtside
    refine ⟨hsuper, fun other hother => ?_⟩
    by_contra hne
    rw [Bool.not_eq_false, isTenantAdmin_iff] at hne
    rcases hne with hne | ⟨id, userRole, role, hget, huser, htenant, hrole, hname⟩
    · exact absurd (hsuper.symm.trans hne) Bool.false_ne_true
    · have houtside := h id userRole role hget huser hrole
      simp [htenant, adminOutside, hother, hname] at houtside

/-- A confined user passes the check of an admin in one tenant only. -/
private theorem ConfinedTo.tenant_eq {requested : ℕ} (h : ConfinedTo db caller tenantId)
    (hadmin : isTenantAdmin db caller requested = true) : requested = tenantId := by
  by_contra hne
  exact absurd ((h.notAdmin requested hne).symm.trans hadmin) Bool.false_ne_true

/-- An update that changes nothing leaves the role as it was. -/
private theorem update_of_idle {role : Role} {data : RoleUpdate}
    (h : idleUpdate db role data = true) : role.update db data = role := by
  simp only [idleUpdate, Bool.and_eq_true, Option.all_eq_true, decide_eq_true_eq] at h
  obtain ⟨⟨hname, hdescription⟩, hpermissions⟩ := h
  unfold Role.update
  have hname' : data.name.getD role.name = role.name := by
    cases hn : data.name with
    | none => rfl
    | some name => exact hname name hn
  have hdescription' : data.description.or role.description = role.description := by
    cases hd : data.description with
    | none => rfl
    | some description => exact hdescription description hd
  rw [hname', hdescription']
  cases hp : data.permissionIds with
  | none => rfl
  | some ids => simp only [hpermissions ids hp]

/-- What an update that stays inside does: it changes nothing, or it changes a role of the
tenant, and the caller has no role of that id that makes an admin elsewhere. -/
private theorem updated_inside {requested roleId : ℕ} {data : RoleUpdate} {role : Role}
    (hok : staysInside tenantId db (.updateRole caller requested roleId data) = true)
    (hactive : isActive db caller = true) (hadmin : isTenantAdmin db caller requested = true)
    (hfound : db.roles.get? roleId = some role) (hpreset : role.isPreset = false)
    (hfree : nameFree db roleId role data = true) :
    role.update db data = role ∨ role.tenantId = some tenantId ∧
      ∀ id userRole, db.userRoles.get? id = some userRole → userRole.userId = caller →
        userRole.roleId = roleId →
        adminOutside tenantId userRole.tenantId (role.update db data) = false := by
  simp only [staysInside, hactive, hadmin, hfound, hpreset, hfree, Option.all_some, Bool.not_true,
    Bool.false_or, Bool.or_eq_true, Bool.and_eq_true, decide_eq_true_eq] at hok
  rcases hok with hidle | ⟨htenant, hpromotes⟩
  · exact Or.inl (update_of_idle hidle)
  · refine Or.inr ⟨htenant, fun id userRole hget huser hrole => ?_⟩
    rw [promotes, Bool.not_eq_true', Option.isSome_eq_false_iff, Option.isNone_iff_eq_none,
      Serial.first?_eq_none_iff] at hpromotes
    have hnot := of_decide_eq_false (hpromotes id userRole hget)
    -- The other columns of the updated role have no part in the check.
    rw [← Bool.not_eq_true]
    exact fun houtside => hnot ⟨huser, hrole, houtside⟩

/-- A deletion that stays inside deletes a role of the tenant. -/
private theorem deleted_inside {requested roleId : ℕ} {role : Role}
    (hok : staysInside tenantId db (.deleteRole caller requested roleId) = true)
    (hactive : isActive db caller = true) (hadmin : isTenantAdmin db caller requested = true)
    (hfound : db.roles.get? roleId = some role) (hpreset : role.isPreset = false)
    (hunused : ∀ id userRole, db.userRoles.get? id = some userRole →
      userRole.roleId ≠ roleId) : role.tenantId = some tenantId := by
  have hnone : db.userRoles.first? (fun _ userRole => userRole.roleId = roleId) = none :=
    Serial.first?_eq_none_iff.mpr fun id userRole hget =>
      decide_eq_false (hunused id userRole hget)
  simpa [staysInside, hactive, hadmin, hfound, hpreset, hnone] using hok

/-- Requests keep every assignment on an existing role. -/
private theorem RolesExist.step {e : Event} (h : RolesExist db) (hmade : madeBy caller e = true) :
    RolesExist (Iam.step db e) := by
  have heffect := effect_step db e
  generalize Iam.step db e = db' at heffect
  intro id userRole hget
  cases heffect with
  | same hsame =>
    rw [hsame.userRoles] at hget
    rw [hsame.roles]
    exact h id userRole hget
  | addRole _ _ _ _ _ _ _ _ hroles huserRoles =>
    rw [huserRoles] at hget
    rw [hroles, Serial.get?_add]
    split
    · exact ⟨_, rfl⟩
    · exact h id userRole hget
  | updateRole _ _ roleId _ _ _ _ _ _ _ hroles huserRoles =>
    rw [huserRoles] at hget
    obtain ⟨role, hrole⟩ := h id userRole hget
    rw [hroles, Serial.get?_modify, hrole]
    split
    · exact ⟨_, rfl⟩
    · exact ⟨role, rfl⟩
  | deleteRole _ _ roleId _ _ _ _ _ hunused hroles huserRoles =>
    rw [huserRoles] at hget
    obtain ⟨role, hrole⟩ := h id userRole hget
    refine ⟨role, ?_⟩
    rw [hroles, Serial.get?_deleteWhere, hrole, Option.filter_some,
      decide_eq_false (hunused id userRole hget)]
    rfl
  | assignRole _ _ _ roleId role _ _ hfound _ hroles huserRoles =>
    rw [huserRoles, Serial.get?_add] at hget
    rw [hroles]
    split at hget
    · obtain rfl := Option.some.inj hget
      exact ⟨role, hfound⟩
    · exact h id userRole hget
  | revoke _ _ p _ _ _ hroles huserRoles =>
    rw [huserRoles, Serial.get?_deleteWhere] at hget
    rw [hroles]
    exact h id userRole (Option.filter_eq_some_iff.mp hget).1
  | acceptRole | acceptViewer | register | startup | deleteTenant =>
    exact absurd hmade Bool.false_ne_true

/-- Requests that stay inside keep the caller confined. -/
private theorem ConfinedTo.step {e : Event} (h : ConfinedTo db caller tenantId)
    (hexist : RolesExist db) (hmade : madeBy caller e = true)
    (hok : staysInside tenantId db e = true) :
    ConfinedTo (Iam.step db e) caller tenantId := by
  have heffect := effect_step db e
  generalize Iam.step db e = db' at heffect
  have hold := confinedTo_iff.mp h
  refine confinedTo_iff.mpr fun id userRole role hget huser hrole => ?_
  cases heffect with
  | same hsame =>
    rw [hsame.userRoles] at hget
    rw [hsame.roles] at hrole
    exact hold id userRole role hget huser hrole
  | addRole _ _ _ _ _ _ _ _ hroles huserRoles =>
    -- The assignment refers to a role that existed before.
    rw [huserRoles] at hget
    obtain ⟨old, hexists⟩ := hexist id userRole hget
    rw [hroles, Serial.get?_add, if_neg (Nat.ne_of_lt (Serial.bound_of_get? hexists).2)] at hrole
    exact hold id userRole role hget huser hrole
  | updateRole user requested roleId data old hactive hadmin hfound hpreset hfree hroles
      huserRoles =>
    obtain rfl : user = caller := of_decide_eq_true hmade
    rw [huserRoles] at hget
    rw [hroles, Serial.get?_modify] at hrole
    split at hrole
    case isTrue hid =>
      rw [hid, hfound, Option.map_some, Option.some.injEq] at hrole
      rcases updated_inside hok hactive hadmin hfound hpreset hfree with
        hsame | ⟨-, hpromotes⟩
      · rw [← hrole, hsame]
        exact hold id userRole old hget huser (hid ▸ hfound)
      · rw [← hrole]
        exact hpromotes id userRole hget huser hid
    case isFalse => exact hold id userRole role hget huser hrole
  | deleteRole _ _ _ _ _ _ _ _ _ hroles huserRoles =>
    rw [huserRoles] at hget
    rw [hroles, Serial.get?_deleteWhere] at hrole
    exact hold id userRole role hget huser (Option.filter_eq_some_iff.mp hrole).1
  | assignRole user requested _ _ _ _ hadmin _ _ hroles huserRoles =>
    obtain rfl : user = caller := of_decide_eq_true hmade
    rw [huserRoles, Serial.get?_add] at hget
    rw [hroles] at hrole
    split at hget
    case isTrue =>
      -- The caller can only assign inside the tenant.
      obtain rfl := Option.some.inj hget
      simp [adminOutside, h.tenant_eq hadmin]
    case isFalse => exact hold id userRole role hget huser hrole
  | revoke _ _ _ _ _ _ hroles huserRoles =>
    rw [huserRoles, Serial.get?_deleteWhere] at hget
    rw [hroles] at hrole
    exact hold id userRole role (Option.filter_eq_some_iff.mp hget).1 huser hrole
  | acceptRole | acceptViewer | register | startup | deleteTenant =>
    exact absurd hmade Bool.false_ne_true

/-- What belongs to the tenant is not outside of it. -/
private theorem not_outside {column : Option ℕ} (h : column = some tenantId) :
    decide (column ≠ some tenantId) = false :=
  decide_eq_false (not_not_intro h)

/-- A request that stays inside changes nothing outside of the tenant. -/
private theorem unchangedOutside_step {e : Event} (h : ConfinedTo db caller tenantId)
    (hmade : madeBy caller e = true) (hok : staysInside tenantId db e = true) :
    UnchangedOutside tenantId db (step db e) := by
  have heffect := effect_step db e
  generalize step db e = db' at heffect
  cases heffect with
  | same hsame => exact ⟨by rw [hsame.roles], by rw [hsame.userRoles]⟩
  | addRole user requested _ role hadmin htenant _ _ hroles huserRoles =>
    obtain rfl : user = caller := of_decide_eq_true hmade
    refine ⟨?_, by rw [huserRoles]⟩
    rw [hroles]
    exact Serial.rowsWhere_add_of_not (not_outside (htenant.trans (by rw [h.tenant_eq hadmin])))
  | updateRole user requested roleId data role hactive hadmin hfound hpreset hfree hroles
      huserRoles =>
    obtain rfl : user = caller := of_decide_eq_true hmade
    refine ⟨?_, by rw [huserRoles]⟩
    rw [hroles]
    rcases updated_inside hok hactive hadmin hfound hpreset hfree with hsame | ⟨htenant, -⟩
    · ext1 k
      rw [Serial.rowsWhere, Serial.rowsWhere, Serial.get?_modify]
      split
      case isTrue hk => rw [hk, hfound, Option.map_some, hsame]
      case isFalse => rfl
    · -- the role was inside before and is inside afterwards
      refine Serial.rowsWhere_modify_of_not fun other hother => ?_
      rw [hfound, Option.some.injEq] at hother
      subst hother
      exact ⟨not_outside htenant, not_outside htenant⟩
  | deleteRole user requested roleId role hactive hadmin hfound hpreset hunused hroles
      huserRoles =>
    obtain rfl : user = caller := of_decide_eq_true hmade
    refine ⟨?_, by rw [huserRoles]⟩
    rw [hroles]
    refine Serial.rowsWhere_deleteWhere_of_not fun id other hother hid => ?_
    rw [of_decide_eq_true hid, hfound, Option.some.injEq] at hother
    subst hother
    exact not_outside (deleted_inside hok hactive hadmin hfound hpreset hunused)
  | assignRole user requested _ _ _ _ hadmin _ _ hroles huserRoles =>
    obtain rfl : user = caller := of_decide_eq_true hmade
    refine ⟨by rw [hroles], ?_⟩
    rw [huserRoles]
    exact Serial.rowsWhere_add_of_not (not_outside (by rw [h.tenant_eq hadmin]))
  | revoke user requested p hmadeBy hadmin hinTenant hroles huserRoles =>
    have huser : user = caller := by
      rcases hmadeBy with ⟨_, _, rfl⟩ | ⟨_, rfl⟩ <;> exact of_decide_eq_true hmade
    subst huser
    refine ⟨by rw [hroles], ?_⟩
    rw [huserRoles]
    refine Serial.rowsWhere_deleteWhere_of_not fun id userRole hget hp => ?_
    exact not_outside ((hinTenant id userRole hget hp).trans (by rw [h.tenant_eq hadmin]))
  | acceptRole | acceptViewer | register | startup | deleteTenant =>
    exact absurd hmade Bool.false_ne_true

/-- In every run of requests of a user who is confined to a tenant, and whose updates and
deletions of roles stay inside of it, nothing changes outside of the tenant. -/
theorem outside_unchanged {start : IamDb} (hexist : RolesExist start)
    (hconfined : ConfinedTo start caller tenantId)
    (h : (machine start).Reachable
      (fun db e => madeBy caller e = true ∧ staysInside tenantId db e = true) db) :
    UnchangedOutside tenantId start db := by
  have hinv : RolesExist db ∧ ConfinedTo db caller tenantId ∧
      UnchangedOutside tenantId start db := by
    refine h.invariant (fun db => RolesExist db ∧ ConfinedTo db caller tenantId ∧
      UnchangedOutside tenantId start db) ?_ ?_
    · rintro s rfl
      exact ⟨hexist, hconfined, rfl, rfl⟩
    · rintro s e ⟨hexist, hconfined, hunchanged⟩ ⟨hmade, hok⟩
      have hstep := unchangedOutside_step hconfined hmade hok
      exact ⟨hexist.step hmade, hconfined.step hexist hmade hok,
        hstep.roles.trans hunchanged.roles, hstep.userRoles.trans hunchanged.userRoles⟩
  exact hinv.2.2

/-- The assignments of the small database refer to its roles. -/
theorem rolesExist_smallDb : RolesExist smallDb := by
  have hsome : ∀ id userRole, smallDb.userRoles.get? id = some userRole →
      (smallDb.roles.get? userRole.roleId).isSome = true :=
    Serial.forall_get?_iff.mpr (by decide)
  exact fun id userRole hget => Option.isSome_iff_exists.mp (hsome id userRole hget)

/-- Alice is the admin of the first tenant only. -/
theorem confinedTo_smallDb : ConfinedTo smallDb 2 1 := by
  refine confinedTo_iff.mpr fun id userRole role hget huser hrole => ?_
  have hsmall : ∀ id userRole, smallDb.userRoles.get? id = some userRole →
      userRole.userId = 2 → userRole.tenantId = some 1 :=
    Serial.forall_get?_iff.mpr (by decide)
  rw [hsmall id userRole hget huser]
  rfl

/-- Alice changes the role of her own tenant and assigns it to Bob. -/
theorem outside_unchanged_small : UnchangedOutside 1 smallDb ((machine smallDb).run smallDb
    [.updateRole 2 1 4 ⟨some "helpers", none, some [1, 2]⟩, .assignRole 2 1 3 (some 4)]) :=
  outside_unchanged rolesExist_smallDb confinedTo_smallDb
    ((Machine.Reachable.start rfl).run (by decide))

/-- Alice changes the role of another tenant. -/
theorem outside_changed : ¬ ∀ (start db : IamDb) (caller tenantId : ℕ), RolesExist start →
    ConfinedTo start caller tenantId →
    (machine start).Reachable (fun _ e => madeBy caller e = true) db →
    UnchangedOutside tenantId start db := by
  intro h
  have hreach : (machine smallDb).Reachable (fun _ e => madeBy 2 e = true)
      ((machine smallDb).run smallDb [.updateRole 2 1 5 ⟨none, none, some []⟩]) :=
    (Machine.Reachable.start rfl).run (by decide)
  have hroles := (h smallDb _ 2 1 rolesExist_smallDb confinedTo_smallDb hreach).roles
  exact absurd (congrFun hroles 5) (by decide)

end ProxmoxIaas.Iam
