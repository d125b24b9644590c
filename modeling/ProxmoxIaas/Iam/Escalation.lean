import ProxmoxIaas.Iam.System

/-!
# Escalation to Super Admin

Who can become a super admin. No request grants the role of a super admin outside of a tenant,
but the role can be assigned inside of a tenant, where it means nothing, and the deletion of the
tenant leaves the assignment behind without a tenant.

## Main results

- `no_escalation`: nobody becomes a super admin in a run whose deleted tenants have no assignment
  of the role to somebody else.
- `isSuperAdmin_of_step`: who can become a super admin in a step.
- `escalation`: the admin of a tenant becomes a super admin when the tenant is deleted.
-/

namespace ProxmoxIaas.Iam

/-- The roles of the system are seeded. -/
def SystemRolesPreset (db : IamDb) : Prop :=
  ∀ id role, db.roles.get? id = some role → role.isSystem = true → role.isPreset = true

/-- Whether a request is no explicit grant of the role of a super admin by a super admin. -/
def noExplicitGrant (db : IamDb) : Event → Bool
  | .assignRole caller _ _ roleId =>
    !(isSuperAdmin db caller && (roleId.bind db.roles.get?).any isSuperAdminRole)
  | _ => true

/-- The condition on a request: a tenant is deleted only if the role of a super admin is assigned
in it to nobody but super admins. -/
def orphansNoSuperAdmin (db : IamDb) : Event → Bool
  | .deleteTenant caller tenantId vmCount referenced =>
    !deletesTenant db caller tenantId vmCount referenced ||
      (db.userRoles.first? fun _ userRole => userRole.tenantId = some tenantId ∧
        (db.roles.get? userRole.roleId).any isSuperAdminRole ∧
        isSuperAdmin db userRole.userId = false).isNone
  | _ => true

variable {db : IamDb} {e : Event}

/-- Requests neither make roles of the system nor change whether a role is seeded. -/
theorem SystemRolesPreset.step (h : SystemRolesPreset db) :
    SystemRolesPreset (Iam.step db e) := by
  intro id role hget hsystem
  rcases role_of_step hget with ⟨old, hold, hsystem', hpreset, -⟩ | hcustom
  · rw [hpreset]
    exact h id old hold (hsystem' ▸ hsystem)
  · exact absurd (hcustom.symm.trans hsystem) Bool.false_ne_true

/-- A role that makes a super admin after a step made one before. -/
private theorem isSuperAdminRole_of_step (h : SystemRolesPreset db) {id : ℕ} {role : Role}
    (hget : (step db e).roles.get? id = some role) (hsuper : isSuperAdminRole role = true) :
    ∃ old, db.roles.get? id = some old ∧ isSuperAdminRole old = true := by
  rw [isSuperAdminRole, Bool.and_eq_true, decide_eq_true_eq] at hsuper
  obtain ⟨hsystem, hname⟩ := hsuper
  rcases role_of_step hget with ⟨old, hold, hsystem', -, hname'⟩ | hcustom
  · rw [hsystem'] at hsystem
    refine ⟨old, hold, ?_⟩
    rw [isSuperAdminRole, hsystem, ← hname' (h id old hold hsystem), hname]
    rfl
  · exact absurd (hcustom.symm.trans hsystem) Bool.false_ne_true

/-- Whether a request deletes a tenant in which the user has the role of a super admin. -/
def orphansSuperAdmin (db : IamDb) (userId : ℕ) : Event → Bool
  | .deleteTenant caller tenantId vmCount referenced =>
    deletesTenant db caller tenantId vmCount referenced &&
      hasRole db userId (some tenantId) isSuperAdminRole
  | _ => false

/-- Who is a super admin after a step was one before, or had the role in the tenant that the step
deletes. -/
theorem isSuperAdmin_of_step (h : SystemRolesPreset db) {userId : ℕ}
    (hsuper : isSuperAdmin (step db e) userId = true) :
    isSuperAdmin db userId = true ∨ orphansSuperAdmin db userId e = true := by
  obtain ⟨id, userRole, role, hget, huser, hglobal, hrole, hsuper⟩ := isSuperAdmin_iff.mp hsuper
  obtain ⟨old, hold, rfl, horigin⟩ := global_of_step hget hglobal
  obtain ⟨oldRole, holdRole, hsuperRole⟩ := isSuperAdminRole_of_step h hrole hsuper
  rcases horigin with htenant | ⟨caller, tenantId, vmCount, referenced, rfl, hdeletes, htenant⟩
  · exact Or.inl (isSuperAdmin_iff.mpr
      ⟨id, old, oldRole, hold, huser, htenant, holdRole, hsuperRole⟩)
  · refine Or.inr (Bool.and_eq_true_iff.mpr ⟨hdeletes, hasRole_iff.mpr ?_⟩)
    exact ⟨id, old, oldRole, hold, huser, htenant, holdRole, hsuperRole⟩

/-- A step that meets the condition makes nobody a super admin. -/
private theorem isSuperAdmin_of_orphansNoSuperAdmin (h : SystemRolesPreset db)
    (hok : orphansNoSuperAdmin db e = true) {userId : ℕ}
    (hsuper : isSuperAdmin (step db e) userId = true) : isSuperAdmin db userId = true := by
  rcases isSuperAdmin_of_step h hsuper with hsuper | horphans
  · exact hsuper
  · cases e
    case deleteTenant caller tenantId vmCount referenced =>
      -- The assignment lost its tenant, so its user was a super admin already.
      obtain ⟨hdeletes, hhas⟩ := Bool.and_eq_true_iff.mp horphans
      obtain ⟨id, old, role, hold, huser, htenant, hrole, hsuperRole⟩ := hasRole_iff.mp hhas
      simp only [orphansNoSuperAdmin, hdeletes, Bool.not_true, Bool.false_or,
        Option.isNone_iff_eq_none, Serial.first?_eq_none_iff, decide_eq_false_iff_not] at hok
      by_contra hne
      refine hok id old hold ⟨htenant, ?_, ?_⟩
      · rw [hrole, Option.any_some, hsuperRole]
      · rw [← Bool.not_eq_true]
        exact huser ▸ hne
    all_goals cases horphans

/-- In every run that deletes a tenant only if the role of a super admin is assigned in it to
nobody but super admins, nobody becomes a super admin. -/
theorem no_escalation {start : IamDb} (hpreset : SystemRolesPreset start)
    (h : (machine start).Reachable (fun db e => orphansNoSuperAdmin db e = true) db) (userId : ℕ)
    (hbefore : isSuperAdmin start userId = false) : isSuperAdmin db userId = false := by
  have hinv : SystemRolesPreset db ∧ isSuperAdmin db userId = false := by
    refine h.invariant (fun db => SystemRolesPreset db ∧ isSuperAdmin db userId = false) ?_ ?_
    · rintro s rfl
      exact ⟨hpreset, hbefore⟩
    · rintro s e ⟨hpreset, hno⟩ hok
      refine ⟨hpreset.step, ?_⟩
      by_contra hne
      rw [Bool.not_eq_false] at hne
      exact absurd (hno.symm.trans (isSuperAdmin_of_orphansNoSuperAdmin hpreset hok hne)) Bool.false_ne_true
  exact hinv.2

/-- The role of a super admin is seeded in the small database. -/
theorem systemRolesPreset_smallDb : SystemRolesPreset smallDb :=
  Serial.forall_get?_iff.mpr (by decide)

/-- A third tenant gets Alice as its admin. -/
def thirdTenant : List Event := [.createTenant 1 "Initech" "initech", .assignRole 1 3 2 (some 1)]

/-- The third tenant is deleted again. -/
theorem no_escalation_small : isSuperAdmin
    ((machine smallDb).run smallDb (thirdTenant ++ [.deleteTenant 1 3 0 false])) 2 = false :=
  no_escalation systemRolesPreset_smallDb ((Machine.Reachable.start rfl).run (by decide)) 2
    (by decide)

/-- Before the third tenant is deleted, Alice assigns the role of a super admin to herself. -/
theorem escalation : ¬ ∀ (start db : IamDb) (userId : ℕ), SystemRolesPreset start →
    (machine start).Reachable (fun db e => noExplicitGrant db e = true) db →
    isSuperAdmin start userId = false → isSuperAdmin db userId = false := by
  intro h
  have hreach : (machine smallDb).Reachable (fun db e => noExplicitGrant db e = true)
      ((machine smallDb).run smallDb
        (thirdTenant ++ [.assignRole 2 3 2 (some 3), .deleteTenant 1 3 0 false])) :=
    (Machine.Reachable.start rfl).run (by decide)
  have hno := h smallDb _ 2 systemRolesPreset_smallDb hreach (by decide)
  exact absurd hno (by decide)

end ProxmoxIaas.Iam
