import ProxmoxIaas.Iam.System

/-!
# Role Assignments Inside Tenants

A role that is assigned in a tenant is to be a preset role or a role of that tenant, and an
assignment is to keep its tenant. Only some of the paths that assign a role check which role it
is: the creation of an invitation refuses roles of the system, the direct assignment and the
acceptance of an invitation ask nothing.

## Main results

- `assignments_inside`: assignments are inside of their tenants, and keep them, in every run that
  grants assignable roles and deletes tenants without assignments.
- `assignments_not_inside`: a tenant admin assigns a role of another tenant.
-/

namespace ProxmoxIaas.Iam

/-- Whether a role may be assigned in a tenant. -/
def assignable (tenantId : ℕ) (role : Role) : Bool :=
  !role.isSystem && (role.isPreset || role.tenantId = some tenantId)

/-- The roles that are assigned in a tenant exist and may be assigned there. -/
def AssignedInside (db : IamDb) : Prop :=
  ∀ id userRole tenantId, db.userRoles.get? id = some userRole →
    userRole.tenantId = some tenantId →
    ∃ role, db.roles.get? userRole.roleId = some role ∧ assignable tenantId role = true

/-- Assignments without a tenant had none before. -/
def KeepsTenants (db db' : IamDb) : Prop :=
  ∀ id userRole, db'.userRoles.get? id = some userRole → userRole.tenantId = none →
    ∃ old, db.userRoles.get? id = some old ∧ old.tenantId = none

/-- Whether the default role with a name is seeded. -/
def defaultPreset (db : IamDb) (name : String) : Bool :=
  (defaultRole db name).all fun (_, role) => role.isPreset

/-- The condition on a request: a role that it assigns may be assigned in the tenant, a default
role is seeded, and a tenant that it deletes has no assignments. -/
def grantsInside (db : IamDb) : Event → Bool
  | .assignRole caller tenantId userId roleId =>
    !isActive db caller || !isTenantAdmin db caller tenantId || (db.users.get? userId).isNone ||
      (roleId.bind db.roles.get?).all (assignable tenantId)
  | .acceptInvitation token _ now =>
    (openInvitation? db token).all fun (_, invitation) => invitation.expiresAt < now ||
      match truthy invitation.roleId with
      | some roleId => (db.roles.get? roleId).all (assignable invitation.tenantId)
      | none => defaultPreset db "viewer"
  | .register .. => defaultPreset db "tenant_admin"
  | .startup => usersWithoutRoles db = [] || defaultPreset db "tenant_admin"
  | .deleteTenant caller tenantId vmCount referenced =>
    !deletesTenant db caller tenantId vmCount referenced ||
      (db.userRoles.first? fun _ userRole => userRole.tenantId = some tenantId).isNone
  | _ => true

variable {db db' : IamDb} {e : Event}

/-- A tenant that is deleted has no assignments. -/
private theorem no_assignments_of_deletes {caller tenantId vmCount : ℕ} {referenced : Bool}
    (hok : grantsInside db (.deleteTenant caller tenantId vmCount referenced) = true)
    (hdeletes : deletesTenant db caller tenantId vmCount referenced = true) {id : ℕ}
    {userRole : UserRole} (hget : db.userRoles.get? id = some userRole) :
    userRole.tenantId ≠ some tenantId := by
  simp only [grantsInside, hdeletes, Bool.not_true, Bool.false_or, Option.isNone_iff_eq_none,
    Serial.first?_eq_none_iff, decide_eq_false_iff_not] at hok
  exact hok id userRole hget

/-- Assignments keep their tenants in a step that meets the condition. -/
private theorem keepsTenants_step (hok : grantsInside db e = true) :
    KeepsTenants db (step db e) := by
  intro id userRole hget hglobal
  obtain ⟨old, hold, -, htenant | ⟨_, _, _, _, rfl, hdeletes, htenant⟩⟩ :=
    global_of_step hget hglobal
  · exact ⟨old, hold, htenant⟩
  · exact absurd htenant (no_assignments_of_deletes hok hdeletes hold)

/-- The default roles that are seeded may be assigned in every tenant. -/
private theorem AssignedInside.of_defaultGrants {name : String} (h : AssignedInside db)
    (hpreset : defaultPreset db name = true) (hgranted : DefaultGrants name db db') :
    AssignedInside db' := by
  induction hgranted with
  | refl hsame =>
    intro id userRole tenantId hget htenant
    rw [hsame.userRoles] at hget
    rw [hsame.roles]
    exact h id userRole tenantId hget htenant
  | grant _ _ roleId role hbefore hfound hroles huserRoles ih =>
    intro id userRole tenantId hget htenant
    rw [huserRoles, Serial.get?_add] at hget
    rw [hroles]
    split at hget
    case isTrue =>
      obtain rfl := Option.some.inj hget
      obtain ⟨hrole, hfits⟩ := Serial.first?_eq_some hfound
      obtain ⟨-, -, hsystem : role.isSystem = false⟩ := of_decide_eq_true hfits
      rw [defaultPreset, hfound, Option.all_some] at hpreset
      refine ⟨role, hbefore.roles_eq ▸ hrole, ?_⟩
      simp [assignable, hsystem, hpreset]
    case isFalse => exact ih id userRole tenantId hget htenant

/-- A new assignment of an assignable role. -/
private theorem AssignedInside.add {userId tenantId roleId : ℕ} {grantedBy : Option ℕ}
    {role : Role} (h : AssignedInside db) (hfound : db.roles.get? roleId = some role)
    (hassignable : assignable tenantId role = true) (hroles : db'.roles = db.roles)
    (huserRoles : db'.userRoles =
      db.userRoles.add ⟨userId, some tenantId, roleId, grantedBy⟩) : AssignedInside db' := by
  intro id userRole other hget hother
  rw [huserRoles, Serial.get?_add] at hget
  rw [hroles]
  split at hget
  case isTrue =>
    obtain rfl := Option.some.inj hget
    obtain rfl := Option.some.inj hother
    exact ⟨role, hfound, hassignable⟩
  case isFalse => exact h id userRole other hget hother

/-- Assignments may go. -/
private theorem AssignedInside.mono (h : AssignedInside db)
    (hroles : ∀ id role tenantId, db.roles.get? id = some role → assignable tenantId role = true →
      (∃ k userRole, db'.userRoles.get? k = some userRole ∧ userRole.roleId = id ∧
        userRole.tenantId = some tenantId) →
      ∃ role', db'.roles.get? id = some role' ∧ assignable tenantId role' = true)
    (huserRoles : ∀ id userRole, db'.userRoles.get? id = some userRole →
      db.userRoles.get? id = some userRole) : AssignedInside db' := by
  intro id userRole tenantId hget htenant
  obtain ⟨role, hrole, hassignable⟩ := h id userRole tenantId (huserRoles id userRole hget) htenant
  exact hroles userRole.roleId role tenantId hrole hassignable ⟨id, userRole, hget, rfl, htenant⟩

/-- A step that meets the condition keeps the assignments inside. -/
private theorem AssignedInside.step (h : AssignedInside db) (hok : grantsInside db e = true) :
    AssignedInside (Iam.step db e) := by
  have heffect := effect_step db e
  generalize Iam.step db e = db' at heffect
  cases heffect with
  | same hsame =>
    refine h.mono (fun id role tenantId hrole hassignable _ => ?_) fun _ _ hget =>
      hsame.userRoles ▸ hget
    exact ⟨role, hsame.roles ▸ hrole, hassignable⟩
  | addRole _ _ _ _ _ _ _ _ hroles huserRoles =>
    refine h.mono (fun id role tenantId hrole hassignable _ => ⟨role, ?_, hassignable⟩)
      fun _ _ hget => huserRoles ▸ hget
    rw [hroles, Serial.get?_add, if_neg (Nat.ne_of_lt (Serial.bound_of_get? hrole).2)]
    exact hrole
  | updateRole _ _ roleId data _ _ _ _ _ _ hroles huserRoles =>
    refine h.mono (fun id role tenantId hrole hassignable _ => ?_) fun _ _ hget =>
      huserRoles ▸ hget
    rw [hroles, Serial.get?_modify, hrole]
    split
    · exact ⟨role.update db data, rfl, hassignable⟩
    · exact ⟨role, rfl, hassignable⟩
  | deleteRole _ _ roleId _ _ _ _ _ hunused hroles huserRoles =>
    refine h.mono (fun id role tenantId hrole hassignable hused => ⟨role, ?_, hassignable⟩)
      fun _ _ hget => huserRoles ▸ hget
    obtain ⟨k, userRole, hget, rfl, -⟩ := hused
    rw [huserRoles] at hget
    rw [hroles, Serial.get?_deleteWhere, hrole, Option.filter_some,
      decide_eq_false (hunused k userRole hget)]
    rfl
  | assignRole _ _ _ _ role hactive hadmin hfound huser hroles huserRoles =>
    rw [grantsInside, hactive, hadmin, ← Option.not_isSome, huser, Option.bind_some, hfound] at hok
    exact h.add hfound hok hroles huserRoles
  | revoke _ _ _ _ _ _ hroles huserRoles =>
    refine h.mono (fun id role tenantId hrole hassignable _ => ?_) fun id userRole hget => ?_
    · exact ⟨role, hroles ▸ hrole, hassignable⟩
    · rw [huserRoles, Serial.get?_deleteWhere] at hget
      exact (Option.filter_eq_some_iff.mp hget).1
  | acceptRole _ _ _ _ _ _ _ role hopened hvalid hnamed hfound hroles huserRoles =>
    simp only [grantsInside, hopened, Option.all_some, hnamed, hfound, Bool.or_eq_true,
      decide_eq_true_eq, Nat.not_lt.mpr hvalid, false_or] at hok
    exact h.add hfound hok hroles huserRoles
  | acceptViewer _ _ _ _ invitation hopened hvalid hunnamed hgranted =>
    simp only [grantsInside, hopened, Option.all_some, hunnamed, Bool.or_eq_true,
      decide_eq_true_eq, Nat.not_lt.mpr hvalid, false_or] at hok
    exact h.of_defaultGrants hok hgranted
  | register _ _ _ _ hgranted => exact h.of_defaultGrants hok hgranted
  | startup hpending hgranted =>
    rw [grantsInside, decide_eq_false hpending, Bool.false_or] at hok
    exact h.of_defaultGrants hok hgranted
  | deleteTenant caller tenantId vmCount referenced hdeletes hroles huserRoles =>
    refine h.mono (fun id role other hrole hassignable hused => ?_) fun id userRole hget => ?_
    · -- A role loses its tenant, but is not assigned there.
      obtain ⟨k, userRole, hget, -, hother⟩ := hused
      rw [huserRoles, Serial.get?_mapRows, Option.map_eq_some_iff] at hget
      obtain ⟨old, -, rfl⟩ := hget
      have hne : other ≠ tenantId := of_decide_eq_true (Option.filter_eq_some_iff.mp hother).2
      rw [hroles, Serial.get?_mapRows, hrole, Option.map_some]
      refine ⟨_, rfl, ?_⟩
      simp only [assignable, Bool.and_eq_true, Bool.or_eq_true, decide_eq_true_eq] at hassignable ⊢
      refine ⟨hassignable.1, hassignable.2.imp_right fun htenant => ?_⟩
      rw [htenant, Option.filter_some, if_pos (decide_eq_true hne)]
    · rw [huserRoles, Serial.get?_mapRows, Option.map_eq_some_iff] at hget
      obtain ⟨old, hold, rfl⟩ := hget
      have hfilter : old.tenantId.filter (fun other => decide (other ≠ tenantId)) =
          old.tenantId := by
        have hne := no_assignments_of_deletes hok hdeletes hold
        cases htenant : old.tenantId with
        | none => rfl
        | some other =>
          rw [htenant, ne_eq, Option.some.injEq] at hne
          rw [Option.filter_some, if_pos (decide_eq_true hne)]
      rw [hold, hfilter]

/-- In every run that grants assignable roles and deletes only tenants without assignments, every
assignment is inside of its tenant, and no assignment loses its tenant. -/
theorem assignments_inside {start : IamDb} (hinside : AssignedInside start)
    (h : (machine start).Reachable (fun db e => grantsInside db e = true) db) :
    AssignedInside db ∧ KeepsTenants start db := by
  refine h.invariant (fun db => AssignedInside db ∧ KeepsTenants start db) ?_ ?_
  · rintro s rfl
    exact ⟨hinside, fun id userRole hget hglobal => ⟨userRole, hget, hglobal⟩⟩
  · rintro s e ⟨hinside, hkeeps⟩ hok
    refine ⟨hinside.step hok, fun id userRole hget hglobal => ?_⟩
    obtain ⟨old, hold, holdGlobal⟩ := keepsTenants_step hok id userRole hget hglobal
    exact hkeeps id old hold holdGlobal

/-- The assignments of the small database are inside of their tenants. -/
theorem assignedInside_smallDb : AssignedInside smallDb := by
  have hsmall : ∀ id userRole, smallDb.userRoles.get? id = some userRole →
      userRole.tenantId = none ∨ userRole.roleId = 1 :=
    Serial.forall_get?_iff.mpr (by decide)
  intro id userRole tenantId hget htenant
  rcases hsmall id userRole hget with hglobal | hrole
  · exact absurd (hglobal.symm.trans htenant) nofun
  · rw [hrole]
    exact ⟨_, rfl, rfl⟩

/-- Alice invites Carol as an operator of her tenant, and Carol accepts. -/
theorem assignments_inside_small :
    let db := (machine smallDb).run smallDb
      [.createInvitation 2 1 "carol@acme.example" (some 4) "token" 7,
        .acceptInvitation "token" "carol" 3]
    AssignedInside db ∧ KeepsTenants smallDb db :=
  assignments_inside assignedInside_smallDb ((Machine.Reachable.start rfl).run (by decide))

/-- Alice assigns a role of another tenant in her own. -/
theorem assignments_not_inside : ¬ ∀ (start db : IamDb), AssignedInside start →
    (machine start).Reachable Machine.anyStep db → AssignedInside db ∧ KeepsTenants start db := by
  intro h
  have hinside := (h smallDb _ assignedInside_smallDb (Machine.reachable_run rfl
    [.assignRole 2 1 3 (some 5)])).1
  obtain ⟨role, hrole, hassignable⟩ := hinside 4 _ 1 rfl rfl
  obtain rfl := Option.some.inj hrole
  exact absurd hassignable (by decide)

end ProxmoxIaas.Iam
