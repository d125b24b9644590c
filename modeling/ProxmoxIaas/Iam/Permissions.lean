import ProxmoxIaas.Iam.Model
import ProxmoxIaas.Foundation.Text

/-!
# Permissions

The permissions of a user in a tenant, and the check that endpoints make before they act. A
permission is named by a resource and an action; the action `*` stands for every action, and the
permission `*` for everything.

## Main results

- `hasPermission_iff`: what the check says about the rows.
- `mem_grantedPermissions`: what it says about the permissions that are granted.
-/

namespace ProxmoxIaas

/-- `parse_permission`: the resource and the action that a permission names. -/
def parsePermission (permission : String) : String × String :=
  match Text.split ':' permission.toList with
  | resource :: action :: _ => (.ofList resource, .ofList action)
  | _ => (permission, "")

/-- Whether a permission covers a required one. -/
def covers (required permission : String) : Bool :=
  let (resource, action) := parsePermission required
  let (permResource, permAction) := parsePermission permission
  permResource = resource && (permAction = action || permAction = "*")

/-- The names of the permissions of a role. -/
def rolePermissions (db : IamDb) (role : Role) : List String :=
  (db.permissions.select fun id _ => id ∈ role.permissions).map (·.2)

/-- Whether a column of ids has a value; `none` stands for `NULL`. -/
def columnIs (value : Option ℤ) (stored : Option ℕ) : Bool := stored.map Int.ofNat = value

/-- The names of the permissions that the roles of a user in a tenant have. -/
def grantedPermissions (db : IamDb) (userId : ℕ) (tenantId : Option ℤ) : List String :=
  (db.userRoles.select fun _ userRole =>
    userRole.userId = userId ∧ columnIs tenantId userRole.tenantId = true).flatMap
      fun (_, userRole) => ((db.roles.get? userRole.roleId).map (rolePermissions db)).getD []

/-- `get_user_permissions`. -/
def userPermissions (db : IamDb) (userId : ℕ) (tenantId : Option ℤ) : List String :=
  if isSuperAdmin db userId then ["*"] else (grantedPermissions db userId tenantId).dedup

/-- `has_permission`. -/
def hasPermission (db : IamDb) (userId : ℕ) (tenantId : Option ℤ) (required : String) : Bool :=
  "*" ∈ userPermissions db userId tenantId ||
    (userPermissions db userId tenantId).any (covers required)

/-- A value is the id that a column has. -/
theorem columnIs_iff {value : Option ℤ} {stored : Option ℕ} :
    columnIs value stored = true ↔ stored.map Int.ofNat = value :=
  decide_eq_true_iff

/-- A column that has an integer has the id of a row. -/
theorem columnIs_some {id : ℤ} {stored : Option ℕ} (h : columnIs (some id) stored = true) :
    ∃ tenantId : ℕ, stored = some tenantId ∧ id = tenantId := by
  obtain ⟨tenantId, hstored, rfl⟩ := Option.map_eq_some_iff.mp (columnIs_iff.mp h)
  exact ⟨tenantId, hstored, rfl⟩

/-- Two columns with one value have the same id. -/
theorem eq_of_columnIs {value : Option ℤ} {stored stored' : Option ℕ}
    (h : columnIs value stored = true) (h' : columnIs value stored' = true) : stored = stored' :=
  Option.map_injective (fun _ _ heq => Int.ofNat.inj heq)
    ((columnIs_iff.mp h).trans (columnIs_iff.mp h').symm)

/-- A granted permission belongs to a role of the user in the tenant. -/
theorem mem_grantedPermissions {db : IamDb} {userId : ℕ} {tenantId : Option ℤ} {name : String} :
    name ∈ grantedPermissions db userId tenantId ↔ ∃ id userRole role permissionId,
      db.userRoles.get? id = some userRole ∧ userRole.userId = userId ∧
      columnIs tenantId userRole.tenantId = true ∧ db.roles.get? userRole.roleId = some role ∧
      permissionId ∈ role.permissions ∧ db.permissions.get? permissionId = some name := by
  rw [grantedPermissions, List.mem_flatMap]
  constructor
  · rintro ⟨⟨id, userRole⟩, hselect, hname⟩
    obtain ⟨hget, hfits⟩ := Table.mem_select.mp hselect
    obtain ⟨huser, htenant⟩ := of_decide_eq_true hfits
    dsimp only at hname
    cases hrole : db.roles.get? userRole.roleId with
    | none =>
      rw [hrole] at hname
      cases hname
    | some role =>
      rw [hrole, Option.map_some, Option.getD_some] at hname
      obtain ⟨⟨permissionId, _⟩, hpermission, rfl⟩ := List.mem_map.mp hname
      obtain ⟨hgetPermission, hmem⟩ := Table.mem_select.mp hpermission
      exact ⟨id, userRole, role, permissionId, hget, huser, htenant, hrole,
        of_decide_eq_true hmem, hgetPermission⟩
  · rintro ⟨id, userRole, role, permissionId, hget, huser, htenant, hrole, hmem, hpermission⟩
    refine ⟨(id, userRole), Table.mem_select.mpr ⟨hget, decide_eq_true ⟨huser, htenant⟩⟩, ?_⟩
    dsimp only
    rw [hrole, Option.map_some, Option.getD_some]
    exact List.mem_map.mpr ⟨(permissionId, name),
      Table.mem_select.mpr ⟨hpermission, decide_eq_true hmem⟩, rfl⟩

/-- The check passes for super admins, and for users with a role that has a permission which
covers the required one. -/
theorem hasPermission_iff {db : IamDb} {userId : ℕ} {tenantId : Option ℤ} {required : String} :
    hasPermission db userId tenantId required = true ↔ isSuperAdmin db userId = true ∨
      ∃ name ∈ grantedPermissions db userId tenantId,
        name = "*" ∨ covers required name = true := by
  rw [hasPermission, userPermissions]
  by_cases hsuper : isSuperAdmin db userId = true
  · simp [hsuper]
  · rw [if_neg hsuper]
    simp only [Bool.or_eq_true, decide_eq_true_eq, List.mem_dedup, List.any_eq_true, hsuper,
      Bool.false_eq_true, false_or]
    constructor
    · rintro (hall | ⟨name, hname, hcovers⟩)
      · exact ⟨"*", hall, Or.inl rfl⟩
      · exact ⟨name, hname, Or.inr hcovers⟩
    · rintro ⟨name, hname, rfl | hcovers⟩
      · exact Or.inl hname
      · exact Or.inr ⟨name, hname, hcovers⟩

end ProxmoxIaas
