import Mathlib.Data.List.Dedup
import ProxmoxIaas.Foundation.Constrained
import ProxmoxIaas.Provisioning.Model

/-!
# Seeding of Permissions and Roles

At every start the permissions that are missing are inserted, and the preset roles are given the
permissions of their mapping that they do not hold. What a role holds is read before the loop over
the mapping, so a name that is mapped twice is appended twice if it was missing.

A flush writes a row for every entry that was appended to a collection. Whether it writes two rows
for an entry that was appended twice, so that the primary key is violated, or one, is not laid down
in the code; it is a parameter here.

## Main results

- `seeds_iff`: the seeding is a fixed point if and only if no permission clashes with another one,
  and the names that are mapped twice are held already or written once.
- `not_seeds`: the first seeding of a new installation fails.
-/

namespace ProxmoxIaas

namespace Seeding

/-- A row of `permissions`. -/
structure Permission where
  /-- Unique name. -/
  name : String
  /-- The kind of resource. -/
  resourceType : String
  /-- The action, unique for the kind of resource. -/
  action : String
  /-- Description. -/
  description : Option String
  deriving DecidableEq, Repr

/-- The constraints of `permissions`. -/
def permissionConstraints : Constraints Permission where
  valid _ := true
  conflict a b := a.name = b.name ∨ (a.resourceType = b.resourceType ∧ a.action = b.action)
  conflict_comm a b := by
    rw [decide_eq_decide, eq_comm (a := a.name), eq_comm (a := a.resourceType),
      eq_comm (a := a.action)]

/-- Table `permissions`. -/
abbrev PermissionTable := Constrained permissionConstraints

/-- A row of `iam_roles`, with its rows of `permission_role`. -/
structure SeedRole where
  /-- Name. -/
  name : String
  /-- Description. -/
  description : Option String
  /-- The tenant of a custom role. -/
  tenantId : Option ℕ
  /-- Whether the role is seeded. -/
  isPreset : Bool
  /-- Whether the role is a role of the system. -/
  isSystem : Bool
  /-- The permissions of the role. -/
  permissions : List ℕ
  deriving DecidableEq, Repr

/-- The tables that are seeded. -/
structure SeedDb where
  /-- Table `permissions`. -/
  permissions : PermissionTable
  /-- Table `iam_roles`. -/
  roles : Serial SeedRole

/-- `VM_PERMISSIONS`. -/
def vmPermissions : List String :=
  ["vm:create", "vm:read", "vm:update", "vm:delete", "vm:start", "vm:stop", "vm:restart",
    "vm:console", "vm:snapshot:create", "vm:snapshot:delete"]

/-- `NETWORK_PERMISSIONS`. -/
def networkPermissions : List String :=
  ["network:create", "network:read", "network:update", "network:delete"]

/-- `FIREWALL_PERMISSIONS`. -/
def firewallPermissions : List String :=
  ["firewall:create", "firewall:read", "firewall:update", "firewall:delete"]

/-- `WIREGUARD_PERMISSIONS`. -/
def wireguardPermissions : List String :=
  ["wireguard:create", "wireguard:read", "wireguard:update", "wireguard:delete"]

/-- `IP_PERMISSIONS`. -/
def ipPermissions : List String := ["ip:reserve", "ip:release", "ip:read"]

/-- `AUDIT_PERMISSIONS`. -/
def auditPermissions : List String := ["audit:read"]

/-- `TENANT_PERMISSIONS`. -/
def tenantPermissions : List String :=
  ["tenant:read", "tenant:update", "tenant:delete", "tenant:manage_users", "tenant:manage_roles",
    "tenant:settings"]

/-- `USER_PERMISSIONS`. -/
def userPermissions : List String :=
  ["user:invite", "user:remove", "user:update_roles", "user:read"]

/-- `ALL_PERMISSIONS`. -/
def allPermissions : List String :=
  vmPermissions ++ networkPermissions ++ firewallPermissions ++ wireguardPermissions ++
    ipPermissions ++ auditPermissions ++ tenantPermissions ++ userPermissions

/-- `ROLE_PERMISSION_MAPPING`. -/
def rolePermissionMapping : List (String × List String) :=
  [("tenant_admin", allPermissions),
    ("vm_admin", vmPermissions ++
      ["network:read", "firewall:create", "firewall:read", "firewall:update", "firewall:delete",
        "ip:reserve", "ip:release", "ip:read", "vm:snapshot:create", "vm:snapshot:delete"]),
    ("vm_operator",
      ["vm:create", "vm:read", "vm:update", "vm:delete", "vm:start", "vm:stop", "vm:restart",
        "vm:console", "vm:snapshot:create", "vm:snapshot:delete", "network:read", "firewall:read",
        "ip:reserve", "ip:release", "ip:read"]),
    ("network_admin", networkPermissions ++ firewallPermissions ++ wireguardPermissions ++
      ["vm:read", "network:create", "ip:reserve", "ip:release", "ip:read"]),
    ("viewer",
      ["vm:read", "vm:console", "network:read", "firewall:read", "ip:read", "wireguard:read",
        "tenant:read", "user:read"])]

/-- The permissions of each kind of resource, in the order in which they are added. -/
def allPermDefs : List (String × List String) :=
  [("vm", vmPermissions), ("network", networkPermissions), ("firewall", firewallPermissions),
    ("wireguard", wireguardPermissions), ("ip", ipPermissions), ("audit", auditPermissions),
    ("tenant", tenantPermissions), ("user", userPermissions)]

/-- A colon becomes another character. -/
def replaceColon (c : Char) (text : String) : String :=
  String.ofList (text.toList.map fun d => if d = ':' then c else d)

/-- The row of a permission. -/
def permissionOf (resourceType name : String) : Permission where
  name := name
  resourceType := resourceType
  action := replaceColon '_' name
  description := some ("Permission for " ++ replaceColon ' ' name)

/-- The permissions that are defined, in the order in which they are added. -/
def definedPermissions : List Permission :=
  allPermDefs.flatMap fun entry => entry.2.map (permissionOf entry.1)

/-- The id of the permission with a name: an entry of `permission_map`. -/
def idOf (permissions : PermissionTable) (name : String) : Option ℕ :=
  (permissions.rows.first? fun _ permission => permission.name = name).map (·.1)

/-- Add the permissions whose names are missing. -/
def addMissing (permissions : PermissionTable) : Option PermissionTable :=
  Constrained.ensureAll (·.name) permissions definedPermissions

/-- The names of the permissions with some ids. -/
def namesOf (permissions : PermissionTable) (ids : List ℕ) : List String :=
  ids.filterMap fun id => (permissions.rows.get? id).map (·.name)

/-- The permissions that are appended to a role: those of its mapping, in the order of the
mapping, that are not among the ones it held before. -/
def appended (permissions : PermissionTable) (held : List ℕ) (names : List String) : List ℕ :=
  (names.filter fun name => name ∉ namesOf permissions held).filterMap (idOf permissions)

/-- What a flush writes for an entry that was appended more than once. -/
inductive Flush where
  /-- A row for every time it was appended. -/
  | everyEntry
  /-- One row. -/
  | everyPair
  deriving DecidableEq, Repr

/-- The rows that are written for the entries that were appended. -/
def Flush.rows (added : List ℕ) : Flush → List ℕ
  | .everyEntry => added
  | .everyPair => added.dedup

/-- Write the entries that were appended to a collection. The primary key excludes two rows for the
same pair. -/
def Flush.write (flush : Flush) (held added : List ℕ) : Option (List ℕ) :=
  if (held ++ flush.rows added).Nodup then some (held ++ flush.rows added) else none

/-- The preset role with a name. -/
def presetRole? (roles : Serial SeedRole) (name : String) : Option (ℕ × SeedRole) :=
  roles.first? fun _ role => role.isPreset ∧ role.name = name

/-- The permissions of the preset role with a name; a role that is created has none. -/
def heldBy (roles : Serial SeedRole) (name : String) : List ℕ :=
  ((presetRole? roles name).map (·.2.permissions)).getD []

/-- A preset role and the names that it is given. -/
structure RoleSpec where
  /-- The name of the role. -/
  name : String
  /-- The description of a role that is created. -/
  description : String
  /-- Whether a role that is created is a role of the system. -/
  isSystem : Bool
  /-- The names of its permissions. -/
  names : List String
  deriving DecidableEq, Repr

/-- The role that is created. -/
def RoleSpec.role (spec : RoleSpec) (permissions : List ℕ) : SeedRole where
  name := spec.name
  description := some spec.description
  tenantId := none
  isPreset := true
  isSystem := spec.isSystem
  permissions := permissions

/-- The roles once a preset role has some permissions. -/
def RoleSpec.store (spec : RoleSpec) (roles : Serial SeedRole) (permissions : List ℕ) :
    Serial SeedRole :=
  match presetRole? roles spec.name with
  | some (id, _) => roles.modify id fun role => { role with permissions }
  | none => roles.add (spec.role permissions)

/-- Find or create a preset role and append the permissions that it misses. -/
def seedRole (flush : Flush) (permissions : PermissionTable) (roles : Serial SeedRole)
    (spec : RoleSpec) : Option (Serial SeedRole) :=
  let held := heldBy roles spec.name
  (flush.write held (appended permissions held spec.names)).map (spec.store roles)

/-- The role of an entry of the mapping. -/
def mappedSpec (entry : String × List String) : RoleSpec where
  name := entry.1
  description := "Preset " ++ entry.1 ++ " role"
  isSystem := false
  names := entry.2

/-- The preset roles, in the order in which they are seeded. The super admin has all permissions. -/
def roleSpecs (permissions : PermissionTable) : List RoleSpec :=
  rolePermissionMapping.map mappedSpec ++
  [{ name := "super_admin"
     description := "Super admin - full system access"
     isSystem := true
     names := (permissions.rows.select fun _ _ => true).map (·.2.name) }]

/-- `_seed_preset_roles`. -/
def seedPresetRoles (flush : Flush) (permissions : PermissionTable) (roles : Serial SeedRole) :
    Option (Serial SeedRole) :=
  (roleSpecs permissions).foldlM (seedRole flush permissions) roles

/-- `seed_permissions`, with the committed tables. The permissions are committed before the roles
are seeded. -/
def seedPermissions (flush : Flush) (db : SeedDb) : Except ApiError Unit × SeedDb :=
  match addMissing db.permissions with
  | none => (.error integrityError, db)
  | some permissions =>
    match seedPresetRoles flush permissions db.roles with
    | none => (.error integrityError, { db with permissions })
    | some roles => (.ok (), { permissions, roles })

/-- No two preset roles have the same name. -/
def UniquePresets (roles : Serial SeedRole) : Prop :=
  ∀ i j a b, roles.get? i = some a → roles.get? j = some b → a.isPreset = true →
    b.isPreset = true → a.name = b.name → i = j

/-- The tables as earlier seedings may have left them: the preset roles have different names, and
the permissions of a role are stored, each of them once. -/
structure Prior (db : SeedDb) : Prop where
  /-- No two preset roles have the same name. -/
  unique : UniquePresets db.roles
  /-- The pairs of a role and a permission are unique. -/
  nodup : ∀ id role, db.roles.get? id = some role → role.permissions.Nodup
  /-- The permissions exist. -/
  stored : ∀ id role, db.roles.get? id = some role → ∀ permissionId ∈ role.permissions,
    ∃ permission, db.permissions.rows.get? permissionId = some permission

/-- What the seeding is for. -/
structure SeededFrom (before after : SeedDb) : Prop where
  /-- Every preset role is there. -/
  present : ∀ spec ∈ roleSpecs after.permissions, ∃ id role, after.roles.get? id = some role ∧
    role.isPreset = true ∧ role.name = spec.name
  /-- A preset role holds every name of its mapping. -/
  contains : ∀ spec ∈ roleSpecs after.permissions, ∀ id role, after.roles.get? id = some role →
    role.isPreset = true → role.name = spec.name →
    ∀ name ∈ spec.names, name ∈ namesOf after.permissions role.permissions
  /-- A role keeps what it had. -/
  kept : ∀ id role, before.roles.get? id = some role → ∃ role', after.roles.get? id = some role' ∧
    role'.name = role.name ∧ role.permissions ⊆ role'.permissions
  /-- No permission is listed twice. -/
  nodup : ∀ id role, after.roles.get? id = some role → role.permissions.Nodup

/-- The seeding succeeds, does what it is for, and changes nothing when it is repeated. -/
def Seeds (flush : Flush) (db : SeedDb) : Prop :=
  ∃ after, seedPermissions flush db = (.ok (), after) ∧ SeededFrom db after ∧
    seedPermissions flush after = (.ok (), after)

/-- No permission that is missing has the kind of resource and the action of another one. -/
def NoClash (db : SeedDb) : Prop :=
  ∀ permission ∈ definedPermissions, ∀ id other, db.permissions.rows.get? id = some other →
    other.resourceType = permission.resourceType → other.action = permission.action →
    Constrained.HasKey Permission.name db.permissions permission.name

/-- A role holds every name that its mapping repeats. -/
def RepeatedHeld (db : SeedDb) : Prop :=
  ∀ entry ∈ rolePermissionMapping, ∀ name ∈ entry.2, 2 ≤ entry.2.count name →
    name ∈ namesOf db.permissions (heldBy db.roles entry.1)

/-! ### Permissions -/

/-- The permissions that are defined exclude each other. -/
theorem pairwise_definedPermissions :
    definedPermissions.Pairwise fun a b => permissionConstraints.conflict b a = false := by
  decide +kernel

/-- The names that are mapped are names of permissions that are defined. -/
theorem defined_of_mapped : ∀ entry ∈ rolePermissionMapping, ∀ name ∈ entry.2,
    ∃ permission ∈ definedPermissions, permission.name = name := by
  decide +kernel

/-- An element is kept twice by a filter if it passes and is there twice. -/
theorem nodup_filter_iff {α : Type} [DecidableEq α] {l : List α} {p : α → Bool} :
    (l.filter p).Nodup ↔ ∀ a ∈ l, 2 ≤ l.count a → p a = false := by
  rw [List.nodup_iff_count_le_one]
  constructor
  · intro h a _ htwice
    by_contra hpass
    have hone := h a
    rw [List.count_filter (Bool.eq_true_of_not_eq_false hpass)] at hone
    omega
  · intro h a
    by_cases hmem : a ∈ l.filter p
    · obtain ⟨ha, hpass⟩ := List.mem_filter.mp hmem
      rw [List.count_filter hpass]
      by_contra htwice
      rw [h a ha (by omega)] at hpass
      exact Bool.false_ne_true hpass
    · rw [List.count_eq_zero_of_not_mem hmem]
      exact Nat.zero_le 1

/-- A list is without repetitions if its image under an injective function is. -/
theorem nodup_filterMap_iff {α β : Type} {l : List α} {f : α → Option β}
    (hsome : ∀ a ∈ l, ∃ b, f a = some b) (hinj : ∀ a a' b, f a = some b → f a' = some b → a = a') :
    (l.filterMap f).Nodup ↔ l.Nodup := by
  induction l with
  | nil => exact iff_of_true List.nodup_nil List.nodup_nil
  | cons a l ih =>
    obtain ⟨b, hb⟩ := hsome a List.mem_cons_self
    have hrest := ih fun a' ha' => hsome a' (List.mem_cons_of_mem _ ha')
    rw [List.filterMap_cons_some hb, List.nodup_cons, List.nodup_cons, hrest]
    refine and_congr_left fun _ => not_congr ?_
    rw [List.mem_filterMap]
    constructor
    · rintro ⟨a', ha', hb'⟩
      exact hinj a' a b hb' hb ▸ ha'
    · exact fun ha => ⟨a, ha, hb⟩

section Permissions

variable {t : PermissionTable}

/-- Names of permissions are unique. -/
theorem idOf_eq_some_iff {name : String} {id : ℕ} :
    idOf t name = some id ↔
      ∃ permission, t.rows.get? id = some permission ∧ permission.name = name := by
  constructor
  · intro h
    obtain ⟨⟨id, permission⟩, hfound, rfl⟩ := Option.map_eq_some_iff.mp h
    obtain ⟨hget, hname⟩ := Serial.first?_eq_some hfound
    exact ⟨permission, hget, of_decide_eq_true hname⟩
  · rintro ⟨permission, hget, hname⟩
    have hsome : (t.rows.first? fun _ permission => permission.name = name).isSome = true :=
      Constrained.isSome_first?_iff.mpr ⟨id, permission, hget, hname⟩
    obtain ⟨⟨id', other⟩, hfound⟩ := Option.isSome_iff_exists.mp hsome
    obtain ⟨hget', hname'⟩ := Serial.first?_eq_some hfound
    rw [idOf, hfound, Option.map_some, Option.some.injEq]
    by_contra hne
    have hdistinct := t.distinct hget' hget hne
    simp only [permissionConstraints, decide_eq_false_iff_not, not_or] at hdistinct
    exact hdistinct.1 ((of_decide_eq_true hname').trans hname.symm)

/-- A name has an id exactly when a permission has the name. -/
theorem hasKey_iff {name : String} :
    Constrained.HasKey Permission.name t name ↔ ∃ id, idOf t name = some id := by
  simp only [idOf_eq_some_iff]
  rfl

/-- When the permissions that are missing may be inserted. -/
theorem isSome_addMissing_iff (db : SeedDb) :
    (addMissing db.permissions).isSome = true ↔ NoClash db := by
  rw [addMissing, Constrained.isSome_ensureAll_iff (fun _ _ => rfl) pairwise_definedPermissions
    fun a b h => decide_eq_true (Or.inl h)]
  refine forall_congr' fun permission => forall_congr' fun _ => ?_
  constructor
  · intro h id other hget htype haction
    by_contra hmissing
    have hfree := h hmissing id other hget
    simp only [permissionConstraints, decide_eq_false_iff_not, not_or, not_and] at hfree
    exact hfree.2 htype.symm haction.symm
  · intro h hmissing id other hget
    simp only [permissionConstraints, decide_eq_false_iff_not, not_or, not_and]
    refine ⟨fun hname => hmissing ⟨id, other, hget, hname.symm⟩, fun htype haction => ?_⟩
    exact hmissing (h id other hget htype.symm haction.symm)

/-- The names of some ids. -/
theorem mem_namesOf {ids : List ℕ} {name : String} :
    name ∈ namesOf t ids ↔ ∃ id ∈ ids, idOf t name = some id := by
  simp only [namesOf, List.mem_filterMap, Option.map_eq_some_iff, idOf_eq_some_iff]

/-- A permission with an id has one name. -/
theorem idOf_injective {name name' : String} {id : ℕ} (h : idOf t name = some id)
    (h' : idOf t name' = some id) : name = name' := by
  obtain ⟨permission, hget, rfl⟩ := idOf_eq_some_iff.mp h
  obtain ⟨permission', hget', rfl⟩ := idOf_eq_some_iff.mp h'
  rw [hget, Option.some.injEq] at hget'
  rw [hget']

/-- What is appended to a role. -/
theorem mem_appended {held : List ℕ} {names : List String} {id : ℕ} :
    id ∈ appended t held names ↔
      ∃ name ∈ names, name ∉ namesOf t held ∧ idOf t name = some id := by
  simp only [appended, List.mem_filterMap, List.mem_filter, decide_eq_true_eq, and_assoc]

/-- What is appended was not held. -/
theorem notMem_of_mem_appended {held : List ℕ} {names : List String} {id : ℕ}
    (h : id ∈ appended t held names) : id ∉ held := by
  obtain ⟨name, -, hmissing, hid⟩ := mem_appended.mp h
  exact fun hheld => hmissing (mem_namesOf.mpr ⟨id, hheld, hid⟩)

/-- Nothing is appended to a role that holds every name. -/
theorem appended_eq_nil {held : List ℕ} {names : List String}
    (h : ∀ name ∈ names, name ∈ namesOf t held) : appended t held names = [] := by
  refine List.eq_nil_iff_forall_not_mem.mpr fun id hid => ?_
  obtain ⟨name, hname, hmissing, -⟩ := mem_appended.mp hid
  exact hmissing (h name hname)

/-- A permission is appended twice exactly when its name is mapped twice and was not held. -/
theorem nodup_appended_iff {held : List ℕ} {names : List String}
    (hids : ∀ name ∈ names, ∃ id, idOf t name = some id) :
    (appended t held names).Nodup ↔
      ∀ name ∈ names, 2 ≤ names.count name → name ∈ namesOf t held := by
  rw [appended, nodup_filterMap_iff, nodup_filter_iff]
  · refine forall_congr' fun name => forall_congr' fun _ => forall_congr' fun _ => ?_
    rw [decide_eq_false_iff_not, not_not]
  · exact fun name hname => hids name (List.mem_of_mem_filter hname)
  · exact fun name name' id => idOf_injective

end Permissions

/-! ### Roles -/

namespace Flush

variable {flush : Flush} {held added written : List ℕ}

theorem mem_rows {id : ℕ} : id ∈ flush.rows added ↔ id ∈ added := by
  cases flush with
  | everyEntry => rfl
  | everyPair => exact List.mem_dedup

/-- What is written is what was held and what was appended, each of it once. -/
theorem of_write (h : flush.write held added = some written) :
    held ⊆ written ∧ written.Nodup ∧ ∀ id, id ∈ written ↔ id ∈ held ∨ id ∈ added := by
  unfold write at h
  split at h
  case isFalse => cases h
  case isTrue hnodup =>
    obtain rfl := Option.some.inj h
    refine ⟨List.subset_append_left _ _, hnodup, fun id => ?_⟩
    rw [List.mem_append, mem_rows]

/-- New entries can be written, unless the flush writes every entry and one was appended twice. -/
theorem isSome_write_iff (hheld : held.Nodup) (hnew : ∀ id ∈ added, id ∉ held) :
    (flush.write held added).isSome = true ↔ flush = .everyPair ∨ added.Nodup := by
  have hsome : (flush.write held added).isSome = true ↔ (flush.rows added).Nodup := by
    have hnodup : (held ++ flush.rows added).Nodup ↔ (flush.rows added).Nodup := by
      rw [List.nodup_append']
      refine ⟨fun h => h.2.1, fun h => ⟨hheld, h, fun id hid hid' => ?_⟩⟩
      exact hnew id (mem_rows.mp hid') hid
    rw [← hnodup, write]
    split
    case isTrue h => exact iff_of_true rfl h
    case isFalse h => exact iff_of_false Bool.false_ne_true h
  rw [hsome]
  cases flush with
  | everyEntry => exact (or_iff_right (by decide)).symm
  | everyPair => exact iff_of_true (List.nodup_dedup added) (Or.inl rfl)

/-- If there is nothing to write, nothing is changed. -/
theorem write_nil (hheld : held.Nodup) : flush.write held [] = some held := by
  have hrows : flush.rows [] = [] := by
    cases flush with
    | everyEntry => rfl
    | everyPair => rfl
  rw [write, hrows, List.append_nil, if_pos hheld]

end Flush

section Roles

variable {roles : Serial SeedRole}

/-- A preset role that is found. -/
theorem of_presetRole? {name : String} {id : ℕ} {role : SeedRole}
    (h : presetRole? roles name = some (id, role)) :
    roles.get? id = some role ∧ role.isPreset = true ∧ role.name = name := by
  obtain ⟨hget, hrole⟩ := Serial.first?_eq_some h
  exact ⟨hget, of_decide_eq_true hrole⟩

/-- No preset role has a name that is not found. -/
theorem presetRole?_eq_none {name : String} (h : presetRole? roles name = none) {id : ℕ}
    {role : SeedRole} (hget : roles.get? id = some role) (hpreset : role.isPreset = true) :
    role.name ≠ name := fun hname =>
  of_decide_eq_false (Serial.first?_eq_none_iff.mp h id role hget) ⟨hpreset, hname⟩

/-- The preset role with a name is found. -/
theorem presetRole?_eq_some (hunique : UniquePresets roles) {id : ℕ} {role : SeedRole}
    (hget : roles.get? id = some role) (hpreset : role.isPreset = true) :
    presetRole? roles role.name = some (id, role) := by
  cases hfound : presetRole? roles role.name with
  | none => exact absurd rfl (presetRole?_eq_none hfound hget hpreset)
  | some found =>
    obtain ⟨hget', hpreset', hname⟩ := of_presetRole? hfound
    obtain rfl : found.1 = id := hunique _ _ _ _ hget' hget hpreset' hpreset hname
    rw [hget, Option.some.injEq] at hget'
    rw [hget']

/-- What a preset role holds. -/
theorem heldBy_eq (hunique : UniquePresets roles) {id : ℕ} {role : SeedRole}
    (hget : roles.get? id = some role) (hpreset : role.isPreset = true) :
    heldBy roles role.name = role.permissions := by
  rw [heldBy, presetRole?_eq_some hunique hget hpreset]
  rfl

/-- What a preset role holds, or nothing. -/
theorem heldBy_cases (roles : Serial SeedRole) (name : String) :
    (∃ id role, roles.get? id = some role ∧ role.isPreset = true ∧ role.name = name ∧
      presetRole? roles name = some (id, role) ∧ heldBy roles name = role.permissions) ∨
    (presetRole? roles name = none ∧ heldBy roles name = []) := by
  unfold heldBy
  cases hfound : presetRole? roles name with
  | none => exact Or.inr ⟨rfl, rfl⟩
  | some found =>
    obtain ⟨hget, hpreset, hname⟩ := of_presetRole? hfound
    exact Or.inl ⟨found.1, found.2, hget, hpreset, hname, rfl, rfl⟩

/-- A role is stored: one row is written, which is the preset role with the name, and it was that
before if it was there. -/
theorem get?_store (spec : RoleSpec) (roles : Serial SeedRole) (permissions : List ℕ) :
    ∃ id role, role.isPreset = true ∧ role.name = spec.name ∧ role.permissions = permissions ∧
      (∀ id', (spec.store roles permissions).get? id' =
        if id' = id then some role else roles.get? id') ∧
      ((roles.get? id = none ∧ presetRole? roles spec.name = none) ∨
        ∃ old, roles.get? id = some old ∧ old.isPreset = true ∧ old.name = spec.name ∧
          old.permissions = heldBy roles spec.name) := by
  unfold RoleSpec.store
  rcases heldBy_cases roles spec.name with ⟨id, old, hget, hpreset, hname, hfound, hheld⟩ |
    ⟨hfound, -⟩
  · refine ⟨id, { old with permissions }, hpreset, hname, rfl, fun id' => ?_,
      Or.inr ⟨old, hget, hpreset, hname, hheld.symm⟩⟩
    rw [hfound]
    dsimp only
    rw [Serial.get?_modify]
    split
    case isTrue heq => rw [heq, hget, Option.map_some]
    case isFalse => rfl
  · refine ⟨roles.next, spec.role permissions, rfl, rfl, rfl, fun id' => ?_,
      Or.inl ⟨Serial.get?_next _, hfound⟩⟩
    rw [hfound]
    exact Serial.get?_add ..

/-- What the preset roles hold once one of them is stored. -/
theorem heldBy_store (hunique : UniquePresets roles) (spec : RoleSpec) (permissions : List ℕ) :
    UniquePresets (spec.store roles permissions) ∧
      ∀ name, heldBy (spec.store roles permissions) name =
        if name = spec.name then permissions else heldBy roles name := by
  obtain ⟨id, role, hpreset, hname, hpermissions, hget, hold⟩ := get?_store spec roles permissions
  -- the other preset roles have other names
  have hother : ∀ id' other, id' ≠ id → roles.get? id' = some other → other.isPreset = true →
      other.name ≠ spec.name := by
    intro id' other hne hother hpreset' heq
    rcases hold with ⟨-, hnone⟩ | ⟨old, hgetold, hpresetold, hnameold, -⟩
    · exact presetRole?_eq_none hnone hother hpreset' heq
    · exact hne (hunique _ _ _ _ hother hgetold hpreset' hpresetold (heq.trans hnameold.symm))
  have hnew : UniquePresets (spec.store roles permissions) := by
    intro i j a b ha hb hapreset hbpreset heq
    rw [hget] at ha hb
    split at ha <;> split at hb
    case isTrue.isTrue hi hj => exact hi.trans hj.symm
    case isTrue.isFalse hi hj =>
      obtain rfl := Option.some.inj ha
      exact absurd (heq.symm.trans hname) (hother j b hj hb hbpreset)
    case isFalse.isTrue hi hj =>
      obtain rfl := Option.some.inj hb
      exact absurd (heq.trans hname) (hother i a hi ha hapreset)
    case isFalse.isFalse => exact hunique i j a b ha hb hapreset hbpreset heq
  refine ⟨hnew, fun name => ?_⟩
  have hstored : (spec.store roles permissions).get? id = some role := by rw [hget, if_pos rfl]
  split
  case isTrue heq =>
    rw [heq, ← hname, heldBy_eq hnew hstored hpreset, hpermissions]
  case isFalse hne =>
    rcases heldBy_cases roles name with ⟨id', other, hother', hpreset', hname', -, hheld⟩ |
      ⟨hfound, hheld⟩
    · have hid : id' ≠ id := by
        rintro rfl
        rcases hold with ⟨hfree, -⟩ | ⟨old, hgetold, -, hnameold, -⟩
        · rw [hfree] at hother'
          cases hother'
        · rw [hgetold, Option.some.injEq] at hother'
          exact hne (hname'.symm.trans (hother' ▸ hnameold))
      have hstays : (spec.store roles permissions).get? id' = some other := by
        rw [hget, if_neg hid, hother']
      rw [hheld, ← hname', heldBy_eq hnew hstays hpreset']
    · rw [hheld]
      rcases heldBy_cases (spec.store roles permissions) name with
        ⟨id', other, hother', hpreset', hname', -, -⟩ | ⟨-, hnone⟩
      · exfalso
        rw [hget] at hother'
        split at hother'
        case isTrue =>
          obtain rfl := Option.some.inj hother'
          exact hne (hname'.symm.trans hname)
        case isFalse => exact presetRole?_eq_none hfound hother' hpreset' hname'
      · exact hnone

end Roles

/-- What the seeding of some preset roles does. -/
structure RolesSeeded (flush : Flush) (t : PermissionTable) (specs : List RoleSpec)
    (roles roles' : Serial SeedRole) : Prop where
  /-- The roles are still valid. -/
  prior : Prior ⟨t, roles'⟩
  /-- What the roles hold was written. -/
  written : ∀ spec ∈ specs, flush.write (heldBy roles spec.name)
    (appended t (heldBy roles spec.name) spec.names) = some (heldBy roles' spec.name)
  /-- The roles are there. -/
  present : ∀ spec ∈ specs, ∃ id role, roles'.get? id = some role ∧ role.isPreset = true ∧
    role.name = spec.name
  /-- Other roles hold what they held. -/
  other : ∀ name, name ∉ specs.map (·.name) → heldBy roles' name = heldBy roles name
  /-- Every role keeps what it had. -/
  kept : ∀ id role, roles.get? id = some role → ∃ role', roles'.get? id = some role' ∧
    role'.isPreset = role.isPreset ∧ role'.name = role.name ∧
    role.permissions ⊆ role'.permissions

section Seeding

variable {flush : Flush} {t : PermissionTable} {roles roles' : Serial SeedRole} {spec : RoleSpec}

/-- What is held is stored. -/
theorem Prior.stored_heldBy (h : Prior ⟨t, roles⟩) (name : String) :
    (heldBy roles name).Nodup ∧ ∀ permissionId ∈ heldBy roles name,
      ∃ permission, t.rows.get? permissionId = some permission := by
  rcases heldBy_cases roles name with ⟨id, role, hget, -, -, -, hheld⟩ | ⟨-, hheld⟩
  · rw [hheld]
    exact ⟨h.nodup id role hget, h.stored id role hget⟩
  · rw [hheld]
    exact ⟨List.nodup_nil, nofun⟩

/-- A preset role is seeded. -/
theorem RolesSeeded.of_seedRole (hprior : Prior ⟨t, roles⟩)
    (h : seedRole flush t roles spec = some roles') : RolesSeeded flush t [spec] roles roles' := by
  obtain ⟨permissions, hwrite, rfl⟩ := Option.map_eq_some_iff.mp h
  obtain ⟨hkept, hnodup, hmem⟩ := Flush.of_write hwrite
  obtain ⟨hunique, hheld⟩ := heldBy_store hprior.unique spec permissions
  obtain ⟨id, role, hpreset, hname, hpermissions, hget, hold⟩ := get?_store spec roles permissions
  refine ⟨⟨hunique, fun id' role' hget' => ?_, fun id' role' hget' permissionId hid => ?_⟩,
    fun spec' hspec => ?_, fun spec' hspec => ?_, fun name hne => ?_, fun id' role' hget' => ?_⟩
  · dsimp only at hget'
    rw [hget] at hget'
    split at hget'
    case isTrue => exact Option.some.inj hget' ▸ hpermissions.symm ▸ hnodup
    case isFalse => exact hprior.nodup _ _ hget'
  · dsimp only at hget' ⊢
    rw [hget] at hget'
    split at hget'
    case isFalse => exact hprior.stored _ _ hget' _ hid
    case isTrue =>
      obtain rfl := Option.some.inj hget'
      rw [hpermissions] at hid
      rcases (hmem permissionId).mp hid with hid | hid
      · exact (hprior.stored_heldBy spec.name).2 _ hid
      · obtain ⟨_, -, -, hid⟩ := mem_appended.mp hid
        obtain ⟨permission, hpermission, -⟩ := idOf_eq_some_iff.mp hid
        exact ⟨permission, hpermission⟩
  · obtain rfl := List.mem_singleton.mp hspec
    rw [hheld, if_pos rfl]
    exact hwrite
  · obtain rfl := List.mem_singleton.mp hspec
    exact ⟨id, role, by rw [hget, if_pos rfl], hpreset, hname⟩
  · rw [hheld, if_neg]
    rintro rfl
    exact hne List.mem_cons_self
  · rw [hget]
    split
    case isFalse => exact ⟨role', hget', rfl, rfl, List.Subset.refl _⟩
    case isTrue heq =>
      subst heq
      rcases hold with ⟨hfree, -⟩ | ⟨old, hgetold, hpresetold, hnameold, hheldold⟩
      · rw [hfree] at hget'
        cases hget'
      · rw [hgetold, Option.some.injEq] at hget'
        subst hget'
        refine ⟨role, rfl, hpreset.trans hpresetold.symm, hname.trans hnameold.symm, ?_⟩
        rw [hpermissions, hheldold]
        exact hkept

/-- Preset roles with different names are seeded one after the other. -/
theorem RolesSeeded.of_foldlM {specs : List RoleSpec} (hnames : (specs.map (·.name)).Nodup)
    (hprior : Prior ⟨t, roles⟩) (h : specs.foldlM (seedRole flush t) roles = some roles') :
    RolesSeeded flush t specs roles roles' := by
  induction specs generalizing roles with
  | nil =>
    cases h
    exact ⟨hprior, nofun, nofun, fun _ _ => rfl,
      fun id role hget => ⟨role, hget, rfl, rfl, List.Subset.refl _⟩⟩
  | cons spec specs ih =>
    rw [List.foldlM_cons, Option.bind_eq_bind, Option.bind_eq_some_iff] at h
    obtain ⟨next, hnext, hrest⟩ := h
    rw [List.map_cons, List.nodup_cons] at hnames
    have hfirst := RolesSeeded.of_seedRole hprior hnext
    have hothers := ih hnames.2 hfirst.prior hrest
    -- the roles that follow do not touch the first one, nor does it touch them
    have hsame : ∀ spec' ∈ specs, heldBy next spec'.name = heldBy roles spec'.name := by
      intro spec' hspec
      refine hfirst.other _ fun hmem => hnames.1 ?_
      have heq : spec'.name = spec.name := List.mem_singleton.mp hmem
      exact heq ▸ List.mem_map_of_mem hspec
    refine ⟨hothers.prior, fun spec' hspec => ?_, fun spec' hspec => ?_, fun name hne => ?_,
      fun id role hget => ?_⟩
    · rcases List.mem_cons.mp hspec with rfl | hspec
      · rw [hothers.other _ hnames.1]
        exact hfirst.written _ List.mem_cons_self
      · rw [← hsame spec' hspec]
        exact hothers.written spec' hspec
    · rcases List.mem_cons.mp hspec with rfl | hspec
      · obtain ⟨id, role, hget, hpreset, hname⟩ := hfirst.present _ List.mem_cons_self
        obtain ⟨role', hget', hpreset', hname', -⟩ := hothers.kept id role hget
        exact ⟨id, role', hget', hpreset'.trans hpreset, hname'.trans hname⟩
      · exact hothers.present spec' hspec
    · rw [List.map_cons, List.mem_cons, not_or] at hne
      rw [hothers.other name hne.2]
      exact hfirst.other name fun hmem => hne.1 (List.mem_singleton.mp hmem)
    · obtain ⟨role₁, hget₁, hpreset₁, hname₁, hsub₁⟩ := hfirst.kept id role hget
      obtain ⟨role₂, hget₂, hpreset₂, hname₂, hsub₂⟩ := hothers.kept id role₁ hget₁
      exact ⟨role₂, hget₂, hpreset₂.trans hpreset₁, hname₂.trans hname₁, fun _ hid => hsub₂ (hsub₁ hid)⟩

/-- Preset roles can be seeded exactly when what is appended to each of them can be written. -/
theorem isSome_foldlM_iff {specs : List RoleSpec} (hnames : (specs.map (·.name)).Nodup)
    (hprior : Prior ⟨t, roles⟩) :
    (specs.foldlM (seedRole flush t) roles).isSome = true ↔ ∀ spec ∈ specs,
      (flush.write (heldBy roles spec.name)
        (appended t (heldBy roles spec.name) spec.names)).isSome = true := by
  induction specs generalizing roles with
  | nil => exact iff_of_true rfl nofun
  | cons spec specs ih =>
    rw [List.map_cons, List.nodup_cons] at hnames
    rw [List.foldlM_cons, List.forall_mem_cons]
    cases hnext : seedRole flush t roles spec with
    | none =>
      have hfails := Option.map_eq_none_iff.mp hnext
      rw [hfails]
      exact iff_of_false Bool.false_ne_true fun h => Bool.false_ne_true h.1
    | some next =>
      obtain ⟨permissions, hwrite, -⟩ := Option.map_eq_some_iff.mp hnext
      have hfirst := RolesSeeded.of_seedRole hprior hnext
      rw [hwrite]
      refine (ih hnames.2 hfirst.prior).trans ((and_iff_right rfl).trans ?_).symm
      refine forall_congr' fun spec' => forall_congr' fun hspec => ?_
      rw [hfirst.other]
      intro hmem
      have heq : spec'.name = spec.name := List.mem_singleton.mp hmem
      exact hnames.1 (heq ▸ List.mem_map_of_mem hspec)

/-- A preset role that holds every name is left as it is. -/
theorem seedRole_eq_self (hprior : Prior ⟨t, roles⟩)
    (hpresent : ∃ id role, roles.get? id = some role ∧ role.isPreset = true ∧
      role.name = spec.name)
    (hheld : ∀ name ∈ spec.names, name ∈ namesOf t (heldBy roles spec.name)) :
    seedRole flush t roles spec = some roles := by
  obtain ⟨id, role, hget, hpreset, hname⟩ := hpresent
  rw [seedRole, appended_eq_nil hheld, Flush.write_nil (hprior.stored_heldBy spec.name).1,
    Option.map_some, Option.some.injEq, RoleSpec.store, ← hname,
    presetRole?_eq_some hprior.unique hget hpreset, heldBy_eq hprior.unique hget hpreset]
  dsimp only
  have hrows : roles.rows.modify id (fun old => { old with permissions := role.permissions }) =
      roles.rows := by
    refine Table.modify_eq_self fun old hold => ?_
    obtain rfl := Option.some.inj (hold.symm.trans hget)
    rfl
  unfold Serial.modify
  simp only [hrows]

/-- So are all of them. -/
theorem foldlM_eq_self {specs : List RoleSpec} (hprior : Prior ⟨t, roles⟩)
    (hpresent : ∀ spec ∈ specs, ∃ id role, roles.get? id = some role ∧ role.isPreset = true ∧
      role.name = spec.name)
    (hheld : ∀ spec ∈ specs, ∀ name ∈ spec.names, name ∈ namesOf t (heldBy roles spec.name)) :
    specs.foldlM (seedRole flush t) roles = some roles := by
  induction specs with
  | nil => rfl
  | cons spec specs ih =>
    rw [List.foldlM_cons, seedRole_eq_self hprior (hpresent spec List.mem_cons_self)
      (hheld spec List.mem_cons_self)]
    exact ih (fun spec' h => hpresent spec' (List.mem_cons_of_mem _ h))
      fun spec' h => hheld spec' (List.mem_cons_of_mem _ h)

/-- A preset role that was seeded holds every name of its mapping that is a name of a permission. -/
theorem RolesSeeded.contains {specs : List RoleSpec}
    (h : RolesSeeded flush t specs roles roles') (hspec : spec ∈ specs)
    (hids : ∀ name ∈ spec.names, ∃ id, idOf t name = some id) :
    ∀ name ∈ spec.names, name ∈ namesOf t (heldBy roles' spec.name) := by
  intro name hname
  obtain ⟨-, -, hmem⟩ := Flush.of_write (h.written spec hspec)
  obtain ⟨id, hid⟩ := hids name hname
  refine mem_namesOf.mpr ⟨id, (hmem id).mpr ?_, hid⟩
  by_cases hheld : name ∈ namesOf t (heldBy roles spec.name)
  · obtain ⟨id', hmem', hid'⟩ := mem_namesOf.mp hheld
    obtain rfl := Option.some.inj (hid.symm.trans hid')
    exact Or.inl hmem'
  · exact Or.inr (mem_appended.mpr ⟨name, hname, hheld, hid⟩)

end Seeding

/-! ### The fixed point -/

/-- The roles have different names. -/
theorem nodup_names_roleSpecs (t : PermissionTable) :
    ((roleSpecs t).map (·.name)).Nodup := by
  have hnames : (roleSpecs t).map (·.name) =
      ["tenant_admin", "vm_admin", "vm_operator", "network_admin", "viewer", "super_admin"] := rfl
  rw [hnames]
  decide

/-- Once the permissions are there, every name of a mapping has an id. -/
theorem exists_idOf {t t' : PermissionTable} (h : addMissing t = some t') {spec : RoleSpec}
    (hspec : spec ∈ roleSpecs t') : ∀ name ∈ spec.names, ∃ id, idOf t' name = some id := by
  intro name hname
  rcases List.mem_append.mp hspec with hspec | hspec
  · obtain ⟨entry, hentry, rfl⟩ := List.mem_map.mp hspec
    obtain ⟨permission, hdefined, rfl⟩ := defined_of_mapped entry hentry name hname
    exact hasKey_iff.mp ((Constrained.of_ensureAll h).2 permission hdefined)
  · obtain rfl := List.mem_singleton.mp hspec
    obtain ⟨row, hrow, rfl⟩ := List.mem_map.mp hname
    exact ⟨row.1, idOf_eq_some_iff.mpr ⟨row.2, (Table.mem_select.mp hrow).1, rfl⟩⟩

/-- What the super admin is given has no repetition. -/
theorem nodup_names_superAdmin (t : PermissionTable) :
    ((t.rows.select fun _ _ => true).map (·.2.name)).Nodup := by
  refine List.Nodup.map_on (fun row hrow other hother heq => ?_)
    (List.Nodup.of_map Prod.fst (Table.nodup_keys_select _ _))
  have hget := (Table.mem_select.mp hrow).1
  have hid : row.1 = other.1 := Option.some.inj
    ((idOf_eq_some_iff.mpr ⟨row.2, hget, rfl⟩).symm.trans
      (idOf_eq_some_iff.mpr ⟨other.2, (Table.mem_select.mp hother).1, heq.symm⟩))
  refine Prod.ext hid (Option.some.inj (hget.symm.trans ?_))
  rw [hid]
  exact (Table.mem_select.mp hother).1

/-- The names that roles held are the names that they hold once permissions were added. -/
theorem namesOf_heldBy {db : SeedDb} (hprior : Prior db) {t' : PermissionTable}
    (h : addMissing db.permissions = some t') (name : String) :
    namesOf t' (heldBy db.roles name) = namesOf db.permissions (heldBy db.roles name) := by
  refine List.filterMap_congr fun id hid => ?_
  obtain ⟨permission, hget⟩ := (hprior.stored_heldBy name).2 id hid
  rw [hget, (Constrained.of_ensureAll h).1 id permission hget]

/-- Roles that are valid stay so when permissions are added. -/
theorem Prior.of_addMissing {db : SeedDb} (hprior : Prior db) {t' : PermissionTable}
    (h : addMissing db.permissions = some t') : Prior ⟨t', db.roles⟩ where
  unique := hprior.unique
  nodup := hprior.nodup
  stored id role hget permissionId hid := by
    obtain ⟨permission, hpermission⟩ := hprior.stored id role hget permissionId hid
    exact ⟨permission, (Constrained.of_ensureAll h).1 _ _ hpermission⟩

/-- The roles can be seeded exactly when the names that are mapped twice are held already, or
written once. -/
theorem isSome_seedPresetRoles_iff {flush : Flush} {db : SeedDb} (hprior : Prior db)
    {t' : PermissionTable} (h : addMissing db.permissions = some t') :
    (seedPresetRoles flush t' db.roles).isSome = true ↔
      flush = .everyPair ∨ RepeatedHeld db := by
  have hvalid := hprior.of_addMissing h
  have hspec : ∀ spec ∈ roleSpecs t', (flush.write (heldBy db.roles spec.name)
      (appended t' (heldBy db.roles spec.name) spec.names)).isSome = true ↔
        flush = .everyPair ∨ ∀ name ∈ spec.names, 2 ≤ spec.names.count name →
          name ∈ namesOf db.permissions (heldBy db.roles spec.name) := by
    intro spec hspec
    rw [Flush.isSome_write_iff (hvalid.stored_heldBy spec.name).1
      fun _ => notMem_of_mem_appended, nodup_appended_iff (exists_idOf h hspec),
      namesOf_heldBy hprior h]
  rw [seedPresetRoles, isSome_foldlM_iff (nodup_names_roleSpecs t') hvalid]
  constructor
  · intro hall
    by_cases hflush : flush = .everyPair
    · exact Or.inl hflush
    · refine Or.inr fun entry hentry => ?_
      have hmem : mappedSpec entry ∈ roleSpecs t' :=
        List.mem_append_left _ (List.mem_map_of_mem hentry)
      exact ((hspec _ hmem).mp (hall _ hmem)).resolve_left hflush
  · intro hall spec hmem
    refine (hspec spec hmem).mpr (hall.imp_right fun hheld => ?_)
    rcases List.mem_append.mp hmem with hmem | hmem
    · obtain ⟨entry, hentry, rfl⟩ := List.mem_map.mp hmem
      exact hheld entry hentry
    · -- the super admin is given different names
      obtain rfl := List.mem_singleton.mp hmem
      intro name _ htwice
      have hone := List.nodup_iff_count_le_one.mp (nodup_names_superAdmin t') name
      exact absurd (htwice.trans hone) (by decide)

/-- A seeding that succeeds has added the permissions and seeded the roles. -/
theorem seedPermissions_eq_ok {flush : Flush} {db after : SeedDb}
    (h : seedPermissions flush db = (.ok (), after)) :
    addMissing db.permissions = some after.permissions ∧
      seedPresetRoles flush after.permissions db.roles = some after.roles := by
  unfold seedPermissions at h
  split at h
  case h_1 => cases h
  case h_2 t' hadd =>
    split at h
    case h_1 => cases h
    case h_2 roles hroles =>
      cases h
      exact ⟨hadd, hroles⟩

/-- A seeding that succeeds is a fixed point. -/
theorem seeds_of_eq_ok {flush : Flush} {db after : SeedDb} (hprior : Prior db)
    (h : seedPermissions flush db = (.ok (), after)) : Seeds flush db := by
  obtain ⟨hadd, hroles⟩ := seedPermissions_eq_ok h
  have hseeded := RolesSeeded.of_foldlM (nodup_names_roleSpecs _) (hprior.of_addMissing hadd) hroles
  have hunique := hseeded.prior.unique
  have hcontains := fun (spec : RoleSpec) (hspec : spec ∈ _) =>
    hseeded.contains hspec (exists_idOf hadd hspec)
  refine ⟨after, h, ⟨hseeded.present, fun spec hspec id role hget hpreset hname => ?_,
    fun id role hget => ?_, hseeded.prior.nodup⟩, ?_⟩
  · rw [← heldBy_eq hunique hget hpreset, hname]
    exact hcontains spec hspec
  · obtain ⟨role', hget', -, hname, hsub⟩ := hseeded.kept id role hget
    exact ⟨role', hget', hname, hsub⟩
  · have hsame : addMissing after.permissions = some after.permissions :=
      Constrained.ensureAll_of_hasKey (Constrained.of_ensureAll hadd).2
    have hroles : seedPresetRoles flush after.permissions after.roles = some after.roles :=
      foldlM_eq_self hseeded.prior hseeded.present hcontains
    simp only [seedPermissions, hsame, hroles]

/-- A seeding does not succeed if a role misses a name that its mapping repeats, and every entry is
written. -/
theorem repeatedHeld_of_seeds {flush : Flush} {db : SeedDb} (hprior : Prior db)
    (h : Seeds flush db) : NoClash db ∧ (flush = .everyPair ∨ RepeatedHeld db) := by
  obtain ⟨after, hok, -, -⟩ := h
  obtain ⟨hadd, hroles⟩ := seedPermissions_eq_ok hok
  refine ⟨(isSome_addMissing_iff db).mp ?_, (isSome_seedPresetRoles_iff hprior hadd).mp ?_⟩
  · rw [hadd, Option.isSome_some]
  · rw [hroles, Option.isSome_some]

/-- The tables of a new installation. -/
def emptyDb : SeedDb where
  permissions := .empty
  roles := .empty

/-- Empty tables are valid. -/
theorem prior_emptyDb : Prior emptyDb where
  unique := nofun
  nodup := nofun
  stored := nofun

end Seeding

end ProxmoxIaas
