import ProxmoxIaas.Firewall.Model
import ProxmoxIaas.Iam.Permissions
import Mathlib.Data.List.Forall2
import Mathlib.Data.List.Nodup

/-!
# The Update of a Rule

`update_rule` assigns every entry of the request body to the attribute of that name, whichever
attribute of the mapped object it is. A row is therefore all of its columns here, its key and the
ones that no other endpoint writes included; only `updated_at` is left out, which is stamped by the
write itself.

How the driver stores a value of the body in a column, and what it refuses, is a parameter, and so
is the assignment to an attribute that is no column.

## Main results

- `setAll_column`: what an accepted body leaves in a column.
- `onlyContent_iff`: when an update leaves everything but the content of its rule alone.
- `OnlyContent.listed_eq`: no rule changes hands then.
-/

namespace ProxmoxIaas.Firewall.UpdateRule

/-- A value of a request body. -/
inductive Json where
  | null
  | bool (b : Bool)
  | integer (n : ℤ)
  | decimal (digits : String)
  | string (text : String)
  | array (items : List Json)
  | object (entries : List (String × Json))

/-- A value of a column. -/
inductive Value where
  | null
  | integer (n : ℤ)
  | text (text : String)
  | time (t : ℤ)
  deriving DecidableEq, Repr

/-- The columns of `opnsense_firewall_rules`. -/
inductive Column where
  | id
  | tenantId
  | uuid
  | sequence
  | text (field : RuleField)
  | syncedAt
  | applyStatus
  | applyError
  | createdAt
  deriving DecidableEq, Repr

/-- The types of columns; a text has a greatest length. -/
inductive ColumnType where
  | integer
  | text (limit : ℕ)
  | time
  deriving DecidableEq, Repr

namespace Column

/-- All columns. -/
def all : List Column :=
  [id, tenantId, uuid, sequence] ++ RuleField.all.map text ++
    [syncedAt, applyStatus, applyError, createdAt]

/-- The name of the column and of its attribute. -/
def name : Column → String
  | id => "id"
  | tenantId => "tenant_id"
  | uuid => "uuid"
  | sequence => "sequence"
  | text field => field.key
  | syncedAt => "synced_at"
  | applyStatus => "apply_status"
  | applyError => "apply_error"
  | createdAt => "created_at"

/-- The type of the column. -/
def type : Column → ColumnType
  | id | tenantId | sequence => .integer
  | uuid => .text 36
  | text field => .text field.maxLength
  | applyStatus => .text 20
  | applyError => .text 500
  | syncedAt | createdAt => .time

/-- The column with a name. -/
def ofName? (name : String) : Option Column := all.find? (·.name = name)

/-- Every column is found under its name. -/
theorem ofName?_name (column : Column) : ofName? column.name = some column := by
  cases column with
  | text field => cases field <;> decide +kernel
  | _ => decide +kernel

/-- What is found has the name. -/
theorem name_of_ofName? {name : String} {column : Column} (h : ofName? name = some column) :
    column.name = name := by
  have hname := List.find?_some (p := fun column : Column => decide (column.name = name)) h
  exact of_decide_eq_true hname

end Column

/-- The columns that are not for the user of a rule to edit. -/
def protectedColumns : List Column := [.id, .uuid, .tenantId, .createdAt, .syncedAt]

/-- A row, or the mapped object that was loaded from it. -/
abbrev Row := Column → Value

/-- The constraints of the table: keys and uuids are unique and not `null`, and the tenants
exist. -/
structure Valid (tenants : List ℤ) (rows : List Row) : Prop where
  id_nodup : (rows.map (· .id)).Nodup
  id_integer : ∀ row ∈ rows, row .id ≠ .null
  uuid_nodup : (rows.map (· .uuid)).Nodup
  uuid_text : ∀ row ∈ rows, row .uuid ≠ .null
  tenant : ∀ row ∈ rows, row .tenantId ∈ tenants.map Value.integer

instance (tenants : List ℤ) (rows : List Row) : Decidable (Valid tenants rows) :=
  decidable_of_iff ((rows.map (· .id)).Nodup ∧ (∀ row ∈ rows, row .id ≠ .null) ∧
      (rows.map (· .uuid)).Nodup ∧ (∀ row ∈ rows, row .uuid ≠ .null) ∧
      ∀ row ∈ rows, row .tenantId ∈ tenants.map Value.integer)
    ⟨fun ⟨h₁, h₂, h₃, h₄, h₅⟩ => ⟨h₁, h₂, h₃, h₄, h₅⟩, fun h =>
      ⟨h.id_nodup, h.id_integer, h.uuid_nodup, h.uuid_text, h.tenant⟩⟩

/-- The committed table, with the tenants that exist. -/
structure RuleTable where
  /-- The tenants. -/
  tenants : List ℤ
  /-- The rows. -/
  rows : List Row
  /-- The constraints. -/
  valid : Valid tenants rows

/-- The object with the mark of an edit. -/
def Row.markPending (row : Row) : Row :=
  Function.update (Function.update row .applyStatus (.text "pending")) .applyError .null

/-- What the driver and the mapped class do with the values of a body. -/
structure Driver where
  /-- The value that a column of some type has after a write, unless the write is refused. -/
  store : ColumnType → Json → Option Value
  /-- Whether an attribute that is no column, or no attribute at all, takes a value. -/
  setOther : String → Json → Bool

/-- `setattr` on the loaded object, if it has such an attribute. -/
def setAttribute (driver : Driver) (key : String) (value : Json) (row : Row) : Option Row :=
  match Column.ofName? key with
  | some column => (driver.store column.type value).map (Function.update row column)
  -- `setattr` of a name that is no column
  | none =>
    -- the relationship takes no value of a body but `null`, and then the row has no tenant
    if key = "tenant" then none
    else if driver.setOther key value then some row else none

/-- The loop over the body. -/
def setAll (driver : Driver) : List (Σ _ : String, Json) → Row → Option Row
  | [], row => some row
  | ⟨key, value⟩ :: entries, row => do
    let row ← setAttribute driver key value row
    setAll driver entries row

/-- The rule of a tenant with a uuid. -/
def RuleTable.find? (db : RuleTable) (tenantId : ℕ) (uuid : String) : Option Row :=
  db.rows.find? fun row => row .tenantId = .integer tenantId && row .uuid = .text uuid

/-- The rows with another one under a key. -/
def replace (rows : List Row) (id : Value) (row : Row) : List Row :=
  rows.map fun old => if old .id = id then row else old

/-- Write the row of a loaded object, unless a constraint is violated. -/
def RuleTable.save? (db : RuleTable) (id : Value) (row : Row) : Option RuleTable :=
  if h : Valid db.tenants (replace db.rows id row) then
    some { tenants := db.tenants, rows := replace db.rows id row, valid := h }
  else none

/-- `update_rule`. -/
def updateRule (driver : Driver) (iam : IamDb) (db : RuleTable) (userId tenantId : ℕ)
    (providerType uuid : String) (body : Table String Json) : Except ApiError RuleTable := do
  Except.require (.http 501 s!"Provider {providerType} not implemented")
    (providerType = "opnsense")
  Except.require (.http 403 "Not authorized")
    (hasPermission iam userId (some tenantId) "firewall:create" = true)
  let row ← Except.ofOption ruleNotFound (db.find? tenantId uuid)
  let assigned ← Except.ofOption integrityError (setAll driver body.entries row)
  Except.ofOption integrityError (db.save? (row .id) (assigned.markPending))

/-- The write of a rule leaves the other rows as they were, and the protected columns of its
own. -/
def OnlyContent (id : Value) (rows rows' : List Row) : Prop :=
  List.Forall₂ (fun row row' => row' = row ∨
    row .id = id ∧ ∀ column ∈ protectedColumns, row' column = row column) rows rows'

/-- The keys of the rules of a tenant. -/
def listed (rows : List Row) (tenantId : ℤ) : List Value :=
  (rows.filter fun row => row .tenantId = .integer tenantId).map (· .id)

section Assignments

variable {driver : Driver} {row row' : Row} {key : String} {value : Json}

/-- An assignment to a column stores the value there. -/
theorem setAttribute_same {column : Column}
    (h : setAttribute driver column.name value row = some row') :
    driver.store column.type value = some (row' column) := by
  rw [setAttribute, Column.ofName?_name] at h
  obtain ⟨stored, hstored, rfl⟩ := Option.map_eq_some_iff.mp h
  rw [hstored, Function.update_self]

/-- An assignment leaves the columns of other names as they were. -/
theorem setAttribute_other {column : Column} (hname : column.name ≠ key)
    (h : setAttribute driver key value row = some row') : row' column = row column := by
  unfold setAttribute at h
  -- the name is that of another column, or of none
  cases hcolumn : Column.ofName? key with
  | some other =>
    rw [hcolumn] at h
    obtain ⟨stored, -, rfl⟩ := Option.map_eq_some_iff.mp h
    refine Function.update_of_ne ?_ stored row
    rintro rfl
    exact hname (Column.name_of_ofName? hcolumn)
  | none =>
    -- no column has the name of the attribute
    rw [hcolumn] at h
    by_cases htenant : key = "tenant"
    · simp [htenant] at h
    · by_cases hset : driver.setOther key value = true
      · simp only [htenant, hset, if_true, if_false, Option.some.injEq] at h
        rw [h]
      · simp [htenant, hset] at h

/-- After the loop, a column has what the body stores in it, or what it had before. -/
theorem setAll_column {entries : List (Σ _ : String, Json)} {column : Column}
    (hnodup : entries.NodupKeys) (h : setAll driver entries row = some row') :
    (∀ value, ⟨column.name, value⟩ ∈ entries →
      driver.store column.type value = some (row' column)) ∧
    ((∀ value, ⟨column.name, value⟩ ∉ entries) → row' column = row column) := by
  -- the keys of a body differ, so each column is assigned at most once
  induction entries generalizing row with
  | nil =>
    obtain rfl : row = row' := Option.some.inj h
    exact ⟨fun value hmem => absurd hmem List.not_mem_nil, fun _ => rfl⟩
  | cons entry entries ih =>
    obtain ⟨key, first⟩ := entry
    simp only [setAll, Option.bind_eq_bind, Option.bind_eq_some_iff] at h
    obtain ⟨next, hnext, hrest⟩ := h
    obtain ⟨hfresh, hnodup⟩ := List.nodupKeys_cons.mp hnodup
    obtain ⟨hstored, hkept⟩ := ih hnodup hrest
    constructor
    · intro value hmem
      rcases List.mem_cons.mp hmem with heq | hmem
      · -- no later entry has this name
        cases heq
        have hnone : ∀ other, ⟨column.name, other⟩ ∉ entries := fun other hother => by
          have hkey := List.mem_keys_of_mem hother
          exact hfresh hkey
        rw [hkept hnone]
        exact setAttribute_same hnext
      · -- what a later entry stores does not depend on the first one
        exact hstored value hmem
    · intro hnone
      have hname : column.name ≠ key := fun heq =>
        hnone first (heq ▸ List.mem_cons_self)
      rw [hkept fun value hmem => hnone value (List.mem_cons_of_mem _ hmem)]
      exact setAttribute_other hname hnext

end Assignments

section Update

variable {driver : Driver} {iam : IamDb} {db db' : RuleTable} {userId tenantId : ℕ}
  {providerType uuid : String} {body : Table String Json} {row : Row}

/-- The mark of an edit is in two columns. -/
theorem markPending_of_mem {column : Column} (h : column ∈ protectedColumns) :
    row.markPending column = row column := by
  have hother : ∀ column ∈ protectedColumns, column ≠ .applyStatus ∧ column ≠ .applyError := by
    decide
  -- the mark is in none of the protected columns
  obtain ⟨hstatus, herror⟩ := hother column h
  rw [Row.markPending, Function.update_of_ne herror, Function.update_of_ne hstatus]

/-- The rows after an update: the body is assigned to the rule that was found. -/
theorem updateRule_eq_ok (hfound : db.find? tenantId uuid = some row)
    (h : updateRule driver iam db userId tenantId providerType uuid body = .ok db') :
    ∃ assigned, setAll driver body.entries row = some assigned ∧
      db'.rows = replace db.rows (row .id) assigned.markPending := by
  simp only [updateRule, Except.bind_eq_ok_iff, Except.require_eq_ok_iff,
    Except.ofOption_eq_ok_iff, hfound, Option.some.injEq] at h
  obtain ⟨-, -, -, -, _, rfl, assigned, hassigned, hsave⟩ := h
  refine ⟨assigned, hassigned, ?_⟩
  unfold RuleTable.save? at hsave
  split at hsave
  case isTrue => exact Option.some.inj hsave ▸ rfl
  case isFalse => cases hsave

/-- If only content changes, every tenant has the rules it had. -/
theorem OnlyContent.listed_eq {id : Value} {rows rows' : List Row}
    (h : OnlyContent id rows rows') (tenant : ℤ) : listed rows' tenant = listed rows tenant := by
  unfold OnlyContent at h
  induction h with
  | nil => rfl
  | @cons old new rows rows' hkept _ ih =>
    -- neither the key nor the tenant has changed, so the row stays in its list
    have hsame : new .id = old .id ∧ new .tenantId = old .tenantId := by
      rcases hkept with rfl | ⟨-, hkept⟩
      · exact ⟨rfl, rfl⟩
      · exact ⟨hkept .id (by decide), hkept .tenantId (by decide)⟩
    unfold listed at ih ⊢
    by_cases htenant : old .tenantId = .integer tenant
    · rw [List.filter_cons_of_pos (by simp [hsame.2, htenant]),
        List.filter_cons_of_pos (by simp [htenant]), List.map_cons, List.map_cons, ih, hsame.1]
    · rw [List.filter_cons_of_neg (by simp [hsame.2, htenant]),
        List.filter_cons_of_neg (by simp [htenant]), ih]

end Update

/-- A driver that stores integers and texts in columns of their types, and `null`. -/
def plainDriver : Driver where
  store
    | _, .null => some .null
    | .integer, .integer n => some (.integer n)
    | .text limit, .string text => if text.length ≤ limit then some (.text text) else none
    | _, _ => none
  setOther _ _ := true

/-- A rule of the first tenant. -/
def webRow : Row
  | .id => .integer 1
  | .tenantId => .integer 1
  | .uuid => .text "pending-0"
  | .sequence => .integer 100
  | .text field => .text field.default
  | .applyStatus => .text "pending"
  | .createdAt => .time 0
  | .syncedAt | .applyError => .null

/-- The rule of the first of two tenants. -/
def webTable : RuleTable where
  tenants := [1, 2]
  rows := [webRow]
  valid := by decide +kernel

/-- A user who may create firewall rules in the first tenant. -/
def ruleIam : IamDb where
  tenants := (Serial.empty.add ⟨"Acme", "acme"⟩).add ⟨"Globex", "globex"⟩
  users := Serial.empty.add ⟨"alice", "alice@acme.example", true, some 1⟩
  permissions := Serial.empty.add "firewall:create"
  roles := Serial.empty.add ⟨"network_admin", none, none, true, false, {1}⟩
  userRoles := Serial.empty.add ⟨1, some 1, 1, none⟩
  invitations := .empty

/-- The outcome of an update of the rule by its user. -/
def webUpdate (key : String) (value : Json) : Except ApiError RuleTable :=
  updateRule plainDriver ruleIam webTable 1 1 "opnsense" "pending-0" (AList.insert key value ∅)

/-- The updates of the examples return. -/
private theorem webUpdate_isOk {key : String} {value : Json}
    (h : (webUpdate key value).toOption.isSome = true) :
    ∃ db', webUpdate key value = .ok db' := by
  cases hcall : webUpdate key value with
  | error e =>
    rw [hcall] at h
    cases h
  | ok db' => exact ⟨db', rfl⟩

end ProxmoxIaas.Firewall.UpdateRule
