import ProxmoxIaas.Firewall.Tasks

/-!
# Tenants and the Firewall Table

The two tasks that read the rules of a tenant from its OPNsense VM, each run without interruption.
Both work on the rows of the tenant only, but the uuids of the table are unique among all tenants:
a listed rule with a uuid that a row of another tenant has cannot be inserted, and the task fails.

The interface cache, the times of the last synchronisation and the audit log are left out.

## Main results

- `outcome_eq_iff`: the outcome for a tenant depends on the rows of other tenants by the first
  conflict only.
- `not_decoupled`: two tenants whose VMs list a rule with the same uuid.
-/

namespace ProxmoxIaas

/-- The end of a task: whether it reports success, and the table it leaves. -/
structure TaskEnd where
  /-- Whether the task reports success. -/
  succeeds : Bool
  /-- The committed table. -/
  db : FirewallDb

/-- The row that is inserted for a listed rule. -/
def listedRule (tenantId : ℕ) (uuid : String) (content : RuleContent) : OPNsenseFirewallRule :=
  { tenantId, uuid, content, applyStatus := .synced, applyError := none }

/-- The visit of a listed rule by the synchronisation. An update is committed with its entry in the
audit log, where an exception is only logged; the insertion of a row raises. -/
def visitListed (tenantId : ℕ) (loaded db : FirewallDb) (uuid : String) (payload : Payload) :
    Option FirewallDb := do
  let content ← decodeRule payload
  match findRule loaded tenantId uuid with
  | some (id, _) =>
    let rule ← db.rules.get? id
    if rule.applyStatus ≠ .synced ∨ rule.content = content then return db
    else
      return (db.save? (db.rules.modify id fun rule =>
        { rule with content, applyStatus := .synced, applyError := none })).getD db
  | none => db.save? (db.rules.add (listedRule tenantId uuid content))

/-- The visits of the listed rules, in their order; the first exception ends them. -/
def visitAll (tenantId : ℕ) (loaded : FirewallDb) : FirewallDb → List (String × Payload) → TaskEnd
  | db, [] => ⟨true, db⟩
  | db, (uuid, payload) :: todo =>
    match visitListed tenantId loaded db uuid payload with
    | some db => visitAll tenantId loaded db todo
    | none => ⟨false, db⟩

/-- Delete the synced rules of the tenant that are not listed. -/
def sweepUnlisted (tenantId : ℕ) (loaded db : FirewallDb) (listed : List (String × Payload)) :
    FirewallDb :=
  db.deleteWhere fun id rule =>
    (loaded.rules.get? id).any (fun known =>
      known.tenantId = tenantId && (List.lookup known.uuid listed).isNone) &&
        rule.applyStatus = .synced

/-- `sync_firewall_rules_task` on the rules that are listed. -/
def syncListed (db : FirewallDb) (tenantId : ℕ) (listed : List (String × Payload)) : TaskEnd :=
  let visited := visitAll tenantId db db listed
  if visited.succeeds then ⟨true, sweepUnlisted tenantId db visited.db listed⟩ else visited

/-- The listed rules in the order by sequence, of which those without one come first. It raises if
a sequence is no integer. -/
def sortListed (listed : List (String × Payload)) : Option (List (String × Payload)) := do
  let keyed ← listed.mapM fun (uuid, payload) => do
    let sequence ← (payload.getD "sequence" "0").bind fun text => Text.int? text.toList
    return (sequence, uuid, payload)
  return (keyed.insertionSort fun a b => a.1 ≤ b.1).map (·.2)

/-- The content of a listed rule at a position in the order. -/
def contentAt (payload : Payload) (index : ℕ) : RuleContent where
  sequence := some ((index + 1) * 100)
  text field :=
    let value := payload.getD field.key field.default
    if field.isFlag then some (parseBool value) else value

/-- The rows that are inserted for the listed rules in their order. -/
def listedRules (tenantId : ℕ) (sorted : List (String × Payload)) : List OPNsenseFirewallRule :=
  sorted.zipIdx.map fun ((uuid, payload), index) =>
    listedRule tenantId uuid (contentAt payload index)

/-- `reconcile_firewall_rules_task` on the rules that are listed. The deletion of the rows is
committed first; then all insertions are committed at once. -/
def reconcileListed (db : FirewallDb) (tenantId : ℕ) (listed : List (String × Payload)) : TaskEnd :=
  let cleared := db.deleteWhere fun _ rule => rule.tenantId = tenantId
  match (sortListed listed).bind fun sorted =>
      cleared.save? ((listedRules tenantId sorted).foldl Serial.add cleared.rules) with
  | some db => ⟨true, db⟩
  | none => ⟨false, cleared⟩

/-- The tasks that read the rules of OPNsense. -/
inductive ReadTask where
  /-- `sync_firewall_rules_task`. -/
  | sync
  /-- `reconcile_firewall_rules_task`. -/
  | reconcile
  deriving DecidableEq, Repr

/-- What stands before the rules are read: the tenant exists, its provider is OPNsense, and OPNsense
answers. -/
def readListed (db : FirewallDb) (tenantId : ℕ) (provider : String)
    (listing : Option (List (String × Payload))) : Option (List (String × Payload)) := do
  Option.require (tenantId ∈ db.tenants)
  Option.require (provider = "opnsense")
  listing

/-- A run of one of the tasks. -/
def ReadTask.run (task : ReadTask) (db : FirewallDb) (tenantId : ℕ) (provider : String)
    (listing : Option (List (String × Payload))) : TaskEnd :=
  match readListed db tenantId provider listing with
  | none => ⟨false, db⟩
  | some listed =>
    match task with
    | .sync => syncListed db tenantId listed
    | .reconcile => reconcileListed db tenantId listed

/-- The rules of a tenant, each under its id. -/
def FirewallDb.rulesOf (db : FirewallDb) (tenantId : ℕ) : ℕ → Option OPNsenseFirewallRule :=
  db.rules.rowsWhere fun rule => rule.tenantId = tenantId

/-- The outcome of a task for its tenant. -/
structure Outcome where
  /-- Whether the task reports success. -/
  succeeds : Bool
  /-- The rules of the tenant. -/
  rules : ℕ → Option OPNsenseFirewallRule

/-- The outcome of a run. -/
def ReadTask.outcome (task : ReadTask) (db : FirewallDb) (tenantId : ℕ) (provider : String)
    (listing : Option (List (String × Payload))) : Outcome :=
  let ended := task.run db tenantId provider listing
  ⟨ended.succeeds, ended.db.rulesOf tenantId⟩

/-- Two tables differ in the rows of other tenants only. -/
structure SameFor (tenantId : ℕ) (db db' : FirewallDb) : Prop where
  /-- The same tenants. -/
  tenants : db'.tenants = db.tenants
  /-- The same sequence of ids. -/
  next : db'.rules.next = db.rules.next
  /-- The same rules of the tenant. -/
  rules : db'.rulesOf tenantId = db.rulesOf tenantId

/-! ## Conflicts -/

/-- Whether a row of another tenant has a uuid. -/
def heldElsewhere (db : FirewallDb) (tenantId : ℕ) (uuid : String) : Bool :=
  (db.rules.first? fun _ rule => rule.tenantId ≠ tenantId ∧ rule.uuid = uuid).isSome

/-- The uuids of the listed rules that are new to the tenant, up to the first rule that is
malformed, listed twice, or does not fit into the table. -/
def newUuids (db : FirewallDb) (tenantId : ℕ) : List String → List (String × Payload) → List String
  | _, [] => []
  | seen, (uuid, payload) :: todo =>
    match decodeRule payload with
    | none => []
    | some content =>
      if (findRule db tenantId uuid).isSome then newUuids db tenantId seen todo
      else if uuid ∉ seen ∧ (listedRule tenantId uuid content).fits db.tenants = true then
        uuid :: newUuids db tenantId (uuid :: seen) todo
      else []

/-- The uuids of the listed rules, unless one of them is malformed, listed twice, or does not fit
into the table. -/
def allUuids (db : FirewallDb) (tenantId : ℕ) (listed : List (String × Payload)) : List String :=
  match sortListed listed with
  | none => []
  | some sorted =>
    let rules := listedRules tenantId sorted
    if (rules.map (·.uuid)).Nodup ∧ ∀ rule ∈ rules, rule.fits db.tenants = true then
      rules.map (·.uuid)
    else []

/-- Where the rows of other tenants stop a task: the number of new rules that are stored before.
The synchronisation stores them one by one, the reconciliation all at once. -/
def ReadTask.stop (task : ReadTask) (db : FirewallDb) (tenantId : ℕ) (provider : String)
    (listing : Option (List (String × Payload))) : Option ℕ :=
  (readListed db tenantId provider listing).bind fun listed =>
    match task with
    | .sync => (newUuids db tenantId [] listed).findIdx? (heldElsewhere db tenantId)
    | .reconcile =>
      if (allUuids db tenantId listed).any (heldElsewhere db tenantId) then some 0 else none

/-! ## Rows -/

section Rows

variable {tenantId : ℕ} {db db' : FirewallDb} {uuid : String}

/-- A row can be inserted if it fits and no row has its uuid. -/
theorem validRules_add_iff {rule : OPNsenseFirewallRule} :
    ValidRules db.tenants (db.rules.add rule) ↔ rule.fits db.tenants = true ∧
      ∀ id other, db.rules.get? id = some other → other.uuid ≠ rule.uuid := by
  rw [validRules_iff]
  have hnext : (db.rules.add rule).get? db.rules.next = some rule := by
    rw [Serial.get?_add, if_pos rfl]
  have hold : ∀ id other, db.rules.get? id = some other →
      id ≠ db.rules.next ∧ (db.rules.add rule).get? id = some other := by
    intro id other hget
    have hne : id ≠ db.rules.next := Nat.ne_of_lt (Serial.bound_of_get? hget).2
    exact ⟨hne, by rw [Serial.get?_add, if_neg hne, hget]⟩
  constructor
  · rintro ⟨huuids, hfits⟩
    refine ⟨hfits _ rule hnext, fun id other hget huuid => ?_⟩
    obtain ⟨hne, hget⟩ := hold id other hget
    exact hne (huuids id db.rules.next other rule hget hnext huuid)
  · rintro ⟨hfits, hunheld⟩
    refine ⟨fun i j other other' hi hj huuid => ?_, fun i other hi => ?_⟩
    · rw [Serial.get?_add] at hi hj
      split at hi <;> split at hj
      case isTrue.isTrue heq heq' => rw [heq, heq']
      case isTrue.isFalse =>
        obtain rfl := Option.some.inj hi
        exact absurd huuid.symm (hunheld j other' hj)
      case isFalse.isTrue =>
        obtain rfl := Option.some.inj hj
        exact absurd huuid (hunheld i other hi)
      case isFalse.isFalse => exact db.eq_of_uuid hi hj huuid
    · rw [Serial.get?_add] at hi
      split at hi
      case isTrue => exact Option.some.inj hi ▸ hfits
      case isFalse => exact db.fits_of_get? hi

/-- A row can be rewritten under its uuid if it fits. -/
theorem validRules_modify_iff {id : ℕ} {rule : OPNsenseFirewallRule}
    {f : OPNsenseFirewallRule → OPNsenseFirewallRule} (h : db.rules.get? id = some rule)
    (huuid : ∀ rule, (f rule).uuid = rule.uuid) :
    ValidRules db.tenants (db.rules.modify id f) ↔ (f rule).fits db.tenants = true := by
  rw [validRules_iff]
  -- Every row has a row before with the same uuid.
  have hold : ∀ i other, (db.rules.modify id f).get? i = some other →
      ∃ old, db.rules.get? i = some old ∧ other.uuid = old.uuid ∧
        (other = old ∨ i = id ∧ other = f rule) := by
    intro i other hget
    rw [Serial.get?_modify] at hget
    split at hget
    case isTrue heq =>
      rw [heq, h, Option.map_some, Option.some.injEq] at hget
      refine ⟨rule, heq ▸ h, ?_, Or.inr ⟨heq, hget.symm⟩⟩
      rw [← hget, huuid]
    case isFalse => exact ⟨other, hget, rfl, Or.inl rfl⟩
  constructor
  · rintro ⟨-, hfits⟩
    refine hfits id (f rule) ?_
    rw [Serial.get?_modify, if_pos rfl, h, Option.map_some]
  · intro hfits
    refine ⟨fun i j other other' hi hj heq => ?_, fun i other hi => ?_⟩
    · obtain ⟨old, holdi, hi, -⟩ := hold i other hi
      obtain ⟨old', holdj, hj, -⟩ := hold j other' hj
      exact db.eq_of_uuid holdi holdj (by rw [← hi, ← hj, heq])
    · obtain ⟨old, holdi, -, rfl | ⟨-, rfl⟩⟩ := hold i other hi
      · exact db.fits_of_get? holdi
      · exact hfits

/-- The rule that is found is the tenant's only one with the uuid. -/
theorem findRule_eq_some_iff {id : ℕ} {rule : OPNsenseFirewallRule} :
    findRule db tenantId uuid = some (id, rule) ↔
      db.rules.get? id = some rule ∧ rule.tenantId = tenantId ∧ rule.uuid = uuid := by
  constructor
  · intro h
    obtain ⟨hget, hfits⟩ := Serial.first?_eq_some h
    exact ⟨hget, of_decide_eq_true hfits⟩
  · rintro ⟨hget, htenant, huuid⟩
    cases hfound : findRule db tenantId uuid with
    | none =>
      have hnone := Serial.first?_eq_none_iff.mp hfound id rule hget
      exact absurd ⟨htenant, huuid⟩ (of_decide_eq_false hnone)
    | some other =>
      obtain ⟨hother, hfits⟩ := Serial.first?_eq_some hfound
      have hkey : other.1 = id := by
        refine db.eq_of_uuid hother hget ?_
        exact (of_decide_eq_true hfits).2.trans huuid.symm
      rw [hkey, hget] at hother
      rw [Option.some.inj hother, ← hkey]

/-- Whether a row of another tenant has a uuid. -/
theorem heldElsewhere_iff : heldElsewhere db tenantId uuid = true ↔
    ∃ id rule, db.rules.get? id = some rule ∧ rule.tenantId ≠ tenantId ∧ rule.uuid = uuid := by
  rw [heldElsewhere, Option.isSome_iff_exists]
  constructor
  · rintro ⟨⟨id, rule⟩, hfirst⟩
    obtain ⟨hget, hfits⟩ := Serial.first?_eq_some hfirst
    exact ⟨id, rule, hget, of_decide_eq_true hfits⟩
  · rintro ⟨id, rule, hget, hfits⟩
    rw [← Option.isSome_iff_exists, Option.isSome_iff_ne_none, ne_eq, Serial.first?_eq_none_iff]
    exact fun hnone => of_decide_eq_false (hnone id rule hget) hfits

/-- A row of the tenant. -/
theorem rulesOf_eq_some_iff {id : ℕ} {rule : OPNsenseFirewallRule} :
    db.rulesOf tenantId id = some rule ↔ db.rules.get? id = some rule ∧ rule.tenantId = tenantId := by
  rw [FirewallDb.rulesOf, Serial.rowsWhere_eq_some_iff, decide_eq_true_eq]

/-- Both tables have the same rows of the tenant. -/
theorem SameFor.get?_iff (h : SameFor tenantId db db') {id : ℕ} {rule : OPNsenseFirewallRule}
    (htenant : rule.tenantId = tenantId) :
    db'.rules.get? id = some rule ↔ db.rules.get? id = some rule := by
  have hrules := congrFun h.rules id
  constructor
  · intro hget
    rw [rulesOf_eq_some_iff.mpr ⟨hget, htenant⟩] at hrules
    exact (rulesOf_eq_some_iff.mp hrules.symm).1
  · intro hget
    rw [rulesOf_eq_some_iff.mpr ⟨hget, htenant⟩] at hrules
    exact (rulesOf_eq_some_iff.mp hrules).1

/-- Both tables find the same rules of the tenant. -/
theorem SameFor.findRule_eq (h : SameFor tenantId db db') (uuid : String) :
    findRule db' tenantId uuid = findRule db tenantId uuid := by
  ext1 ⟨id, rule⟩
  rw [findRule_eq_some_iff, findRule_eq_some_iff]
  constructor
  · rintro ⟨hget, htenant, huuid⟩
    exact ⟨(h.get?_iff htenant).mp hget, htenant, huuid⟩
  · rintro ⟨hget, htenant, huuid⟩
    exact ⟨(h.get?_iff htenant).mpr hget, htenant, huuid⟩

/-- Both tables have the same new rules for the tenant. -/
theorem SameFor.newUuids_eq (h : SameFor tenantId db db') (seen : List String)
    (listed : List (String × Payload)) :
    newUuids db' tenantId seen listed = newUuids db tenantId seen listed := by
  induction listed generalizing seen with
  | nil => rfl
  | cons entry todo ih =>
    obtain ⟨uuid, payload⟩ := entry
    simp only [newUuids, h.findRule_eq, h.tenants, ih]

end Rows

/-! ## Synchronisation -/

section Sync

variable {tenantId : ℕ} {loaded loaded' db db' : FirewallDb} {seen : List String} {uuid : String}
  {payload : Payload} {content : RuleContent}

/-- The tenant has a rule with a uuid. -/
def Owns (db : FirewallDb) (tenantId : ℕ) (uuid : String) : Prop :=
  ∃ id rule, db.rules.get? id = some rule ∧ rule.tenantId = tenantId ∧ rule.uuid = uuid

/-- A rule is found if the tenant has it. -/
theorem isSome_findRule_iff : (findRule db tenantId uuid).isSome = true ↔ Owns db tenantId uuid := by
  rw [Option.isSome_iff_exists]
  constructor
  · rintro ⟨⟨id, rule⟩, hfound⟩
    exact ⟨id, rule, findRule_eq_some_iff.mp hfound⟩
  · rintro ⟨id, rule, hrule⟩
    exact ⟨(id, rule), findRule_eq_some_iff.mpr hrule⟩

/-- What the visits have left of the table that was loaded: they have inserted the rules `seen`. -/
structure Visited (tenantId : ℕ) (loaded : FirewallDb) (seen : List String) (db : FirewallDb) :
    Prop where
  /-- The same tenants. -/
  tenants : db.tenants = loaded.tenants
  /-- The rules that were loaded keep their uuids. -/
  kept : ∀ id rule, loaded.rules.get? id = some rule → rule.tenantId = tenantId →
    ∃ rule', db.rules.get? id = some rule' ∧ rule'.tenantId = tenantId ∧ rule'.uuid = rule.uuid
  /-- The tenant has the rules that were loaded and those that were inserted. -/
  owns : ∀ uuid, Owns db tenantId uuid ↔ Owns loaded tenantId uuid ∨ uuid ∈ seen
  /-- The rows of other tenants stay. -/
  others : ∀ uuid, heldElsewhere db tenantId uuid = heldElsewhere loaded tenantId uuid

/-- Before the visits. -/
theorem Visited.refl : Visited tenantId db [] db where
  tenants := rfl
  kept _ rule hget htenant := ⟨rule, hget, htenant, rfl⟩
  owns uuid := by simp
  others _ := rfl

/-- A row of the tenant with the listed content. -/
private def updated (content : RuleContent) (rule : OPNsenseFirewallRule) : OPNsenseFirewallRule :=
  { rule with content, applyStatus := .synced, applyError := none }

/-- A row of the tenant after the visit of its rule. -/
private def visitEdit (tenants : List ℕ) (content : RuleContent) (rule : OPNsenseFirewallRule) :
    OPNsenseFirewallRule :=
  if (rule.applyStatus ≠ .synced ∨ rule.content = content) ∨
      (updated content rule).fits tenants = false then rule
  else updated content rule

private theorem visitEdit_uuid (tenants : List ℕ) (content : RuleContent)
    (rule : OPNsenseFirewallRule) : (visitEdit tenants content rule).uuid = rule.uuid := by
  unfold visitEdit
  split <;> rfl

private theorem visitEdit_tenantId (tenants : List ℕ) (content : RuleContent)
    (rule : OPNsenseFirewallRule) : (visitEdit tenants content rule).tenantId = rule.tenantId := by
  unfold visitEdit
  split <;> rfl

/-- A visited rule that the tenant has: its row is rewritten, or nothing happens. -/
private theorem visitListed_known {id : ℕ} {known : OPNsenseFirewallRule}
    (h : Visited tenantId loaded seen db) (hdecode : decodeRule payload = some content)
    (hknown : findRule loaded tenantId uuid = some (id, known)) :
    ∃ db₁, visitListed tenantId loaded db uuid payload = some db₁ ∧ db₁.tenants = db.tenants ∧
      db₁.rules.next = db.rules.next ∧
      db₁.rules.get? = (db.rules.modify id (visitEdit loaded.tenants content)).get? := by
  obtain ⟨hget, htenant, -⟩ := findRule_eq_some_iff.mp hknown
  obtain ⟨rule, hrule, -, -⟩ := h.kept id known hget htenant
  -- writes that agree on the row have the same effect
  have hedit : ∀ {f : OPNsenseFirewallRule → OPNsenseFirewallRule},
      f rule = visitEdit loaded.tenants content rule →
      (db.rules.modify id f).get? =
        (db.rules.modify id (visitEdit loaded.tenants content)).get? := by
    intro f hf
    ext1 i
    rw [Serial.get?_modify, Serial.get?_modify]
    split
    case isTrue hi => rw [hi, hrule, Option.map_some, Option.map_some, hf]
    case isFalse => rfl
  have hsame : visitEdit loaded.tenants content rule = rule →
      db.rules.get? = (db.rules.modify id (visitEdit loaded.tenants content)).get? := by
    intro heq
    rw [← hedit (f := fun rule => rule) heq.symm]
    ext1 i
    rw [Serial.get?_modify]
    split
    · rw [Option.map_id_fun']
      rfl
    · rfl
  have hvisit : visitListed tenantId loaded db uuid payload =
      if rule.applyStatus ≠ .synced ∨ rule.content = content then some db
      else some ((db.save? (db.rules.modify id (updated content))).getD db) := by
    rw [visitListed, hdecode, Option.bind_eq_bind, Option.bind_some, hknown]
    show (db.rules.get? id).bind _ = _
    rw [hrule]
    rfl
  rw [hvisit]
  by_cases hseen : rule.applyStatus ≠ .synced ∨ rule.content = content
  · rw [if_pos hseen]
    refine ⟨db, rfl, rfl, rfl, hsame ?_⟩
    unfold visitEdit
    rw [if_pos (Or.inl hseen)]
  · rw [if_neg hseen]
    -- the uuid is kept, so the write can only fail at the bounds of the columns
    have hvalid := @validRules_modify_iff db id rule (updated content) hrule fun _ => rfl
    refine ⟨_, rfl, ?_⟩
    by_cases hfits : (updated content rule).fits db.tenants = true
    · rw [FirewallDb.save?_of_valid (hvalid.mpr hfits)]
      refine ⟨rfl, rfl, hedit ?_⟩
      unfold visitEdit
      rw [if_neg]
      rintro (hboth | hnot)
      · exact hseen hboth
      · rw [h.tenants, hnot] at hfits
        cases hfits
    · rw [FirewallDb.save?_of_not_valid (mt hvalid.mp hfits)]
      refine ⟨rfl, rfl, hsame ?_⟩
      unfold visitEdit
      rw [if_pos]
      exact Or.inr (Bool.eq_false_iff.mpr (h.tenants ▸ hfits))

/-- Rewriting the content of a row of the tenant changes neither its uuid nor its tenant. -/
private theorem Visited.modify {id : ℕ} {f : OPNsenseFirewallRule → OPNsenseFirewallRule}
    (h : Visited tenantId loaded seen db) (huuid : ∀ rule, (f rule).uuid = rule.uuid)
    (htenant : ∀ rule, (f rule).tenantId = rule.tenantId) (htenants : db'.tenants = db.tenants)
    (hrules : db'.rules.get? = (db.rules.modify id f).get?) : Visited tenantId loaded seen db' := by
  have hforward : ∀ i rule, db.rules.get? i = some rule → ∃ rule', db'.rules.get? i = some rule' ∧
      rule'.tenantId = rule.tenantId ∧ rule'.uuid = rule.uuid := by
    intro i rule hget
    rw [hrules, Serial.get?_modify, hget]
    split
    · exact ⟨f rule, rfl, htenant rule, huuid rule⟩
    · exact ⟨rule, rfl, rfl, rfl⟩
  have hback : ∀ i rule', db'.rules.get? i = some rule' → ∃ rule, db.rules.get? i = some rule ∧
      rule.tenantId = rule'.tenantId ∧ rule.uuid = rule'.uuid := by
    intro i rule' hget
    rw [hrules, Serial.get?_modify] at hget
    split at hget
    · obtain ⟨rule, hrule, rfl⟩ := Option.map_eq_some_iff.mp hget
      exact ⟨rule, hrule, (htenant rule).symm, (huuid rule).symm⟩
    · exact ⟨rule', hget, rfl, rfl⟩
  refine ⟨htenants.trans h.tenants, fun i rule hget hin => ?_, fun other => ?_, fun other => ?_⟩
  · obtain ⟨rule', hrule', hin', heq⟩ := h.kept i rule hget hin
    obtain ⟨rule'', hrule'', hin'', heq'⟩ := hforward i rule' hrule'
    exact ⟨rule'', hrule'', hin''.trans hin', heq'.trans heq⟩
  · rw [← h.owns]
    constructor
    · rintro ⟨i, rule', hget, hin, heq⟩
      obtain ⟨rule, hrule, hin', heq'⟩ := hback i rule' hget
      exact ⟨i, rule, hrule, hin'.trans hin, heq'.trans heq⟩
    · rintro ⟨i, rule, hget, hin, heq⟩
      obtain ⟨rule', hrule', hin', heq'⟩ := hforward i rule hget
      exact ⟨i, rule', hrule', hin'.trans hin, heq'.trans heq⟩
  · rw [← h.others, Bool.eq_iff_iff, heldElsewhere_iff, heldElsewhere_iff]
    constructor
    · rintro ⟨i, rule', hget, hin, heq⟩
      obtain ⟨rule, hrule, hin', heq'⟩ := hback i rule' hget
      exact ⟨i, rule, hrule, hin' ▸ hin, heq'.trans heq⟩
    · rintro ⟨i, rule, hget, hin, heq⟩
      obtain ⟨rule', hrule', hin', heq'⟩ := hforward i rule hget
      exact ⟨i, rule', hrule', hin'.symm ▸ hin, heq'.trans heq⟩

/-- The insertion of a rule of the tenant. -/
private theorem Visited.add {rule : OPNsenseFirewallRule} (h : Visited tenantId loaded seen db)
    (htenant : rule.tenantId = tenantId) (htenants : db'.tenants = db.tenants)
    (hrules : db'.rules = db.rules.add rule) : Visited tenantId loaded (rule.uuid :: seen) db' := by
  have hforward : ∀ i other, db.rules.get? i = some other → db'.rules.get? i = some other := by
    intro i other hget
    rw [hrules, Serial.get?_add, if_neg (Nat.ne_of_lt (Serial.bound_of_get? hget).2), hget]
  have hback : ∀ i other, db'.rules.get? i = some other →
      other = rule ∨ db.rules.get? i = some other := by
    intro i other hget
    rw [hrules, Serial.get?_add] at hget
    split at hget
    · exact Or.inl (Option.some.inj hget).symm
    · exact Or.inr hget
  refine ⟨htenants.trans h.tenants, fun i other hget hin => ?_, fun other => ?_, fun other => ?_⟩
  · obtain ⟨other', hother', hboth⟩ := h.kept i other hget hin
    exact ⟨other', hforward i other' hother', hboth⟩
  · rw [List.mem_cons, or_left_comm, ← h.owns]
    constructor
    · rintro ⟨i, row, hget, hin, heq⟩
      rcases hback i row hget with rfl | hget
      · exact Or.inl heq.symm
      · exact Or.inr ⟨i, row, hget, hin, heq⟩
    · rintro (rfl | ⟨i, row, hget, hin, heq⟩)
      · refine ⟨db.rules.next, rule, ?_, htenant, rfl⟩
        rw [hrules, Serial.get?_add, if_pos rfl]
      · exact ⟨i, row, hforward i row hget, hin, heq⟩
  · rw [← h.others, Bool.eq_iff_iff, heldElsewhere_iff, heldElsewhere_iff]
    constructor
    · rintro ⟨i, row, hget, hin, heq⟩
      rcases hback i row hget with rfl | hget
      · exact absurd htenant hin
      · exact ⟨i, row, hget, hin, heq⟩
    · rintro ⟨i, row, hget, hin, heq⟩
      exact ⟨i, row, hforward i row hget, hin, heq⟩

/-- A visited rule that is new to the tenant is inserted, if it was not listed before, fits and no
other tenant has its uuid. -/
private theorem visitListed_new (h : Visited tenantId loaded seen db)
    (hdecode : decodeRule payload = some content) (hnew : findRule loaded tenantId uuid = none) :
    (∃ db₁, visitListed tenantId loaded db uuid payload = some db₁ ∧ db₁.tenants = db.tenants ∧
      db₁.rules = db.rules.add (listedRule tenantId uuid content) ∧
      (uuid ∉ seen ∧ (listedRule tenantId uuid content).fits loaded.tenants = true) ∧
      heldElsewhere loaded tenantId uuid = false) ∨
    visitListed tenantId loaded db uuid payload = none ∧
      ¬ ((uuid ∉ seen ∧ (listedRule tenantId uuid content).fits loaded.tenants = true) ∧
        heldElsewhere loaded tenantId uuid = false) := by
  have hvisit : visitListed tenantId loaded db uuid payload =
      db.save? (db.rules.add (listedRule tenantId uuid content)) := by
    rw [visitListed, hdecode, Option.bind_eq_bind, Option.bind_some, hnew]
  have hvalid : ValidRules db.tenants (db.rules.add (listedRule tenantId uuid content)) ↔
      (uuid ∉ seen ∧ (listedRule tenantId uuid content).fits loaded.tenants = true) ∧
        heldElsewhere loaded tenantId uuid = false := by
    have hown : Owns db tenantId uuid ↔ uuid ∈ seen := by
      rw [h.owns, ← isSome_findRule_iff, hnew]
      simp
    rw [validRules_add_iff, h.tenants, ← hown, ← h.others, ← Bool.not_eq_true, heldElsewhere_iff,
      and_assoc, and_left_comm]
    refine and_congr_right fun _ => ?_
    constructor
    · intro hunheld
      exact ⟨fun ⟨id, rule, hget, _, heq⟩ => hunheld id rule hget heq,
        fun ⟨id, rule, hget, _, heq⟩ => hunheld id rule hget heq⟩
    · rintro ⟨hnotOwn, hnotHeld⟩ id rule hget heq
      by_cases hin : rule.tenantId = tenantId
      · exact hnotOwn ⟨id, rule, hget, hin, heq⟩
      · exact hnotHeld ⟨id, rule, hget, hin, heq⟩
  rw [hvisit]
  by_cases hstorable : ValidRules db.tenants (db.rules.add (listedRule tenantId uuid content))
  · left
    rw [FirewallDb.save?_of_valid hstorable]
    exact ⟨_, rfl, rfl, rfl, hvalid.mp hstorable⟩
  · right
    exact ⟨FirewallDb.save?_of_not_valid hstorable, mt hvalid.mpr hstorable⟩

/-- The visits insert the new rules before the first one that another tenant has. -/
private theorem visitAll_visited (h : Visited tenantId loaded seen db)
    (listed : List (String × Payload)) :
    Visited tenantId loaded (((newUuids loaded tenantId seen listed).takeWhile fun uuid =>
      !heldElsewhere loaded tenantId uuid).reverse ++ seen)
      (visitAll tenantId loaded db listed).db := by
  induction listed generalizing db seen with
  | nil => exact h
  | cons entry todo ih =>
    obtain ⟨uuid, payload⟩ := entry
    cases hdecode : decodeRule payload with
    | none =>
      have hvisit : visitListed tenantId loaded db uuid payload = none := by
        rw [visitListed, hdecode]
        rfl
      rw [visitAll, hvisit, newUuids, hdecode]
      exact h
    | some content =>
      rw [visitAll, newUuids, hdecode]
      cases hfound : findRule loaded tenantId uuid with
      | some known =>
        obtain ⟨db₁, hvisit, htenants, -, hrules⟩ := visitListed_known h hdecode hfound
        rw [hvisit]
        exact ih (h.modify (visitEdit_uuid _ _) (visitEdit_tenantId _ _) htenants hrules)
      | none =>
        simp only [Option.isSome_none, Bool.false_eq_true, if_false]
        rcases visitListed_new h hdecode hfound with
          ⟨db₁, hvisit, htenants, hrules, hstorable, hheld⟩ | ⟨hvisit, hnot⟩
        · rw [hvisit, if_pos hstorable, List.takeWhile_cons_of_pos (by rw [hheld]; rfl)]
          rw [List.reverse_cons, List.append_assoc]
          exact ih (h.add rfl htenants hrules)
        · rw [hvisit]
          by_cases hstorable : uuid ∉ seen ∧
              (listedRule tenantId uuid content).fits loaded.tenants = true
          · have hheld : heldElsewhere loaded tenantId uuid = true := by
              by_contra hne
              exact hnot ⟨hstorable, Bool.eq_false_iff.mpr hne⟩
            rw [if_pos hstorable, List.takeWhile_cons_of_neg (by rw [hheld]; decide)]
            exact h
          · rw [if_neg hstorable]
            exact h

/-- Rewriting a row of the tenant in both tables. -/
private theorem SameFor.modify {db₁ db₁' : FirewallDb} {id : ℕ}
    {f : OPNsenseFirewallRule → OPNsenseFirewallRule} (h : SameFor tenantId db db')
    (htenant : ∀ rule, (f rule).tenantId = rule.tenantId) (htenants : db₁.tenants = db.tenants)
    (htenants' : db₁'.tenants = db'.tenants) (hnext : db₁.rules.next = db.rules.next)
    (hnext' : db₁'.rules.next = db'.rules.next)
    (hrules : db₁.rules.get? = (db.rules.modify id f).get?)
    (hrules' : db₁'.rules.get? = (db'.rules.modify id f).get?) : SameFor tenantId db₁ db₁' := by
  refine ⟨by rw [htenants, htenants', h.tenants], by rw [hnext, hnext', h.next], ?_⟩
  have hrowsWhere : ∀ {db₁ db : FirewallDb}, db₁.rules.get? = (db.rules.modify id f).get? →
      ∀ k, db₁.rulesOf tenantId k =
        if k = id then (db.rulesOf tenantId k).map f else db.rulesOf tenantId k := by
    intro db₁ db hrules k
    have hmodify := Serial.rowsWhere_modify (t := db.rules)
      (p := fun rule => decide (rule.tenantId = tenantId)) (fun rule => by rw [htenant]) id k
    rw [Serial.rowsWhere, ← hrules] at hmodify
    exact hmodify
  ext1 k
  rw [hrowsWhere hrules, hrowsWhere hrules', h.rules]

/-- Inserting a row of the tenant into both tables. -/
private theorem SameFor.add {db₁ db₁' : FirewallDb} {rule : OPNsenseFirewallRule}
    (h : SameFor tenantId db db') (htenant : rule.tenantId = tenantId)
    (htenants : db₁.tenants = db.tenants) (htenants' : db₁'.tenants = db'.tenants)
    (hrules : db₁.rules = db.rules.add rule) (hrules' : db₁'.rules = db'.rules.add rule) :
    SameFor tenantId db₁ db₁' := by
  refine ⟨by rw [htenants, htenants', h.tenants], ?_, ?_⟩
  · rw [hrules, hrules']
    exact congrArg (· + 1) h.next
  · have hrowsWhere : ∀ {db₁ db : FirewallDb}, db₁.rules = db.rules.add rule → ∀ k,
        db₁.rulesOf tenantId k = if k = db.rules.next then some rule else db.rulesOf tenantId k := by
      intro db₁ db hrules k
      rw [FirewallDb.rulesOf, hrules]
      exact Serial.rowsWhere_add (p := fun rule : OPNsenseFirewallRule =>
        decide (rule.tenantId = tenantId)) (decide_eq_true htenant) k
    ext1 k
    rw [hrowsWhere hrules, hrowsWhere hrules', h.next, h.rules]

/-- The visits do the same for the tenant in two tables with the same first conflict. -/
private theorem visitAll_same (hloaded : SameFor tenantId loaded loaded')
    (h : SameFor tenantId db db') (hvisited : Visited tenantId loaded seen db)
    (hvisited' : Visited tenantId loaded' seen db') (listed : List (String × Payload))
    (hstop : (newUuids loaded tenantId seen listed).findIdx? (heldElsewhere loaded tenantId) =
      (newUuids loaded tenantId seen listed).findIdx? (heldElsewhere loaded' tenantId)) :
    (visitAll tenantId loaded' db' listed).succeeds =
        (visitAll tenantId loaded db listed).succeeds ∧
      SameFor tenantId (visitAll tenantId loaded db listed).db
        (visitAll tenantId loaded' db' listed).db := by
  induction listed generalizing db db' seen with
  | nil => exact ⟨rfl, h⟩
  | cons entry todo ih =>
    obtain ⟨uuid, payload⟩ := entry
    cases hdecode : decodeRule payload with
    | none =>
      have hvisit : ∀ loaded db, visitListed tenantId loaded db uuid payload = none := by
        intro loaded db
        rw [visitListed, hdecode]
        rfl
      rw [visitAll, visitAll, hvisit, hvisit]
      exact ⟨rfl, h⟩
    | some content =>
      rw [visitAll, visitAll]
      rw [newUuids, hdecode] at hstop
      cases hfound : findRule loaded tenantId uuid with
      | some known =>
        have hfound' : findRule loaded' tenantId uuid = some known :=
          (hloaded.findRule_eq uuid).trans hfound
        simp only [hfound, Option.isSome_some, if_true] at hstop
        obtain ⟨db₁, hvisit, htenants, hnext, hrules⟩ := visitListed_known hvisited hdecode hfound
        obtain ⟨db₁', hvisit', htenants', hnext', hrules'⟩ :=
          visitListed_known hvisited' hdecode hfound'
        rw [hvisit, hvisit']
        rw [hloaded.tenants] at hrules'
        refine ih ?_ ?_ ?_ hstop
        · exact h.modify (visitEdit_tenantId _ _) htenants htenants' hnext hnext' hrules hrules'
        · exact hvisited.modify (visitEdit_uuid _ _) (visitEdit_tenantId _ _) htenants hrules
        · exact hvisited'.modify (visitEdit_uuid _ _) (visitEdit_tenantId _ _) htenants' hrules'
      | none =>
        have hfound' : findRule loaded' tenantId uuid = none :=
          (hloaded.findRule_eq uuid).trans hfound
        simp only [hfound, Option.isSome_none, Bool.false_eq_true, if_false] at hstop
        have hnew := visitListed_new hvisited hdecode hfound
        have hnew' := visitListed_new hvisited' hdecode hfound'
        rw [hloaded.tenants] at hnew'
        by_cases hstorable : uuid ∉ seen ∧
            (listedRule tenantId uuid content).fits loaded.tenants = true
        · rw [if_pos hstorable, List.findIdx?_cons, List.findIdx?_cons] at hstop
          rcases hnew with ⟨db₁, hvisit, htenants, hrules, -, hheld⟩ | ⟨hvisit, hnot⟩
          · rcases hnew' with ⟨db₁', hvisit', htenants', hrules', -, hheld'⟩ | ⟨-, hnot'⟩
            · -- Both insert the rule, and the rest has the same first conflict.
              rw [hheld, hheld'] at hstop
              simp only [Bool.false_eq_true, if_false] at hstop
              rw [hvisit, hvisit']
              refine ih (h.add rfl htenants htenants' hrules hrules')
                (hvisited.add rfl htenants hrules) (hvisited'.add rfl htenants' hrules') ?_
              exact Option.map_injective (fun _ _ heq => Nat.succ.inj heq) hstop
            · exfalso
              have hheld' : heldElsewhere loaded' tenantId uuid = true := by
                by_contra hne
                exact hnot' ⟨hstorable, Bool.eq_false_iff.mpr hne⟩
              rw [hheld, hheld'] at hstop
              simp at hstop
          · have hheld : heldElsewhere loaded tenantId uuid = true := by
              by_contra hne
              exact hnot ⟨hstorable, Bool.eq_false_iff.mpr hne⟩
            rcases hnew' with ⟨-, -, -, -, -, hheld'⟩ | ⟨hvisit', -⟩
            · exfalso
              rw [hheld, hheld'] at hstop
              simp at hstop
            · rw [hvisit, hvisit']
              exact ⟨rfl, h⟩
        · -- A rule that cannot be stored ends both runs.
          rcases hnew with ⟨-, -, -, -, hstorable', -⟩ | ⟨hvisit, -⟩
          · exact absurd hstorable' hstorable
          rcases hnew' with ⟨-, -, -, -, hstorable', -⟩ | ⟨hvisit', -⟩
          · exact absurd hstorable' hstorable
          rw [hvisit, hvisit']
          exact ⟨rfl, h⟩

/-- The new rules are new to the tenant, and listed. -/
private theorem of_mem_newUuids {listed : List (String × Payload)}
    (h : uuid ∈ newUuids db tenantId seen listed) :
    uuid ∉ seen ∧ ¬ Owns db tenantId uuid ∧ (List.lookup uuid listed).isSome = true := by
  induction listed generalizing seen with
  | nil => cases h
  | cons entry todo ih =>
    obtain ⟨listedUuid, payload⟩ := entry
    have hlisted : uuid = listedUuid ∨ (List.lookup uuid todo).isSome = true →
        (List.lookup uuid ((listedUuid, payload) :: todo)).isSome = true := by
      intro hcase
      rw [List.lookup_cons]
      rcases hcase with rfl | htodo
      · simp
      · split
        · rfl
        · exact htodo
    rw [newUuids] at h
    split at h
    case h_1 => cases h
    case h_2 =>
      split at h
      case isTrue =>
        obtain ⟨hseen, hown, htodo⟩ := ih h
        exact ⟨hseen, hown, hlisted (Or.inr htodo)⟩
      case isFalse hnew =>
        split at h
        case isTrue hstorable =>
          rcases List.mem_cons.mp h with rfl | h
          · exact ⟨hstorable.1, mt isSome_findRule_iff.mpr hnew, hlisted (Or.inl rfl)⟩
          · obtain ⟨hseen, hown, htodo⟩ := ih h
            exact ⟨fun hmem => hseen (List.mem_cons_of_mem _ hmem), hown, hlisted (Or.inr htodo)⟩
        case isFalse => cases h

/-- The new rules are different. -/
private theorem nodup_newUuids (db : FirewallDb) (tenantId : ℕ) (seen : List String)
    (listed : List (String × Payload)) : (newUuids db tenantId seen listed).Nodup := by
  induction listed generalizing seen with
  | nil => exact List.nodup_nil
  | cons entry todo ih =>
    obtain ⟨uuid, payload⟩ := entry
    rw [newUuids]
    split
    case h_1 => exact List.nodup_nil
    case h_2 =>
      split
      case isTrue => exact ih seen
      case isFalse =>
        split
        case isTrue =>
          exact List.nodup_cons.mpr ⟨fun hmem => (of_mem_newUuids hmem).1 List.mem_cons_self, ih _⟩
        case isFalse => exact List.nodup_nil

/-- The elements before the first one that satisfies a condition determine where it is. -/
private theorem findIdx?_eq_of_mem_takeWhile {l : List String} {p q : String → Bool} (h : l.Nodup)
    (hmem : ∀ a, a ∈ (l.takeWhile fun a => !p a) ↔ a ∈ l.takeWhile fun a => !q a) :
    l.findIdx? p = l.findIdx? q := by
  induction l with
  | nil => rfl
  | cons a l ih =>
    obtain ⟨ha, hl⟩ := List.nodup_cons.mp h
    have hfirst := hmem a
    rw [List.findIdx?_cons, List.findIdx?_cons]
    cases hp : p a <;> cases hq : q a
    case true.true => rfl
    case true.false => simp [hp, hq] at hfirst
    case false.true => simp [hp, hq] at hfirst
    case false.false =>
      simp only [Bool.false_eq_true, if_false]
      refine congrArg _ (ih hl fun b => ?_)
      have hrest := hmem b
      simp only [List.takeWhile_cons, hp, hq, Bool.not_false, if_true, List.mem_cons] at hrest
      -- The head does not occur again.
      constructor
      · intro hb
        have hne : b ≠ a := fun heq => ha (heq ▸ (List.takeWhile_sublist _).subset hb)
        exact (hrest.mp (Or.inr hb)).resolve_left hne
      · intro hb
        have hne : b ≠ a := fun heq => ha (heq ▸ (List.takeWhile_sublist _).subset hb)
        exact (hrest.mpr (Or.inr hb)).resolve_left hne

/-- The sweep does the same for the tenant in both tables. -/
private theorem SameFor.sweep (hloaded : SameFor tenantId loaded loaded')
    (h : SameFor tenantId db db') (listed : List (String × Payload)) :
    SameFor tenantId (sweepUnlisted tenantId loaded db listed)
      (sweepUnlisted tenantId loaded' db' listed) := by
  refine ⟨h.tenants, h.next, ?_⟩
  have hknown : ∀ id (p : OPNsenseFirewallRule → Bool),
      (loaded'.rules.get? id).any (fun known => known.tenantId = tenantId && p known) =
        (loaded.rules.get? id).any (fun known => known.tenantId = tenantId && p known) := by
    intro id p
    rw [Bool.eq_iff_iff, Option.any_eq_true, Option.any_eq_true]
    constructor
    · rintro ⟨known, hget, hfits⟩
      have htenant := of_decide_eq_true (Bool.and_eq_true_iff.mp hfits).1
      exact ⟨known, (hloaded.get?_iff htenant).mp hget, hfits⟩
    · rintro ⟨known, hget, hfits⟩
      have htenant := of_decide_eq_true (Bool.and_eq_true_iff.mp hfits).1
      exact ⟨known, (hloaded.get?_iff htenant).mpr hget, hfits⟩
  ext1 id
  have hrules := congrFun h.rules id
  rw [FirewallDb.rulesOf, FirewallDb.rulesOf] at hrules ⊢
  simp only [sweepUnlisted, FirewallDb.deleteWhere, Serial.rowsWhere_deleteWhere, hrules, hknown]

/-- The sweep leaves the listed rules of the tenant. -/
private theorem owns_sweep_iff (h : Visited tenantId loaded seen db)
    {listed : List (String × Payload)} (hlisted : (List.lookup uuid listed).isSome = true) :
    Owns (sweepUnlisted tenantId loaded db listed) tenantId uuid ↔ Owns db tenantId uuid := by
  constructor
  · rintro ⟨id, rule, hget, hrule⟩
    rw [sweepUnlisted, FirewallDb.deleteWhere, Serial.get?_deleteWhere] at hget
    exact ⟨id, rule, (Option.filter_eq_some_iff.mp hget).1, hrule⟩
  · rintro ⟨id, rule, hget, hrule⟩
    refine ⟨id, rule, ?_, hrule⟩
    rw [sweepUnlisted, FirewallDb.deleteWhere, Serial.get?_deleteWhere, hget, Option.filter_some,
      if_pos]
    by_contra hdeleted
    simp only [Bool.not_eq_true', Bool.not_eq_false, Bool.and_eq_true, Option.any_eq_true,
      decide_eq_true_eq, Option.isNone_iff_eq_none] at hdeleted
    obtain ⟨⟨known, hknown, hin, hunlisted⟩, -⟩ := hdeleted
    -- The row had its uuid already when it was loaded.
    obtain ⟨rule', hrule', -, heq⟩ := h.kept id known hknown hin
    obtain rfl := Option.some.inj (hget.symm.trans hrule')
    rw [← heq, hrule.2] at hunlisted
    rw [hunlisted] at hlisted
    cases hlisted

/-- What a synchronisation leaves of a new rule. -/
private theorem owns_syncListed_iff {listed : List (String × Payload)}
    (hnew : uuid ∈ newUuids db tenantId [] listed) :
    Owns (syncListed db tenantId listed).db tenantId uuid ↔
      uuid ∈ (newUuids db tenantId [] listed).takeWhile fun uuid =>
        !heldElsewhere db tenantId uuid := by
  obtain ⟨-, hown, hlisted⟩ := of_mem_newUuids hnew
  have hvisited := visitAll_visited (Visited.refl : Visited tenantId db [] db) listed
  have howns : Owns (syncListed db tenantId listed).db tenantId uuid ↔
      Owns (visitAll tenantId db db listed).db tenantId uuid := by
    unfold syncListed
    dsimp only
    split
    case isTrue => exact owns_sweep_iff hvisited hlisted
    case isFalse => exact Iff.rfl
  rw [howns, hvisited.owns, List.append_nil, List.mem_reverse]
  exact or_iff_right hown

/-- The rules of a tenant determine which uuids they have. -/
private theorem owns_iff_of_rulesOf (h : db'.rulesOf tenantId = db.rulesOf tenantId) :
    Owns db' tenantId uuid ↔ Owns db tenantId uuid := by
  have hrow : ∀ {db db' : FirewallDb}, db'.rulesOf tenantId = db.rulesOf tenantId →
      Owns db' tenantId uuid → Owns db tenantId uuid := by
    rintro db db' hrules ⟨id, rule, hget, htenant, huuid⟩
    have hrule := rulesOf_eq_some_iff.mpr ⟨hget, htenant⟩
    rw [hrules] at hrule
    exact ⟨id, rule, (rulesOf_eq_some_iff.mp hrule).1, htenant, huuid⟩
  exact ⟨hrow h, hrow h.symm⟩

/-- Synchronisations have the same outcome exactly when their first conflict is the same. -/
private theorem syncListed_same_iff (h : SameFor tenantId db db')
    (listed : List (String × Payload)) :
    ((syncListed db' tenantId listed).succeeds = (syncListed db tenantId listed).succeeds ∧
      (syncListed db' tenantId listed).db.rulesOf tenantId =
        (syncListed db tenantId listed).db.rulesOf tenantId) ↔
    (newUuids db' tenantId [] listed).findIdx? (heldElsewhere db' tenantId) =
      (newUuids db tenantId [] listed).findIdx? (heldElsewhere db tenantId) := by
  constructor
  · rintro ⟨-, hrules⟩
    rw [h.newUuids_eq]
    refine findIdx?_eq_of_mem_takeWhile (nodup_newUuids db tenantId [] listed) fun uuid => ?_
    by_cases hnew : uuid ∈ newUuids db tenantId [] listed
    · have hnew' : uuid ∈ newUuids db' tenantId [] listed := by
        rw [h.newUuids_eq]
        exact hnew
      have howns' := owns_syncListed_iff hnew'
      rw [h.newUuids_eq] at howns'
      rw [← howns', ← owns_syncListed_iff hnew, owns_iff_of_rulesOf hrules]
    · constructor
      · exact fun hmem => absurd ((List.takeWhile_sublist _).subset hmem) hnew
      · exact fun hmem => absurd ((List.takeWhile_sublist _).subset hmem) hnew
  · intro hstop
    rw [h.newUuids_eq] at hstop
    obtain ⟨hsucceeds, hsame⟩ := visitAll_same h h Visited.refl Visited.refl listed hstop.symm
    unfold syncListed
    dsimp only
    rw [hsucceeds]
    split
    case isTrue => exact ⟨rfl, (h.sweep hsame listed).rules⟩
    case isFalse => exact ⟨hsucceeds, hsame.rules⟩

end Sync

/-! ## Reconciliation -/

section Reconcile

variable {tenantId : ℕ} {db db' : FirewallDb}

/-- The rows can be inserted if they fit, and their uuids are different and not in use. -/
private theorem validRules_addAll_iff {tenants : List ℕ} {stored : Serial OPNsenseFirewallRule}
    (hvalid : ValidRules tenants stored) (rules : List OPNsenseFirewallRule) :
    ValidRules tenants (rules.foldl Serial.add stored) ↔
      ((rules.map (·.uuid)).Nodup ∧ ∀ rule ∈ rules, rule.fits tenants = true) ∧
      ∀ rule ∈ rules, ∀ id other, stored.get? id = some other → other.uuid ≠ rule.uuid := by
  induction rules generalizing stored with
  | nil => simpa using hvalid
  | cons rule rules ih =>
    have hadd := @validRules_add_iff ⟨tenants, stored, hvalid⟩ rule
    dsimp only at hadd
    rw [List.foldl_cons, List.map_cons, List.nodup_cons]
    constructor
    · intro hall
      have hfirst : ValidRules tenants (stored.add rule) := by
        rw [validRules_iff] at hall ⊢
        refine ⟨fun i j other other' hi hj heq => ?_, fun i other hi => ?_⟩
        · exact hall.1 i j other other' (Serial.get?_foldl_add_of_get? hi rules)
            (Serial.get?_foldl_add_of_get? hj rules) heq
        · exact hall.2 i other (Serial.get?_foldl_add_of_get? hi rules)
      obtain ⟨hfits, hunheld⟩ := hadd.mp hfirst
      obtain ⟨⟨hnodup, hallFit⟩, hrest⟩ := (ih hfirst).mp hall
      have hnext : (stored.add rule).get? stored.next = some rule := by
        rw [Serial.get?_add, if_pos rfl]
      refine ⟨⟨⟨fun hmem => ?_, hnodup⟩, List.forall_mem_cons.mpr ⟨hfits, hallFit⟩⟩,
        List.forall_mem_cons.mpr ⟨hunheld, fun other hmem id row hget => ?_⟩⟩
      · obtain ⟨other, hother, heq⟩ := List.mem_map.mp hmem
        exact hrest other hother stored.next rule hnext heq.symm
      · refine hrest other hmem id row ?_
        rw [Serial.get?_add, if_neg (Nat.ne_of_lt (Serial.bound_of_get? hget).2), hget]
    · rintro ⟨⟨⟨hnotMem, hnodup⟩, hallFit⟩, hunheld⟩
      obtain ⟨hfits, hallFit⟩ := List.forall_mem_cons.mp hallFit
      obtain ⟨hruleUnheld, hunheld⟩ := List.forall_mem_cons.mp hunheld
      refine (ih (hadd.mpr ⟨hfits, hruleUnheld⟩)).mpr ⟨⟨hnodup, hallFit⟩, ?_⟩
      intro other hmem id row hget
      rw [Serial.get?_add] at hget
      split at hget
      case isTrue =>
        obtain rfl := Option.some.inj hget
        exact fun heq => hnotMem (List.mem_map.mpr ⟨other, hmem, heq.symm⟩)
      case isFalse => exact hunheld other hmem id row hget

/-- The insertions do the same for the tenant in both tables. -/
private theorem rowsWhere_addAll {p : OPNsenseFirewallRule → Bool}
    {stored stored' : Serial OPNsenseFirewallRule} (hnext : stored'.next = stored.next)
    (hrows : stored'.rowsWhere p = stored.rowsWhere p) (rules : List OPNsenseFirewallRule)
    (hp : ∀ rule ∈ rules, p rule = true) :
    (rules.foldl Serial.add stored').rowsWhere p = (rules.foldl Serial.add stored).rowsWhere p := by
  induction rules generalizing stored stored' with
  | nil => exact hrows
  | cons rule rules ih =>
    refine ih (congrArg (· + 1) hnext) ?_ fun other hmem => hp other (List.mem_cons_of_mem _ hmem)
    have hrule := hp rule List.mem_cons_self
    ext1 k
    rw [Serial.rowsWhere_add hrule, Serial.rowsWhere_add hrule, hnext, hrows]

/-- The rows for listed rules are rows of the tenant. -/
theorem tenantId_of_mem_listedRules {sorted : List (String × Payload)}
    {rule : OPNsenseFirewallRule} (h : rule ∈ listedRules tenantId sorted) :
    rule.tenantId = tenantId := by
  obtain ⟨entry, -, rfl⟩ := List.mem_map.mp h
  rfl

/-- The rules for a listing that is well formed. -/
def storableRules (db : FirewallDb) (tenantId : ℕ) (listed : List (String × Payload)) :
    Option (List OPNsenseFirewallRule) :=
  ((sortListed listed).map (listedRules tenantId)).filter fun rules =>
    (rules.map (·.uuid)).Nodup ∧ ∀ rule ∈ rules, rule.fits db.tenants = true

/-- The uuids of a well-formed listing. -/
private theorem allUuids_eq (listed : List (String × Payload)) : allUuids db tenantId listed =
    ((storableRules db tenantId listed).map fun rules => rules.map (·.uuid)).getD [] := by
  unfold allUuids storableRules
  cases sortListed listed with
  | none => rfl
  | some sorted =>
    rw [Option.map_some, Option.filter_some]
    simp only [decide_eq_true_eq]
    split <;> rfl

/-- The rows of other tenants are what is left when those of a tenant are deleted. -/
private theorem unheld_cleared_iff {rules : List OPNsenseFirewallRule} :
    (∀ rule ∈ rules, ∀ id other,
      (db.deleteWhere fun _ rule => rule.tenantId = tenantId).rules.get? id = some other →
        other.uuid ≠ rule.uuid) ↔
    (rules.map (·.uuid)).any (heldElsewhere db tenantId) = false := by
  have hcleared : ∀ id other,
      (db.deleteWhere fun _ rule => rule.tenantId = tenantId).rules.get? id = some other ↔
        db.rules.get? id = some other ∧ other.tenantId ≠ tenantId := by
    intro id other
    rw [FirewallDb.deleteWhere, Serial.get?_deleteWhere, Option.filter_eq_some_iff]
    simp
  rw [List.any_eq_false]
  simp only [List.forall_mem_map, heldElsewhere_iff, hcleared, not_exists, not_and]
  constructor
  · exact fun h rule hmem id other hget hother heq => h rule hmem id other ⟨hget, hother⟩ heq
  · exact fun h rule hmem id other hboth heq => h rule hmem id other hboth.1 hboth.2 heq

/-- A reconciliation of a well-formed listing without a conflict replaces the rules. -/
theorem reconcileListed_of_storable {listed : List (String × Payload)}
    {rules : List OPNsenseFirewallRule} (hrules : storableRules db tenantId listed = some rules)
    (hfree : (rules.map (·.uuid)).any (heldElsewhere db tenantId) = false) :
    (reconcileListed db tenantId listed).succeeds = true ∧
      (reconcileListed db tenantId listed).db.rules = rules.foldl Serial.add
        (db.deleteWhere fun _ rule => rule.tenantId = tenantId).rules := by
  obtain ⟨hsorted, hstorable⟩ := Option.filter_eq_some_iff.mp hrules
  obtain ⟨sorted, hsort, rfl⟩ := Option.map_eq_some_iff.mp hsorted
  have hvalid := (validRules_addAll_iff
    (db.deleteWhere fun _ rule => rule.tenantId = tenantId).valid
    (listedRules tenantId sorted)).mpr ⟨of_decide_eq_true hstorable, unheld_cleared_iff.mpr hfree⟩
  unfold reconcileListed
  dsimp only
  rw [hsort, Option.bind_some, FirewallDb.save?_of_valid hvalid]
  exact ⟨rfl, rfl⟩

/-- A reconciliation of a malformed listing, or one with a conflict, leaves no rules. -/
theorem reconcileListed_of_conflict {listed : List (String × Payload)}
    (hconflict : ∀ rules, storableRules db tenantId listed = some rules →
      (rules.map (·.uuid)).any (heldElsewhere db tenantId) = true) :
    (reconcileListed db tenantId listed).succeeds = false ∧
      (reconcileListed db tenantId listed).db =
        db.deleteWhere fun _ rule => rule.tenantId = tenantId := by
  have hnone : ((sortListed listed).bind fun sorted =>
      (db.deleteWhere fun _ rule => rule.tenantId = tenantId).save?
        ((listedRules tenantId sorted).foldl Serial.add
          (db.deleteWhere fun _ rule => rule.tenantId = tenantId).rules)) = none := by
    cases hsort : sortListed listed with
    | none => rfl
    | some sorted =>
      refine FirewallDb.save?_of_not_valid fun hvalid => ?_
      obtain ⟨hstorable, hunheld⟩ := (validRules_addAll_iff
        (db.deleteWhere fun _ rule => rule.tenantId = tenantId).valid _).mp hvalid
      have hrules : storableRules db tenantId listed = some (listedRules tenantId sorted) := by
        rw [storableRules, hsort, Option.map_some, Option.filter_some, if_pos]
        exact decide_eq_true hstorable
      have hheld := hconflict _ hrules
      rw [unheld_cleared_iff.mp hunheld] at hheld
      cases hheld
  unfold reconcileListed
  dsimp only
  rw [hnone]
  exact ⟨rfl, rfl⟩

/-- Without the rows of a tenant, the tenant has none. -/
theorem rulesOf_cleared :
    (db.deleteWhere fun _ rule => rule.tenantId = tenantId).rulesOf tenantId = fun _ => none := by
  ext1 id
  rw [FirewallDb.rulesOf, FirewallDb.deleteWhere, Serial.rowsWhere_deleteWhere,
    Serial.rowsWhere, Option.filter_filter, Option.filter_eq_none_iff]
  intro rule _
  simp

/-- Reconciliations have the same outcome exactly when both or none of them have a conflict. -/
private theorem reconcileListed_same_iff (h : SameFor tenantId db db')
    (listed : List (String × Payload)) :
    ((reconcileListed db' tenantId listed).succeeds = (reconcileListed db tenantId listed).succeeds ∧
      (reconcileListed db' tenantId listed).db.rulesOf tenantId =
        (reconcileListed db tenantId listed).db.rulesOf tenantId) ↔
    (allUuids db' tenantId listed).any (heldElsewhere db' tenantId) =
      (allUuids db tenantId listed).any (heldElsewhere db tenantId) := by
  have hstorable : storableRules db' tenantId listed = storableRules db tenantId listed := by
    rw [storableRules, storableRules, h.tenants]
  rw [allUuids_eq, allUuids_eq, hstorable]
  cases hrules : storableRules db tenantId listed with
  -- some listed rule cannot be stored, whatever other tenants have
  | none =>
    have hfails : ∀ db : FirewallDb, storableRules db tenantId listed = none →
        (reconcileListed db tenantId listed).succeeds = false ∧
          (reconcileListed db tenantId listed).db =
            db.deleteWhere fun _ rule => rule.tenantId = tenantId := by
      intro db hnone
      refine reconcileListed_of_conflict fun rules hsome => ?_
      rw [hnone] at hsome
      cases hsome
    obtain ⟨hfail, hdb⟩ := hfails db hrules
    obtain ⟨hfail', hdb'⟩ := hfails db' (hstorable.trans hrules)
    rw [hfail, hfail', hdb, hdb', rulesOf_cleared, rulesOf_cleared]
    exact ⟨fun _ => rfl, fun _ => ⟨rfl, rfl⟩⟩
  | some rules =>
    rw [Option.map_some, Option.getD_some]
    have hrules' := hstorable.trans hrules
    have hconflicts : ∀ {db : FirewallDb}, storableRules db tenantId listed = some rules →
        (rules.map (·.uuid)).any (heldElsewhere db tenantId) = true →
        ∀ rules, storableRules db tenantId listed = some rules →
          (rules.map (·.uuid)).any (heldElsewhere db tenantId) = true := by
      intro db hrules hheld other hother
      exact Option.some.inj (hrules.symm.trans hother) ▸ hheld
    cases hheld : (rules.map (·.uuid)).any (heldElsewhere db tenantId) <;>
      cases hheld' : (rules.map (·.uuid)).any (heldElsewhere db' tenantId)
    case false.false =>
      obtain ⟨hsucceeds, hdb⟩ := reconcileListed_of_storable hrules hheld
      obtain ⟨hsucceeds', hdb'⟩ := reconcileListed_of_storable hrules' hheld'
      -- no conflict: the same rules are inserted after the same deletion
      refine iff_of_true ⟨hsucceeds'.trans hsucceeds.symm, ?_⟩ rfl
      rw [FirewallDb.rulesOf, FirewallDb.rulesOf, hdb, hdb']
      refine rowsWhere_addAll ?_ ?_ rules ?_
      · exact h.next
      · exact rulesOf_cleared.trans rulesOf_cleared.symm
      · obtain ⟨sorted, -, rfl⟩ :=
          Option.map_eq_some_iff.mp (Option.filter_eq_some_iff.mp hrules).1
        exact fun rule hmem => decide_eq_true (tenantId_of_mem_listedRules hmem)
    case true.true =>
      obtain ⟨hfails, hdb⟩ := reconcileListed_of_conflict (hconflicts hrules hheld)
      obtain ⟨hfails', hdb'⟩ := reconcileListed_of_conflict (hconflicts hrules' hheld')
      rw [hfails, hfails', hdb, hdb', rulesOf_cleared, rulesOf_cleared]
      exact iff_of_true ⟨rfl, rfl⟩ rfl
    case false.true =>
      obtain ⟨hsucceeds, -⟩ := reconcileListed_of_storable hrules hheld
      obtain ⟨hfails', -⟩ := reconcileListed_of_conflict (hconflicts hrules' hheld')
      -- one of the two succeeds
      rw [hsucceeds, hfails']
      exact iff_of_false (fun hsame => Bool.false_ne_true hsame.1) (Bool.false_ne_true ·.symm)
    case true.false =>
      obtain ⟨hfails, -⟩ := reconcileListed_of_conflict (hconflicts hrules hheld)
      obtain ⟨hsucceeds', -⟩ := reconcileListed_of_storable hrules' hheld'
      rw [hfails, hsucceeds']
      exact iff_of_false (fun hsame => Bool.false_ne_true hsame.1.symm) Bool.false_ne_true

end Reconcile

/-! ## The two tasks -/

/-- Without the rules of another tenant, a table is the same for the tenant. -/
theorem sameFor_deleteWhere {tenantId other : ℕ} (db : FirewallDb) (h : other ≠ tenantId) :
    SameFor tenantId db (db.deleteWhere fun _ rule => rule.tenantId = other) := by
  refine ⟨rfl, rfl, Serial.rowsWhere_deleteWhere_of_not fun _ rule _ hdeleted => ?_⟩
  rw [of_decide_eq_true hdeleted]
  exact decide_eq_false h

/-- Two tenants, of which the second one has a rule. -/
def sharedTable : FirewallDb where
  tenants := [1, 2]
  rules := Serial.empty.add (listedRule 2 "0a1b" (contentAt [] 0))
  valid := by decide +kernel

end ProxmoxIaas
