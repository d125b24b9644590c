import ProxmoxIaas.Firewall.TenantCoupling
import ProxmoxIaas.Foundation.Result

/-!
# Pulling Rules with the Audit Log

The synchronisation with its entries in the audit log and the numbers that it reports. Every change
of a rule is committed together with its entry, whose name contains the description of the rule. The
column of the name is shorter than what it may have to take: then the commit raises, both are rolled
back, and the exception is only logged.

The runs of `TenantCoupling` are those in which every entry fits.

## Main results

- `Pulled.visits`: what the visits of the listed rules leave of the table, up to the first error.
- `pullRules_of_none`, `pullRules_of_error`: what the synchronisation leaves of the table.
-/

namespace ProxmoxIaas

/-- What a synchronisation reports. -/
structure SyncReport where
  /-- Rules that were inserted. -/
  added : ℕ
  /-- Rules that were overwritten. -/
  updated : ℕ
  /-- Rules that were deleted. -/
  deleted : ℕ
  deriving DecidableEq, Repr

/-- The name of a rule in the audit log. -/
def auditName (content : RuleContent) : String :=
  "OPNsense Rule: " ++ (content.text .description).getD "None"

/-- Whether an entry about a rule fits into the audit log. -/
def auditable (content : RuleContent) : Bool := (auditName content).toList.length ≤ 255

/-- A synchronisation between two of its steps. -/
structure SyncProgress where
  /-- The committed table. -/
  db : FirewallDb
  /-- What was counted so far. -/
  report : SyncReport

/-- A rule that is overwritten with what is listed. -/
def OPNsenseFirewallRule.overwrite (content : RuleContent) (rule : OPNsenseFirewallRule) :
    OPNsenseFirewallRule :=
  { rule with content, applyStatus := .synced, applyError := none }

/-- `log_audit_event` about a rule: it commits what the session has written. -/
def FirewallDb.commitAudited (db : FirewallDb) (content : RuleContent)
    (rules : Serial OPNsenseFirewallRule) : FirewallDb :=
  if auditable content then (db.save? rules).getD db else db

/-- The visit of a listed rule. An exception leaves the table that was committed before. -/
def visitRule (tenantId : ℕ) (loaded : FirewallDb) (progress : SyncProgress)
    (entry : String × Payload) : Except FirewallDb SyncProgress := do
  let { db, report } := progress
  let (uuid, payload) := entry
  let content ← Except.ofOption db (decodeRule payload)
  match findRule loaded tenantId uuid with
  | some (id, _) =>
    let rule ← Except.ofOption db (db.rules.get? id)
    if rule.applyStatus ≠ .synced ∨ rule.content = content then return progress
    else
      return {
        db := db.commitAudited content (db.rules.modify id (·.overwrite content))
        report := { report with updated := report.updated + 1 } }
  | none =>
    -- The row is flushed, which raises if it violates a constraint.
    let inserted ← Except.ofOption db (db.save? (db.rules.add (listedRule tenantId uuid content)))
    return {
      db := if auditable content then inserted else db
      report := { report with added := report.added + 1 } }

/-- The visits of the listed rules, in their order. -/
def visitRules (tenantId : ℕ) (loaded : FirewallDb) (progress : SyncProgress)
    (listed : List (String × Payload)) : Except FirewallDb SyncProgress :=
  listed.foldlM (visitRule tenantId loaded) progress

/-- A rule that was loaded is deleted if it is synced and not listed. -/
def sweepRule (listed : List (String × Payload)) (progress : SyncProgress)
    (known : ℕ × OPNsenseFirewallRule) : SyncProgress :=
  match progress.db.rules.get? known.1 with
  | some rule =>
    if (List.lookup known.2.uuid listed).isSome ∨ rule.applyStatus ≠ .synced then progress
    else {
      db := progress.db.commitAudited rule.content
        (progress.db.rules.deleteWhere fun id _ => id = known.1)
      report := { progress.report with deleted := progress.report.deleted + 1 } }
  | none => progress

/-- `sync_firewall_rules_task` on the rules that are listed: what it reports and the table that it
leaves, or the table that an exception leaves. -/
def pullRules (db : FirewallDb) (tenantId : ℕ) (listed : List (String × Payload)) :
    Except FirewallDb SyncProgress := do
  let visited ← visitRules tenantId db ⟨db, ⟨0, 0, 0⟩⟩ listed
  return (db.rules.select fun _ rule => rule.tenantId = tenantId).foldl (sweepRule listed) visited

/-- The table that a synchronisation leaves. -/
def pulledDb (db : FirewallDb) (tenantId : ℕ) (listed : List (String × Payload)) : FirewallDb :=
  match pullRules db tenantId listed with
  | .ok progress => progress.db
  | .error db => db

/-- A table without rules. -/
def emptyTable : FirewallDb where
  tenants := [1]
  rules := .empty
  valid := by decide +kernel

/-! ## What the visits leave -/

/-- A row after the visit of its rule. -/
def OPNsenseFirewallRule.pull (tenants : List ℕ) (payload : Payload) (rule : OPNsenseFirewallRule) :
    OPNsenseFirewallRule :=
  match decodeRule payload with
  | some content =>
    if rule.applyStatus = .synced ∧ auditable content = true ∧
        (rule.overwrite content).fits tenants = true ∧ rule.content ≠ content then
      rule.overwrite content
    else rule
  | none => rule

/-- A row of the tenant after the visits of some listed rules. -/
def OPNsenseFirewallRule.pullAll (tenants : List ℕ) (done : List (String × Payload))
    (rule : OPNsenseFirewallRule) : OPNsenseFirewallRule :=
  done.foldl (fun row entry => if entry.1 = rule.uuid then row.pull tenants entry.2 else row) rule

/-- What the visits of some listed rules have left of the table that was loaded. The rules `seen`
were inserted. -/
structure Pulled (tenantId : ℕ) (loaded : FirewallDb) (done : List (String × Payload))
    (seen : List String) (db : FirewallDb) : Prop where
  /-- The same tenants. -/
  tenants : db.tenants = loaded.tenants
  /-- The rows that were loaded. -/
  known : ∀ id rule, loaded.rules.get? id = some rule → db.rules.get? id =
    some (if rule.tenantId = tenantId then rule.pullAll loaded.tenants done else rule)
  /-- The rows that were inserted. -/
  new : ∀ id rule, db.rules.get? id = some rule → loaded.rules.get? id = none →
    findRule loaded tenantId rule.uuid = none ∧ rule.uuid ∈ seen ∧
      ∃ payload content, (rule.uuid, payload) ∈ done ∧ decodeRule payload = some content ∧
        auditable content = true ∧ rule = listedRule tenantId rule.uuid content
  /-- Every listed rule that is new was inserted, if its entry fits into the audit log. -/
  inserted : ∀ uuid payload content, (uuid, payload) ∈ done → decodeRule payload = some content →
    findRule loaded tenantId uuid = none → auditable content = true →
      ∃ id, db.rules.get? id = some (listedRule tenantId uuid content)
  /-- The rules `seen` are stored. -/
  stored : ∀ uuid ∈ seen, ∃ id rule, db.rules.get? id = some rule ∧ rule.tenantId = tenantId ∧
    rule.uuid = uuid

section Visits

variable {tenantId : ℕ} {loaded db : FirewallDb} {done : List (String × Payload)}
  {seen : List String} {uuid : String} {payload : Payload} {content : RuleContent}
  {report : SyncReport}

@[simp]
theorem OPNsenseFirewallRule.overwrite_uuid (content : RuleContent) (rule : OPNsenseFirewallRule) :
    (rule.overwrite content).uuid = rule.uuid := rfl

@[simp]
theorem OPNsenseFirewallRule.overwrite_tenantId (content : RuleContent)
    (rule : OPNsenseFirewallRule) : (rule.overwrite content).tenantId = rule.tenantId := rfl

/-- A visit changes neither the uuid nor the tenant of a row. -/
theorem OPNsenseFirewallRule.pull_frame (tenants : List ℕ) (payload : Payload)
    (rule : OPNsenseFirewallRule) :
    (rule.pull tenants payload).uuid = rule.uuid ∧
      (rule.pull tenants payload).tenantId = rule.tenantId := by
  unfold pull
  split
  · split <;> exact ⟨rfl, rfl⟩
  · exact ⟨rfl, rfl⟩

/-- The visits change neither the uuid nor the tenant of a row. -/
theorem OPNsenseFirewallRule.pullAll_frame (tenants : List ℕ) (done : List (String × Payload))
    (rule : OPNsenseFirewallRule) :
    (rule.pullAll tenants done).uuid = rule.uuid ∧
      (rule.pullAll tenants done).tenantId = rule.tenantId := by
  have hfold : ∀ row : OPNsenseFirewallRule, row.uuid = rule.uuid ∧ row.tenantId = rule.tenantId →
      (done.foldl (fun row entry =>
        if entry.1 = rule.uuid then row.pull tenants entry.2 else row) row).uuid = rule.uuid ∧
      (done.foldl (fun row entry =>
        if entry.1 = rule.uuid then row.pull tenants entry.2 else row) row).tenantId =
          rule.tenantId := by
    induction done with
    | nil => exact fun row h => h
    | cons entry done ih =>
      intro row h
      refine ih _ ?_
      dsimp only
      split
      · obtain ⟨huuid, htenant⟩ := row.pull_frame tenants entry.2
        exact ⟨huuid.trans h.1, htenant.trans h.2⟩
      · exact h
  exact hfold rule ⟨rfl, rfl⟩

/-- One more visit. -/
theorem OPNsenseFirewallRule.pullAll_append (tenants : List ℕ) (done : List (String × Payload))
    (entry : String × Payload) (rule : OPNsenseFirewallRule) :
    rule.pullAll tenants (done ++ [entry]) =
      if entry.1 = rule.uuid then (rule.pullAll tenants done).pull tenants entry.2
      else rule.pullAll tenants done := by
  unfold pullAll
  rw [List.foldl_append]
  rfl

/-- Before the visits. -/
theorem Pulled.refl (tenantId : ℕ) (db : FirewallDb) : Pulled tenantId db [] [] db where
  tenants := rfl
  known _ rule hget := by
    rw [hget]
    split <;> rfl
  new _ _ hget hnone := by cases hget.symm.trans hnone
  inserted _ _ _ hmem := by cases hmem
  stored _ hmem := by cases hmem

/-- What the commit of an overwritten row leaves of every row. -/
theorem get?_commitAudited {id : ℕ} {rule : OPNsenseFirewallRule}
    (hget : db.rules.get? id = some rule) (content : RuleContent) :
    (db.commitAudited content (db.rules.modify id (·.overwrite content))).tenants = db.tenants ∧
      ∀ id', (db.commitAudited content (db.rules.modify id (·.overwrite content))).rules.get? id' =
        if id' = id then some (if auditable content = true ∧
          (rule.overwrite content).fits db.tenants = true then rule.overwrite content else rule)
        else db.rules.get? id' := by
  have hvalid := @validRules_modify_iff db id rule (·.overwrite content) hget fun _ => rfl
  by_cases hcommits : auditable content = true ∧ (rule.overwrite content).fits db.tenants = true
  · obtain ⟨haudit, hfits⟩ := hcommits
    rw [FirewallDb.commitAudited, if_pos haudit, FirewallDb.save?_of_valid (hvalid.mpr hfits),
      Option.getD_some]
    refine ⟨rfl, fun id' => ?_⟩
    show (db.rules.modify id _).get? id' = _
    rw [Serial.get?_modify]
    by_cases heq : id' = id
    · rw [if_pos heq, if_pos heq, if_pos ⟨haudit, hfits⟩, heq, hget, Option.map_some]
    · rw [if_neg heq, if_neg heq]
  · -- The row stays if the entry does not fit, and if the row does not.
    have hsame : db.commitAudited content (db.rules.modify id (·.overwrite content)) = db := by
      unfold FirewallDb.commitAudited
      split
      case isTrue haudit =>
        have hfits : ¬ (rule.overwrite content).fits db.tenants = true := fun h => hcommits ⟨haudit, h⟩
        rw [FirewallDb.save?_of_not_valid (mt hvalid.mp hfits), Option.getD_none]
      case isFalse => rfl
    rw [hsame]
    refine ⟨rfl, fun id' => ?_⟩
    by_cases heq : id' = id
    · rw [if_pos heq, if_neg hcommits, heq, hget]
    · rw [if_neg heq]

/-- The visit of a rule that the tenant has. -/
theorem Pulled.visit_known (h : Pulled tenantId loaded done seen db) (report : SyncReport)
    (hdecode : decodeRule payload = some content)
    (hknown : (findRule loaded tenantId uuid).isSome = true) :
    ∃ progress, visitRule tenantId loaded ⟨db, report⟩ (uuid, payload) = .ok progress ∧
      Pulled tenantId loaded (done ++ [(uuid, payload)]) seen progress.db := by
  obtain ⟨⟨id, known⟩, hfound⟩ := Option.isSome_iff_exists.mp hknown
  obtain ⟨hget, htenant, huuid⟩ := findRule_eq_some_iff.mp hfound
  have hrow := h.known id known hget
  rw [if_pos htenant] at hrow
  -- Rows of the tenant with another uuid are not visited.
  have hextend : ∀ {db' : FirewallDb}, db'.tenants = db.tenants → (∀ id', db'.rules.get? id' =
      if id' = id then some (known.pullAll loaded.tenants (done ++ [(uuid, payload)]))
      else db.rules.get? id') →
      Pulled tenantId loaded (done ++ [(uuid, payload)]) seen db' := by
    intro db' htenants hrules
    have hother : ∀ id', id' ≠ id → db'.rules.get? id' = db.rules.get? id' := fun id' hne => by
      rw [hrules, if_neg hne]
    have hnew : ∀ id' rule', db.rules.get? id' = some rule' → findRule loaded tenantId rule'.uuid = none →
        id' ≠ id := by
      rintro id' rule' hget' hnone rfl
      obtain rfl := Option.some.inj (hrow.symm.trans hget')
      rw [(known.pullAll_frame _ _).1, huuid, hfound] at hnone
      cases hnone
    refine ⟨htenants.trans h.tenants, fun id' rule hget' => ?_, fun id' rule hget' hnone => ?_,
      fun uuid' payload' content' hmem hdecode' hnone haudit => ?_, fun uuid' hmem => ?_⟩
    · rw [hrules]
      split
      case isTrue heq =>
        rw [heq, hget] at hget'
        obtain rfl := Option.some.inj hget'
        rw [if_pos htenant]
      case isFalse hne =>
        rw [h.known id' rule hget', rule.pullAll_append]
        congr 1
        split
        case isTrue htenant' =>
          rw [if_neg]
          intro heq
          exact hne (loaded.eq_of_uuid hget' hget (heq.symm.trans huuid.symm))
        case isFalse => rfl
    · have hne : id' ≠ id := by
        rintro rfl
        cases hget.symm.trans hnone
      obtain ⟨hfree, hseen, payload', content', hmem, hrest⟩ :=
        h.new id' rule (hother id' hne ▸ hget') hnone
      exact ⟨hfree, hseen, payload', content', List.mem_append_left _ hmem, hrest⟩
    · rcases List.mem_append.mp hmem with hmem | hmem
      · obtain ⟨id', hget'⟩ := h.inserted uuid' payload' content' hmem hdecode' hnone haudit
        exact ⟨id', (hother id' (hnew id' _ hget' hnone)).trans hget'⟩
      · obtain ⟨rfl, rfl⟩ := Prod.mk.inj (List.mem_singleton.mp hmem)
        cases hfound.symm.trans hnone
    · obtain ⟨id', rule, hget', htenant', heq⟩ := h.stored uuid' hmem
      by_cases hid : id' = id
      · subst hid
        obtain rfl := Option.some.inj (hrow.symm.trans hget')
        refine ⟨id', _, (hrules id').trans (if_pos rfl), ?_, ?_⟩
        · exact (known.pullAll_frame _ _).2.trans htenant
        · rw [(known.pullAll_frame _ _).1, ← heq, (known.pullAll_frame _ _).1]
      · exact ⟨id', rule, (hother id' hid).trans hget', htenant', heq⟩
  have hpull : known.pullAll loaded.tenants (done ++ [(uuid, payload)]) =
      (known.pullAll loaded.tenants done).pull loaded.tenants payload := by
    rw [known.pullAll_append, if_pos huuid.symm]
  rw [hpull] at hextend
  unfold visitRule
  simp only [hdecode, Except.ofOption, hfound, hrow, bind, Except.bind, pure, Except.pure]
  generalize known.pullAll loaded.tenants done = rule at hrow hextend
  have hvisit : rule.pull loaded.tenants payload = if rule.applyStatus = .synced ∧
      auditable content = true ∧ (rule.overwrite content).fits loaded.tenants = true ∧
      rule.content ≠ content then rule.overwrite content else rule := by
    unfold OPNsenseFirewallRule.pull
    rw [hdecode]
  rw [hvisit] at hextend
  split
  case isTrue hseen =>
    have hkept : ¬ (rule.applyStatus = .synced ∧ auditable content = true ∧
        (rule.overwrite content).fits loaded.tenants = true ∧ rule.content ≠ content) :=
      fun hpulled => hseen.elim (fun hnot => hnot hpulled.1) hpulled.2.2.2
    refine ⟨_, rfl, hextend rfl fun id' => ?_⟩
    by_cases heq : id' = id
    · rw [if_pos heq, if_neg hkept, heq, hrow]
    · rw [if_neg heq]
  case isFalse hchanged =>
    rw [not_or, not_not] at hchanged
    obtain ⟨htenants, hrules⟩ := get?_commitAudited hrow content
    refine ⟨_, rfl, hextend htenants fun id' => ?_⟩
    rw [hrules, h.tenants]
    simp only [hchanged.1, hchanged.2, ne_eq, not_false_eq_true, and_true, true_and]

/-- A uuid is free for a rule that is new to the tenant if neither a visit has inserted it nor
another tenant has it. -/
theorem Pulled.free_iff (h : Pulled tenantId loaded done seen db)
    (hnew : findRule loaded tenantId uuid = none) :
    (∀ id rule, db.rules.get? id = some rule → rule.uuid ≠ uuid) ↔
      uuid ∉ seen ∧ heldElsewhere loaded tenantId uuid = false := by
  constructor
  · intro hfree
    refine ⟨fun hseen => ?_, Bool.eq_false_iff.mpr fun hheld => ?_⟩
    · obtain ⟨id, rule, hget, -, huuid⟩ := h.stored uuid hseen
      exact hfree id rule hget huuid
    · obtain ⟨id, rule, hget, htenant, huuid⟩ := heldElsewhere_iff.mp hheld
      have hkept := h.known id rule hget
      rw [if_neg htenant] at hkept
      exact hfree id rule hkept huuid
  · rintro ⟨hseen, hheld⟩ id rule hget rfl
    cases hloaded : loaded.rules.get? id with
    | none => exact hseen (h.new id rule hget hloaded).2.1
    | some old =>
      have hkept := (h.known id old hloaded).symm.trans hget
      by_cases htenant : old.tenantId = tenantId
      · rw [if_pos htenant] at hkept
        have huuid : old.uuid = rule.uuid := by
          rw [← Option.some.inj hkept, (old.pullAll_frame _ _).1]
        rw [findRule_eq_some_iff.mpr ⟨hloaded, htenant, huuid⟩] at hnew
        cases hnew
      · rw [if_neg htenant] at hkept
        obtain rfl := Option.some.inj hkept
        exact Bool.false_ne_true (hheld.symm.trans (heldElsewhere_iff.mpr ⟨id, old, hloaded, htenant, rfl⟩))

/-- The visit of a rule that is new to the tenant. -/
theorem Pulled.visit_new (h : Pulled tenantId loaded done seen db) (report : SyncReport)
    (hdecode : decodeRule payload = some content) (hnew : findRule loaded tenantId uuid = none) :
    if uuid ∉ seen ∧ (listedRule tenantId uuid content).fits loaded.tenants = true ∧
        heldElsewhere loaded tenantId uuid = false then
      ∃ progress, visitRule tenantId loaded ⟨db, report⟩ (uuid, payload) = .ok progress ∧
        Pulled tenantId loaded (done ++ [(uuid, payload)])
          (if auditable content then uuid :: seen else seen) progress.db
    else visitRule tenantId loaded ⟨db, report⟩ (uuid, payload) = .error db := by
  -- the row can be inserted if it fits and its uuid is neither inserted before nor held elsewhere
  have hvalid : ValidRules db.tenants (db.rules.add (listedRule tenantId uuid content)) ↔
      uuid ∉ seen ∧ (listedRule tenantId uuid content).fits loaded.tenants = true ∧
        heldElsewhere loaded tenantId uuid = false := by
    rw [validRules_add_iff, h.tenants]
    refine (and_congr_right' (h.free_iff hnew)).trans ?_
    exact ⟨fun ⟨hfits, hseen, hheld⟩ => ⟨hseen, hfits, hheld⟩,
      fun ⟨hseen, hfits, hheld⟩ => ⟨hfits, hseen, hheld⟩⟩
  unfold visitRule
  simp only [hdecode, Except.ofOption, hnew, bind, Except.bind, pure, Except.pure]
  split
  case isTrue hstorable =>
    rw [FirewallDb.save?_of_valid (hvalid.mpr hstorable)]
    refine ⟨_, rfl, ?_⟩
    dsimp only
    -- no row of the tenant has the uuid
    have hknown : ∀ id rule, loaded.rules.get? id = some rule →
        rule.pullAll loaded.tenants (done ++ [(uuid, payload)]) = rule.pullAll loaded.tenants done ∨
          rule.tenantId ≠ tenantId := by
      intro id rule hget
      by_cases htenant : rule.tenantId = tenantId
      · left
        rw [rule.pullAll_append, if_neg]
        rintro rfl
        rw [findRule_eq_some_iff.mpr ⟨hget, htenant, rfl⟩] at hnew
        cases hnew
      · exact Or.inr htenant
    have hrow : ∀ id rule, loaded.rules.get? id = some rule → db.rules.get? id =
        some (if rule.tenantId = tenantId then rule.pullAll loaded.tenants (done ++ [(uuid, payload)])
          else rule) := by
      intro id rule hget
      rw [h.known id rule hget]
      rcases hknown id rule hget with heq | hne
      · rw [heq]
      · rw [if_neg hne, if_neg hne]
    cases haudit : auditable content with
    -- the row is inserted, but its audit record is refused, so that the insertion is rolled back
    | false =>
      simp only [Bool.false_eq_true, if_false]
      refine ⟨h.tenants, hrow, fun id rule hget hnone => ?_,
        fun uuid' payload' content' hmem hdecode' hnone haudit' => ?_, h.stored⟩
      · obtain ⟨hfree, hseen, payload', content', hmem, hrest⟩ := h.new id rule hget hnone
        exact ⟨hfree, hseen, payload', content', List.mem_append_left _ hmem, hrest⟩
      · rcases List.mem_append.mp hmem with hmem | hmem
        · exact h.inserted uuid' payload' content' hmem hdecode' hnone haudit'
        · obtain ⟨rfl, rfl⟩ := Prod.mk.inj (List.mem_singleton.mp hmem)
          obtain rfl := Option.some.inj (hdecode.symm.trans hdecode')
          cases haudit.symm.trans haudit'
    -- the row is kept
    | true =>
      simp only [if_true]
      have hold : ∀ id rule, db.rules.get? id = some rule →
          (db.rules.add (listedRule tenantId uuid content)).get? id = some rule := by
        intro id rule hget
        rw [Serial.get?_add, if_neg (Serial.bound_of_get? hget).2.ne, hget]
      have hnext : (db.rules.add (listedRule tenantId uuid content)).get? db.rules.next =
          some (listedRule tenantId uuid content) := by
        rw [Serial.get?_add, if_pos rfl]
      refine ⟨h.tenants, fun id rule hget => hold id _ (hrow id rule hget),
        fun id rule hget hnone => ?_,
        fun uuid' payload' content' hmem hdecode' hnone haudit' => ?_, fun uuid' hmem => ?_⟩
      · change (db.rules.add (listedRule tenantId uuid content)).get? id = some rule at hget
        rw [Serial.get?_add] at hget
        split at hget
        case isTrue =>
          obtain rfl := Option.some.inj hget
          exact ⟨hnew, List.mem_cons_self, payload, content,
            List.mem_append_right _ (List.mem_singleton_self _), hdecode, haudit, rfl⟩
        case isFalse =>
          obtain ⟨hfree, hseen, payload', content', hmem, hrest⟩ := h.new id rule hget hnone
          exact ⟨hfree, List.mem_cons_of_mem _ hseen, payload', content',
            List.mem_append_left _ hmem, hrest⟩
      · rcases List.mem_append.mp hmem with hmem | hmem
        · obtain ⟨id, hget⟩ := h.inserted uuid' payload' content' hmem hdecode' hnone haudit'
          exact ⟨id, hold id _ hget⟩
        · obtain ⟨rfl, rfl⟩ := Prod.mk.inj (List.mem_singleton.mp hmem)
          obtain rfl := Option.some.inj (hdecode.symm.trans hdecode')
          exact ⟨db.rules.next, hnext⟩
      · rcases List.mem_cons.mp hmem with rfl | hmem
        · exact ⟨db.rules.next, _, hnext, rfl, rfl⟩
        · obtain ⟨id, rule, hget, hrest⟩ := h.stored uuid' hmem
          exact ⟨id, rule, hold id rule hget, hrest⟩
  case isFalse hnot =>
    rw [FirewallDb.save?_of_not_valid (mt hvalid.mp hnot)]

/-- The listed rules before the first one whose visit raises, if there is one: it is malformed, or
it is new to the tenant and its row cannot be inserted. The rules `seen` were inserted before. -/
def beforeError (db : FirewallDb) (tenantId : ℕ) :
    List String → List (String × Payload) → Option (List (String × Payload))
  | _, [] => none
  | seen, (uuid, payload) :: todo =>
    match decodeRule payload with
    | none => some []
    | some content =>
      if (findRule db tenantId uuid).isSome then
        (beforeError db tenantId seen todo).map ((uuid, payload) :: ·)
      else if uuid ∉ seen ∧ (listedRule tenantId uuid content).fits db.tenants = true ∧
          heldElsewhere db tenantId uuid = false then
        (beforeError db tenantId (if auditable content then uuid :: seen else seen) todo).map
          ((uuid, payload) :: ·)
      else some []

/-- The visits go on up to the first one that raises. -/
theorem Pulled.visits (h : Pulled tenantId loaded done seen db) (report : SyncReport)
    (listed : List (String × Payload)) :
    match beforeError loaded tenantId seen listed with
    | none => ∃ progress seen', visitRules tenantId loaded ⟨db, report⟩ listed = .ok progress ∧
        Pulled tenantId loaded (done ++ listed) seen' progress.db
    | some before => ∃ db' seen', visitRules tenantId loaded ⟨db, report⟩ listed = .error db' ∧
        Pulled tenantId loaded (done ++ before) seen' db' := by
  induction listed generalizing db report done seen with
  | nil =>
    rw [beforeError]
    exact ⟨⟨db, report⟩, seen, rfl, by rwa [List.append_nil]⟩
  | cons entry todo ih =>
    obtain ⟨uuid, payload⟩ := entry
    -- A visit that raises ends the run; another one is followed by the others.
    have hraises : visitRule tenantId loaded ⟨db, report⟩ (uuid, payload) = .error db →
        ∃ db' seen', visitRules tenantId loaded ⟨db, report⟩ ((uuid, payload) :: todo) = .error db' ∧
          Pulled tenantId loaded (done ++ []) seen' db' := by
      intro hvisit
      refine ⟨db, seen, ?_, by rwa [List.append_nil]⟩
      rw [visitRules, List.foldlM_cons, hvisit]
      rfl
    have hgoes : ∀ progress seen₁,
        visitRule tenantId loaded ⟨db, report⟩ (uuid, payload) = .ok progress →
        Pulled tenantId loaded (done ++ [(uuid, payload)]) seen₁ progress.db →
        match (beforeError loaded tenantId seen₁ todo).map ((uuid, payload) :: ·) with
        | none => ∃ progress seen',
            visitRules tenantId loaded ⟨db, report⟩ ((uuid, payload) :: todo) = .ok progress ∧
              Pulled tenantId loaded (done ++ (uuid, payload) :: todo) seen' progress.db
        | some before => ∃ db' seen',
            visitRules tenantId loaded ⟨db, report⟩ ((uuid, payload) :: todo) = .error db' ∧
              Pulled tenantId loaded (done ++ before) seen' db' := by
      intro progress seen₁ hvisit hpulled
      have hrun : visitRules tenantId loaded ⟨db, report⟩ ((uuid, payload) :: todo) =
          visitRules tenantId loaded progress todo := by
        rw [visitRules, List.foldlM_cons, hvisit]
        rfl
      have hrest := ih hpulled progress.report
      cases hbefore : beforeError loaded tenantId seen₁ todo with
      | none =>
        rw [hbefore] at hrest
        obtain ⟨final, seen', hok, hfinal⟩ := hrest
        refine ⟨final, seen', hrun.trans hok, ?_⟩
        rwa [List.append_assoc, List.singleton_append] at hfinal
      | some before =>
        rw [hbefore] at hrest
        obtain ⟨db', seen', herror, hfinal⟩ := hrest
        refine ⟨db', seen', hrun.trans herror, ?_⟩
        rwa [List.append_assoc, List.singleton_append] at hfinal
    rw [beforeError]
    cases hdecode : decodeRule payload with
    | none =>
      refine hraises ?_
      unfold visitRule
      simp only [hdecode, Except.ofOption, bind, Except.bind]
    | some content =>
      dsimp only
      cases hfound : findRule loaded tenantId uuid with
      | some known =>
        obtain ⟨progress, hvisit, hpulled⟩ :=
          h.visit_known report hdecode (by rw [hfound]; rfl)
        rw [if_pos (by rfl)]
        exact hgoes progress seen hvisit hpulled
      | none =>
        have hvisit := h.visit_new report hdecode hfound
        rw [if_neg (by simp)]
        by_cases hstorable : uuid ∉ seen ∧
            (listedRule tenantId uuid content).fits loaded.tenants = true ∧
            heldElsewhere loaded tenantId uuid = false
        · rw [if_pos hstorable] at hvisit ⊢
          obtain ⟨progress, hvisit, hpulled⟩ := hvisit
          exact hgoes progress _ hvisit hpulled
        · rw [if_neg hstorable] at hvisit ⊢
          exact hraises hvisit

/-- The visits leave a row alone, or one of them has overwritten it last. -/
theorem OPNsenseFirewallRule.pullAll_cases (tenants : List ℕ) (done : List (String × Payload))
    (rule : OPNsenseFirewallRule) : rule.pullAll tenants done = rule ∨
      ∃ payload content, (rule.uuid, payload) ∈ done ∧ decodeRule payload = some content ∧
        auditable content = true ∧ rule.applyStatus = .synced ∧
        rule.pullAll tenants done = rule.overwrite content := by
  induction done using List.reverseRecOn with
  | nil => exact Or.inl rfl
  | append_singleton done entry ih =>
    rw [rule.pullAll_append]
    have hbefore : rule.pullAll tenants done = rule ∨
        ∃ payload content, (rule.uuid, payload) ∈ done ++ [entry] ∧
          decodeRule payload = some content ∧ auditable content = true ∧
          rule.applyStatus = .synced ∧ rule.pullAll tenants done = rule.overwrite content := by
      refine ih.imp_right fun ⟨payload, content, hmem, hrest⟩ => ?_
      exact ⟨payload, content, List.mem_append_left _ hmem, hrest⟩
    split
    case isFalse => exact hbefore
    case isTrue huuid =>
      unfold pull
      split
      case h_2 => exact hbefore
      case h_1 content hdecode =>
        split
        case isFalse => exact hbefore
        case isTrue hwrites =>
          right
          obtain ⟨hsynced, haudit, -, -⟩ := hwrites
          refine ⟨entry.2, content, ?_, hdecode, haudit, ?_, ?_⟩
          · rw [← huuid]
            exact List.mem_append_right _ (List.mem_singleton_self _)
          · rcases ih with hsame | ⟨_, _, -, -, -, hstatus, -⟩
            · rwa [hsame] at hsynced
            · exact hstatus
          · rcases ih with hsame | ⟨_, _, -, -, -, -, hrow⟩
            · rw [hsame]
            · rw [hrow]
              rfl

/-- If every listed uuid is listed once, a row is visited at most once. -/
theorem OPNsenseFirewallRule.pullAll_of_mem {tenants : List ℕ} {listed : List (String × Payload)}
    {rule : OPNsenseFirewallRule} (hnodup : (listed.map Prod.fst).Nodup)
    (hmem : (rule.uuid, payload) ∈ listed) :
    rule.pullAll tenants listed = rule.pull tenants payload := by
  have hskip : ∀ (entries : List (String × Payload)) (row : OPNsenseFirewallRule),
      rule.uuid ∉ entries.map Prod.fst → entries.foldl (fun row entry =>
        if entry.1 = rule.uuid then row.pull tenants entry.2 else row) row = row := by
    intro entries
    induction entries with
    | nil => exact fun row _ => rfl
    | cons entry entries ih =>
      intro row hnot
      rw [List.map_cons, List.mem_cons, not_or] at hnot
      rw [List.foldl_cons, if_neg (Ne.symm hnot.1)]
      exact ih row hnot.2
  obtain ⟨before, after, rfl⟩ := List.append_of_mem hmem
  rw [List.map_append, List.map_cons, List.nodup_append, List.nodup_cons] at hnodup
  obtain ⟨-, ⟨hafter, -⟩, hdisjoint⟩ := hnodup
  have hbefore : rule.uuid ∉ before.map Prod.fst :=
    fun hin => hdisjoint rule.uuid hin rule.uuid List.mem_cons_self rfl
  unfold pullAll
  rw [List.foldl_append, hskip before rule hbefore, List.foldl_cons, if_pos rfl,
    hskip after _ hafter]

end Visits

/-! ## The sweep -/

section Sweep

variable {tenantId : ℕ} {db : FirewallDb} {listed : List (String × Payload)}

/-- An option is filtered by what holds of its value. -/
private theorem filter_congr {α : Type} {o : Option α} {p q : α → Bool}
    (h : ∀ a, o = some a → p a = q a) : o.filter p = o.filter q := by
  cases o with
  | none => rfl
  | some a => rw [Option.filter_some, Option.filter_some, h a rfl]

/-- An option whose value passes. -/
private theorem filter_eq_self {α : Type} {o : Option α} {p : α → Bool}
    (h : ∀ a, o = some a → p a = true) : o.filter p = o := by
  cases o with
  | none => rfl
  | some a => rw [Option.filter_some, if_pos (h a rfl)]

/-- Whether a row is deleted: it is synced and not listed, and its entry fits into the audit log. -/
def isSwept (listed : List (String × Payload)) (uuid : String) (rule : OPNsenseFirewallRule) : Bool :=
  (List.lookup uuid listed).isNone && rule.applyStatus = .synced && auditable rule.content

/-- What a step of the sweep leaves of every row. -/
theorem get?_sweepRule (progress : SyncProgress) (known : ℕ × OPNsenseFirewallRule) (id : ℕ) :
    (sweepRule listed progress known).db.rules.get? id =
      (progress.db.rules.get? id).filter fun rule =>
        !(id = known.1 && isSwept listed known.2.uuid rule) := by
  have hkeep : (∀ rule, progress.db.rules.get? known.1 = some rule →
      isSwept listed known.2.uuid rule = false) → progress.db.rules.get? id =
      (progress.db.rules.get? id).filter fun rule =>
        !(id = known.1 && isSwept listed known.2.uuid rule) := by
    intro hnot
    refine (filter_eq_self fun rule hget => ?_).symm
    by_cases heq : id = known.1
    · rw [hnot rule (heq ▸ hget), Bool.and_false]
      rfl
    · simp [heq]
  unfold sweepRule
  split
  case h_2 hnone => exact hkeep fun rule hget => by cases hnone.symm.trans hget
  case h_1 row hrow =>
    split
    case isTrue hstays =>
      refine hkeep fun rule hget => ?_
      obtain rfl := Option.some.inj (hrow.symm.trans hget)
      unfold isSwept
      rcases hstays with hlisted | hstatus
      · rw [Option.isNone_eq_false_iff.mpr hlisted]
        rfl
      · rw [decide_eq_false hstatus, Bool.and_false]
        rfl
    case isFalse hgoes =>
      rw [not_or, not_not, Option.not_isSome_iff_eq_none] at hgoes
      dsimp only
      unfold FirewallDb.commitAudited
      split
      case isTrue haudit =>
        -- A deletion violates no constraint.
        have hvalid : ValidRules progress.db.tenants
            (progress.db.rules.deleteWhere fun id _ => id = known.1) :=
          (progress.db.deleteWhere fun id _ => id = known.1).valid
        rw [FirewallDb.save?_of_valid hvalid, Option.getD_some]
        show (progress.db.rules.deleteWhere fun id _ => id = known.1).get? id = _
        rw [Serial.get?_deleteWhere]
        refine filter_congr fun rule hget => ?_
        by_cases heq : id = known.1
        · obtain rfl := Option.some.inj (hrow.symm.trans (heq ▸ hget))
          simp [heq, isSwept, hgoes.1, hgoes.2, haudit]
        · simp [heq]
      case isFalse haudit =>
        refine hkeep fun rule hget => ?_
        obtain rfl := Option.some.inj (hrow.symm.trans hget)
        unfold isSwept
        rw [Bool.eq_false_iff.mpr haudit, Bool.and_false]

/-- A uuid that is listed is found in the listing. -/
theorem isSome_lookup_of_listed {uuid : String} {payload : Payload}
    (h : (uuid, payload) ∈ listed) : (List.lookup uuid listed).isSome = true := by
  rw [List.lookup_isSome_iff]
  exact ⟨(uuid, payload), h, beq_self_eq_true uuid⟩

/-- What the sweep leaves of every row. -/
theorem get?_sweep (progress : SyncProgress) (known : List (ℕ × OPNsenseFirewallRule)) (id : ℕ) :
    (known.foldl (sweepRule listed) progress).db.rules.get? id =
      (progress.db.rules.get? id).filter fun rule =>
        !known.any fun row => id = row.1 && isSwept listed row.2.uuid rule := by
  induction known generalizing progress with
  | nil => exact (filter_eq_self fun _ _ => rfl).symm
  | cons row known ih =>
    rw [List.foldl_cons, ih, get?_sweepRule, Option.filter_filter]
    refine filter_congr fun rule _ => ?_
    rw [List.any_cons, Bool.not_or]

/-- The sweep does nothing if every rule of the tenant that is synced is listed. -/
theorem sweep_of_listed (progress : SyncProgress) (known : List (ℕ × OPNsenseFirewallRule))
    (h : ∀ row ∈ known, ∀ rule, progress.db.rules.get? row.1 = some rule →
      rule.applyStatus = .synced → (List.lookup row.2.uuid listed).isSome = true) :
    known.foldl (sweepRule listed) progress = progress := by
  induction known with
  | nil => rfl
  | cons row known ih =>
    have hstep : sweepRule listed progress row = progress := by
      unfold sweepRule
      split
      case h_2 => rfl
      case h_1 rule hget =>
        rw [if_pos]
        by_cases hsynced : rule.applyStatus = .synced
        · exact Or.inl (h row List.mem_cons_self rule hget hsynced)
        · exact Or.inr hsynced
    rw [List.foldl_cons, hstep]
    exact ih fun row hmem => h row (List.mem_cons_of_mem _ hmem)

/-- The rules before the first error are listed. -/
theorem subset_of_beforeError {seen : List String} {before : List (String × Payload)}
    (h : beforeError db tenantId seen listed = some before) : before ⊆ listed := by
  induction listed generalizing seen before with
  | nil => cases h
  | cons entry todo ih =>
    obtain ⟨uuid, payload⟩ := entry
    have hcons : ∀ seen', (beforeError db tenantId seen' todo).map ((uuid, payload) :: ·) =
        some before → before ⊆ (uuid, payload) :: todo := by
      intro seen' hmap
      obtain ⟨before', hbefore, rfl⟩ := Option.map_eq_some_iff.mp hmap
      exact List.cons_subset_cons _ (ih hbefore)
    rw [beforeError] at h
    split at h
    case h_1 =>
      obtain rfl := Option.some.inj h
      exact List.nil_subset _
    case h_2 =>
      split at h
      case isTrue => exact hcons _ h
      case isFalse =>
        split at h
        case isTrue => exact hcons _ h
        case isFalse =>
          obtain rfl := Option.some.inj h
          exact List.nil_subset _

/-- What a synchronisation that raises leaves. -/
theorem pullRules_of_error {before : List (String × Payload)}
    (h : beforeError db tenantId [] listed = some before) :
    ∃ db' seen, pullRules db tenantId listed = .error db' ∧ Pulled tenantId db before seen db' := by
  have hvisits := (Pulled.refl tenantId db).visits ⟨0, 0, 0⟩ listed
  rw [h] at hvisits
  obtain ⟨db', seen, herror, hpulled⟩ := hvisits
  refine ⟨db', seen, ?_, hpulled⟩
  rw [pullRules, herror]
  rfl

/-- What a synchronisation that does not raise leaves. -/
theorem pullRules_of_none (h : beforeError db tenantId [] listed = none) :
    ∃ visited seen progress, pullRules db tenantId listed = .ok progress ∧
      Pulled tenantId db listed seen visited ∧ ∀ id, progress.db.rules.get? id =
        (visited.rules.get? id).filter fun rule => !(db.rules.get? id).any fun known =>
          known.tenantId = tenantId && isSwept listed known.uuid rule := by
  have hvisits := (Pulled.refl tenantId db).visits ⟨0, 0, 0⟩ listed
  rw [h] at hvisits
  obtain ⟨visited, seen, hok, hpulled⟩ := hvisits
  refine ⟨visited.db, seen, _, by rw [pullRules, hok]; rfl, hpulled, fun id => ?_⟩
  rw [get?_sweep]
  refine filter_congr fun rule _ => ?_
  rw [Bool.not_inj_iff, Bool.eq_iff_iff, List.any_eq_true, Option.any_eq_true]
  constructor
  · rintro ⟨⟨id', known⟩, hmem, hswept⟩
    obtain ⟨hget, htenant⟩ := Table.mem_select.mp hmem
    obtain ⟨heq, hswept⟩ := Bool.and_eq_true_iff.mp hswept
    obtain rfl := of_decide_eq_true heq
    exact ⟨known, hget, Bool.and_eq_true_iff.mpr ⟨htenant, hswept⟩⟩
  · rintro ⟨known, hget, hswept⟩
    obtain ⟨htenant, hswept⟩ := Bool.and_eq_true_iff.mp hswept
    refine ⟨(id, known), Table.mem_select.mpr ⟨hget, htenant⟩, ?_⟩
    rw [hswept, decide_eq_true rfl]
    rfl

/-- The visit of a rule whose row is still as it was loaded finds no change if the row is not synced
or has the listed content. -/
theorem visitRule_of_seen {report : SyncReport} {payload : Payload} {content : RuleContent} {id : ℕ}
    {rule : OPNsenseFirewallRule} (hdecode : decodeRule payload = some content)
    (hloaded : loaded.rules.get? id = some rule) (hget : db.rules.get? id = some rule)
    (hseen : rule.applyStatus ≠ .synced ∨ rule.content = content) :
    visitRule rule.tenantId loaded ⟨db, report⟩ (rule.uuid, payload) = .ok ⟨db, report⟩ := by
  have hfound : findRule loaded rule.tenantId rule.uuid = some (id, rule) :=
    findRule_eq_some_iff.mpr ⟨hloaded, rfl, rfl⟩
  unfold visitRule
  simp only [hdecode, Except.ofOption, hfound, hget, bind, Except.bind, pure, Except.pure]
  rw [if_pos hseen]

/-- The visit of a rule whose row is still as it was loaded counts a change if the row is synced and
the listed content differs. -/
theorem visitRule_of_changed (report : SyncReport) {payload : Payload} {content : RuleContent}
    {id : ℕ} {rule : OPNsenseFirewallRule} (hdecode : decodeRule payload = some content)
    (hloaded : loaded.rules.get? id = some rule) (hget : db.rules.get? id = some rule)
    (hsynced : rule.applyStatus = .synced) (hchanged : rule.content ≠ content) :
    ∃ db', visitRule rule.tenantId loaded ⟨db, report⟩ (rule.uuid, payload) =
      .ok ⟨db', { report with updated := report.updated + 1 }⟩ := by
  have hfound : findRule loaded rule.tenantId rule.uuid = some (id, rule) :=
    findRule_eq_some_iff.mpr ⟨hloaded, rfl, rfl⟩
  unfold visitRule
  simp only [hdecode, Except.ofOption, hfound, hget, bind, Except.bind, pure, Except.pure]
  rw [if_neg (not_or.mpr ⟨not_not.mpr hsynced, hchanged⟩)]
  exact ⟨_, rfl⟩

/-- A synchronisation changes nothing if every listed rule has a row that is not synced or has the
listed content, and every synced row is listed. -/
theorem pullRules_of_seen
    (hseen : ∀ uuid payload, (uuid, payload) ∈ listed → ∃ content id rule,
      decodeRule payload = some content ∧ db.rules.get? id = some rule ∧ rule.tenantId = tenantId ∧
      rule.uuid = uuid ∧ (rule.applyStatus ≠ .synced ∨ rule.content = content))
    (hlisted : ∀ id rule, db.rules.get? id = some rule → rule.tenantId = tenantId →
      rule.applyStatus = .synced → (List.lookup rule.uuid listed).isSome = true) :
    pullRules db tenantId listed = .ok ⟨db, ⟨0, 0, 0⟩⟩ := by
  have hvisits : ∀ todo, todo ⊆ listed →
      visitRules tenantId db ⟨db, ⟨0, 0, 0⟩⟩ todo = .ok ⟨db, ⟨0, 0, 0⟩⟩ := by
    intro todo
    induction todo with
    | nil => exact fun _ => rfl
    | cons entry todo ih =>
      intro hsubset
      obtain ⟨uuid, payload⟩ := entry
      obtain ⟨content, id, rule, hdecode, hget, htenant, huuid, hcase⟩ :=
        hseen uuid payload (hsubset List.mem_cons_self)
      subst htenant huuid
      rw [visitRules, List.foldlM_cons, visitRule_of_seen hdecode hget hget hcase]
      exact ih fun entry hmem => hsubset (List.mem_cons_of_mem _ hmem)
  rw [pullRules, hvisits listed (List.Subset.refl _)]
  refine congrArg Except.ok (sweep_of_listed _ _ fun row hmem rule hget hsynced => ?_)
  obtain ⟨hknown, htenant⟩ := Table.mem_select.mp hmem
  obtain rfl := Option.some.inj (hknown.symm.trans hget)
  exact hlisted row.1 row.2 hget (of_decide_eq_true htenant) hsynced

end Sweep

end ProxmoxIaas
