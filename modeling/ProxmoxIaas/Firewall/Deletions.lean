import ProxmoxIaas.Firewall.Convergence
import ProxmoxIaas.Firewall.TunnelRules

/-!
# Requested Deletions

A deletion that a user has requested is only a mark in the status column of the row. Everything else
that writes this column, or the row, may lose it: moves, pushes that fail, runs that have loaded the
row before, and the destruction of a tunnel.

## Main results

- `deletion_not_lost`: while every step spares the mark, the rule stays marked or is gone, and a
  complete apply run removes it from the table and from OPNsense.
- `deletion_lost`: a move of the neighbouring rule makes the rule pending again.
-/

namespace ProxmoxIaas

/-- The rules that are still to be pushed. -/
def ApplyPhase.todo : ApplyPhase → List ℕ
  | .push todo => todo
  | _ => []

namespace Firewall

/-- What can happen to the rules of a tenant, with its tunnels. -/
inductive TenantEvent where
  /-- A step of the endpoints and tasks for rules. -/
  | rules (e : Event)
  /-- The provisioning of a tunnel inserts its rules. -/
  | provisionTunnel (tunnel : TunnelRules)
  /-- The destruction of a tunnel commits. -/
  | destroyTunnel (name : String)

/-- The state after a step. A commit that raises changes nothing. -/
def State.tenantStep (tenantId : ℕ) (s : State) : TenantEvent → State
  | .rules e => s.step tenantId e
  | .provisionTunnel tunnel =>
    { s with db := (ensureFirewallRules s.db tenantId tunnel).getD s.db }
  | .destroyTunnel name => { s with db := (deleteTunnelRules s.db tenantId name).getD s.db }

/-- A state in which `delete_rule` marks the rule `id`. On OPNsense the rule has at most the uuid of
its row, and no apply run has loaded the row to delete it. -/
structure Requests (tenantId id : ℕ) (uuids : List String) (uuid : String) (s : State) : Prop where
  /-- The rule that the endpoint finds. -/
  found : (findRule s.db tenantId uuid).map Prod.fst = some id
  /-- The uuids that OPNsense has given to the rule. -/
  mem_uuids : ∀ given, given ∈ uuids ↔
    isPlaceholder given = false ∧ (given = uuid ∨ (id, given) ∈ s.created)
  /-- The rule has no other uuid on OPNsense, or in the table. -/
  others : ∀ given ∈ uuids, given ≠ uuid → Table.get? s.opnsense given = none ∧
    ∀ k rule, s.db.rules.get? k = some rule → rule.uuid ≠ given
  /-- No apply run has loaded the row to delete it. -/
  notLoaded : ∀ run apply rule, s.applies.get? run = some apply →
    apply.session.get? id = some rule → rule.loaded.work ≠ some .delete

/-- The system from the moment at which a deletion was requested. -/
def deletionMachine (tenantId id : ℕ) (uuids : List String) : Machine State TenantEvent where
  init s := ∃ before uuid, Requests tenantId id uuids uuid before ∧
    s = before.step tenantId (.deleteRule uuid)
  step := State.tenantStep tenantId

/-- A requested deletion is not lost. -/
structure NotLost (tenantId id : ℕ) (uuids : List String) (s : State) : Prop where
  /-- No row of the rule is pending or synced. -/
  marked : ∀ k rule, s.db.rules.get? k = some rule → k = id ∨ rule.uuid ∈ uuids →
    rule.applyStatus ≠ .pending ∧ rule.applyStatus ≠ .synced
  /-- A complete apply run removes the rule. -/
  removed : ∀ run newUuid, s.applies.get? run = none → GivesNew s newUuid →
    (∀ k, (s.db.rules.get? k).isSome = true → newUuid k ∉ uuids) →
      (s.applyAll tenantId run newUuid).db.rules.get? id = none ∧
        ∀ uuid ∈ uuids, Table.get? (s.applyAll tenantId run newUuid).opnsense uuid = none

/-! ### The condition on the steps -/

section Condition

variable (tenantId id : ℕ) (uuids : List String) (s : State)

/-- The rule is on OPNsense under none of its uuids. -/
def isGone : Bool := uuids.all fun uuid => (Table.get? s.opnsense uuid).isNone

/-- A request is about another rule. -/
def isOther (uuid : String) : Bool := (s.db.rules.get? id).all fun rule => rule.uuid ≠ uuid

/-- A push or a call writes no rule under one of the uuids, and does not add the rule once more. -/
def writesOther (work : Work) (ruleId : ℕ) (uuid newUuid : String) : Bool :=
  match work with
  | .delete => true
  | .update => ruleId ≠ id && uuid ∉ uuids
  | .create => ruleId ≠ id && newUuid ∉ uuids

/-- A run commits no uuid of the rule for another row. -/
def keepsUuid (loaded current : OPNsenseFirewallRule) : Bool :=
  current.uuid = loaded.uuid || current.uuid ∉ uuids

/-- A step of the endpoints and tasks for rules spares the mark. -/
def sparesMark : Event → Bool
  | .updateRule uuid data => isOther id s uuid && data.uuid.join.all (· ∉ uuids)
  | .toggleRule uuid => isOther id s uuid
  | .moveRuleUp uuid =>
    let rules := rulesBySequence s.db tenantId
    ((rules.zip rules.tail).find? fun (_, rule) => rule.2.uuid = uuid).all fun (above, rule) =>
      above.1 ≠ id && rule.1 ≠ id
  | .moveRuleDown uuid =>
    let rules := rulesBySequence s.db tenantId
    ((rules.zip rules.tail).find? fun (rule, _) => rule.2.uuid = uuid).all fun (rule, below) =>
      rule.1 ≠ id && below.1 ≠ id
  | .pushRule run result newUuid => !result.tookEffect || (s.applies.get? run).all fun apply =>
    apply.phase.push?.all fun next => (apply.session.get? next.1).all fun rule =>
      rule.loaded.work.all fun work => writesOther id uuids work next.1 rule.current.uuid newUuid
  | .commitApply run => (s.applies.get? run).all fun apply => (s.db.commit? apply.session).isNone ||
    ((apply.session.get? id).all fun rule =>
        rule.loaded.work = some .delete && rule.current.applyStatus ≠ .failed) &&
      apply.session.entries.all fun r => keepsUuid uuids r.2.loaded r.2.current
  | .callRule run result newUuid _ => !result.tookEffect || (s.rules.get? run).all fun call =>
    writesOther id uuids call.operation call.ruleId ((call.loaded.map (·.uuid)).getD "") newUuid
  | .commitRule run => (s.rules.get? run).all fun call => call.current.all fun current =>
    call.loaded.all fun loaded =>
      (call.ruleId ≠ id || current = loaded) && keepsUuid uuids loaded current
  | .visitSync run => (s.syncs.get? run).all fun sync => sync.phase.visit?.all fun next =>
    (sync.known.lookup next.1.1).isSome || next.1.1 ∉ uuids
  | .sweepSync run => (s.syncs.get? run).all fun sync => sync.phase.sweep?.all fun next =>
    next.1.2 ≠ id || (List.lookup next.1.1 sync.listed).isSome ||
      ((sync.cache.get? id).all fun rule => rule.applyStatus ≠ .synced) || isGone uuids s
  | _ => true

/-- A step spares the mark. -/
def sparesDeletion : TenantEvent → Bool
  | .rules e => sparesMark tenantId id uuids s e
  | .provisionTunnel _ => true
  | .destroyTunnel name => (s.db.rules.get? id).all fun rule =>
    !isTunnelRule tenantId name rule || isGone uuids s

end Condition

/-! ### The invariant -/

/-- What holds of an apply run: one that has deleted the rule on OPNsense has done so under the uuid
of the row. -/
def RunSpares (id : ℕ) (uuids : List String) (db : FirewallDb) (opnsense : Opnsense)
    (apply : ApplyRun) : Prop :=
  ∀ rule row, apply.session.get? id = some rule → rule.loaded.work = some .delete →
    db.rules.get? id = some row → rule.current.uuid = row.uuid ∧
      (id ∈ apply.phase.todo ∨ rule.current.applyStatus = .failed ∨
        (row.uuid ∈ uuids → Table.get? opnsense row.uuid = none))

/-- What holds in every state while the steps spare the mark. -/
structure Kept (tenantId id : ℕ) (uuids : List String) (s : State) : Prop where
  /-- The row was once there. -/
  old : id < s.db.rules.next
  /-- The row is marked. -/
  row : ∀ rule, s.db.rules.get? id = some rule →
    rule.tenantId = tenantId ∧ rule.applyStatus = .pendingDelete
  /-- No other row has a uuid of the rule. -/
  others : ∀ k rule, s.db.rules.get? k = some rule → rule.uuid ∈ uuids → k = id
  /-- On OPNsense the rule has at most the uuid of its row. -/
  absent : ∀ uuid ∈ uuids, (∀ rule, s.db.rules.get? id = some rule → rule.uuid ≠ uuid) →
    Table.get? s.opnsense uuid = none
  /-- The apply runs. -/
  runs : ∀ run apply, s.applies.get? run = some apply →
    RunSpares id uuids s.db s.opnsense apply
  /-- The uuids are given by OPNsense. -/
  real : ∀ uuid ∈ uuids, isPlaceholder uuid = false

/-- A row after a change that spares the mark. -/
structure SparesRow (id : ℕ) (uuids : List String) (k : ℕ) (rule rule' : OPNsenseFirewallRule) :
    Prop where
  /-- No row is given a uuid of the rule. -/
  uuid : rule'.uuid ∈ uuids → rule'.uuid = rule.uuid
  /-- The rule stays what it is. -/
  same : k = id → rule'.tenantId = rule.tenantId ∧ rule'.uuid = rule.uuid ∧
    (rule'.applyStatus = rule.applyStatus ∨ rule'.applyStatus = .pendingDelete)

/-- A change of the table that spares the mark. -/
structure Spares (id : ℕ) (uuids : List String) (db db' : FirewallDb) : Prop where
  /-- The sequence goes on. -/
  next : db.rules.next ≤ db'.rules.next
  /-- Rows keep what matters of them, or are new. -/
  rows : ∀ k rule', db'.rules.get? k = some rule' →
    (∃ rule, db.rules.get? k = some rule ∧ SparesRow id uuids k rule rule') ∨
    (db.rules.next ≤ k ∧ rule'.uuid ∉ uuids)

variable {tenantId id run : ℕ} {uuids : List String} {s s' : State} {db db' : FirewallDb}
  {opnsense opnsense' : Opnsense} {apply : ApplyRun}

/-- A row that is left as it was. -/
theorem SparesRow.refl (k : ℕ) (rule : OPNsenseFirewallRule) : SparesRow id uuids k rule rule :=
  ⟨fun _ => rfl, fun _ => ⟨rfl, rfl, Or.inl rfl⟩⟩

/-- Another row that keeps its uuid. -/
theorem SparesRow.of_ne {k : ℕ} {rule rule' : OPNsenseFirewallRule} (hne : k ≠ id)
    (huuid : rule'.uuid ∈ uuids → rule'.uuid = rule.uuid) : SparesRow id uuids k rule rule' :=
  ⟨huuid, fun heq => absurd heq hne⟩

/-- Nothing is changed. -/
theorem Spares.refl (id : ℕ) (uuids : List String) (db : FirewallDb) : Spares id uuids db db :=
  ⟨Nat.le_refl _, fun k rule hget => Or.inl ⟨rule, hget, .refl k rule⟩⟩

/-- Rows are rewritten or deleted. -/
theorem Spares.of_bind {f : ℕ → OPNsenseFirewallRule → Option OPNsenseFirewallRule}
    (hnext : db'.rules.next = db.rules.next)
    (hget : ∀ k, db'.rules.get? k = (db.rules.get? k).bind (f k))
    (hf : ∀ k rule rule', db.rules.get? k = some rule → f k rule = some rule' →
      SparesRow id uuids k rule rule') : Spares id uuids db db' := by
  refine ⟨hnext.ge, fun k rule' hrule' => Or.inl ?_⟩
  rw [hget] at hrule'
  obtain ⟨rule, hrule, hwritten⟩ := Option.bind_eq_some_iff.mp hrule'
  exact ⟨rule, hrule, hf k rule rule' hrule hwritten⟩

/-- A single row is rewritten. -/
theorem Spares.of_modify {k : ℕ} {f : OPNsenseFirewallRule → OPNsenseFirewallRule}
    (hdb : db'.rules = db.rules.modify k f)
    (hf : ∀ rule, db.rules.get? k = some rule → SparesRow id uuids k rule (f rule)) :
    Spares id uuids db db' := by
  refine .of_bind (f := fun k' rule => some (if k' = k then f rule else rule)) (by rw [hdb]; rfl)
    (fun k' => ?_) fun k' rule rule' hrule hwritten => ?_
  · rw [hdb, Serial.get?_modify]
    split
    case isTrue heq =>
      rw [heq]
      cases db.rules.get? k <;> simp
    case isFalse => cases db.rules.get? k' <;> simp
  · obtain rfl := Option.some.inj hwritten
    split
    case isTrue heq =>
      subst heq
      exact hf rule hrule
    case isFalse => exact .refl k' rule

/-- A row is added. -/
theorem Spares.of_add {rule : OPNsenseFirewallRule} (hdb : db'.rules = db.rules.add rule)
    (huuid : rule.uuid ∉ uuids) : Spares id uuids db db' := by
  refine ⟨by rw [hdb]; exact Nat.le_succ _, fun k rule' hrule' => ?_⟩
  rw [hdb, Serial.get?_add] at hrule'
  split at hrule'
  case isTrue heq =>
    obtain rfl := Option.some.inj hrule'
    exact Or.inr ⟨heq.ge, huuid⟩
  case isFalse => exact Or.inl ⟨rule', hrule', .refl k rule'⟩

/-- The row after a change that spares the mark. -/
theorem Spares.row (h : Spares id uuids db db') (hold : id < db.rules.next)
    {rule' : OPNsenseFirewallRule} (hget : db'.rules.get? id = some rule') :
    ∃ rule, db.rules.get? id = some rule ∧ rule'.tenantId = rule.tenantId ∧ rule'.uuid = rule.uuid ∧
      (rule'.applyStatus = rule.applyStatus ∨ rule'.applyStatus = .pendingDelete) := by
  rcases h.rows id rule' hget with ⟨rule, hrule, hkept⟩ | ⟨hnext, -⟩
  · exact ⟨rule, hrule, hkept.same rfl⟩
  · omega

/-- A run is spared if the row is, and the rule does not appear on OPNsense. -/
theorem RunSpares.mono (h : RunSpares id uuids db opnsense apply) (hspares : Spares id uuids db db')
    (hold : id < db.rules.next) (habsent : ∀ uuid ∈ uuids, Table.get? opnsense uuid = none →
      Table.get? opnsense' uuid = none) : RunSpares id uuids db' opnsense' apply := by
  intro rule row' hget hwork hrow'
  obtain ⟨row, hrow, -, huuid, -⟩ := hspares.row hold hrow'
  obtain ⟨hsame, hdone⟩ := h rule row hget hwork hrow
  rw [huuid]
  exact ⟨hsame, hdone.imp_right (Or.imp_right fun hnone hmem => habsent _ hmem (hnone hmem))⟩

/-- A step that spares the mark keeps the invariant. The row may go away only if the rule is not on
OPNsense, and the rule does not appear there. -/
theorem Kept.of_spares (h : Kept tenantId id uuids s) (hspares : Spares id uuids s.db s'.db)
    (hrow : ∀ rule, s.db.rules.get? id = some rule → (s'.db.rules.get? id).isSome = true ∨
      ∀ uuid ∈ uuids, Table.get? s'.opnsense uuid = none)
    (habsent : ∀ uuid ∈ uuids, Table.get? s.opnsense uuid = none → Table.get? s'.opnsense uuid = none)
    (hruns : ∀ run apply, s'.applies.get? run = some apply → s.applies.get? run = some apply ∨
      RunSpares id uuids s'.db s'.opnsense apply) : Kept tenantId id uuids s' where
  old := h.old.trans_le hspares.next
  row rule' hget := by
    obtain ⟨rule, hrule, htenant, -, hstatus⟩ := hspares.row h.old hget
    obtain ⟨howner, hmarked⟩ := h.row rule hrule
    exact ⟨htenant.trans howner, hstatus.elim (·.trans hmarked) fun hmark => hmark⟩
  others k rule' hget hmem := by
    rcases hspares.rows k rule' hget with ⟨rule, hrule, hkept⟩ | ⟨-, hnot⟩
    · exact h.others k rule hrule (hkept.uuid hmem ▸ hmem)
    · exact absurd hmem hnot
  absent uuid hmem hno := by
    cases hget : s.db.rules.get? id with
    | none =>
      refine habsent uuid hmem (h.absent uuid hmem fun rule hrule => ?_)
      rw [hget] at hrule
      cases hrule
    | some rule =>
      rcases hrow rule hget with hstays | hgone
      · -- The row stays, with its uuid.
        obtain ⟨rule', hget'⟩ := Option.isSome_iff_exists.mp hstays
        obtain ⟨old, hold, -, huuid, -⟩ := hspares.row h.old hget'
        refine habsent uuid hmem (h.absent uuid hmem fun rule₁ hrule₁ => ?_)
        obtain rfl := Option.some.inj (hold.symm.trans hrule₁)
        rw [← huuid]
        exact hno rule' hget'
      · exact hgone uuid hmem
  runs run apply hget := by
    rcases hruns run apply hget with hold | hnew
    · exact (h.runs run apply hold).mono hspares h.old habsent
    · exact hnew
  real := h.real

/-- A run that has read the order has pushed all its rules. -/
theorem todo_of_order? {phase : ApplyPhase} {desired : List String}
    (h : phase.order? = some desired) : phase.todo = [] := by
  unfold ApplyPhase.order? at h
  split at h
  case h_1 => rfl
  case h_2 => cases h

/-- A run that moves rules has pushed all its rules. -/
theorem todo_of_move? {phase : ApplyPhase} {next : (String × String) × List (String × String)}
    (h : phase.move? = some next) : phase.todo = [] := by
  unfold ApplyPhase.move? at h
  split at h
  case h_1 => rfl
  case h_2 => cases h

/-- A run that has pushed all its rules goes on. -/
theorem RunSpares.phase (h : RunSpares id uuids db opnsense apply) (htodo : apply.phase.todo = [])
    (phase : ApplyPhase) : RunSpares id uuids db opnsense { apply with phase } := by
  intro rule row hget hwork hrow
  obtain ⟨hsame, hpending | hdone⟩ := h rule row hget hwork hrow
  · rw [htodo] at hpending
    cases hpending
  · exact ⟨hsame, Or.inr hdone⟩

/-- A reload that raised. -/
theorem RunSpares.failReload (h : RunSpares id uuids db opnsense apply) (htodo : apply.phase.todo = [])
    (error : String) : RunSpares id uuids db opnsense { apply with
      session := apply.session.mapRows fun _ rule => rule.failReload error, phase := .commit } := by
  intro rule' row hget hwork hrow
  rw [Table.get?_mapRows] at hget
  obtain ⟨rule, hrule, rfl⟩ := Option.map_eq_some_iff.mp hget
  unfold SessionRule.failReload at hwork ⊢
  split
  case isTrue hsynced =>
    rw [if_pos hsynced] at hwork
    exact ⟨(h rule row hrule hwork hrow).1, Or.inr (Or.inl rfl)⟩
  case isFalse hsynced =>
    rw [if_neg hsynced] at hwork
    exact h.phase htodo .commit rule row hrule hwork hrow

/-- A push or a call that writes nothing under the uuids of the rule leaves it absent. -/
theorem absent_pushCall {work : Work} {rule : OPNsenseFirewallRule} {ruleId : ℕ}
    {uuid newUuid : String} (hother : writesOther id uuids work ruleId rule.uuid newUuid = true)
    (hmem : uuid ∈ uuids) (hnone : Table.get? opnsense uuid = none) :
    Table.get? (pushCall work rule newUuid opnsense) uuid = none := by
  cases work with
  | delete =>
    unfold pushCall
    dsimp only
    split
    · exact hnone
    · simp [hnone]
  | update =>
    have hne : uuid ≠ rule.uuid := by
      rintro rfl
      simp [writesOther, hmem] at hother
    simp [pushCall, hne, hnone]
  | create =>
    have hne : uuid ≠ newUuid := by
      rintro rfl
      simp [writesOther, hmem] at hother
    simp [pushCall, hne, hnone]

/-- The row that a request finds. -/
theorem get?_of_findRule {uuid : String} {found : ℕ × OPNsenseFirewallRule}
    (hfound : findRule s.db tenantId uuid = some found) :
    s.db.rules.get? found.1 = some found.2 ∧ found.2.tenantId = tenantId ∧ found.2.uuid = uuid := by
  obtain ⟨hget, hrule⟩ := Serial.first?_eq_some hfound
  exact ⟨hget, of_decide_eq_true hrule⟩

/-- A request about another rule does not find the rule. -/
theorem ne_of_isOther {uuid : String} (hother : isOther id s uuid = true)
    {found : ℕ × OPNsenseFirewallRule} (hfound : findRule s.db tenantId uuid = some found) :
    found.1 ≠ id := by
  rintro rfl
  obtain ⟨hget, -, huuid⟩ := get?_of_findRule hfound
  rw [isOther, hget] at hother
  exact of_decide_eq_true hother huuid

section Steps

variable (h : Kept tenantId id uuids s)

include h

/-- The table changes, and the row stays. -/
theorem Kept.table (hspares : Spares id uuids s.db db)
    (hrow : (s.db.rules.get? id).isSome = true → (db.rules.get? id).isSome = true ∨
      ∀ uuid ∈ uuids, Table.get? s.opnsense uuid = none) : Kept tenantId id uuids { s with db } :=
  h.of_spares hspares (fun rule hget => hrow (by rw [hget]; rfl)) (fun _ _ hnone => hnone)
    fun _ _ hget => Or.inl hget

/-- A row of the table is rewritten. -/
theorem Kept.modify {k : ℕ} {f : OPNsenseFirewallRule → OPNsenseFirewallRule}
    (hdb : db.rules = s.db.rules.modify k f)
    (hf : ∀ rule, s.db.rules.get? k = some rule → SparesRow id uuids k rule (f rule)) :
    Kept tenantId id uuids { s with db } := by
  refine h.table (.of_modify hdb hf) fun hsome => Or.inl ?_
  rw [hdb, Serial.isSome_get?_modify]
  exact hsome

/-- A row is added to the table. -/
theorem Kept.add {rule : OPNsenseFirewallRule} (hdb : db.rules = s.db.rules.add rule)
    (huuid : rule.uuid ∉ uuids) : Kept tenantId id uuids { s with db } := by
  refine h.table (.of_add hdb huuid) fun hsome => Or.inl ?_
  rw [hdb, Serial.get?_add]
  split
  case isTrue => rfl
  case isFalse => exact hsome

/-- A commit changes the table, or raises. -/
theorem Kept.commit {written : Option FirewallDb}
    (hwritten : ∀ db, written = some db → Kept tenantId id uuids { s with db }) :
    Kept tenantId id uuids { s with db := written.getD s.db } := by
  cases written with
  | none => exact h
  | some db => exact hwritten db rfl

/-- Other runs change. -/
theorem Kept.frame (hdb : s'.db = s.db) (hopnsense : s'.opnsense = s.opnsense)
    (happlies : s'.applies = s.applies) : Kept tenantId id uuids s' := by
  obtain ⟨hold, hrow, hothers, habsent, hruns, hreal⟩ := h
  rw [← hdb] at hold hrow hothers habsent hruns
  rw [← hopnsense] at habsent hruns
  rw [← happlies] at hruns
  exact ⟨hold, hrow, hothers, habsent, hruns, hreal⟩

/-- The apply runs change. -/
theorem Kept.applies {applies : Table ℕ ApplyRun}
    (hruns : ∀ run apply, applies.get? run = some apply → s.applies.get? run = some apply ∨
      RunSpares id uuids s.db s.opnsense apply) : Kept tenantId id uuids { s with applies } :=
  h.of_spares (.refl id uuids s.db) (fun rule hget => Or.inl (by rw [hget]; rfl))
    (fun _ _ hnone => hnone) hruns

/-! ### The endpoints -/

/-- A request changes the table, or nothing. -/
theorem Kept.edit {result : Except ApiError FirewallDb}
    (hresult : ∀ db, result = .ok db → Kept tenantId id uuids { s with db }) :
    Kept tenantId id uuids (s.edit result) := by
  cases result with
  | error e => exact h
  | ok db => exact hresult db rfl

/-- A new rule has a placeholder. -/
theorem Kept.createRule (data : RuleBody) (token : String) :
    Kept tenantId id uuids (s.edit (createRule s.db tenantId data token)) := by
  refine h.edit fun db hdb => ?_
  have hsave := Except.ofOption_eq_ok_iff.mp hdb
  refine h.add (FirewallDb.rules_of_save? hsave) fun hmem => ?_
  have hreal := h.real _ hmem
  simp [isPlaceholder, Text.startsWith] at hreal

/-- Another rule is edited, and gets no uuid of the rule. -/
theorem Kept.updateRule {uuid : String} {data : RuleBody} (hother : isOther id s uuid = true)
    (huuid : data.uuid.join.all (· ∉ uuids) = true) :
    Kept tenantId id uuids (s.edit (updateRule s.db tenantId uuid data)) := by
  refine h.edit fun db hdb => ?_
  simp only [ProxmoxIaas.updateRule, Except.bind_eq_ok_iff, Except.ofOption_eq_ok_iff] at hdb
  obtain ⟨found, hfound, assigned, hassigned, hsave⟩ := hdb
  refine h.modify (FirewallDb.rules_of_save? hsave) fun rule hrule => ?_
  refine .of_ne (ne_of_isOther hother hfound) fun hmem => ?_
  obtain rfl := Option.some.inj ((get?_of_findRule hfound).1.symm.trans hrule)
  -- A uuid that the request sets is not one of the rule.
  simp only [OPNsenseFirewallRule.assign, Option.bind_eq_bind, Option.bind_eq_some_iff,
    Option.pure_def] at hassigned
  obtain ⟨given, hgiven, tenant, -, hassigned⟩ := hassigned
  obtain rfl := Option.some.inj hassigned
  cases hdata : data.uuid with
  | none =>
    rw [hdata] at hgiven
    exact (Option.some.inj hgiven).symm
  | some value =>
    rw [hdata] at hgiven huuid
    obtain rfl : value = some given := hgiven
    exact absurd hmem (of_decide_eq_true huuid)

/-- A deletion only marks. -/
theorem Kept.deleteRule (uuid : String) :
    Kept tenantId id uuids (s.edit (deleteRule s.db tenantId uuid)) := by
  refine h.edit fun db hdb => ?_
  simp only [ProxmoxIaas.deleteRule, Except.bind_eq_ok_iff, Except.ofOption_eq_ok_iff] at hdb
  obtain ⟨found, -, hsave⟩ := hdb
  exact h.modify (FirewallDb.rules_of_save? hsave) fun rule _ =>
    ⟨fun _ => rfl, fun _ => ⟨rfl, rfl, Or.inr rfl⟩⟩

/-- Another rule is switched on or off. -/
theorem Kept.toggleRule {uuid : String} (hother : isOther id s uuid = true) :
    Kept tenantId id uuids (s.edit (toggleRule s.db tenantId uuid)) := by
  refine h.edit fun db hdb => ?_
  simp only [ProxmoxIaas.toggleRule, Except.bind_eq_ok_iff, Except.ofOption_eq_ok_iff] at hdb
  obtain ⟨found, hfound, hsave⟩ := hdb
  exact h.modify (FirewallDb.rules_of_save? hsave) fun rule _ =>
    .of_ne (ne_of_isOther hother hfound) fun _ => rfl

/-- Two other rules are exchanged. -/
theorem Kept.swapRules {a b : ℕ × OPNsenseFirewallRule} (ha : a.1 ≠ id) (hb : b.1 ≠ id)
    (hswap : swapRules s.db a b = .ok db) : Kept tenantId id uuids { s with db } := by
  have hdb := FirewallDb.rules_of_save? (Except.ofOption_eq_ok_iff.mp hswap)
  -- The rows keep their uuids, and that of the rule is none of them.
  refine h.table (.of_bind (f := fun k rule => some (if k = b.1 ∨ k = a.1 then { rule with
    content := { rule.content with sequence :=
      if k = b.1 then a.2.content.sequence else b.2.content.sequence }
    applyStatus := .pending } else rule)) (by rw [hdb]; rfl) (fun k => ?_)
    fun k rule rule' _ hrule' => ?_) fun hsome => Or.inl ?_
  · rw [hdb, Serial.get?_modify]
    by_cases hkb : k = b.1
    · subst hkb
      rw [if_pos rfl, Serial.get?_modify]
      by_cases hab : b.1 = a.1
      · cases hrow : s.db.rules.get? a.1 <;> simp [hab, hrow]
      · cases s.db.rules.get? b.1 <;> simp [hab]
    · rw [if_neg hkb, Serial.get?_modify]
      by_cases hka : k = a.1
      · subst hka
        cases s.db.rules.get? a.1 <;> simp [hkb]
      · cases s.db.rules.get? k <;> simp [hka, hkb]
  · obtain rfl := Option.some.inj hrule'
    split
    case isTrue hswapped =>
      refine .of_ne ?_ fun _ => rfl
      rcases hswapped with rfl | rfl
      · exact hb
      · exact ha
    case isFalse => exact .refl k rule
  · rw [hdb, Serial.isSome_get?_modify, Serial.isSome_get?_modify]
    exact hsome

/-- Another rule is moved up, behind another one. -/
theorem Kept.moveRuleUp {uuid : String}
    (hothers : sparesMark tenantId id uuids s (.moveRuleUp uuid) = true) :
    Kept tenantId id uuids (s.edit (moveRuleUp s.db tenantId uuid)) := by
  refine h.edit fun db hdb => ?_
  simp only [ProxmoxIaas.moveRuleUp, Except.bind_eq_ok_iff, Except.ofOption_eq_ok_iff] at hdb
  obtain ⟨-, -, ⟨above, rule⟩, hfound, hswap⟩ := hdb
  have hne : above.1 ≠ id ∧ rule.1 ≠ id := by
    simpa [sparesMark, hfound] using hothers
  exact h.swapRules hne.2 hne.1 hswap

/-- Another rule is moved down, before another one. -/
theorem Kept.moveRuleDown {uuid : String}
    (hothers : sparesMark tenantId id uuids s (.moveRuleDown uuid) = true) :
    Kept tenantId id uuids (s.edit (moveRuleDown s.db tenantId uuid)) := by
  refine h.edit fun db hdb => ?_
  simp only [ProxmoxIaas.moveRuleDown, Except.bind_eq_ok_iff, Except.ofOption_eq_ok_iff] at hdb
  obtain ⟨-, -, ⟨rule, below⟩, hfound, hswap⟩ := hdb
  have hne : rule.1 ≠ id ∧ below.1 ≠ id := by
    simpa [sparesMark, hfound] using hothers
  exact h.swapRules hne.1 hne.2 hswap

/-! ### Apply runs -/

/-- A run reads the rules that are pending. -/
theorem Kept.startApply (hstep : startApply? tenantId s run = some s') :
    Kept tenantId id uuids s' := by
  simp only [startApply?, Option.bind_eq_bind, Option.bind_eq_some_iff, Option.pure_def] at hstep
  obtain ⟨-, -, -, -, hstep⟩ := hstep
  obtain rfl := Option.some.inj hstep
  refine h.applies fun run' apply hget => ?_
  rcases Table.get?_insert_eq_some.mp hget with ⟨-, rfl⟩ | ⟨-, hget⟩
  · refine Or.inr fun rule row hloaded hwork hrow => ?_
    obtain ⟨row', hrow', -, -, rfl⟩ := get?_pendingRules.mp hloaded
    obtain rfl := Option.some.inj (hrow.symm.trans hrow')
    exact ⟨rfl, Or.inl (mem_workList.mpr ⟨_, hloaded, by rw [hwork]; rfl⟩)⟩
  · exact Or.inl hget

/-- A run that has pushed all its rules goes on. -/
theorem Kept.next {opnsense : Opnsense} {next : ApplyRun}
    (hopnsense : ∀ uuid, Table.get? opnsense uuid = Table.get? s.opnsense uuid)
    (hnext : RunSpares id uuids s.db s.opnsense next) :
    Kept tenantId id uuids { s with opnsense, applies := s.applies.insert run next } := by
  refine h.of_spares (.refl id uuids s.db) (fun rule hget => Or.inl (by rw [hget]; rfl))
    (fun uuid _ hnone => (hopnsense uuid).trans hnone) fun run' apply hget => ?_
  dsimp only at hget
  rcases Table.get?_insert_eq_some.mp hget with ⟨-, rfl⟩ | ⟨-, hget⟩
  · exact Or.inr (hnext.mono (.refl id uuids s.db) h.old fun uuid _ hnone =>
      (hopnsense uuid).trans hnone)
  · exact Or.inl hget

/-- A run pushes its next rule. -/
theorem Kept.pushRule {result : CallResult} {newUuid : String}
    (hok : sparesMark tenantId id uuids s (.pushRule run result newUuid) = true)
    (hstep : pushRule? s run result newUuid = some s') : Kept tenantId id uuids s' := by
  simp only [pushRule?, Option.bind_eq_bind, Option.bind_eq_some_iff, Option.pure_def] at hstep
  obtain ⟨apply, hrun, ⟨k, todo⟩, hnext, rule, hget, work, hwork, -, -, hstep⟩ := hstep
  obtain rfl := Option.some.inj hstep
  dsimp only at hget
  have hphase := phase_of_push? hnext
  have hother : result.tookEffect = true →
      writesOther id uuids work k rule.current.uuid newUuid = true := by
    intro heffect
    simpa [sparesMark, heffect, hrun, hnext, hget, hwork] using hok
  -- A deletion of a placeholder is not a call, and writes nothing.
  have habsent : ∀ uuid ∈ uuids, Table.get? s.opnsense uuid = none → Table.get?
      (if (pushResult work rule.current result).tookEffect then
        pushCall work rule.current newUuid s.opnsense else s.opnsense) uuid = none := by
    intro uuid hmem hnone
    split
    case isFalse => exact hnone
    case isTrue heffect =>
      cases work with
      | delete =>
        have hdelete : writesOther id uuids .delete k rule.current.uuid newUuid = true := rfl
        exact absent_pushCall hdelete hmem hnone
      | update => exact absent_pushCall (hother heffect) hmem hnone
      | create => exact absent_pushCall (hother heffect) hmem hnone
  refine h.of_spares (.refl id uuids s.db) (fun rule hget => Or.inl (by rw [hget]; rfl)) habsent
    fun run' apply' hget' => ?_
  dsimp only at hget'
  rcases Table.get?_insert_eq_some.mp hget' with ⟨-, rfl⟩ | ⟨-, hget'⟩
  · refine Or.inr fun rule' row hrule' hwork' hrow => ?_
    rw [Table.get?_modify] at hrule'
    split at hrule'
    case isTrue heq =>
      obtain rfl : id = k := heq
      rw [hget] at hrule'
      obtain rfl := Option.some.inj hrule'
      obtain rfl : work = .delete := Option.some.inj (hwork.symm.trans hwork')
      obtain ⟨hsame, -⟩ := h.runs run apply hrun rule row hget hwork hrow
      cases hresult : pushResult .delete rule.current result with
      | raises tookEffect error => exact ⟨hsame, Or.inr (Or.inl rfl)⟩
      | returns =>
        refine ⟨hsame, Or.inr (Or.inr fun hmem => ?_)⟩
        show Table.get? (pushCall .delete rule.current newUuid s.opnsense) row.uuid = none
        unfold pushCall
        rw [hsame, h.real _ hmem]
        simp
    case isFalse hne =>
      obtain ⟨hsame, hcases⟩ := h.runs run apply hrun rule' row hrule' hwork' hrow
      refine ⟨hsame, ?_⟩
      rcases hcases with hpending | hfailed | hnone
      · rw [hphase] at hpending
        exact Or.inl ((List.mem_cons.mp hpending).resolve_left hne)
      · exact Or.inr (Or.inl hfailed)
      · exact Or.inr (Or.inr fun hmem => habsent _ hmem (hnone hmem))
  · exact Or.inl hget'

/-- A run reads the order of the rules. -/
theorem Kept.readOrder (hstep : readOrder? tenantId s run = some s') : Kept tenantId id uuids s' := by
  simp only [readOrder?, Option.bind_eq_bind, Option.bind_eq_some_iff, Option.pure_def,
    Option.require_eq_some_iff] at hstep
  obtain ⟨apply, hrun, -, hphase, hstep⟩ := hstep
  obtain rfl := Option.some.inj hstep
  exact h.next (fun _ => rfl) ((h.runs run apply hrun).phase (by rw [hphase]; rfl) _)

/-- A run lists the rules on OPNsense. -/
theorem Kept.listOrder {returns : Bool} (hstep : listOrder? s run returns = some s') :
    Kept tenantId id uuids s' := by
  simp only [listOrder?, Option.bind_eq_bind, Option.bind_eq_some_iff, Option.pure_def] at hstep
  obtain ⟨apply, hrun, desired, horder, hstep⟩ := hstep
  obtain rfl := Option.some.inj hstep
  exact h.next (fun _ => rfl) ((h.runs run apply hrun).phase (todo_of_order? horder) _)

/-- A run moves a rule. -/
theorem Kept.moveRule {result : CallResult} (hstep : moveRule? s run result = some s') :
    Kept tenantId id uuids s' := by
  simp only [moveRule?, Option.bind_eq_bind, Option.bind_eq_some_iff, Option.pure_def] at hstep
  obtain ⟨apply, hrun, ⟨⟨uuid, next⟩, moves⟩, hmove, hstep⟩ := hstep
  obtain rfl := Option.some.inj hstep
  refine h.next (fun uuid' => ?_) ((h.runs run apply hrun).phase (todo_of_move? hmove) _)
  split
  case isTrue => exact Table.get?_moveBefore ..
  case isFalse => rfl

/-- A run reloads the rules. -/
theorem Kept.reloadRules {result : CallResult} (hstep : reloadRules? s run result = some s') :
    Kept tenantId id uuids s' := by
  simp only [reloadRules?, Option.bind_eq_bind, Option.bind_eq_some_iff, Option.pure_def,
    Option.require_eq_some_iff] at hstep
  obtain ⟨apply, hrun, -, hphase, hstep⟩ := hstep
  obtain rfl := Option.some.inj hstep
  have htodo : apply.phase.todo = [] := by rw [hphase]; rfl
  refine h.next (fun _ => rfl) ?_
  cases result with
  | returns => exact (h.runs run apply hrun).phase htodo _
  | raises _ error =>
    dsimp only
    split
    case isTrue => exact (h.runs run apply hrun).failReload htodo error
    case isFalse => exact (h.runs run apply hrun).phase htodo _

/-- A run ends. -/
theorem Kept.abortApply (run : ℕ) :
    Kept tenantId id uuids { s with applies := s.applies.erase run } := by
  refine h.applies fun run' apply hget => ?_
  obtain ⟨-, hget⟩ := Table.get?_erase_eq_some.mp hget
  exact Or.inl hget

/-- A run commits. -/
theorem Kept.commitApply (hok : sparesMark tenantId id uuids s (.commitApply run) = true)
    (hstep : commitApply? s run = some s') : Kept tenantId id uuids s' := by
  simp only [commitApply?, Option.bind_eq_bind, Option.bind_eq_some_iff, Option.pure_def,
    Option.require_eq_some_iff] at hstep
  obtain ⟨apply, hrun, -, hphase, hstep⟩ := hstep
  obtain rfl := Option.some.inj hstep
  have hended := h.abortApply run
  cases hcommit : s.db.commit? apply.session with
  | none => exact hended
  | some db =>
    simp only [sparesMark, hrun, hcommit, Option.all_some, Option.isNone_some, Bool.false_or,
      Bool.and_eq_true, List.all_eq_true] at hok
    obtain ⟨hrule, huuids⟩ := hok
    -- The commit deletes the row of the rule, or does not have it.
    have hid : ∀ rule, apply.session.get? id = some rule →
        rule.loaded.work = some .delete ∧ rule.current.applyStatus ≠ .failed := by
      intro rule hget
      simpa [hget] using hrule
    show Kept tenantId id uuids { s with db, applies := s.applies.erase run }
    refine hended.table (.of_bind (f := fun k stored => if deletesRow apply.session k then none else
      some ((apply.session.get? k).elim stored fun rule =>
        rule.loaded.write rule.current stored)) (FirewallDb.next_of_commit? hcommit) (fun k => ?_)
      fun k stored rule' _ hwritten => ?_) fun hsome => ?_
    · show db.rules.get? k = (s.db.rules.get? k).bind _
      rw [FirewallDb.rules_of_commit? hcommit]
      cases s.db.rules.get? k with
      | none => split <;> rfl
      | some stored => cases apply.session.get? k <;> rfl
    · split at hwritten
      case isTrue => cases hwritten
      case isFalse hkeeps =>
        obtain rfl := Option.some.inj hwritten
        cases hsession : apply.session.get? k with
        | none => exact .refl k stored
        | some rule =>
          rw [Option.elim_some]
          refine .of_ne ?_ fun hmem => ?_
          · rintro rfl
            obtain ⟨hwork, hstatus⟩ := hid rule hsession
            simp [deletesRow, hsession, hwork, hstatus] at hkeeps
          · rcases writeColumn_cases rule.loaded (·.uuid) rule.current.uuid stored.uuid with
              hkept | ⟨hwritten, hchanged⟩
            · exact hkept
            · have hkeepsUuid := huuids ⟨k, rule⟩ (Table.get?_eq_some_iff.mp hsession)
              have hgiven : rule.current.uuid ∈ uuids := hwritten ▸ hmem
              simp [keepsUuid, Ne.symm hchanged, hgiven] at hkeepsUuid
    · -- If the row is deleted, the run has deleted the rule on OPNsense.
      obtain ⟨row, hrow⟩ := Option.isSome_iff_exists.mp hsome
      cases hsession : apply.session.get? id with
      | none =>
        left
        rw [FirewallDb.rules_of_commit? hcommit, deletesRow, hsession]
        simp [hrow]
      | some rule =>
        right
        intro uuid hmem
        obtain ⟨hwork, hstatus⟩ := hid rule hsession
        obtain ⟨-, hpending | hfailed | hnone⟩ := h.runs run apply hrun rule row hsession hwork hrow
        · rw [hphase] at hpending
          cases hpending
        · exact absurd hfailed hstatus
        · by_cases huuid : uuid = row.uuid
          · rw [huuid]
            exact hnone (huuid ▸ hmem)
          · refine h.absent uuid hmem fun row' hrow' => ?_
            obtain rfl := Option.some.inj (hrow.symm.trans hrow')
            exact Ne.symm huuid

/-! ### Other runs -/

/-- A run for a single rule calls OPNsense. -/
theorem Kept.callRule {result : CallResult} {newUuid : String} {last : Bool}
    (hok : sparesMark tenantId id uuids s (.callRule run result newUuid last) = true)
    (hstep : callRule? s run result newUuid last = some s') : Kept tenantId id uuids s' := by
  simp only [callRule?, Option.bind_eq_bind, Option.bind_eq_some_iff, Option.pure_def] at hstep
  obtain ⟨call, hrun, -, -, -, -, hstep⟩ := hstep
  obtain rfl := Option.some.inj hstep
  refine h.of_spares (.refl id uuids s.db) (fun rule hget => Or.inl (by rw [hget]; rfl))
    (fun uuid hmem hnone => ?_) fun _ _ hget => Or.inl hget
  dsimp only
  split
  case isFalse => exact hnone
  case isTrue heffect =>
    have hother : writesOther id uuids call.operation call.ruleId
        ((call.loaded.map (·.uuid)).getD "") newUuid = true := by
      simpa [sparesMark, heffect, hrun] using hok
    unfold ruleCall
    cases hloaded : call.loaded with
    | none =>
      cases hoperation : call.operation with
      | create =>
        have hne : uuid ≠ newUuid := by
          rintro rfl
          simp [writesOther, hoperation, hmem] at hother
        simp [hne, hnone]
      | update => exact hnone
      | delete => exact hnone
    | some rule =>
      rw [hloaded] at hother
      cases hoperation : call.operation with
      | create =>
        have hne : uuid ≠ newUuid := by
          rintro rfl
          simp [writesOther, hoperation, hmem] at hother
        simp [hne, hnone]
      | update =>
        have hne : uuid ≠ rule.uuid := by
          rintro rfl
          simp [writesOther, hoperation, hmem] at hother
        simp [hne, hnone]
      | delete => simp [hnone]

/-- A run for a single rule commits. -/
theorem Kept.commitRule (hok : sparesMark tenantId id uuids s (.commitRule run) = true)
    (hstep : commitRule? s run = some s') : Kept tenantId id uuids s' := by
  simp only [commitRule?, Option.bind_eq_bind, Option.bind_eq_some_iff, Option.pure_def] at hstep
  obtain ⟨call, hrun, loaded, hloaded, current, hcurrent, hstep⟩ := hstep
  obtain rfl := Option.some.inj hstep
  simp only [sparesMark, hrun, hloaded, hcurrent, Option.all_some, Bool.and_eq_true] at hok
  obtain ⟨hother, huuid⟩ := hok
  refine Kept.frame (h.commit fun db hcommit => ?_) rfl rfl rfl
  split at hcommit
  case isFalse => cases hcommit
  case isTrue =>
    refine h.modify (FirewallDb.rules_of_save? hcommit) fun stored _ => ?_
    have hgiven : (loaded.write current stored).uuid ∈ uuids →
        (loaded.write current stored).uuid = stored.uuid := by
      intro hmem
      rcases writeColumn_cases loaded (·.uuid) current.uuid stored.uuid with
        hkept | ⟨hwritten, hchanged⟩
      · exact hkept
      · have hin : current.uuid ∈ uuids := hwritten ▸ hmem
        simp [keepsUuid, Ne.symm hchanged, hin] at huuid
    by_cases hid : call.ruleId = id
    · -- The run has not changed the rule, and writes nothing.
      have hsame : current = loaded := by simpa [hid] using hother
      have hwrite : ∀ {β : Type} [DecidableEq β] (column : OPNsenseFirewallRule → β),
          writeColumn (some loaded) column (column current) (column stored) = column stored :=
        fun column => if_pos (by rw [hsame]; rfl)
      exact ⟨hgiven, fun _ => ⟨rfl, hwrite (·.uuid), Or.inl (hwrite (·.applyStatus))⟩⟩
    · exact .of_ne hid hgiven

/-- All pending rules count as synced. -/
theorem Kept.applyOpnsense {returns : Bool} (hstep : applyOpnsense? tenantId s returns = some s') :
    Kept tenantId id uuids s' := by
  simp only [applyOpnsense?, Option.bind_eq_bind, Option.bind_eq_some_iff, Option.pure_def] at hstep
  obtain ⟨-, -, db, hsave, hstep⟩ := hstep
  obtain rfl := Option.some.inj hstep
  have hdb := FirewallDb.rules_of_save? hsave
  refine h.table (.of_bind (f := fun _ rule => some (if rule.tenantId = tenantId ∧
    rule.applyStatus = .pending then { rule with applyStatus := .synced } else rule))
    (by rw [hdb]; rfl) (fun k => ?_) fun k rule rule' hrule hwritten => ?_) fun hsome => Or.inl ?_
  · rw [hdb, Serial.get?_mapRows]
    cases s.db.rules.get? k <;> rfl
  · obtain rfl := Option.some.inj hwritten
    split
    case isFalse => exact .refl k rule
    case isTrue hpending =>
      refine .of_ne ?_ fun _ => rfl
      rintro rfl
      -- The rule is not pending.
      have hmarked := (h.row rule hrule).2
      rw [hpending.2] at hmarked
      cases hmarked
  · rw [hdb, Serial.get?_mapRows, Option.isSome_map]
    exact hsome

/-- The synchronisation visits a listed rule. -/
theorem Kept.visitSync (hok : sparesMark tenantId id uuids s (.visitSync run) = true)
    (hstep : visitSync? tenantId s run = some s') : Kept tenantId id uuids s' := by
  obtain ⟨sync, uuid, payload, todo, content, syncs, db, hrun, hnext, -, hwrite, rfl⟩ :=
    visitSync_cases hstep
  have hdb : Kept tenantId id uuids { s with db } := by
    cases hwrite with
    | same => exact h
    | @update k rule _ _ _ hsynced hdb =>
      refine h.modify hdb fun stored _ => ?_
      -- Neither the uuid nor the status of the row is written.
      have huuid : writeColumn (some rule) (·.uuid) rule.uuid stored.uuid = stored.uuid := if_pos rfl
      have hstatus : writeColumn (some rule) (·.applyStatus) .synced stored.applyStatus =
          stored.applyStatus := if_pos (by rw [← hsynced]; rfl)
      exact ⟨fun _ => huuid, fun _ => ⟨rfl, huuid, Or.inl hstatus⟩⟩
    | insert hunknown hdb =>
      refine h.add hdb fun hmem => ?_
      simp [sparesMark, hrun, hnext, hunknown] at hok
      exact hok hmem
  exact hdb.frame rfl rfl rfl

/-- The synchronisation looks for a rule of the table among those listed. -/
theorem Kept.sweepSync (hok : sparesMark tenantId id uuids s (.sweepSync run) = true)
    (hstep : sweepSync? s run = some s') : Kept tenantId id uuids s' := by
  obtain ⟨sync, syncs, db, hrun, hwrite, rfl⟩ := sweepSync_cases hstep
  have hdb : Kept tenantId id uuids { s with db } := by
    cases hwrite with
    | same => exact h
    | @delete uuid k rule todo _ hnext hnotlisted hcached hsynced hdb =>
      refine h.table (.of_bind (f := fun k' rule => if k' = k then none else some rule)
        (by rw [hdb]; rfl) (fun k' => ?_) fun k' rule rule' _ hkept => ?_) fun hsome => ?_
      · rw [hdb, Serial.get?_deleteWhere]
        cases s.db.rules.get? k' with
        | none => rfl
        | some rule => by_cases heq : k' = k <;> simp [heq]
      · split at hkept
        case isTrue => cases hkept
        case isFalse =>
          obtain rfl := Option.some.inj hkept
          exact .refl k' rule
      · by_cases heq : k = id
        · subst heq
          right
          have hsweep : sync.phase.sweep? = some ((uuid, k), todo) := by
            rw [hnext]
            rfl
          have hgone : isGone uuids s = true := by
            simpa [sparesMark, hrun, hsweep, hnotlisted, hcached, hsynced] using hok
          intro g hmem
          exact Option.isNone_iff_eq_none.mp (List.all_eq_true.mp hgone g hmem)
        · left
          obtain ⟨row, hrow⟩ := Option.isSome_iff_exists.mp hsome
          rw [hdb, Serial.get?_deleteWhere, hrow]
          simp [Ne.symm heq]
  exact hdb.frame rfl rfl rfl

/-! ### Steps -/

/-- A step that is not possible changes nothing. -/
theorem Kept.of_step? {next : Option State} (hnext : ∀ s', next = some s' → Kept tenantId id uuids s') :
    Kept tenantId id uuids (next.getD s) := by
  cases next with
  | none => exact h
  | some s' => exact hnext s' rfl

/-- A step of the endpoints and tasks for rules. -/
theorem Kept.step {e : Event} (hok : sparesMark tenantId id uuids s e = true) :
    Kept tenantId id uuids (s.step tenantId e) := by
  refine h.of_step? fun s' hstep => ?_
  cases e with
  | createRule data token => exact Option.some.inj hstep ▸ h.createRule data token
  | updateRule uuid data =>
    obtain ⟨hother, huuid⟩ := Bool.and_eq_true_iff.mp hok
    exact Option.some.inj hstep ▸ h.updateRule hother huuid
  | deleteRule uuid => exact Option.some.inj hstep ▸ h.deleteRule uuid
  | toggleRule uuid => exact Option.some.inj hstep ▸ h.toggleRule hok
  | moveRuleUp uuid => exact Option.some.inj hstep ▸ h.moveRuleUp hok
  | moveRuleDown uuid => exact Option.some.inj hstep ▸ h.moveRuleDown hok
  | startApply run => exact h.startApply hstep
  | pushRule run result newUuid => exact h.pushRule hok hstep
  | readOrder run => exact h.readOrder hstep
  | listOrder run returns => exact h.listOrder hstep
  | moveRule run result => exact h.moveRule hstep
  | reloadRules run result => exact h.reloadRules hstep
  | commitApply run => exact h.commitApply hok hstep
  | abortApply run => exact Option.some.inj hstep ▸ h.abortApply run
  | openRule run operation ruleId data =>
    simp only [State.step?, openRule?, Option.bind_eq_bind, Option.bind_eq_some_iff,
      Option.pure_def] at hstep
    obtain ⟨-, -, -, -, hstep⟩ := hstep
    exact Option.some.inj hstep ▸ h.frame rfl rfl rfl
  | callRule run result newUuid last => exact h.callRule hok hstep
  | commitRule run => exact h.commitRule hok hstep
  | abortRule run => exact Option.some.inj hstep ▸ h.frame rfl rfl rfl
  | applyOpnsense returns => exact h.applyOpnsense hstep
  | openSync run =>
    simp only [State.step?, openSync?, Option.bind_eq_bind, Option.bind_eq_some_iff,
      Option.pure_def] at hstep
    obtain ⟨-, -, hstep⟩ := hstep
    exact Option.some.inj hstep ▸ h.frame rfl rfl rfl
  | loadSync run =>
    simp only [State.step?, loadSync?, Option.bind_eq_bind, Option.bind_eq_some_iff,
      Option.pure_def] at hstep
    obtain ⟨sync, -, -, -, hstep⟩ := hstep
    exact Option.some.inj hstep ▸ h.frame rfl rfl rfl
  | refreshSync run id' =>
    simp only [State.step?, refreshSync?, Option.bind_eq_bind, Option.bind_eq_some_iff,
      Option.pure_def] at hstep
    obtain ⟨sync, -, -, -, rule, -, hstep⟩ := hstep
    exact Option.some.inj hstep ▸ h.frame rfl rfl rfl
  | visitSync run => exact h.visitSync hok hstep
  | sweepSync run => exact h.sweepSync hok hstep
  | abortSync run => exact Option.some.inj hstep ▸ h.frame rfl rfl rfl
  -- a change of the stored order keeps all rows
  | reorder k =>
    obtain ⟨db, hsave, rfl⟩ := Option.map_eq_some_iff.mp hstep
    have hdb := FirewallDb.rules_of_save? hsave
    refine h.table (.of_bind (f := fun _ rule => some rule) (by rw [hdb]; rfl) (fun k' => ?_)
      fun k' rule rule' _ hkept => ?_) fun hsome => Or.inl ?_
    · rw [hdb, Serial.get?_toFront]
      cases s.db.rules.get? k' <;> rfl
    · obtain rfl := Option.some.inj hkept
      exact .refl k' rule
    · rw [hdb, Serial.get?_toFront]
      exact hsome

/-- Every step that spares the mark keeps the invariant. -/
theorem Kept.tenantStep {e : TenantEvent} (hok : sparesDeletion tenantId id uuids s e = true) :
    Kept tenantId id uuids (s.tenantStep tenantId e) := by
  cases e with
  | rules e => exact h.step hok
  | provisionTunnel tunnel =>
    refine h.commit fun db hcommit => ?_
    obtain ⟨hnext, hkept, hrows⟩ := get?_ensureFirewallRules hcommit
    refine h.table ⟨hnext, fun k rule hget => ?_⟩ fun hsome => Or.inl ?_
    · rcases hrows k rule hget with hold | ⟨hnew, hplaceholder⟩
      · exact Or.inl ⟨rule, hold, .refl k rule⟩
      · refine Or.inr ⟨hnew, fun hmem => ?_⟩
        rw [h.real _ hmem] at hplaceholder
        cases hplaceholder
    · obtain ⟨rule, hrule⟩ := Option.isSome_iff_exists.mp hsome
      rw [hkept id rule hrule]
      rfl
  | destroyTunnel name =>
    refine h.commit fun db hcommit => ?_
    obtain ⟨hnext, hget⟩ := get?_deleteTunnelRules hcommit
    refine h.table (.of_bind hnext hget fun k rule rule' hrule hwritten => ?_) fun hsome => ?_
    · split at hwritten
      case isTrue =>
        obtain rfl := Option.some.inj hwritten
        exact .refl k rule
      case isFalse =>
        split at hwritten
        case isTrue =>
          obtain rfl := Option.some.inj hwritten
          exact ⟨fun _ => rfl, fun _ => ⟨rfl, rfl, Or.inr rfl⟩⟩
        case isFalse => cases hwritten
    · obtain ⟨rule, hrule⟩ := Option.isSome_iff_exists.mp hsome
      cases hfound : isTunnelRule tenantId name rule with
      | false =>
        left
        simp [hget, hrule, hfound]
      | true =>
        right
        have hgone : isGone uuids s = true := by
          simpa [sparesDeletion, hrule, hfound] using hok
        exact fun g hmem => Option.isNone_iff_eq_none.mp (List.all_eq_true.mp hgone g hmem)

end Steps

/-! ### Runs -/

/-- The invariant holds once the deletion was requested. -/
theorem Requests.kept {uuid : String} (h : Requests tenantId id uuids uuid s) :
    Kept tenantId id uuids (s.step tenantId (.deleteRule uuid)) := by
  obtain ⟨⟨found, rule⟩, hfound, rfl⟩ := Option.map_eq_some_iff.mp h.found
  obtain ⟨hget, htenant, huuid⟩ := get?_of_findRule hfound
  dsimp only at hget htenant huuid
  have hvalid : ValidRules s.db.tenants (s.db.rules.modify found fun rule =>
      { rule with applyStatus := .pendingDelete }) :=
    s.db.valid_modify found (fun _ => rfl) fun _ => rfl
  have hstep : s.step tenantId (.deleteRule uuid) = { s with db := ⟨s.db.tenants, _, hvalid⟩ } := by
    have hdelete : deleteRule s.db tenantId uuid = .ok ⟨s.db.tenants, _, hvalid⟩ := by
      simp only [ProxmoxIaas.deleteRule, Except.bind_eq_ok_iff, Except.ofOption_eq_ok_iff]
      exact ⟨(found, rule), hfound, FirewallDb.save?_of_valid hvalid⟩
    show s.edit (deleteRule s.db tenantId uuid) = _
    rw [hdelete]
    rfl
  have hrows : ∀ k, (s.db.rules.modify found fun rule =>
      { rule with applyStatus := .pendingDelete }).get? k = if k = found then
        some { rule with applyStatus := .pendingDelete } else s.db.rules.get? k := by
    intro k
    rw [Serial.get?_modify]
    split
    case isTrue heq => rw [heq, hget, Option.map_some]
    case isFalse => rfl
  rw [hstep]
  refine ⟨(Serial.bound_of_get? hget).2, fun rule' hrule' => ?_, fun k rule' hrule' hmem => ?_,
    fun given hmem hno => ?_, fun run apply hrun rule' row hloaded hwork => ?_, fun given hmem =>
      ((h.mem_uuids given).mp hmem).1⟩
  · rw [hrows, if_pos rfl] at hrule'
    obtain rfl := Option.some.inj hrule'
    exact ⟨htenant, rfl⟩
  · by_contra hne
    rw [hrows, if_neg hne] at hrule'
    by_cases huuid' : rule'.uuid = uuid
    · exact hne (s.db.eq_of_uuid hrule' hget (huuid'.trans huuid.symm))
    · exact (h.others _ hmem huuid').2 k rule' hrule' rfl
  · have hne : rule.uuid ≠ given := hno { rule with applyStatus := .pendingDelete }
      ((hrows found).trans (if_pos rfl))
    exact (h.others given hmem fun heq => hne (huuid.trans heq.symm)).1
  · exact absurd hwork (h.notLoaded run apply rule' hrun hloaded)

/-- Under the invariant no row of the rule is pending or synced, and a complete apply run removes the
rule. -/
theorem Kept.notLost (h : Kept tenantId id uuids s) : NotLost tenantId id uuids s where
  marked k rule hget hrule := by
    have hid : k = id := hrule.elim (fun heq => heq) (h.others k rule hget)
    subst hid
    rw [(h.row rule hget).2]
    exact ⟨nofun, nofun⟩
  removed run newUuid hrun hnew hgiven := by
    refine ⟨?_, fun uuid hmem => ?_⟩
    · rw [rules_applyAll hrun hnew]
      cases hget : s.db.rules.get? id with
      | none => rfl
      | some rule =>
        obtain ⟨htenant, hstatus⟩ := h.row rule hget
        rw [Option.bind_some, appliedRow, if_neg (not_not.mpr htenant), OPNsenseFirewallRule.work,
          hstatus]
    · by_cases hrow : ∃ rule, s.db.rules.get? id = some rule ∧ rule.uuid = uuid
      · -- The run deletes the rule on OPNsense.
        obtain ⟨rule, hget, rfl⟩ := hrow
        obtain ⟨htenant, hstatus⟩ := h.row rule hget
        refine opnsense_applyAll_of_some hrun hnew hget htenant ?_
        have hwork : rule.work = some .delete := by rw [OPNsenseFirewallRule.work, hstatus]
        rw [pushWrites, hwork]
        exact if_pos ⟨h.real _ hmem, rfl⟩
      · have hne : ∀ rule, s.db.rules.get? id = some rule → rule.uuid ≠ uuid :=
          fun rule hget heq => hrow ⟨rule, hget, heq⟩
        rw [opnsense_applyAll_of_none hrun hnew]
        · exact h.absent uuid hmem hne
        · intro k rule hget _
          by_contra hwritten
          obtain ⟨value, hwrites⟩ := Option.ne_none_iff_exists'.mp hwritten
          rcases uuid_of_pushWrites hwrites with heq | heq
          · obtain rfl := h.others k rule hget (heq ▸ hmem)
            exact hne rule hget heq.symm
          · exact hgiven k (by rw [hget]; rfl) (heq ▸ hmem)

/-- While every step spares the mark, a requested deletion is not lost. -/
theorem deletion_not_lost (h : (deletionMachine tenantId id uuids).Reachable
    (fun s e => sparesDeletion tenantId id uuids s e = true) s) : NotLost tenantId id uuids s := by
  refine Kept.notLost (h.invariant (Kept tenantId id uuids) ?_ fun s e hkept hok =>
    hkept.tenantStep hok)
  rintro s ⟨before, uuid, hrequests, rfl⟩
  exact hrequests.kept

/-- A deletion is requested while no task is running. -/
private theorem requests_of_start {uuid : String}
    (hfound : (findRule s.db tenantId uuid).map Prod.fst = some id)
    (hreal : isPlaceholder uuid = false) (hcreated : s.created = []) (happlies : s.applies = ∅) :
    Requests tenantId id [uuid] uuid s where
  found := hfound
  mem_uuids given := by
    rw [List.mem_singleton, hcreated]
    constructor
    · rintro rfl
      exact ⟨hreal, Or.inl rfl⟩
    · rintro ⟨-, heq | hgiven⟩
      · exact heq
      · cases hgiven
  others given hmem hne := absurd (List.mem_singleton.mp hmem) hne
  notLoaded _ _ _ hrun := by
    rw [happlies] at hrun
    cases hrun

/-- A tunnel is provisioned, and an apply run deletes the rule. -/
theorem deletion_not_lost_small : NotLost 1 1 ["7b9d4f10-6a3c-4e8e-b2d1-5c0f8e7a6d93"]
    ((deletionMachine 1 1 ["7b9d4f10-6a3c-4e8e-b2d1-5c0f8e7a6d93"]).run
      (syncedRuleState.step 1 (.deleteRule "7b9d4f10-6a3c-4e8e-b2d1-5c0f8e7a6d93"))
      [.rules (.startApply 0),
        .provisionTunnel ⟨1, "office", 51820, "opt1", []⟩,
        .rules (.pushRule 0 .returns ""), .rules (.readOrder 0), .rules (.listOrder 0 true),
        .rules (.reloadRules 0 .returns), .rules (.commitApply 0), .destroyTunnel "office"]) :=
  have hinit : (deletionMachine 1 1 ["7b9d4f10-6a3c-4e8e-b2d1-5c0f8e7a6d93"]).init
      (syncedRuleState.step 1 (.deleteRule "7b9d4f10-6a3c-4e8e-b2d1-5c0f8e7a6d93")) :=
    ⟨syncedRuleState, _, requests_of_start (by decide +kernel) (by decide +kernel) rfl rfl, rfl⟩
  deletion_not_lost ((Machine.Reachable.start hinit).run (by decide +kernel))

/-- Moves, edits of other rules, the provisioning and destruction of tunnels, apply runs and the
synchronisation. -/
def editsOthers (id : ℕ) (s : State) : TenantEvent → Bool
  | .rules (.updateRule uuid _) | .rules (.toggleRule uuid) => isOther id s uuid
  | .rules (.moveRuleUp _) | .rules (.moveRuleDown _) => true
  | .rules e => e.appliesOrSyncs
  | .provisionTunnel _ | .destroyTunnel _ => true

/-- A tenant with two rules that are on OPNsense. -/
def twoRulesState : State where
  db :=
    { tenants := [1]
      rules := (Serial.empty.add
        { tenantId := 1
          uuid := "7b9d4f10-6a3c-4e8e-b2d1-5c0f8e7a6d93"
          content := defaultContent
          applyStatus := .synced
          applyError := none }).add
        { tenantId := 1
          uuid := "2c1e3a5e-8d2f-4c7b-9a65-1f0d3b7c9e42"
          content := { defaultContent with sequence := some 200 }
          applyStatus := .synced
          applyError := none }
      valid := by decide +kernel }
  opnsense := Table.append
    (Table.append ∅ "7b9d4f10-6a3c-4e8e-b2d1-5c0f8e7a6d93" defaultContent.toOpnsensePayload)
    "2c1e3a5e-8d2f-4c7b-9a65-1f0d3b7c9e42"
    (RuleContent.toOpnsensePayload { defaultContent with sequence := some 200 })
  applies := ∅
  rules := ∅
  syncs := ∅
  created := []

/-- The first of two rules is deleted, and the second one moved up. -/
theorem deletion_lost : ¬ ∀ tenantId id uuids s, (deletionMachine tenantId id uuids).Reachable
    (fun s e => editsOthers id s e = true) s → NotLost tenantId id uuids s := by
  intro h
  have hinit : (deletionMachine 1 1 ["7b9d4f10-6a3c-4e8e-b2d1-5c0f8e7a6d93"]).init
      (twoRulesState.step 1 (.deleteRule "7b9d4f10-6a3c-4e8e-b2d1-5c0f8e7a6d93")) :=
    ⟨twoRulesState, _, requests_of_start (by decide +kernel) (by decide +kernel) rfl rfl, rfl⟩
  have hlost := h 1 1 ["7b9d4f10-6a3c-4e8e-b2d1-5c0f8e7a6d93"]
    ((deletionMachine 1 1 ["7b9d4f10-6a3c-4e8e-b2d1-5c0f8e7a6d93"]).run
      (twoRulesState.step 1 (.deleteRule "7b9d4f10-6a3c-4e8e-b2d1-5c0f8e7a6d93"))
      [.rules (.moveRuleUp "2c1e3a5e-8d2f-4c7b-9a65-1f0d3b7c9e42")])
    ((Machine.Reachable.start hinit).run (by decide +kernel))
  have hpending : ∀ (k : ℕ) (rule : OPNsenseFirewallRule),
      ((deletionMachine 1 1 ["7b9d4f10-6a3c-4e8e-b2d1-5c0f8e7a6d93"]).run
        (twoRulesState.step 1 (.deleteRule "7b9d4f10-6a3c-4e8e-b2d1-5c0f8e7a6d93"))
        [.rules (.moveRuleUp "2c1e3a5e-8d2f-4c7b-9a65-1f0d3b7c9e42")]).db.rules.get? k = some rule →
      rule.applyStatus = .pending := Serial.forall_get?_iff.mpr (by decide +kernel)
  obtain ⟨rule, hget⟩ := Option.isSome_iff_exists.mp (by decide +kernel :
    (((deletionMachine 1 1 ["7b9d4f10-6a3c-4e8e-b2d1-5c0f8e7a6d93"]).run
      (twoRulesState.step 1 (.deleteRule "7b9d4f10-6a3c-4e8e-b2d1-5c0f8e7a6d93"))
      [.rules (.moveRuleUp "2c1e3a5e-8d2f-4c7b-9a65-1f0d3b7c9e42")]).db.rules.get? 1).isSome = true)
  exact (hlost.marked 1 rule hget (Or.inl rfl)).1 (hpending 1 rule hget)

end Firewall

end ProxmoxIaas
