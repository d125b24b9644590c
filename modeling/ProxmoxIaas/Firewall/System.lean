import ProxmoxIaas.Firewall.Tasks
import ProxmoxIaas.Foundation.Machine
import ProxmoxIaas.Foundation.Result

/-!
# The Firewall System

The endpoints and the tasks of one tenant that edit, push and read firewall rules, interleaved at
the granularity of commits and of calls to OPNsense. Nothing else edits the rules on OPNsense.

A run of a task may end at any point, with an exception or because its worker has crashed. A retry
or a redelivery is another run, which may start before the first one has ended.
-/

namespace ProxmoxIaas.Firewall

/-- The table, the rules on OPNsense, and the runs of the tasks. -/
structure State where
  /-- The committed table. -/
  db : FirewallDb
  /-- The rules on the OPNsense VM of the tenant. -/
  opnsense : Opnsense
  /-- The runs of `apply_all_pending_rules_task`. -/
  applies : Table ℕ ApplyRun
  /-- The runs of `apply_firewall_rule_task`. -/
  rules : Table ℕ RuleRun
  /-- The runs of `sync_firewall_rules_task`. -/
  syncs : Table ℕ SyncRun
  /-- The rules that were added on OPNsense: the row, and the uuid that OPNsense has given. -/
  created : List (ℕ × String)

/-- What can happen next. -/
inductive Event where
  /-- `create_rule`. -/
  | createRule (data : RuleBody) (token : String)
  /-- `update_rule`. -/
  | updateRule (uuid : String) (data : RuleBody)
  /-- `delete_rule`. -/
  | deleteRule (uuid : String)
  /-- `toggle_rule`. -/
  | toggleRule (uuid : String)
  /-- `move_rule_up`. -/
  | moveRuleUp (uuid : String)
  /-- `move_rule_down`. -/
  | moveRuleDown (uuid : String)
  /-- An apply run reads the rules it will push. -/
  | startApply (run : ℕ)
  /-- An apply run pushes its next rule. -/
  | pushRule (run : ℕ) (result : CallResult) (newUuid : String)
  /-- An apply run reads the order of the rules. -/
  | readOrder (run : ℕ)
  /-- An apply run lists the rules on OPNsense. -/
  | listOrder (run : ℕ) (returns : Bool)
  /-- An apply run moves a rule. -/
  | moveRule (run : ℕ) (result : CallResult)
  /-- An apply run reloads the rules. -/
  | reloadRules (run : ℕ) (result : CallResult)
  /-- An apply run commits. -/
  | commitApply (run : ℕ)
  /-- An apply run ends without a commit. -/
  | abortApply (run : ℕ)
  /-- A run of `apply_firewall_rule_task` loads its rule. -/
  | openRule (run : ℕ) (operation : Work) (ruleId : ℕ) (data : Payload)
  /-- It calls OPNsense; `last` tells whether it has no retries left. -/
  | callRule (run : ℕ) (result : CallResult) (newUuid : String) (last : Bool)
  /-- It commits. -/
  | commitRule (run : ℕ)
  /-- It ends without a commit. -/
  | abortRule (run : ℕ)
  /-- `apply_opnsense_firewall_task` reloads the rules and commits. -/
  | applyOpnsense (returns : Bool)
  /-- A run of the synchronisation lists the rules on OPNsense. -/
  | openSync (run : ℕ)
  /-- It reads the table. -/
  | loadSync (run : ℕ)
  /-- It reads a row that has expired. -/
  | refreshSync (run id : ℕ)
  /-- It visits the next listed rule. -/
  | visitSync (run : ℕ)
  /-- It looks for the next rule of the table among those listed, and commits at the end. -/
  | sweepSync (run : ℕ)
  /-- It ends with an exception. -/
  | abortSync (run : ℕ)
  /-- The storage order of the table changes. -/
  | reorder (id : ℕ)

variable (tenantId : ℕ) (s : State)

/-- A request that raises leaves the table as it was. -/
def State.edit (result : Except ApiError FirewallDb) : State :=
  match result with
  | .error _ => s
  | .ok db => { s with db }

/-- A uuid is in use by nothing, and fits into its column. -/
def State.fresh (uuid : String) : Bool :=
  (Table.get? s.opnsense uuid).isNone && (s.db.rules.first? fun _ rule => rule.uuid = uuid).isNone &&
    !(s.created.any fun rule => rule.2 = uuid) && decide (uuid.toList.length ≤ 36) &&
    !isPlaceholder uuid

/-! ### Apply runs -/

/-- The rules that are pending are read; without any the run ends. -/
def startApply? (run : ℕ) : Option State := do
  Option.require ((s.applies.get? run).isNone = true)
  let session := pendingRules s.db tenantId
  Option.require (session.entries ≠ [])
  return { s with
    applies := s.applies.insert run { session, applied := 0, phase := .push (workList session) } }

/-- The next rule is pushed. OPNsense gives a new rule a uuid that is not in use. -/
def pushRule? (run : ℕ) (result : CallResult) (newUuid : String) : Option State := do
  let apply ← s.applies.get? run
  let (id, todo) ← apply.phase.push?
  let rule ← apply.session.get? id
  let work ← rule.loaded.work
  let result := pushResult work rule.current result
  Option.require (work = .create → result.tookEffect = true → s.fresh newUuid = true)
  return { s with
    opnsense := if result.tookEffect then pushCall work rule.current newUuid s.opnsense
      else s.opnsense
    created := if work = .create ∧ result.tookEffect then s.created ++ [(id, newUuid)]
      else s.created
    applies := s.applies.insert run {
      session := apply.session.modify id (·.push work newUuid result)
      applied := if result = .returns then apply.applied + 1 else apply.applied
      phase := .push todo } }

/-- The order of the rules is read. A rule of the session shows the uuid that it was given. -/
def readOrder? (run : ℕ) : Option State := do
  let apply ← s.applies.get? run
  Option.require (apply.phase = .push [])
  let desired := (rulesBySequence s.db tenantId).map fun (id, rule) =>
    ((apply.session.get? id).map (·.current.uuid)).getD rule.uuid
  return { s with applies := s.applies.insert run { apply with phase := .order desired } }

/-- The rules on OPNsense are listed. Without an answer no rule is moved. -/
def listOrder? (run : ℕ) (returns : Bool) : Option State := do
  let apply ← s.applies.get? run
  let desired ← apply.phase.order?
  let listed := if returns then s.opnsense.listRules.map Prod.fst else []
  return { s with
    applies := s.applies.insert run { apply with phase := .move (movesFor desired listed) } }

/-- A rule is moved in front of another one; an exception is only logged. -/
def moveRule? (run : ℕ) (result : CallResult) : Option State := do
  let apply ← s.applies.get? run
  let ((uuid, next), moves) ← apply.phase.move?
  return { s with
    opnsense := if result.tookEffect then Table.moveBefore s.opnsense uuid next else s.opnsense
    applies := s.applies.insert run { apply with phase := .move moves } }

/-- The rules are reloaded, if any was pushed. -/
def reloadRules? (run : ℕ) (result : CallResult) : Option State := do
  let apply ← s.applies.get? run
  Option.require (apply.phase = .move [])
  let session := match result with
    | .returns => apply.session
    | .raises _ error =>
      if 0 < apply.applied then apply.session.mapRows fun _ rule => rule.failReload error
      else apply.session
  return { s with applies := s.applies.insert run { apply with session, phase := .commit } }

/-- The run commits, or is rolled back if the commit raises. -/
def commitApply? (run : ℕ) : Option State := do
  let apply ← s.applies.get? run
  Option.require (apply.phase = .commit)
  return { s with
    db := (s.db.commit? apply.session).getD s.db
    applies := s.applies.erase run }

/-! ### Runs for a single rule -/

/-- The rule is loaded; a run that finds none goes on only to create it. -/
def openRule? (run : ℕ) (operation : Work) (ruleId : ℕ) (data : Payload) : Option State := do
  Option.require ((s.rules.get? run).isNone = true)
  let loaded := s.db.rules.get? ruleId
  Option.require (loaded.isSome = true ∨ operation = .create)
  let data := if operation = .create then withSequence s.db tenantId data else data
  return { s with
    rules := s.rules.insert run { operation, ruleId, data, loaded, current := none } }

/-- The effect of the call of a run for a single rule. -/
def ruleCall (operation : Work) (data : Payload) (loaded : Option OPNsenseFirewallRule)
    (newUuid : String) (opnsense : Opnsense) : Opnsense :=
  match operation, loaded with
  | .create, _ => opnsense.addRule newUuid data
  | .update, some rule => opnsense.setRule rule.uuid rule.payload
  | .delete, some rule => opnsense.delRule rule.uuid
  | _, none => opnsense

/-- OPNsense is called. A run whose call raises is retried or, if it was the last one, commits the
error; without a row there is nothing to commit. -/
def callRule? (run : ℕ) (result : CallResult) (newUuid : String) (last : Bool) : Option State := do
  let { operation, ruleId, data, loaded, current } ← s.rules.get? run
  Option.require (current = none)
  Option.require (operation = .create → result.tookEffect = true → s.fresh newUuid = true)
  let current := match result with
    | .returns => loaded.map (·.applied operation newUuid)
    | .raises _ error => if last then loaded.map (·.fail error) else none
  return { s with
    opnsense := if result.tookEffect then ruleCall operation data loaded newUuid s.opnsense
      else s.opnsense
    created := if operation = .create ∧ result.tookEffect then s.created ++ [(ruleId, newUuid)]
      else s.created
    rules := match current with
      | some rule => s.rules.insert run { operation, ruleId, data, loaded, current := some rule }
      | none => s.rules.erase run }

/-- The row is committed, unless it is gone or a constraint is violated. -/
def commitRule? (run : ℕ) : Option State := do
  let { ruleId, loaded, current, .. } ← s.rules.get? run
  let loaded ← loaded
  let current ← current
  let db := if (s.db.rules.get? ruleId).isSome then
      s.db.save? (s.db.rules.modify ruleId (loaded.write current))
    else none
  return { s with db := db.getD s.db, rules := s.rules.erase run }

/-- All pending rules of the tenant count as synced. -/
def applyOpnsense? (returns : Bool) : Option State := do
  Option.require (returns = true)
  let db ← s.db.save? <| s.db.rules.mapRows fun _ rule =>
    if rule.tenantId = tenantId ∧ rule.applyStatus = .pending then
      { rule with applyStatus := .synced }
    else rule
  return { s with db }

/-! ### Synchronisation -/

/-- The rules on OPNsense are listed. -/
def openSync? (run : ℕ) : Option State := do
  Option.require ((s.syncs.get? run).isNone = true)
  let sync : SyncRun :=
    { listed := s.opnsense.listRules, known := [], cache := ∅, touched := [], phase := .load }
  return { s with syncs := s.syncs.insert run sync }

/-- The rules of the tenant are read. -/
def loadSync? (run : ℕ) : Option State := do
  let sync ← s.syncs.get? run
  Option.require (sync.phase = .load)
  let rows := s.db.rules.rows.deleteWhere fun _ rule => !(rule.tenantId = tenantId : Bool)
  return { s with
    syncs := s.syncs.insert run { sync with
      known := rows.entries.map fun r => (r.2.uuid, r.1)
      cache := rows
      phase := .visit sync.listed } }

/-- A row that has expired is read again. -/
def refreshSync? (run id : ℕ) : Option State := do
  let sync ← s.syncs.get? run
  Option.require ((sync.cache.get? id).isNone = true)
  let rule ← s.db.rules.get? id
  return { s with syncs := s.syncs.insert run { sync with cache := sync.cache.insert id rule } }

/-- The next listed rule is visited. Every change is committed with the entry in the audit log; a
commit that raises is rolled back, and only logged. A row that does not fit into the table ends the
run. -/
def visitSync? (run : ℕ) : Option State := do
  let sync ← s.syncs.get? run
  let ((uuid, payload), todo) ← sync.phase.visit?
  let content ← decodeRule payload
  match ← sync.visit uuid content with
  | .seen id =>
    return { s with
      syncs := s.syncs.insert run
        { sync with touched := id :: sync.touched, phase := .visit todo } }
  | .update id rule content =>
    let updated := { rule with content, applyStatus := .synced, applyError := none }
    let db := s.db.commitSync? (id :: sync.touched) (s.db.rules.modify id (rule.write updated))
    return { s with
      db := db.getD s.db
      syncs := s.syncs.insert run (sync.expire (.visit todo)) }
  | .insert content =>
    match s.db.commitSync? sync.touched (s.db.rules.add
      { tenantId, uuid, content, applyStatus := .synced, applyError := none }) with
    | some db =>
      return { s with db, syncs := s.syncs.insert run (sync.expire (.visit todo)) }
    | none => return { s with syncs := s.syncs.erase run }

/-- The next rule of the table is deleted if it is synced and not listed. When none is left, the run
commits and ends. -/
def sweepSync? (run : ℕ) : Option State := do
  let sync ← s.syncs.get? run
  match sync.phase with
  | .visit [] => return { s with syncs := s.syncs.insert run { sync with phase := .sweep sync.known } }
  | .sweep ((uuid, id) :: todo) =>
    if (List.lookup uuid sync.listed).isSome then
      return { s with syncs := s.syncs.insert run { sync with phase := .sweep todo } }
    else
      let rule ← sync.cache.get? id
      if rule.applyStatus ≠ .synced then
        return { s with syncs := s.syncs.insert run { sync with phase := .sweep todo } }
      else
        let db := s.db.commitSync? (id :: sync.touched) (s.db.rules.deleteWhere fun id' _ => id' = id)
        return { s with
          db := db.getD s.db
          syncs := s.syncs.insert run (sync.expire (.sweep todo)) }
  | .sweep [] => return { s with syncs := s.syncs.erase run }
  | _ => none

/-- The state after a step that is possible. -/
def State.step? : Event → Option State
  | .createRule data token => some (s.edit (createRule s.db tenantId data token))
  | .updateRule uuid data => some (s.edit (updateRule s.db tenantId uuid data))
  | .deleteRule uuid => some (s.edit (deleteRule s.db tenantId uuid))
  | .toggleRule uuid => some (s.edit (toggleRule s.db tenantId uuid))
  | .moveRuleUp uuid => some (s.edit (moveRuleUp s.db tenantId uuid))
  | .moveRuleDown uuid => some (s.edit (moveRuleDown s.db tenantId uuid))
  | .startApply run => startApply? tenantId s run
  | .pushRule run result newUuid => pushRule? s run result newUuid
  | .readOrder run => readOrder? tenantId s run
  | .listOrder run returns => listOrder? s run returns
  | .moveRule run result => moveRule? s run result
  | .reloadRules run result => reloadRules? s run result
  | .commitApply run => commitApply? s run
  | .abortApply run => some { s with applies := s.applies.erase run }
  | .openRule run operation ruleId data => openRule? tenantId s run operation ruleId data
  | .callRule run result newUuid last => callRule? s run result newUuid last
  | .commitRule run => commitRule? s run
  | .abortRule run => some { s with rules := s.rules.erase run }
  | .applyOpnsense returns => applyOpnsense? tenantId s returns
  | .openSync run => openSync? s run
  | .loadSync run => loadSync? tenantId s run
  | .refreshSync run id => refreshSync? s run id
  | .visitSync run => visitSync? tenantId s run
  | .sweepSync run => sweepSync? s run
  | .abortSync run => some { s with syncs := s.syncs.erase run }
  | .reorder id => (s.db.save? (s.db.rules.toFront id)).map fun db => { s with db }

/-- The state after a step; a step that is not possible changes nothing. -/
def State.step (e : Event) : State := (s.step? tenantId e).getD s

/-- The system of a tenant. Initially no task is running; whether the rules of the table agree with
those on OPNsense is left to `start`. -/
def machine (start : FirewallDb → Opnsense → Prop) : Machine State Event where
  init s := start s.db s.opnsense ∧ s.applies = ∅ ∧ s.rules = ∅ ∧ s.syncs = ∅ ∧ s.created = []
  step := State.step tenantId

/-! ### What the synchronisation writes -/

/-- What the visit of a listed rule leaves of the table. -/
inductive VisitWrite (db : FirewallDb) (sync : SyncRun) (uuid : String) (content : RuleContent) :
    FirewallDb → Prop where
  /-- Nothing is written, or the commit raised. -/
  | same : VisitWrite db sync uuid content db
  /-- A rule that is synced gets the content that is listed. -/
  | update {id : ℕ} {rule : OPNsenseFirewallRule} {db' : FirewallDb}
      (hknown : sync.known.lookup uuid = some id) (hcached : sync.cache.get? id = some rule)
      (hsynced : rule.applyStatus = .synced)
      (hdb : db'.rules = db.rules.modify id
        (rule.write { rule with content, applyStatus := .synced, applyError := none })) :
      VisitWrite db sync uuid content db'
  /-- A rule that is not known is inserted. -/
  | insert {db' : FirewallDb} (hunknown : sync.known.lookup uuid = none)
      (hdb : db'.rules = db.rules.add
        { tenantId, uuid, content, applyStatus := .synced, applyError := none }) :
      VisitWrite db sync uuid content db'

variable {tenantId s}

/-- A commit of the synchronisation writes the table that it is given. -/
theorem rules_of_commitSync? {db db' : FirewallDb} {touched : List ℕ}
    {rules : Serial OPNsenseFirewallRule} (h : db.commitSync? touched rules = some db') :
    db'.rules = rules := by
  simp only [FirewallDb.commitSync?, Option.bind_eq_bind, Option.bind_eq_some_iff] at h
  obtain ⟨-, -, hsave⟩ := h
  exact FirewallDb.rules_of_save? hsave

/-- A visit of the synchronisation writes the table and its own run. -/
theorem visitSync_cases {run : ℕ} {s' : State} (h : visitSync? tenantId s run = some s') :
    ∃ sync uuid payload todo content syncs db', s.syncs.get? run = some sync ∧
      sync.phase.visit? = some ((uuid, payload), todo) ∧ decodeRule payload = some content ∧
      VisitWrite tenantId s.db sync uuid content db' ∧ s' = { s with db := db', syncs } := by
  simp only [visitSync?, Option.bind_eq_bind, Option.bind_eq_some_iff] at h
  obtain ⟨sync, hrun, ⟨⟨uuid, payload⟩, todo⟩, hnext, content, hdecode, visit, hvisit, hstep⟩ := h
  dsimp only at hvisit hstep
  have hcases : ∀ db' syncs, VisitWrite tenantId s.db sync uuid content db' →
      s' = { s with db := db', syncs } → ∃ sync uuid payload todo content syncs db',
        s.syncs.get? run = some sync ∧ sync.phase.visit? = some ((uuid, payload), todo) ∧
        decodeRule payload = some content ∧ VisitWrite tenantId s.db sync uuid content db' ∧
        s' = { s with db := db', syncs } := fun db' syncs hwrite heq =>
    ⟨sync, uuid, payload, todo, content, syncs, db', hrun, hnext, hdecode, hwrite, heq⟩
  unfold SyncRun.visit at hvisit
  split at hvisit
  case h_1 id hknown =>
    obtain ⟨rule, hcached, hrow⟩ := Option.map_eq_some_iff.mp hvisit
    split at hrow
    case isTrue =>
      cases hrow
      exact hcases s.db _ .same (Option.some.inj hstep).symm
    case isFalse hnot =>
      cases hrow
      have hsynced : rule.applyStatus = .synced := by
        by_contra hne
        exact hnot (Or.inl hne)
      dsimp only at hstep
      cases hcommit : s.db.commitSync? (id :: sync.touched) (s.db.rules.modify id
        (rule.write { rule with content, applyStatus := .synced, applyError := none })) with
      | none =>
        rw [hcommit] at hstep
        exact hcases s.db _ .same (Option.some.inj hstep).symm
      | some db' =>
        rw [hcommit] at hstep
        exact hcases db' _ (.update hknown hcached hsynced (rules_of_commitSync? hcommit))
          (Option.some.inj hstep).symm
  case h_2 hunknown =>
    cases hvisit
    dsimp only at hstep
    split at hstep
    case h_1 db' hcommit =>
      exact hcases db' _ (.insert hunknown (rules_of_commitSync? hcommit))
        (Option.some.inj hstep).symm
    case h_2 => exact hcases s.db _ .same (Option.some.inj hstep).symm

/-- What the end of a synchronisation leaves of the table. -/
inductive SweepWrite (db : FirewallDb) (sync : SyncRun) : FirewallDb → Prop where
  /-- Nothing is written, or the commit raised. -/
  | same : SweepWrite db sync db
  /-- A rule that is synced and not listed is deleted. -/
  | delete {uuid : String} {id : ℕ} {rule : OPNsenseFirewallRule} {todo : List (String × ℕ)}
      {db' : FirewallDb} (hnext : sync.phase = .sweep ((uuid, id) :: todo))
      (hnotlisted : List.lookup uuid sync.listed = none) (hcached : sync.cache.get? id = some rule)
      (hsynced : rule.applyStatus = .synced)
      (hdb : db'.rules = db.rules.deleteWhere fun id' _ => id' = id) : SweepWrite db sync db'

/-- A sweep of the synchronisation writes the table and its own run. -/
theorem sweepSync_cases {run : ℕ} {s' : State} (h : sweepSync? s run = some s') :
    ∃ sync syncs db', s.syncs.get? run = some sync ∧ SweepWrite s.db sync db' ∧
      s' = { s with db := db', syncs } := by
  simp only [sweepSync?, Option.bind_eq_bind, Option.bind_eq_some_iff] at h
  obtain ⟨sync, hrun, hstep⟩ := h
  split at hstep
  case h_1 => exact ⟨sync, _, s.db, hrun, .same, (Option.some.inj hstep).symm⟩
  case h_2 uuid id todo hnext =>
    split at hstep
    case isTrue => exact ⟨sync, _, s.db, hrun, .same, (Option.some.inj hstep).symm⟩
    case isFalse hnotlisted =>
      obtain ⟨rule, hcached, hstep⟩ := Option.bind_eq_some_iff.mp hstep
      split at hstep
      case isTrue => exact ⟨sync, _, s.db, hrun, .same, (Option.some.inj hstep).symm⟩
      case isFalse hstatus =>
        have hsynced : rule.applyStatus = .synced := not_not.mp hstatus
        cases hcommit : s.db.commitSync? (id :: sync.touched)
          (s.db.rules.deleteWhere fun id' _ => id' = id) with
        | none =>
          rw [hcommit] at hstep
          exact ⟨sync, _, s.db, hrun, .same, (Option.some.inj hstep).symm⟩
        | some db' =>
          rw [hcommit] at hstep
          refine ⟨sync, _, db', hrun, ?_, (Option.some.inj hstep).symm⟩
          exact .delete hnext (Option.not_isSome_iff_eq_none.mp hnotlisted) hcached hsynced
            (rules_of_commitSync? hcommit)
  case h_3 => exact ⟨sync, _, s.db, hrun, .same, (Option.some.inj hstep).symm⟩
  case h_4 => cases hstep

end ProxmoxIaas.Firewall
