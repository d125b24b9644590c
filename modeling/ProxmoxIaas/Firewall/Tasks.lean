import ProxmoxIaas.Firewall.Model

/-!
# Firewall Tasks

The runs of the tasks that exchange firewall rules with OPNsense. A run calls OPNsense between
reading the table and committing to it, so it works on what it has loaded; `SessionRule` keeps
what was loaded beside what is to be committed.

A run that fails is rolled back; its retry, and its redelivery to another worker, is a run of its
own.

## Main results

- `FirewallDb.rules_of_commit?`: what the commit of an apply run does to each row.
-/

namespace ProxmoxIaas

/-- The rules on OPNsense, in their order, by uuid. -/
abbrev Opnsense := Table String Payload

namespace Opnsense

/-- `add_rule` puts the rule behind the others. -/
def addRule (opnsense : Opnsense) (uuid : String) (payload : Payload) : Opnsense :=
  Table.append opnsense uuid payload

/-- `set_rule` replaces the fields of the rule. -/
def setRule (opnsense : Opnsense) (uuid : String) (payload : Payload) : Opnsense :=
  if (Table.get? opnsense uuid).isSome then Table.modify opnsense uuid fun _ => payload
  else opnsense.addRule uuid payload

/-- `del_rule`. -/
def delRule (opnsense : Opnsense) (uuid : String) : Opnsense := AList.erase uuid opnsense

/-- `list_rules`: one page of at most 1000 rules. -/
def listRules (opnsense : Opnsense) : List (String × Payload) :=
  (opnsense.entries.take 1000).map fun r => (r.1, r.2)

@[simp]
theorem get?_addRule (opnsense : Opnsense) (uuid uuid' : String) (payload : Payload) :
    Table.get? (opnsense.addRule uuid payload) uuid' =
      if uuid' = uuid then some payload else Table.get? opnsense uuid' :=
  Table.get?_append opnsense uuid uuid' payload

@[simp]
theorem get?_setRule (opnsense : Opnsense) (uuid uuid' : String) (payload : Payload) :
    Table.get? (opnsense.setRule uuid payload) uuid' =
      if uuid' = uuid then some payload else Table.get? opnsense uuid' := by
  unfold setRule
  split
  case isTrue h =>
    rw [Table.get?_modify]
    split
    case isTrue heq =>
      obtain ⟨old, hold⟩ := Option.isSome_iff_exists.mp h
      rw [heq, hold, Option.map_some]
    case isFalse => rfl
  case isFalse => exact get?_addRule opnsense uuid uuid' payload

@[simp]
theorem get?_delRule (opnsense : Opnsense) (uuid uuid' : String) :
    Table.get? (opnsense.delRule uuid) uuid' =
      if uuid' = uuid then none else Table.get? opnsense uuid' :=
  Table.get?_erase opnsense uuid uuid'

end Opnsense

/-- The end of a call to OPNsense. A call that raises may have taken effect all the same, when its
answer got lost. -/
inductive CallResult where
  | returns
  | raises (tookEffect : Bool) (error : String)
  deriving DecidableEq, Repr

/-- Whether a call took effect. -/
def CallResult.tookEffect : CallResult → Bool
  | .returns => true
  | .raises tookEffect _ => tookEffect

/-- What is to be done about a rule on OPNsense. -/
inductive Work where
  | delete
  | update
  | create
  deriving DecidableEq, Repr

/-- What an apply run does about a rule. Failed rules are left alone. -/
def OPNsenseFirewallRule.work (rule : OPNsenseFirewallRule) : Option Work :=
  match rule.applyStatus with
  | .pendingDelete => some .delete
  | .pending => some (if isPlaceholder rule.uuid then .create else .update)
  | .synced | .failed => none

/-- The payload of a rule. -/
abbrev OPNsenseFirewallRule.payload (rule : OPNsenseFirewallRule) : Payload :=
  rule.content.toOpnsensePayload

/-- A rule that was pushed; a new one gets the uuid that OPNsense gave it. -/
def OPNsenseFirewallRule.pushed (work : Work) (newUuid : String) (rule : OPNsenseFirewallRule) :
    OPNsenseFirewallRule :=
  match work with
  | .delete => rule
  | .update => { rule with applyStatus := .synced, applyError := none }
  | .create => { rule with uuid := newUuid, applyStatus := .synced, applyError := none }

/-- A rule whose push raised. -/
def OPNsenseFirewallRule.fail (error : String) (rule : OPNsenseFirewallRule) :
    OPNsenseFirewallRule :=
  { rule with applyStatus := .failed, applyError := some (Text.take 500 error) }

/-- A row after a commit: the session writes the columns that it changed. -/
def OPNsenseFirewallRule.write (loaded current stored : OPNsenseFirewallRule) :
    OPNsenseFirewallRule :=
  { tenantId := stored.tenantId
    uuid := writeColumn (some loaded) (·.uuid) current.uuid stored.uuid
    content :=
      { sequence := writeColumn (some loaded) (·.content.sequence) current.content.sequence
          stored.content.sequence
        text := fun field => writeColumn (some loaded) (·.content.text field)
          (current.content.text field) (stored.content.text field) }
    applyStatus := writeColumn (some loaded) (·.applyStatus) current.applyStatus stored.applyStatus
    applyError := writeColumn (some loaded) (·.applyError) current.applyError stored.applyError }

/-- A row of a session. -/
structure SessionRule where
  /-- The row as it was loaded. -/
  loaded : OPNsenseFirewallRule
  /-- The row as it is to be committed. -/
  current : OPNsenseFirewallRule
  deriving DecidableEq

/-- How far an apply run is. -/
inductive ApplyPhase where
  /-- Some rules are still to be pushed. -/
  | push (todo : List ℕ)
  /-- The order of the rules was read. -/
  | order (desired : List String)
  /-- Some rules are still to be moved in front of others. -/
  | move (moves : List (String × String))
  /-- The run is to be committed. -/
  | commit
  deriving DecidableEq, Repr

/-- A run of `apply_all_pending_rules_task`. -/
structure ApplyRun where
  /-- The rules that it has read. -/
  session : Table ℕ SessionRule
  /-- The number of rules that were pushed. -/
  applied : ℕ
  /-- How far it is. -/
  phase : ApplyPhase

/-- The next rule to be pushed, and the others. -/
def ApplyPhase.push? : ApplyPhase → Option (ℕ × List ℕ)
  | .push (id :: todo) => some (id, todo)
  | _ => none

/-- The order that was read. -/
def ApplyPhase.order? : ApplyPhase → Option (List String)
  | .order desired => some desired
  | _ => none

/-- The next move, and the others. -/
def ApplyPhase.move? : ApplyPhase → Option ((String × String) × List (String × String))
  | .move (next :: moves) => some (next, moves)
  | _ => none

/-- The rules that an apply run reads, beside themselves. -/
def pendingRules (db : FirewallDb) (tenantId : ℕ) : Table ℕ SessionRule :=
  (db.rules.rows.deleteWhere fun _ rule => !(rule.tenantId = tenantId && rule.work.isSome)).mapRows
    fun _ rule => ⟨rule, rule⟩

/-- The rules of a session with some work, in storage order. -/
def idsWith (session : Table ℕ SessionRule) (work : Work) : List ℕ :=
  (session.select fun _ rule => rule.loaded.work = some work).map Prod.fst

/-- The work list of an apply run: deletions, updates, creations. -/
def workList (session : Table ℕ SessionRule) : List ℕ :=
  idsWith session .delete ++ idsWith session .update ++ idsWith session .create

/-- The effect of the call for a rule. Nothing is called to delete a rule with a placeholder. -/
def pushCall (work : Work) (rule : OPNsenseFirewallRule) (newUuid : String) (opnsense : Opnsense) :
    Opnsense :=
  match work with
  | .delete => if isPlaceholder rule.uuid then opnsense else opnsense.delRule rule.uuid
  | .update => opnsense.setRule rule.uuid rule.payload
  | .create => opnsense.addRule newUuid rule.payload

/-- The result of the push of a rule; a deletion without a call cannot raise. -/
def pushResult (work : Work) (rule : OPNsenseFirewallRule) (result : CallResult) : CallResult :=
  if work = .delete ∧ isPlaceholder rule.uuid then .returns else result

/-- A rule of a session after its push. -/
def SessionRule.push (work : Work) (newUuid : String) (result : CallResult) (rule : SessionRule) :
    SessionRule :=
  { rule with
    current := match result with
      | .returns => rule.current.pushed work newUuid
      | .raises _ error => rule.current.fail error }

/-- A rule of a session after a reload that raised. Only pushed rules are synced. -/
def SessionRule.failReload (error : String) (rule : SessionRule) : SessionRule :=
  if rule.current.applyStatus = .synced then { rule with current := rule.current.fail error }
  else rule

/-- The moves that put the rules into an order, the last one first. A rule is moved if it and its
successor are listed. -/
def movesFor (desired listed : List String) : List (String × String) :=
  ((desired.zip desired.tail).filter fun (uuid, next) => uuid ∈ listed ∧ next ∈ listed).reverse

/-- The rows of a table after the commit of a session, before its deletions. -/
def writeSession (session : Table ℕ SessionRule) (rules : Serial OPNsenseFirewallRule) :
    Serial OPNsenseFirewallRule :=
  rules.mapRows fun id stored =>
    match session.get? id with
    | some rule => rule.loaded.write rule.current stored
    | none => stored

/-- Whether a session has changed a row that is gone. -/
def staleSession (session : Table ℕ SessionRule) (rules : Serial OPNsenseFirewallRule) : Bool :=
  (session.first? fun id rule => rule.current ≠ rule.loaded ∧ rules.get? id = none).isSome

/-- Whether a session deletes a row: the deletion did not fail. -/
def deletesRow (session : Table ℕ SessionRule) (id : ℕ) : Bool :=
  (session.get? id).any fun rule =>
    rule.loaded.work = some .delete ∧ rule.current.applyStatus ≠ .failed

/-- The commit of an apply run. It raises if a row is gone or a constraint is violated. -/
def FirewallDb.commit? (db : FirewallDb) (session : Table ℕ SessionRule) : Option FirewallDb := do
  Option.require (staleSession session db.rules = false)
  let written ← db.save? (writeSession session db.rules)
  written.save? (written.rules.deleteWhere fun id _ => deletesRow session id)

/-- A run of `apply_firewall_rule_task`. -/
structure RuleRun where
  /-- What is to be done about the rule. -/
  operation : Work
  /-- The rule. -/
  ruleId : ℕ
  /-- The data of a new rule. -/
  data : Payload
  /-- The row as it was loaded, if there is one. -/
  loaded : Option OPNsenseFirewallRule
  /-- The row as it is to be committed, once OPNsense was called. -/
  current : Option OPNsenseFirewallRule
  deriving DecidableEq

/-- The data of a new rule with a sequence. -/
def withSequence (db : FirewallDb) (tenantId : ℕ) (data : Payload) : Payload :=
  if (List.lookup "sequence" data).isSome then data
  else data ++ [("sequence", some (toString (nextSequence db tenantId)))]

/-- A rule for which `apply_firewall_rule_task` has called OPNsense. -/
def OPNsenseFirewallRule.applied (operation : Work) (newUuid : String)
    (rule : OPNsenseFirewallRule) : OPNsenseFirewallRule :=
  match operation with
  | .delete => rule
  | .update => { rule with applyStatus := .synced }
  | .create => { rule with uuid := newUuid, applyStatus := .synced }

/-- What a run of the synchronisation has still to do. -/
inductive SyncPhase where
  /-- Read the rules of the table. -/
  | load
  /-- Visit the listed rules. -/
  | visit (todo : List (String × Payload))
  /-- Look for rules that are not listed. -/
  | sweep (todo : List (String × ℕ))
  deriving DecidableEq

/-- A run of `sync_firewall_rules_task`. Its session expires with every commit and every rollback,
and reloads a row when it is used again. -/
structure SyncRun where
  /-- The rules that OPNsense has listed. -/
  listed : List (String × Payload)
  /-- The rules that were in the table, by uuid. -/
  known : List (String × ℕ)
  /-- The rows of the session that have not expired. -/
  cache : Table ℕ OPNsenseFirewallRule
  /-- The rows whose `synced_at` is to be written. -/
  touched : List ℕ
  /-- What is still to be done. -/
  phase : SyncPhase

/-- The next listed rule, and the others. -/
def SyncPhase.visit? : SyncPhase → Option ((String × Payload) × List (String × Payload))
  | .visit (next :: todo) => some (next, todo)
  | _ => none

/-- The next rule to look for, and the others. -/
def SyncPhase.sweep? : SyncPhase → Option ((String × ℕ) × List (String × ℕ))
  | .sweep (next :: todo) => some (next, todo)
  | _ => none

/-- What the synchronisation does about a listed rule. -/
inductive Visit where
  /-- The row is only marked as seen. -/
  | seen (id : ℕ)
  /-- The row is overwritten with what is listed. -/
  | update (id : ℕ) (rule : OPNsenseFirewallRule) (content : RuleContent)
  /-- The rule is new. -/
  | insert (content : RuleContent)

/-- The decision about a listed rule with its content. There is none while its row has expired. -/
def SyncRun.visit (run : SyncRun) (uuid : String) (content : RuleContent) : Option Visit :=
  match run.known.lookup uuid with
  | some id => (run.cache.get? id).map fun rule =>
    if rule.applyStatus ≠ .synced ∨ rule.content = content then .seen id
    else .update id rule content
  | none => some (.insert content)

/-- A session that was committed or rolled back. -/
def SyncRun.expire (run : SyncRun) (phase : SyncPhase) : SyncRun :=
  { run with cache := ∅, touched := [], phase }

/-- Commit a write of the synchronisation. It raises if a row that it has seen is gone, or a
constraint is violated. -/
def FirewallDb.commitSync? (db : FirewallDb) (touched : List ℕ)
    (rules : Serial OPNsenseFirewallRule) : Option FirewallDb := do
  Option.require (∀ id ∈ touched, (db.rules.get? id).isSome = true)
  db.save? rules

/-- The commit of an apply run draws no id. -/
theorem FirewallDb.next_of_commit? {db db' : FirewallDb} {session : Table ℕ SessionRule}
    (h : db.commit? session = some db') : db'.rules.next = db.rules.next := by
  simp only [commit?, Option.bind_eq_bind, Option.bind_eq_some_iff] at h
  obtain ⟨-, -, written, hwritten, hdeleted⟩ := h
  rw [rules_of_save? hdeleted, rules_of_save? hwritten]
  rfl

/-- What the commit of an apply run does to each row. -/
theorem FirewallDb.rules_of_commit? {db db' : FirewallDb} {session : Table ℕ SessionRule}
    (h : db.commit? session = some db') (id : ℕ) :
    db'.rules.get? id = if deletesRow session id then none else
      (db.rules.get? id).map fun stored =>
        match session.get? id with
        | some rule => rule.loaded.write rule.current stored
        | none => stored := by
  simp only [commit?, Option.bind_eq_bind, Option.bind_eq_some_iff] at h
  obtain ⟨-, -, written, hwritten, hdeleted⟩ := h
  rw [rules_of_save? hdeleted, rules_of_save? hwritten, Serial.get?_deleteWhere, writeSession,
    Serial.get?_mapRows]
  cases hget : db.rules.get? id with
  | none => cases deletesRow session id <;> rfl
  | some stored => cases hdeletes : deletesRow session id <;> simp [Option.filter_some]

end ProxmoxIaas
