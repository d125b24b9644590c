import ProxmoxIaas.Firewall.ApplyRuns

/-!
# Complete Apply Runs

An apply run in which every call to OPNsense succeeds and which nothing interrupts, from any table
and any rules on OPNsense. The run reads the rules that are pending or to be deleted; the rules that
have failed it leaves alone.

## Main results

- `rules_applyAll`, `opnsense_applyAll_of_none`, `opnsense_applyAll_of_some`: what the run leaves of
  each row and of each uuid.
- `converged_iff`: the run converges exactly when nothing has failed, the deletions are still to be
  done, and the synced rules agree with OPNsense.
- `not_converged`: a deletion that has failed once is not done by a later run.
-/

namespace ProxmoxIaas.Firewall

/-- The events after the pushes: the order is read, rules are moved, the rules are reloaded, and
the run commits. At most one rule is moved for each rule of the tenant. -/
def applyEnd (tenantId run : ℕ) (db : FirewallDb) : List Event :=
  [.readOrder run, .listOrder run true] ++
    List.replicate (rulesBySequence db tenantId).length (.moveRule run .returns) ++
    [.reloadRules run .returns, .commitApply run]

/-- The events of an apply run in which every call succeeds. -/
def applyEvents (tenantId run : ℕ) (db : FirewallDb) (newUuid : ℕ → String) : List Event :=
  .startApply run ::
    (((workList (pendingRules db tenantId)).map fun id => .pushRule run .returns (newUuid id)) ++
      applyEnd tenantId run db)

/-- The state after an apply run in which every call succeeds. OPNsense gives the rule with some id
the uuid `newUuid id`, if it has to be created. -/
def State.applyAll (s : State) (tenantId run : ℕ) (newUuid : ℕ → String) : State :=
  (applyEvents tenantId run s.db newUuid).foldl (State.step tenantId) s

variable {tenantId run : ℕ} {newUuid : ℕ → String} {s : State}

/-- What the pushes of some rules leave of a uuid. -/
def pushedTo (session : Table ℕ SessionRule) (newUuid : ℕ → String) (todo : List ℕ) (uuid : String)
    (before : Option Payload) : Option Payload :=
  todo.foldl (fun stored id =>
    ((session.get? id).bind fun rule => pushWrites rule.loaded (newUuid id) uuid).getD stored) before

/-- A row after a complete apply run. -/
def appliedRow (tenantId : ℕ) (newUuid : String) (rule : OPNsenseFirewallRule) :
    Option OPNsenseFirewallRule :=
  if rule.tenantId ≠ tenantId then some rule
  else
    match rule.work with
    | some .delete => none
    | some work => some (rule.pushed work newUuid)
    | none => some rule

/-! ## What the run leaves -/

/-- A complete run is a run in which every call succeeds. -/
theorem applyAll_eq_runApply : s.applyAll tenantId run newUuid =
    s.runApply tenantId run (.succeed newUuid) := by
  have hmoves : (ApplyCalls.succeed newUuid).moveEvents run 0 (rulesBySequence s.db tenantId).length =
      List.replicate (rulesBySequence s.db tenantId).length (.moveRule run .returns) := by
    show (List.range' 0 _).map (fun _ => Event.moveRule run .returns) = _
    rw [List.map_const', List.length_range']
  rw [State.applyAll, State.runApply, applyEvents, ApplyCalls.events, hmoves, applyEnd]
  simp only [List.append_assoc]
  rfl

/-- Without failures, the outcome is that of a complete run. -/
private theorem outcome_succeed (id : ℕ) :
    (ApplyCalls.succeed newUuid).outcome tenantId id = appliedRow tenantId (newUuid id) := by
  funext rule
  unfold ApplyCalls.outcome appliedRow
  cases rule.work with
  | none => rfl
  | some work =>
    have hresult : (ApplyCalls.succeed newUuid).result id rule work = .returns := by
      show (if work = .delete ∧ isPlaceholder rule.uuid then CallResult.returns else .returns) = _
      rw [ite_self]
    cases work with
    | delete => rw [hresult]
    | update | create =>
      unfold ApplyCalls.applied
      rw [hresult]
      rfl

/-- The moves change only the order of the rules. -/
theorem get?_moveTo (calls : ApplyCalls) (start : ℕ) (moves : List (String × String))
    (opnsense : Opnsense) (uuid : String) :
    Table.get? (calls.moveTo start moves opnsense) uuid = Table.get? opnsense uuid := by
  induction moves generalizing start opnsense with
  | nil => rfl
  | cons move moves ih =>
    rw [ApplyCalls.moveTo, ih]
    split
    · exact Table.get?_moveBefore ..
    · rfl

/-- What the pushes leave of a uuid, if every call succeeds. -/
private theorem get?_pushAll (uuid : String) (opnsense : Opnsense) :
    Table.get? ((ApplyCalls.succeed newUuid).pushAll tenantId s.db opnsense) uuid =
      pushedTo (pendingRules s.db tenantId) newUuid (workList (pendingRules s.db tenantId)) uuid
        (Table.get? opnsense uuid) := by
  have hpush : ∀ id ∈ workList (pendingRules s.db tenantId), ∀ opnsense,
      Table.get? ((ApplyCalls.succeed newUuid).pushTo s.db opnsense id) uuid =
        (((pendingRules s.db tenantId).get? id).bind fun rule =>
          pushWrites rule.loaded (newUuid id) uuid).getD (Table.get? opnsense uuid) := by
    intro id hmem opnsense
    obtain ⟨rule, hget, htenant, hwork⟩ := mem_workList_pendingRules.mp hmem
    rw [get?_pendingRules.mpr ⟨rule, hget, htenant, hwork, rfl⟩, Option.bind_some]
    obtain ⟨work, hwork⟩ := Option.isSome_iff_exists.mp hwork
    have heffect : ((ApplyCalls.succeed newUuid).result id rule work).tookEffect = true := by
      show (if work = .delete ∧ isPlaceholder rule.uuid then CallResult.returns
        else .returns).tookEffect = true
      rw [ite_self]
      rfl
    unfold ApplyCalls.pushTo
    rw [hget]
    dsimp only
    rw [hwork]
    dsimp only
    rw [if_pos heffect]
    exact get?_pushCall hwork _ _ _
  unfold ApplyCalls.pushAll pushedTo
  generalize workList (pendingRules s.db tenantId) = ids at hpush
  induction ids generalizing opnsense with
  | nil => rfl
  | cons id ids ih =>
    rw [List.foldl_cons, List.foldl_cons, ← hpush id List.mem_cons_self]
    exact ih _ fun id' hmem => hpush id' (List.mem_cons_of_mem _ hmem)

/-- The state after a complete apply run: every row is as `appliedRow` says, and every uuid on
OPNsense as the pushes have left it. -/
private theorem applyAll_eq (hrun : s.applies.get? run = none) (hnew : GivesNew s newUuid) :
    (∀ id, (s.applyAll tenantId run newUuid).db.rules.get? id =
      (s.db.rules.get? id).bind (appliedRow tenantId (newUuid id))) ∧
    ∀ uuid, Table.get? (s.applyAll tenantId run newUuid).opnsense uuid =
      pushedTo (pendingRules s.db tenantId) newUuid (workList (pendingRules s.db tenantId)) uuid
        (Table.get? s.opnsense uuid) := by
  rw [applyAll_eq_runApply]
  refine ⟨fun id => ?_, fun uuid => ?_⟩
  · rw [rules_runApply hrun hnew, outcome_succeed]
  · rw [opnsense_runApply hrun hnew]
    split
    case isTrue hnone =>
      have hempty : pendingRules s.db tenantId = ∅ := AList.ext hnone
      rw [hempty]
      rfl
    case isFalse => rw [get?_moveTo, get?_pushAll]

/-- Pushes that write nothing under a uuid leave it. -/
private theorem pushedTo_of_none {session : Table ℕ SessionRule} {todo : List ℕ} {uuid : String}
    (h : ∀ id ∈ todo, ∀ rule, session.get? id = some rule →
      pushWrites rule.loaded (newUuid id) uuid = none) (before : Option Payload) :
    pushedTo session newUuid todo uuid before = before := by
  induction todo with
  | nil => rfl
  | cons id todo ih =>
    have hnone : (session.get? id).bind (fun rule => pushWrites rule.loaded (newUuid id) uuid) =
        none := by
      cases hget : session.get? id with
      | none => rfl
      | some rule => exact h id List.mem_cons_self rule hget
    rw [pushedTo, List.foldl_cons, hnone]
    exact ih fun id' hmem => h id' (List.mem_cons_of_mem _ hmem)

/-- The only push that writes under a uuid decides about it. -/
private theorem pushedTo_of_some {session : Table ℕ SessionRule} {todo : List ℕ} {uuid : String}
    {id : ℕ} {rule : SessionRule} {value : Option Payload} (hnodup : todo.Nodup) (hmem : id ∈ todo)
    (hget : session.get? id = some rule)
    (hwrites : pushWrites rule.loaded (newUuid id) uuid = some value)
    (hothers : ∀ id' ∈ todo, id' ≠ id → ∀ rule', session.get? id' = some rule' →
      pushWrites rule'.loaded (newUuid id') uuid = none) (before : Option Payload) :
    pushedTo session newUuid todo uuid before = value := by
  obtain ⟨first, last, rfl⟩ := List.append_of_mem hmem
  have hdisjoint := List.nodup_append'.mp hnodup
  have hlast : ∀ id' ∈ last, id' ≠ id := by
    rintro id' hin rfl
    exact (List.nodup_cons.mp hdisjoint.2.1).1 hin
  rw [pushedTo, List.foldl_append, List.foldl_cons, hget, Option.bind_some, hwrites,
    Option.getD_some]
  refine pushedTo_of_none (fun id' hin rule' hget' => ?_) value
  exact hothers id' (List.mem_append_right _ (List.mem_cons_of_mem _ hin)) (hlast id' hin) rule' hget'

section Complete

variable (hrun : s.applies.get? run = none) (hnew : GivesNew s newUuid)

include hrun hnew

/-- What a complete apply run leaves of each row. -/
theorem rules_applyAll (id : ℕ) : (s.applyAll tenantId run newUuid).db.rules.get? id =
    (s.db.rules.get? id).bind (appliedRow tenantId (newUuid id)) :=
  (applyAll_eq hrun hnew).1 id

/-- A complete apply run leaves the uuids that no rule of the tenant writes. -/
theorem opnsense_applyAll_of_none {uuid : String} (h : ∀ id rule,
      s.db.rules.get? id = some rule → rule.tenantId = tenantId →
      pushWrites rule (newUuid id) uuid = none) :
    Table.get? (s.applyAll tenantId run newUuid).opnsense uuid = Table.get? s.opnsense uuid := by
  rw [(applyAll_eq hrun hnew).2]
  refine pushedTo_of_none (fun id _ loaded hloaded => ?_) _
  obtain ⟨rule, hrule, htenant, -, rfl⟩ := get?_pendingRules.mp hloaded
  exact h id rule hrule htenant

/-- A complete apply run writes what the push of a rule writes: no other push writes under that
uuid. -/
theorem opnsense_applyAll_of_some {id : ℕ} {rule : OPNsenseFirewallRule} {uuid : String}
    {value : Option Payload} (hget : s.db.rules.get? id = some rule)
    (htenant : rule.tenantId = tenantId)
    (hwrites : pushWrites rule (newUuid id) uuid = some value) :
    Table.get? (s.applyAll tenantId run newUuid).opnsense uuid = value := by
  have hwork : rule.work.isSome = true := by
    cases hwork : rule.work with
    | none =>
      rw [pushWrites, hwork] at hwrites
      cases hwrites
    | some work => rfl
  have hloaded := get?_pendingRules.mpr ⟨rule, hget, htenant, hwork, rfl⟩
  have hunused : ∀ given, (s.db.rules.get? given).isSome = true → ∀ k other,
      s.db.rules.get? k = some other → other.uuid ≠ newUuid given :=
    fun given hgiven => (fresh_iff.mp (hnew.fresh given hgiven)).2.1
  have hsome : (s.db.rules.get? id).isSome = true := by rw [hget]; rfl
  rw [(applyAll_eq hrun hnew).2]
  refine pushedTo_of_some (nodup_workList _) (mem_workList.mpr ⟨_, hloaded, hwork⟩) hloaded hwrites
    (fun id' _ hne loaded' hloaded' => ?_) _
  obtain ⟨rule', hget', -, -, rfl⟩ := get?_pendingRules.mp hloaded'
  have hsome' : (s.db.rules.get? id').isSome = true := by rw [hget']; rfl
  by_contra hwritten
  obtain ⟨value', hwrites'⟩ := Option.ne_none_iff_exists'.mp hwritten
  -- The uuid would be that of two rules.
  rcases uuid_of_pushWrites hwrites with hold | hgiven <;>
    rcases uuid_of_pushWrites hwrites' with hold' | hgiven'
  · exact hne (s.db.eq_of_uuid hget' hget (hold'.symm.trans hold))
  · exact hunused id' hsome' id rule hget (hold.symm.trans hgiven')
  · exact hunused id hsome id' rule' hget' (hold'.symm.trans hgiven)
  · exact hne (hnew.different id' id hsome' hsome (hgiven'.symm.trans hgiven))

end Complete

/-! ## Convergence -/

/-- A payload has the values that it has. -/
theorem RuleContent.agrees_self (content : RuleContent) :
    content.toOpnsensePayload.agrees content.toOpnsensePayload = true := by
  have hkeys : (content.toOpnsensePayload.map Prod.fst).Nodup := by
    -- The keys do not depend on the content.
    simp only [RuleContent.toOpnsensePayload, List.map_cons, List.map_nil]
    decide +kernel
  refine List.all_eq_true.mpr fun (key, value) hmem => decide_eq_true ?_
  obtain ⟨first, last, hsplit⟩ := List.append_of_mem hmem
  refine List.lookup_eq_some_iff.mpr ⟨first, last, hsplit, fun field hfield => ?_⟩
  -- The fields have different keys.
  rw [hsplit, List.map_append, List.map_cons] at hkeys
  have hne : key ≠ field.1 := by
    rintro rfl
    exact (List.nodup_append'.mp hkeys).2.2 (List.mem_map_of_mem hfield) List.mem_cons_self
  exact bne_iff_ne.mpr hne

/-- A complete run leaves no rule with some uuid on OPNsense: it deletes the rule, or there is none
and none is pushed. -/
def Cleared (tenantId : ℕ) (s : State) (uuid : String) : Prop :=
  (∃ id rule, s.db.rules.get? id = some rule ∧ rule.tenantId = tenantId ∧ rule.uuid = uuid ∧
    rule.applyStatus = .pendingDelete ∧ isPlaceholder uuid = false) ∨
  (Table.get? s.opnsense uuid = none ∧ ∀ id rule, s.db.rules.get? id = some rule →
    rule.tenantId = tenantId → rule.uuid = uuid →
      rule.applyStatus ≠ .pending ∨ isPlaceholder uuid = true)

/-- The uuids that some rule has or was given on OPNsense. -/
def IsUuidOf (s : State) (id : ℕ) (rule : OPNsenseFirewallRule) (uuid : String) : Prop :=
  uuid = rule.uuid ∨ (id, uuid) ∈ s.created

/-- An apply run has converged: the rules are synced, those that the user has deleted are gone from
the table and from OPNsense, and the other ones agree with OPNsense. -/
structure Converged (tenantId : ℕ) (deleted : ℕ → Prop) (before after : State) : Prop where
  /-- The remaining rules are synced. -/
  synced (id : ℕ) (rule : OPNsenseFirewallRule) (h : after.db.rules.get? id = some rule)
    (htenant : rule.tenantId = tenantId) : rule.applyStatus = .synced
  /-- The deleted rules are gone. -/
  gone (id : ℕ) (rule : OPNsenseFirewallRule) (h : before.db.rules.get? id = some rule)
    (htenant : rule.tenantId = tenantId) (hdeleted : deleted id) :
    after.db.rules.get? id = none ∧
      ∀ uuid, IsUuidOf before id rule uuid → Table.get? after.opnsense uuid = none
  /-- The remaining rules agree with OPNsense. -/
  agrees (id : ℕ) (rule : OPNsenseFirewallRule) (h : after.db.rules.get? id = some rule)
    (htenant : rule.tenantId = tenantId) :
    ∃ stored, Table.get? after.opnsense rule.uuid = some stored ∧ rule.payload.agrees stored = true

/-- The condition under which an apply run converges. -/
structure Ready (tenantId : ℕ) (deleted : ℕ → Prop) (s : State) : Prop where
  /-- No rule has failed. -/
  notFailed (id : ℕ) (rule : OPNsenseFirewallRule) (h : s.db.rules.get? id = some rule)
    (htenant : rule.tenantId = tenantId) : rule.applyStatus ≠ .failed
  /-- The rules that the user has deleted are still to be deleted, under every uuid that they were
  given. -/
  marked (id : ℕ) (rule : OPNsenseFirewallRule) (h : s.db.rules.get? id = some rule)
    (htenant : rule.tenantId = tenantId) (hdeleted : deleted id) :
    rule.applyStatus = .pendingDelete ∧ ∀ uuid, IsUuidOf s id rule uuid → Cleared tenantId s uuid
  /-- The rules that are synced agree with OPNsense. -/
  agrees (id : ℕ) (rule : OPNsenseFirewallRule) (h : s.db.rules.get? id = some rule)
    (htenant : rule.tenantId = tenantId) (hsynced : rule.applyStatus = .synced) :
    ∃ stored, Table.get? s.opnsense rule.uuid = some stored ∧ rule.payload.agrees stored = true

/-- The rules that the user has deleted in some steps. -/
def deletedIn (tenantId : ℕ) (s : State) : List Event → List ℕ
  | [] => []
  | .deleteRule uuid :: events =>
    ((findRule s.db tenantId uuid).map Prod.fst).toList ++
      deletedIn tenantId (s.step tenantId (.deleteRule uuid)) events
  | e :: events => deletedIn tenantId (s.step tenantId e) events

/-- The work of a rule by its status. -/
private theorem work_cases (rule : OPNsenseFirewallRule) :
    (rule.applyStatus = .pendingDelete ∧ rule.work = some .delete) ∨
      (rule.applyStatus = .pending ∧ isPlaceholder rule.uuid = false ∧ rule.work = some .update) ∨
      (rule.applyStatus = .pending ∧ isPlaceholder rule.uuid = true ∧ rule.work = some .create) ∨
      ((rule.applyStatus = .synced ∨ rule.applyStatus = .failed) ∧ rule.work = none) := by
  unfold OPNsenseFirewallRule.work
  cases rule.applyStatus <;> cases isPlaceholder rule.uuid <;> simp

section Converges

variable (hrun : s.applies.get? run = none) (hnew : GivesNew s newUuid)

include hrun hnew

/-- A complete run leaves a rule that is neither pending nor to be deleted. -/
private theorem get?_applyAll_of_idle {id : ℕ} {rule : OPNsenseFirewallRule}
    (hget : s.db.rules.get? id = some rule) (hwork : rule.work = none) :
    (s.applyAll tenantId run newUuid).db.rules.get? id = some rule := by
  rw [rules_applyAll hrun hnew, hget, Option.bind_some]
  unfold appliedRow
  rw [hwork]
  split <;> rfl

/-- A complete run leaves no rule with a uuid exactly when the uuid is cleared. -/
private theorem opnsense_applyAll_eq_none_iff {uuid : String}
    (hold : ∀ id, (s.db.rules.get? id).isSome = true → uuid ≠ newUuid id) :
    Table.get? (s.applyAll tenantId run newUuid).opnsense uuid = none ↔ Cleared tenantId s uuid := by
  by_cases hpushed : ∃ id rule, s.db.rules.get? id = some rule ∧ rule.tenantId = tenantId ∧
      (pushWrites rule (newUuid id) uuid).isSome = true
  · obtain ⟨id, rule, hget, htenant, hsome⟩ := hpushed
    obtain ⟨value, hwrites⟩ := Option.isSome_iff_exists.mp hsome
    rw [opnsense_applyAll_of_some hrun hnew hget htenant hwrites]
    have huuid : rule.uuid = uuid := by
      rcases uuid_of_pushWrites hwrites with heq | heq
      · exact heq.symm
      · exact absurd heq (hold id (by rw [hget]; rfl))
    subst huuid
    rcases work_cases rule with ⟨hstatus, hwork⟩ | ⟨hstatus, hplace, hwork⟩ |
      ⟨hstatus, hplace, hwork⟩ | ⟨-, hwork⟩
    · -- The rule is deleted.
      have hboth : isPlaceholder rule.uuid = false := by
        cases hplace : isPlaceholder rule.uuid with
        | false => rfl
        | true => simp [pushWrites, hwork, hplace] at hwrites
      have hvalue : value = none := by
        simpa [pushWrites, hwork, hboth] using hwrites.symm
      exact iff_of_true hvalue (Or.inl ⟨id, rule, hget, htenant, rfl, hstatus, hboth⟩)
    · -- The rule is replaced.
      have hvalue : value = some rule.payload := by
        simpa [pushWrites, hwork] using hwrites.symm
      refine iff_of_false (by rw [hvalue]; exact nofun) ?_
      rintro (⟨id', rule', hget', -, huuid, hdelete, -⟩ | ⟨-, hnone⟩)
      · obtain rfl := s.db.eq_of_uuid hget' hget huuid
        obtain rfl := Option.some.inj (hget.symm.trans hget')
        rw [hstatus] at hdelete
        cases hdelete
      · rcases hnone id rule hget htenant rfl with hne | htrue
        · exact hne hstatus
        · rw [hplace] at htrue
          cases htrue
    · -- A new rule gets a new uuid.
      have hgiven : rule.uuid = newUuid id := by
        by_contra hne
        simp [pushWrites, hwork, hne] at hwrites
      exact absurd hgiven (hold id (by rw [hget]; rfl))
    · simp [pushWrites, hwork] at hwrites
  · have hnone : ∀ id rule, s.db.rules.get? id = some rule → rule.tenantId = tenantId →
        pushWrites rule (newUuid id) uuid = none := by
      intro id rule hget htenant
      by_contra hsome
      exact hpushed ⟨id, rule, hget, htenant, Option.isSome_iff_ne_none.mpr hsome⟩
    rw [opnsense_applyAll_of_none hrun hnew hnone]
    constructor
    · refine fun habsent => Or.inr ⟨habsent, fun id rule hget htenant huuid => ?_⟩
      rcases work_cases rule with ⟨hstatus, -⟩ | ⟨-, -, hwork⟩ | ⟨-, hplace, -⟩ |
        ⟨hstatus | hstatus, -⟩
      · exact Or.inl (by rw [hstatus]; exact nofun)
      · have hwrites := hnone id rule hget htenant
        simp [pushWrites, hwork, huuid] at hwrites
      · exact Or.inr (huuid ▸ hplace)
      · exact Or.inl (by rw [hstatus]; exact nofun)
      · exact Or.inl (by rw [hstatus]; exact nofun)
    · rintro (⟨id, rule, hget, htenant, huuid, hstatus, hplace⟩ | ⟨habsent, -⟩)
      · have hwrites := hnone id rule hget htenant
        have hwork : rule.work = some .delete := by
          rw [OPNsenseFirewallRule.work, hstatus]
        simp [pushWrites, hwork, huuid, hplace] at hwrites
      · exact habsent

omit hrun in
/-- No uuid of a stored rule is one that OPNsense gives. -/
private theorem ne_newUuid_of_isUuidOf {id : ℕ} {rule : OPNsenseFirewallRule} {uuid : String}
    (hget : s.db.rules.get? id = some rule) (huuid : IsUuidOf s id rule uuid) (given : ℕ)
    (hgiven : (s.db.rules.get? given).isSome = true) : uuid ≠ newUuid given := by
  obtain ⟨-, hnorow, hnotgiven, -, -⟩ := fresh_iff.mp (hnew.fresh given hgiven)
  rcases huuid with rfl | hcreated
  · exact hnorow id rule hget
  · exact hnotgiven (id, uuid) hcreated

/-- A complete run leaves what OPNsense has for a rule that is neither pending nor to be deleted. -/
private theorem opnsense_applyAll_of_idle {id : ℕ} {rule : OPNsenseFirewallRule}
    (hget : s.db.rules.get? id = some rule) (hwork : rule.work = none) :
    Table.get? (s.applyAll tenantId run newUuid).opnsense rule.uuid =
      Table.get? s.opnsense rule.uuid := by
  refine opnsense_applyAll_of_none hrun hnew fun id' rule' hget' _ => ?_
  by_contra hwritten
  obtain ⟨value, hwrites⟩ := Option.ne_none_iff_exists'.mp hwritten
  rcases uuid_of_pushWrites hwrites with hold | hgiven
  · obtain rfl := s.db.eq_of_uuid hget hget' hold
    obtain rfl := Option.some.inj (hget.symm.trans hget')
    rw [pushWrites, hwork] at hwrites
    cases hwrites
  · exact ne_newUuid_of_isUuidOf hnew hget (Or.inl rfl) id' (by rw [hget']; rfl) hgiven

/-- A complete apply run converges exactly when nothing has failed, the deletions are still to be
done, and the synced rules agree with OPNsense. -/
theorem converged_iff (deleted : ℕ → Prop) :
    Converged tenantId deleted s (s.applyAll tenantId run newUuid) ↔ Ready tenantId deleted s := by
  have hcleared : ∀ id rule uuid, s.db.rules.get? id = some rule → IsUuidOf s id rule uuid →
      (Table.get? (s.applyAll tenantId run newUuid).opnsense uuid = none ↔
        Cleared tenantId s uuid) := fun id rule uuid hget huuid =>
    opnsense_applyAll_eq_none_iff hrun hnew (ne_newUuid_of_isUuidOf hnew hget huuid)
  constructor
  · intro h
    refine ⟨fun id rule hget htenant hfailed => ?_, fun id rule hget htenant hdeleted => ?_,
      fun id rule hget htenant hsynced => ?_⟩
    · have hwork : rule.work = none := by rw [OPNsenseFirewallRule.work, hfailed]
      have hkept : (s.applyAll tenantId run newUuid).db.rules.get? id = some rule :=
        get?_applyAll_of_idle hrun hnew hget hwork
      have hstatus := h.synced id rule hkept htenant
      rw [hfailed] at hstatus
      cases hstatus
    · obtain ⟨hgone, hleft⟩ := h.gone id rule hget htenant hdeleted
      rw [rules_applyAll hrun hnew, hget, Option.bind_some, appliedRow,
        if_neg (not_not.mpr htenant)] at hgone
      refine ⟨?_, fun uuid huuid => (hcleared id rule uuid hget huuid).mp (hleft uuid huuid)⟩
      rcases work_cases rule with ⟨hstatus, -⟩ | ⟨-, -, hwork⟩ | ⟨-, -, hwork⟩ | ⟨-, hwork⟩
      · exact hstatus
      all_goals
        rw [hwork] at hgone
        cases hgone
    · have hwork : rule.work = none := by rw [OPNsenseFirewallRule.work, hsynced]
      obtain ⟨stored, hstored, hagrees⟩ :=
        h.agrees id rule (get?_applyAll_of_idle hrun hnew hget hwork) htenant
      rw [opnsense_applyAll_of_idle hrun hnew hget hwork] at hstored
      exact ⟨stored, hstored, hagrees⟩
  · intro h
    -- What the run leaves comes from a row that was idle or pushed.
    have hrow : ∀ id rule, (s.applyAll tenantId run newUuid).db.rules.get? id = some rule →
        rule.tenantId = tenantId → rule.applyStatus = .synced ∧
          ∃ stored, Table.get? (s.applyAll tenantId run newUuid).opnsense rule.uuid = some stored ∧
            rule.payload.agrees stored = true := by
      intro id rule' hget' htenant'
      rw [rules_applyAll hrun hnew] at hget'
      obtain ⟨rule, hget, happlied⟩ := Option.bind_eq_some_iff.mp hget'
      by_cases htenant : rule.tenantId = tenantId
      · rw [appliedRow, if_neg (not_not.mpr htenant)] at happlied
        rcases work_cases rule with ⟨-, hwork⟩ | ⟨-, -, hwork⟩ | ⟨-, -, hwork⟩ | ⟨hstatus, hwork⟩
        · rw [hwork] at happlied
          cases happlied
        · rw [hwork] at happlied
          obtain rfl := Option.some.inj happlied
          refine ⟨rfl, rule.payload, ?_, RuleContent.agrees_self _⟩
          exact opnsense_applyAll_of_some hrun hnew hget htenant (by simp [pushWrites, hwork,
            OPNsenseFirewallRule.pushed])
        · rw [hwork] at happlied
          obtain rfl := Option.some.inj happlied
          refine ⟨rfl, rule.payload, ?_, RuleContent.agrees_self _⟩
          exact opnsense_applyAll_of_some hrun hnew hget htenant (by simp [pushWrites, hwork,
            OPNsenseFirewallRule.pushed])
        · rw [hwork] at happlied
          obtain rfl := Option.some.inj happlied
          have hsynced : rule.applyStatus = .synced :=
            hstatus.resolve_right (h.notFailed id rule hget htenant)
          rw [opnsense_applyAll_of_idle hrun hnew hget hwork]
          exact ⟨hsynced, h.agrees id rule hget htenant hsynced⟩
      · rw [appliedRow, if_pos htenant] at happlied
        obtain rfl := Option.some.inj happlied
        exact absurd htenant' htenant
    refine ⟨fun id rule hget htenant => (hrow id rule hget htenant).1,
      fun id rule hget htenant hdeleted => ?_,
      fun id rule hget htenant => (hrow id rule hget htenant).2⟩
    obtain ⟨hstatus, huuids⟩ := h.marked id rule hget htenant hdeleted
    refine ⟨?_, fun uuid huuid => (hcleared id rule uuid hget huuid).mpr (huuids uuid huuid)⟩
    have hwork : rule.work = some .delete := by rw [OPNsenseFirewallRule.work, hstatus]
    rw [rules_applyAll hrun hnew, hget, Option.bind_some, appliedRow,
      if_neg (not_not.mpr htenant), hwork]

end Converges

/-- An apply run creates a new rule. -/
theorem converged_iff_newRule :
    Converged 1 (fun _ => False) newRuleState
        (newRuleState.applyAll 1 0 fun _ => "2c1e3a5e-8d2f-4c7b-9a65-1f0d3b7c9e42") ↔
      Ready 1 (fun _ => False) newRuleState :=
  converged_iff rfl
    (givesNew_of_single (Serial.forall_get?_iff.mpr (by decide +kernel) : ∀ i rule,
      newRuleDb.rules.get? i = some rule → i = 1) (by decide +kernel)) _

/-- A tenant with a rule that is on OPNsense. -/
def syncedRuleState : State where
  db :=
    { tenants := [1]
      rules := Serial.empty.add
        { tenantId := 1
          uuid := "7b9d4f10-6a3c-4e8e-b2d1-5c0f8e7a6d93"
          content := defaultContent
          applyStatus := .synced
          applyError := none }
      valid := by decide +kernel }
  opnsense := Table.append ∅ "7b9d4f10-6a3c-4e8e-b2d1-5c0f8e7a6d93" defaultContent.toOpnsensePayload
  applies := ∅
  rules := ∅
  syncs := ∅
  created := []

/-- The rule is deleted, but OPNsense does not answer when the deletion is applied. -/
def failedDeletion : List Event :=
  [.deleteRule "7b9d4f10-6a3c-4e8e-b2d1-5c0f8e7a6d93", .startApply 0,
    .pushRule 0 (.raises false "timed out") "", .readOrder 0, .listOrder 0 true,
    .reloadRules 0 .returns, .commitApply 0]

/-- A deletion that has failed once is not done by a complete apply run. -/
theorem not_converged : ¬ ∀ tenantId start events,
    (machine tenantId fun _ _ => True).init start → ∀ run newUuid,
      ((machine tenantId fun _ _ => True).run start events).applies.get? run = none →
      GivesNew ((machine tenantId fun _ _ => True).run start events) newUuid →
      Converged tenantId (· ∈ deletedIn tenantId start events)
        ((machine tenantId fun _ _ => True).run start events)
        (((machine tenantId fun _ _ => True).run start events).applyAll tenantId run newUuid) := by
  intro h
  have hconverged := h 1 syncedRuleState failedDeletion ⟨trivial, rfl, rfl, rfl, rfl⟩ 1
    (fun _ => "2c1e3a5e-8d2f-4c7b-9a65-1f0d3b7c9e42") (by decide +kernel)
    (givesNew_of_single (Serial.forall_get?_iff.mpr (by decide +kernel) : ∀ i rule,
      Serial.get? _ i = some rule → i = 1) (by decide +kernel))
  have hdeleted : ∀ (id : ℕ) (rule : OPNsenseFirewallRule),
      ((machine 1 fun _ _ => True).run syncedRuleState failedDeletion).db.rules.get? id = some rule →
        rule.tenantId = 1 ∧ id ∈ deletedIn 1 syncedRuleState failedDeletion :=
    Serial.forall_get?_iff.mpr (by decide +kernel)
  obtain ⟨rule, hget⟩ := Option.isSome_iff_exists.mp (by decide +kernel :
    (((machine 1 fun _ _ => True).run syncedRuleState failedDeletion).db.rules.get? 1).isSome = true)
  obtain ⟨htenant, hin⟩ := hdeleted 1 rule hget
  have hgone := (hconverged.gone 1 rule hget htenant hin).1
  -- The second run has nothing to do.
  have hleft : ((((machine 1 fun _ _ => True).run syncedRuleState failedDeletion).applyAll 1 1
      fun _ => "2c1e3a5e-8d2f-4c7b-9a65-1f0d3b7c9e42").db.rules.get? 1).isSome = true := by
    decide +kernel
  rw [hgone] at hleft
  cases hleft

end ProxmoxIaas.Firewall
