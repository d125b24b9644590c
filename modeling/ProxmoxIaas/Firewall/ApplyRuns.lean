import ProxmoxIaas.Firewall.Creation

/-!
# Whole Apply Runs

An apply run that nothing interrupts and no other event overlaps, whatever its calls to OPNsense end
with, from any table and any rules on OPNsense. The run reads the rules that are pending or to be
deleted; the rules that have failed it leaves alone.

## Main results

- `rules_runApply`: what the run leaves of each row.
- `opnsense_runApply`: what the run leaves on OPNsense, in its order.
-/

namespace ProxmoxIaas.Firewall

/-- How the calls of an apply run end. -/
structure ApplyCalls where
  /-- The pushes, by row. -/
  push : ℕ → CallResult
  /-- The uuids that OPNsense gives to the rows, if they have to be created. -/
  newUuid : ℕ → String
  /-- Whether the rules are listed. -/
  lists : Bool
  /-- The moves, in their order. -/
  move : ℕ → CallResult
  /-- The reload. -/
  reload : CallResult

/-- The uuids that OPNsense gives to stored rules are different and in use by nothing. -/
structure GivesNew (s : State) (newUuid : ℕ → String) : Prop where
  /-- Different rules get different uuids. -/
  different (i j : ℕ) (hi : (s.db.rules.get? i).isSome = true)
    (hj : (s.db.rules.get? j).isSome = true) (h : newUuid i = newUuid j) : i = j
  /-- No uuid is in use. -/
  fresh (id : ℕ) (h : (s.db.rules.get? id).isSome = true) : s.fresh (newUuid id) = true

namespace ApplyCalls

/-- Every call succeeds. -/
def succeed (newUuid : ℕ → String) : ApplyCalls where
  push _ := .returns
  newUuid := newUuid
  lists := true
  move _ := .returns
  reload := .returns

variable (calls : ApplyCalls)

/-- The pushes of some rows. -/
def pushEvents (run : ℕ) (ids : List ℕ) : List Event :=
  ids.map fun id => .pushRule run (calls.push id) (calls.newUuid id)

/-- Some moves, from the one with a number on. -/
def moveEvents (run start n : ℕ) : List Event :=
  (List.range' start n).map fun i => .moveRule run (calls.move i)

/-- The events of an apply run. At most one rule is moved for each rule of the tenant. -/
def events (tenantId run : ℕ) (db : FirewallDb) : List Event :=
  .startApply run :: (calls.pushEvents run (workList (pendingRules db tenantId)) ++
    [.readOrder run, .listOrder run calls.lists] ++
    calls.moveEvents run 0 (rulesBySequence db tenantId).length ++
    [.reloadRules run calls.reload, .commitApply run])

/-- The result of the push of a row. -/
def result (id : ℕ) (rule : OPNsenseFirewallRule) (work : Work) : CallResult :=
  pushResult work rule (calls.push id)

/-- A rule of the session after its push. -/
def pushed (id : ℕ) (rule : SessionRule) : SessionRule :=
  match rule.loaded.work with
  | some work => rule.push work (calls.newUuid id) (calls.result id rule.current work)
  | none => rule

/-- A rule of the session after the reload. -/
def reloaded (id : ℕ) (rule : SessionRule) : SessionRule :=
  match calls.reload with
  | .returns => calls.pushed id rule
  | .raises _ error => (calls.pushed id rule).failReload error

/-- What a push leaves on OPNsense. -/
def pushTo (db : FirewallDb) (opnsense : Opnsense) (id : ℕ) : Opnsense :=
  match db.rules.get? id with
  | some rule =>
    match rule.work with
    | some work =>
      if (calls.result id rule work).tookEffect then
        pushCall work rule (calls.newUuid id) opnsense
      else opnsense
    | none => opnsense
  | none => opnsense

/-- What the moves leave on OPNsense, from the one with a number on. -/
def moveTo (start : ℕ) (moves : List (String × String)) (opnsense : Opnsense) : Opnsense :=
  match moves with
  | [] => opnsense
  | (uuid, next) :: moves => moveTo (start + 1) moves <|
      if (calls.move start).tookEffect then Table.moveBefore opnsense uuid next else opnsense

/-- The uuid of a row when the order of the rules is read. -/
def uuidInOrder (tenantId id : ℕ) (rule : OPNsenseFirewallRule) : String :=
  if rule.tenantId = tenantId ∧ rule.work = some .create ∧ calls.push id = .returns then
    calls.newUuid id
  else rule.uuid

/-- What the pushes of a run leave on OPNsense. -/
def pushAll (tenantId : ℕ) (db : FirewallDb) (opnsense : Opnsense) : Opnsense :=
  (workList (pendingRules db tenantId)).foldl (calls.pushTo db) opnsense

/-- The order that a run reads. -/
def desiredOrder (tenantId : ℕ) (db : FirewallDb) : List String :=
  (rulesBySequence db tenantId).map fun (id, rule) => calls.uuidInOrder tenantId id rule

/-- The rules that a run lists. -/
def listedOrder (opnsense : Opnsense) : List String :=
  if calls.lists then opnsense.listRules.map Prod.fst else []

/-- A row that was pushed to be updated or created, after the reload. -/
def applied (id : ℕ) (rule : OPNsenseFirewallRule) (work : Work) : OPNsenseFirewallRule :=
  match calls.result id rule work, calls.reload with
  | .returns, .returns => rule.pushed work (calls.newUuid id)
  | .returns, .raises _ error => (rule.pushed work (calls.newUuid id)).fail error
  | .raises _ error, _ => rule.fail error

/-- A row after an apply run. -/
def outcome (tenantId id : ℕ) (rule : OPNsenseFirewallRule) : Option OPNsenseFirewallRule :=
  if rule.tenantId ≠ tenantId then some rule
  else
    match rule.work with
    | some .delete =>
      match calls.result id rule .delete with
      | .returns => none
      | .raises _ error => some (rule.fail error)
    | some .update => some (calls.applied id rule .update)
    | some .create => some (calls.applied id rule .create)
    | none => some rule

end ApplyCalls

/-- The state after an apply run. -/
def State.runApply (s : State) (tenantId run : ℕ) (calls : ApplyCalls) : State :=
  (calls.events tenantId run s.db).foldl (State.step tenantId) s

/-- The state while an apply run is in flight. -/
def State.during (s : State) (run : ℕ) (opnsense : Opnsense) (created : List (ℕ × String))
    (apply : ApplyRun) : State :=
  { s with opnsense, created, applies := s.applies.insert run apply }

/-- What the push of a rule writes under a uuid on OPNsense, if anything. -/
def pushWrites (rule : OPNsenseFirewallRule) (newUuid uuid : String) : Option (Option Payload) :=
  match rule.work with
  | some .delete => if isPlaceholder rule.uuid = false ∧ uuid = rule.uuid then some none else none
  | some .update => if uuid = rule.uuid then some (some rule.payload) else none
  | some .create => if uuid = newUuid then some (some rule.payload) else none
  | none => none

variable {tenantId run : ℕ} {calls : ApplyCalls} {newUuid : ℕ → String} {s : State}
  {opnsense : Opnsense} {created : List (ℕ × String)} {apply : ApplyRun}

/-- The effect of a push. -/
theorem get?_pushCall {rule : OPNsenseFirewallRule} {work : Work} (h : rule.work = some work)
    (newUuid uuid : String) (opnsense : Opnsense) :
    Table.get? (pushCall work rule newUuid opnsense) uuid =
      (pushWrites rule newUuid uuid).getD (Table.get? opnsense uuid) := by
  unfold pushWrites
  rw [h]
  cases work with
  | delete =>
    unfold pushCall
    cases isPlaceholder rule.uuid with
    | true => simp
    | false =>
      by_cases heq : uuid = rule.uuid
      · simp [heq]
      · simp [heq]
  | update =>
    by_cases heq : uuid = rule.uuid
    · simp [pushCall, heq]
    · simp [pushCall, heq]
  | create =>
    by_cases heq : uuid = newUuid
    · simp [pushCall, heq]
    · simp [pushCall, heq]

/-- A push writes under the uuid of its rule, or under the one that the rule is given. -/
theorem uuid_of_pushWrites {rule : OPNsenseFirewallRule} {given uuid : String}
    {value : Option Payload} (h : pushWrites rule given uuid = some value) :
    uuid = rule.uuid ∨ uuid = given := by
  unfold pushWrites at h
  split at h
  case h_1 =>
    split at h
    case isTrue hboth => exact Or.inl hboth.2
    case isFalse => cases h
  case h_2 =>
    split at h
    case isTrue heq => exact Or.inl heq
    case isFalse => cases h
  case h_3 =>
    split at h
    case isTrue heq => exact Or.inr heq
    case isFalse => cases h
  case h_4 => cases h

/-- The rules that an apply run reads. -/
theorem get?_pendingRules {db : FirewallDb} {id : ℕ} {rule : SessionRule} :
    (pendingRules db tenantId).get? id = some rule ↔
      ∃ row, db.rules.get? id = some row ∧ row.tenantId = tenantId ∧ row.work.isSome = true ∧
        rule = ⟨row, row⟩ := by
  rw [pendingRules, Table.get?_mapRows, Table.get?_deleteWhere, Option.map_eq_some_iff]
  constructor
  · rintro ⟨row, hrow, rfl⟩
    obtain ⟨hget, hread⟩ := Option.filter_eq_some_iff.mp hrow
    simp only [Bool.not_not, Bool.and_eq_true, decide_eq_true_eq] at hread
    exact ⟨row, hget, hread.1, hread.2, rfl⟩
  · rintro ⟨row, hget, htenant, hwork, rfl⟩
    refine ⟨row, Option.filter_eq_some_iff.mpr ⟨hget, ?_⟩, rfl⟩
    simp [htenant, hwork]

/-- A run pushes the rules of its session that have some work. -/
theorem mem_workList {session : Table ℕ SessionRule} {id : ℕ} :
    id ∈ workList session ↔ ∃ rule, session.get? id = some rule ∧ rule.loaded.work.isSome = true := by
  have hmem : ∀ work, id ∈ idsWith session work ↔
      ∃ rule, session.get? id = some rule ∧ rule.loaded.work = some work := by
    intro work
    refine ⟨work_of_mem_idsWith, fun ⟨rule, hget, hwork⟩ => ?_⟩
    exact List.mem_map.mpr ⟨(id, rule), Table.mem_select.mpr ⟨hget, decide_eq_true hwork⟩, rfl⟩
  unfold workList
  rw [List.mem_append, List.mem_append, hmem, hmem, hmem]
  constructor
  · rintro ((⟨rule, hget, hwork⟩ | ⟨rule, hget, hwork⟩) | ⟨rule, hget, hwork⟩)
    all_goals exact ⟨rule, hget, by rw [hwork]; rfl⟩
  · rintro ⟨rule, hget, hwork⟩
    obtain ⟨work, hwork⟩ := Option.isSome_iff_exists.mp hwork
    cases work with
    | delete => exact Or.inl (Or.inl ⟨rule, hget, hwork⟩)
    | update => exact Or.inl (Or.inr ⟨rule, hget, hwork⟩)
    | create => exact Or.inr ⟨rule, hget, hwork⟩

/-- The rows that an apply run pushes. -/
theorem mem_workList_pendingRules {db : FirewallDb} {id : ℕ} :
    id ∈ workList (pendingRules db tenantId) ↔
      ∃ rule, db.rules.get? id = some rule ∧ rule.tenantId = tenantId ∧ rule.work.isSome = true := by
  rw [mem_workList]
  constructor
  · rintro ⟨loaded, hloaded, -⟩
    obtain ⟨rule, hget, htenant, hwork, -⟩ := get?_pendingRules.mp hloaded
    exact ⟨rule, hget, htenant, hwork⟩
  · rintro ⟨rule, hget, htenant, hwork⟩
    exact ⟨⟨rule, rule⟩, get?_pendingRules.mpr ⟨rule, hget, htenant, hwork, rfl⟩, hwork⟩

/-- What is known of a uuid that is in use by nothing. -/
theorem fresh_iff {uuid : String} : s.fresh uuid = true ↔
    Table.get? s.opnsense uuid = none ∧ (∀ id rule, s.db.rules.get? id = some rule → rule.uuid ≠ uuid) ∧
      (∀ rule ∈ s.created, rule.2 ≠ uuid) ∧ uuid.toList.length ≤ 36 ∧ isPlaceholder uuid = false := by
  simp only [State.fresh, Bool.and_eq_true, Option.isNone_iff_eq_none, Bool.not_eq_true',
    Serial.first?_eq_none_iff, decide_eq_true_eq, decide_eq_false_iff_not, List.any_eq_false,
    and_assoc, ne_eq]

/-- The uuids given to a table with a single rule. -/
theorem givesNew_of_single {id : ℕ} {newUuid : String}
    (h : ∀ i rule, s.db.rules.get? i = some rule → i = id) (hfresh : s.fresh newUuid = true) :
    GivesNew s fun _ => newUuid where
  different i j hi hj _ := by
    obtain ⟨rule, hrule⟩ := Option.isSome_iff_exists.mp hi
    obtain ⟨rule', hrule'⟩ := Option.isSome_iff_exists.mp hj
    rw [h i rule hrule, h j rule' hrule']
  fresh _ _ := hfresh

/-! ## The steps of a run in flight -/

@[simp]
theorem State.during_db : (s.during run opnsense created apply).db = s.db := rfl

@[simp]
theorem State.during_opnsense : (s.during run opnsense created apply).opnsense = opnsense := rfl

@[simp]
theorem State.get?_during :
    (s.during run opnsense created apply).applies.get? run = some apply :=
  (Table.get?_insert ..).trans (if_pos rfl)

/-- A run that goes on is still in flight. -/
private theorem during_insert (opnsense' : Opnsense) (created' : List (ℕ × String))
    (next : ApplyRun) :
    { s.during run opnsense created apply with
      opnsense := opnsense'
      created := created'
      applies := (s.during run opnsense created apply).applies.insert run next } =
    s.during run opnsense' created' next := by
  simp only [State.during, AList.insert_insert]

/-- The push of the next rule. -/
private theorem step_pushRule (tenantId : ℕ) {id : ℕ} {todo : List ℕ} {rule : OPNsenseFirewallRule}
    {work : Work} (hphase : apply.phase = .push (id :: todo))
    (hget : apply.session.get? id = some ⟨rule, rule⟩) (hstored : s.db.rules.get? id = some rule)
    (hwork : rule.work = some work)
    (hfresh : (s.during run opnsense created apply).fresh (calls.newUuid id) = true) :
    ∃ created' next, (s.during run opnsense created apply).step tenantId
        (.pushRule run (calls.push id) (calls.newUuid id)) =
          s.during run (calls.pushTo s.db opnsense id) created' next ∧
      (∀ added ∈ created', added ∈ created ∨ added = (id, calls.newUuid id)) ∧
      next.phase = .push todo ∧ next.session = apply.session.modify id (calls.pushed id) ∧
      (next.applied = 0 → apply.applied = 0 ∧ calls.result id rule work ≠ .returns) := by
  have hnext : apply.phase.push? = some (id, todo) := by
    rw [hphase]
    rfl
  -- a rule is created under a uuid that is not in use
  have hrequire : Option.require (work = .create → (calls.result id rule work).tookEffect = true →
      (s.during run opnsense created apply).fresh (calls.newUuid id) = true) =
      (some ⟨⟩ : Option Unit) := if_pos fun _ _ => hfresh
  have hmodify : apply.session.modify id
      (·.push work (calls.newUuid id) (calls.result id rule work)) =
      apply.session.modify id (calls.pushed id) := by
    refine Table.modify_congr fun rule' hget' => ?_
    obtain rfl := Option.some.inj (hget.symm.trans hget')
    unfold ApplyCalls.pushed
    rw [hwork]
  have hpush : calls.pushTo s.db opnsense id = if (calls.result id rule work).tookEffect then
      pushCall work rule (calls.newUuid id) opnsense else opnsense := by
    simp only [ApplyCalls.pushTo, hstored, hwork]
  refine ⟨if work = .create ∧ (calls.result id rule work).tookEffect then
      created ++ [(id, calls.newUuid id)] else created,
    { session := apply.session.modify id
        (·.push work (calls.newUuid id) (calls.result id rule work))
      applied := if calls.result id rule work = .returns then apply.applied + 1 else apply.applied
      phase := .push todo }, ?_, fun added hmem => ?_, rfl, hmodify, fun happlied => ?_⟩
  · have hresult : pushResult work rule (calls.push id) = calls.result id rule work := rfl
    simp only [State.step, State.step?, pushRule?, State.get?_during, hnext, hget, hwork, hresult,
      Option.bind_eq_bind, Option.bind_some, Option.pure_def, hrequire, Option.getD_some,
      State.during_opnsense, hpush]
    exact during_insert _ _ _
  · split at hmem
    · rcases List.mem_append.mp hmem with hold | hnew
      · exact Or.inl hold
      · exact Or.inr (List.mem_singleton.mp hnew)
    · exact Or.inl hmem
  · dsimp only at happlied
    -- a rule that was applied is counted
    split at happlied
    · cases happlied
    · exact ⟨happlied, ‹_›⟩

/-- Some pushes. -/
private theorem run_pushes (tenantId : ℕ) (hnew : GivesNew s calls.newUuid) {todo : List ℕ}
    (hphase : apply.phase = .push todo) (hnodup : todo.Nodup)
    (hloaded : ∀ id ∈ todo, ∃ rule work, apply.session.get? id = some ⟨rule, rule⟩ ∧
      s.db.rules.get? id = some rule ∧ rule.work = some work)
    (hfree : ∀ id ∈ todo, Table.get? opnsense (calls.newUuid id) = none ∧
      ∀ added ∈ created, added.2 ≠ calls.newUuid id) :
    ∃ created' next, (calls.pushEvents run todo).foldl (State.step tenantId)
        (s.during run opnsense created apply) =
          s.during run (todo.foldl (calls.pushTo s.db) opnsense) created' next ∧
      next.phase = .push [] ∧
      (∀ id, next.session.get? id = if id ∈ todo then
        (apply.session.get? id).map (calls.pushed id) else apply.session.get? id) ∧
      (next.applied = 0 → apply.applied = 0 ∧ ∀ id ∈ todo, ∀ rule work,
        s.db.rules.get? id = some rule → rule.work = some work →
          calls.result id rule work ≠ .returns) := by
  induction todo generalizing opnsense created apply with
  | nil =>
    exact ⟨created, apply, rfl, hphase, fun id => by simp, fun h => ⟨h, fun id hmem => by cases hmem⟩⟩
  | cons id todo ih =>
    obtain ⟨hnotin, hnodup⟩ := List.nodup_cons.mp hnodup
    obtain ⟨rule, work, hget, hstored, hwork⟩ := hloaded id List.mem_cons_self
    obtain ⟨hnone, hnotgiven⟩ := hfree id List.mem_cons_self
    have hsome : (s.db.rules.get? id).isSome = true := by rw [hstored]; rfl
    obtain ⟨-, hnorow, -, hlength, hplace⟩ := fresh_iff.mp (hnew.fresh id hsome)
    obtain ⟨created₁, next₁, hstep, hcreated, hphase₁, hsession₁, happlied₁⟩ :=
      step_pushRule tenantId hphase hget hstored hwork
        (fresh_iff.mpr ⟨hnone, hnorow, hnotgiven, hlength, hplace⟩)
    have hother : ∀ id' ∈ todo, id' ≠ id := by
      rintro id' hmem rfl
      exact hnotin hmem
    -- The rows that are left are as they were loaded.
    have hloaded₁ : ∀ id' ∈ todo, ∃ rule work, next₁.session.get? id' = some ⟨rule, rule⟩ ∧
        s.db.rules.get? id' = some rule ∧ rule.work = some work := by
      intro id' hmem
      obtain ⟨rule', work', hget', hrest⟩ := hloaded id' (List.mem_cons_of_mem _ hmem)
      refine ⟨rule', work', ?_, hrest⟩
      rw [hsession₁, Table.get?_modify, if_neg (hother id' hmem), hget']
    -- A uuid that is still to be given stays free.
    have hfree₁ : ∀ id' ∈ todo, Table.get? (calls.pushTo s.db opnsense id) (calls.newUuid id') = none ∧
        ∀ added ∈ created₁, added.2 ≠ calls.newUuid id' := by
      intro id' hmem
      obtain ⟨hnone', hnotgiven'⟩ := hfree id' (List.mem_cons_of_mem _ hmem)
      obtain ⟨rule', -, -, hstored', -⟩ := hloaded id' (List.mem_cons_of_mem _ hmem)
      have hsome' : (s.db.rules.get? id').isSome = true := by rw [hstored']; rfl
      have hne : calls.newUuid id' ≠ calls.newUuid id :=
        fun heq => hother id' hmem (hnew.different id' id hsome' hsome heq)
      have hnorow' := (fresh_iff.mp (hnew.fresh id' hsome')).2.1
      refine ⟨?_, fun added hin => ?_⟩
      · simp only [ApplyCalls.pushTo, hstored, hwork]
        split
        · rw [get?_pushCall hwork, hnone']
          cases hwrites : pushWrites rule (calls.newUuid id) (calls.newUuid id') with
          | none => rfl
          | some value =>
            rcases uuid_of_pushWrites hwrites with heq | heq
            · exact absurd heq.symm (hnorow' id rule hstored)
            · exact absurd heq hne
        · exact hnone'
      · rcases hcreated added hin with hold | rfl
        · exact hnotgiven' added hold
        · exact hne.symm
    obtain ⟨created', next, hrun, hphase', hsession, happlied⟩ := ih hphase₁ hnodup hloaded₁ hfree₁
    refine ⟨created', next, ?_, hphase', fun id' => ?_, fun hzero => ?_⟩
    · rw [ApplyCalls.pushEvents, List.map_cons, List.foldl_cons, hstep]
      exact hrun
    · rw [hsession, hsession₁, Table.get?_modify]
      by_cases heq : id' = id
      · subst heq
        rw [if_neg hnotin, if_pos rfl, if_pos List.mem_cons_self]
      · rw [if_neg heq]
        simp only [List.mem_cons, heq, false_or]
    · obtain ⟨hzero₁, hlast⟩ := happlied hzero
      obtain ⟨hzero₀, hfirst⟩ := happlied₁ hzero₁
      refine ⟨hzero₀, fun id' hmem rule' work' hget' hwork' => ?_⟩
      rcases List.mem_cons.mp hmem with rfl | hmem
      · obtain rfl := Option.some.inj (hstored.symm.trans hget')
        obtain rfl := Option.some.inj (hwork.symm.trans hwork')
        exact hfirst
      · exact hlast id' hmem rule' work' hget' hwork'

/-- The order of the rules is read, and the rules are listed. -/
private theorem run_order (tenantId : ℕ) (hphase : apply.phase = .push []) :
    [.readOrder run, .listOrder run calls.lists].foldl (State.step tenantId)
        (s.during run opnsense created apply) =
      s.during run opnsense created { apply with
        phase := .move (movesFor ((rulesBySequence s.db tenantId).map fun (id, rule) =>
          ((apply.session.get? id).map (·.current.uuid)).getD rule.uuid)
          (calls.listedOrder opnsense)) } := by
  have hrequire : Option.require (apply.phase = .push []) = (some ⟨⟩ : Option Unit) := if_pos hphase
  have hread : (s.during run opnsense created apply).step tenantId (.readOrder run) =
      s.during run opnsense created { apply with
        phase := .order ((rulesBySequence s.db tenantId).map fun (id, rule) =>
          ((apply.session.get? id).map (·.current.uuid)).getD rule.uuid) } := by
    simp only [State.step, State.step?, Firewall.readOrder?, State.get?_during, hrequire,
      Option.bind_eq_bind, Option.bind_some, Option.pure_def, Option.getD_some]
    exact during_insert _ _ _
  rw [List.foldl_cons, hread, List.foldl_cons, List.foldl_nil]
  simp only [State.step, State.step?, Firewall.listOrder?, State.get?_during, ApplyPhase.order?,
    Option.bind_eq_bind, Option.bind_some, Option.pure_def, Option.getD_some]
  exact during_insert _ _ _

/-- Some moves. -/
private theorem run_moves (tenantId start n : ℕ) {moves : List (String × String)}
    (hphase : apply.phase = .move moves) (hlength : moves.length ≤ n) :
    (calls.moveEvents run start n).foldl (State.step tenantId)
        (s.during run opnsense created apply) =
      s.during run (calls.moveTo start moves opnsense) created { apply with phase := .move [] } := by
  induction n generalizing start opnsense apply moves with
  | zero =>
    obtain rfl := List.length_eq_zero_iff.mp (Nat.le_zero.mp hlength)
    rw [← hphase]
    rfl
  | succ n ih =>
    rw [ApplyCalls.moveEvents, List.range'_succ, List.map_cons, List.foldl_cons]
    cases moves with
    | nil =>
      -- Without a move left the step is not possible.
      have hstep : (s.during run opnsense created apply).step tenantId
          (.moveRule run (calls.move start)) = s.during run opnsense created apply := by
        have hmove : apply.phase.move? = none := by
          rw [hphase]
          rfl
        simp only [State.step, State.step?, Firewall.moveRule?, State.get?_during, hmove,
          Option.bind_eq_bind, Option.bind_some, Option.bind_none, Option.getD_none]
      rw [hstep]
      exact ih (start + 1) hphase (Nat.zero_le n)
    | cons move moves =>
      obtain ⟨uuid, next⟩ := move
      have hmove : apply.phase.move? = some ((uuid, next), moves) := by
        rw [hphase]
        rfl
      have hstep : (s.during run opnsense created apply).step tenantId
          (.moveRule run (calls.move start)) = s.during run
            (if (calls.move start).tookEffect then Table.moveBefore opnsense uuid next
              else opnsense) created { apply with phase := .move moves } := by
        simp only [State.step, State.step?, Firewall.moveRule?, State.get?_during, hmove,
          Option.bind_eq_bind, Option.bind_some, Option.pure_def, Option.getD_some,
          State.during_opnsense]
        exact during_insert _ _ _
      rw [hstep]
      exact ih (start + 1) rfl (Nat.le_of_succ_le_succ hlength)

/-- The rules are reloaded, and the run commits. -/
private theorem run_commit (tenantId : ℕ) (s : State) (run : ℕ) (calls : ApplyCalls)
    (opnsense : Opnsense) (created : List (ℕ × String)) (apply : ApplyRun)
    (hphase : apply.phase = .move []) :
    ∃ session, (∀ id, session.get? id = (apply.session.get? id).map fun rule =>
        match calls.reload with
        | .returns => rule
        | .raises _ error => if 0 < apply.applied then rule.failReload error else rule) ∧
      ([.reloadRules run calls.reload, .commitApply run].foldl (State.step tenantId)
        (s.during run opnsense created apply)).db = (s.db.commit? session).getD s.db ∧
      ([.reloadRules run calls.reload, .commitApply run].foldl (State.step tenantId)
        (s.during run opnsense created apply)).opnsense = opnsense := by
  have hrequire : Option.require (apply.phase = .move []) = (some ⟨⟩ : Option Unit) := if_pos hphase
  obtain ⟨session, hsession, hreload⟩ : ∃ session : Table ℕ SessionRule,
      (∀ id, session.get? id = (apply.session.get? id).map fun rule =>
        match calls.reload with
        | .returns => rule
        | .raises _ error => if 0 < apply.applied then rule.failReload error else rule) ∧
      (s.during run opnsense created apply).step tenantId (.reloadRules run calls.reload) =
        s.during run opnsense created { apply with session, phase := .commit } := by
    cases hcall : calls.reload with
    | returns =>
      refine ⟨apply.session, fun id => Option.map_id'.symm, ?_⟩
      simp only [State.step, State.step?, Firewall.reloadRules?, State.get?_during, hrequire,
        Option.bind_eq_bind, Option.bind_some, Option.pure_def, Option.getD_some]
      exact during_insert _ _ _
    | raises tookEffect error =>
      refine ⟨if 0 < apply.applied then
        apply.session.mapRows fun _ rule => rule.failReload error else apply.session,
        fun id => ?_, ?_⟩
      · dsimp only
        split
        · exact Table.get?_mapRows ..
        · exact Option.map_id'.symm
      · simp only [State.step, State.step?, Firewall.reloadRules?, State.get?_during, hrequire,
          Option.bind_eq_bind, Option.bind_some, Option.pure_def, Option.getD_some]
        exact during_insert _ _ _
  refine ⟨session, hsession, ?_⟩
  rw [List.foldl_cons, hreload, List.foldl_cons, List.foldl_nil]
  have hcommit : Option.require True = (some ⟨⟩ : Option Unit) := if_pos trivial
  simp only [State.step, State.step?, Firewall.commitApply?, State.get?_during, hcommit,
    Option.bind_eq_bind, Option.bind_some, Option.pure_def, Option.getD_some, State.during_db,
    State.during_opnsense, and_self]

/-! ## The rows of a run -/

/-- What a run may do to a row before its deletions. -/
private structure Follows (newUuid : String) (rule rule' : OPNsenseFirewallRule) : Prop where
  tenantId : rule'.tenantId = rule.tenantId
  content : rule'.content = rule.content
  applyError : ∀ text, rule'.applyError = some text →
    rule.applyError = some text ∨ text.toList.length ≤ 500
  uuid : rule'.uuid = rule.uuid ∨ rule'.uuid = newUuid

/-- A push. -/
private theorem Follows.pushed (newUuid : String) (rule : OPNsenseFirewallRule) (work : Work) :
    Follows newUuid rule (rule.pushed work newUuid) := by
  cases work with
  | delete => exact ⟨rfl, rfl, fun _ => Or.inl, Or.inl rfl⟩
  | update => exact ⟨rfl, rfl, nofun, Or.inl rfl⟩
  | create => exact ⟨rfl, rfl, nofun, Or.inr rfl⟩

/-- A failure keeps an error of at most 500 characters. -/
private theorem Follows.fail {newUuid : String} {rule rule' : OPNsenseFirewallRule}
    (h : Follows newUuid rule rule') (error : String) : Follows newUuid rule (rule'.fail error) := by
  refine ⟨h.tenantId, h.content, fun text htext => Or.inr ?_, h.uuid⟩
  obtain rfl := Option.some.inj htext
  show (String.ofList (error.toList.take 500)).toList.length ≤ 500
  rw [String.toList_ofList, List.length_take]
  exact Nat.min_le_left _ _

/-- A row that follows another one fits if that one does. -/
private theorem Follows.fits {newUuid : String} {rule rule' : OPNsenseFirewallRule}
    (h : Follows newUuid rule rule') {tenants : List ℕ} (hfits : rule.fits tenants = true)
    (hlength : newUuid.toList.length ≤ 36) : rule'.fits tenants = true := by
  simp only [OPNsenseFirewallRule.fits, Bool.and_eq_true, decide_eq_true_eq] at hfits ⊢
  obtain ⟨⟨⟨⟨hknown, huuid⟩, hsequence⟩, htext⟩, herror⟩ := hfits
  rw [h.tenantId, h.content]
  refine ⟨⟨⟨⟨hknown, ?_⟩, hsequence⟩, htext⟩, ?_⟩
  · rcases h.uuid with hold | hnew
    · rw [hold]
      exact huuid
    · rw [hnew]
      exact hlength
  · cases hstored : rule'.applyError with
    | none => rfl
    | some text =>
      refine decide_eq_true ?_
      rcases h.applyError text hstored with hold | hshort
      · rw [hold] at herror
        exact of_decide_eq_true herror
      · exact hshort

/-- A session writes a row as it has it, if the row is stored as it was loaded. -/
private theorem write_self {loaded current : OPNsenseFirewallRule}
    (h : current.tenantId = loaded.tenantId) : loaded.write current loaded = current := by
  have hcolumn : ∀ {β : Type} [DecidableEq β] (column : OPNsenseFirewallRule → β),
      writeColumn (some loaded) column (column current) (column loaded) = column current := by
    intro β _ column
    rcases writeColumn_cases loaded column (column current) (column loaded) with hkept | ⟨hset, -⟩
    · rw [hkept]
      unfold writeColumn at hkept
      split at hkept
      case isTrue heq => exact Option.some.inj heq
      case isFalse => exact hkept.symm
    · exact hset
  unfold OPNsenseFirewallRule.write
  have htext : ∀ field, writeColumn (some loaded) (·.content.text field) (current.content.text field)
      (loaded.content.text field) = current.content.text field :=
    fun field => hcolumn (·.content.text field)
  simp only [hcolumn (·.uuid), hcolumn (·.content.sequence), htext, hcolumn (·.applyStatus),
    hcolumn (·.applyError), ← h]

/-- A row of the session at the end. -/
private theorem current_reloaded {id : ℕ} {rule : OPNsenseFirewallRule} {work : Work}
    (hwork : rule.work = some work) : (calls.reloaded id ⟨rule, rule⟩).loaded = rule ∧
      (calls.reloaded id ⟨rule, rule⟩).current =
        if work = .delete then
          match calls.result id rule .delete with
          | .returns => rule
          | .raises _ error => rule.fail error
        else calls.applied id rule work := by
  have hpushed : calls.pushed id ⟨rule, rule⟩ =
      (⟨rule, rule⟩ : SessionRule).push work (calls.newUuid id) (calls.result id rule work) := by
    unfold ApplyCalls.pushed
    rw [hwork]
  have hstatus : work = .delete → rule.applyStatus ≠ .synced := by
    rintro rfl hsynced
    rw [OPNsenseFirewallRule.work, hsynced] at hwork
    cases hwork
  unfold ApplyCalls.reloaded ApplyCalls.applied
  rw [hpushed]
  cases hreload : calls.reload with
  | returns =>
    refine ⟨rfl, ?_⟩
    cases work with
    | delete => cases calls.result id rule .delete <;> rfl
    | update => cases calls.result id rule .update <;> rfl
    | create => cases calls.result id rule .create <;> rfl
  | raises tookEffect error =>
    -- Only a rule that was pushed is synced.
    unfold SessionRule.failReload
    cases work with
    | delete =>
      cases calls.result id rule .delete with
      | returns => simp [SessionRule.push, OPNsenseFirewallRule.pushed, hstatus]
      | raises => exact ⟨rfl, rfl⟩
    | update => cases calls.result id rule .update <;> exact ⟨rfl, rfl⟩
    | create => cases calls.result id rule .create <;> exact ⟨rfl, rfl⟩

/-- The row of the session follows the one that was loaded. -/
private theorem follows_reloaded {id : ℕ} {rule : OPNsenseFirewallRule} {work : Work}
    (hwork : rule.work = some work) :
    Follows (calls.newUuid id) rule (calls.reloaded id ⟨rule, rule⟩).current := by
  have hrefl : Follows (calls.newUuid id) rule rule := ⟨rfl, rfl, fun _ => Or.inl, Or.inl rfl⟩
  rw [(current_reloaded hwork).2]
  split
  · split
    · exact hrefl
    · exact hrefl.fail _
  · unfold ApplyCalls.applied
    split
    · exact .pushed _ _ _
    · exact (Follows.pushed _ _ _).fail _
    · exact hrefl.fail _

/-- The commit of a run succeeds, if the uuids that OPNsense gives are new. -/
private theorem commit?_reloaded (hnew : GivesNew s calls.newUuid) {session : Table ℕ SessionRule}
    (hsession : ∀ id, session.get? id =
      ((pendingRules s.db tenantId).get? id).map (calls.reloaded id)) :
    ∃ db', s.db.commit? session = some db' ∧
      ∀ id, db'.rules.get? id = (s.db.rules.get? id).bind (calls.outcome tenantId id) := by
  -- What the session has of a stored row.
  have hread : ∀ id rule work, s.db.rules.get? id = some rule → rule.tenantId = tenantId →
      rule.work = some work → session.get? id = some (calls.reloaded id ⟨rule, rule⟩) := by
    intro id rule work hget htenant hwork
    rw [hsession, get?_pendingRules.mpr ⟨rule, hget, htenant, by rw [hwork]; rfl, rfl⟩,
      Option.map_some]
  have hunread : ∀ id rule, s.db.rules.get? id = some rule →
      rule.tenantId ≠ tenantId ∨ rule.work = none → session.get? id = none := by
    intro id rule hget hout
    rw [hsession, Option.map_eq_none_iff]
    by_contra hsome
    obtain ⟨loaded, hloaded⟩ := Option.ne_none_iff_exists'.mp hsome
    obtain ⟨row, hrow, htenant, hwork, -⟩ := get?_pendingRules.mp hloaded
    obtain rfl := Option.some.inj (hget.symm.trans hrow)
    rcases hout with hne | hnone
    · exact hne htenant
    · rw [hnone] at hwork
      cases hwork
  -- A stored row follows itself, with or without the session.
  have hwritten : ∀ id rule, s.db.rules.get? id = some rule →
      ∃ rule', (writeSession session s.db.rules).get? id = some rule' ∧
        Follows (calls.newUuid id) rule rule' ∧
        (if deletesRow session id then none else some rule') = calls.outcome tenantId id rule := by
    intro id rule hget
    rw [writeSession, Serial.get?_mapRows, hget, Option.map_some]
    unfold deletesRow ApplyCalls.outcome
    by_cases htenant : rule.tenantId = tenantId
    · cases hwork : rule.work with
      | none =>
        rw [hunread id rule hget (Or.inr hwork)]
        refine ⟨rule, rfl, ⟨rfl, rfl, fun _ => Or.inl, Or.inl rfl⟩, ?_⟩
        rw [if_neg (not_not.mpr htenant)]
        rfl
      | some work =>
        obtain ⟨hloaded, hcurrent⟩ : (calls.reloaded id ⟨rule, rule⟩).loaded = rule ∧ _ :=
          current_reloaded hwork
        have hfollows : Follows (calls.newUuid id) rule (calls.reloaded id ⟨rule, rule⟩).current :=
          follows_reloaded hwork
        rw [hread id rule work hget htenant hwork]
        refine ⟨(calls.reloaded id ⟨rule, rule⟩).current, ?_, hfollows, ?_⟩
        · show some (OPNsenseFirewallRule.write _ _ _) = _
          rw [hloaded, write_self hfollows.tenantId]
        rw [Option.any_some, hloaded, if_neg (not_not.mpr htenant), hcurrent, hwork]
        cases work with
        | update | create => rfl
        | delete =>
          have hstatus : rule.applyStatus ≠ .failed := by
            intro hfailed
            rw [OPNsenseFirewallRule.work, hfailed] at hwork
            cases hwork
          rw [if_pos rfl]
          cases calls.result id rule .delete with
          | returns => simp [hstatus]
          | raises tookEffect error => simp [OPNsenseFirewallRule.fail]
    · rw [hunread id rule hget (Or.inl htenant)]
      refine ⟨rule, rfl, ⟨rfl, rfl, fun _ => Or.inl, Or.inl rfl⟩, ?_⟩
      rw [if_pos htenant]
      rfl
  have hrows : ∀ {id rule'}, (writeSession session s.db.rules).get? id = some rule' →
      ∃ rule, s.db.rules.get? id = some rule ∧ Follows (calls.newUuid id) rule rule' := by
    intro id rule' hget'
    cases hget : s.db.rules.get? id with
    | none =>
      rw [writeSession, Serial.get?_mapRows, hget] at hget'
      cases hget'
    | some rule =>
      obtain ⟨written, hrow, hfollows, -⟩ := hwritten id rule hget
      obtain rfl := Option.some.inj (hrow.symm.trans hget')
      exact ⟨rule, rfl, hfollows⟩
  have hvalid : ValidRules s.db.tenants (writeSession session s.db.rules) := by
    have hsome : ∀ {id rule}, s.db.rules.get? id = some rule →
        (s.db.rules.get? id).isSome = true := fun hget => Option.isSome_iff_exists.mpr ⟨_, hget⟩
    have hunused : ∀ {id rule k other}, s.db.rules.get? id = some rule →
        s.db.rules.get? k = some other → other.uuid ≠ calls.newUuid id :=
      fun hget hother => (fresh_iff.mp (hnew.fresh _ (hsome hget))).2.1 _ _ hother
    rw [validRules_iff]
    refine ⟨fun i j row row' hi hj huuid => ?_, fun i row hi => ?_⟩
    · obtain ⟨rule, hrule, hfollows⟩ := hrows hi
      obtain ⟨rule', hrule', hfollows'⟩ := hrows hj
      rcases hfollows.uuid with hold | hgiven <;> rcases hfollows'.uuid with hold' | hgiven'
      · exact s.db.eq_of_uuid hrule hrule' (hold.symm.trans (huuid.trans hold'))
      · exact absurd (hold.symm.trans (huuid.trans hgiven')) (hunused hrule' hrule)
      · exact absurd (hold'.symm.trans (huuid.symm.trans hgiven)) (hunused hrule hrule')
      · exact hnew.different i j (hsome hrule) (hsome hrule')
          (hgiven.symm.trans (huuid.trans hgiven'))
    · obtain ⟨rule, hrule, hfollows⟩ := hrows hi
      exact hfollows.fits (s.db.fits_of_get? hrule)
        (fresh_iff.mp (hnew.fresh i (hsome hrule))).2.2.2.1
  have hstale : staleSession session s.db.rules = false := by
    rw [staleSession, Option.isSome_eq_false_iff, Option.isNone_iff_eq_none,
      Table.first?_eq_none_iff]
    intro id rule hget
    rw [hsession] at hget
    obtain ⟨loaded, hloaded, -⟩ := Option.map_eq_some_iff.mp hget
    obtain ⟨row, hrow, -⟩ := get?_pendingRules.mp hloaded
    refine decide_eq_false fun hgone => ?_
    rw [hrow] at hgone
    cases hgone.2
  have hcommit : s.db.commit? session = some
      ((FirewallDb.mk s.db.tenants (writeSession session s.db.rules) hvalid).deleteWhere
        fun id _ => deletesRow session id) := by
    have hrequire : Option.require (staleSession session s.db.rules = false) =
        (some ⟨⟩ : Option Unit) := if_pos hstale
    have hdelete := FirewallDb.save?_of_valid
      ((FirewallDb.mk s.db.tenants (writeSession session s.db.rules) hvalid).deleteWhere
        fun id _ => deletesRow session id).valid
    rw [FirewallDb.commit?, hrequire, FirewallDb.save?_of_valid hvalid]
    exact hdelete
  refine ⟨_, hcommit, fun id => ?_⟩
  rw [FirewallDb.rules_of_commit? hcommit]
  cases hget : s.db.rules.get? id with
  | none => rw [Option.map_none, Option.bind_none, ite_self]
  | some rule =>
    obtain ⟨rule', hrow, -, houtcome⟩ := hwritten id rule hget
    rw [writeSession, Serial.get?_mapRows, hget, Option.map_some] at hrow
    rw [Option.bind_some, ← houtcome, ← hrow]
    rfl

/-! ## What a run leaves -/

/-- Without a run, its later steps are not possible. -/
private theorem step_of_not_running (h : s.applies.get? run = none) {events : List Event}
    (hevents : ∀ e ∈ events, (∃ result newUuid, e = .pushRule run result newUuid) ∨
      e = .readOrder run ∨ (∃ returns, e = .listOrder run returns) ∨
      (∃ result, e = .moveRule run result) ∨ (∃ result, e = .reloadRules run result) ∨
      e = .commitApply run) : events.foldl (State.step tenantId) s = s := by
  induction events with
  | nil => rfl
  | cons e events ih =>
    have hstep : s.step tenantId e = s := by
      rcases hevents e List.mem_cons_self with ⟨result, newUuid, rfl⟩ | rfl | ⟨returns, rfl⟩ |
        ⟨result, rfl⟩ | ⟨result, rfl⟩ | rfl
      · simp [State.step, State.step?, pushRule?, h]
      · simp [State.step, State.step?, readOrder?, h]
      · simp [State.step, State.step?, listOrder?, h]
      · simp [State.step, State.step?, moveRule?, h]
      · simp [State.step, State.step?, reloadRules?, h]
      · simp [State.step, State.step?, commitApply?, h]
    rw [List.foldl_cons, hstep]
    exact ih fun e he => hevents e (List.mem_cons_of_mem _ he)

/-- A run that finds nothing to do changes nothing. -/
theorem runApply_of_nil (hrun : s.applies.get? run = none)
    (hnone : (pendingRules s.db tenantId).entries = []) : s.runApply tenantId run calls = s := by
  have hstart : s.step tenantId (.startApply run) = s := by
    simp [State.step, State.step?, startApply?, hnone, Option.require]
  rw [State.runApply, ApplyCalls.events, List.foldl_cons, hstart]
  refine step_of_not_running hrun fun e hmem => ?_
  simp only [ApplyCalls.pushEvents, ApplyCalls.moveEvents, List.mem_append, List.mem_map,
    List.mem_cons, List.not_mem_nil, or_false] at hmem
  rcases hmem with ((⟨id, -, rfl⟩ | rfl | rfl) | ⟨i, -, rfl⟩) | rfl | rfl
  · exact Or.inl ⟨_, _, rfl⟩
  · exact Or.inr (Or.inl rfl)
  · exact Or.inr (Or.inr (Or.inl ⟨_, rfl⟩))
  · exact Or.inr (Or.inr (Or.inr (Or.inl ⟨_, rfl⟩)))
  · exact Or.inr (Or.inr (Or.inr (Or.inr (Or.inl ⟨_, rfl⟩))))
  · exact Or.inr (Or.inr (Or.inr (Or.inr (Or.inr rfl))))

/-- The moves are at most as many as the rules. -/
private theorem length_movesFor_le (desired listed : List String) :
    (movesFor desired listed).length ≤ desired.length := by
  rw [movesFor, List.length_reverse]
  refine (List.length_filter_le _ _).trans ?_
  rw [List.length_zip]
  exact Nat.min_le_left _ _

/-- The state after a run that finds something to do. -/
private theorem runApply_eq (hrun : s.applies.get? run = none) (hnew : GivesNew s calls.newUuid)
    (hsome : (pendingRules s.db tenantId).entries ≠ []) :
    (∀ id, (s.runApply tenantId run calls).db.rules.get? id =
      (s.db.rules.get? id).bind (calls.outcome tenantId id)) ∧
    (s.runApply tenantId run calls).opnsense =
      calls.moveTo 0 (movesFor (calls.desiredOrder tenantId s.db)
        (calls.listedOrder (calls.pushAll tenantId s.db s.opnsense)))
        (calls.pushAll tenantId s.db s.opnsense) := by
  -- The run starts.
  have hstart : s.step tenantId (.startApply run) = s.during run s.opnsense s.created {
      session := pendingRules s.db tenantId
      applied := 0
      phase := .push (workList (pendingRules s.db tenantId)) } := by
    have hfree : Option.require ((s.applies.get? run).isNone = true) = (some ⟨⟩ : Option Unit) :=
      if_pos (by rw [hrun]; rfl)
    have hread : Option.require ((pendingRules s.db tenantId).entries ≠ []) =
        (some ⟨⟩ : Option Unit) := if_pos hsome
    simp only [State.step, State.step?, startApply?, hfree, hread, Option.bind_eq_bind,
      Option.bind_some, Option.pure_def, Option.getD_some]
    rfl
  have hstored : ∀ id ∈ workList (pendingRules s.db tenantId), ∃ rule work,
      (pendingRules s.db tenantId).get? id = some ⟨rule, rule⟩ ∧
        s.db.rules.get? id = some rule ∧ rule.work = some work := by
    intro id hmem
    obtain ⟨rule, hget, htenant, hwork⟩ := mem_workList_pendingRules.mp hmem
    obtain ⟨work, hwork'⟩ := Option.isSome_iff_exists.mp hwork
    exact ⟨rule, work, get?_pendingRules.mpr ⟨rule, hget, htenant, hwork, rfl⟩, hget, hwork'⟩
  -- The rules are pushed.
  have hfree : ∀ id ∈ workList (pendingRules s.db tenantId),
      Table.get? s.opnsense (calls.newUuid id) = none ∧
        ∀ added ∈ s.created, added.2 ≠ calls.newUuid id := by
    intro id hmem
    obtain ⟨rule, -, -, hget, -⟩ := hstored id hmem
    obtain ⟨hnone, -, hnotgiven, -⟩ := fresh_iff.mp (hnew.fresh id (by rw [hget]; rfl))
    exact ⟨hnone, hnotgiven⟩
  obtain ⟨created, pushed, hpushes, hphase, hsession, happlied⟩ :
      ∃ created pushed, (calls.pushEvents run (workList (pendingRules s.db tenantId))).foldl
        (State.step tenantId) (s.during run s.opnsense s.created
          ⟨pendingRules s.db tenantId, 0, .push (workList (pendingRules s.db tenantId))⟩) =
        s.during run (calls.pushAll tenantId s.db s.opnsense) created pushed ∧ _ :=
    run_pushes tenantId hnew rfl (nodup_workList _) hstored hfree
  have hpushed : ∀ id, pushed.session.get? id =
      ((pendingRules s.db tenantId).get? id).map (calls.pushed id) := by
    intro id
    rw [hsession]
    by_cases hmem : id ∈ workList (pendingRules s.db tenantId)
    · rw [if_pos hmem]
    · rw [if_neg hmem]
      cases hget : (pendingRules s.db tenantId).get? id with
      | none => rfl
      | some loaded =>
        obtain ⟨rule, hrule, htenant, hwork, -⟩ := get?_pendingRules.mp hget
        exact absurd (mem_workList_pendingRules.mpr ⟨rule, hrule, htenant, hwork⟩) hmem
  -- The order that is read has the new uuids.
  have hdesired : ((rulesBySequence s.db tenantId).map fun row =>
      ((pushed.session.get? row.1).map (·.current.uuid)).getD row.2.uuid) =
      calls.desiredOrder tenantId s.db := by
    refine List.map_congr_left ?_
    rintro ⟨id, rule⟩ hmem
    obtain ⟨hget, htenant⟩ := Table.mem_select.mp ((List.mem_insertionSort _).mp hmem)
    dsimp only at hget htenant ⊢
    rw [hpushed]
    unfold ApplyCalls.uuidInOrder
    cases hwork : rule.work with
    | none =>
      have hout : (pendingRules s.db tenantId).get? id = none := by
        by_contra hread
        obtain ⟨loaded, hloaded⟩ := Option.ne_none_iff_exists'.mp hread
        obtain ⟨row, hrow, -, hrowWork, -⟩ := get?_pendingRules.mp hloaded
        obtain rfl := Option.some.inj (hget.symm.trans hrow)
        rw [hwork] at hrowWork
        cases hrowWork
      rw [hout, if_neg (fun h => by cases h.2.1)]
      rfl
    | some work =>
      have hread : (pendingRules s.db tenantId).get? id = some ⟨rule, rule⟩ :=
        get?_pendingRules.mpr ⟨rule, hget, of_decide_eq_true htenant, by rw [hwork]; rfl, rfl⟩
      rw [hread, Option.map_some, Option.map_some, Option.getD_some]
      unfold ApplyCalls.pushed ApplyCalls.result
      rw [hwork]
      cases work with
      | delete =>
        rw [if_neg (fun h => by cases h.2.1)]
        cases hresult : pushResult .delete rule (calls.push id) <;>
          simp only [SessionRule.push, hresult] <;> rfl
      | update =>
        rw [if_neg (fun h => by cases h.2.1)]
        cases hresult : pushResult .update rule (calls.push id) <;>
          simp only [SessionRule.push, hresult] <;> rfl
      | create =>
        have hresult : pushResult .create rule (calls.push id) = calls.push id :=
          if_neg fun h => by cases h.1
        cases hcall : calls.push id with
        | returns =>
          rw [hcall] at hresult
          rw [if_pos ⟨of_decide_eq_true htenant, rfl, rfl⟩]
          simp only [SessionRule.push, hresult]
          rfl
        | raises tookEffect error =>
          rw [hcall] at hresult
          rw [if_neg (fun h => by cases h.2.2)]
          simp only [SessionRule.push, hresult]
          rfl
  -- The rules are moved, and the run commits.
  have hend : s.runApply tenantId run calls =
      [.reloadRules run calls.reload, .commitApply run].foldl (State.step tenantId)
        (s.during run (calls.moveTo 0 (movesFor (calls.desiredOrder tenantId s.db)
          (calls.listedOrder (calls.pushAll tenantId s.db s.opnsense)))
          (calls.pushAll tenantId s.db s.opnsense)) created { pushed with phase := .move [] }) := by
    rw [State.runApply, ApplyCalls.events, List.foldl_cons, hstart, List.foldl_append,
      List.foldl_append, List.foldl_append, hpushes, run_order tenantId hphase, hdesired,
      run_moves tenantId 0 _ rfl ((length_movesFor_le _ _).trans (List.length_map _).le)]
    rfl
  obtain ⟨session, hcommitted, hdb, hopnsense⟩ :=
    run_commit tenantId s run calls _ created { pushed with phase := .move [] } rfl
  have hreloaded : ∀ id, session.get? id =
      ((pendingRules s.db tenantId).get? id).map (calls.reloaded id) := by
    intro id
    rw [hcommitted]
    dsimp only
    rw [hpushed, Option.map_map]
    refine Option.map_congr fun rule hread => ?_
    rw [Function.comp_apply]
    unfold ApplyCalls.reloaded
    cases calls.reload with
    | returns => rfl
    | raises tookEffect error =>
      dsimp only
      split
      · rfl
      · -- If nothing was applied, every push has failed.
        obtain ⟨row, hget, htenant, hwork, rfl⟩ := get?_pendingRules.mp hread
        obtain ⟨work, hwork'⟩ := Option.isSome_iff_exists.mp hwork
        have hraises := (happlied (Nat.eq_zero_of_not_pos ‹_›)).2 id
          (mem_workList_pendingRules.mpr ⟨row, hget, htenant, hwork⟩) row work hget hwork'
        cases hresult : calls.result id row work with
        | returns => exact absurd hresult hraises
        | raises tookEffect' error' =>
          have hfailed : calls.pushed id ⟨row, row⟩ = ⟨row, row.fail error'⟩ := by
            unfold ApplyCalls.pushed
            rw [hwork']
            show SessionRule.push work _ (calls.result id row work) _ = _
            rw [hresult]
            rfl
          rw [hfailed]
          rfl
  obtain ⟨db', hcommit, hrows⟩ := commit?_reloaded hnew hreloaded
  rw [hend]
  refine ⟨fun id => ?_, hopnsense⟩
  rw [hdb, hcommit, Option.getD_some]
  exact hrows id

/-- What a run leaves of each row. -/
theorem rules_runApply (hrun : s.applies.get? run = none) (hnew : GivesNew s calls.newUuid) (id : ℕ) :
    (s.runApply tenantId run calls).db.rules.get? id =
      (s.db.rules.get? id).bind (calls.outcome tenantId id) := by
  by_cases hnone : (pendingRules s.db tenantId).entries = []
  · -- Nothing is pending, so that the run ends at once.
    have hempty : pendingRules s.db tenantId = ∅ := AList.ext hnone
    rw [runApply_of_nil hrun hnone]
    cases hget : s.db.rules.get? id with
    | none => rfl
    | some rule =>
      rw [Option.bind_some]
      unfold ApplyCalls.outcome
      by_cases htenant : rule.tenantId = tenantId
      · cases hwork : rule.work with
        | none => rw [if_neg (not_not.mpr htenant)]
        | some work =>
          have hread : (pendingRules s.db tenantId).get? id = some ⟨rule, rule⟩ :=
            get?_pendingRules.mpr ⟨rule, hget, htenant, by rw [hwork]; rfl, rfl⟩
          rw [hempty] at hread
          cases hread
      · rw [if_pos htenant]
  · exact (runApply_eq hrun hnew hnone).1 id

/-- What a run leaves on OPNsense. -/
theorem opnsense_runApply (hrun : s.applies.get? run = none) (hnew : GivesNew s calls.newUuid) :
    (s.runApply tenantId run calls).opnsense =
      if (pendingRules s.db tenantId).entries = [] then s.opnsense
      else calls.moveTo 0 (movesFor (calls.desiredOrder tenantId s.db)
        (calls.listedOrder (calls.pushAll tenantId s.db s.opnsense)))
        (calls.pushAll tenantId s.db s.opnsense) := by
  split
  case isTrue hnone => rw [runApply_of_nil hrun hnone]
  case isFalse hsome => exact (runApply_eq hrun hnew hsome).2

end ProxmoxIaas.Firewall
