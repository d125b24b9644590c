import ProxmoxIaas.Firewall.System

/-!
# Rules are Added Once

An apply run adds a new rule on OPNsense and commits the uuid that it was given only at its end.
Until then the row still says that the rule is to be created, so that another run may add the rule
once more, and the synchronisation may take the rule on OPNsense for one that it does not know.

## Main results

- `rules_created_once`: if no run adds a rule that another one has added, every run that has added
  a rule commits, and the synchronisation does not insert a rule whose row is still there, then each
  rule is added at most once and has at most one row.
- `rule_created_twice`: a run that ends after it has added a rule makes the next one add it again.
-/

namespace ProxmoxIaas.Firewall

/-- The steps of apply runs and of the synchronisation. -/
def Event.appliesOrSyncs : Event → Bool
  | .startApply _ | .pushRule _ _ _ | .readOrder _ | .listOrder _ _ | .moveRule _ _
  | .reloadRules _ _ | .commitApply _ | .abortApply _ | .openSync _ | .loadSync _
  | .refreshSync _ _ | .visitSync _ | .sweepSync _ | .abortSync _ | .reorder _ => true
  | _ => false

/-- Every rule was added on OPNsense at most once, and no other row has the uuid that it was given
while its own row is there. -/
structure CreatedOnce (s : State) : Prop where
  /-- A row is the source of at most one rule on OPNsense. -/
  once : (s.created.map Prod.fst).Nodup
  /-- A rule that was added has one row. -/
  row : ∀ id uuid, (id, uuid) ∈ s.created → ∀ other rule, s.db.rules.get? other = some rule →
    rule.uuid = uuid → other ≠ id → s.db.rules.get? id = none

/-- A run has pushed a rule, with success or not. -/
def isPushed (rule : SessionRule) : Bool := rule.current ≠ rule.loaded

/-- An apply run has added none of the rules that were added. -/
def addedNone (s : State) (apply : ApplyRun) : Bool :=
  s.created.all fun rule => !(apply.session.get? rule.1).any isPushed

/-- A rule may be added: its row still says so, and no other run in flight has pushed it. -/
def mayAdd (s : State) (run id : ℕ) : Bool :=
  ((s.db.rules.get? id).any fun rule => rule.work = some .create) &&
    (s.applies.first? fun other apply =>
      other ≠ run ∧ (apply.session.get? id).any isPushed).isNone

/-- The condition on the steps of apply runs and of the synchronisation. -/
def addsOnce (s : State) : Event → Bool
  | .pushRule run result _ => !result.tookEffect || (s.applies.get? run).all fun apply =>
    apply.phase.push?.all fun next => (apply.session.get? next.1).all fun rule =>
      rule.loaded.work ≠ some .create ∨ mayAdd s run next.1
  | .abortApply run => (s.applies.get? run).all (addedNone s)
  | .commitApply run => (s.applies.get? run).all fun apply =>
    (s.db.commit? apply.session).isSome || addedNone s apply
  | .visitSync run => (s.syncs.get? run).all fun sync =>
    sync.phase.visit?.all fun next => (sync.known.lookup next.1.1).isSome ||
      s.created.all fun rule => rule.2 ≠ next.1.1 ∨ (s.db.rules.get? rule.1).isNone
  | e => e.appliesOrSyncs

/-! ### Work lists -/

/-- The rows of a query have different keys. -/
theorem nodup_idsWith (session : Table ℕ SessionRule) (work : Work) :
    (idsWith session work).Nodup :=
  Table.nodup_keys_select _ _

/-- A rule of a list has the work of the list. -/
theorem work_of_mem_idsWith {session : Table ℕ SessionRule} {work : Work} {id : ℕ}
    (h : id ∈ idsWith session work) :
    ∃ rule, session.get? id = some rule ∧ rule.loaded.work = some work := by
  obtain ⟨⟨id, rule⟩, hmem, rfl⟩ := List.mem_map.mp h
  obtain ⟨hget, hwork⟩ := Table.mem_select.mp hmem
  exact ⟨rule, hget, of_decide_eq_true hwork⟩

/-- Lists of different work have no rule in common. -/
theorem disjoint_idsWith {session : Table ℕ SessionRule} {work work' : Work} (hne : work ≠ work') :
    (idsWith session work).Disjoint (idsWith session work') := by
  intro id hmem hmem'
  obtain ⟨rule, hget, hwork⟩ := work_of_mem_idsWith hmem
  obtain ⟨rule', hget', hwork'⟩ := work_of_mem_idsWith hmem'
  obtain rfl := Option.some.inj (hget.symm.trans hget')
  exact hne (Option.some.inj (hwork.symm.trans hwork'))

/-- A run pushes each rule once. -/
theorem nodup_workList (session : Table ℕ SessionRule) : (workList session).Nodup := by
  unfold workList
  rw [List.nodup_append', List.nodup_append']
  refine ⟨⟨nodup_idsWith _ _, nodup_idsWith _ _, disjoint_idsWith nofun⟩, nodup_idsWith _ _, ?_⟩
  rw [List.disjoint_append_left]
  exact ⟨disjoint_idsWith nofun, disjoint_idsWith nofun⟩

/-! ### The rows of a session -/

/-- A column after a commit is as it was stored, or as the session has changed it. -/
theorem writeColumn_cases {τ β : Type} [DecidableEq β] (loaded : τ) (column : τ → β)
    (value stored : β) : writeColumn (some loaded) column value stored = stored ∨
      (writeColumn (some loaded) column value stored = value ∧ column loaded ≠ value) := by
  by_cases h : column loaded = value
  · exact Or.inl (if_pos (congrArg some h))
  · exact Or.inr ⟨writeColumn_of_ne h, h⟩

/-- The rules that are to be created are pending with a placeholder. -/
theorem work_eq_create_iff {rule : OPNsenseFirewallRule} :
    rule.work = some .create ↔ rule.applyStatus = .pending ∧ isPlaceholder rule.uuid = true := by
  unfold OPNsenseFirewallRule.work
  cases rule.applyStatus <;> cases isPlaceholder rule.uuid <;> simp

/-- The phase in which a rule is pushed next. -/
theorem phase_of_push? {phase : ApplyPhase} {next : ℕ × List ℕ} (h : phase.push? = some next) :
    phase = .push (next.1 :: next.2) := by
  unfold ApplyPhase.push? at h
  split at h
  case h_1 =>
    obtain rfl := Option.some.inj h
    rfl
  case h_2 => cases h

/-- What the rules of an apply run are. -/
structure RunOk (created : List (ℕ × String)) (apply : ApplyRun) : Prop where
  /-- The rules that are still to be pushed are as they were loaded, and different. -/
  todo : ∀ todo, apply.phase = .push todo → todo.Nodup ∧ ∀ id ∈ todo, ∀ rule,
    apply.session.get? id = some rule → rule.current = rule.loaded
  /-- The other ones are synced or failed, if they were changed. -/
  status : ∀ id rule, apply.session.get? id = some rule → rule.current = rule.loaded ∨
    rule.current.applyStatus = .synced ∨ rule.current.applyStatus = .failed
  /-- A uuid that was changed is the one that OPNsense has given. -/
  uuid : ∀ id rule, apply.session.get? id = some rule →
    rule.current.uuid = rule.loaded.uuid ∨ (id, rule.current.uuid) ∈ created

/-- More rules may have been added. -/
theorem RunOk.mono {created created' : List (ℕ × String)} {apply : ApplyRun}
    (h : RunOk created apply) (hmem : ∀ rule ∈ created, rule ∈ created') : RunOk created' apply where
  todo := h.todo
  status := h.status
  uuid id rule hget := (h.uuid id rule hget).imp_right (hmem _)

/-- A run that has just read its rules. -/
theorem RunOk.start (db : FirewallDb) (tenantId applied : ℕ) (created : List (ℕ × String)) :
    RunOk created ⟨pendingRules db tenantId, applied, .push (workList (pendingRules db tenantId))⟩ := by
  have hloaded : ∀ id rule, (pendingRules db tenantId).get? id = some rule →
      rule.current = rule.loaded := by
    intro id rule hget
    rw [pendingRules, Table.get?_mapRows] at hget
    obtain ⟨row, -, rfl⟩ := Option.map_eq_some_iff.mp hget
    rfl
  refine ⟨fun todo htodo => ?_, fun id rule hget => Or.inl (hloaded id rule hget),
    fun id rule hget => Or.inl (by rw [hloaded id rule hget])⟩
  obtain rfl := ApplyPhase.push.inj htodo
  exact ⟨nodup_workList _, fun id _ rule hget => hloaded id rule hget⟩

/-- A run that goes on without a change of its rules. -/
theorem RunOk.phase {created : List (ℕ × String)} {apply : ApplyRun} (h : RunOk created apply)
    {phase : ApplyPhase} (hphase : ∀ todo, phase ≠ .push todo) :
    RunOk created { apply with phase } where
  todo todo htodo := absurd htodo (hphase todo)
  status := h.status
  uuid := h.uuid

/-- A reload that raised. -/
theorem RunOk.failReload {created : List (ℕ × String)} {apply : ApplyRun} (h : RunOk created apply)
    (error : String) : RunOk created { apply with
      session := apply.session.mapRows fun _ rule => rule.failReload error, phase := .commit } := by
  refine ⟨nofun, fun id rule hget => ?_, fun id rule hget => ?_⟩
  all_goals
    rw [Table.get?_mapRows] at hget
    obtain ⟨old, hold, rfl⟩ := Option.map_eq_some_iff.mp hget
    unfold SessionRule.failReload
    split
  · exact Or.inr (Or.inr rfl)
  · exact h.status id old hold
  · exact h.uuid id old hold
  · exact h.uuid id old hold

/-- A rule that was changed stays so when a reload raises. -/
theorem isPushed_failReload {rule : SessionRule} (hwork : rule.loaded.work = some .create)
    (hpushed : isPushed rule = true) (error : String) :
    isPushed (rule.failReload error) = true := by
  unfold SessionRule.failReload
  split
  case isTrue =>
    refine decide_eq_true fun heq => ?_
    -- The rule was pending when it was loaded, and has failed now.
    have hstatus := congrArg OPNsenseFirewallRule.applyStatus heq
    rw [(work_eq_create_iff.mp hwork).1] at hstatus
    cases hstatus
  case isFalse => exact hpushed

/-- A new rule that was pushed is changed. -/
theorem isPushed_push {rule : SessionRule} (hwork : rule.loaded.work = some .create)
    (newUuid : String) (result : CallResult) :
    isPushed (rule.push .create newUuid result) = true := by
  refine decide_eq_true fun heq => ?_
  have hstatus := congrArg OPNsenseFirewallRule.applyStatus heq
  rw [show (rule.push .create newUuid result).loaded = rule.loaded from rfl,
    (work_eq_create_iff.mp hwork).1] at hstatus
  cases result <;> cases hstatus

/-- The next rule of a run is pushed. -/
theorem RunOk.push {created created' : List (ℕ × String)} {apply : ApplyRun}
    (h : RunOk created apply) {id : ℕ} {todo : List ℕ} {rule : SessionRule} {work : Work}
    (hnext : apply.phase = .push (id :: todo)) (hget : apply.session.get? id = some rule)
    {result : CallResult} {newUuid : String} (applied : ℕ) (hmem : ∀ rule ∈ created, rule ∈ created')
    (hnew : work = .create → result = .returns → (id, newUuid) ∈ created') :
    RunOk created' {
      session := apply.session.modify id (·.push work newUuid result)
      applied
      phase := .push todo } := by
  obtain ⟨hnodup, hloaded⟩ := h.todo _ hnext
  obtain ⟨hnotin, hnodup'⟩ := List.nodup_cons.mp hnodup
  have huntouched : rule.current = rule.loaded := hloaded id List.mem_cons_self rule hget
  have hrows : ∀ id' rule', Table.get? (apply.session.modify id (·.push work newUuid result)) id' =
      some rule' → (id' = id ∧ rule' = rule.push work newUuid result) ∨
        (id' ≠ id ∧ apply.session.get? id' = some rule') := by
    intro id' rule' hget'
    rw [Table.get?_modify] at hget'
    split at hget'
    case isTrue hid =>
      rw [hid, hget] at hget'
      exact Or.inl ⟨hid, (Option.some.inj hget').symm⟩
    case isFalse hid => exact Or.inr ⟨hid, hget'⟩
  refine ⟨fun todo' htodo => ?_, fun id' rule' hget' => ?_, fun id' rule' hget' => ?_⟩
  · obtain rfl := ApplyPhase.push.inj htodo
    refine ⟨hnodup', fun id' hid' rule' hget' => ?_⟩
    rcases hrows id' rule' hget' with ⟨rfl, -⟩ | ⟨-, hold⟩
    · exact absurd hid' hnotin
    · exact hloaded id' (List.mem_cons_of_mem _ hid') rule' hold
  · rcases hrows id' rule' hget' with ⟨-, rfl⟩ | ⟨-, hold⟩
    · cases result with
      | raises => exact Or.inr (Or.inr rfl)
      | returns =>
        cases work with
        | delete => exact Or.inl huntouched
        | update => exact Or.inr (Or.inl rfl)
        | create => exact Or.inr (Or.inl rfl)
    · exact h.status id' rule' hold
  · rcases hrows id' rule' hget' with ⟨rfl, rfl⟩ | ⟨-, hold⟩
    · have hkept : rule.current.uuid = rule.loaded.uuid := congrArg _ huntouched
      cases result with
      | raises => exact Or.inl hkept
      | returns =>
        cases work with
        | delete => exact Or.inl hkept
        | update => exact Or.inl hkept
        | create => exact Or.inr (hnew rfl rfl)
    · exact (h.uuid id' rule' hold).imp_right (hmem _)

/-! ### The invariant -/

/-- What holds in every state whose steps meet the condition. -/
structure Once (s : State) : Prop extends CreatedOnce s where
  /-- OPNsense gives different uuids. -/
  unique : ∀ id id' uuid, (id, uuid) ∈ s.created → (id', uuid) ∈ s.created → id = id'
  /-- The rows of rules that were added were once there. -/
  bound : ∀ rule ∈ s.created, rule.1 < s.db.rules.next
  /-- OPNsense gives no placeholders. -/
  given : ∀ rule ∈ s.created, isPlaceholder rule.2 = false
  /-- A rule that was added and is still to be created was pushed by a run in flight. -/
  waiting : ∀ rule ∈ s.created, ∀ stored, s.db.rules.get? rule.1 = some stored →
    stored.work = some .create → ∃ run apply pushed, s.applies.get? run = some apply ∧
      apply.session.get? rule.1 = some pushed ∧ pushed.loaded.work = some .create ∧
        isPushed pushed = true
  /-- The apply runs. -/
  runs : ∀ run apply, s.applies.get? run = some apply → RunOk s.created apply

variable {s : State}

/-- A rule that a commit leaves to be created was to be created before, and the run has not pushed
it to be created. -/
theorem work_of_write {created : List (ℕ × String)} {apply : ApplyRun} (h : RunOk created apply)
    (hgiven : ∀ rule ∈ created, isPlaceholder rule.2 = false) {id : ℕ} {rule : SessionRule}
    (hget : apply.session.get? id = some rule) {stored : OPNsenseFirewallRule}
    (hwork : (rule.loaded.write rule.current stored).work = some .create) :
    stored.work = some .create ∧ (rule.loaded.work = some .create → isPushed rule = false) := by
  obtain ⟨hpending, hplaceholder⟩ := work_eq_create_iff.mp hwork
  have hchanged : rule.current = rule.loaded ∨ rule.current.applyStatus ≠ .pending := by
    rcases h.status id rule hget with hsame | hsynced | hfailed
    · exact Or.inl hsame
    · exact Or.inr (hsynced ▸ nofun)
    · exact Or.inr (hfailed ▸ nofun)
  have hstatus : stored.applyStatus = .pending := by
    rcases writeColumn_cases rule.loaded (·.applyStatus) rule.current.applyStatus
      stored.applyStatus with hkept | ⟨hwritten, hne⟩
    · exact hkept.symm.trans hpending
    · rcases hchanged with hsame | hnot
      · exact absurd (congrArg _ hsame.symm) hne
      · exact absurd (hwritten.symm.trans hpending) hnot
  have huuid : isPlaceholder stored.uuid = true := by
    rcases writeColumn_cases rule.loaded (·.uuid) rule.current.uuid stored.uuid with
      hkept | ⟨hwritten, hne⟩
    · rw [← hkept]
      exact hplaceholder
    · exfalso
      rcases h.uuid id rule hget with hsame | hcreated
      · exact hne hsame.symm
      · have hnot := hgiven _ hcreated
        rw [← hwritten] at hnot
        exact Bool.false_ne_true (hnot.symm.trans hplaceholder)
  refine ⟨work_eq_create_iff.mpr ⟨hstatus, huuid⟩, fun hcreate => ?_⟩
  by_contra hpushed
  have hne : rule.current ≠ rule.loaded := of_decide_eq_true (Bool.eq_true_of_not_eq_false hpushed)
  have hnot := hchanged.resolve_left hne
  -- The status that the run has changed is written over that of the row.
  have hwritten : (rule.loaded.write rule.current stored).applyStatus = rule.current.applyStatus :=
    writeColumn_of_ne fun heq => hnot (heq.symm.trans (work_eq_create_iff.mp hcreate).1)
  exact hnot (hwritten.symm.trans hpending)

section Steps

variable (h : Once s)

include h

/-- The table changes, but no row becomes one that is to be created or is given another uuid. -/
theorem Once.db {db : FirewallDb}
    (hrows : ∀ id rule', db.rules.get? id = some rule' → ∃ rule, s.db.rules.get? id = some rule ∧
      (rule'.work = some .create → rule.work = some .create) ∧ rule'.uuid = rule.uuid)
    (hnext : db.rules.next = s.db.rules.next) : Once { s with db } where
  once := h.once
  row id uuid hmem other rule' hget huuid hne := by
    obtain ⟨rule, hold, -, hsame⟩ := hrows other rule' hget
    have hnone := h.row id uuid hmem other rule hold (hsame.symm.trans huuid) hne
    by_contra hsome
    obtain ⟨rule', hget'⟩ := Option.ne_none_iff_exists'.mp hsome
    obtain ⟨rule, hold', -⟩ := hrows id rule' hget'
    rw [hnone] at hold'
    cases hold'
  unique := h.unique
  bound := hnext ▸ h.bound
  given := h.given
  waiting rule hmem stored hget hwork := by
    obtain ⟨old, hold, hcreate, -⟩ := hrows rule.1 stored hget
    exact h.waiting rule hmem old hold (hcreate hwork)
  runs := h.runs

/-- A run goes on without adding a rule, whatever it does to the rules on OPNsense. -/
theorem Once.run {run : ℕ} {apply next : ApplyRun} {opnsense : Opnsense} (hrun : s.applies.get? run = some apply)
    (hok : RunOk s.created next)
    (hpushed : ∀ id rule, apply.session.get? id = some rule → rule.loaded.work = some .create →
      isPushed rule = true → ∃ rule', next.session.get? id = some rule' ∧
        rule'.loaded.work = some .create ∧ isPushed rule' = true) :
    Once { s with opnsense, applies := s.applies.insert run next } where
  toCreatedOnce := ⟨h.once, h.row⟩
  unique := h.unique
  bound := h.bound
  given := h.given
  waiting rule hmem stored hget hwork := by
    obtain ⟨other, apply', pushed, hother, hsession, hcreate, hchanged⟩ :=
      h.waiting rule hmem stored hget hwork
    by_cases hsame : other = run
    · subst hsame
      obtain rfl := Option.some.inj (hrun.symm.trans hother)
      obtain ⟨rule', hnext, hcreate', hchanged'⟩ := hpushed rule.1 pushed hsession hcreate hchanged
      refine ⟨other, next, rule', ?_, hnext, hcreate', hchanged'⟩
      exact (Table.get?_insert ..).trans (if_pos rfl)
    · refine ⟨other, apply', pushed, ?_, hsession, hcreate, hchanged⟩
      exact ((Table.get?_insert ..).trans (if_neg hsame)).trans hother
  runs other apply' hother := by
    rcases Table.get?_insert_eq_some.mp hother with ⟨-, rfl⟩ | ⟨-, hother⟩
    · exact hok
    · exact h.runs other apply' hother

/-- A run goes on without a change of its rules. -/
theorem Once.phase {run : ℕ} {apply : ApplyRun} {opnsense : Opnsense} (hrun : s.applies.get? run = some apply)
    {phase : ApplyPhase} (hphase : ∀ todo, phase ≠ .push todo) :
    Once { s with opnsense, applies := s.applies.insert run { apply with phase } } :=
  h.run hrun ((h.runs run apply hrun).phase hphase) fun _ rule hget hcreate hpushed =>
    ⟨rule, hget, hcreate, hpushed⟩

/-- A run starts. -/
theorem Once.startApply {tenantId run : ℕ} {s' : State}
    (hstep : startApply? tenantId s run = some s') : Once s' := by
  simp only [startApply?, Option.bind_eq_bind, Option.bind_eq_some_iff, Option.require_eq_some_iff,
    Option.pure_def, Option.some.injEq] at hstep
  obtain ⟨-, hfree, -, -, rfl⟩ := hstep
  refine ⟨⟨h.once, h.row⟩, h.unique, h.bound, h.given, fun rule hmem stored hget hwork => ?_,
    fun other apply hother => ?_⟩
  · obtain ⟨other, apply, pushed, hother, hpushed⟩ := h.waiting rule hmem stored hget hwork
    refine ⟨other, apply, pushed, ?_, hpushed⟩
    rw [Table.get?_insert, if_neg]
    · exact hother
    · rintro rfl
      rw [hother] at hfree
      cases hfree
  · rcases Table.get?_insert_eq_some.mp hother with ⟨-, rfl⟩ | ⟨-, hother⟩
    · exact .start s.db tenantId 0 s.created
    · exact h.runs other apply hother

/-- A rule is pushed. -/
theorem Once.pushRule {run : ℕ} {result : CallResult} {newUuid : String} {s' : State}
    (hok : addsOnce s (.pushRule run result newUuid) = true)
    (hstep : pushRule? s run result newUuid = some s') : Once s' := by
  simp only [pushRule?, Option.bind_eq_bind, Option.bind_eq_some_iff, Option.require_eq_some_iff,
    Option.pure_def, Option.some.injEq] at hstep
  obtain ⟨apply, hrun, ⟨id, todo⟩, hnext, rule, hget, work, hwork, -, hfresh, rfl⟩ := hstep
  have hrunOk := h.runs run apply hrun
  have hphase := phase_of_push? hnext
  have huntouched : rule.current = rule.loaded :=
    (hrunOk.todo _ hphase).2 id List.mem_cons_self rule hget
  generalize hcall : pushResult work rule.current result = call at hfresh
  have hpushed : ∀ id' rule', apply.session.get? id' = some rule' →
      rule'.loaded.work = some .create → isPushed rule' = true → ∃ rule'',
        Table.get? (apply.session.modify id (·.push work newUuid call)) id' = some rule'' ∧
          rule''.loaded.work = some .create ∧ isPushed rule'' = true := by
    intro id' rule' hget' hcreate hchanged
    refine ⟨rule', ?_, hcreate, hchanged⟩
    rw [Table.get?_modify, if_neg]
    · exact hget'
    · rintro rfl
      obtain rfl := Option.some.inj (hget.symm.trans hget')
      exact of_decide_eq_true hchanged huntouched
  by_cases hadds : work = .create ∧ call.tookEffect = true
  · -- The rule is added on OPNsense.
    obtain ⟨rfl, heffect⟩ := hadds
    have hresult : result.tookEffect = true := by
      rw [← hcall, pushResult, if_neg (fun hdelete => by cases hdelete.1)] at heffect
      exact heffect
    have hfresh := hfresh rfl heffect
    simp only [State.fresh, Bool.and_eq_true, Option.isNone_iff_eq_none, Bool.not_eq_true',
      Serial.first?_eq_none_iff, decide_eq_true_eq, decide_eq_false_iff_not] at hfresh
    obtain ⟨⟨⟨⟨-, hnorow⟩, hnotgiven⟩, -⟩, hplaceholder⟩ := hfresh
    have hmay : mayAdd s run id = true := by
      simpa [addsOnce, hresult, hrun, hnext, hget, hwork] using hok
    obtain ⟨hstored, hothers⟩ := Bool.and_eq_true_iff.mp hmay
    obtain ⟨stored, hstored, hcreate⟩ := (Option.any_eq_true _ _).mp hstored
    have hnew : ∀ uuid, (id, uuid) ∉ s.created := by
      intro uuid hmem
      obtain ⟨other, apply', pushed, hother, hsession, -, hchanged⟩ :=
        h.waiting _ hmem stored hstored (of_decide_eq_true hcreate)
      by_cases hsame : other = run
      · subst hsame
        obtain rfl := Option.some.inj (hrun.symm.trans hother)
        obtain rfl := Option.some.inj (hget.symm.trans hsession)
        exact of_decide_eq_true hchanged huntouched
      · have hnot := Table.first?_eq_none_iff.mp (Option.isNone_iff_eq_none.mp hothers) other apply'
          hother
        simp [hsame, hsession, hchanged] at hnot
    have hgiven : ∀ id', (id', newUuid) ∉ s.created := fun id' hmem =>
      absurd (decide_eq_true rfl) (List.any_eq_false.mp hnotgiven _ hmem)
    rw [if_pos (show Work.create = Work.create ∧ call.tookEffect = true from ⟨rfl, heffect⟩)]
    dsimp only
    have hmem : ∀ {rule : ℕ × String}, rule ∈ s.created ++ [(id, newUuid)] →
        rule ∈ s.created ∨ rule = (id, newUuid) := fun hmem =>
      (List.mem_append.mp hmem).imp_right List.mem_singleton.mp
    refine ⟨⟨?_, fun id' uuid hin other row hrow huuid hne => ?_⟩, fun id₁ id₂ uuid h₁ h₂ => ?_,
      fun added hin => ?_, fun added hin => ?_, fun added hin stored' hstored' hcreate' => ?_,
      fun other apply' hother => ?_⟩
    · rw [List.map_append, List.nodup_append']
      refine ⟨h.once, List.nodup_singleton _, List.disjoint_singleton.mpr fun hin => ?_⟩
      obtain ⟨⟨id', uuid⟩, hold, hid⟩ := List.mem_map.mp hin
      cases hid
      exact hnew uuid hold
    · rcases hmem hin with hold | hnew'
      · exact h.row id' uuid hold other row hrow huuid hne
      · cases hnew'
        exact absurd huuid (hnorow other row hrow)
    · rcases hmem h₁ with hold₁ | hnew₁ <;> rcases hmem h₂ with hold₂ | hnew₂
      · exact h.unique id₁ id₂ uuid hold₁ hold₂
      · cases hnew₂
        exact absurd hold₁ (hgiven id₁)
      · cases hnew₁
        exact absurd hold₂ (hgiven id₂)
      · cases hnew₁
        cases hnew₂
        rfl
    · rcases hmem hin with hold | rfl
      · exact h.bound added hold
      · exact (Serial.bound_of_get? hstored).2
    · rcases hmem hin with hold | rfl
      · exact h.given added hold
      · exact hplaceholder
    · rcases hmem hin with hold | rfl
      · obtain ⟨other, apply', pushed, hother, hsession, hcreated, hchanged⟩ :=
          h.waiting added hold stored' hstored' hcreate'
        by_cases hsame : other = run
        · subst hsame
          obtain rfl := Option.some.inj (hrun.symm.trans hother)
          obtain ⟨rule', hnext', hrule'⟩ := hpushed added.1 pushed hsession hcreated hchanged
          exact ⟨other, _, rule', (Table.get?_insert ..).trans (if_pos rfl), hnext', hrule'⟩
        · refine ⟨other, apply', pushed, ?_, hsession, hcreated, hchanged⟩
          exact ((Table.get?_insert ..).trans (if_neg hsame)).trans hother
      · refine ⟨run, _, rule.push .create newUuid call,
          (Table.get?_insert ..).trans (if_pos rfl), ?_, hwork, isPushed_push hwork newUuid call⟩
        rw [Table.get?_modify, if_pos rfl, hget]
        rfl
    · rcases Table.get?_insert_eq_some.mp hother with ⟨-, rfl⟩ | ⟨-, hother⟩
      · exact hrunOk.push hphase hget _ (fun _ => List.mem_append_left _)
          fun _ _ => List.mem_append_right _ List.mem_cons_self
      · exact (h.runs other apply' hother).mono fun _ => List.mem_append_left _
  · -- Nothing is added, whatever was called.
    rw [if_neg hadds]
    dsimp only
    refine h.run hrun (hrunOk.push hphase hget _ (fun _ hin => hin) fun hcreate hreturns => ?_)
      hpushed
    exact absurd ⟨hcreate, hreturns ▸ rfl⟩ hadds

/-- A run that has added no rule ends. -/
theorem Once.abort {run : ℕ} (hnone : (s.applies.get? run).all (addedNone s) = true) :
    Once { s with applies := s.applies.erase run } where
  toCreatedOnce := ⟨h.once, h.row⟩
  unique := h.unique
  bound := h.bound
  given := h.given
  waiting rule hmem stored hget hwork := by
    obtain ⟨other, apply, pushed, hother, hsession, hcreate, hchanged⟩ :=
      h.waiting rule hmem stored hget hwork
    refine ⟨other, apply, pushed, ?_, hsession, hcreate, hchanged⟩
    rw [Table.get?_erase, if_neg]
    · exact hother
    · rintro rfl
      rw [hother] at hnone
      have hnot := List.all_eq_true.mp hnone rule hmem
      simp [hsession, hchanged] at hnot
  runs other apply hother := by
    obtain ⟨-, hother⟩ := Table.get?_erase_eq_some.mp hother
    exact h.runs other apply hother

/-- A run commits. -/
theorem Once.commit {run : ℕ} {apply : ApplyRun} (hrun : s.applies.get? run = some apply)
    {db : FirewallDb} (hcommit : s.db.commit? apply.session = some db) :
    Once { s with db, applies := s.applies.erase run } := by
  have hok := h.runs run apply hrun
  have hrows : ∀ id rule', db.rules.get? id = some rule' → ∃ stored,
      s.db.rules.get? id = some stored ∧ ((apply.session.get? id = none ∧ rule' = stored) ∨
        ∃ rule, apply.session.get? id = some rule ∧
          rule' = rule.loaded.write rule.current stored) := by
    intro id rule' hget
    rw [FirewallDb.rules_of_commit? hcommit] at hget
    split at hget
    case isTrue => cases hget
    case isFalse =>
      obtain ⟨stored, hstored, rfl⟩ := Option.map_eq_some_iff.mp hget
      refine ⟨stored, hstored, ?_⟩
      cases hsession : apply.session.get? id with
      | none => exact Or.inl ⟨rfl, rfl⟩
      | some rule => exact Or.inr ⟨rule, rfl, rfl⟩
  have hnext : db.rules.next = s.db.rules.next := FirewallDb.next_of_commit? hcommit
  refine ⟨⟨h.once, fun id uuid hmem other rule' hget huuid hne => ?_⟩, h.unique, hnext ▸ h.bound,
    h.given, fun added hmem stored' hget hwork => ?_, fun other apply' hother => ?_⟩
  · have hnone : s.db.rules.get? id = none := by
      obtain ⟨stored, hstored, ⟨-, rfl⟩ | ⟨rule, hsession, rfl⟩⟩ := hrows other rule' hget
      · exact h.row id uuid hmem other rule' hstored huuid hne
      · rcases writeColumn_cases rule.loaded (·.uuid) rule.current.uuid stored.uuid with
          hkept | ⟨hwritten, hchanged⟩
        · exact h.row id uuid hmem other stored hstored (hkept.symm.trans huuid) hne
        · exfalso
          -- The uuid is the one that was given to this rule, and to no other one.
          rcases hok.uuid other rule hsession with hsame | hcreated
          · exact hchanged hsame.symm
          · rw [← hwritten, show writeColumn _ _ _ _ = uuid from huuid] at hcreated
            exact hne (h.unique other id uuid hcreated hmem)
    by_contra hsome
    obtain ⟨rule, hget'⟩ := Option.ne_none_iff_exists'.mp hsome
    obtain ⟨stored, hstored, -⟩ := hrows id rule hget'
    rw [hnone] at hstored
    cases hstored
  · obtain ⟨stored, hstored, hcases⟩ := hrows added.1 stored' hget
    have hbefore : stored.work = some .create ∧ ∀ rule, apply.session.get? added.1 = some rule →
        rule.loaded.work = some .create → isPushed rule = false := by
      rcases hcases with ⟨hnone, rfl⟩ | ⟨rule, hsession, rfl⟩
      · refine ⟨hwork, fun rule hsession => ?_⟩
        rw [hnone] at hsession
        cases hsession
      · obtain ⟨hcreate, hnot⟩ := work_of_write hok h.given hsession hwork
        refine ⟨hcreate, fun rule' hsession' => ?_⟩
        obtain rfl := Option.some.inj (hsession.symm.trans hsession')
        exact hnot
    obtain ⟨other, apply', pushed, hother, hsession, hcreate, hchanged⟩ :=
      h.waiting added hmem stored hstored hbefore.1
    refine ⟨other, apply', pushed, ?_, hsession, hcreate, hchanged⟩
    rw [Table.get?_erase, if_neg]
    · exact hother
    · rintro rfl
      obtain rfl := Option.some.inj (hrun.symm.trans hother)
      exact Bool.false_ne_true ((hbefore.2 pushed hsession hcreate).symm.trans hchanged)
  · obtain ⟨-, hother⟩ := Table.get?_erase_eq_some.mp hother
    exact h.runs other apply' hother

/-- The synchronisation inserts a rule that no row waits for. -/
theorem Once.insert {rule : OPNsenseFirewallRule} {db : FirewallDb} (hdb : db.rules = s.db.rules.add rule)
    (hfree : ∀ added ∈ s.created, added.2 = rule.uuid → s.db.rules.get? added.1 = none) :
    Once { s with db } := by
  have hadd : ∀ id, db.rules.get? id =
      if id = s.db.rules.next then some rule else s.db.rules.get? id := by
    intro id
    rw [hdb, Serial.get?_add]
  have hold : ∀ added ∈ s.created, db.rules.get? added.1 = s.db.rules.get? added.1 :=
    fun added hmem => (hadd _).trans (if_neg (h.bound added hmem).ne)
  refine ⟨⟨h.once, fun id uuid hmem other row hget huuid hne => ?_⟩, h.unique,
    fun added hmem => ?_, h.given, fun added hmem stored hget hwork => ?_, h.runs⟩
  · rw [hold _ hmem]
    rw [hadd] at hget
    split at hget
    case isTrue =>
      obtain rfl := Option.some.inj hget
      exact hfree _ hmem huuid.symm
    case isFalse => exact h.row id uuid hmem other row hget huuid hne
  · have hlt := h.bound added hmem
    rw [hdb]
    exact Nat.lt_succ_of_lt hlt
  · rw [hold _ hmem] at hget
    exact h.waiting added hmem stored hget hwork

/-- The synchronisation visits a listed rule. -/
theorem Once.visitSync {tenantId run : ℕ} {s' : State}
    (hok : addsOnce s (.visitSync run) = true) (hstep : visitSync? tenantId s run = some s') :
    Once s' := by
  obtain ⟨sync, uuid, payload, todo, content, syncs, db, hrun, hnext, -, hwrite, rfl⟩ :=
    visitSync_cases hstep
  have hdb : Once { s with db } := by
    cases hwrite with
    | same => exact h
    | @update id rule _ _ _ hsynced hdb =>
      refine h.db (fun id' rule' hget => ?_) (by rw [hdb]; rfl)
      rw [hdb, Serial.get?_modify] at hget
      split at hget
      case isFalse => exact ⟨rule', hget, fun hcreate => hcreate, rfl⟩
      case isTrue =>
        obtain ⟨stored, hstored, rfl⟩ := Option.map_eq_some_iff.mp hget
        -- Neither the uuid nor the status is a column that the session changes.
        have huuid : (rule.write { rule with content, applyStatus := .synced, applyError := none }
            stored).uuid = stored.uuid := if_pos rfl
        have hstatus : (rule.write { rule with content, applyStatus := .synced, applyError := none }
            stored).applyStatus = stored.applyStatus := if_pos (congrArg some hsynced)
        refine ⟨stored, hstored, fun hcreate => ?_, huuid⟩
        rw [work_eq_create_iff, hstatus, huuid] at hcreate
        exact work_eq_create_iff.mpr hcreate
    | insert hunknown hdb =>
      apply h.insert hdb
      intro added hmem huuid
      simp only [addsOnce, hrun, Option.all_some, hnext, hunknown, Option.isSome_none,
        Bool.false_or, List.all_eq_true] at hok
      have hnot := of_decide_eq_true (hok added hmem)
      exact Option.isNone_iff_eq_none.mp (hnot.resolve_left fun hne => hne huuid)
  exact ⟨⟨hdb.once, hdb.row⟩, hdb.unique, hdb.bound, hdb.given, hdb.waiting, hdb.runs⟩

/-- The synchronisation looks for a rule of the table among those listed. -/
theorem Once.sweepSync {run : ℕ} {s' : State} (hstep : sweepSync? s run = some s') : Once s' := by
  obtain ⟨sync, syncs, db, -, hwrite, rfl⟩ := sweepSync_cases hstep
  have hdb : Once { s with db } := by
    cases hwrite with
    | same => exact h
    | delete _ _ _ _ hdb =>
      refine h.db (fun id' rule' hget => ?_) (by rw [hdb]; rfl)
      rw [hdb, Serial.get?_deleteWhere] at hget
      obtain ⟨hstored, -⟩ := Option.filter_eq_some_iff.mp hget
      exact ⟨rule', hstored, fun hcreate => hcreate, rfl⟩
  exact ⟨⟨hdb.once, hdb.row⟩, hdb.unique, hdb.bound, hdb.given, hdb.waiting, hdb.runs⟩

/-- Every step that meets the condition keeps the invariant. -/
theorem Once.step {tenantId : ℕ} {e : Event} (hok : addsOnce s e = true) :
    Once (s.step tenantId e) := by
  unfold State.step
  cases hstep : s.step? tenantId e with
  | none => exact h
  | some s' =>
    rw [Option.getD_some]
    cases e
    case startApply run => exact h.startApply hstep
    case pushRule run result newUuid => exact h.pushRule hok hstep
    case visitSync run => exact h.visitSync hok hstep
    case sweepSync run => exact h.sweepSync hstep
    case readOrder run =>
      obtain ⟨apply, hrun, hstep⟩ := Option.bind_eq_some_iff.mp hstep
      obtain ⟨-, -, hstep⟩ := Option.bind_eq_some_iff.mp hstep
      obtain rfl := Option.some.inj hstep
      exact h.phase hrun nofun
    case listOrder run returns =>
      obtain ⟨apply, hrun, hstep⟩ := Option.bind_eq_some_iff.mp hstep
      obtain ⟨desired, -, hstep⟩ := Option.bind_eq_some_iff.mp hstep
      obtain rfl := Option.some.inj hstep
      exact h.phase hrun nofun
    case moveRule run result =>
      obtain ⟨apply, hrun, hstep⟩ := Option.bind_eq_some_iff.mp hstep
      obtain ⟨⟨⟨uuid, next⟩, moves⟩, -, hstep⟩ := Option.bind_eq_some_iff.mp hstep
      obtain rfl := Option.some.inj hstep
      exact h.phase hrun nofun
    case reloadRules run result =>
      obtain ⟨apply, hrun, hstep⟩ := Option.bind_eq_some_iff.mp hstep
      obtain ⟨-, -, hstep⟩ := Option.bind_eq_some_iff.mp hstep
      obtain rfl := Option.some.inj hstep
      have hrunOk := h.runs run apply hrun
      cases result with
      | returns => exact h.phase hrun nofun
      | raises tookEffect error =>
        dsimp only
        split
        case isFalse => exact h.phase hrun nofun
        case isTrue =>
          refine h.run hrun (hrunOk.failReload error) fun id rule hget hcreate hpushed => ?_
          refine ⟨rule.failReload error, ?_, ?_, isPushed_failReload hcreate hpushed error⟩
          · rw [Table.get?_mapRows, hget]
            rfl
          · unfold SessionRule.failReload
            split <;> exact hcreate
    case commitApply run =>
      obtain ⟨apply, hrun, hstep⟩ := Option.bind_eq_some_iff.mp hstep
      obtain ⟨-, -, hstep⟩ := Option.bind_eq_some_iff.mp hstep
      obtain rfl := Option.some.inj hstep
      cases hcommit : s.db.commit? apply.session with
      | some db => exact h.commit hrun hcommit
      | none =>
        apply h.abort
        simpa [addsOnce, hrun, hcommit] using hok
    case abortApply run =>
      obtain rfl := Option.some.inj hstep
      exact h.abort hok
    case openSync run =>
      obtain ⟨-, -, hstep⟩ := Option.bind_eq_some_iff.mp hstep
      obtain rfl := Option.some.inj hstep
      exact ⟨⟨h.once, h.row⟩, h.unique, h.bound, h.given, h.waiting, h.runs⟩
    case loadSync run =>
      obtain ⟨sync, -, hstep⟩ := Option.bind_eq_some_iff.mp hstep
      obtain ⟨-, -, hstep⟩ := Option.bind_eq_some_iff.mp hstep
      obtain rfl := Option.some.inj hstep
      exact ⟨⟨h.once, h.row⟩, h.unique, h.bound, h.given, h.waiting, h.runs⟩
    case refreshSync run id =>
      obtain ⟨sync, -, hstep⟩ := Option.bind_eq_some_iff.mp hstep
      obtain ⟨-, -, hstep⟩ := Option.bind_eq_some_iff.mp hstep
      obtain ⟨rule, -, hstep⟩ := Option.bind_eq_some_iff.mp hstep
      obtain rfl := Option.some.inj hstep
      exact ⟨⟨h.once, h.row⟩, h.unique, h.bound, h.given, h.waiting, h.runs⟩
    case abortSync run =>
      obtain rfl := Option.some.inj hstep
      exact ⟨⟨h.once, h.row⟩, h.unique, h.bound, h.given, h.waiting, h.runs⟩
    case reorder id =>
      obtain ⟨db, hsave, rfl⟩ := Option.map_eq_some_iff.mp hstep
      have hdb := FirewallDb.rules_of_save? hsave
      refine h.db (fun id' rule' hget => ?_) (by rw [hdb]; rfl)
      rw [hdb, Serial.get?_toFront] at hget
      exact ⟨rule', hget, fun hcreate => hcreate, rfl⟩
    -- The other steps are not those of apply runs or of the synchronisation.
    all_goals cases hok

end Steps

/-- In every run of apply runs and of the synchronisation in which a run adds a rule only if its row
still says so and no other run has pushed it, a run that has added a rule commits, and the
synchronisation inserts no rule whose row is still there, every rule is added on OPNsense at most once
and has at most one row. -/
theorem rules_created_once {tenantId : ℕ}
    (h : (machine tenantId fun _ _ => True).Reachable (fun s e => addsOnce s e = true) s) :
    CreatedOnce s := by
  have hinv : Once s := by
    refine h.invariant Once ?_ fun s e hs hok => hs.step hok
    rintro ⟨db, opnsense, applies, rules, syncs, created⟩ ⟨-, rfl, rfl, rfl, rfl⟩
    exact ⟨⟨List.nodup_nil, nofun⟩, nofun, nofun, nofun, nofun, nofun⟩
  exact hinv.toCreatedOnce

/-- A rule with the default values. -/
def defaultContent : RuleContent where
  sequence := some 100
  text := fun field => some field.default

/-- A tenant with a new rule. -/
def newRuleDb : FirewallDb where
  tenants := [1]
  rules := Serial.empty.add
    { tenantId := 1
      uuid := "pending-0123456789abcdef01234567"
      content := defaultContent
      applyStatus := .pending
      applyError := none }
  valid := by decide +kernel

/-- The new rule is not on OPNsense, and no task is running. -/
def newRuleState : State where
  db := newRuleDb
  opnsense := ∅
  applies := ∅
  rules := ∅
  syncs := ∅
  created := []

/-- The system may start with the new rule. -/
theorem init_newRuleState : (machine 1 fun _ _ => True).init newRuleState :=
  ⟨trivial, rfl, rfl, rfl, rfl⟩

/-- The rule is added, and synchronised. -/
theorem rules_created_once_small : CreatedOnce
    ((machine 1 fun _ _ => True).run newRuleState
      [.startApply 0, .pushRule 0 .returns "2c1e3a5e-8d2f-4c7b-9a65-1f0d3b7c9e42",
        .readOrder 0, .listOrder 0 true, .reloadRules 0 .returns, .commitApply 0,
        .openSync 0, .loadSync 0, .visitSync 0, .sweepSync 0]) :=
  rules_created_once ((Machine.Reachable.start init_newRuleState).run (by decide +kernel))

/-- A run ends after it has added a rule, and the next one adds it again. -/
theorem rule_created_twice : ¬ ∀ tenantId s,
    (machine tenantId fun _ _ => True).Reachable (fun _ e => e.appliesOrSyncs = true) s →
      CreatedOnce s := by
  intro h
  have hreachable : (machine 1 fun _ _ => True).Reachable (fun _ e => e.appliesOrSyncs = true)
      ((machine 1 fun _ _ => True).run newRuleState
        [.startApply 0, .pushRule 0 .returns "2c1e3a5e-8d2f-4c7b-9a65-1f0d3b7c9e42",
          .abortApply 0, .startApply 1,
          .pushRule 1 .returns "7b9d4f10-6a3c-4e8e-b2d1-5c0f8e7a6d93"]) :=
    (Machine.Reachable.start init_newRuleState).run (by decide +kernel)
  exact absurd (h 1 _ hreachable).once (by decide +kernel)

end ProxmoxIaas.Firewall
