import ProxmoxIaas.Firewall.ApplyRuns

/-!
# The Fates of the Rules of an Apply Run

Every row that an apply run reads is gone, synced or failed afterwards, by its own push and the
reload; the other rows are as they were. A deletion whose uuid is a placeholder needs no call: the
placeholders are the uuids that start with `pending`, also without a hyphen.

## Main results

- `fatesReported`: the fates of all rows, whatever the calls of the run end with.
- `not_fatesReported`: a rule with the uuid `pendingx` is deleted without a call.
-/

namespace ProxmoxIaas.Firewall

/-- An apply run reports what has become of each rule. Rules whose uuid starts with `placeholder`
are deleted without a call. -/
structure FatesReported (placeholder : String) (tenantId run : ℕ) (s : State) (calls : ApplyCalls) :
    Prop where
  /-- A rule that was to be deleted is gone if its deletion returned or needed no call, and failed
  otherwise. -/
  deleted (id : ℕ) (rule : OPNsenseFirewallRule) (hget : s.db.rules.get? id = some rule)
    (htenant : rule.tenantId = tenantId) (hstatus : rule.applyStatus = .pendingDelete) :
    ((s.runApply tenantId run calls).db.rules.get? id = none ↔
      calls.push id = .returns ∨ Text.startsWith rule.uuid placeholder = true) ∧
    ∀ rule', (s.runApply tenantId run calls).db.rules.get? id = some rule' →
      rule'.applyStatus = .failed
  /-- A rule that was pending is synced if its push and the reload returned, and failed otherwise. -/
  pushed (id : ℕ) (rule : OPNsenseFirewallRule) (hget : s.db.rules.get? id = some rule)
    (htenant : rule.tenantId = tenantId) (hstatus : rule.applyStatus = .pending) :
    ∃ rule', (s.runApply tenantId run calls).db.rules.get? id = some rule' ∧
      rule'.applyStatus =
        if calls.push id = .returns ∧ calls.reload = .returns then .synced else .failed
  /-- The calls for other rules do not matter. -/
  independent (id : ℕ) (calls' : ApplyCalls) (hnew : GivesNew s calls'.newUuid)
    (hpush : calls'.push id = calls.push id) (huuid : calls'.newUuid id = calls.newUuid id)
    (hreload : calls'.reload = calls.reload) :
    (s.runApply tenantId run calls').db.rules.get? id =
      (s.runApply tenantId run calls).db.rules.get? id
  /-- Rows that are not in the work list are unchanged. -/
  unchanged (id : ℕ) (hidle : ∀ rule, s.db.rules.get? id = some rule → rule.tenantId = tenantId →
      rule.applyStatus ≠ .pending ∧ rule.applyStatus ≠ .pendingDelete) :
    (s.runApply tenantId run calls).db.rules.get? id = s.db.rules.get? id

variable {tenantId run id : ℕ} {calls calls' : ApplyCalls} {s : State} {rule : OPNsenseFirewallRule}

/-- The push of a rule that is not to be deleted ends as its call does. -/
private theorem result_of_ne {work : Work} (hne : work ≠ .delete) :
    calls.result id rule work = calls.push id := if_neg fun h => hne h.1

/-- A deletion returns if its call does, or if it needs none. -/
private theorem result_delete_eq_returns_iff :
    calls.result id rule .delete = .returns ↔
      calls.push id = .returns ∨ isPlaceholder rule.uuid = true := by
  show (if Work.delete = .delete ∧ isPlaceholder rule.uuid then CallResult.returns
    else calls.push id) = .returns ↔ _
  by_cases hplace : isPlaceholder rule.uuid = true
  · rw [if_pos ⟨rfl, hplace⟩]
    exact ⟨fun _ => Or.inr hplace, fun _ => rfl⟩
  · rw [if_neg (fun h => hplace h.2)]
    exact ⟨Or.inl, fun h => h.resolve_right hplace⟩

/-- The outcome of a deletion. -/
theorem outcome_of_pendingDelete (htenant : rule.tenantId = tenantId)
    (hstatus : rule.applyStatus = .pendingDelete) :
    (calls.outcome tenantId id rule = none ↔
      calls.push id = .returns ∨ isPlaceholder rule.uuid = true) ∧
    ∀ rule', calls.outcome tenantId id rule = some rule' → rule'.applyStatus = .failed := by
  have hwork : rule.work = some .delete := by rw [OPNsenseFirewallRule.work, hstatus]
  unfold ApplyCalls.outcome
  rw [if_neg (not_not.mpr htenant), hwork, ← result_delete_eq_returns_iff]
  dsimp only
  cases calls.result id rule .delete with
  | returns => exact ⟨⟨fun _ => rfl, fun _ => rfl⟩, by rintro _ ⟨⟩⟩
  | raises tookEffect error =>
    refine ⟨⟨by rintro ⟨⟩, by rintro ⟨⟩⟩, fun rule' hrule' => ?_⟩
    obtain rfl := Option.some.inj hrule'
    rfl

/-- The outcome of an update or a creation. -/
theorem outcome_of_pending (htenant : rule.tenantId = tenantId)
    (hstatus : rule.applyStatus = .pending) :
    ∃ rule', calls.outcome tenantId id rule = some rule' ∧ rule'.applyStatus =
      if calls.push id = .returns ∧ calls.reload = .returns then .synced else .failed := by
  have happlied : ∀ work, work ≠ .delete → (calls.applied id rule work).applyStatus =
      if calls.push id = .returns ∧ calls.reload = .returns then .synced else .failed := by
    intro work hne
    unfold ApplyCalls.applied
    rw [result_of_ne hne]
    cases calls.push id with
    | raises => rfl
    | returns =>
      cases calls.reload with
      | raises => rfl
      | returns =>
        cases work with
        | delete => exact absurd rfl hne
        | update | create => rfl
  unfold ApplyCalls.outcome OPNsenseFirewallRule.work
  rw [if_neg (not_not.mpr htenant), hstatus]
  dsimp only
  cases isPlaceholder rule.uuid with
  | true => exact ⟨_, rfl, happlied .create nofun⟩
  | false => exact ⟨_, rfl, happlied .update nofun⟩

/-- The outcome depends on the calls for the row, and on the reload. -/
theorem outcome_congr (hpush : calls'.push id = calls.push id)
    (huuid : calls'.newUuid id = calls.newUuid id) (hreload : calls'.reload = calls.reload) :
    calls'.outcome tenantId id = calls.outcome tenantId id := by
  funext rule
  unfold ApplyCalls.outcome ApplyCalls.applied ApplyCalls.result
  rw [hpush, huuid, hreload]

/-- A row that is not in the work list keeps. -/
theorem outcome_of_idle (hidle : rule.tenantId = tenantId →
    rule.applyStatus ≠ .pending ∧ rule.applyStatus ≠ .pendingDelete) :
    calls.outcome tenantId id rule = some rule := by
  unfold ApplyCalls.outcome
  by_cases htenant : rule.tenantId = tenantId
  · obtain ⟨hpending, hdelete⟩ := hidle htenant
    have hwork : rule.work = none := by
      unfold OPNsenseFirewallRule.work
      cases hstatus : rule.applyStatus with
      | pending => exact absurd hstatus hpending
      | pendingDelete => exact absurd hstatus hdelete
      | synced | failed => rfl
    rw [if_neg (not_not.mpr htenant), hwork]
  · rw [if_pos htenant]

/-- An apply run that no other event overlaps reports what has become of each rule. -/
theorem fatesReported (hrun : s.applies.get? run = none) (hnew : GivesNew s calls.newUuid) :
    FatesReported "pending" tenantId run s calls where
  deleted id rule hget htenant hstatus := by
    rw [rules_runApply hrun hnew, hget, Option.bind_some]
    exact outcome_of_pendingDelete htenant hstatus
  pushed id rule hget htenant hstatus := by
    rw [rules_runApply hrun hnew, hget, Option.bind_some]
    exact outcome_of_pending htenant hstatus
  independent id calls' hnew' hpush huuid hreload := by
    rw [rules_runApply hrun hnew, rules_runApply hrun hnew', outcome_congr hpush huuid hreload]
  unchanged id hidle := by
    rw [rules_runApply hrun hnew]
    cases hget : s.db.rules.get? id with
    | none => rfl
    | some rule => exact outcome_of_idle (hidle rule hget)

/-- A run whose push raises. -/
def unanswered : ApplyCalls :=
  { ApplyCalls.succeed fun _ => "2c1e3a5e-8d2f-4c7b-9a65-1f0d3b7c9e42" with
    push := fun _ => .raises false "timed out" }

/-- A new rule that OPNsense does not take. -/
theorem fatesReported_newRule : FatesReported "pending" 1 0 newRuleState unanswered :=
  fatesReported rfl (givesNew_of_single (Serial.forall_get?_iff.mpr (by decide +kernel) : ∀ i rule,
    newRuleDb.rules.get? i = some rule → i = 1) (by decide +kernel))

/-- A tenant with a rule whose uuid was set to `pendingx` before it was deleted. -/
def renamedState : State :=
  { newRuleState with
    db :=
      { tenants := [1]
        rules := Serial.empty.add
          { tenantId := 1
            uuid := "pendingx"
            content := defaultContent
            applyStatus := .pendingDelete
            applyError := none }
        valid := by decide +kernel } }

/-- The rule is gone although no call has deleted it and its uuid does not start with `pending-`. -/
theorem not_fatesReported : ¬ ∀ tenantId run s calls,
    Table.get? s.applies run = none → GivesNew s calls.newUuid →
      FatesReported "pending-" tenantId run s calls := by
  intro h
  have hnew : GivesNew renamedState unanswered.newUuid :=
    givesNew_of_single (Serial.forall_get?_iff.mpr (by decide +kernel) : ∀ i rule,
      renamedState.db.rules.get? i = some rule → i = 1) (by decide +kernel)
  obtain ⟨rule, hget⟩ : ∃ rule, renamedState.db.rules.get? 1 = some rule := ⟨_, rfl⟩
  have hrow : renamedState.db.rules.get? 1 = some rule → rule.tenantId = 1 ∧
      rule.applyStatus = .pendingDelete ∧ rule.uuid = "pendingx" := by
    intro hrow
    obtain rfl := Option.some.inj hrow
    exact ⟨rfl, rfl, rfl⟩
  obtain ⟨htenant, hstatus, huuid⟩ := hrow hget
  have hgone : (renamedState.runApply 1 0 unanswered).db.rules.get? 1 = none := by
    rw [rules_runApply rfl hnew, hget, Option.bind_some]
    refine (outcome_of_pendingDelete htenant hstatus).1.mpr (Or.inr ?_)
    rw [huuid]
    decide +kernel
  rcases ((h 1 0 renamedState unanswered rfl hnew).deleted 1 rule hget htenant hstatus).1.mp hgone
    with hreturns | hstarts
  · cases hreturns
  · rw [huuid] at hstarts
    revert hstarts
    decide +kernel

end ProxmoxIaas.Firewall
