import ProxmoxIaas.Provisioning.System

/-!
# The Rollback of a Provisioning Run

The id of a tenant's VM is computed from the id of its bridge. A run that fails, at whatever step,
asks the hypervisor to delete the VM with the id of its tenant. A bridge that was released by hand
goes to another tenant, and with it the id, while the VM of the first tenant is still there.

The provisioning system is extended by the VMs of the hypervisor, each with the tenant whose run
has cloned it, and by a record of the deletions.

## Main results

- `rollback_deletes_own`: if no id that is in use is given out, and no run of a tenant can fail
  after the tenant has become active, a rollback deletes VMs of its own tenant only, and none of
  an active tenant.
- `rollback_deletes_other`: the rollback of a run whose clone was refused deletes the VM of
  another tenant.
-/

namespace ProxmoxIaas.Provisioning

/-- The id of the VM for a bridge. -/
def vmIdOf (bridgeId : ℕ) : ℤ := 10000 + ((bridgeId : ℤ) - 100)

/-- A VM that was deleted by a rollback. -/
structure Deletion where
  /-- The tenant of the run that was rolled back. -/
  tenantId : ℕ
  /-- The tenant whose run had cloned the VM; `none` if it came from elsewhere. -/
  creator : Option ℕ
  /-- Whether the tenant of the run had been committed as active. -/
  activated : Bool
  deriving DecidableEq, Repr

/-- The provisioning system with the hypervisor. -/
structure RollbackState where
  /-- The provisioning system. -/
  base : State
  /-- The VMs of the hypervisor, each with the tenant whose run has cloned it. -/
  vms : Table ℤ (Option ℕ)
  /-- The runs that have asked for their clone, each with the answer. -/
  clones : Table ℕ Bool
  /-- The tenants that were committed as active. -/
  activated : List ℕ
  /-- The VMs that were deleted by rollbacks. -/
  deletions : List Deletion

/-- The steps of the system with the hypervisor. -/
inductive RollbackEvent where
  /-- A step of the provisioning system; `deleted` tells whether the hypervisor carries out the
  deletion that a rollback asks for. -/
  | base (e : Event) (deleted : Bool)
  /-- A run asks for the clone of its VM. -/
  | clone (run : ℕ)

/-- Whether a step of a run is a rollback. -/
def rollsBack (run : ProvisionRun) : ProvisionStep → Bool
  | .fail _ | .timeOut _ => run.phase ≠ .timedOut
  | .rollBackAgain => run.phase = .timedOut
  | _ => false

/-- The tenant as a rollback sees it: as the session of the run has loaded it, or as it is stored.
The second rollback after the time limit has a session of its own. -/
def seenTenant (run : ProvisionRun) (stored : Tenant) : Tenant :=
  if run.phase = .timedOut then stored else run.session.getD stored

/-- The tenant that a step rolls back, and the VM that it asks the hypervisor to delete. -/
def rollbackVm (s : State) : Event → Option (ℕ × ℤ)
  | .stepProvision run step => do
    let provisionRun ← s.provisionRuns.get? run
    let stored ← s.db.tenants.get? provisionRun.message.tenantId
    Option.require (rollsBack provisionRun step)
    let vmId ← (seenTenant provisionRun stored).opnsenseVmId
    Option.require (vmId ≠ 0)
    return (provisionRun.message.tenantId, vmId)
  | _ => none

/-- The VM that a step deletes, and the record of it. -/
def deletion? (s : RollbackState) (e : Event) (deleted : Bool) : Option (ℤ × Deletion) := do
  let (tenantId, vmId) ← rollbackVm s.base e
  let creator ← s.vms.get? vmId
  Option.require deleted
  return (vmId, { tenantId, creator, activated := tenantId ∈ s.activated })

/-- The tenant that a step commits as active. -/
def activatedBy (s : State) : Event → Option ℕ
  | .stepProvision run .complete => do
    let provisionRun ← s.provisionRuns.get? run
    let stored ← s.db.tenants.get? provisionRun.message.tenantId
    Option.require (provisionRun.phase = .keyed ∧ provisionRun.session ≠ none ∧
      (provisionRun.step stored .complete).1.status = .active)
    return provisionRun.message.tenantId
  | _ => none

/-- A run commits the WAN address only after its VM was cloned. -/
def waitsForClone (s : RollbackState) : Event → Bool
  | .stepProvision run (.setWanIp _) => s.clones.get? run ≠ some true
  | _ => false

/-- The requests for clones, without that of a run that begins. -/
def clonesAfter (s : RollbackState) : Event → Table ℕ Bool
  | .beginProvision run _ => s.clones.erase run
  | _ => s.clones

/-- A step of the provisioning system and what it does at the hypervisor. -/
def baseStep (s : RollbackState) (e : Event) (deleted : Bool) : RollbackState :=
  if waitsForClone s e then s
  else {
    base := step s.base e
    vms := match deletion? s e deleted with
      | some (vmId, _) => s.vms.erase vmId
      | none => s.vms
    clones := clonesAfter s e
    activated := s.activated ++ (activatedBy s.base e).toList
    deletions := s.deletions ++ ((deletion? s e deleted).map (·.2)).toList }

/-- A run asks for its clone once; the hypervisor refuses an id that is in use. -/
def cloneStep (s : RollbackState) (run : ℕ) : RollbackState :=
  match s.base.provisionRuns.get? run, s.clones.get? run with
  | some { message, session := some tenant, phase := .cloning }, none =>
    match tenant.opnsenseVmId with
    | none => s
    | some vmId =>
      if (s.vms.get? vmId).isNone then
        { s with
          vms := s.vms.insert vmId (some message.tenantId)
          clones := s.clones.insert run true }
      else { s with clones := s.clones.insert run false }
  | _, _ => s

/-- The state after a step. -/
def rollbackStep (s : RollbackState) : RollbackEvent → RollbackState
  | .base e deleted => baseStep s e deleted
  | .clone run => cloneStep s run

/-- The system, started on a seeded database whose tenants have no VM. The hypervisor has any VMs,
none of them from a provisioning run. -/
def rollbackMachine : Machine RollbackState RollbackEvent where
  init s := machine.init s.base ∧
    (∀ id tenant, s.base.db.tenants.get? id = some tenant → tenant.opnsenseVmId = none) ∧
    s.clones = ∅ ∧ s.activated = [] ∧ s.deletions = []
  step := rollbackStep

/-- Every VM that a rollback has deleted was cloned by a run of the tenant that was rolled back,
which had not been committed as active. -/
def DeletesOwn (s : RollbackState) : Prop :=
  ∀ deletion ∈ s.deletions, deletion.creator = some deletion.tenantId ∧
    deletion.activated = false

/-- The VM id of a bridge is not in use by others: no other VM has it, no other tenant, and no run of
another tenant has loaded it. -/
def vmIdFree (s : RollbackState) (tenantId : ℕ) (vmId : ℤ) : Bool :=
  ((s.vms.get? vmId).all fun creator => creator = some tenantId) &&
  (s.base.db.tenants.first? fun id tenant =>
    id ≠ tenantId ∧ tenant.opnsenseVmId = some vmId).isNone &&
  (s.base.provisionRuns.first? fun _ run => run.message.tenantId ≠ tenantId ∧
    run.session.any fun tenant => tenant.opnsenseVmId = some vmId).isNone

/-- The condition on the steps: an approval gives out a bridge whose VM id is not in use, to a tenant
that was never active; a tenant becomes active while no other run of it is in flight; and the run
itself does not fail afterwards. -/
def ownVms (s : RollbackState) : RollbackEvent → Bool
  | .base (.approveTenant call _ _ _) _ =>
    (s.base.approvals.get? call).all fun approval =>
      approval.tenantId ∉ s.activated &&
        (s.base.db.bridgePool.first? fun _ bridge => bridge.status = .available).all
          fun (bridgeId, _) => vmIdFree s approval.tenantId (vmIdOf bridgeId)
  | .base (.stepProvision run step) _ =>
    (s.base.provisionRuns.get? run).all fun provisionRun =>
      match step with
      | .complete => (s.base.provisionRuns.first? fun id other =>
          id ≠ run ∧ other.message.tenantId = provisionRun.message.tenantId).isNone
      | .fail _ | .timeOut _ => provisionRun.phase ≠ .active
      | _ => true
  | _ => true

/-! ## The users of a VM id -/

/-- A tenant uses a VM id if it is stored with the tenant, or a run of the tenant has loaded it. -/
inductive Uses (s : State) (tenantId : ℕ) (vmId : ℤ) : Prop where
  | row {tenant : Tenant} (hget : s.db.tenants.get? tenantId = some tenant)
      (hvm : tenant.opnsenseVmId = some vmId)
  | run {id : ℕ} {provisionRun : ProvisionRun} {tenant : Tenant}
      (hrun : s.provisionRuns.get? id = some provisionRun)
      (hid : provisionRun.message.tenantId = tenantId)
      (hsession : provisionRun.session = some tenant) (hvm : tenant.opnsenseVmId = some vmId)

/-- A committed approval gives the id of its bridge to its tenant. -/
structure GivesOut (s : State) (e : Event) (tenantId : ℕ) (vmId : ℤ) : Prop where
  /-- The step is the approval of the tenant, with the first available bridge. -/
  approval : ∃ call locks bridgeCreation dispatched approval bridgeId bridge,
    e = .approveTenant call locks bridgeCreation dispatched ∧
    s.approvals.get? call = some approval ∧ approval.tenantId = tenantId ∧
    s.db.bridgePool.first? (fun _ bridge => bridge.status = .available) =
      some (bridgeId, bridge) ∧ vmId = vmIdOf bridgeId

/-- A write of no value leaves no other value than the stored one. -/
theorem eq_some_of_writeColumn {τ β : Type} [DecidableEq β] {loaded : Option τ}
    {column : τ → Option β} {stored : Option β} {value : β}
    (h : writeColumn loaded column none stored = some value) : stored = some value := by
  rcases writeColumn_eq_or loaded column none stored with hw | hw
  · rw [hw] at h
    cases h
  · rwa [hw] at h

/-- A step lets a tenant use an id that it has not used before only as its approval. -/
theorem uses_step {s : State} {e : Event} {tenantId : ℕ} {vmId : ℤ}
    (h : Uses (step s e) tenantId vmId) : Uses s tenantId vmId ∨ GivesOut s e tenantId vmId := by
  cases h with
  | row hget hvm =>
    obtain ⟨tenant, hbefore, hwrite⟩ := tenantWrite_step hget
    cases hwrite with
    | same => exact Or.inl (.row hbefore hvm)
    | verify => exact Or.inl (.row hbefore hvm)
    | reset => exact Or.inl (.row hbefore (eq_some_of_writeColumn hvm))
    | release => exact Or.inl (.row hbefore (eq_some_of_writeColumn hvm))
    | approve hcall happrove =>
      rename_i call locks bridgeCreation dispatched request loaded message db
      rcases writeColumn_eq_or (some loaded) (·.opnsenseVmId)
        (some (10000 + ((message.bridgeId : ℤ) - 100))) tenant.opnsenseVmId with hw | hw
      · obtain ⟨bridge, hbridge⟩ := approveTenant_bridge happrove
        exact Or.inr ⟨call, locks, bridgeCreation, dispatched, _, message.bridgeId, bridge, rfl,
          hcall, rfl, hbridge, (Option.some.inj (hw.symm.trans hvm)).symm⟩
      · exact Or.inl (.row hbefore (hw.symm.trans hvm))
    | provision hrun step hstored =>
      rw [ProvisionRun.step_opnsenseVmId] at hvm
      exact Or.inl (.row hbefore hvm)
  | run hrun hid hsession hvm =>
    cases runWrite_step hrun with
    | same _ hold => exact Or.inl (.run hold hid hsession hvm)
    | begin hstored =>
      cases hsession
      exact Or.inl (.row (hid ▸ hstored) hvm)
    | step hold hstored hnext =>
      rename_i old step stored
      have hmessage := old.step_message stored step hnext
      rw [hmessage] at hid
      rcases old.step_session stored step hnext with hsame | hnone | hload
      · exact Or.inl (.run hold hid (hsame.symm.trans hsession) hvm)
      · rw [hnone] at hsession
        cases hsession
      · obtain rfl := Option.some.inj (hload.symm.trans hsession)
        exact Or.inl (.row (hid ▸ hstored) hvm)

/-- Nobody but the tenant uses an id that is not in use by others. -/
theorem eq_of_vmIdFree {s : RollbackState} {tenantId user : ℕ} {vmId : ℤ}
    (hfree : vmIdFree s tenantId vmId = true) (huses : Uses s.base user vmId) :
    user = tenantId := by
  obtain ⟨hothers, hruns⟩ := Bool.and_eq_true_iff.mp hfree
  obtain ⟨-, hrows⟩ := Bool.and_eq_true_iff.mp hothers
  by_contra hne
  cases huses with
  | row hget hvm =>
    have hnot := Serial.first?_eq_none_iff.mp (Option.isNone_iff_eq_none.mp hrows) _ _ hget
    simp [hne, hvm] at hnot
  | run hrun hid hsession hvm =>
    have hnot := Table.first?_eq_none_iff.mp (Option.isNone_iff_eq_none.mp hruns) _ _ hrun
    simp [hid, hne, hsession, hvm] at hnot

/-- A VM with an id that is not in use by others was cloned by a run of the tenant. -/
theorem creator_of_vmIdFree {s : RollbackState} {tenantId : ℕ} {vmId : ℤ} {creator : Option ℕ}
    (hfree : vmIdFree s tenantId vmId = true) (hvm : s.vms.get? vmId = some creator) :
    creator = some tenantId := by
  obtain ⟨hothers, -⟩ := Bool.and_eq_true_iff.mp hfree
  obtain ⟨hcreator, -⟩ := Bool.and_eq_true_iff.mp hothers
  rw [hvm] at hcreator
  exact of_decide_eq_true hcreator

/-- An approval that meets the condition gives out an id that is free, to a tenant that was never
active. -/
theorem GivesOut.free {s : RollbackState} {e : Event} {deleted : Bool} {tenantId : ℕ} {vmId : ℤ}
    (h : GivesOut s.base e tenantId vmId) (hok : ownVms s (.base e deleted) = true) :
    vmIdFree s tenantId vmId = true := by
  obtain ⟨call, locks, bridgeCreation, dispatched, approval, bridgeId, bridge, rfl, hcall, rfl,
    hbridge, rfl⟩ := h.approval
  simp only [ownVms, hcall, Option.all_some, hbridge] at hok
  exact (Bool.and_eq_true_iff.mp hok).2

/-- The VM that a rollback asks to delete has an id that the tenant of the run uses. -/
theorem uses_of_rollbackVm {s : State} {e : Event} {tenantId : ℕ} {vmId : ℤ}
    (h : rollbackVm s e = some (tenantId, vmId)) : Uses s tenantId vmId ∧
      ∃ run step provisionRun, e = .stepProvision run step ∧
        s.provisionRuns.get? run = some provisionRun ∧
        provisionRun.message.tenantId = tenantId ∧ rollsBack provisionRun step = true := by
  cases e with
  | stepProvision run step =>
    simp only [rollbackVm, Option.bind_eq_bind, Option.bind_eq_some_iff,
      Option.require_eq_some_iff, Option.pure_def, Option.some.injEq, Prod.mk.injEq] at h
    obtain ⟨provisionRun, hrun, stored, hstored, -, hback, id, hid, -, -, rfl, rfl⟩ := h
    refine ⟨?_, run, step, provisionRun, rfl, hrun, rfl, hback⟩
    unfold seenTenant at hid
    split at hid
    case isTrue => exact .row hstored hid
    case isFalse =>
      cases hsession : provisionRun.session with
      | none =>
        rw [hsession] at hid
        exact .row hstored hid
      | some tenant =>
        rw [hsession] at hid
        exact .run hrun rfl hsession hid
  | _ => cases h

/-- What a step of a run does that is in flight. -/
theorem provisionStep_of_run {s : State} {run : ℕ} {provisionRun : ProvisionRun} {stored : Tenant}
    (hrun : s.provisionRuns.get? run = some provisionRun)
    (hstored : s.db.tenants.get? provisionRun.message.tenantId = some stored)
    (step : ProvisionStep) {next : ProvisionRun}
    (hnext : (provisionRun.step stored step).2 = some next) :
    provisionStep s run step = { s with
      db := { s.db with
        tenants := s.db.tenants.modify provisionRun.message.tenantId fun _ =>
          (provisionRun.step stored step).1 }
      provisionRuns := s.provisionRuns.modify run fun _ => next } := by
  simp only [provisionStep, hrun, hstored, hnext]

/-! ## The invariant -/

/-- What holds in every state whose steps meet the condition. -/
structure RollbackInv (s : RollbackState) : Prop where
  /-- An id is used by one tenant. -/
  user_unique : ∀ {tenantId user : ℕ} {vmId : ℤ}, Uses s.base tenantId vmId →
    Uses s.base user vmId → tenantId = user
  /-- A VM with an id in use was cloned by a run of the tenant that uses it. -/
  creator : ∀ {tenantId : ℕ} {vmId : ℤ} {creator : Option ℕ}, Uses s.base tenantId vmId →
    s.vms.get? vmId = some creator → creator = some tenantId
  /-- A tenant that was active is not being provisioned. -/
  settled : ∀ {tenantId : ℕ} {tenant : Tenant}, tenantId ∈ s.activated →
    s.base.db.tenants.get? tenantId = some tenant → tenant.status ≠ .provisioning
  /-- The run that has made a tenant active is the only one that may be in flight. -/
  runs : ∀ {tenantId id : ℕ} {provisionRun : ProvisionRun}, tenantId ∈ s.activated →
    s.base.provisionRuns.get? id = some provisionRun →
    provisionRun.message.tenantId = tenantId → provisionRun.phase = .active
  /-- The deletions so far. -/
  own : DeletesOwn s

/-- A column that neither has a value nor is assigned it does not have it after a commit. -/
theorem writeColumn_ne {τ β : Type} [DecidableEq β] {loaded : Option τ} {column : τ → β}
    {value stored other : β} (hvalue : value ≠ other) (hstored : stored ≠ other) :
    writeColumn loaded column value stored ≠ other := by
  rcases writeColumn_eq_or loaded column value stored with hw | hw
  · rwa [hw]
  · rwa [hw]

/-- No step starts the provisioning of a tenant that was active, if it meets the condition. -/
theorem RollbackInv.settled_step {s : RollbackState} (h : RollbackInv s) {e : Event}
    {deleted : Bool} (hok : ownVms s (.base e deleted) = true) {tenantId : ℕ} {tenant' : Tenant}
    (hmem : tenantId ∈ s.activated)
    (hget : (step s.base e).db.tenants.get? tenantId = some tenant') :
    tenant'.status ≠ .provisioning := by
  obtain ⟨tenant, hbefore, hwrite⟩ := tenantWrite_step hget
  have hne := h.settled hmem hbefore
  cases hwrite with
  | same => exact hne
  | verify => exact hne
  | reset => exact writeColumn_ne (by decide) hne
  | release => exact writeColumn_ne (by decide) hne
  | approve hcall =>
    -- The condition keeps tenants that were active from being approved again.
    simp only [ownVms, hcall, Option.all_some] at hok
    exact absurd hmem (of_decide_eq_true (Bool.and_eq_true_iff.mp hok).1)
  | provision hrun step hstored =>
    rename_i run provisionRun
    rcases provisionRun.step_status tenant step with hsame | herror | ⟨rfl, -, loaded, -, -⟩
    · rwa [hsame]
    · rw [herror]
      rintro ⟨⟩
    · simp only [ProvisionRun.step]
      split
      case isTrue => exact writeColumn_ne (by decide) hne
      case isFalse => exact hne

/-- No run of a tenant that was active is in another phase, if the steps meet the condition. -/
theorem RollbackInv.runs_step {s : RollbackState} (h : RollbackInv s) {e : Event} {deleted : Bool}
    (hok : ownVms s (.base e deleted) = true) {tenantId id : ℕ} {provisionRun : ProvisionRun}
    (hmem : tenantId ∈ s.activated)
    (hrun : (step s.base e).provisionRuns.get? id = some provisionRun)
    (hid : provisionRun.message.tenantId = tenantId) : provisionRun.phase = .active := by
  cases runWrite_step hrun with
  | same _ hold => exact h.runs hmem hold hid
  | begin hstored hstatus => exact absurd hstatus (h.settled hmem (hid ▸ hstored))
  | step hold hstored hnext =>
    rename_i old step stored
    have hactive := h.runs hmem hold (old.step_message stored step hnext ▸ hid)
    refine old.step_phase_of_active stored hactive step (fun message heq => ?_) hnext
    subst heq
    simp [ownVms, hold, hactive] at hok

/-- A step that commits a tenant as active leaves it so, with no other run of it in flight. -/
theorem settled_of_activatedBy {s : RollbackState} {e : Event} {deleted : Bool} {tenantId : ℕ}
    (hactivated : activatedBy s.base e = some tenantId)
    (hok : ownVms s (.base e deleted) = true) :
    (∀ tenant, (step s.base e).db.tenants.get? tenantId = some tenant →
      tenant.status ≠ .provisioning) ∧
    ∀ id provisionRun, (step s.base e).provisionRuns.get? id = some provisionRun →
      provisionRun.message.tenantId = tenantId → provisionRun.phase = .active := by
  unfold activatedBy at hactivated
  split at hactivated
  case h_2 => cases hactivated
  case h_1 run =>
    simp only [Option.bind_eq_bind, Option.bind_eq_some_iff, Option.require_eq_some_iff,
      Option.pure_def, Option.some.injEq] at hactivated
    obtain ⟨provisionRun, hrun, stored, hstored, -, ⟨hkeyed, hsession, hactive⟩, rfl⟩ := hactivated
    have hnext : (provisionRun.step stored .complete).2 =
        some { provisionRun with session := none, phase := .active } := by
      simp only [ProvisionRun.step]
      rw [if_pos ⟨hkeyed, hsession⟩]
    have hstep := provisionStep_of_run hrun hstored .complete hnext
    rw [step, hstep]
    constructor
    · intro tenant hget
      rw [Serial.get?_modify, if_pos rfl, hstored] at hget
      obtain rfl := Option.some.inj hget
      rw [hactive]
      rintro ⟨⟩
    · intro id other hother hid
      rw [Table.get?_modify] at hother
      split at hother
      case isTrue heq =>
        subst heq
        rw [hrun] at hother
        obtain rfl := Option.some.inj hother
        rfl
      case isFalse hne =>
        simp only [ownVms, hrun, Option.all_some, Option.isNone_iff_eq_none] at hok
        have hnot := Table.first?_eq_none_iff.mp hok id other hother
        simp [hne, hid] at hnot

/-- A deletion that meets the condition is of a VM that a run of the tenant has cloned, and the
tenant was never active. -/
theorem RollbackInv.deletion {s : RollbackState} (h : RollbackInv s) {e : Event} {deleted : Bool}
    (hok : ownVms s (.base e deleted) = true) {vmId : ℤ} {deletion : Deletion}
    (hdeletion : deletion? s e deleted = some (vmId, deletion)) :
    deletion.creator = some deletion.tenantId ∧ deletion.activated = false := by
  simp only [deletion?, Option.bind_eq_bind, Option.bind_eq_some_iff, Option.require_eq_some_iff,
    Option.pure_def, Option.some.injEq, Prod.mk.injEq] at hdeletion
  obtain ⟨⟨tenantId, id⟩, hback, creator, hvm, -, -, -, rfl⟩ := hdeletion
  obtain ⟨huses, run, step, provisionRun, rfl, hrun, htenant, hstep⟩ := uses_of_rollbackVm hback
  refine ⟨h.creator huses hvm, decide_eq_false fun hmem => ?_⟩
  -- A run of a tenant that was active has committed this itself, and may not fail any more.
  have hactive := h.runs hmem hrun htenant
  cases step with
  | fail message => simp [ownVms, hrun, hactive] at hok
  | timeOut message => simp [ownVms, hrun, hactive] at hok
  | rollBackAgain => simp [rollsBack, hactive] at hstep
  | _ => simp [rollsBack] at hstep

/-- A step of the provisioning system that meets the condition keeps the invariant. -/
theorem RollbackInv.base {s : RollbackState} (h : RollbackInv s) {e : Event} {deleted : Bool}
    (hok : ownVms s (.base e deleted) = true) : RollbackInv (baseStep s e deleted) := by
  unfold baseStep
  split
  case isTrue => exact h
  case isFalse =>
    have hvms : ∀ {vmId : ℤ} {creator : Option ℕ}, Table.get? (match deletion? s e deleted with
        | some (id, _) => s.vms.erase id
        | none => s.vms) vmId = some creator → s.vms.get? vmId = some creator := by
      intro vmId creator hvm
      split at hvm
      case h_1 =>
        exact (Table.get?_erase_eq_some.mp hvm).2
      case h_2 => exact hvm
    have hactivated : ∀ {tenantId : ℕ}, tenantId ∈ s.activated ++ (activatedBy s.base e).toList →
        tenantId ∈ s.activated ∨ activatedBy s.base e = some tenantId := fun hmem =>
      (List.mem_append.mp hmem).imp_right Option.mem_toList.mp
    refine ⟨fun {tenantId user vmId} huses huser => ?_,
      fun {tenantId vmId creator} huses hvm => ?_,
      fun {tenantId tenant} hmem hget => ?_, fun {tenantId id provisionRun} hmem hrun hid => ?_, ?_⟩
    · -- two users of one machine: both had it before, or one of them is given it now
      rcases uses_step huses with hold | hgiven
      · rcases uses_step huser with hold' | hgiven'
        · exact h.user_unique hold hold'
        · exact eq_of_vmIdFree (hgiven'.free hok) hold
      · rcases uses_step huser with hold' | hgiven'
        · exact (eq_of_vmIdFree (hgiven.free hok) hold').symm
        · -- an approval gives one machine to one user
          obtain ⟨_, _, _, _, _, _, _, rfl, hcall, rfl, -, -⟩ := hgiven.approval
          obtain ⟨_, _, _, _, _, _, _, heq, hcall', rfl, -, -⟩ := hgiven'.approval
          cases heq
          rw [Option.some.inj (hcall.symm.trans hcall')]
    · rcases uses_step huses with hold | hgiven
      · exact h.creator hold (hvms hvm)
      · exact creator_of_vmIdFree (hgiven.free hok) (hvms hvm)
    · rcases hactivated hmem with hold | hnew
      · exact h.settled_step hok hold hget
      · exact (settled_of_activatedBy hnew hok).1 tenant hget
    · rcases hactivated hmem with hold | hnew
      · exact h.runs_step hok hold hrun hid
      · exact (settled_of_activatedBy hnew hok).2 id provisionRun hrun hid
    · intro deletion hmem
      rcases List.mem_append.mp hmem with hold | hnew
      · exact h.own deletion hold
      · obtain ⟨⟨vmId, record⟩, hdeletion, rfl⟩ := Option.map_eq_some_iff.mp
          (Option.mem_toList.mp hnew)
        exact h.deletion hok hdeletion

/-- A clone keeps the invariant: the VM is of the tenant that uses its id. -/
theorem RollbackInv.clone {s : RollbackState} (h : RollbackInv s) (run : ℕ) :
    RollbackInv (cloneStep s run) := by
  unfold cloneStep
  split
  case h_2 => exact h
  case h_1 message tenant hrun _ =>
    split
    case h_1 => exact h
    case h_2 vmId hvmId =>
      split
      case isFalse => exact ⟨h.user_unique, h.creator, h.settled, h.runs, h.own⟩
      case isTrue hfree =>
        refine ⟨h.user_unique, fun {tenantId id creator} huses hvm => ?_, h.settled, h.runs, h.own⟩
        rcases Table.get?_insert_eq_some.mp hvm with ⟨rfl, rfl⟩ | ⟨-, hvm⟩
        · exact congrArg some (h.user_unique (.run hrun rfl rfl hvmId) huses)
        · exact h.creator huses hvm

/-- In every run of approvals, provisioning tasks and releases by hand in which no VM id that is in
use is given out, no tenant that was active is approved again, and no run of a tenant can fail once
the tenant was committed as active, every rollback deletes VMs of its own tenant only, and none of a
tenant that was active. -/
theorem rollback_deletes_own {s : RollbackState}
    (h : rollbackMachine.Reachable (fun s e => ownVms s e = true) s) : DeletesOwn s := by
  have hinv : RollbackInv s := by
    refine h.invariant RollbackInv ?_ fun s e hs hok => ?_
    · rintro ⟨base, vms, clones, activated, deletions⟩ ⟨⟨db, -, rfl⟩, hvm, rfl, rfl, rfl⟩
      have hunused : ∀ {tenantId : ℕ} {vmId : ℤ}, ¬ Uses ⟨db, ∅, ∅, ∅, [], ∅⟩ tenantId vmId := by
        intro tenantId vmId huses
        cases huses with
        | row hget hid =>
          rw [hvm _ _ hget] at hid
          cases hid
        | run hrun => cases hrun
      exact ⟨fun huses => absurd huses hunused, fun huses => absurd huses hunused, nofun, nofun,
        nofun⟩
    · cases e with
      | base e deleted => exact hs.base hok
      | clone run => exact hs.clone run
  exact hinv.own

/-- The small state with an empty hypervisor. -/
def smallRollbackState : RollbackState := ⟨smallState, ∅, ∅, [], []⟩

/-- The small state is an initial state: its tenants are new. -/
theorem init_smallRollbackState : rollbackMachine.init smallRollbackState := by
  refine ⟨init_smallState, fun id tenant h => ?_, rfl, rfl, rfl⟩
  simp only [smallRollbackState, smallState, smallDb, Serial.get?_add, Serial.get?_empty] at h
  split_ifs at h <;> cases h <;> rfl

/-- Two tenants are approved and their VMs cloned; the first run fails before the VM has an address,
and the second one completes. -/
theorem rollback_deletes_own_small : DeletesOwn (rollbackMachine.run smallRollbackState
    [.base (.openApproval 0 .admin 1) false, .base (.approveTenant 0 .none (.ok ()) true) false,
      .base (.beginProvision 0 0) false, .clone 0,
      .base (.openApproval 1 .admin 2) false, .base (.approveTenant 1 .none (.ok ()) true) false,
      .base (.beginProvision 1 1) false, .clone 1,
      .base (.stepProvision 0 (.fail "Timeout waiting for WAN IP via DHCP")) true,
      .base (.stepProvision 1 (.setWanIp "198.51.100.7")) false,
      .base (.stepProvision 1 .setLanIp) false, .base (.stepProvision 1 .load) false,
      .base (.stepProvision 1 (.rotateKey "key" "secret")) false,
      .base (.stepProvision 1 .load) false, .base (.stepProvision 1 .complete) false,
      .base (.stepProvision 1 .finish) false]) :=
  rollback_deletes_own ((Machine.Reachable.start init_smallRollbackState).run (by decide))

/-- A bridge is released by hand while the VM of its tenant is still there, and given to another
tenant. The clone for that tenant is refused, and the rollback deletes the VM of the first one. -/
theorem rollback_deletes_other :
    ¬ ∀ s, rollbackMachine.Reachable Machine.anyStep s → DeletesOwn s := by
  intro h
  have hown := h _ (Machine.reachable_run init_smallRollbackState
    [.base (.openApproval 0 .admin 1) false, .base (.approveTenant 0 .none (.ok ()) true) false,
      .base (.beginProvision 0 0) false, .clone 0,
      .base (.openRelease 0 101) false, .base (.releaseBridge 0) false,
      .base (.reorder (.bridge 101)) false,
      .base (.openApproval 1 .admin 2) false, .base (.approveTenant 1 .none (.ok ()) true) false,
      .base (.beginProvision 1 1) false, .clone 1,
      .base (.stepProvision 1 (.fail "VM 10001 already exists")) true])
  have hcreator := (hown ⟨2, some 1, false⟩ (by decide)).1
  exact absurd hcreator (by decide)

end ProxmoxIaas.Provisioning
