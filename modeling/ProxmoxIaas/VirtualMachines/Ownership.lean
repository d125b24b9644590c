import ProxmoxIaas.VirtualMachines.System

/-!
# Ownership of Hypervisor Machines

A row owns the machine that was cloned for it. The ids of the rows, the machines on the
hypervisor and the ids that open actions have captured agree as long as the provisioning task
saves an id that is still free, and clones to an id that is still its own.

## Main results

- `machines_owned`: ids are different, a row has at most one machine, and actions affect the
  machines of their own rows only, in every run that reserves its ids.
- `machines_not_owned`: two runs that overlap save the same id, and deleting one row destroys
  the machine of the other.
-/

namespace ProxmoxIaas

namespace VirtualMachines

/-- What the platform is to guarantee about the machines of its rows. -/
structure Ownership (s : State) : Prop where
  /-- No two rows have the same id. -/
  id_unique : ∀ i j vm vm' id, s.db.vms.get? i = some vm → s.db.vms.get? j = some vm' →
    vm.proxmoxVmId = some id → vm'.proxmoxVmId = some id → i = j
  /-- At most one machine was cloned for a row. -/
  single : ∀ id id' machine machine' vmId, s.hypervisor.get? id = some machine →
    s.hypervisor.get? id' = some machine' → machine.clonedFor = some vmId →
    machine'.clonedFor = some vmId → id = id'
  /-- A call of an action changes only the machine that was cloned for its row. -/
  affects : ∀ call succeeds id,
    (step s (.callHypervisor call succeeds)).hypervisor.get? id ≠ s.hypervisor.get? id →
    ∃ vmCall machine, s.calls.get? call = some vmCall ∧
      s.hypervisor.get? id = some machine ∧ machine.clonedFor = some vmCall.vmId

/-- An id is free on the hypervisor, or its machine was cloned for the row. -/
def ownedOrFree (hypervisor : Hypervisor) (vmId id : ℕ) : Bool :=
  (hypervisor.get? id).all fun machine => machine.clonedFor = some vmId

/-- No other row has the id. -/
def idUnheld (db : VmDb) (vmId id : ℕ) : Bool :=
  (db.vms.first? fun i vm => i ≠ vmId ∧ vm.proxmoxVmId = some id).isNone

/-- No open action on another row is still to call the id. -/
def idUntargeted (calls : Table ℕ VmCall) (vmId id : ℕ) : Bool :=
  (calls.first? fun _ call =>
    call.vmId ≠ vmId ∧ call.pending ≠ [] ∧ call.vm.proxmoxVmId = some id).isNone

/-- No machine was cloned for the row yet. -/
def uncloned (hypervisor : Hypervisor) (vmId : ℕ) : Bool :=
  (hypervisor.first? fun _ machine => machine.clonedFor = some vmId).isNone

/-- The condition on a step: an id that a run writes onto its row is still free, and a run that
clones its machine has no machine yet and no other row uses its id. -/
def reservesId (s : State) : Event → Bool
  | .saveId run => (s.runs.get? run).all fun vmRun =>
    match vmRun.phase with
    | .asked id =>
      vmRun.session.map (·.proxmoxVmId) = some (some id) ||
        (s.db.vms.get? vmRun.vmId).isNone ||
        idUnheld s.db vmRun.vmId id && ownedOrFree s.hypervisor vmRun.vmId id
    | _ => true
  | .cloneVm run _ _ => (s.runs.get? run).all fun vmRun =>
    match vmRun.phase with
    | .keyed id =>
      (s.hypervisor.get? id).isSome ||
        uncloned s.hypervisor vmRun.vmId && idUnheld s.db vmRun.vmId id &&
          idUntargeted s.calls vmRun.vmId id
    | _ => true
  | _ => true

/-- The id that a row has on the hypervisor. -/
def vmIds (db : VmDb) : ℕ → Option ℕ := db.vms.column (·.proxmoxVmId)

/-- The invariant: ids are different, a row has one machine at most, and the ids of rows and of
open actions are free or those of their own machines. -/
structure Owned (s : State) : Prop where
  /-- No two rows have the same id. -/
  id_unique : ∀ i j id, vmIds s.db i = some id → vmIds s.db j = some id → i = j
  /-- At most one machine was cloned for a row. -/
  single : ∀ id id' vmId, s.hypervisor.column (·.clonedFor) id = some vmId →
    s.hypervisor.column (·.clonedFor) id' = some vmId → id = id'
  /-- The ids of the rows. -/
  rows : ∀ vmId id, vmIds s.db vmId = some id → ownedOrFree s.hypervisor vmId id = true
  /-- The ids of the open actions. -/
  calls : ∀ call vmCall id, s.calls.get? call = some vmCall → vmCall.pending ≠ [] →
    vmCall.vm.proxmoxVmId = some id → ownedOrFree s.hypervisor vmCall.vmId id = true

/-- The machine with an id that is owned or free was cloned for the row. -/
private theorem ownedOrFree_iff {hypervisor : Hypervisor} {vmId id : ℕ} :
    ownedOrFree hypervisor vmId id = true ↔
      ∀ machine, hypervisor.get? id = some machine → machine.clonedFor = some vmId := by
  simp [ownedOrFree, Option.all_eq_true]

/-- An id is unheld if only the row itself can have it. -/
private theorem idUnheld_iff {db : VmDb} {vmId id : ℕ} :
    idUnheld db vmId id = true ↔ ∀ i, vmIds db i = some id → i = vmId := by
  rw [idUnheld, Option.isNone_iff_eq_none, Serial.first?_eq_none_iff]
  constructor
  · intro h i hi
    obtain ⟨vm, hvm, hid⟩ := Serial.column_eq_some_iff.mp hi
    have hfalse := h i vm hvm
    by_contra hne
    simp [hne, hid] at hfalse
  · intro h i vm hvm
    refine decide_eq_false fun ⟨hne, hid⟩ => hne ?_
    exact h i (Serial.column_eq_some_iff.mpr ⟨vm, hvm, hid⟩)

/-- A write that leaves the id of a row alone. -/
private theorem vmIds_modify {db : VmDb} {vmId : ℕ} {f : VM → VM}
    (hf : ∀ vm, (f vm).proxmoxVmId = vm.proxmoxVmId) :
    vmIds { db with vms := db.vms.modify vmId f } = vmIds db := by
  unfold vmIds
  exact Serial.column_modify_of_eq fun vm _ => hf vm

/-- The invariant depends on the ids of the rows, the machines and the pending actions, and
rows and actions may go. -/
private theorem Owned.mono {s s' : State} (h : Owned s)
    (hids : ∀ i id, vmIds s'.db i = some id → vmIds s.db i = some id)
    (hhypervisor : s'.hypervisor = s.hypervisor)
    (hcalls : ∀ call vmCall, s'.calls.get? call = some vmCall →
      s.calls.get? call = some vmCall) : Owned s' where
  id_unique i j id hi hj := h.id_unique i j id (hids i id hi) (hids j id hj)
  single := by
    rw [hhypervisor]
    exact h.single
  rows vmId id hid := by
    rw [hhypervisor]
    exact h.rows vmId id (hids vmId id hid)
  calls call vmCall id hcall hpending hid := by
    rw [hhypervisor]
    exact h.calls call vmCall id (hcalls call vmCall hcall) hpending hid

/-- The invariant does not depend on the runs. -/
private theorem Owned.of_eq {s s' : State} (h : Owned s) (hids : vmIds s'.db = vmIds s.db)
    (hhypervisor : s'.hypervisor = s.hypervisor) (hcalls : s'.calls = s.calls) : Owned s' :=
  h.mono (fun _ _ hi => hids ▸ hi) hhypervisor fun _ _ hcall => hcalls ▸ hcall

/-- A run commits a write that leaves the id of its row alone. -/
private theorem Owned.commitRun {s : State} (h : Owned s) {run vmId : ℕ} {write : VM → VM}
    {phase : VmPhase} (hwrite : ∀ vm, (write vm).proxmoxVmId = vm.proxmoxVmId) :
    Owned (s.commitRun run vmId write phase) := by
  unfold State.commitRun
  split
  case h_1 => exact h.of_eq (vmIds_modify hwrite) rfl rfl
  case h_2 => exact h.of_eq rfl rfl rfl

/-- A new row has no id. -/
private theorem Owned.createStep {s : State} (h : Owned s) {tenantId : ℕ} {name : String}
    {diskSizeMb : ℕ} {ipAddress : Option String} :
    Owned (createStep s tenantId name diskSizeMb ipAddress) := by
  unfold VirtualMachines.createStep
  split
  case h_1 db hcreate =>
    refine h.of_eq ?_ rfl rfl
    unfold ProxmoxIaas.createVm at hcreate
    split at hcreate
    case h_1 => cases hcreate
    case h_2 =>
      obtain rfl := Option.some.inj hcreate
      unfold vmIds
      rw [Serial.column_add, ← Serial.column_next s.db.vms (·.proxmoxVmId),
        Function.update_eq_self]
  case h_2 => exact h

/-- An action captures the id of its row. -/
private theorem Owned.openStep {s : State} (h : Owned s) {call tenantId vmId : ℕ}
    {action : VmAction} : Owned (openStep s call tenantId vmId action) := by
  unfold VirtualMachines.openStep
  split
  case h_1 => exact h
  case h_2 opened hopen =>
    refine ⟨h.id_unique, h.single, h.rows, fun call' vmCall id hcall hpending hid => ?_⟩
    simp only [Table.get?_insert] at hcall
    split at hcall
    case isTrue =>
      obtain rfl := Option.some.inj hcall
      simp only [openVmCall, Except.bind_eq_ok_iff, Except.ofOption_eq_ok_iff,
        Except.pure_eq_ok_iff, Option.filter_eq_some_iff] at hopen
      obtain ⟨vm, ⟨hvm, -⟩, -, -, rfl⟩ := hopen
      exact h.rows vmId id (Serial.column_eq_some_iff.mpr ⟨vm, hvm, hid⟩)
    case isFalse => exact h.calls call' vmCall id hcall hpending hid

/-- A call affects the machine it addresses only, and creates none. -/
private theorem get?_apply {hypervisor : Hypervisor} {id id' : ℕ} {next : HypervisorCall}
    {machine : HypervisorVm} (h : (next.apply hypervisor id).get? id' = some machine) :
    ∃ before, hypervisor.get? id' = some before ∧ machine.clonedFor = before.clonedFor := by
  cases next with
  | start =>
    simp only [HypervisorCall.apply, Table.get?_modify] at h
    split at h
    case isTrue =>
      obtain ⟨before, hbefore, rfl⟩ := Option.map_eq_some_iff.mp h
      exact ⟨before, hbefore, rfl⟩
    case isFalse => exact ⟨machine, h, rfl⟩
  | stop =>
    simp only [HypervisorCall.apply, Table.get?_modify] at h
    split at h
    case isTrue =>
      obtain ⟨before, hbefore, rfl⟩ := Option.map_eq_some_iff.mp h
      exact ⟨before, hbefore, rfl⟩
    case isFalse => exact ⟨machine, h, rfl⟩
  | destroy =>
    simp only [HypervisorCall.apply, Table.get?_erase] at h
    split at h
    case isTrue => cases h
    case isFalse => exact ⟨machine, h, rfl⟩

/-- The other machines stay as they are. -/
private theorem get?_apply_of_ne {hypervisor : Hypervisor} {id id' : ℕ} (next : HypervisorCall)
    (h : id' ≠ id) : (next.apply hypervisor id).get? id' = hypervisor.get? id' := by
  cases next <;> simp [HypervisorCall.apply, h]

/-- What a call leaves on the hypervisor was there before, cloned for the same row. -/
private theorem callStep_hypervisor {s : State} {call : ℕ} {succeeds : Bool} {id : ℕ}
    {machine : HypervisorVm} (h : (callStep s call succeeds).hypervisor.get? id = some machine) :
    ∃ before, s.hypervisor.get? id = some before ∧ machine.clonedFor = before.clonedFor := by
  unfold callStep at h
  split at h
  case h_1 =>
    dsimp only at h
    split at h
    case h_1 => exact get?_apply h
    case h_2 => exact ⟨machine, h, rfl⟩
  case h_2 => exact ⟨machine, h, rfl⟩

/-- A call keeps the invariant. -/
private theorem Owned.callStep {s : State} (h : Owned s) {call : ℕ} {succeeds : Bool} :
    Owned (callStep s call succeeds) := by
  have hcolumn : ∀ id vmId,
      (VirtualMachines.callStep s call succeeds).hypervisor.column (·.clonedFor) id = some vmId →
      s.hypervisor.column (·.clonedFor) id = some vmId := by
    intro id vmId hid
    obtain ⟨machine, hget, hcloned⟩ := Table.column_eq_some_iff.mp hid
    obtain ⟨before, hbefore, hsame⟩ := callStep_hypervisor hget
    exact Table.column_eq_some_iff.mpr ⟨before, hbefore, hsame ▸ hcloned⟩
  have howned : ∀ vmId id, ownedOrFree s.hypervisor vmId id = true →
      ownedOrFree (VirtualMachines.callStep s call succeeds).hypervisor vmId id = true := by
    intro vmId id hfree
    refine ownedOrFree_iff.mpr fun machine hget => ?_
    obtain ⟨before, hbefore, hsame⟩ := callStep_hypervisor hget
    exact hsame.trans (ownedOrFree_iff.mp hfree before hbefore)
  have hdb : (VirtualMachines.callStep s call succeeds).db = s.db := by
    unfold VirtualMachines.callStep
    split <;> rfl
  refine ⟨hdb.symm ▸ h.id_unique, fun id id' vmId hid hid' => ?_, fun vmId id hid => ?_,
    fun call' vmCall id hcall hpending hid => ?_⟩
  · exact h.single id id' vmId (hcolumn id vmId hid) (hcolumn id' vmId hid')
  · exact howned vmId id (h.rows vmId id (hdb ▸ hid))
  · -- An action that still has calls to make had them before.
    refine howned vmCall.vmId id ?_
    unfold VirtualMachines.callStep at hcall
    split at hcall
    case h_1 hbefore =>
      have hcalling := fun target =>
        h.calls call _ target hbefore (List.cons_ne_nil _ _)
      simp only [Table.get?_modify] at hcall
      split at hcall
      case isTrue heq =>
        rw [heq, hbefore, Option.map_some, Option.some.injEq] at hcall
        subst hcall
        exact hcalling id hid
      case isFalse => exact h.calls call' vmCall id hcall hpending hid
    case h_2 => exact h.calls call' vmCall id hcall hpending hid

/-- The commit of an action writes no id and may delete its row. -/
private theorem vmIds_commitVmCall {db : VmDb} {call : VmCall} {found : Option String} {i id : ℕ}
    (h : vmIds (commitVmCall db call found) i = some id) : vmIds db i = some id := by
  unfold commitVmCall at h
  split at h
  case h_1 =>
    rw [vmIds_modify] at h
    exacts [h, fun _ => rfl]
  case h_2 =>
    rw [vmIds_modify] at h
    exacts [h, fun _ => rfl]
  case h_3 =>
    obtain ⟨vm, hvm, hid⟩ := Serial.column_eq_some_iff.mp h
    rw [Serial.get?_deleteWhere, Option.filter_eq_some_iff] at hvm
    exact Serial.column_eq_some_iff.mpr ⟨vm, hvm.1, hid⟩

/-- The commit of an action keeps the invariant. -/
private theorem Owned.commitStep {s : State} (h : Owned s) {call : ℕ} {found : Option String} :
    Owned (commitStep s call found) := by
  unfold VirtualMachines.commitStep
  split
  case h_1 vmCall _ =>
    split
    case isTrue =>
      refine h.mono (fun i id hi => vmIds_commitVmCall hi) rfl fun call' vmCall' hcall => ?_
      simp only [Table.get?_erase] at hcall
      split at hcall
      case isTrue => cases hcall
      case isFalse => exact hcall
    case isFalse => exact h
  case h_2 => exact h

/-- A run that saves an id that is still free keeps the invariant. -/
private theorem Owned.saveIdStep {s : State} (h : Owned s) {run : ℕ}
    (hok : reservesId s (.saveId run) = true) : Owned (saveIdStep s run) := by
  unfold VirtualMachines.saveIdStep
  split
  case h_2 => exact h
  case h_1 vmId data session id hrun =>
    simp only [reservesId, hrun, Option.all_some, Bool.or_eq_true, Bool.and_eq_true,
      decide_eq_true_eq] at hok
    rcases hok with (hloaded | hgone) | ⟨hunheld, hfree⟩
    · -- The session had loaded that very id, so nothing is written.
      refine h.commitRun fun vm => ?_
      simp [VM.saveId, writeColumn, hloaded]
    · rw [Option.isNone_iff_eq_none] at hgone
      unfold State.commitRun
      rw [hgone]
      exact h.of_eq rfl rfl rfl
    · unfold State.commitRun
      split
      case h_2 => exact h.of_eq rfl rfl rfl
      case h_1 vm hvm =>
        -- Every row other than the run's own keeps its id.
        have hids : ∀ i id', vmIds { s.db with vms := s.db.vms.modify vmId (.saveId session id) }
            i = some id' → i = vmId ∧ id' = id ∨ vmIds s.db i = some id' := by
          intro i id' hi
          rw [vmIds, Serial.column_modify] at hi
          by_cases hivm : i = vmId
          · rw [hivm, Function.update_self, hvm, Option.bind_some] at hi
            rcases writeColumn_eq_or session VM.proxmoxVmId (some id) vm.proxmoxVmId with hw | hw
            · exact Or.inl ⟨hivm, (Option.some.inj (hw.symm.trans hi)).symm⟩
            · refine Or.inr (Serial.column_eq_some_iff.mpr ⟨vm, hivm ▸ hvm, ?_⟩)
              exact hw.symm.trans hi
          · rw [Function.update_of_ne hivm] at hi
            exact Or.inr hi
        have hother := idUnheld_iff.mp hunheld
        refine ⟨fun i j id' hi hj => ?_, h.single, fun i id' hi => ?_, h.calls⟩
        · rcases hids i id' hi with ⟨hivm, hid⟩ | hi <;> rcases hids j id' hj with ⟨hjvm, hid'⟩ | hj
          · exact hivm.trans hjvm.symm
          · exact hivm.trans (hother j (hid ▸ hj)).symm
          · exact (hother i (hid' ▸ hi)).trans hjvm.symm
          · exact h.id_unique i j id' hi hj
        · rcases hids i id' hi with ⟨hivm, hid⟩ | hi
          · rw [hivm, hid]
            exact hfree
          · exact h.rows i id' hi

/-- A run that clones to an id of its own keeps the invariant. -/
private theorem Owned.cloneStep {s : State} (h : Owned s) {run : ℕ} {finished started : Bool}
    (hok : reservesId s (.cloneVm run finished started) = true) :
    Owned (cloneStep s run finished started) := by
  unfold VirtualMachines.cloneStep
  split
  case h_2 => exact h
  case h_1 vmId data session id hrun =>
    split
    case isTrue => exact h.of_eq rfl rfl rfl
    case isFalse hexists =>
      simp only [reservesId, hrun, Option.all_some, hexists, Bool.false_or,
        Bool.and_eq_true] at hok
      obtain ⟨⟨huncloned, hunheld⟩, huntargeted⟩ := hok
      rw [uncloned, Option.isNone_iff_eq_none, Table.first?_eq_none_iff] at huncloned
      rw [idUntargeted, Option.isNone_iff_eq_none, Table.first?_eq_none_iff] at huntargeted
      -- A row or an action that uses the new machine's id belongs to the run's row.
      have howned : ∀ vmId' id', (id' = id → vmId' = vmId) →
          ownedOrFree s.hypervisor vmId' id' = true →
          ownedOrFree (AList.insert id
            ⟨some vmId, data.autoStart && (finished || started)⟩ s.hypervisor) vmId' id' =
              true := by
        intro vmId' id' hsame hfree
        refine ownedOrFree_iff.mpr fun machine hget => ?_
        rcases Table.get?_insert_eq_some.mp hget with ⟨heq, rfl⟩ | ⟨-, hget⟩
        · rw [hsame heq]
        · exact ownedOrFree_iff.mp hfree machine hget
      refine ⟨h.id_unique, fun id₁ id₂ vmId' h₁ h₂ => ?_, fun vmId' id' hid => ?_,
        fun call vmCall id' hcall hpending hid => ?_⟩
      · have hnone : ∀ id', s.hypervisor.column (·.clonedFor) id' ≠ some vmId := by
          intro id' hid'
          obtain ⟨machine, hget, hcloned⟩ := Table.column_eq_some_iff.mp hid'
          exact absurd hcloned (of_decide_eq_false (huncloned id' machine hget))
        rw [Table.column_insert] at h₁ h₂
        by_cases hid₁ : id₁ = id <;> by_cases hid₂ : id₂ = id
        · rw [hid₁, hid₂]
        · rw [hid₁, Function.update_self, Option.some.injEq] at h₁
          rw [Function.update_of_ne hid₂, ← h₁] at h₂
          exact absurd h₂ (hnone id₂)
        · rw [hid₂, Function.update_self, Option.some.injEq] at h₂
          rw [Function.update_of_ne hid₁, ← h₂] at h₁
          exact absurd h₁ (hnone id₁)
        · rw [Function.update_of_ne hid₁] at h₁
          rw [Function.update_of_ne hid₂] at h₂
          exact h.single id₁ id₂ vmId' h₁ h₂
      · exact howned vmId' id' (fun heq => idUnheld_iff.mp hunheld vmId' (heq ▸ hid))
          (h.rows vmId' id' hid)
      · refine howned vmCall.vmId id' (fun heq => ?_) (h.calls call vmCall id' hcall hpending hid)
        by_contra hne
        exact absurd ⟨hne, hpending, heq ▸ hid⟩ (of_decide_eq_false (huntargeted call vmCall hcall))

/-- One step keeps the invariant. -/
private theorem Owned.step {s : State} {e : Event} (h : Owned s) (hok : reservesId s e = true) :
    Owned (step s e) := by
  cases e with
  | createVm => exact h.createStep
  | openCall => exact h.openStep
  | callHypervisor => exact h.callStep
  | commitCall => exact h.commitStep
  | saveId => exact h.saveIdStep hok
  | cloneVm => exact h.cloneStep hok
  -- The other steps of a run leave the ids, the machines and the actions alone.
  | beginVm run vmId data =>
    show Owned (beginStep s run vmId data)
    unfold beginStep
    split
    · exact h.of_eq rfl rfl rfl
    · exact h
  | askId run =>
    show Owned (askStep s run)
    unfold askStep
    split
    · exact h.of_eq rfl rfl rfl
    · exact h
  | saveKeys run publicKey privateKeyEnc =>
    show Owned (saveKeysStep s run publicKey privateKeyEnc)
    unfold saveKeysStep
    split
    · exact h.commitRun fun _ => rfl
    · exact h
  | completeVm run diskSizeMb found =>
    show Owned (completeStep s run diskSizeMb found)
    unfold completeStep
    split
    · exact h.of_eq (vmIds_modify fun _ => rfl) rfl rfl
    · exact h
  | failVm run message diskSizeMb ip =>
    show Owned (failStep s run message diskSizeMb ip)
    unfold failStep
    split
    case h_1 =>
      refine h.of_eq (vmIds_modify fun vm => ?_) rfl rfl
      split <;> rfl
    case h_2 => exact h

/-- The invariant gives the guarantee. -/
private theorem Owned.ownership {s : State} (h : Owned s) : Ownership s where
  id_unique i j vm vm' id hi hj hid hid' :=
    h.id_unique i j id (Serial.column_eq_some_iff.mpr ⟨vm, hi, hid⟩)
      (Serial.column_eq_some_iff.mpr ⟨vm', hj, hid'⟩)
  single id id' machine machine' vmId hget hget' hcloned hcloned' :=
    h.single id id' vmId (Table.column_eq_some_iff.mpr ⟨machine, hget, hcloned⟩)
      (Table.column_eq_some_iff.mpr ⟨machine', hget', hcloned'⟩)
  affects := by
    intro call succeeds id hchanged
    change (VirtualMachines.callStep s call succeeds).hypervisor.get? id ≠ _ at hchanged
    unfold VirtualMachines.callStep at hchanged
    split at hchanged
    case h_2 => exact absurd rfl hchanged
    case h_1 action vmId vm next rest hcall =>
      dsimp only at hchanged
      split at hchanged
      case h_2 => exact absurd rfl hchanged
      case h_1 target hid =>
        -- Only the machine with the captured id can have changed.
        have htarget : id = target := by
          by_contra hne
          exact hchanged (get?_apply_of_ne next hne)
        have hcaptured : vm.proxmoxVmId = some target := (Option.filter_eq_some_iff.mp hid).1
        have howned := h.calls call _ target hcall (List.cons_ne_nil _ _) hcaptured
        cases hget : s.hypervisor.get? id with
        | none =>
          have hnone : (next.apply s.hypervisor target).get? id = none := by
            cases next <;> simp [HypervisorCall.apply, hget]
          exact absurd (hnone.trans hget.symm) hchanged
        | some machine =>
          refine ⟨_, machine, hcall, rfl, ?_⟩
          exact ownedOrFree_iff.mp howned machine (htarget ▸ hget)

/-- In every run that saves an id only while it is free, and clones a machine only to an id that
is its row's own, the rows own their machines. -/
theorem machines_owned {s : State}
    (h : machine.Reachable (fun s e => reservesId s e = true) s) : Ownership s := by
  have hinv : Owned s := by
    refine h.invariant Owned ?_ fun s e hs hok => hs.step hok
    rintro s ⟨hvms, hmachines, hcalls, -⟩
    have hids : ∀ i id, vmIds s.db i ≠ some id := by
      intro i id hi
      obtain ⟨vm, hvm, -⟩ := Serial.column_eq_some_iff.mp hi
      rw [hvms i] at hvm
      cases hvm
    refine ⟨fun i j id hi => absurd hi (hids i id), fun id id' vmId hid => ?_,
      fun vmId id hid => absurd hid (hids vmId id), fun call vmCall id hcall => ?_⟩
    · obtain ⟨machine, hget, hcloned⟩ := Table.column_eq_some_iff.mp hid
      rw [hmachines id machine hget] at hcloned
      cases hcloned
    · rw [hcalls] at hcall
      cases hcall
  exact hinv.ownership

/-- A cluster with one template, and no rows. -/
def smallState : State where
  db := { vms := .empty, tenantNetworks := .empty }
  hypervisor := (∅ : Hypervisor).insert 100 { clonedFor := none, running := false }
  calls := ∅
  runs := ∅

/-- The small state is an initial state. -/
theorem init_smallState : machine.init smallState := by
  refine ⟨fun _ => rfl, fun id vm hget => ?_, rfl, rfl⟩
  simp only [smallState, Table.get?_insert, Table.get?_empty] at hget
  split at hget
  · obtain rfl := Option.some.inj hget
    rfl
  · cases hget

/-- The arguments that the small runs are started with. -/
def smallData : ProvisionData where
  sshPublicKey := some "ssh-ed25519"
  username := "ubuntu"
  ipAddress := none
  autoStart := true

/-- A run saves its id and its keys, and clones and completes its machine. -/
def finishRun (run : ℕ) : List Event :=
  [.saveId run, .saveKeys run "" "", .cloneVm run true true, .completeVm run none none]

/-- Two VMs of two tenants are provisioned one after the other, and one of them is deleted while
its task is delivered again. -/
theorem machines_owned_small : Ownership (machine.run smallState
    ([.createVm 1 "web" 20480 none, .createVm 2 "db" 20480 none, .beginVm 0 1 smallData,
      .askId 0] ++ finishRun 0 ++ [.beginVm 1 2 smallData, .askId 1] ++ finishRun 1 ++
      [.openCall 0 1 1 (.delete true), .callHypervisor 0 true, .beginVm 2 1 smallData,
        .callHypervisor 0 true, .commitCall 0 none, .askId 2, .saveId 2])) :=
  machines_owned ((Machine.Reachable.start init_smallState).run (by decide))

/-- Two runs ask for an id before either has cloned its machine, and both save it. -/
theorem machines_not_owned :
    ¬ ∀ s, machine.Reachable Machine.anyStep s → Ownership s := by
  intro h
  have howned := h _ (Machine.reachable_run init_smallState
    [.createVm 1 "web" 20480 none, .createVm 2 "db" 20480 none, .beginVm 0 1 smallData,
      .beginVm 1 2 smallData, .askId 0, .askId 1, .saveId 0, .saveId 1])
  have hsame : (1 : ℕ) = 2 := howned.id_unique 1 2 _ _ 101 rfl rfl (by decide) (by decide)
  exact absurd hsame (by decide)

end VirtualMachines

end ProxmoxIaas
