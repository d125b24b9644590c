import ProxmoxIaas.Foundation.Machine
import ProxmoxIaas.OpnsenseVm.Leftovers
import ProxmoxIaas.OpnsenseVm.Targets

/-!
# Creating and Deleting Networks, with Their VMs

Requests that create and delete networks, the tasks that they dispatch, and the OPNsense VMs that
the tasks configure. A creation dispatches `create_opnsense_vlan`; a deletion dispatches no task,
and `remove_opnsense_vlan` is dispatched by nothing.

A task runs until it is acknowledged: a run that has raised an exception is retried or given up,
and a run whose worker has crashed, or takes too long, is delivered again while it may still work.

## Main results

- `networks_leave_nothing`: a network that is deleted while the VM of its tenant has nothing of it
  leaves nothing there, if no later run writes anything of it.
- `deleted_network_left`: a network that was configured on the VM of its tenant is left there.
-/

namespace ProxmoxIaas.OpnsenseVm

/-- A dispatched message of `create_opnsense_vlan`. -/
structure NetworkTask where
  /-- The arguments. -/
  message : VlanMessage
  /-- Whether the task has finished, with a result or for lack of further retries. -/
  finished : Bool
  deriving DecidableEq, Repr

/-- A run of `create_opnsense_vlan`. -/
structure NetworkRun where
  /-- The dispatched message. -/
  task : ℕ
  /-- Its arguments. -/
  message : VlanMessage
  /-- What the database sessions of the run know. -/
  session : VlanRun
  /-- The remote execution that is next; `none` after an exception. -/
  phase : Option Phase
  deriving DecidableEq, Repr

/-- The database, the VMs and the tasks. -/
structure NetworkState where
  /-- The committed database. -/
  db : Db
  /-- The OPNsense VMs. -/
  vms : Table ℤ Opnsense
  /-- The dispatched messages. -/
  tasks : Serial NetworkTask
  /-- The runs. -/
  runs : Table ℕ NetworkRun
  /-- The networks for which `delete_network` has answered. -/
  deleted : List ℕ

/-- What can happen next. -/
inductive NetworkEvent where
  /-- `create_network`; `dispatched` tells whether the broker took the message. -/
  | createNetwork (locks : Locks) (tenantId : ℕ) (name : String) (dispatched : Bool)
  /-- `delete_network`. -/
  | deleteNetwork (tenantId networkId : ℕ)
  /-- A message is delivered, for the first time or again. -/
  | start (run task : ℕ)
  /-- A run marks its network as provisioning. -/
  | mark (run : ℕ)
  /-- The next remote execution of a run. -/
  | execute (run : ℕ)
  /-- A run that is done writes the status of its network. -/
  | finish (run : ℕ)
  /-- A run takes its error path, and is retried or has no retries left. -/
  | fail (run : ℕ) (retried : Bool)
  /-- The worker of a run crashes. -/
  | crash (run : ℕ)

variable (settings : Settings)

/-- A request that raises leaves the database as it was. -/
def createNetworkStep (s : NetworkState) (locks : Locks) (tenantId : ℕ) (name : String)
    (dispatched : Bool) : NetworkState :=
  match createNetwork s.db locks tenantId name with
  | .error _ => s
  | .ok (message, db) => { s with
      db
      tasks := if dispatched then s.tasks.add { message, finished := false } else s.tasks }

/-- A request that raises leaves the database as it was. No task is dispatched. -/
def deleteNetworkStep (s : NetworkState) (tenantId networkId : ℕ) : NetworkState :=
  match deleteNetwork s.db tenantId networkId with
  | .error _ => s
  | .ok db => { s with db, deleted := networkId :: s.deleted }

/-- The lookup session of a run. -/
def startStep (s : NetworkState) (run task : ℕ) : NetworkState :=
  match s.tasks.get? task with
  | some { message, finished := false } =>
    let session := vlanLookup s.db message.arguments
    let phase := match session.phase with
      | .raised _ => none
      | _ => some (Phase.listVlans)
    { s with runs := s.runs.insert run { task, message, session, phase } }
  | _ => s

/-- The second session of a run whose lookup passed its checks. -/
def markStep (s : NetworkState) (run : ℕ) : NetworkState :=
  match s.runs.get? run with
  | some { task, message, session, phase } =>
    if session.phase = .looked then
      { s with
        db := vlanMark s.db session
        runs := s.runs.insert run
          { task, message, session := { session with phase := .provisioning }, phase } }
    else s
  | none => s

/-- The next remote execution of a run, on the VM that the task configures. -/
def executeStep (s : NetworkState) (run : ℕ) : NetworkState :=
  match s.runs.get? run with
  | some { task, message, session, phase := some phase } =>
    if session.phase = .provisioning then
      let vlan := VlanTask.ofMessage message
      let moved := (s.vms.get? (vlan.targetVm settings)).bind fun vm =>
        vlanStep vlan (vlan.parent settings) vm phase
      match moved with
      | none => { s with runs := s.runs.insert run { task, message, session, phase := none } }
      | some (next, vm) => { s with
          vms := s.vms.insert (vlan.targetVm settings) vm
          runs := s.runs.insert run { task, message, session, phase := some next } }
    else s
  | _ => s

/-- The last session of a run that has taken all its steps. -/
def finishStep (s : NetworkState) (run : ℕ) : NetworkState :=
  match s.runs.get? run with
  | some { task, session, phase := some (.done _ opt), .. } => { s with
      db := vlanFinish s.db session opt
      runs := s.runs.erase run
      tasks := s.tasks.modify task fun task => { task with finished := true } }
  | _ => s

/-- The error path, which can be taken from anywhere in a run. -/
def failStep (s : NetworkState) (run : ℕ) (retried : Bool) : NetworkState :=
  match s.runs.get? run with
  | some { task, session, .. } => { s with
      db := vlanFail s.db session
      runs := s.runs.erase run
      tasks := s.tasks.modify task fun task => { task with finished := !retried } }
  | none => s

/-- The state after a step. -/
def networkStep (s : NetworkState) : NetworkEvent → NetworkState
  | .createNetwork locks tenantId name dispatched =>
    createNetworkStep s locks tenantId name dispatched
  | .deleteNetwork tenantId networkId => deleteNetworkStep s tenantId networkId
  | .start run task => startStep s run task
  | .mark run => markStep s run
  | .execute run => executeStep settings s run
  | .finish run => finishStep s run
  | .fail run retried => failStep s run retried
  | .crash run => { s with runs := s.runs.erase run }

/-- The system, started on a database without deleted networks. The VMs have any configuration. -/
def networkMachine : Machine NetworkState NetworkEvent where
  init s := (∀ id network, s.db.tenantNetworks.get? id = some network → network.live = true) ∧
    s.tasks = .empty ∧ s.runs = ∅ ∧ s.deleted = []
  step := networkStep settings

/-- Every dispatched task has finished, and no run is left. -/
def NetworkState.idle (s : NetworkState) : Bool :=
  (s.tasks.first? fun _ task => !task.finished).isNone && (s.runs.first? fun _ _ => true).isNone

/-- The OPNsense VM of a tenant. -/
def tenantVm (s : NetworkState) (tenantId : ℕ) : Option Opnsense := do
  let tenant ← s.db.tenants.get? tenantId
  let vmId ← tenant.opnsenseVmId
  s.vms.get? vmId

/-- What the configuration of a VM shows of the networks of a tenant that meet a condition. -/
def wirings (networks : Serial TenantNetwork) (tenantId : ℕ) (p : ℕ → Bool) : List Wiring :=
  (networks.select fun id network => network.tenantId = tenantId ∧ p id).map (·.2.wiring)

/-- The deleted networks of a tenant. A later run may have written another status over theirs. -/
def deletedOf (s : NetworkState) (tenantId : ℕ) : List Wiring :=
  wirings s.db.tenantNetworks tenantId fun id => id ∈ s.deleted

/-- The networks of a tenant that were not deleted. -/
def liveOf (s : NetworkState) (tenantId : ℕ) : List Wiring :=
  wirings s.db.tenantNetworks tenantId fun id => id ∉ s.deleted

/-- Once every dispatched task has finished, the VM of no tenant has anything of its deleted
networks, and a tag that was used again has what belongs to the new network only. -/
def DeletedNetworksGone (s : NetworkState) : Prop :=
  s.idle = true → ∀ tenantId vm, tenantVm s tenantId = some vm →
    NoLeftovers (deletedOf s tenantId) (liveOf s tenantId) settings.defaultOpnsenseParentIf vm

/-- The condition on the steps: a network is deleted while the VM of its tenant has nothing of it,
and a run writes nothing of a deleted network to the VM of its tenant. -/
def leavesNothing (s : NetworkState) : NetworkEvent → Bool
  | .deleteNetwork tenantId networkId => networkId ∈ s.deleted ||
    (tenantNetwork? s.db tenantId networkId).all fun network => network.isDefault ||
      (tenantVm s tenantId).all (holdsNothing settings.defaultOpnsenseParentIf network.wiring)
  | .execute run =>
    match s.runs.get? run with
    | some { message, phase := some phase, .. } =>
      let vlan := VlanTask.ofMessage message
      (s.vms.get? (vlan.targetVm settings)).all fun vm =>
        (s.db.tenants.first? fun tenantId tenant =>
          tenant.opnsenseVmId = some (vlan.targetVm settings) ∧
            harmless (deletedOf s tenantId) (liveOf s tenantId) (vlan.parent settings) vm vlan
              phase = false).isNone
    | _ => true
  | _ => true

/-! ### The networks of a tenant -/

/-- The tenant of a row, and what a VM shows of it. -/
def rowKey (networks : Serial TenantNetwork) (id : ℕ) : Option (ℕ × Wiring) :=
  (networks.get? id).map fun network => (network.tenantId, network.wiring)

/-- The networks that meet a condition, by their rows. -/
theorem mem_wirings {networks : Serial TenantNetwork} {tenantId : ℕ} {p : ℕ → Bool}
    {network : Wiring} : network ∈ wirings networks tenantId p ↔
      ∃ id, rowKey networks id = some (tenantId, network) ∧ p id = true := by
  simp only [wirings, Serial.select, List.mem_map, Prod.exists, Table.mem_select, rowKey,
    Option.map_eq_some_iff, Prod.mk.injEq, decide_eq_true_eq]
  constructor
  · rintro ⟨id, row, ⟨hget, htenant, hp⟩, hwiring⟩
    exact ⟨id, ⟨row, hget, htenant, hwiring⟩, hp⟩
  · rintro ⟨id, ⟨row, hget, htenant, hwiring⟩, hp⟩
    exact ⟨id, row, ⟨hget, htenant, hp⟩, hwiring⟩

/-- A write of other columns changes neither the tenant of a network nor what a VM shows of it. -/
theorem rowKey_modify (networks : Serial TenantNetwork) (k : ℕ) {f : TenantNetwork → TenantNetwork}
    (hf : ∀ network, (f network).tenantId = network.tenantId ∧
      (f network).wiring = network.wiring) (id : ℕ) :
    rowKey (networks.modify k f) id = rowKey networks id := by
  unfold rowKey
  rw [Serial.get?_modify]
  split
  case isTrue =>
    rw [Option.map_map]
    refine congrArg (fun g => Option.map g _) (funext fun network => ?_)
    exact Prod.ext (hf network).1 (hf network).2
  case isFalse => rfl

/-- The sessions of a run write the status of a network, and nothing else that matters here. -/
theorem rowKey_vlanMark (db : Db) (run : VlanRun) (id : ℕ) :
    rowKey (vlanMark db run).tenantNetworks id = rowKey db.tenantNetworks id := by
  unfold vlanMark
  split
  · apply rowKey_modify
    exact fun _ => ⟨rfl, rfl⟩
  · rfl

/-- The last session likewise. -/
theorem rowKey_vlanFinish (db : Db) (run : VlanRun) (opt : String) (id : ℕ) :
    rowKey (vlanFinish db run opt).tenantNetworks id = rowKey db.tenantNetworks id := by
  apply rowKey_modify
  exact fun _ => ⟨rfl, rfl⟩

/-- And the session of the error path. -/
theorem rowKey_vlanFail (db : Db) (run : VlanRun) (id : ℕ) :
    rowKey (vlanFail db run).tenantNetworks id = rowKey db.tenantNetworks id := by
  unfold vlanFail
  split
  · apply rowKey_modify
    exact fun _ => ⟨rfl, rfl⟩
  · rfl

/-! ### The invariant -/

/-- What holds in every state whose steps meet the condition. -/
structure Clean (s : NetworkState) : Prop where
  /-- The VMs have nothing of deleted networks. -/
  vms : ∀ tenantId vm, tenantVm s tenantId = some vm →
    NoLeftovers (deletedOf s tenantId) (liveOf s tenantId) settings.defaultOpnsenseParentIf vm
  /-- The rows of deleted networks stay. -/
  rows : ∀ id ∈ s.deleted, (rowKey s.db.tenantNetworks id).isSome = true
  /-- Tasks are dispatched with the prefix length 24. -/
  tasks : ∀ id task, s.tasks.get? id = some task → task.message.subnet = 24
  /-- So their runs have it as well. -/
  runs : ∀ id run, s.runs.get? id = some run → run.message.subnet = 24

variable {settings} {s : NetworkState}

section Steps

variable (h : Clean settings s)

include h

/-- A step that writes neither the VMs nor what they show of networks keeps the invariant. -/
theorem Clean.frame {s' : NetworkState} (htenants : s'.db.tenants = s.db.tenants)
    (hvms : s'.vms = s.vms) (hdeleted : s'.deleted = s.deleted)
    (hkeys : ∀ id, rowKey s'.db.tenantNetworks id = rowKey s.db.tenantNetworks id)
    (htasks : ∀ id task, s'.tasks.get? id = some task → task.message.subnet = 24)
    (hruns : ∀ id run, s'.runs.get? id = some run → run.message.subnet = 24) :
    Clean settings s' where
  vms tenantId vm hvm := by
    have hvm' : tenantVm s tenantId = some vm := by
      rw [← hvm, tenantVm, tenantVm, htenants, hvms]
    refine (h.vms tenantId vm hvm').create (fun network hmem => ?_) fun network hmem => ?_
    all_goals
      obtain ⟨id, hid, hp⟩ := mem_wirings.mp hmem
      refine mem_wirings.mpr ⟨id, ?_, ?_⟩
    · rwa [← hkeys]
    · rwa [← hdeleted]
    · rwa [hkeys]
    · rwa [hdeleted]
  rows id hmem := by
    rw [hkeys]
    exact h.rows id (hdeleted ▸ hmem)
  tasks := htasks
  runs := hruns

/-- The runs after one of them was written or has ended. -/
theorem Clean.runs_insert {run : ℕ} {next : NetworkRun} (hnext : next.message.subnet = 24) (id : ℕ)
    (other : NetworkRun) (hother : Table.get? (s.runs.insert run next) id = some other) :
    other.message.subnet = 24 := by
  rcases Table.get?_insert_eq_some.mp hother with ⟨-, rfl⟩ | ⟨-, hother⟩
  · exact hnext
  · exact h.runs id other hother

/-- The runs after one of them has ended. -/
theorem Clean.runs_erase {run : ℕ} (id : ℕ) (other : NetworkRun)
    (hother : Table.get? (s.runs.erase run) id = some other) : other.message.subnet = 24 := by
  obtain ⟨-, hother⟩ := Table.get?_erase_eq_some.mp hother
  exact h.runs id other hother

/-- The tasks after one of them has ended. -/
theorem Clean.tasks_modify {task : ℕ} {finished : Bool} (id : ℕ) (other : NetworkTask)
    (hother : (s.tasks.modify task fun task => { task with finished }).get? id = some other) :
    other.message.subnet = 24 := by
  rw [Serial.get?_modify] at hother
  split at hother
  case isTrue =>
    obtain ⟨old, hold, rfl⟩ := Option.map_eq_some_iff.mp hother
    exact h.tasks id old hold
  case isFalse => exact h.tasks id other hother

/-- A network is created. -/
theorem Clean.create {locks : Locks} {tenantId : ℕ} {name : String} {dispatched : Bool} :
    Clean settings (createNetworkStep s locks tenantId name dispatched) := by
  unfold createNetworkStep
  split
  case h_1 => exact h
  case h_2 message db hcreate =>
    have hlength : message.subnet = 24 := by
      simp only [createNetwork, Except.bind_eq_ok_iff, Except.pure_eq_ok_iff, Prod.exists,
        Prod.mk.injEq] at hcreate
      obtain ⟨_, -, _, -, _, _, _, -, _, _, -, _, _, -, rfl, -⟩ := hcreate
      rfl
    obtain ⟨podId, subnetId, subnet, vlanId, vlan, providerRef, -, -, -, -, rfl⟩ :=
      createNetwork_eq_ok hcreate
    have hold : ∀ id key, rowKey s.db.tenantNetworks id = some key →
        rowKey (s.db.tenantNetworks.add
          (additionalNetwork tenantId podId (subnetId, subnet) vlanId name providerRef)) id =
            some key := by
      intro id key hkey
      unfold rowKey at hkey ⊢
      rw [Serial.get?_add, if_neg]
      · exact hkey
      · rintro rfl
        rw [Serial.get?_next] at hkey
        cases hkey
    refine ⟨fun tenantId' vm hvm => ?_, fun id hmem => ?_, fun id task htask => ?_, h.runs⟩
    · refine (h.vms tenantId' vm hvm).create (fun network hmem => ?_) fun network hmem => ?_
      · obtain ⟨id, hid, hdeleted⟩ := mem_wirings.mp hmem
        -- The id of the new network is not that of a deleted one.
        obtain ⟨key, hkey⟩ := Option.isSome_iff_exists.mp (h.rows id (of_decide_eq_true hdeleted))
        rw [hold id key hkey] at hid
        exact mem_wirings.mpr ⟨id, hkey.trans hid, hdeleted⟩
      · obtain ⟨id, hid, hlive⟩ := mem_wirings.mp hmem
        exact mem_wirings.mpr ⟨id, hold id _ hid, hlive⟩
    · obtain ⟨key, hkey⟩ := Option.isSome_iff_exists.mp (h.rows id hmem)
      rw [hold id key hkey]
      rfl
    · change (if dispatched then _ else _ : Serial NetworkTask).get? id = some task at htask
      split at htask
      case isTrue =>
        rw [Serial.get?_add] at htask
        split at htask
        case isTrue =>
          obtain rfl := Option.some.inj htask
          exact hlength
        case isFalse => exact h.tasks id task htask
      case isFalse => exact h.tasks id task htask

/-- A network is deleted. -/
theorem Clean.delete {tenantId networkId : ℕ}
    (hok : leavesNothing settings s (.deleteNetwork tenantId networkId) = true) :
    Clean settings (deleteNetworkStep s tenantId networkId) := by
  unfold deleteNetworkStep
  split
  case h_1 => exact h
  case h_2 db hdelete =>
    obtain ⟨row, hget, htenant, hdefault, rfl⟩ := deleteNetwork_eq_ok hdelete
    have hkeys : ∀ id, rowKey (s.db.tenantNetworks.modify networkId .delete) id =
        rowKey s.db.tenantNetworks id := rowKey_modify _ _ fun _ => ⟨rfl, rfl⟩
    have hkey : rowKey s.db.tenantNetworks networkId = some (tenantId, row.wiring) := by
      rw [rowKey, hget, Option.map_some, htenant]
    refine ⟨fun tenantId' vm hvm => ?_, fun id hmem => ?_, h.tasks, h.runs⟩
    · have hclean := h.vms tenantId' vm hvm
      have hdeleted : ∀ network ∈ wirings (s.db.tenantNetworks.modify networkId .delete) tenantId'
          fun id => id ∈ networkId :: s.deleted, (tenantId' = tenantId ∧ network = row.wiring ∧
            networkId ∉ s.deleted) ∨ network ∈ deletedOf s tenantId' := by
        intro network hmem
        obtain ⟨id, hid, hin⟩ := mem_wirings.mp hmem
        rw [hkeys] at hid
        by_cases hold : id ∈ s.deleted
        · exact Or.inr (mem_wirings.mpr ⟨id, hid, decide_eq_true hold⟩)
        · left
          obtain rfl : id = networkId :=
            (List.mem_cons.mp (of_decide_eq_true hin)).resolve_right hold
          rw [hkey] at hid
          cases hid
          exact ⟨rfl, rfl, hold⟩
      have hlive : ∀ network ∈ liveOf s tenantId', (tenantId' = tenantId ∧ network = row.wiring ∧
          networkId ∉ s.deleted) ∨ network ∈ wirings (s.db.tenantNetworks.modify networkId .delete)
            tenantId' fun id => id ∉ networkId :: s.deleted := by
        intro network hmem
        obtain ⟨id, hid, hout⟩ := mem_wirings.mp hmem
        by_cases heq : id = networkId
        · left
          subst heq
          rw [hkey] at hid
          cases hid
          exact ⟨rfl, rfl, of_decide_eq_true hout⟩
        · right
          have hnot : id ∉ s.deleted := of_decide_eq_true hout
          have hnot' : id ∉ networkId :: s.deleted := List.not_mem_cons_of_ne_of_not_mem heq hnot
          exact mem_wirings.mpr ⟨id, (hkeys id).trans hid, decide_eq_true hnot'⟩
      by_cases hfirst : tenantId' = tenantId ∧ networkId ∉ s.deleted
      · obtain ⟨rfl, hnew⟩ := hfirst
        have hnothing : holdsNothing settings.defaultOpnsenseParentIf row.wiring vm = true := by
          have hrow : tenantNetwork? s.db tenantId' networkId = some row :=
            Option.filter_eq_some_iff.mpr ⟨hget, decide_eq_true htenant⟩
          have hvm' : tenantVm s tenantId' = some vm := hvm
          simpa [leavesNothing, hnew, hrow, hdefault, hvm'] using hok
        exact hclean.delete hnothing
          (fun network hmem => (hdeleted network hmem).imp_left fun hgone => hgone.2.1)
          fun network hmem => (hlive network hmem).imp_left fun hgone => hgone.2.1
      · -- The networks of other tenants stay, and a network is deleted once.
        exact hclean.create
          (fun network hmem => (hdeleted network hmem).resolve_left fun hgone =>
            hfirst ⟨hgone.1, hgone.2.2⟩)
          fun network hmem => (hlive network hmem).resolve_left fun hgone =>
            hfirst ⟨hgone.1, hgone.2.2⟩
    · rw [hkeys]
      rcases List.mem_cons.mp hmem with rfl | hold
      · rw [hkey]
        rfl
      · exact h.rows id hold

/-- A run takes an execution. -/
theorem Clean.execute {run : ℕ} (hok : leavesNothing settings s (.execute run) = true) :
    Clean settings (executeStep settings s run) := by
  unfold executeStep
  split
  case h_2 => exact h
  case h_1 task message session phase hrun =>
    have hlength := h.runs run _ hrun
    split
    case isFalse => exact h
    case isTrue =>
      dsimp only
      split
      case h_1 => exact h.frame rfl rfl rfl (fun _ => rfl) h.tasks (h.runs_insert hlength)
      case h_2 next vm' hmoved =>
        obtain ⟨vm, hvm, hstep⟩ := Option.bind_eq_some_iff.mp hmoved
        refine ⟨fun tenantId vm₁ hvm₁ => ?_, h.rows, h.tasks, h.runs_insert hlength⟩
        obtain ⟨tenant, htenant, vmId, hid, hget⟩ : ∃ tenant,
            s.db.tenants.get? tenantId = some tenant ∧ ∃ vmId, tenant.opnsenseVmId = some vmId ∧
              Table.get? (s.vms.insert ((VlanTask.ofMessage message).targetVm settings) vm') vmId =
                some vm₁ := by
          simpa only [tenantVm, Option.bind_eq_bind, Option.bind_eq_some_iff] using hvm₁
        rcases Table.get?_insert_eq_some.mp hget with ⟨rfl, rfl⟩ | ⟨-, hget⟩
        · have hbefore : tenantVm s tenantId = some vm := by
            simp only [tenantVm, Option.bind_eq_bind, Option.bind_eq_some_iff]
            exact ⟨tenant, htenant, _, hid, hvm⟩
          have hharmless : harmless (deletedOf s tenantId) (liveOf s tenantId)
              ((VlanTask.ofMessage message).parent settings) vm (VlanTask.ofMessage message)
                phase = true := by
            simp only [leavesNothing, hrun, hvm, Option.all_some, Option.isNone_iff_eq_none,
              Serial.first?_eq_none_iff] at hok
            have hnot := of_decide_eq_false (hok tenantId tenant htenant)
            by_contra hharm
            exact hnot ⟨hid, Bool.eq_false_iff.mpr hharm⟩
          exact (h.vms tenantId vm hbefore).move hlength hharmless (vlanStep_move hstep)
        · apply h.vms tenantId vm₁
          simp only [tenantVm, Option.bind_eq_bind, Option.bind_eq_some_iff]
          exact ⟨tenant, htenant, vmId, hid, hget⟩

/-- Every step that meets the condition keeps the invariant. -/
theorem Clean.step {e : NetworkEvent} (hok : leavesNothing settings s e = true) :
    Clean settings (networkStep settings s e) := by
  cases e with
  | createNetwork => exact h.create
  | deleteNetwork => exact h.delete hok
  | execute => exact h.execute hok
  | start run task =>
    simp only [networkStep, startStep]
    split
    case h_1 message htask =>
      have hlength : message.subnet = 24 := h.tasks task _ htask
      exact h.frame rfl rfl rfl (fun _ => rfl) h.tasks (h.runs_insert hlength)
    case h_2 => exact h
  | mark run =>
    simp only [networkStep, markStep]
    split
    case h_1 task message session phase hrun =>
      split
      case isTrue =>
        have hlength : message.subnet = 24 := h.runs run _ hrun
        refine h.frame ?_ rfl rfl (rowKey_vlanMark s.db session) h.tasks (h.runs_insert hlength)
        unfold vlanMark
        split <;> rfl
      case isFalse => exact h
    case h_2 => exact h
  | finish run =>
    simp only [networkStep, finishStep]
    split
    case h_1 task _ session _ opt hrun =>
      exact h.frame rfl rfl rfl (rowKey_vlanFinish s.db session opt) h.tasks_modify h.runs_erase
    case h_2 => exact h
  | fail run retried =>
    simp only [networkStep, failStep]
    split
    case h_1 task _ session _ hrun =>
      refine h.frame ?_ rfl rfl (rowKey_vlanFail s.db session) h.tasks_modify h.runs_erase
      unfold vlanFail
      split <;> rfl
    case h_2 => exact h
  | crash run => exact h.frame rfl rfl rfl (fun _ => rfl) h.tasks h.runs_erase

end Steps

/-- Two tenants with a VM each. The default VM of the settings is that of the first one. -/
def twoFirewalls : NetworkState where
  db := twoTenants
  vms := ((∅ : Table ℤ Opnsense).insert 10000 plainVm).insert 10001 plainVm
  tasks := .empty
  runs := ∅
  deleted := []

/-- The system may start with the two tenants. -/
theorem init_twoFirewalls : (networkMachine defaultSettings).init twoFirewalls := by
  refine ⟨fun id network h => ?_, rfl, rfl, rfl⟩
  simp only [twoFirewalls, twoTenants, Serial.get?_add, Serial.get?_empty] at h
  split_ifs at h <;> cases h <;> rfl

/-- A run of a task that takes a number of remote executions. -/
def wholeRun (run task executions : ℕ) : List NetworkEvent :=
  [.start run task, .mark run] ++ List.replicate executions (.execute run) ++ [.finish run]

end ProxmoxIaas.OpnsenseVm
