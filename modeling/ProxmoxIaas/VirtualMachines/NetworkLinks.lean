import ProxmoxIaas.Foundation.Machine
import ProxmoxIaas.Foundation.References
import ProxmoxIaas.VirtualMachines.Provision

/-!
# The Networks of VMs

A VM is created without a network. The task that provisions it looks for a network of the tenant
whose range contains the address of the VM, and commits what it has found with its completion.
Networks are deleted by another endpoint, which does not look at VMs.

The steps of the task that write neither an address nor a network are left out; they are those
of `VirtualMachines.Event`. A run that is never continued has crashed.

## Main results

- `complete_eq_commitLink`: the two halves of a completion are the completion of the task.
- `networks_kept`: where the links of VMs stay sound.
-/

namespace ProxmoxIaas

/-- The network that the task finds for a VM: none if the VM has one already. -/
def matchedNetwork (db : VmDb) (vm : VM) : Option String → Option ℕ
  | some ip =>
    if truthy vm.networkId = none then
      (db.tenantNetworks.first? fun _ network =>
        network.tenantId = vm.tenantId ∧ inCidr ip network.cidr).map (·.1)
    else none
  | none => none

/-- The address and the network that the task has assigned to a row. -/
def VM.link (ipAddress : Option String) (networkId : Option ℕ) (vm : VM) : VM :=
  { vm with
    ipAddress := ipAddress.or vm.ipAddress
    networkId := networkId.or vm.networkId }

/-- The columns that a completed run writes, for the network that it has found. -/
def VM.commitLink (data : ProvisionData) (diskSizeMb : Option ℕ) (ipAddress : Option String)
    (networkId : Option ℕ) (vm : VM) : VM :=
  { vm.link ipAddress networkId with
    diskSizeMb := diskSizeMb.getD vm.diskSizeMb
    status := if data.autoStart then .running else .stopped }

/-- Finding the network and writing it at once is the completion of the task. -/
theorem complete_eq_commitLink (db : VmDb) (data : ProvisionData) (diskSizeMb : Option ℕ)
    (found : Option String) (vm : VM) :
    VM.complete db data diskSizeMb found vm =
      VM.commitLink data diskSizeMb (assignedIp data found)
        (matchedNetwork db vm (assignedIp data found)) vm := by
  unfold VM.complete VM.commitLink VM.link
  cases assignedIp data found with
  | none => rfl
  | some ip =>
    have hnetwork : assignedNetwork db vm ip =
        (matchedNetwork db vm (some ip)).or vm.networkId := by
      rw [assignedNetwork, matchedNetwork]
      by_cases hnone : truthy vm.networkId = none
      · rw [if_neg (not_not.mpr hnone), if_pos hnone]
        cases db.tenantNetworks.first? fun _ network =>
          network.tenantId = vm.tenantId ∧ inCidr ip network.cidr <;> rfl
      · rw [if_pos hnone, if_neg hnone]
        rfl
    simp only [hnetwork]

/-- A found network is one of the tenant of the VM. -/
theorem tenantId_of_matchedNetwork {db : VmDb} {vm : VM} {ip : Option String} {networkId : ℕ}
    (h : matchedNetwork db vm ip = some networkId) :
    ∃ network, db.tenantNetworks.get? networkId = some network ∧
      network.tenantId = vm.tenantId := by
  unfold matchedNetwork at h
  split at h
  case h_2 => cases h
  case h_1 ip =>
    split at h
    case isFalse => cases h
    case isTrue =>
      obtain ⟨⟨id, network⟩, hfirst, rfl⟩ := Option.map_eq_some_iff.mp h
      obtain ⟨hget, hcond⟩ := Serial.first?_eq_some hfirst
      exact ⟨network, hget, (of_decide_eq_true hcond).1⟩

namespace VmNetworks

/-- How far a run of `provision_vm_task` has come. -/
inductive LinkPhase where
  /-- The row was found. -/
  | begun
  /-- An address and a network are assigned to the row and not committed yet. -/
  | linked (ipAddress : Option String) (networkId : Option ℕ)
  deriving DecidableEq, Repr

/-- The network that a run is about to commit. -/
def LinkPhase.networkId : LinkPhase → Option ℕ
  | begun => none
  | linked _ networkId => networkId

/-- A run of `provision_vm_task`. -/
structure LinkRun where
  /-- The VM. -/
  vmId : ℕ
  /-- The arguments of the task. -/
  data : ProvisionData
  /-- How far the run has come. -/
  phase : LinkPhase
  deriving DecidableEq, Repr

/-- The committed database, and the requests and runs in flight. -/
structure State where
  /-- The committed provisioning tables. -/
  db : Db
  /-- Table `vms`. -/
  vms : Serial VM
  /-- Requests for a VM that have passed their checks, with their tenants. -/
  requests : Table ℕ (ℕ × VMProvisionRequest)
  /-- Runs of `provision_vm_task`. -/
  runs : Table ℕ LinkRun

/-- The tables that the task reads. -/
def State.vmDb (s : State) : VmDb where
  vms := s.vms
  tenantNetworks := s.db.tenantNetworks

/-- The lookup of the networks. -/
abbrev State.network? (s : State) : ℕ → Option TenantNetwork := s.db.tenantNetworks.get?

/-- The steps of the system. Requests and runs are named by a number of the caller's choice. -/
inductive Event where
  /-- The provisioning endpoint resolves the network and validates the address. -/
  | openProvision (call tenantId : ℕ) (request : VMProvisionRequest)
  /-- The provisioning endpoint inserts the row; the template has a disk of some GiB. -/
  | insertVm (call templateDiskSize : ℕ)
  /-- A first or redelivered run of the task finds its row. -/
  | beginVm (run vmId : ℕ) (data : ProvisionData)
  /-- A run assigns the address, and the network that it finds for it; `found` is the address that
  the guest agent has reported. -/
  | assignNetwork (run : ℕ) (found : Option String)
  /-- A run commits its completion. -/
  | commitVm (run : ℕ) (diskSizeMb : Option ℕ)
  /-- A run takes its failure path. -/
  | failVm (run : ℕ) (message : String)
  /-- `create_network`. -/
  | createNetwork (locks : Locks) (tenantId : ℕ) (name : String)
  /-- `delete_network`. -/
  | deleteNetwork (tenantId networkId : ℕ)

/-- Open a request that passes the checks. -/
def openStep (s : State) (call tenantId : ℕ) (request : VMProvisionRequest) : State :=
  match provisionNetwork s.db tenantId request with
  | .ok _ => { s with requests := s.requests.insert call (tenantId, request) }
  | .error _ => s

/-- Insert the row of a request. -/
def insertStep (s : State) (call templateDiskSize : ℕ) : State :=
  match s.requests.get? call with
  | some (tenantId, request) =>
    let diskSizeMb := (request.diskSizeGb.getD templateDiskSize) * 1024
    { s with
      vms := ((createVm s.vmDb tenantId request.name diskSizeMb request.storedAddress).map
        (·.vms)).getD s.vms
      requests := s.requests.erase call }
  | none => s

/-- Start a run for a row. -/
def beginStep (s : State) (run vmId : ℕ) (data : ProvisionData) : State :=
  match s.vms.get? vmId with
  | some _ => { s with runs := s.runs.insert run { vmId, data, phase := .begun } }
  | none => s

/-- Assign the address and the network. -/
def assignStep (s : State) (run : ℕ) (found : Option String) : State :=
  match s.runs.get? run with
  | some { vmId, data, phase := .begun } =>
    match s.vms.get? vmId with
    | some vm =>
      let ip := assignedIp data found
      { s with
        runs := s.runs.insert run
          { vmId, data, phase := .linked ip (matchedNetwork s.vmDb vm ip) } }
    | none => { s with runs := s.runs.erase run }
  | _ => s

/-- Commit a completion. -/
def commitStep (s : State) (run : ℕ) (diskSizeMb : Option ℕ) : State :=
  match s.runs.get? run with
  | some { vmId, data, phase := .linked ipAddress networkId } =>
    { s with
      vms := s.vms.modify vmId (.commitLink data diskSizeMb ipAddress networkId)
      runs := s.runs.erase run }
  | _ => s

/-- Take the failure path. Its commit includes what the run had assigned. -/
def failStep (s : State) (run : ℕ) (message : String) : State :=
  match s.runs.get? run with
  | some { vmId, phase := .begun, .. } =>
    { s with vms := s.vms.modify vmId (.fail none message), runs := s.runs.erase run }
  | some { vmId, phase := .linked ipAddress networkId, .. } =>
    { s with
      vms := s.vms.modify vmId fun vm => .fail none message (vm.link ipAddress networkId)
      runs := s.runs.erase run }
  | none => s

/-- Create a network. -/
def createStep (s : State) (locks : Locks) (tenantId : ℕ) (name : String) : State :=
  match ProxmoxIaas.createNetwork s.db locks tenantId name with
  | .ok (_, db) => { s with db }
  | .error _ => s

/-- Delete a network. -/
def deleteStep (s : State) (tenantId networkId : ℕ) : State :=
  match ProxmoxIaas.deleteNetwork s.db tenantId networkId with
  | .ok db => { s with db }
  | .error _ => s

/-- The state after a step. -/
def step (s : State) : Event → State
  | .openProvision call tenantId request => openStep s call tenantId request
  | .insertVm call templateDiskSize => insertStep s call templateDiskSize
  | .beginVm run vmId data => beginStep s run vmId data
  | .assignNetwork run found => assignStep s run found
  | .commitVm run diskSizeMb => commitStep s run diskSizeMb
  | .failVm run message => failStep s run message
  | .createNetwork locks tenantId name => createStep s locks tenantId name
  | .deleteNetwork tenantId networkId => deleteStep s tenantId networkId

/-- The links are sound: every network of a VM is a live one of the tenant of the VM. -/
def Linked (s : State) : Prop :=
  References.Sound VM.networkId
    (fun vm network => network.tenantId = vm.tenantId ∧ network.live = true) s.vms.get? s.network?

/-- Between two states no subnet went back to the pool that a network of some VM uses. -/
def SubnetsKept (s s' : State) : Prop :=
  ∀ poolId row row', s.db.globalIpPool.get? poolId = some row → row.status = .allocated →
    s'.db.globalIpPool.get? poolId = some row' → row'.status = .free →
      ∀ networkId network, References.Referred VM.networkId s.vms.get? networkId →
        s.network? networkId = some network → network.ipPoolId ≠ some poolId

/-- The system, started with sound links and nothing in flight. -/
def machine : Machine State Event where
  init s := Linked s ∧ s.requests = ∅ ∧ s.runs = ∅
  step := step

/-- A VM is attached to a network, or to another one with the same subnet. -/
def State.attached (s : State) (networkId : ℕ) (network : TenantNetwork) : Bool :=
  !(s.vms.select fun _ vm => vm.networkId.any fun id =>
    id = networkId ∨ truthy network.ipPoolId ≠ none ∧
      (s.network? id).any fun other => other.ipPoolId = network.ipPoolId).isEmpty

/-- The step keeps the links sound: no network with VMs is deleted, and a network that the task
commits was not deleted meanwhile, or before. -/
def keepsLinks (s : State) : Event → Bool
  | .deleteNetwork tenantId networkId =>
    (tenantNetwork? s.db tenantId networkId).all fun network =>
      network.isDefault || !s.attached networkId network
  | .commitVm run _ | .failVm run _ =>
    (s.runs.get? run).all fun run =>
      run.phase.networkId.all fun networkId => (s.network? networkId).any (·.live)
  | _ => true

/-- Rows of VMs and networks stay from one state to another, with their tenants. -/
structure Grows (s s' : State) : Prop where
  vms : ∀ id vm, s.vms.get? id = some vm →
    ∃ vm', s'.vms.get? id = some vm' ∧ vm'.tenantId = vm.tenantId
  networks : ∀ id network, s.network? id = some network →
    ∃ network', s'.network? id = some network' ∧ network'.tenantId = network.tenantId

/-- The VM of a run exists, and the network that the run has found is one of its tenant. -/
def RunOk (s : State) (run : LinkRun) : Prop :=
  ∃ vm, s.vms.get? run.vmId = some vm ∧ ∀ networkId, run.phase.networkId = some networkId →
    ∃ network, s.network? networkId = some network ∧ network.tenantId = vm.tenantId

/-- The invariant: the links are sound, and so is what the runs have found. -/
structure Inv (s : State) : Prop where
  linked : Linked s
  runs : ∀ run linkRun, s.runs.get? run = some linkRun → RunOk s linkRun

variable {s s' : State} {run : ℕ} {linkRun : LinkRun}

theorem Grows.of_eq (hvms : s'.vms = s.vms) (hdb : s'.db = s.db) : Grows s s' where
  vms id vm hget := ⟨vm, by rw [hvms]; exact hget, rfl⟩
  networks id network hget := ⟨network, by rw [State.network?, hdb]; exact hget, rfl⟩

theorem RunOk.mono (h : RunOk s linkRun) (hgrows : Grows s s') : RunOk s' linkRun := by
  obtain ⟨vm, hvm, hnetwork⟩ := h
  obtain ⟨vm', hvm', htenant⟩ := hgrows.vms _ vm hvm
  refine ⟨vm', hvm', fun networkId hid => ?_⟩
  obtain ⟨network, hget, howner⟩ := hnetwork networkId hid
  obtain ⟨network', hget', howner'⟩ := hgrows.networks networkId network hget
  exact ⟨network', hget', by rw [howner', howner, htenant]⟩

/-- A step with sound links that starts no run and lets no row go keeps the invariant. -/
theorem Inv.of_grows (h : Inv s) (hlinked : Linked s') (hgrows : Grows s s')
    (hruns : ∀ run linkRun, s'.runs.get? run = some linkRun → s.runs.get? run = some linkRun) :
    Inv s' where
  linked := hlinked
  runs run linkRun hrun := (h.runs run linkRun (hruns run linkRun hrun)).mono hgrows

/-- A run whose network is live writes its row and ends. -/
theorem Inv.writeVm (h : Inv s) (hrun : s.runs.get? run = some linkRun) {f : VM → VM}
    (hlive : linkRun.phase.networkId.all (fun networkId => (s.network? networkId).any (·.live))
      = true)
    (htenant : ∀ vm, (f vm).tenantId = vm.tenantId)
    (hnetwork : ∀ vm, (f vm).networkId = linkRun.phase.networkId.or vm.networkId) :
    Inv { s with vms := s.vms.modify linkRun.vmId f, runs := s.runs.erase run } := by
  refine h.of_grows ?_ ⟨fun id vm hget => ?_, fun id network hget => ⟨network, hget, rfl⟩⟩
    fun run' linkRun' hget => ?_
  · refine h.linked.of_rows fun id vm networkId hget hid => ?_
    rw [Serial.get?_modify] at hget
    by_cases hvm : id = linkRun.vmId
    · subst hvm
      obtain ⟨stored, hstored, hfound⟩ := h.runs run linkRun hrun
      rw [if_pos rfl, hstored, Option.map_some] at hget
      obtain rfl := Option.some.inj hget
      rw [hnetwork, Option.or_eq_some_iff] at hid
      rcases hid with hnew | ⟨-, hold⟩
      · -- the network that the run has found
        obtain ⟨network, hnetworkGet, howner⟩ := hfound networkId hnew
        rw [hnew, Option.all_some, hnetworkGet, Option.any_some] at hlive
        exact Or.inl ⟨network, hnetworkGet, by rw [htenant]; exact howner, hlive⟩
      · exact Or.inr ⟨stored, hstored, hold, fun network hgood => by rwa [htenant]⟩
    · rw [if_neg hvm] at hget
      exact Or.inr ⟨vm, hget, hid, fun network hgood => hgood⟩
  · by_cases hvm : id = linkRun.vmId
    · exact ⟨f vm, by rw [Serial.get?_modify, if_pos hvm, hget, Option.map_some], htenant vm⟩
    · exact ⟨vm, by rw [Serial.get?_modify, if_neg hvm, hget], rfl⟩
  · exact (Table.get?_erase_eq_some.mp hget).2

/-- The row that the endpoint inserts has no network. -/
theorem insertStep_cases (s : State) (call templateDiskSize : ℕ) :
    (insertStep s call templateDiskSize).db = s.db ∧
      (insertStep s call templateDiskSize).runs = s.runs ∧
      ((insertStep s call templateDiskSize).vms = s.vms ∨
        ∃ vm, vm.networkId = none ∧ (insertStep s call templateDiskSize).vms = s.vms.add vm) := by
  unfold insertStep
  split
  case h_2 => exact ⟨rfl, rfl, Or.inl rfl⟩
  case h_1 tenantId request _ =>
    refine ⟨rfl, rfl, ?_⟩
    dsimp only
    unfold createVm
    split
    case h_1 => exact Or.inl rfl
    case h_2 => exact Or.inr ⟨_, rfl, rfl⟩

theorem Inv.insertStep (h : Inv s) (call templateDiskSize : ℕ) :
    Inv (insertStep s call templateDiskSize) := by
  obtain ⟨hdb, hruns, hvms⟩ := insertStep_cases s call templateDiskSize
  rcases hvms with hvms | ⟨new, hnew, hvms⟩
  · refine h.of_grows ?_ (.of_eq hvms hdb) fun run linkRun hrun => by rwa [hruns] at hrun
    rw [Linked, State.network?, hvms, hdb]
    exact h.linked
  · refine h.of_grows ?_ ⟨fun id vm hget => ⟨vm, ?_, rfl⟩, fun id network hget => ⟨network, ?_, rfl⟩⟩
      fun run linkRun hrun => by rwa [hruns] at hrun
    · rw [Linked, State.network?, hvms, hdb]
      refine h.linked.of_rows fun id vm networkId hget hid => ?_
      rw [Serial.get?_add] at hget
      split at hget
      case isTrue =>
        obtain rfl := Option.some.inj hget
        rw [hnew] at hid
        cases hid
      case isFalse => exact Or.inr ⟨vm, hget, hid, fun network hgood => hgood⟩
    · have hold : id ≠ s.vms.next := by
        rintro rfl
        rw [Serial.get?_next] at hget
        cases hget
      rw [hvms, Serial.get?_add, if_neg hold]
      exact hget
    · rw [State.network?, hdb]
      exact hget

theorem Inv.beginStep (h : Inv s) (vmId : ℕ) (data : ProvisionData) :
    Inv (beginStep s run vmId data) := by
  unfold VmNetworks.beginStep
  split
  case h_2 => exact h
  case h_1 vm hvm =>
    refine ⟨h.linked, fun run' linkRun' hget => ?_⟩
    rcases Table.get?_insert_eq_some.mp hget with ⟨-, rfl⟩ | ⟨-, hget⟩
    · exact ⟨vm, hvm, nofun⟩
    · exact h.runs run' linkRun' hget

theorem Inv.assignStep (h : Inv s) (found : Option String) : Inv (assignStep s run found) := by
  unfold VmNetworks.assignStep
  split
  case h_2 => exact h
  case h_1 vmId data hrun =>
    split
    case h_1 vm hvm =>
      refine ⟨h.linked, fun run' linkRun' hget => ?_⟩
      rcases Table.get?_insert_eq_some.mp hget with ⟨-, rfl⟩ | ⟨-, hget⟩
      · exact ⟨vm, hvm, fun networkId hid => tenantId_of_matchedNetwork hid⟩
      · exact h.runs run' linkRun' hget
    case h_2 hnone =>
      -- the row of a run does not go away
      obtain ⟨vm, hvm, -⟩ := h.runs run _ hrun
      rw [hnone] at hvm
      cases hvm

theorem Inv.commitStep (h : Inv s) (diskSizeMb : Option ℕ)
    (hok : keepsLinks s (.commitVm run diskSizeMb) = true) : Inv (commitStep s run diskSizeMb) := by
  unfold VmNetworks.commitStep
  split
  case h_2 => exact h
  case h_1 vmId data ipAddress networkId hrun =>
    rw [keepsLinks, hrun, Option.all_some] at hok
    exact h.writeVm hrun hok (fun vm => rfl) fun vm => rfl

theorem Inv.failStep (h : Inv s) (message : String)
    (hok : keepsLinks s (.failVm run message) = true) : Inv (failStep s run message) := by
  unfold VmNetworks.failStep
  split
  case h_1 vmId data hrun =>
    rw [keepsLinks, hrun, Option.all_some] at hok
    exact h.writeVm hrun hok (fun vm => rfl) fun vm => rfl
  case h_2 vmId data ipAddress networkId hrun =>
    rw [keepsLinks, hrun, Option.all_some] at hok
    exact h.writeVm hrun hok (fun vm => rfl) fun vm => rfl
  case h_3 => exact h

theorem Inv.createStep (h : Inv s) (locks : Locks) (tenantId : ℕ) (name : String) :
    Inv (createStep s locks tenantId name) := by
  unfold VmNetworks.createStep
  split
  case h_2 => exact h
  case h_1 message db hcreate =>
    obtain ⟨_, network, -, -, -, hadd⟩ := createNetwork_offered hcreate
    have hstays : ∀ id old, s.network? id = some old → db.tenantNetworks.get? id = some old := by
      intro id old hget
      have hold : id ≠ s.db.tenantNetworks.next := by
        rintro rfl
        rw [State.network?, Serial.get?_next] at hget
        cases hget
      rw [hadd, Serial.get?_add, if_neg hold]
      exact hget
    refine h.of_grows ?_ ⟨fun id vm hget => ⟨vm, hget, rfl⟩, fun id old hget =>
      ⟨old, hstays id old hget, rfl⟩⟩ fun _ _ hrun => hrun
    exact h.linked.of_targets fun id old hget _ => ⟨old, hstays id old hget, fun vm hgood => hgood⟩

/-- No VM refers to a network that may be deleted. -/
theorem not_referred_of_attached {networkId : ℕ} {network : TenantNetwork}
    (h : s.attached networkId network = false) {id : ℕ}
    (href : References.Referred VM.networkId s.vms.get? id) :
    id ≠ networkId ∧ (truthy network.ipPoolId ≠ none → ∀ other, s.network? id = some other →
      other.ipPoolId ≠ network.ipPoolId) := by
  obtain ⟨vmId, vm, hget, hid⟩ := href
  rw [State.attached, Bool.not_eq_false', Serial.select, Table.isEmpty_select_iff] at h
  have hvm := h vmId vm hget
  rw [hid, Option.any_some, decide_eq_false_iff_not, not_or, not_and] at hvm
  refine ⟨hvm.1, fun hpool other hother heq => hvm.2 hpool ?_⟩
  rw [hother, Option.any_some, decide_eq_true_eq]
  exact heq

theorem Inv.deleteStep (h : Inv s) (tenantId networkId : ℕ)
    (hok : keepsLinks s (.deleteNetwork tenantId networkId) = true) :
    Inv (deleteStep s tenantId networkId) := by
  unfold VmNetworks.deleteStep
  split
  case h_2 => exact h
  case h_1 db hdelete =>
    obtain ⟨network, hget, htenant, hdefault, rfl⟩ := deleteNetwork_eq_ok hdelete
    have hfree : s.attached networkId network = false := by
      simpa [keepsLinks, tenantNetwork?, hget, htenant, hdefault] using hok
    refine h.of_grows ?_ ⟨fun id vm hget => ⟨vm, hget, rfl⟩, fun id old hold => ?_⟩
      fun _ _ hrun => hrun
    · refine h.linked.of_targets fun id old hold href => ⟨old, ?_, fun vm hgood => hgood⟩
      show (s.db.tenantNetworks.modify networkId .delete).get? id = some old
      rw [Serial.get?_modify, if_neg (not_referred_of_attached hfree href).1]
      exact hold
    · show ∃ network', (s.db.tenantNetworks.modify networkId .delete).get? id = some network' ∧ _
      replace hold : s.db.tenantNetworks.get? id = some old := hold
      rw [Serial.get?_modify]
      by_cases hid : id = networkId
      · exact ⟨old.delete, by rw [if_pos hid, hold, Option.map_some], rfl⟩
      · exact ⟨old, by rw [if_neg hid, hold], rfl⟩

theorem Inv.step {e : Event} (h : Inv s) (hok : keepsLinks s e = true) : Inv (step s e) := by
  cases e with
  | openProvision call tenantId request =>
    simp only [VmNetworks.step, openStep]
    split
    · exact ⟨h.linked, h.runs⟩
    · exact h
  | insertVm call templateDiskSize => exact h.insertStep call templateDiskSize
  | beginVm run vmId data => exact h.beginStep vmId data
  | assignNetwork run found => exact h.assignStep found
  | commitVm run diskSizeMb => exact h.commitStep diskSizeMb hok
  | failVm run message => exact h.failStep message hok
  | createNetwork locks tenantId name => exact h.createStep locks tenantId name
  | deleteNetwork tenantId networkId => exact h.deleteStep tenantId networkId hok

/-- A step that frees no subnet. -/
theorem SubnetsKept.of_allocated
    (h : ∀ id row row', s.db.globalIpPool.get? id = some row → row.status = .allocated →
      s'.db.globalIpPool.get? id = some row' → row'.status = .allocated) : SubnetsKept s s' := by
  intro poolId row row' hget hallocated hget' hfree
  have hstill := h poolId row row' hget hallocated hget'
  rw [hfree] at hstill
  cases hstill

theorem SubnetsKept.of_db (h : s'.db = s.db) : SubnetsKept s s' := by
  refine .of_allocated fun id row row' hget hallocated hget' => ?_
  rw [h, hget] at hget'
  rwa [← Option.some.inj hget']

theorem SubnetsKept.createStep (locks : Locks) (tenantId : ℕ) (name : String) :
    SubnetsKept s (createStep s locks tenantId name) := by
  unfold VmNetworks.createStep
  split
  case h_2 => exact .of_db rfl
  case h_1 message db hcreate =>
    obtain ⟨_, subnetId, _, _, _, _, -, -, -, -, rfl⟩ := createNetwork_eq_ok hcreate
    refine .of_allocated fun id row row' hget hallocated hget' => ?_
    simp only [Serial.get?_modify, hget, Option.map_some] at hget'
    by_cases hid : id = subnetId
    · rw [if_pos hid, if_pos hid] at hget'
      obtain rfl := Option.some.inj hget'
      rfl
    · rw [if_neg hid, if_neg hid] at hget'
      obtain rfl := Option.some.inj hget'
      exact hallocated

theorem SubnetsKept.deleteStep (tenantId networkId : ℕ)
    (hok : keepsLinks s (.deleteNetwork tenantId networkId) = true) :
    SubnetsKept s (deleteStep s tenantId networkId) := by
  unfold VmNetworks.deleteStep
  split
  case h_2 => exact .of_db rfl
  case h_1 db hdelete =>
    obtain ⟨network, hget, htenant, hdefault, rfl⟩ := deleteNetwork_eq_ok hdelete
    have hfree : s.attached networkId network = false := by
      simpa [keepsLinks, tenantNetwork?, hget, htenant, hdefault] using hok
    intro poolId row row' hrow hallocated hrow' hstatus id other href hother heq
    replace hrow' : (releaseNetworkSubnet s.db network).globalIpPool.get? poolId = some row' :=
      hrow'
    unfold releaseNetworkSubnet at hrow'
    split at hrow'
    case h_1 released hreleased =>
      obtain ⟨hpool, -⟩ := Option.filter_eq_some_iff.mp hreleased
      rw [releaseSubnet, Serial.get?_modify] at hrow'
      by_cases hsame : poolId = released
      · -- the subnet that is returned is that of the deleted network
        refine (not_referred_of_attached hfree href).2 ?_ other hother ?_
        · rw [hreleased]
          exact Option.some_ne_none _
        · rw [heq, hpool, hsame]
      · rw [if_neg hsame, hrow] at hrow'
        obtain rfl := Option.some.inj hrow'
        rw [hstatus] at hallocated
        cases hallocated
    case h_2 =>
      rw [hrow] at hrow'
      obtain rfl := Option.some.inj hrow'
      rw [hstatus] at hallocated
      cases hallocated

/-- Only the deletion of a network returns a subnet, and then no VM uses it. -/
theorem SubnetsKept.step {e : Event} (hok : keepsLinks s e = true) :
    SubnetsKept s (VmNetworks.step s e) := by
  cases e with
  | openProvision call tenantId request =>
    refine .of_db ?_
    simp only [VmNetworks.step, openStep]
    split <;> rfl
  | insertVm call templateDiskSize => exact .of_db (insertStep_cases s call templateDiskSize).1
  | beginVm run vmId data =>
    refine .of_db ?_
    simp only [VmNetworks.step, beginStep]
    split <;> rfl
  | assignNetwork run found =>
    refine .of_db ?_
    simp only [VmNetworks.step, assignStep]
    repeat' split
    all_goals rfl
  | commitVm run diskSizeMb =>
    refine .of_db ?_
    simp only [VmNetworks.step, commitStep]
    split <;> rfl
  | failVm run message =>
    refine .of_db ?_
    simp only [VmNetworks.step, failStep]
    split <;> rfl
  | createNetwork locks tenantId name => exact .createStep locks tenantId name
  | deleteNetwork tenantId networkId => exact .deleteStep tenantId networkId hok

/-- In a run whose steps keep the links, every network of a VM is a live one of its tenant, and
no subnet is returned while a VM is attached to its network. -/
theorem networks_kept (h : machine.Reachable (fun s e => keepsLinks s e = true) s) :
    Linked s ∧ ∀ e, keepsLinks s e = true → SubnetsKept s (machine.step s e) := by
  refine ⟨?_, fun e hok => .step hok⟩
  have hinv : Inv s := by
    refine h.invariant Inv (fun s hinit => ?_) fun s e hinv hok => hinv.step hok
    obtain ⟨hlinked, -, hruns⟩ := hinit
    refine ⟨hlinked, fun run linkRun hrun => ?_⟩
    rw [hruns, Table.get?_empty] at hrun
    cases hrun
  exact hinv.linked

/-- A network of the first tenant, with the pool entry of the same number. -/
def smallNetwork (ipPoolId : ℕ) (cidr gatewayIp : String) (isDefault : Bool) : TenantNetwork where
  tenantId := 1
  podId := 1
  ipPoolId := some ipPoolId
  cidr := cidr
  gatewayIp := gatewayIp
  vlanId := if isDefault then none else some 10
  name := "net"
  isDefault := isDefault
  status := .active
  providerRef := none
  opnsenseInterface := none

/-- A tenant with its default network and another one; a third subnet is free. -/
def smallState : State where
  db :=
    { tenants := Serial.empty.add
        { status := .active, isVerified := true, bridgeId := some 100, podId := some 1,
          opnsenseVmId := none, opnsenseVmName := none, lanIp := none, wanIp := none,
          opnsenseApiKey := none, opnsenseApiSecret := none, error := none }
      pods := Serial.empty.add { status := .active, maxTenants := 100, tenantCount := 1 }
      bridgePool := ∅
      globalIpPool := ((Serial.empty.add
        ⟨"172.16.0.0/24", "172.16.0.1", .safe, .allocated, some 1⟩).add
        ⟨"172.16.1.0/24", "172.16.1.1", .safe, .allocated, some 2⟩).add
        ⟨"172.16.2.0/24", "172.16.2.1", .safe, .free, none⟩
      vlanAllocations := ((∅ : Table (ℕ × ℕ) VlanAllocation).insert (1, 10)
        ⟨.allocated, some 2⟩).insert (1, 11) ⟨.free, none⟩
      tenantNetworks := (Serial.empty.add
        (smallNetwork 1 "172.16.0.0/24" "172.16.0.1" true)).add
        (smallNetwork 2 "172.16.1.0/24" "172.16.1.1" false) }
  vms := .empty
  requests := ∅
  runs := ∅

theorem init_smallState : machine.init smallState := by
  refine ⟨fun id vm networkId hget => ?_, rfl, rfl⟩
  cases hget

/-- A VM with a static address in the second network is provisioned. -/
def smallProvision : List Event :=
  [.openProvision 1 1 ⟨"web", 1, 1024, .static, some "172.16.1.9", some 2, none⟩, .insertVm 1 20,
    .beginVm 1 1 ⟨none, "ubuntu", some "172.16.1.9", true⟩, .assignNetwork 1 none,
    .commitVm 1 none]

/-- A network is created and deleted beside the one that a VM is provisioned in. -/
def smallRun : List Event :=
  .createNetwork .none 1 "app" :: smallProvision ++ [.deleteNetwork 1 3]

theorem networks_kept_small :
    Linked (machine.run smallState smallRun) ∧
      ∀ e, keepsLinks (machine.run smallState smallRun) e = true →
        SubnetsKept (machine.run smallState smallRun)
          (machine.step (machine.run smallState smallRun) e) :=
  networks_kept ((Machine.Reachable.start init_smallState).run (by decide +kernel))

/-- The network of a VM is deleted. -/
theorem networks_not_kept : ¬ ∀ s, machine.Reachable Machine.anyStep s →
    Linked s ∧ ∀ e, SubnetsKept s (machine.step s e) := by
  intro h
  have hlinked := (h _ (Machine.reachable_run init_smallState
    (smallProvision ++ [.deleteNetwork 1 2]))).1
  have hvm : ((machine.run smallState (smallProvision ++ [.deleteNetwork 1 2])).vms.get? 1).any
      (fun vm => vm.networkId = some 2) = true := by decide +kernel
  have hdead : ((machine.run smallState
      (smallProvision ++ [.deleteNetwork 1 2])).network? 2).all (fun network => !network.live) =
        true := by decide +kernel
  obtain ⟨vm, hget, hid⟩ := (Option.any_eq_true _ _).mp hvm
  obtain ⟨network, hnetwork, -, hlive⟩ := hlinked 1 vm 2 hget (of_decide_eq_true hid)
  rw [hnetwork, Option.all_some, hlive] at hdead
  cases hdead

end VmNetworks

end ProxmoxIaas
