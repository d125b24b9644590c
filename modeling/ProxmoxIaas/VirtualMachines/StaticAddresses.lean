import ProxmoxIaas.Foundation.Machine
import ProxmoxIaas.Foundation.UniqueKeys
import ProxmoxIaas.VirtualMachines.Provision

/-!
# Static Addresses

A request for a VM with a static address is checked in two places: the schema wants the address
to be there, and the endpoint compares it with the network that it has resolved. Neither looks
at the other VMs. The request inserts its row in a later transaction, and hands the network and
the address to the task.

Rows are followed from their insertion to their deletion, and networks through everything that
writes their rows. The checks of the quota and of the name between the two transactions can only
stop a request, so a request that they stop is one that never inserts its row. Addresses that the
task or a start find out later are not static ones and are left out.

## Main results

- `usable_of_reachable`: static addresses are usable and unique where each new one is free.
- `not_usable`: two VMs get the same address.
-/

namespace ProxmoxIaas

/-- The lookup of a network, with its id. -/
def resolveTarget (db : Db) (tenantId : ℕ) (networkId : Option ℕ) :
    Except ApiError (ℕ × TenantNetwork) :=
  match truthy networkId with
  | some networkId =>
    (Except.ofOption (.http 404 "Network not found or does not belong to this tenant")
      ((db.tenantNetworks.get? networkId).filter fun network =>
        network.tenantId = tenantId ∧ network.status = .active)).map (networkId, ·)
  | none =>
    Except.ofOption (.http 400 "Tenant has no default network — not fully provisioned")
      (db.tenantNetworks.first? fun _ network =>
        network.tenantId = tenantId ∧ network.isDefault = true ∧ network.status = .active)

/-- The checks up to the quota, with the id of the network. -/
def provisionTarget (db : Db) (tenantId : ℕ) (request : VMProvisionRequest) :
    Except ApiError (ℕ × TenantNetwork) := do
  let tenant ← Except.ofOption (.http 404 "Tenant not found") (db.tenants.get? tenantId)
  Except.require (.http 400
    "Tenant not provisioned - no pod assigned. Please wait for tenant approval.")
    (truthy tenant.podId ≠ none)
  let (networkId, network) ← resolveTarget db tenantId request.networkId
  checkAddress network request
  return (networkId, network)

/-- The validator of the schema: a static address is not empty. It is not run for an address that
is left out. -/
def VMProvisionRequest.accepted (request : VMProvisionRequest) : Bool :=
  !(request.ipMode = .static && request.ipAddress = some "")

/-- The network of the endpoint is the one that is looked up. -/
theorem resolveNetwork_eq (db : Db) (tenantId : ℕ) (networkId : Option ℕ) :
    resolveNetwork db tenantId networkId = (resolveTarget db tenantId networkId).map (·.2) := by
  unfold resolveNetwork resolveTarget
  cases truthy networkId with
  | some id =>
    dsimp only
    cases (db.tenantNetworks.get? id).filter fun network =>
      network.tenantId = tenantId ∧ network.status = .active <;> rfl
  | none =>
    dsimp only
    cases db.tenantNetworks.first? fun _ network =>
      network.tenantId = tenantId ∧ network.isDefault = true ∧ network.status = .active <;> rfl

/-- The checks of the endpoint are those of the model of the provisioning. -/
theorem provisionNetwork_eq (db : Db) (tenantId : ℕ) (request : VMProvisionRequest) :
    provisionNetwork db tenantId request =
      (provisionTarget db tenantId request).map (·.2) := by
  unfold provisionNetwork provisionTarget
  rw [resolveNetwork_eq]
  simp only [bind, Except.bind, pure, Except.pure]
  split <;> try rfl
  split <;> try rfl
  cases resolveTarget db tenantId request.networkId with
  | error e => rfl
  | ok target =>
    dsimp only [Except.map]
    split <;> rfl

/-- A static address is usable in a network: it is one of its range, and neither the network, nor
the broadcast, nor the gateway address. -/
def Fits (network : TenantNetwork) (ipAddress : String) : Prop :=
  ∃ ip net, Ipv4.parse? ipAddress.toList = some ip ∧
    Ipv4Net.parse? network.cidr.toList = some net ∧ ip ∈ net ∧ ip.value ≠ net.network ∧
    ip.value ≠ net.broadcast ∧ Ipv4.parse? network.gatewayIp.toList ≠ some ip

/-- An address that passes the validation is usable. -/
theorem fits_of_checkStaticIp {network : TenantNetwork} {ipAddress : String}
    (h : checkStaticIp network ipAddress = .ok ()) : Fits network ipAddress := by
  unfold checkStaticIp at h
  split at h
  case h_1 ip net hip hnet =>
    simp only [Except.bind_eq_ok_iff, Except.require_eq_ok_iff] at h
    obtain ⟨-, hmem, -, hgateway, hnetwork, hbroadcast⟩ := h
    refine ⟨ip, net, hip, hnet, hmem, hnetwork, hbroadcast, fun hparse => hgateway ?_⟩
    exact Ipv4.text_of_parse? hparse
  case h_2 => cases h
  case h_3 => cases h

/-- The static address of a request that passes the checks is usable in its network. -/
theorem provisionTarget_eq_ok {db : Db} {tenantId networkId : ℕ} {request : VMProvisionRequest}
    {network : TenantNetwork} (haccepted : request.accepted = true)
    (h : provisionTarget db tenantId request = .ok (networkId, network)) :
    db.tenantNetworks.get? networkId = some network ∧
      ∀ ipAddress, request.storedAddress = some ipAddress → Fits network ipAddress := by
  simp only [provisionTarget, Except.bind_eq_ok_iff, Except.pure_eq_ok_iff, Prod.exists,
    Prod.mk.injEq] at h
  obtain ⟨_, -, _, -, id, found, htarget, _, hcheck, rfl, rfl⟩ := h
  refine ⟨?_, fun ipAddress hstored => ?_⟩
  · unfold resolveTarget at htarget
    split at htarget
    case h_1 id' _ =>
      cases hget : (db.tenantNetworks.get? id').filter fun network =>
          network.tenantId = tenantId ∧ network.status = .active with
      | none => rw [hget] at htarget; cases htarget
      | some row =>
        rw [hget] at htarget
        cases htarget
        exact (Option.filter_eq_some_iff.mp hget).1
    case h_2 =>
      exact (Serial.first?_eq_some (Except.ofOption_eq_ok_iff.mp htarget)).1
  · unfold VMProvisionRequest.storedAddress at hstored
    split at hstored
    case isFalse => cases hstored
    case isTrue hstatic =>
      -- the validator of the schema and the condition of the endpoint are about the same texts
      have hnonempty : ipAddress ≠ "" := by
        rintro rfl
        simp [VMProvisionRequest.accepted, hstatic, hstored] at haccepted
      have htruthy : truthyText request.ipAddress = some ipAddress := by
        rw [truthyText, hstored, Option.filter_some, if_pos (by simpa using hnonempty)]
      rw [checkAddress, hstatic, htruthy] at hcheck
      exact fits_of_checkStaticIp hcheck

namespace StaticAddresses

/-- What a VM is created with: the parts of `provision_data` that place it. -/
structure Placement where
  /-- The network that the VM is attached to. -/
  networkId : ℕ
  /-- The static address. -/
  ipAddress : Option String
  deriving DecidableEq, Repr

/-- A request that has passed its checks. -/
structure OpenRequest where
  /-- The tenant. -/
  tenantId : ℕ
  /-- The body of the request. -/
  request : VMProvisionRequest
  /-- The network that was resolved. -/
  networkId : ℕ
  deriving DecidableEq, Repr

/-- The committed tables, the placements of the VMs, and the requests in flight. -/
structure State where
  /-- The committed provisioning tables. -/
  db : Db
  /-- Table `vms`. -/
  vms : Serial VM
  /-- What the VMs were created with. -/
  placements : Table ℕ Placement
  /-- Requests for a VM that have passed their checks. -/
  requests : Table ℕ OpenRequest

/-- The lookup of the networks. -/
abbrev State.network? (s : State) : ℕ → Option TenantNetwork := s.db.tenantNetworks.get?

/-- The steps of the system. Requests are named by a number of the caller's choice. -/
inductive Event where
  /-- `provision_vm` resolves the network and validates the address. -/
  | openProvision (call tenantId : ℕ) (request : VMProvisionRequest)
  /-- `provision_vm` inserts the row; the template has a disk of some GiB. -/
  | insertVm (call templateDiskSize : ℕ)
  /-- The row of a VM is deleted. -/
  | deleteVm (vmId : ℕ)
  /-- `create_network`. -/
  | createNetwork (locks : Locks) (tenantId : ℕ) (name : String)
  /-- `delete_network`. -/
  | deleteNetwork (tenantId networkId : ℕ)
  /-- A task writes the status of a network. -/
  | setNetworkStatus (networkId : ℕ) (status : NetworkStatus)

/-- Open a request that the schema accepts and that passes the checks. -/
def openStep (s : State) (call tenantId : ℕ) (request : VMProvisionRequest) : State :=
  if request.accepted then
    match provisionTarget s.db tenantId request with
    | .ok (networkId, _) =>
      { s with requests := s.requests.insert call { tenantId, request, networkId } }
    | .error _ => s
  else s

/-- Insert the row of a request, and hand its network and address to the task. -/
def insertStep (s : State) (call templateDiskSize : ℕ) : State :=
  match s.requests.get? call with
  | some { tenantId, request, networkId } =>
    let diskSizeMb := (request.diskSizeGb.getD templateDiskSize) * 1024
    match createVm ⟨s.vms, s.db.tenantNetworks⟩ tenantId request.name diskSizeMb
        request.storedAddress with
    | some vmDb =>
      { s with
        vms := vmDb.vms
        placements := s.placements.insert s.vms.next
          { networkId, ipAddress := request.storedAddress }
        requests := s.requests.erase call }
    | none => { s with requests := s.requests.erase call }
  | none => s

/-- Create a network. -/
def createStep (s : State) (locks : Locks) (tenantId : ℕ) (name : String) : State :=
  match ProxmoxIaas.createNetwork s.db locks tenantId name with
  | .ok (_, db) => { s with db }
  | .error _ => s

/-- Delete a network. -/
def deleteStep (s : State) (tenantId networkId : ℕ) : State :=
  match ProxmoxIaas.deleteNetwork s.db tenantId networkId with
  | .ok db => { s with db }
  | .error _ => s

/-- The state after a step. -/
def step (s : State) : Event → State
  | .openProvision call tenantId request => openStep s call tenantId request
  | .insertVm call templateDiskSize => insertStep s call templateDiskSize
  | .deleteVm vmId => { s with vms := s.vms.deleteWhere fun id _ => id = vmId }
  | .createNetwork locks tenantId name => createStep s locks tenantId name
  | .deleteNetwork tenantId networkId => deleteStep s tenantId networkId
  | .setNetworkStatus networkId status =>
    { s with db := ProxmoxIaas.setNetworkStatus s.db networkId status }

/-- The network and the static address of a live VM. -/
def State.binding (s : State) (vmId : ℕ) : Option (ℕ × Ipv4) := do
  let _ ← s.vms.get? vmId
  let placement ← s.placements.get? vmId
  let ip ← Ipv4.parse? (← placement.ipAddress).toList
  return (placement.networkId, ip)

/-- A static address is usable in the network with an id. -/
def FitsAt (s : State) (networkId : ℕ) (ipAddress : Option String) : Prop :=
  ∀ ip, ipAddress = some ip → ∃ network, s.network? networkId = some network ∧ Fits network ip

/-- Static addresses are usable and unique. -/
structure Usable (s : State) : Prop where
  /-- The static address of a live VM is usable in its network. -/
  fits : ∀ vmId vm placement, s.vms.get? vmId = some vm →
    s.placements.get? vmId = some placement → FitsAt s placement.networkId placement.ipAddress
  /-- No two live VMs of a network have the same static address. -/
  unique : UniqueKeys.Unique s.binding

/-- The system, started with usable addresses and no request in flight. -/
def machine : Machine State Event where
  init s := Usable s ∧ s.requests = ∅
  step := step

/-- The condition on a step: the static address of a row that is inserted is not the one of a live
VM of the same network. -/
def freeAddress (s : State) : Event → Bool
  | .insertVm call _ => (s.requests.get? call).all fun openRequest =>
    (openRequest.request.storedAddress.bind (Ipv4.parse? ·.toList)).all fun ip =>
      (s.vms.first? fun vmId _ => s.binding vmId = some (openRequest.networkId, ip)).isNone
  | _ => true

/-- The part of the invariant that every step keeps: the static addresses of live VMs and of
requests are usable in their networks. -/
structure Fitting (s : State) : Prop where
  placements : ∀ vmId vm placement, s.vms.get? vmId = some vm →
    s.placements.get? vmId = some placement → FitsAt s placement.networkId placement.ipAddress
  requests : ∀ call openRequest, s.requests.get? call = some openRequest →
    FitsAt s openRequest.networkId openRequest.request.storedAddress

/-- Networks stay from one state to another, with their ranges and gateways. -/
def NetworksKept (s s' : State) : Prop :=
  ∀ id network, s.network? id = some network → ∃ network', s'.network? id = some network' ∧
    network'.cidr = network.cidr ∧ network'.gatewayIp = network.gatewayIp

variable {s s' : State}

theorem FitsAt.mono {networkId : ℕ} {ipAddress : Option String} (h : FitsAt s networkId ipAddress)
    (hkept : NetworksKept s s') : FitsAt s' networkId ipAddress := by
  intro ip hip
  obtain ⟨network, hget, hfits⟩ := h ip hip
  obtain ⟨network', hget', hcidr, hgateway⟩ := hkept networkId network hget
  refine ⟨network', hget', ?_⟩
  unfold Fits
  rw [hcidr, hgateway]
  exact hfits

/-- A step of the networks keeps what fits them. -/
theorem Fitting.of_networks (h : Fitting s) (hkept : NetworksKept s s') (hvms : s'.vms = s.vms)
    (hplacements : s'.placements = s.placements) (hrequests : s'.requests = s.requests) :
    Fitting s' where
  placements vmId vm placement hvm hplacement := by
    rw [hvms] at hvm
    rw [hplacements] at hplacement
    exact (h.placements vmId vm placement hvm hplacement).mono hkept
  requests call openRequest hget := by
    rw [hrequests] at hget
    exact (h.requests call openRequest hget).mono hkept

/-- A new network takes no row of another one. -/
theorem networksKept_createStep (s : State) (locks : Locks) (tenantId : ℕ) (name : String) :
    NetworksKept s (createStep s locks tenantId name) := by
  intro id network hget
  unfold createStep
  split
  case h_2 => exact ⟨network, hget, rfl, rfl⟩
  case h_1 message db hcreate =>
    obtain ⟨_, new, -, -, -, hadd⟩ := createNetwork_offered hcreate
    have hold : id ≠ s.db.tenantNetworks.next := by
      rintro rfl
      rw [State.network?, Serial.get?_next] at hget
      cases hget
    refine ⟨network, ?_, rfl, rfl⟩
    rw [State.network?, hadd, Serial.get?_add, if_neg hold]
    exact hget

/-- A network whose row is written keeps its range and gateway. -/
theorem networksKept_modify {f : TenantNetwork → TenantNetwork} {networkId : ℕ}
    (hcidr : ∀ network, (f network).cidr = network.cidr)
    (hgateway : ∀ network, (f network).gatewayIp = network.gatewayIp)
    (hdb : s'.db.tenantNetworks = s.db.tenantNetworks.modify networkId f) :
    NetworksKept s s' := by
  intro id network hget
  replace hget : s.db.tenantNetworks.get? id = some network := hget
  rw [State.network?, hdb, Serial.get?_modify]
  by_cases hid : id = networkId
  · refine ⟨f network, ?_, hcidr network, hgateway network⟩
    rw [if_pos hid, hget, Option.map_some]
  · exact ⟨network, by rw [if_neg hid, hget], rfl, rfl⟩

/-- What the insertion of a row does: it can fail, and it places the VM otherwise. -/
theorem insertStep_cases {call : ℕ} {openRequest : OpenRequest}
    (h : s.requests.get? call = some openRequest) (templateDiskSize : ℕ) :
    insertStep s call templateDiskSize = { s with requests := s.requests.erase call } ∨
      ∃ vm, insertStep s call templateDiskSize =
        { s with
          vms := s.vms.add vm
          placements := s.placements.insert s.vms.next
            { networkId := openRequest.networkId
              ipAddress := openRequest.request.storedAddress }
          requests := s.requests.erase call } := by
  unfold insertStep
  rw [h]
  dsimp only
  unfold createVm
  split
  case h_1 vmDb hcreate =>
    split at hcreate
    case h_1 => cases hcreate
    case h_2 =>
      obtain rfl := Option.some.inj hcreate
      exact Or.inr ⟨_, rfl⟩
  case h_2 => exact Or.inl rfl

theorem Fitting.openStep (h : Fitting s) (call tenantId : ℕ) (request : VMProvisionRequest) :
    Fitting (openStep s call tenantId request) := by
  unfold StaticAddresses.openStep
  split
  case isFalse => exact h
  case isTrue haccepted =>
    split
    case h_2 => exact h
    case h_1 networkId network htarget =>
      obtain ⟨hget, hfits⟩ := provisionTarget_eq_ok haccepted htarget
      refine ⟨h.placements, fun call' openRequest hopen => ?_⟩
      rcases Table.get?_insert_eq_some.mp hopen with ⟨-, rfl⟩ | ⟨-, hopen⟩
      · exact fun ip hip => ⟨network, hget, hfits ip hip⟩
      · exact h.requests call' openRequest hopen

theorem Fitting.insertStep (h : Fitting s) (call templateDiskSize : ℕ) :
    Fitting (insertStep s call templateDiskSize) := by
  cases hget : s.requests.get? call with
  | none =>
    unfold StaticAddresses.insertStep
    rw [hget]
    exact h
  | some openRequest =>
    have hrequests : ∀ call' (other : OpenRequest),
        Table.get? (s.requests.erase call) call' = some other →
          FitsAt s other.networkId other.request.storedAddress := by
      intro call' other hother
      exact h.requests call' other (Table.get?_erase_eq_some.mp hother).2
    rcases insertStep_cases hget templateDiskSize with heq | ⟨vm, heq⟩ <;> rw [heq]
    · exact ⟨h.placements, hrequests⟩
    · refine ⟨fun vmId row placement hrow hplacement => ?_, hrequests⟩
      rcases Table.get?_insert_eq_some.mp hplacement with ⟨-, rfl⟩ | ⟨hne, hplacement⟩
      · exact h.requests call openRequest hget
      · replace hrow : (s.vms.add vm).get? vmId = some row := hrow
        rw [Serial.get?_add, if_neg hne] at hrow
        exact h.placements vmId row placement hrow hplacement

/-- Every step keeps the static addresses usable. -/
theorem Fitting.step (h : Fitting s) (e : Event) : Fitting (step s e) := by
  cases e with
  | openProvision call tenantId request => exact h.openStep call tenantId request
  | insertVm call templateDiskSize => exact h.insertStep call templateDiskSize
  | deleteVm vmId =>
    refine ⟨fun id vm placement hvm hplacement => ?_, h.requests⟩
    replace hvm : (s.vms.deleteWhere fun id _ => id = vmId).get? id = some vm := hvm
    rw [Serial.get?_deleteWhere, Option.filter_eq_some_iff] at hvm
    exact h.placements id vm placement hvm.1 hplacement
  | createNetwork locks tenantId name =>
    refine h.of_networks (networksKept_createStep s locks tenantId name) ?_ ?_ ?_ <;>
    · simp only [StaticAddresses.step, createStep]
      split <;> rfl
  | deleteNetwork tenantId networkId =>
    simp only [StaticAddresses.step, deleteStep]
    split
    case h_2 => exact h
    case h_1 db hdelete =>
      obtain ⟨network, -, -, -, rfl⟩ := deleteNetwork_eq_ok hdelete
      exact h.of_networks (networksKept_modify (f := .delete) (fun _ => rfl) (fun _ => rfl) rfl)
        rfl rfl rfl
  | setNetworkStatus networkId status =>
    exact h.of_networks (networksKept_modify (f := fun network => { network with status := status })
      (fun _ => rfl) (fun _ => rfl) rfl) rfl rfl rfl

/-- A binding is made of the row and the placement. -/
theorem binding_eq_some_iff {vmId networkId : ℕ} {ip : Ipv4} :
    s.binding vmId = some (networkId, ip) ↔ (s.vms.get? vmId).isSome = true ∧
      ∃ placement ipAddress, s.placements.get? vmId = some placement ∧
        placement.networkId = networkId ∧ placement.ipAddress = some ipAddress ∧
        Ipv4.parse? ipAddress.toList = some ip := by
  simp only [State.binding, Option.bind_eq_bind, Option.bind_eq_some_iff, Option.pure_def,
    Option.some.injEq, Prod.mk.injEq, Option.isSome_iff_exists]
  constructor
  · rintro ⟨vm, hvm, placement, hplacement, ipAddress, haddress, found, hparse, hnetwork, rfl⟩
    exact ⟨⟨vm, hvm⟩, placement, ipAddress, hplacement, hnetwork, haddress, hparse⟩
  · rintro ⟨⟨vm, hvm⟩, placement, ipAddress, hplacement, hnetwork, haddress, hparse⟩
    exact ⟨vm, hvm, placement, hplacement, ipAddress, haddress, ip, hparse, hnetwork, rfl⟩

/-- The binding of a VM is given by its row and its placement. -/
theorem binding_congr {vmId : ℕ} (hvms : s'.vms.get? vmId = s.vms.get? vmId)
    (hplacements : s'.placements.get? vmId = s.placements.get? vmId) :
    s'.binding vmId = s.binding vmId := by
  rw [State.binding, State.binding, hvms, hplacements]

/-- A free address is not the one of a live VM of the network. -/
theorem not_bound_of_freeAddress {call templateDiskSize : ℕ} {openRequest : OpenRequest}
    (hget : s.requests.get? call = some openRequest)
    (hok : freeAddress s (.insertVm call templateDiskSize) = true) {ipAddress : String} {ip : Ipv4}
    (hstored : openRequest.request.storedAddress = some ipAddress)
    (hparse : Ipv4.parse? ipAddress.toList = some ip) (vmId : ℕ) :
    s.binding vmId ≠ some (openRequest.networkId, ip) := by
  intro hbound
  simp only [freeAddress, hget, Option.all_some, hstored, Option.bind_some, hparse,
    Option.isNone_iff_eq_none, Serial.first?_eq_none_iff, decide_eq_false_iff_not] at hok
  obtain ⟨hvm, -⟩ := binding_eq_some_iff.mp hbound
  obtain ⟨vm, hvm⟩ := Option.isSome_iff_exists.mp hvm
  exact hok vmId vm hvm hbound

theorem unique_insertStep (h : UniqueKeys.Unique s.binding) (call templateDiskSize : ℕ)
    (hok : freeAddress s (.insertVm call templateDiskSize) = true) :
    UniqueKeys.Unique (insertStep s call templateDiskSize).binding := by
  cases hget : s.requests.get? call with
  | none =>
    unfold insertStep
    rw [hget]
    exact h
  | some openRequest =>
    rcases insertStep_cases hget templateDiskSize with heq | ⟨vm, heq⟩ <;> rw [heq]
    · exact h
    · refine h.write s.vms.next (fun vmId key hne hkey => ?_) fun vmId key hne hkey => ?_
      · rwa [binding_congr (s := s)] at hkey
        · exact (Serial.get?_add ..).trans (if_neg hne)
        · exact (Table.get?_insert ..).trans (if_neg hne)
      · obtain ⟨networkId, ip⟩ := key
        obtain ⟨-, placement, ipAddress, hplacement, hnetwork, haddress, hparse⟩ :=
          binding_eq_some_iff.mp hkey
        replace hplacement := (Table.get?_insert ..).symm.trans hplacement
        rw [if_pos rfl] at hplacement
        obtain rfl := Option.some.inj hplacement
        rw [← hnetwork]
        exact not_bound_of_freeAddress hget hok haddress hparse vmId

/-- Every step to a free address keeps the static addresses unique. -/
theorem unique_step (h : UniqueKeys.Unique s.binding) {e : Event} (hok : freeAddress s e = true) :
    UniqueKeys.Unique (step s e).binding := by
  cases e with
  | insertVm call templateDiskSize => exact unique_insertStep h call templateDiskSize hok
  | deleteVm vmId =>
    refine h.of_le fun id key hkey => ?_
    obtain ⟨networkId, ip⟩ := key
    rw [binding_eq_some_iff] at hkey ⊢
    refine ⟨?_, hkey.2⟩
    replace hkey : ((s.vms.deleteWhere fun id _ => id = vmId).get? id).isSome = true := hkey.1
    rw [Serial.get?_deleteWhere] at hkey
    obtain ⟨vm, hvm⟩ := Option.isSome_iff_exists.mp hkey
    rw [(Option.filter_eq_some_iff.mp hvm).1, Option.isSome_some]
  | openProvision call tenantId request =>
    refine h.of_le fun id key hkey => ?_
    rwa [binding_congr (s := s)] at hkey <;>
    · simp only [step, openStep]
      repeat' split
      all_goals rfl
  | createNetwork locks tenantId name =>
    refine h.of_le fun id key hkey => ?_
    rwa [binding_congr (s := s)] at hkey <;>
    · simp only [step, createStep]
      split <;> rfl
  | deleteNetwork tenantId networkId =>
    refine h.of_le fun id key hkey => ?_
    rwa [binding_congr (s := s)] at hkey <;>
    · simp only [step, deleteStep]
      split <;> rfl
  | setNetworkStatus networkId status => exact h

/-- In every run the static addresses of live VMs are usable in their networks. -/
theorem fitting_of_reachable {ok : State → Event → Prop} (h : machine.Reachable ok s) :
    Fitting s := by
  refine h.invariant Fitting (fun s hinit => ?_) fun s e hs _ => hs.step e
  obtain ⟨husable, hrequests⟩ := hinit
  refine ⟨husable.fits, fun call openRequest hget => ?_⟩
  rw [hrequests, Table.get?_empty] at hget
  cases hget

/-- In a run that inserts free addresses only, static addresses are usable and unique. -/
theorem usable_of_reachable (h : machine.Reachable (fun s e => freeAddress s e = true) s) :
    Usable s where
  fits := (fitting_of_reachable h).placements
  unique := h.invariant (fun s => UniqueKeys.Unique s.binding)
    (fun s (hinit : Usable s ∧ _) => hinit.1.unique) fun _ _ hs hok => unique_step hs hok

/-- A tenant with its default network. -/
def smallState : State where
  db :=
    { tenants := Serial.empty.add
        { status := .active, isVerified := true, bridgeId := some 100, podId := some 1,
          opnsenseVmId := none, opnsenseVmName := none, lanIp := none, wanIp := none,
          opnsenseApiKey := none, opnsenseApiSecret := none, error := none }
      pods := Serial.empty.add { status := .active, maxTenants := 100, tenantCount := 1 }
      bridgePool := ∅
      globalIpPool := Serial.empty.add
        ⟨"172.16.0.0/24", "172.16.0.1", .safe, .allocated, some 1⟩
      vlanAllocations := ∅
      tenantNetworks := Serial.empty.add
        { tenantId := 1, podId := 1, ipPoolId := some 1, cidr := "172.16.0.0/24",
          gatewayIp := "172.16.0.1", vlanId := none, name := "net", isDefault := true,
          status := .active, providerRef := none, opnsenseInterface := none } }
  vms := .empty
  placements := ∅
  requests := ∅

theorem init_smallState : machine.init smallState := by
  refine ⟨⟨fun vmId vm placement hvm => ?_, fun i j key hi => ?_⟩, rfl⟩
  · cases hvm
  · cases hi

/-- A VM with a static address is provisioned in the default network. -/
def provision (call : ℕ) (name ipAddress : String) : List Event :=
  [.openProvision call 1 ⟨name, 1, 1024, .static, some ipAddress, none, none⟩, .insertVm call 20]

theorem usable_small : Usable (machine.run smallState
    (provision 1 "web" "172.16.0.9" ++ provision 2 "db1" "172.16.0.10")) :=
  usable_of_reachable ((Machine.Reachable.start init_smallState).run (by decide +kernel))

/-- Two requests ask for the same address. -/
theorem not_usable : ¬ ∀ s, machine.Reachable Machine.anyStep s → Usable s := by
  intro h
  have hunique := (h _ (Machine.reachable_run init_smallState
    (provision 1 "web" "172.16.0.9" ++ provision 2 "db1" "172.16.0.9"))).unique
  have hweb : (machine.run smallState (provision 1 "web" "172.16.0.9" ++
      provision 2 "db1" "172.16.0.9")).binding 1 = some (1, ⟨172, 16, 0, 9⟩) := by decide +kernel
  have hdb : (machine.run smallState (provision 1 "web" "172.16.0.9" ++
      provision 2 "db1" "172.16.0.9")).binding 2 = some (1, ⟨172, 16, 0, 9⟩) := by decide +kernel
  exact absurd (hunique 1 2 _ hweb hdb) (by decide)

end StaticAddresses

end ProxmoxIaas
