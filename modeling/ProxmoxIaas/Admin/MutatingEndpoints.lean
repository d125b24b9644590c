import ProxmoxIaas.Iam.Permissions
import ProxmoxIaas.Iam.TenantResolution
import ProxmoxIaas.Provisioning.Networks
import ProxmoxIaas.VirtualMachines.Model

/-!
# Permissions of Mutating Endpoints

The endpoints that create and delete networks and those that act on a VM, each as one request:
the tenant is resolved, the caller is checked, and the work is done. The endpoints of networks
check nothing. Those of VMs all check the same permission, also the one that deletes.

## Main results

- `getCurrentTenant_revoke`, `hasPermission_revoked_iff`: what taking a permission away changes.
- `demands_iff`: an endpoint demands the permission that names its operation exactly under a
  condition on the request.
- `not_demands`: a user without any permission creates a network.
-/

namespace ProxmoxIaas.Endpoints

/-- The state that the endpoints read and write. -/
structure State where
  /-- The accounts and the activity of the tenants. -/
  access : AccessDb
  /-- The provisioning tables. -/
  net : Db
  /-- The dispatched messages of `create_opnsense_vlan`. -/
  messages : List VlanMessage
  /-- Table `vms`. -/
  vms : Serial VM
  /-- Column `owner_id` of `vms`, by the id of the row. -/
  owners : ℕ → Option ℕ
  /-- The machines on the hypervisor. -/
  hypervisor : Hypervisor

/-- A request for an action on a VM. -/
inductive VmRequest where
  /-- `start_vm`, `stop_vm` and `delete_vm`. -/
  | act (action : VmAction)
  /-- `restart_vm`. -/
  | restart
  deriving DecidableEq, Repr

/-- The word for an action in the text of a refusal. -/
def VmRequest.verb : VmRequest → String
  | .act .start => "start"
  | .act .stop => "stop"
  | .act (.delete _) => "delete"
  | .restart => "restart"

/-- The text of a refusal. -/
def VmRequest.refusal (request : VmRequest) : String :=
  s!"You can only {request.verb} your own VMs unless you have vm_admin or admin role"

/-- `validate_vm_action`. -/
def VmRequest.validate (vm : VM) : VmRequest → Except ApiError Unit
  | .act action => validateVmAction vm action
  | .restart => Except.require
      (.valueError s!"Cannot restart VM with status '{vm.status.text}'. VM must be running.")
      (vm.status = .running)

/-- The calls of an action to the hypervisor, in order. -/
def VmRequest.hypervisorCalls : VmRequest → List HypervisorCall
  | .act action => action.hypervisorCalls
  | .restart => [.stop, .start]

/-- What the provider of a VM does during an action. -/
structure ProviderOutcome where
  /-- The text of the error that it raises. -/
  failure : Option String
  /-- The number of calls that it has completed before it raises. -/
  made : ℕ
  /-- The address that a start sees. -/
  found : Option String
  deriving DecidableEq, Repr

/-- `handle_service_exception`: the status of a service error is read off its text. -/
def handleServiceException (text : String) : ApiError :=
  let has (part : String) : Bool :=
    (Text.lower text).toList.tails.any fun rest => part.toList.isPrefixOf rest
  if has "already exists" then .http 409 text
  else if has "not found" then .http 404 text
  else if has "invalid" || has "cannot" then .http 400 text
  else .http 500 "An internal error occurred"

/-- The reply to an error of the service. -/
def serviceReply : ApiError → ApiError
  | .http status detail => .http status detail
  | .valueError text => handleServiceException text

/-- The rows of VMs after an action is committed. -/
def commitVmRequest (s : State) (vmId : ℕ) (vm : VM) (found : Option String) :
    VmRequest → Serial VM
  | .act action =>
    (commitVmCall ⟨s.vms, s.net.tenantNetworks⟩ ⟨action, vmId, vm, []⟩
      (if vm.provider = "proxmox" then found else none)).vms
  | .restart => s.vms.modify vmId fun stored =>
      { stored with status := writeColumn (some vm) (·.status) .running stored.status }

/-- The logic of an action: it is validated, the provider is called, and the row is committed. -/
def runVmRequest (s : State) (vmId : ℕ) (vm : VM) (request : VmRequest)
    (outcome : ProviderOutcome) : Except ApiError Unit × State :=
  match request.validate vm with
  | .error e => (.error (serviceReply e), s)
  | .ok _ =>
    let id := if vm.provider = "proxmox" then truthy vm.proxmoxVmId else none
    let calls := id.elim [] fun _ => request.hypervisorCalls
    let after (made : List HypervisorCall) : Hypervisor :=
      made.foldl (fun hypervisor call => call.apply hypervisor (id.getD 0)) s.hypervisor
    match outcome.failure with
    | some text => (.error (handleServiceException text),
        { s with hypervisor := after (calls.take outcome.made) })
    | none => (.ok (), { s with
        hypervisor := after calls
        vms := commitVmRequest s vmId vm outcome.found request })

/-- The four endpoints that act on a VM: it must be one of the tenant, and the caller must own it
or have the permission to update VMs. -/
def vmEndpoint (s : State) (userId tenantId vmId : ℕ) (request : VmRequest)
    (outcome : ProviderOutcome) : Except ApiError Unit × State :=
  match (s.vms.get? vmId).filter fun vm => vm.tenantId = tenantId with
  | none => (.error (.http 404 "VM not found"), s)
  | some vm =>
    if hasPermission s.access.iam userId (some tenantId) "vm:update" = true ∨
        s.owners vmId = some userId then
      runVmRequest s vmId vm request outcome
    else (.error (.http 403 request.refusal), s)

/-- `create_network`, which checks nobody. -/
def createNetworkEndpoint (s : State) (tenantId : ℕ) (locks : Locks) (name : String) :
    Except ApiError Unit × State :=
  match createNetwork s.net locks tenantId name with
  | .error e => (.error e, s)
  | .ok (message, net) => (.ok (), { s with net, messages := s.messages ++ [message] })

/-- `delete_network`, which checks nobody. -/
def deleteNetworkEndpoint (s : State) (tenantId networkId : ℕ) : Except ApiError Unit × State :=
  match deleteNetwork s.net tenantId networkId with
  | .error e => (.error e, s)
  | .ok net => (.ok (), { s with net })

/-- The requests to mutating endpoints. -/
inductive Request where
  /-- `create_network`. -/
  | createNetwork (locks : Locks) (name : String)
  /-- `delete_network`. -/
  | deleteNetwork (networkId : ℕ)
  /-- An action on a VM, and what the provider does. -/
  | vm (vmId : ℕ) (request : VmRequest) (outcome : ProviderOutcome)

/-- The permission that names an action on a VM. -/
def VmRequest.permission : VmRequest → String
  | .act (.delete _) => "vm:delete"
  | _ => "vm:update"

/-- The permission that names the operation of a request. -/
def Request.permission : Request → String
  | .createNetwork _ _ => "network:create"
  | .deleteNetwork _ => "network:delete"
  | .vm _ request _ => request.permission

/-- The reply to a request in a tenant, and the state after it. -/
def dispatch (s : State) (userId tenantId : ℕ) : Request → Except ApiError Unit × State
  | .createNetwork locks name => createNetworkEndpoint s tenantId locks name
  | .deleteNetwork networkId => deleteNetworkEndpoint s tenantId networkId
  | .vm vmId request outcome => vmEndpoint s userId tenantId vmId request outcome

/-- The reply to a request, and the state after it. -/
def serve (s : State) (userId : ℕ) (headers : TenantHeaders) (request : Request) :
    Except ApiError Unit × State :=
  match getCurrentTenant s.access userId headers with
  | .error e => (.error e, s)
  | .ok tenantId => dispatch s userId tenantId request

/-! ## Taking a permission away -/

/-- Whether a permission of some name covers a required one. -/
def grants (required name : String) : Bool := name = "*" || covers required name

/-- The roles of a user lose every permission that covers a required one. -/
def revoked (db : IamDb) (userId : ℕ) (required : String) : IamDb :=
  { db with
    roles := db.roles.mapRows fun id role =>
      if db.userRoles.first? (fun _ userRole => userRole.userId = userId ∧ userRole.roleId = id) =
          none then role
      else { role with
        permissions := role.permissions.filter fun permissionId =>
          ¬ (db.permissions.get? permissionId).any (grants required) = true } }

/-- The state in which a user has lost a permission. -/
def State.revoke (s : State) (userId : ℕ) (required : String) : State :=
  { s with access := { s.access with iam := revoked s.access.iam userId required } }

/-- A request that succeeds needs the permission that names its operation: the user has it, and
without it the request is refused and changes nothing. -/
def Demands (s : State) (userId : ℕ) (headers : TenantHeaders) (request : Request) : Prop :=
  ∀ tenantId, getCurrentTenant s.access userId headers = .ok tenantId →
    (serve s userId headers request).1 = .ok () →
    hasPermission s.access.iam userId (some tenantId) request.permission = true ∧
      ∃ detail, serve (s.revoke userId request.permission) userId headers request =
        (.error (.http 403 detail), s.revoke userId request.permission)

/-- A network can be created: there are a pod, a subnet, a VLAN and a default network. -/
def networkCreatable (db : Db) (locks : Locks) (tenantId : ℕ) : Bool :=
  ((db.tenants.get? tenantId).bind fun tenant => truthy tenant.podId).any fun podId =>
    (offeredSubnet? db locks.subnets).isSome && (freeVlan? db locks.vlans podId).isSome &&
      (defaultNetwork? db tenantId).isSome

/-- A network can be deleted: it is one of the tenant and not the default one. -/
def networkDeletable (db : Db) (tenantId networkId : ℕ) : Bool :=
  (tenantNetwork? db tenantId networkId).any fun network => !network.isDefault

/-- A VM can be deleted: it is one of the tenant, it is not running or the deletion is forced, and
the provider raises no error. -/
def vmDeletable (s : State) (tenantId vmId : ℕ) (force : Bool) (outcome : ProviderOutcome) :
    Bool :=
  ((s.vms.get? vmId).any fun vm => vm.tenantId = tenantId && (force || vm.status ≠ .running)) &&
    outcome.failure.isNone

/-- The condition on a request. Starting, stopping and restarting a VM meet it. A request to
create or delete a network meets it if it fails anyway. A deletion of a VM meets it if it fails
anyway, or if none of the user's permissions covers updates of VMs but not their deletion. -/
def demandsItsPermission (s : State) (userId tenantId : ℕ) : Request → Bool
  | .createNetwork locks _ => !networkCreatable s.net locks tenantId
  | .deleteNetwork networkId => !networkDeletable s.net tenantId networkId
  | .vm vmId (.act (.delete force)) outcome => !vmDeletable s tenantId vmId force outcome ||
      (grantedPermissions s.access.iam userId (some tenantId)).all fun name =>
        !grants "vm:update" name || grants "vm:delete" name
  | .vm _ _ _ => true

/-- The roles after a revocation. -/
theorem get?_roles_revoked (db : IamDb) (userId : ℕ) (required : String) (id : ℕ) :
    ∃ f : Role → Role, (revoked db userId required).roles.get? id = (db.roles.get? id).map f ∧
      ∀ role, (f role).name = role.name ∧ (f role).isSystem = role.isSystem ∧
        ((∃ key userRole, db.userRoles.get? key = some userRole ∧ userRole.userId = userId ∧
            userRole.roleId = id) →
          (f role).permissions = role.permissions.filter fun permissionId =>
            ¬ (db.permissions.get? permissionId).any (grants required) = true) := by
  refine ⟨_, Serial.get?_mapRows .., fun role => ?_⟩
  split
  case isTrue hnone =>
    -- Roles that the user does not have stay.
    refine ⟨rfl, rfl, ?_⟩
    rintro ⟨key, userRole, hget, huser, hrole⟩
    exact absurd (decide_eq_true ⟨huser, hrole⟩) (Bool.eq_false_iff.mp
      (Serial.first?_eq_none_iff.mp hnone key userRole hget))
  case isFalse => exact ⟨rfl, rfl, fun _ => rfl⟩

/-- A revocation makes and unmakes no super admin. -/
theorem isSuperAdmin_revoked (db : IamDb) (userId : ℕ) (required : String) (caller : ℕ) :
    isSuperAdmin (revoked db userId required) caller = isSuperAdmin db caller := by
  rw [Bool.eq_iff_iff, isSuperAdmin_iff, isSuperAdmin_iff]
  constructor
  · rintro ⟨id, userRole, role, hget, huser, htenant, hrole, hsuper⟩
    obtain ⟨f, hf, hkept⟩ := get?_roles_revoked db userId required userRole.roleId
    rw [hf] at hrole
    obtain ⟨before, hbefore, rfl⟩ := Option.map_eq_some_iff.mp hrole
    refine ⟨id, userRole, before, hget, huser, htenant, hbefore, ?_⟩
    rwa [isSuperAdminRole, (hkept before).1, (hkept before).2.1] at hsuper
  · rintro ⟨id, userRole, role, hget, huser, htenant, hrole, hsuper⟩
    obtain ⟨f, hf, hkept⟩ := get?_roles_revoked db userId required userRole.roleId
    refine ⟨id, userRole, f role, hget, huser, htenant, by rw [hf, hrole, Option.map_some], ?_⟩
    rwa [isSuperAdminRole, (hkept role).1, (hkept role).2.1]

/-- The tenant of a request does not depend on the permissions of roles. -/
theorem getCurrentTenant_revoke (s : State) (userId : ℕ) (required : String) (caller : ℕ)
    (headers : TenantHeaders) :
    getCurrentTenant (s.revoke userId required).access caller headers =
      getCurrentTenant s.access caller headers := by
  have hsuper := isSuperAdmin_revoked s.access.iam userId required caller
  have himpersonated : impersonated? (s.revoke userId required).access caller headers =
      impersonated? s.access caller headers := by
    simp only [impersonated?, State.revoke, hsuper]
    rfl
  have hcheck : ∀ user tenantId, checkTenant (s.revoke userId required).access caller user
      tenantId = checkTenant s.access caller user tenantId := by
    intro user tenantId
    simp only [checkTenant, State.revoke, hsuper]
    rfl
  simp only [getCurrentTenant, himpersonated, hcheck]
  rfl

/-- After a revocation the user has the permissions that do not cover the one that was taken
away. -/
theorem mem_grantedPermissions_revoked {db : IamDb} {userId : ℕ} {required name : String}
    {tenantId : Option ℤ} :
    name ∈ grantedPermissions (revoked db userId required) userId tenantId ↔
      name ∈ grantedPermissions db userId tenantId ∧ grants required name = false := by
  rw [mem_grantedPermissions, mem_grantedPermissions]
  constructor
  · rintro ⟨id, userRole, role, permissionId, hget, huser, htenant, hrole, hmem, hname⟩
    obtain ⟨f, hf, hkept⟩ := get?_roles_revoked db userId required userRole.roleId
    rw [hf] at hrole
    obtain ⟨before, hbefore, rfl⟩ := Option.map_eq_some_iff.mp hrole
    rw [(hkept before).2.2 ⟨id, userRole, hget, huser, rfl⟩, Finset.mem_filter] at hmem
    have hname' : db.permissions.get? permissionId = some name := hname
    rw [hname', Option.any_some, Bool.not_eq_true] at hmem
    exact ⟨⟨id, userRole, before, permissionId, hget, huser, htenant, hbefore, hmem.1, hname⟩,
      hmem.2⟩
  · rintro ⟨⟨id, userRole, role, permissionId, hget, huser, htenant, hrole, hmem, hname⟩, hgrants⟩
    obtain ⟨f, hf, hkept⟩ := get?_roles_revoked db userId required userRole.roleId
    refine ⟨id, userRole, f role, permissionId, hget, huser, htenant,
      by rw [hf, hrole, Option.map_some], ?_, hname⟩
    rw [(hkept role).2.2 ⟨id, userRole, hget, huser, rfl⟩, Finset.mem_filter]
    refine ⟨hmem, ?_⟩
    rw [hname, Option.any_some, hgrants]
    exact Bool.false_ne_true

/-- The check of a permission of a user who is no super admin. -/
theorem hasPermission_iff_grants {db : IamDb} {userId : ℕ} {tenantId : Option ℤ}
    {required : String} (hsuper : isSuperAdmin db userId = false) :
    hasPermission db userId tenantId required = true ↔
      ∃ name ∈ grantedPermissions db userId tenantId, grants required name = true := by
  rw [hasPermission_iff, hsuper]
  simp only [Bool.false_eq_true, false_or, grants, Bool.or_eq_true, decide_eq_true_eq]

/-- After a revocation the check passes if a permission covers what it asks for but not what was
taken away. -/
theorem hasPermission_revoked_iff {db : IamDb} {userId : ℕ} {tenantId : Option ℤ}
    {required asked : String} (hsuper : isSuperAdmin db userId = false) :
    hasPermission (revoked db userId required) userId tenantId asked = true ↔
      ∃ name ∈ grantedPermissions db userId tenantId,
        grants required name = false ∧ grants asked name = true := by
  rw [hasPermission_iff_grants (by rw [isSuperAdmin_revoked, hsuper])]
  simp only [mem_grantedPermissions_revoked, and_assoc]

/-! ## The endpoints -/

/-- An allocation of a VLAN takes the one that is free. -/
theorem allocateVlan_free {db db' : Db} {locked : List (ℕ × ℕ)} {podId vlanId : ℕ}
    (h : allocateVlan db locked podId = .ok (vlanId, db')) :
    (freeVlan? db locked podId).isSome = true ∧ db'.tenantNetworks = db.tenantNetworks := by
  unfold allocateVlan at h
  split at h
  case h_1 key row hfound =>
    cases h
    exact ⟨by rw [hfound]; rfl, rfl⟩
  case h_2 => cases h

/-- A network is created exactly if everything that it needs is there. -/
theorem exists_createNetwork_iff {db : Db} {tenantId : ℕ} {locks : Locks} (name : String) :
    (∃ created, createNetwork db locks tenantId name = .ok created) ↔
      networkCreatable db locks tenantId = true := by
  simp only [createNetwork, networkCreatable, Except.bind_eq_ok_iff, Except.ofOption_eq_ok_iff,
    Option.any_eq_true, Option.bind_eq_some_iff, Bool.and_eq_true]
  constructor
  · rintro ⟨_, tenant, htenant, podId, hpod, ⟨subnet, db₁⟩, hsubnet, ⟨vlanId, db₂⟩, hvlan,
      ⟨networkId, network⟩, hdefault, -⟩
    have hoffered := allocateSubnet_offered hsubnet
    obtain ⟨-, -, -, rfl⟩ := allocateSubnet_eq_ok hsubnet
    obtain ⟨hfree, hnetworks⟩ := allocateVlan_free hvlan
    have hdefault' : defaultNetwork? db tenantId = some (networkId, network) := by
      rw [← hdefault, defaultNetwork?, defaultNetwork?, hnetworks]
    exact ⟨podId, ⟨tenant, htenant, hpod⟩, ⟨by rw [hoffered]; rfl, hfree⟩, by rw [hdefault']; rfl⟩
  · rintro ⟨podId, ⟨tenant, htenant, hpod⟩, ⟨hoffered, hfree⟩, hdefault⟩
    obtain ⟨subnet, hsubnet⟩ := Option.isSome_iff_exists.mp hoffered
    obtain ⟨vlan, hvlan⟩ := Option.isSome_iff_exists.mp hfree
    obtain ⟨network, hnetwork⟩ := Option.isSome_iff_exists.mp hdefault
    let db₁ := { db with globalIpPool := db.globalIpPool.modify subnet.1 .allocate }
    let db₂ := { db₁ with vlanAllocations := db₁.vlanAllocations.modify vlan.1 .allocate }
    have hallocate : allocateSubnet db locks.subnets = .ok (subnet, db₁) := by
      rw [offeredSubnet?] at hsubnet
      rw [allocateSubnet, hsubnet]
    have hallocateVlan : allocateVlan db₁ locks.vlans podId = .ok (vlan.1.2, db₂) := by
      have hvlan' : freeVlan? db₁ locks.vlans podId = some vlan := hvlan
      rw [allocateVlan, hvlan']
    exact ⟨_, tenant, htenant, podId, hpod, (subnet, db₁), hallocate, (vlan.1.2, db₂),
      hallocateVlan, network, hnetwork, rfl⟩

/-- The endpoint replies without an error exactly if a network is created. -/
theorem createNetworkEndpoint_ok_iff {s : State} {tenantId : ℕ} {locks : Locks} {name : String} :
    (createNetworkEndpoint s tenantId locks name).1 = .ok () ↔
      networkCreatable s.net locks tenantId = true := by
  rw [← exists_createNetwork_iff name, createNetworkEndpoint]
  cases createNetwork s.net locks tenantId name with
  | error e => simp
  | ok created => simp

/-- A network is deleted exactly if it is one of the tenant and not the default one. -/
theorem deleteNetworkEndpoint_ok_iff {s : State} {tenantId networkId : ℕ} :
    (deleteNetworkEndpoint s tenantId networkId).1 = .ok () ↔
      networkDeletable s.net tenantId networkId = true := by
  rw [deleteNetworkEndpoint, networkDeletable]
  cases hnetwork : tenantNetwork? s.net tenantId networkId with
  | none => simp [deleteNetwork, hnetwork, Except.ofOption, bind, Except.bind]
  | some network =>
    cases hdefault : network.isDefault with
    | true => simp [deleteNetwork, hnetwork, hdefault, Except.ofOption, Except.require, bind,
        Except.bind]
    | false => simp [deleteNetwork, hnetwork, hdefault, Except.ofOption, Except.require, bind,
        Except.bind, pure, Except.pure]

/-- The logic of an action completes exactly if it is valid and the provider raises no error. -/
theorem runVmRequest_ok_iff {s : State} {vmId : ℕ} {vm : VM} {request : VmRequest}
    {outcome : ProviderOutcome} :
    (runVmRequest s vmId vm request outcome).1 = .ok () ↔
      request.validate vm = .ok () ∧ outcome.failure = none := by
  rw [runVmRequest]
  cases request.validate vm with
  | error e => simp
  | ok _ => cases outcome.failure <;> simp

section Vm

variable {s : State} {userId tenantId vmId : ℕ} {request : VmRequest} {outcome : ProviderOutcome}
  (howner : s.owners vmId ≠ some userId)
include howner

/-- An action of a user who does not own the VM completes exactly if the VM is one of the tenant,
the user may update VMs, and the logic completes. -/
theorem vmEndpoint_ok_iff :
    (vmEndpoint s userId tenantId vmId request outcome).1 = .ok () ↔
      ∃ vm, s.vms.get? vmId = some vm ∧ vm.tenantId = tenantId ∧
        hasPermission s.access.iam userId (some tenantId) "vm:update" = true ∧
        request.validate vm = .ok () ∧ outcome.failure = none := by
  rw [vmEndpoint]
  split
  case h_1 hnone =>
    refine iff_of_false (by simp) ?_
    rintro ⟨vm, hget, htenant, -⟩
    rw [hget, Option.filter_some, if_pos (decide_eq_true htenant)] at hnone
    cases hnone
  case h_2 vm hfilter =>
    obtain ⟨hget, htenant⟩ := Option.filter_eq_some_iff.mp hfilter
    have hvm : ∀ vm', s.vms.get? vmId = some vm' → vm' = vm := fun vm' hget' =>
      Option.some.inj (hget'.symm.trans hget)
    split
    case isTrue hallowed =>
      rw [runVmRequest_ok_iff]
      constructor
      · rintro ⟨hvalid, hprovider⟩
        exact ⟨vm, hget, of_decide_eq_true htenant, hallowed.resolve_right howner, hvalid,
          hprovider⟩
      · rintro ⟨vm', hget', -, -, hvalid, hprovider⟩
        rw [hvm vm' hget'] at hvalid
        exact ⟨hvalid, hprovider⟩
    case isFalse hrefused =>
      refine iff_of_false (by simp) ?_
      rintro ⟨vm', -, -, hpermission, -⟩
      exact hrefused (Or.inl hpermission)

/-- A user who neither owns a VM of the tenant nor may update VMs is refused. -/
theorem vmEndpoint_refused {vm : VM} (hget : s.vms.get? vmId = some vm)
    (htenant : vm.tenantId = tenantId)
    (hpermission : hasPermission s.access.iam userId (some tenantId) "vm:update" ≠ true) :
    vmEndpoint s userId tenantId vmId request outcome =
      (.error (.http 403 request.refusal), s) := by
  rw [vmEndpoint, hget, Option.filter_some, if_pos (decide_eq_true htenant)]
  dsimp only
  rw [if_neg]
  rintro (hallowed | hown)
  · exact hpermission hallowed
  · exact howner hown

end Vm

/-- A request is served in the tenant that its headers name. -/
theorem serve_of_getCurrentTenant {s : State} {userId tenantId : ℕ} {headers : TenantHeaders}
    (htenant : getCurrentTenant s.access userId headers = .ok tenantId) (request : Request) :
    serve s userId headers request = dispatch s userId tenantId request := by
  rw [serve, htenant]

/-- A request that completes is not refused. -/
theorem not_refused {reply : Except ApiError Unit × State} {e : ApiError} {s' : State}
    (hok : reply.1 = .ok ()) : reply ≠ (.error e, s') := by
  rintro rfl
  cases hok

section Demands

variable {s : State} {userId tenantId : ℕ} {headers : TenantHeaders}
  (htenant : getCurrentTenant s.access userId headers = .ok tenantId)
include htenant

/-- The tenant of a request is fixed by its headers. -/
theorem demands_of_tenant {request : Request} : Demands s userId headers request ↔
    ((dispatch s userId tenantId request).1 = .ok () →
      hasPermission s.access.iam userId (some tenantId) request.permission = true ∧
        ∃ detail, dispatch (s.revoke userId request.permission) userId tenantId request =
          (.error (.http 403 detail), s.revoke userId request.permission)) := by
  have hrevoked : getCurrentTenant (s.revoke userId request.permission).access userId headers =
      .ok tenantId := (getCurrentTenant_revoke ..).trans htenant
  rw [Demands, serve_of_getCurrentTenant htenant, serve_of_getCurrentTenant hrevoked]
  constructor
  · exact fun h hok => h tenantId htenant hok
  · intro h tenantId' htenant' hok
    obtain rfl := Except.ok.inj (htenant.symm.trans htenant')
    exact h hok

/-- A request to create a network demands nothing, so it must fail. -/
theorem demands_createNetwork_iff (locks : Locks) (name : String) :
    Demands s userId headers (.createNetwork locks name) ↔
      networkCreatable s.net locks tenantId = false := by
  rw [demands_of_tenant htenant, ← Bool.not_eq_true, ← createNetworkEndpoint_ok_iff]
  constructor
  · intro h hok
    obtain ⟨-, detail, hrefused⟩ := h hok
    have hcreatable := createNetworkEndpoint_ok_iff.mp hok
    have hok' : (createNetworkEndpoint (s.revoke userId "network:create") tenantId locks
        name).1 = .ok () := createNetworkEndpoint_ok_iff.mpr hcreatable
    exact not_refused hok' hrefused
  · exact fun hfails hok => absurd hok hfails

/-- A request to delete a network demands nothing, so it must fail. -/
theorem demands_deleteNetwork_iff (networkId : ℕ) :
    Demands s userId headers (.deleteNetwork networkId) ↔
      networkDeletable s.net tenantId networkId = false := by
  rw [demands_of_tenant htenant, ← Bool.not_eq_true, ← deleteNetworkEndpoint_ok_iff]
  constructor
  · intro h hok
    obtain ⟨-, detail, hrefused⟩ := h hok
    have hdeletable := deleteNetworkEndpoint_ok_iff.mp hok
    have hok' : (deleteNetworkEndpoint (s.revoke userId "network:delete") tenantId
        networkId).1 = .ok () := deleteNetworkEndpoint_ok_iff.mpr hdeletable
    exact not_refused hok' hrefused
  · exact fun hfails hok => absurd hok hfails

variable (hsuper : isSuperAdmin s.access.iam userId = false)
include hsuper

/-- An action on a VM demands its permission if, whenever it completes, the user has the
permission, and each permission that covers updates of VMs covers it too. -/
theorem demands_vm_iff {vmId : ℕ} {request : VmRequest} {outcome : ProviderOutcome}
    (howner : s.owners vmId ≠ some userId) :
    Demands s userId headers (.vm vmId request outcome) ↔
      ((∃ vm, s.vms.get? vmId = some vm ∧ vm.tenantId = tenantId ∧
          request.validate vm = .ok () ∧ outcome.failure = none) →
        ∀ name ∈ grantedPermissions s.access.iam userId (some tenantId),
          grants "vm:update" name = true → grants request.permission name = true) := by
  rw [demands_of_tenant htenant]
  show ((vmEndpoint s userId tenantId vmId request outcome).1 = .ok () → _) ↔ _
  have howner' : (s.revoke userId request.permission).owners vmId ≠ some userId := howner
  rw [vmEndpoint_ok_iff howner, hasPermission_iff_grants hsuper, hasPermission_iff_grants hsuper]
  constructor
  · rintro h ⟨vm, hget, hvmTenant, hvalid, hprovider⟩ name hname hupdate
    obtain ⟨-, detail, hrefused⟩ :=
      h ⟨vm, hget, hvmTenant, ⟨name, hname, hupdate⟩, hvalid, hprovider⟩
    by_contra hkept
    -- The user keeps this permission, and with it the request still completes.
    have hpermission : hasPermission (s.revoke userId request.permission).access.iam userId
        (some tenantId) "vm:update" = true :=
      (hasPermission_revoked_iff hsuper).mpr
        ⟨name, hname, Bool.eq_false_of_not_eq_true hkept, hupdate⟩
    have hok := (vmEndpoint_ok_iff howner').mpr
      ⟨vm, hget, hvmTenant, hpermission, hvalid, hprovider⟩
    exact not_refused hok hrefused
  · rintro h ⟨vm, hget, hvmTenant, ⟨name, hname, hupdate⟩, hvalid, hprovider⟩
    have hcovers := h ⟨vm, hget, hvmTenant, hvalid, hprovider⟩
    refine ⟨⟨name, hname, hcovers name hname hupdate⟩, request.refusal, ?_⟩
    apply vmEndpoint_refused howner' hget hvmTenant
    intro hpermission
    obtain ⟨name', hname', hlost, hupdate'⟩ := (hasPermission_revoked_iff hsuper).mp hpermission
    have hcovered : grants request.permission name' = true := hcovers name' hname' hupdate'
    have hlost' : grants request.permission name' = false := hlost
    rw [hlost'] at hcovered
    cases hcovered

end Demands

/-- A deletion is valid if it is forced or the VM is not running. -/
theorem validate_delete_iff {vm : VM} {force : Bool} :
    (VmRequest.act (.delete force)).validate vm = .ok () ↔
      force = true ∨ vm.status ≠ .running := by
  cases force with
  | true => simp [VmRequest.validate, validateVmAction, pure, Except.pure]
  | false => simp [VmRequest.validate, validateVmAction]

/-- A deletion completes, for a user who may update VMs, exactly if the VM can be deleted. -/
theorem vmDeletable_iff {s : State} {tenantId vmId : ℕ} {force : Bool}
    {outcome : ProviderOutcome} : vmDeletable s tenantId vmId force outcome = true ↔
      ∃ vm, s.vms.get? vmId = some vm ∧ vm.tenantId = tenantId ∧
        (VmRequest.act (.delete force)).validate vm = .ok () ∧ outcome.failure = none := by
  simp only [vmDeletable, Bool.and_eq_true, Option.any_eq_true, Option.isNone_iff_eq_none,
    Bool.or_eq_true, decide_eq_true_eq, validate_delete_iff]
  constructor
  · rintro ⟨⟨vm, hget, htenant, hvalid⟩, hprovider⟩
    exact ⟨vm, hget, htenant, hvalid, hprovider⟩
  · rintro ⟨vm, hget, htenant, hvalid, hprovider⟩
    exact ⟨⟨vm, hget, htenant, hvalid⟩, hprovider⟩

/-- The condition says that a request demands the permission that names its operation, for a user
who is no super admin and does not own the VM. -/
theorem demands_iff {s : State} {userId tenantId : ℕ} {headers : TenantHeaders}
    {request : Request} (htenant : getCurrentTenant s.access userId headers = .ok tenantId)
    (hsuper : isSuperAdmin s.access.iam userId = false)
    (howner : ∀ vmId vmRequest outcome, request = .vm vmId vmRequest outcome →
      s.owners vmId ≠ some userId) :
    Demands s userId headers request ↔ demandsItsPermission s userId tenantId request = true := by
  cases request with
  | createNetwork locks name =>
    rw [demands_createNetwork_iff htenant, demandsItsPermission, Bool.not_eq_true']
  | deleteNetwork networkId =>
    rw [demands_deleteNetwork_iff htenant, demandsItsPermission, Bool.not_eq_true']
  | vm vmId vmRequest outcome =>
    rw [demands_vm_iff htenant hsuper (howner vmId vmRequest outcome rfl)]
    -- All actions but the deletion are named by the permission that is checked.
    match vmRequest with
    | .act .start | .act .stop | .restart => exact iff_of_true (fun _ _ _ h => h) rfl
    | .act (.delete force) =>
      rw [← vmDeletable_iff, demandsItsPermission, Bool.or_eq_true, Bool.not_eq_true',
        List.all_eq_true]
      simp only [Bool.or_eq_true, Bool.not_eq_true']
      constructor
      · intro h
        by_cases hdeletable : vmDeletable s tenantId vmId force outcome = true
        · right
          intro name hname
          by_cases hupdate : grants "vm:update" name = true
          · exact Or.inr (h hdeletable name hname hupdate)
          · exact Or.inl (Bool.eq_false_of_not_eq_true hupdate)
        · exact Or.inl (Bool.eq_false_of_not_eq_true hdeletable)
      · rintro (hfails | hcovers) hdeletable name hname hupdate
        · rw [hfails] at hdeletable
          cases hdeletable
        · rcases hcovers name hname with hno | hdelete
          · rw [hno] at hupdate
            cases hupdate
          · exact hdelete

/-- One tenant with a viewer, an operator and an administrator of VMs, a default network and a VM
that somebody else owns. -/
def smallState : State where
  access := {
    iam := {
      tenants := Serial.empty.add ⟨"First", "first"⟩
      users := ((Serial.empty.add ⟨"ann", "ann@first.example", true, some 1⟩).add
        ⟨"bob", "bob@first.example", true, some 1⟩).add ⟨"cid", "cid@first.example", true, some 1⟩
      permissions := ((Serial.empty.add "vm:read").add "vm:update").add "vm:*"
      roles := ((Serial.empty.add ⟨"viewer", none, none, true, false, {1}⟩).add
        ⟨"operator", none, none, true, false, {1, 2}⟩).add
        ⟨"vm_admin", none, none, true, false, {3}⟩
      userRoles := ((Serial.empty.add ⟨1, some 1, 1, none⟩).add ⟨2, some 1, 2, none⟩).add
        ⟨3, some 1, 3, none⟩
      invitations := .empty }
    tenantActive := fun _ => true }
  net := {
    tenants := Serial.empty.add {
      status := .active
      isVerified := true
      bridgeId := some 100
      podId := some 1
      opnsenseVmId := some 10000
      opnsenseVmName := some "VM_OPNsense_1"
      lanIp := some "172.16.0.1"
      wanIp := none
      opnsenseApiKey := none
      opnsenseApiSecret := none
      error := none }
    pods := Serial.empty.add ⟨.active, 100, 1⟩
    bridgePool := ∅
    globalIpPool := Serial.empty.add ⟨"172.16.1.0/24", "172.16.1.1", .safe, .free, none⟩
    vlanAllocations := (∅ : Table (ℕ × ℕ) VlanAllocation).insert (1, 10) ⟨.free, none⟩
    tenantNetworks := Serial.empty.add {
      tenantId := 1
      podId := 1
      ipPoolId := none
      cidr := "172.16.0.0/24"
      gatewayIp := "172.16.0.1"
      vlanId := none
      name := "default"
      isDefault := true
      status := .active
      providerRef := some "vmbr100"
      opnsenseInterface := none } }
  messages := []
  vms := Serial.empty.add {
    name := "web"
    tenantId := 1
    provider := "proxmox"
    status := .stopped
    proxmoxVmId := none
    ipAddress := none
    networkId := none
    diskSizeMb := 1024
    sshUser := none
    sshPublicKey := none
    sshPrivateKeyEnc := none
    error := none }
  owners := fun _ => some 7
  hypervisor := ∅

/-- The headers of a request that names no tenant. -/
def noHeaders : TenantHeaders := ⟨none, none, none⟩

/-- A user who has all permissions on VMs loses them together. -/
theorem demands_vm_admin :
    Demands smallState 3 noHeaders (.vm 1 (.act (.delete false)) ⟨none, 0, none⟩) := by
  have htenant : getCurrentTenant smallState.access 3 noHeaders = .ok 1 := by decide +kernel
  refine (demands_iff htenant (by decide +kernel) fun vmId _ _ _ => ?_).mpr (by decide +kernel)
  show some 7 ≠ some 3
  decide

/-- The viewer creates a network. -/
theorem not_demands :
    ¬ ∀ s userId headers request, isSuperAdmin s.access.iam userId = false →
      (∀ vmId vmRequest outcome, request = .vm vmId vmRequest outcome →
        s.owners vmId ≠ some userId) → Demands s userId headers request := by
  intro h
  have hdemands := h smallState 1 noHeaders (.createNetwork ⟨[], [], []⟩ "app")
    (by decide +kernel) (by rintro _ _ _ ⟨⟩)
  have hpermission := (hdemands 1 (by decide +kernel) (by decide +kernel)).1
  revert hpermission
  decide +kernel

end ProxmoxIaas.Endpoints
