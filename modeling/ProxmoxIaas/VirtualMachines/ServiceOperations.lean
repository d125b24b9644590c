import ProxmoxIaas.Foundation.Text
import ProxmoxIaas.VirtualMachines.StatusMachine

/-!
# The Operations of the VM Service

`start_vm_logic`, `stop_vm_logic`, `restart_vm_logic` and `delete_vm_logic` call the provider of a
VM and then commit what they expect the call to have done. The provider of the hypervisor reports
an error of its API with the value `False`, or not at all, and the service ignores the value, as it
ignores the value that the provider of a container returns.

A run of an operation keeps a record of the calls that the providers have carried out, so that
what is committed can be compared with it.

## Main results

- `attempts_startVm`, `attempts_stopVm`, `attempts_deleteVm`: the provider of the hypervisor never
  raises.
- `agrees_hypervisorBranch_iff`, `agrees_callContainer_iff`: the two branches of an operation.
- `agrees_iff`: when an operation agrees with the provider.
-/

namespace ProxmoxIaas.VmService

open Reconciler (VmRecord)

/-- A row of `vms`: the columns that the operations use. -/
structure VmRow extends VmRecord where
  /-- The id of the VM on the hypervisor. -/
  proxmoxVmId : Option ℕ
  deriving DecidableEq, Repr

/-- An exception that reaches the service. -/
inductive ServiceError where
  /-- `ProviderException` with its message. -/
  | providerException (message : String)
  /-- `ValueError` with its message. -/
  | valueError (message : String)
  /-- Any other exception with its text. -/
  | other (text : String)
  deriving DecidableEq, Repr

/-- The text that the service reports of an exception: the message of a `ProviderException`, and
what `str` makes of another. -/
def ServiceError.message : ServiceError → String
  | providerException message => message
  | valueError message => message
  | other text => text

/-- An error of the checks. -/
def ServiceError.ofApiError : ApiError → ServiceError
  | .valueError message => .valueError message
  | .http _ detail => .other detail

/-- The values of `ProviderType`. -/
inductive ProviderType where
  | docker
  | vsphere
  | proxmox
  | aws
  | azure
  deriving DecidableEq, Repr

/-- The conversion `ProviderType(...)` of a text. -/
def ProviderType.ofText : String → Option ProviderType
  | "docker" => some docker
  | "vsphere" => some vsphere
  | "proxmox" => some proxmox
  | "aws" => some aws
  | "azure" => some azure
  | _ => none

/-- A member of `ProviderType` in a text. -/
def ProviderType.display : ProviderType → String
  | docker => "ProviderType.DOCKER"
  | vsphere => "ProviderType.VSPHERE"
  | proxmox => "ProviderType.PROXMOX"
  | aws => "ProviderType.AWS"
  | azure => "ProviderType.AZURE"

/-- The calls to a provider of containers. -/
inductive ContainerCall where
  | start
  | stop
  | restart
  | remove (force : Bool)
  deriving DecidableEq, Repr

/-- A provider of containers: the value that it returns for a call and the name of a container,
or the exception that it raises. -/
abbrev ContainerProvider := ContainerCall → String → Except ServiceError Bool

/-- An interface that the guest agent reports. -/
structure InterfaceInfo where
  /-- The name of the interface. -/
  name : String
  /-- Its first IPv4 address. -/
  ip : Option String
  deriving DecidableEq, Repr

/-- What an operation finds outside of the database. -/
structure Environment where
  /-- What `get_hypervisor_provider` does. -/
  hypervisor : Except ServiceError Unit
  /-- The answer of the API of the hypervisor to a request for a machine. -/
  api : HypervisorCall → ℕ → Except ServiceError Unit
  /-- The interfaces that the attempts of a start find, in order. -/
  interfaces : ℕ → List InterfaceInfo
  /-- The registered providers of containers. -/
  containers : ProviderType → Option ContainerProvider

/-- A call that a provider has carried out. -/
inductive ProviderCall where
  | hypervisor (call : HypervisorCall)
  | container (call : ContainerCall)
  deriving DecidableEq, Repr

/-- The committed rows, and the calls that the providers have carried out. -/
structure World where
  /-- Table `vms`. -/
  vms : Serial VmRow
  /-- The calls that were carried out, in order. -/
  done : List ProviderCall

/-- Record calls that were carried out. -/
def World.log (w : World) (calls : List ProviderCall) : World := { w with done := w.done ++ calls }

/-- A program of the service. What it has done by the time it raises stays. -/
abbrev Service := EStateM ServiceError World

/-! ### The provider of the hypervisor -/

/-- A request to the API of the hypervisor. -/
def request (env : Environment) (call : HypervisorCall) (vmId : ℕ) : Service Unit :=
  match env.api call vmId with
  | .ok () => modify fun w => w.log [.hypervisor call]
  | .error e => throw e

/-- `ProxmoxProvider.start_vm`. -/
def startVm (env : Environment) (vmId : ℕ) : Service Bool :=
  tryCatch (do request env .start vmId; return true) fun _ => pure false

/-- `ProxmoxProvider.stop_vm`. -/
def stopVm (env : Environment) (vmId : ℕ) : Service Bool :=
  tryCatch (do request env .stop vmId; return true) fun _ => pure false

/-- `ProxmoxProvider.delete_vm`. The machine may be stopped already, and an error of the deletion
is only logged. -/
def deleteVm (env : Environment) (vmId : ℕ) : Service Unit :=
  tryCatch
    (do
      tryCatch (request env .stop vmId) fun _ => pure ()
      request env .destroy vmId)
    fun _ => pure ()

/-! ### The providers of containers -/

/-- `get_container_provider`. -/
def getContainerProvider (env : Environment) (providerType : String) :
    Except ServiceError ContainerProvider := do
  let ptype ← Except.ofOption
    (.providerException s!"Unsupported provider type: {providerType}")
    (ProviderType.ofText (Text.lower providerType))
  Except.ofOption (.providerException s!"Container provider {ptype.display} not implemented")
    (env.containers ptype)

/-- A call to a provider of containers; the provider has carried it out when it returns `True`. -/
def callContainer (provider : ContainerProvider) (call : ContainerCall) (name : String) :
    Service Bool :=
  match provider call name with
  | .ok true => do
    modify fun w => w.log [.container call]
    return true
  | .ok false => return false
  | .error e => throw e

/-! ### The service -/

/-- The operations of the service. -/
inductive Operation where
  /-- `start_vm_logic`. -/
  | start
  /-- `stop_vm_logic`. -/
  | stop
  /-- `restart_vm_logic`. -/
  | restart
  /-- `delete_vm_logic`. -/
  | delete (force : Bool)
  deriving DecidableEq, Repr

/-- `validate_vm_action`; a forced deletion is not validated. -/
def Operation.validate (status : String) : Operation → Except ApiError Unit
  | .start => VmStatusMachine.validateVmAction status .start
  | .stop => VmStatusMachine.validateVmAction status .stop
  | .restart => VmStatusMachine.validateVmAction status .restart
  | .delete false => Except.require
      (.valueError "Cannot delete running VM. Stop it first or use force=true")
      (status ≠ "running")
  | .delete true => return

/-- The row of an operation, checked. -/
def loadVm (vmId : ℕ) (operation : Operation) : Service VmRow := do
  let w ← get
  match w.vms.get? vmId with
  | none => throw (.valueError s!"VM with ID {vmId} not found")
  | some vm =>
    match operation.validate vm.status with
    | .error e => throw (.ofApiError e)
    | .ok () => return vm

/-- Commit a change of a row. -/
def saveVm (vmId : ℕ) (write : VmRow → VmRow) : Service Unit :=
  modify fun w => { w with vms := w.vms.modify vmId write }

/-- Commit the deletion of a row. -/
def deleteRow (vmId : ℕ) : Service Unit :=
  modify fun w => { w with vms := w.vms.deleteWhere fun id _ => id = vmId }

/-- An address that a start takes: neither of the loopback interface nor an IPv6 address. -/
def usableIp (iface : InterfaceInfo) : Option String :=
  (truthyText iface.ip).filter fun ip => !Text.startsWith ip "127." && !ip.toList.contains ':'

/-- The attempts of a start to find an address. An attempt takes the first usable address, and
they end once the VM has one. -/
def pollAddress (interfaces : ℕ → List InterfaceInfo) : List ℕ → Option String → Option String
  | [], ip => ip
  | attempt :: attempts, ip =>
    let ip := ((interfaces attempt).findSome? usableIp).or ip
    if truthyText ip = none then pollAddress interfaces attempts ip else ip

/-- The value of a call that the service makes outside of its session. -/
def raiseError {α : Type} : Except ServiceError α → Service α
  | .ok a => return a
  | .error e => throw e

/-- The branch of an operation for a VM of the hypervisor. The provider is called if the row has
an id there; `save` commits the change in either case. -/
def hypervisorBranch (env : Environment) (vm : VmRow) (calls : ℕ → Service Unit)
    (save : Service Unit) : Service Unit := do
  raiseError env.hypervisor
  match truthy vm.proxmoxVmId with
  | some proxmoxVmId => calls proxmoxVmId
  | none => pure ()
  save

/-- What the three operations that keep the row differ in. -/
structure Power where
  /-- The operation. -/
  operation : Operation
  /-- The verb of the error message. -/
  verb : String
  /-- The calls to the provider of the hypervisor. -/
  calls : Environment → ℕ → Service Unit
  /-- The call to a provider of containers. -/
  container : ContainerCall
  /-- The status that is committed. -/
  status : String
  /-- The attempts to find an address for a VM of the hypervisor. -/
  attempts : List ℕ

/-- `start_vm_logic`, `stop_vm_logic` and `restart_vm_logic`. -/
def powerVmLogic (power : Power) (env : Environment) (vmId : ℕ) : Service Unit := do
  let vm ← loadVm vmId power.operation
  EStateM.adaptExcept (fun e => .valueError s!"Failed to {power.verb} VM: {e.message}") do
    if vm.provider = "proxmox" then
      hypervisorBranch env vm (power.calls env) <| saveVm vmId fun vm =>
        { vm with
          status := power.status
          ipAddress := pollAddress env.interfaces power.attempts vm.ipAddress }
    else
      let provider ← raiseError (getContainerProvider env vm.provider)
      let _ ← callContainer provider power.container vm.name
      saveVm vmId fun vm => { vm with status := power.status }

/-- `start_vm_logic`: it looks for an address six times. -/
def startVmLogic : Environment → ℕ → Service Unit :=
  powerVmLogic
    { operation := .start
      verb := "start"
      calls := fun env vmId => do let _ ← startVm env vmId
      container := .start
      status := "running"
      attempts := List.range 6 }

/-- `stop_vm_logic`. -/
def stopVmLogic : Environment → ℕ → Service Unit :=
  powerVmLogic
    { operation := .stop
      verb := "stop"
      calls := fun env vmId => do let _ ← stopVm env vmId
      container := .stop
      status := "stopped"
      attempts := [] }

/-- `restart_vm_logic`. -/
def restartVmLogic : Environment → ℕ → Service Unit :=
  powerVmLogic
    { operation := .restart
      verb := "restart"
      calls := fun env vmId => do
        let _ ← stopVm env vmId
        let _ ← startVm env vmId
      container := .restart
      status := "running"
      attempts := [] }

/-- `delete_vm_logic`. -/
def deleteVmLogic (force : Bool) (env : Environment) (vmId : ℕ) : Service Unit := do
  let vm ← loadVm vmId (.delete force)
  if vm.provider = "proxmox" then
    hypervisorBranch env vm (deleteVm env) (deleteRow vmId)
  else
    let provider ← raiseError (getContainerProvider env vm.provider)
    if vm.status = "running" then
      let _ ← callContainer provider .stop vm.name
    let _ ← callContainer provider (.remove force) vm.name
    deleteRow vmId

/-- The program of an operation. -/
def Operation.run : Operation → Environment → ℕ → Service Unit
  | .start => startVmLogic
  | .stop => stopVmLogic
  | .restart => restartVmLogic
  | .delete force => deleteVmLogic force

/-! ### Agreement -/

/-- The calls of an operation to the hypervisor, in order. -/
def Operation.attempted : Operation → List HypervisorCall
  | .start => [.start]
  | .stop => [.stop]
  | .restart => [.stop, .start]
  | .delete _ => [.stop, .destroy]

/-- The calls to the hypervisor that an operation consists of. A deletion stops the machine only
in case it is running. -/
def Operation.required : Operation → List HypervisorCall
  | .start => [.start]
  | .stop => [.stop]
  | .restart => [.stop, .start]
  | .delete _ => [.destroy]

/-- The call to a provider of containers that an operation consists of. -/
def Operation.containerCall : Operation → ContainerCall
  | .start => .start
  | .stop => .stop
  | .restart => .restart
  | .delete force => .remove force

/-- The provider has performed an operation. -/
def Performed (operation : Operation) (done : List ProviderCall) : Prop :=
  (∀ call ∈ operation.required, .hypervisor call ∈ done) ∨
    .container operation.containerCall ∈ done

/-- The provider has performed the operation, or the rows are as before and the caller gets an
error. -/
def Agrees (operation : Operation) (vms : Serial VmRow) :
    EStateM.Result ServiceError World Unit → Prop
  | .ok () w => Performed operation w.done
  | .error _ w => Performed operation w.done ∨ w.vms = vms

/-- A call to the API of the hypervisor succeeds. -/
def Environment.Succeeds (env : Environment) (vmId : ℕ) (call : HypervisorCall) : Prop :=
  env.api call vmId = .ok ()

instance (env : Environment) (vmId : ℕ) : DecidablePred (env.Succeeds vmId) :=
  fun call => match h : env.api call vmId with
    | .ok () => isTrue h
    | .error _ => isFalse fun hok => nomatch hok.symm.trans h

/-- The deletion of a running VM ends before its call: the container cannot be stopped. -/
def StopRaises (operation : Operation) (vm : VmRow) (provider : ContainerProvider) : Prop :=
  (∃ force, operation = .delete force) ∧ vm.status = "running" ∧
    ∃ e, provider .stop vm.name = .error e

/-- No failure of the provider is passed over. A VM of the hypervisor has an id there and the
requests of the operation succeed; the provider of a container does not return `False`. -/
def Reported (env : Environment) (vms : Serial VmRow) (vmId : ℕ) (operation : Operation) : Prop :=
  ∀ vm, vms.get? vmId = some vm → operation.validate vm.status = .ok () →
    if vm.provider = "proxmox" then
      env.hypervisor = .ok () → ∃ proxmoxVmId, truthy vm.proxmoxVmId = some proxmoxVmId ∧
        ∀ call ∈ operation.required, env.Succeeds proxmoxVmId call
    else
      ∀ provider, getContainerProvider env vm.provider = .ok provider →
        StopRaises operation vm provider ∨
          provider operation.containerCall vm.name ≠ .ok false

variable {env : Environment} {vms : Serial VmRow} {vmId proxmoxVmId : ℕ} {operation : Operation}
  {vm : VmRow} {w : World} {calls : ℕ → Service Unit} {save : Service Unit}

theorem run_tryCatch {α : Type} (x : Service α) (handler : ServiceError → Service α) :
    (tryCatch x handler).run w = match x.run w with
      | .ok a w' => .ok a w'
      | .error e w' => (handler e).run w' := by
  show EStateM.tryCatch x handler w = _
  unfold EStateM.tryCatch EStateM.run
  cases x w <;> rfl

theorem request_of_succeeds {call : HypervisorCall} (h : env.Succeeds proxmoxVmId call) :
    (request env call proxmoxVmId).run w = .ok () (w.log [.hypervisor call]) := by
  unfold request
  rw [h]
  rfl

theorem request_of_not_succeeds {call : HypervisorCall} (h : ¬ env.Succeeds proxmoxVmId call) :
    ∃ e, (request env call proxmoxVmId).run w = .error e w := by
  unfold request
  cases hcall : env.api call proxmoxVmId with
  | ok u => exact absurd hcall h
  | error e => exact ⟨e, rfl⟩

@[simp]
theorem World.log_log (a b : List ProviderCall) : (w.log a).log b = w.log (a ++ b) := by
  simp [World.log]

/-- The calls among some that are carried out. -/
def carriedOut (env : Environment) (proxmoxVmId : ℕ) (attempted : List HypervisorCall) :
    List ProviderCall :=
  (attempted.filter fun call => env.Succeeds proxmoxVmId call).map .hypervisor

theorem mem_carriedOut {attempted : List HypervisorCall} {call : HypervisorCall}
    (h : call ∈ attempted) :
    .hypervisor call ∈ carriedOut env proxmoxVmId attempted ↔ env.Succeeds proxmoxVmId call := by
  simp [carriedOut, h]

/-- A request whose error is swallowed is carried out if it succeeds. -/
theorem tryCatch_request_run {call : HypervisorCall} :
    (tryCatch (request env call proxmoxVmId) fun _ => pure ()).run w =
      .ok () (w.log (carriedOut env proxmoxVmId [call])) := by
  rw [run_tryCatch]
  by_cases h : env.Succeeds proxmoxVmId call
  · rw [request_of_succeeds h]
    simp [carriedOut, h]
  · obtain ⟨e, hrun⟩ := request_of_not_succeeds h
    rw [hrun]
    simp [carriedOut, h, World.log]

/-- The same for a request whose error is reported by a value. -/
theorem tryCatch_request_true_run {call : HypervisorCall} :
    (tryCatch (do request env call proxmoxVmId; return true) fun _ => pure false).run w =
      .ok (decide (env.Succeeds proxmoxVmId call))
        (w.log (carriedOut env proxmoxVmId [call])) := by
  rw [run_tryCatch, EStateM.run_bind]
  by_cases h : env.Succeeds proxmoxVmId call
  · rw [request_of_succeeds h]
    simp [carriedOut, h]
  · obtain ⟨e, hrun⟩ := request_of_not_succeeds h
    rw [hrun]
    simp [carriedOut, h, World.log]

/-- Calls to the hypervisor that never raise and carry out what succeeds. -/
def Attempts (env : Environment) (calls : ℕ → Service Unit) (attempted : List HypervisorCall) :
    Prop :=
  ∀ proxmoxVmId w,
    (calls proxmoxVmId).run w = .ok () (w.log (carriedOut env proxmoxVmId attempted))

theorem attempts_startVm : Attempts env (fun id => do let _ ← startVm env id) [.start] := by
  intro proxmoxVmId w
  rw [EStateM.run_bind, startVm, tryCatch_request_true_run]
  rfl

theorem attempts_stopVm : Attempts env (fun id => do let _ ← stopVm env id) [.stop] := by
  intro proxmoxVmId w
  rw [EStateM.run_bind, stopVm, tryCatch_request_true_run]
  rfl

theorem attempts_restart :
    Attempts env (fun id => do let _ ← stopVm env id; let _ ← startVm env id) [.stop, .start] := by
  intro proxmoxVmId w
  rw [EStateM.run_bind, stopVm, tryCatch_request_true_run]
  show (do let _ ← startVm env proxmoxVmId : Service Unit).run _ = _
  rw [attempts_startVm, World.log_log]
  simp only [carriedOut, ← List.map_append, ← List.filter_append, List.singleton_append]

theorem attempts_deleteVm : Attempts env (deleteVm env) [.stop, .destroy] := by
  intro proxmoxVmId w
  have hdestroy := @tryCatch_request_run env proxmoxVmId
    (w.log (carriedOut env proxmoxVmId [.stop])) .destroy
  rw [run_tryCatch] at hdestroy
  rw [deleteVm, run_tryCatch, EStateM.run_bind, tryCatch_request_run]
  refine hdestroy.trans ?_
  rw [World.log_log]
  simp only [carriedOut, ← List.map_append, ← List.filter_append, List.singleton_append]

/-! ### The two branches -/

/-- A commit that keeps the record of the calls. -/
def Saves (save : Service Unit) : Prop := ∀ w, ∃ w', save.run w = .ok () w' ∧ w'.done = w.done

theorem saves_saveVm (write : VmRow → VmRow) : Saves (saveVm vmId write) :=
  fun _ => ⟨_, rfl, rfl⟩

theorem saves_deleteRow : Saves (deleteRow vmId) := fun _ => ⟨_, rfl, rfl⟩

/-- Requests to the hypervisor perform an operation exactly when those that it consists of
succeed. -/
theorem performed_carriedOut_iff :
    Performed operation (carriedOut env proxmoxVmId operation.attempted) ↔
      ∀ call ∈ operation.required, env.Succeeds proxmoxVmId call := by
  -- the calls are among those that the operation attempts
  have hsubset : ∀ call ∈ operation.required, call ∈ operation.attempted := by
    intro call
    cases operation <;> simp +contextual [Operation.required, Operation.attempted]
  -- no call of the hypervisor is one to a container
  have hcontainer : .container operation.containerCall ∉
      carriedOut env proxmoxVmId operation.attempted := by
    simp [carriedOut]
  rw [Performed, or_iff_left hcontainer]
  exact forall₂_congr fun call hmem => mem_carriedOut (hsubset call hmem)

/-- Nothing is performed without a call. -/
theorem not_performed_nil : ¬ Performed operation [] := by
  rintro (hrequired | hcontainer)
  · cases operation <;> exact List.not_mem_nil (hrequired _ List.mem_cons_self)
  · exact List.not_mem_nil hcontainer

/-- A VM of the hypervisor: no error of the requests is reported. -/
theorem agrees_hypervisorBranch_iff (hcalls : Attempts env calls operation.attempted)
    (hsave : Saves save) :
    Agrees operation vms ((hypervisorBranch env vm calls save).run { vms, done := [] }) ↔
      (env.hypervisor = .ok () → ∃ proxmoxVmId, truthy vm.proxmoxVmId = some proxmoxVmId ∧
        ∀ call ∈ operation.required, env.Succeeds proxmoxVmId call) := by
  unfold hypervisorBranch
  rw [EStateM.run_bind]
  cases henv : env.hypervisor with
  | error e =>
    -- there is no provider, and nothing was changed yet
    exact iff_of_true (Or.inr rfl) fun hok => nomatch hok
  | ok u =>
    rw [forall_prop_of_true rfl]
    cases hid : truthy vm.proxmoxVmId with
    | none =>
      -- a row without an id on the hypervisor is saved without a call
      obtain ⟨w', hrun, hdone⟩ := hsave { vms, done := [] }
      refine iff_of_false ?_ fun ⟨_, heq, _⟩ => nomatch heq
      show ¬ Agrees operation vms (save.run { vms, done := [] })
      rw [hrun, Agrees, hdone]
      exact not_performed_nil
    | some proxmoxVmId =>
      -- the calls return whatever the requests did, and the change is saved after them
      obtain ⟨w', hrun, hdone⟩ := hsave
        (World.log { vms, done := [] } (carriedOut env proxmoxVmId operation.attempted))
      show Agrees operation vms (((calls proxmoxVmId) >>= fun _ => save).run { vms, done := [] }) ↔ _
      rw [EStateM.run_bind, hcalls]
      show Agrees operation vms (save.run _) ↔ _
      rw [hrun, Agrees, hdone]
      show Performed operation (carriedOut env proxmoxVmId operation.attempted) ↔ _
      rw [performed_carriedOut_iff]
      simp

/-- The answer of a container decides about the rest of an operation. -/
theorem agrees_callContainer_iff {provider : ContainerProvider} {name : String}
    (hvms : w.vms = vms) (hdone : ∀ call ∈ w.done, call = .container .stop)
    (hfresh : .container operation.containerCall ∉ w.done) (hsave : Saves save) :
    Agrees operation vms
        ((callContainer provider operation.containerCall name >>= fun _ => save).run w) ↔
      provider operation.containerCall name ≠ .ok false := by
  -- what was done before can only be the stop of the container
  have hrequired : ¬ ∀ call ∈ operation.required, .hypervisor call ∈ w.done := by
    intro hmem
    cases operation <;> exact nomatch hdone _ (hmem _ List.mem_cons_self)
  rw [EStateM.run_bind, callContainer]
  cases hcall : provider operation.containerCall name with
  | error e => exact iff_of_true (Or.inr hvms) fun hfalse => nomatch hfalse
  | ok success =>
    cases success with
    | true =>
      obtain ⟨w', hrun, hdone'⟩ := hsave (w.log [.container operation.containerCall])
      refine iff_of_true ?_ fun hfalse => nomatch hfalse
      show Agrees operation vms (save.run (w.log [.container operation.containerCall]))
      rw [hrun, Agrees, hdone']
      exact Or.inr (List.mem_append_right _ List.mem_cons_self)
    | false =>
      -- the call has failed, and the change is saved all the same
      obtain ⟨w', hrun, hdone'⟩ := hsave w
      refine iff_of_false ?_ (not_not_intro rfl)
      show ¬ Agrees operation vms (save.run w)
      rw [hrun, Agrees, hdone']
      exact not_or_intro hrequired hfresh

/-- A call that returns keeps the rows. -/
theorem callContainer_ok_run {provider : ContainerProvider} {name : String} {success : Bool}
    (h : provider .stop name = .ok success) (vms : Serial VmRow) :
    ∃ w, (callContainer provider .stop name).run { vms, done := [] } = .ok success w ∧
      w.vms = vms ∧ ∀ call ∈ w.done, call = .container .stop := by
  rw [callContainer, h]
  cases success with
  | true => exact ⟨_, rfl, rfl, fun call hmem => List.mem_singleton.mp hmem⟩
  | false => exact ⟨_, rfl, rfl, fun call hmem => nomatch hmem⟩

/-- An error that is raised again under another text. -/
theorem agrees_adaptExcept_iff {x : Service Unit} {f : ServiceError → ServiceError} :
    Agrees operation vms ((EStateM.adaptExcept f x).run w) ↔ Agrees operation vms (x.run w) := by
  rw [EStateM.run_adaptExcept]
  cases x.run w with
  | ok u w' => exact Iff.rfl
  | error e w' => exact Iff.rfl

/-! ### The operations -/

/-- An operation does nothing if its VM is missing or its check fails. -/
theorem agrees_loadVm_iff {body : VmRow → Service Unit} :
    Agrees operation vms ((loadVm vmId operation >>= body).run { vms, done := [] }) ↔
      ∀ vm, vms.get? vmId = some vm → operation.validate vm.status = .ok () →
        Agrees operation vms ((body vm).run { vms, done := [] }) := by
  rw [EStateM.run_bind, loadVm, EStateM.run_bind, EStateM.run_get]
  cases hvm : vms.get? vmId with
  | none =>
    simp only [hvm]
    exact iff_of_true (Or.inr rfl) fun vm hsome => nomatch hsome
  | some vm =>
    simp only [hvm]
    cases hvalid : operation.validate vm.status with
    | error e =>
      refine iff_of_true (Or.inr rfl) fun vm' hsome hok => ?_
      obtain rfl := Option.some.inj hsome
      exact nomatch hvalid.symm.trans hok
    | ok u =>
      constructor
      · rintro hagrees vm' hsome -
        obtain rfl := Option.some.inj hsome
        exact hagrees
      · exact fun h => h vm rfl hvalid

/-- The provider of a container is looked up first. -/
theorem agrees_getContainerProvider_iff {body : ContainerProvider → Service Unit} :
    Agrees operation vms
        ((raiseError (getContainerProvider env vm.provider) >>= body).run { vms, done := [] }) ↔
      ∀ provider, getContainerProvider env vm.provider = .ok provider →
        Agrees operation vms ((body provider).run { vms, done := [] }) := by
  rw [EStateM.run_bind]
  cases getContainerProvider env vm.provider with
  | error e => exact iff_of_true (Or.inr rfl) fun provider hok => nomatch hok
  | ok provider =>
    constructor
    · rintro hagrees _ ⟨⟩
      exact hagrees
    · exact fun h => h provider rfl

/-- What starting, stopping and restarting have in common. -/
theorem agrees_powerVmLogic_iff {power : Power}
    (hcalls : Attempts env (power.calls env) power.operation.attempted)
    (hcontainer : power.container = power.operation.containerCall)
    (hdelete : ∀ force, power.operation ≠ .delete force) :
    Agrees power.operation vms ((powerVmLogic power env vmId).run { vms, done := [] }) ↔
      Reported env vms vmId power.operation := by
  refine agrees_loadVm_iff.trans (forall₃_congr fun vm _ _ => ?_)
  rw [agrees_adaptExcept_iff]
  by_cases hprovider : vm.provider = "proxmox"
  · rw [if_pos hprovider, if_pos hprovider]
    exact agrees_hypervisorBranch_iff hcalls (saves_saveVm _)
  · rw [if_neg hprovider, if_neg hprovider]
    refine agrees_getContainerProvider_iff.trans (forall₂_congr fun provider _ => ?_)
    have hnostop : ¬ StopRaises power.operation vm provider :=
      fun ⟨⟨force, heq⟩, _⟩ => hdelete force heq
    rw [or_iff_right hnostop, hcontainer]
    exact agrees_callContainer_iff rfl (fun call hmem => nomatch hmem) List.not_mem_nil
      (saves_saveVm _)

theorem agrees_deleteVmLogic_iff {force : Bool} :
    Agrees (.delete force) vms ((deleteVmLogic force env vmId).run { vms, done := [] }) ↔
      Reported env vms vmId (.delete force) := by
  refine agrees_loadVm_iff.trans (forall₃_congr fun vm _ _ => ?_)
  by_cases hprovider : vm.provider = "proxmox"
  · rw [if_pos hprovider, if_pos hprovider]
    exact agrees_hypervisorBranch_iff attempts_deleteVm saves_deleteRow
  · rw [if_neg hprovider, if_neg hprovider]
    refine agrees_getContainerProvider_iff.trans (forall₂_congr fun provider _ => ?_)
    by_cases hrunning : vm.status = "running"
    · rw [if_pos hrunning, EStateM.run_bind]
      cases hstop : provider .stop vm.name with
      | error e =>
        -- the stop raises, and the row is not deleted
        refine iff_of_true ?_ (Or.inl ⟨⟨force, rfl⟩, hrunning, e, hstop⟩)
        unfold callContainer
        rw [hstop]
        exact Or.inr rfl
      | ok stopped =>
        have hnostop : ¬ StopRaises (.delete force) vm provider :=
          fun ⟨_, _, _, hraises⟩ => nomatch hstop.symm.trans hraises
        rw [or_iff_right hnostop]
        -- the value of the stop is ignored; the record of the calls differs
        obtain ⟨w, hrun, hvms, hdone⟩ := callContainer_ok_run hstop vms
        rw [hrun]
        exact agrees_callContainer_iff hvms hdone (fun hmem => nomatch hdone _ hmem)
          saves_deleteRow
    · have hnostop : ¬ StopRaises (.delete force) vm provider := fun ⟨_, heq, _⟩ => hrunning heq
      rw [if_neg hrunning, or_iff_right hnostop]
      exact agrees_callContainer_iff rfl (fun call hmem => nomatch hmem) List.not_mem_nil
        saves_deleteRow

/-- An operation of the service agrees with the provider exactly when no failure of the provider
is passed over. -/
theorem agrees_iff (env : Environment) (vms : Serial VmRow) (vmId : ℕ) (operation : Operation) :
    Agrees operation vms ((operation.run env vmId).run { vms, done := [] }) ↔
      Reported env vms vmId operation := by
  cases operation with
  | start => exact agrees_powerVmLogic_iff attempts_startVm rfl fun _ heq => nomatch heq
  | stop => exact agrees_powerVmLogic_iff attempts_stopVm rfl fun _ heq => nomatch heq
  | restart => exact agrees_powerVmLogic_iff attempts_restart rfl fun _ heq => nomatch heq
  | delete force => exact agrees_deleteVmLogic_iff

/-- A stopped VM of the hypervisor. -/
def stoppedVm : VmRow :=
  { name := "web"
    provider := "proxmox"
    status := "stopped"
    ipAddress := none
    networkId := none
    proxmoxVmId := some 100 }

/-- The API of the hypervisor refuses every request. -/
def refusing : Environment :=
  { hypervisor := .ok ()
    api := fun _ _ => .error (.other "no quorum")
    interfaces := fun _ => []
    containers := fun _ => none }

/-- A start that the hypervisor refuses is committed as a running VM. -/
theorem not_agrees : ¬ ∀ env vms vmId (operation : Operation),
    Agrees operation vms ((operation.run env vmId).run { vms, done := [] }) := by
  intro h
  have hstart := h refusing (Serial.empty.add stoppedVm) 1 .start
  rcases hstart with hrequired | hcontainer
  · exact List.not_mem_nil (hrequired _ List.mem_cons_self)
  · exact List.not_mem_nil hcontainer

end ProxmoxIaas.VmService
