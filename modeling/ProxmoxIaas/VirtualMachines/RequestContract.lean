import ProxmoxIaas.Foundation.Result
import ProxmoxIaas.Foundation.Table
import ProxmoxIaas.Provisioning.Model
import ProxmoxIaas.VirtualMachines.Schema

/-!
# What the Requests for VMs Pass On

`create_vm` and `fix_ghost_vm` read attributes of a request body or of a row, call helpers with
keyword arguments, and hand a dictionary to `deploy_vm_task`. None of this is checked before it
runs: a missing attribute and an unknown argument are exceptions, and a missing key is found by the
task.

## Main results

- `bind_eq_ok_iff`: the keyword arguments that a helper takes.
- `createVm_run`, `fixGhostVm_run`: how the two paths end.
- `contract_iff`: where they keep the contract with their helpers.
-/

namespace ProxmoxIaas.RequestContract

open VmSchema (VmBase)

/-- A value of an attribute or of a dictionary. -/
inductive Value where
  | none
  | int (n : ℤ)
  | text (s : String)
  /-- An object, by the name of its class. -/
  | object (className : String)
  deriving DecidableEq, Repr

/-- An optional column or field. -/
def Value.ofOption {α : Type} (f : α → Value) : Option α → Value
  | some a => f a
  | Option.none => .none

/-- The truthiness of a value. -/
def Value.truthy : Value → Bool
  | none => false
  | int n => n ≠ 0
  | text s => s ≠ ""
  | object _ => true

/-- A dictionary. -/
abbrev Dict := Table String Value

/-- A dictionary with some entries; a later entry of a key replaces an earlier one. -/
def Dict.of (entries : List (String × Value)) : Dict :=
  entries.foldl (fun dict entry => dict.insert entry.1 entry.2) ∅

/-- Why the arguments of a call are refused. -/
inductive CallError where
  /-- An argument that the function does not have. -/
  | unexpected (function argument : String)
  /-- Arguments that the function requires. -/
  | missing (function : String) (arguments : List String)
  deriving DecidableEq, Repr

/-- An exception. -/
inductive Raised where
  | attributeError (className name : String)
  | typeError (e : CallError)
  /-- The comparison of a value with a number. -/
  | comparison (value : Value)
  | valueError (message : String)
  /-- `HTTPException`. -/
  | http (status : ℕ) (detail : String)
  /-- `QuotaExceededError`, with its values as texts. -/
  | quotaExceeded (resource limit current requested : String)
  | integrityError
  /-- Any other exception. -/
  | other (text : String)
  deriving DecidableEq, Repr

/-- The parameters of a function. -/
structure Signature where
  /-- Its name. -/
  name : String
  /-- The parameters without a default. -/
  required : List String
  /-- The parameters with a default. -/
  optional : List String
  deriving DecidableEq, Repr

/-- The arguments of a call, by name: each must be known, and the required ones must be there. -/
def Signature.bind (signature : Signature) (arguments : List String) : Except CallError Unit :=
  match arguments.find? fun name => name ∉ signature.required ++ signature.optional with
  | some name => .error (.unexpected signature.name name)
  | none =>
    match signature.required.filter (· ∉ arguments) with
    | [] => .ok ()
    | absent => .error (.missing signature.name absent)

/-- A call is accepted when it has the required arguments and no unknown one. -/
theorem bind_eq_ok_iff {signature : Signature} {arguments : List String} :
    signature.bind arguments = .ok () ↔
      (∀ name ∈ signature.required, name ∈ arguments) ∧
        ∀ name ∈ arguments, name ∈ signature.required ∨ name ∈ signature.optional := by
  unfold Signature.bind
  -- an unknown argument is refused before a missing one
  cases hfind : arguments.find? fun name => name ∉ signature.required ++ signature.optional with
  | some name =>
    have hunknown := List.find?_some hfind
    have hmem := List.mem_of_find?_eq_some hfind
    simp only [List.mem_append, decide_eq_true_eq] at hunknown
    exact iff_of_false (fun h => nomatch h) fun h => hunknown (h.2 name hmem)
  | none =>
    rw [List.find?_eq_none] at hfind
    simp only [List.mem_append, decide_eq_true_eq, not_not] at hfind
    cases hmissing : signature.required.filter (· ∉ arguments) with
    | nil =>
      rw [List.filter_eq_nil_iff] at hmissing
      simp only [decide_eq_true_eq, not_not] at hmissing
      exact iff_of_true rfl ⟨hmissing, hfind⟩
    | cons name rest =>
      have hmem : name ∈ signature.required.filter (· ∉ arguments) := by
        rw [hmissing]
        exact List.mem_cons_self
      rw [List.mem_filter, decide_eq_true_eq] at hmem
      exact iff_of_false (fun h => nomatch h) fun h => hmem.2 (h.1 name hmem.1)

/-- `check_vm_quota`. -/
def checkVmQuota : Signature := ⟨"check_vm_quota", ["tenant_id", "db"], ["cpu", "ram", "disk_size"]⟩

/-- The arguments that `create_vm` gives to it. -/
def quotaArguments : List String := ["tenant_id", "db", "cpu", "ram", "disk_size_gb"]

/-- `deploy_vm_task`. -/
def deployVmTask : Signature :=
  ⟨"deploy_vm_task", ["vm_id", "vm_data_dict", "terraform_context_dict"], []⟩

/-- The arguments that both paths give to it. -/
def deployArguments : List String := ["vm_id", "vm_data_dict", "terraform_context_dict"]

/-- `check_vm_quota` has no parameter of the name that `create_vm` uses. -/
theorem checkVmQuota_bind_ne : checkVmQuota.bind quotaArguments ≠ .ok () := by
  intro h
  have hknown := (bind_eq_ok_iff.mp h).2 "disk_size_gb"
  exact absurd hknown (by decide)

/-- The arguments of `deploy_vm_task` are the ones that it has. -/
theorem deployVmTask_bind : deployVmTask.bind deployArguments = .ok () :=
  bind_eq_ok_iff.mpr ⟨fun _ hmem => hmem, fun _ hmem => Or.inl hmem⟩

/-! ### Bodies and rows -/

/-- `VMCreate`. -/
structure VMCreate extends VmBase where
  /-- The network. -/
  networkId : Option ℤ
  deriving DecidableEq, Repr

/-- The body as it is accepted. -/
def VMCreate.validate (body : VMCreate) : Option VMCreate := do
  let base ← body.toVmBase.validate
  return { base with networkId := body.networkId }

/-- A body that the schema has accepted. -/
structure AcceptedBody where
  /-- The body. -/
  body : VMCreate
  /-- It is what the schema makes of it. -/
  valid : body.validate = some body

/-- An accepted body is accepted again, as it is. -/
theorem VMCreate.validate_validate {body body' : VMCreate} (h : body.validate = some body') :
    body'.validate = some body' := by
  simp only [VMCreate.validate, Option.bind_eq_bind, Option.bind_eq_some_iff, Option.pure_def,
    Option.some.injEq] at h ⊢
  obtain ⟨base, hbase, rfl⟩ := h
  exact ⟨base, VmBase.validate_validate hbase, rfl⟩

/-- What the schema makes of a body that it accepts. -/
def AcceptedBody.of {body body' : VMCreate} (h : body.validate = some body') : AcceptedBody :=
  ⟨body', VMCreate.validate_validate h⟩

/-- `model_dump`. -/
def VMCreate.modelDump (body : VMCreate) : Dict :=
  Dict.of
    [("name", .text body.name), ("description", .ofOption .text body.description),
      ("cpu", .int body.cpu), ("ram", .int body.ram), ("provider", .text body.provider),
      ("image", .ofOption .text body.image), ("network_id", .ofOption .int body.networkId)]

/-- A field of a body. -/
def VMCreate.getattr (body : VMCreate) (name : String) : Except Raised Value :=
  Except.ofOption (.attributeError "VMCreate" name) (body.modelDump.get? name)

/-- The columns of `vms`. -/
inductive VmColumn where
  | id
  | name
  | description
  | provider
  | image
  | cpu
  | ram
  | diskSizeMb
  | ipAddress
  | status
  | terraformJobId
  | celeryTaskId
  | proxmoxVmId
  | templateId
  | error
  | ownerId
  | networkId
  | tenantId
  | sshUser
  | sshPublicKey
  | sshPrivateKeyEnc
  | createdAt
  | updatedAt
  deriving DecidableEq, Repr

/-- The attribute of a column. -/
def VmColumn.attribute : VmColumn → String
  | id => "id"
  | name => "name"
  | description => "description"
  | provider => "provider"
  | image => "image"
  | cpu => "cpu"
  | ram => "ram"
  | diskSizeMb => "disk_size_mb"
  | ipAddress => "ip_address"
  | status => "status"
  | terraformJobId => "terraform_job_id"
  | celeryTaskId => "celery_task_id"
  | proxmoxVmId => "proxmox_vm_id"
  | templateId => "template_id"
  | error => "error"
  | ownerId => "owner_id"
  | networkId => "network_id"
  | tenantId => "tenant_id"
  | sshUser => "ssh_user"
  | sshPublicKey => "ssh_public_key"
  | sshPrivateKeyEnc => "ssh_private_key_enc"
  | createdAt => "created_at"
  | updatedAt => "updated_at"

/-- All columns. -/
def VmColumn.all : List VmColumn :=
  [id, name, description, provider, image, cpu, ram, diskSizeMb, ipAddress, status, terraformJobId,
    celeryTaskId, proxmoxVmId, templateId, error, ownerId, networkId, tenantId, sshUser,
    sshPublicKey, sshPrivateKeyEnc, createdAt, updatedAt]

/-- The other attributes of a row: its relationships and the table of the status transitions. -/
def vmRelationships : List String :=
  ["owner", "network", "tenant", "snapshots", "disk_resizes", "VALID_STATUS_TRANSITIONS"]

/-- A row of `vms`. -/
abbrev VmRow := VmColumn → Value

/-- An attribute of a row. -/
def VmRow.getattr (vm : VmRow) (name : String) : Except Raised Value :=
  match VmColumn.all.find? (·.attribute = name) with
  | some column => .ok (vm column)
  | none =>
    if name ∈ vmRelationships then .ok (.object name) else .error (.attributeError "VM" name)

/-! ### The consumer -/

/-- A required field of the data of a VM. -/
def requireField (vmData : Dict) (field : String) : Except Raised Unit :=
  Except.require (.valueError s!"Missing required field: {field}")
    ((vmData.get? field).any Value.truthy = true)

/-- A number of the data of a VM, if it is there, is not too small. -/
def requireLeast (vmData : Dict) (field : String) (least : ℤ) (message : String) :
    Except Raised Unit :=
  match vmData.get? field with
  | none => .ok ()
  | some (.int n) => Except.require (.valueError message) (least ≤ n)
  | some value => .error (.comparison value)

/-- `_validate_vm_data`. -/
def validateVmData (vmData : Dict) : Except Raised Unit := do
  requireField vmData "name"
  requireField vmData "tenant_id"
  requireLeast vmData "cpu" 1 "CPU must be at least 1"
  requireLeast vmData "ram" 256 "RAM must be at least 256MB"

/-- An attribute of the object that `deploy_vm_task` makes of the data. -/
def mockAttr (vmData : Dict) (name : String) : Except Raised Value :=
  Except.ofOption (.attributeError "MockVMRequest" name) (vmData.get? name)

/-- The part of `get_terraform_context` that may fail: the attributes without a default. -/
def readTerraformAttributes (vmData : Dict) : Except Raised Unit := do
  let provider ← mockAttr vmData "provider"
  let _ ← mockAttr vmData "name"
  Except.require (.valueError "Unsupported provider")
    (provider = .text "docker" ∨ provider = .text "proxmox")
  let _ ← mockAttr vmData "ram"
  let _ ← mockAttr vmData "cpu"

/-- The data of a VM that `deploy_vm_task` can use. -/
def Usable (vmData : Dict) : Prop :=
  validateVmData vmData = .ok () ∧ readTerraformAttributes vmData = .ok ()

/-! ### The producers -/

/-- A task that was handed to the queue. -/
structure Dispatch where
  /-- The VM. -/
  vmId : ℕ
  /-- `vm_data_dict`. -/
  vmData : Dict
  /-- `terraform_context_dict`. -/
  terraformContext : Dict

/-- The committed rows, and the tasks that were dispatched. -/
structure World where
  /-- Table `vms`. -/
  vms : Serial VmRow
  /-- The tasks. -/
  tasks : List Dispatch

/-- A program that may raise; what it has committed by then stays. -/
abbrev Program := EStateM Raised World

/-- What the two paths meet outside of the tables. -/
structure Environment where
  /-- The detail of a refusal by the rate limit. -/
  rateLimited : Option String
  /-- Whether the user may create VMs. -/
  permitted : Bool
  /-- The user. -/
  userId : ℤ
  /-- The tenant. -/
  tenantId : ℤ
  /-- What the quota says. -/
  quota : Except Raised Unit
  /-- Whether the name is locked for the request. -/
  locks : Bool
  /-- The id that the queue gives to a task, or its error. -/
  queue : Except String (Option String)

/-- The value of a computation, or its exception. -/
def raise {α : Type} : Except Raised α → Program α
  | .ok a => return a
  | .error e => throw e

/-- The arguments of a call are bound. -/
def callHelper (signature : Signature) (arguments : List String) : Program Unit :=
  raise ((signature.bind arguments).mapError .typeError)

/-- Commit columns of a row. -/
def commitColumns (vmId : ℕ) (write : VmRow → VmRow) : Program Unit :=
  modify fun w => { w with vms := w.vms.modify vmId write }

/-- Write the status of a row. -/
def setStatus (status : String) (vm : VmRow) : VmRow := Function.update vm .status (.text status)

/-- `deploy_vm_task.delay`: the id of the task. -/
def delayDeploy (env : Environment) (dispatch : Dispatch) : Program (Option String) := do
  callHelper deployVmTask deployArguments
  match env.queue with
  | .error text => throw (.other text)
  | .ok task =>
    modify fun w => { w with tasks := w.tasks ++ [dispatch] }
    return task

/-- The row that `create_vm` inserts: the fields of the body, a few columns of its own, and the
defaults of the table. -/
def newVm (env : Environment) (vmDataDict : Dict) : VmRow
  | .ownerId => .int env.userId
  | .tenantId => .int env.tenantId
  | .status => .text "creating"
  | .ipAddress => .none
  | .diskSizeMb => .int 0
  | .sshUser => .text "ubuntu"
  | .createdAt => .object "datetime"
  | column => (vmDataDict.get? column.attribute).getD .none

/-- The insertion of a row; names are unique. -/
def insertVm (vm : VmRow) : Program ℕ := do
  let w ← get
  match w.vms.first? fun _ stored => stored .name = vm .name with
  | some _ => throw .integrityError
  | none =>
    set { w with vms := w.vms.add (Function.update vm .id (.int w.vms.next)) }
    return w.vms.next

/-- The part of `create_vm` after its row is committed. An error of the queue is reported, and a
task without an id is an error of the provider. -/
def dispatchVm (env : Environment) (body : VMCreate) (vmId : ℕ) : Program ℕ := do
  let task ← tryCatch
    (delayDeploy env
      { vmId
        vmData := body.modelDump
        terraformContext := Dict.of [("provider", .text body.provider)] })
    fun _ => do
      commitColumns vmId (setStatus "error")
      throw (.http 503 "Task queue is temporarily unavailable. VM creation failed - please retry.")
  match truthyText task with
  | none =>
    commitColumns vmId (setStatus "error")
    throw (.http 500 "An internal error occurred while creating the VM.")
  | some taskId =>
    commitColumns vmId fun vm =>
      setStatus "pending" (Function.update vm .celeryTaskId (.text taskId))
    return vmId

/-- `create_vm`. -/
def createVm (env : Environment) (body : VMCreate) : Program ℕ := do
  match env.rateLimited with
  | some detail => throw (.http 429 detail)
  | none => pure ()
  unless env.permitted do
    throw (.http 403 "You do not have permission to create VMs")
  tryCatch
    (do
      -- the arguments are evaluated before the call
      let _ ← raise (body.getattr "cpu")
      let _ ← raise (body.getattr "ram")
      let _ ← raise (body.getattr "disk_size_gb")
      callHelper checkVmQuota quotaArguments
      raise env.quota)
    fun
      | .quotaExceeded resource limit current requested =>
        throw (.http 400 (s!"Quota exceeded: {resource} limit of {limit} reached " ++
          s!"({current} used, requested {requested} more)"))
      | e => throw e
  unless env.locks do
    throw (.http 409 "VM is currently being created. Please try a different name or wait.")
  if body.networkId.any (· ≠ 0) ∧ body.provider = "docker" then
    throw (.http 400 ("Docker network provisioning is no longer supported. " ++
      "Use Proxmox provider with TenantNetwork."))
  let vmId ← tryCatch (insertVm (newVm env body.modelDump)) fun _ =>
    throw (.http 409 "VM name already exists. Please choose a different name.")
  dispatchVm env body vmId

/-- The dictionary of `fix_ghost_vm`. -/
def ghostData (name provider cpu ram diskSize networkId : Value) : Dict :=
  Dict.of
    [("name", name), ("provider", provider), ("cpu", cpu), ("ram", ram), ("disk_size", diskSize),
      ("network_id", networkId)]

/-- `Reconciler.fix_ghost_vm`. -/
def fixGhostVm (env : Environment) (vmId : ℕ) : Program (Bool × String) := do
  let w ← get
  match w.vms.get? vmId with
  | none => return (false, "VM not found")
  | some loaded =>
    commitColumns vmId (setStatus "pending")
    let vm := setStatus "pending" loaded
    let name ← raise (vm.getattr "name")
    let provider ← raise (vm.getattr "provider")
    let cpu ← raise (vm.getattr "cpu")
    let ram ← raise (vm.getattr "ram")
    let diskSize ← raise (vm.getattr "disk_size")
    let networkId ← raise (vm.getattr "network_id")
    let _ ← delayDeploy env
      { vmId
        vmData := ghostData name provider cpu ram diskSize networkId
        terraformContext := ∅ }
    return (true, "Re-provision task dispatched successfully")

/-! ### The contract -/

/-- The exceptions of a call or an attribute that does not exist. -/
def Raised.isContractError : Raised → Bool
  | attributeError .. => true
  | typeError _ => true
  | _ => false

/-- A path has used its helpers and objects as they are, and has dispatched usable data only. -/
def KeepsContract {α : Type} : EStateM.Result Raised World α → Prop
  | .ok _ w => ∀ dispatch ∈ w.tasks, Usable dispatch.vmData
  | .error e w => e.isContractError = false ∧ ∀ dispatch ∈ w.tasks, Usable dispatch.vmData

/-- If a path raises, a row is as it was. -/
def Atomic {α : Type} (vms : Serial VmRow) (vmId : ℕ) : EStateM.Result Raised World α → Prop
  | .ok _ _ => True
  | .error _ w => w.vms.get? vmId = vms.get? vmId

/-- A request that is refused before its quota is checked. -/
def Environment.Refused (env : Environment) : Prop :=
  env.rateLimited ≠ none ∨ env.permitted = false

variable {env : Environment} {body : VMCreate} {vmId : ℕ} {vms : Serial VmRow} {w : World}

/-- The fields of a body. -/
theorem get?_modelDump (body : VMCreate) (name : String) : body.modelDump.get? name =
    if name = "network_id" then some (.ofOption .int body.networkId)
    else if name = "image" then some (.ofOption .text body.image)
    else if name = "provider" then some (.text body.provider)
    else if name = "ram" then some (.int body.ram)
    else if name = "cpu" then some (.int body.cpu)
    else if name = "description" then some (.ofOption .text body.description)
    else if name = "name" then some (.text body.name)
    else none := by
  simp only [VMCreate.modelDump, Dict.of, List.foldl_cons, List.foldl_nil, Table.get?_insert,
    Table.get?_empty]

/-- `create_vm` reads a field that a body does not have, before it calls a helper that does not
have such a parameter. -/
theorem createVm_run (hlimit : env.rateLimited = none) (hpermitted : env.permitted = true) :
    (createVm env body).run w = .error (.attributeError "VMCreate" "disk_size_gb") w := by
  have hcpu : body.getattr "cpu" = .ok (.int body.cpu) := by
    rw [VMCreate.getattr, get?_modelDump]
    rfl
  have hram : body.getattr "ram" = .ok (.int body.ram) := by
    rw [VMCreate.getattr, get?_modelDump]
    rfl
  have hdisk : body.getattr "disk_size_gb" =
      .error (.attributeError "VMCreate" "disk_size_gb") := by
    rw [VMCreate.getattr, get?_modelDump]
    rfl
  unfold createVm
  rw [hlimit, hpermitted, hcpu, hram, hdisk]
  rfl

/-- A refused request raises nothing else. -/
theorem createVm_run_of_refused (h : env.Refused) :
    ∃ status detail, (createVm env body).run w = .error (.http status detail) w := by
  unfold createVm
  cases hlimit : env.rateLimited with
  | some detail => exact ⟨_, _, rfl⟩
  | none =>
    -- a request without the permission is refused after the rate limit has passed
    have hpermitted : env.permitted = false := h.resolve_left fun hne => hne hlimit
    rw [hpermitted]
    exact ⟨_, _, rfl⟩

/-- `fix_ghost_vm` commits the status of a row and then reads an attribute that rows do not
have. -/
theorem fixGhostVm_run {vm : VmRow} (hvm : w.vms.get? vmId = some vm) :
    (fixGhostVm env vmId).run w = .error (.attributeError "VM" "disk_size")
      { w with vms := w.vms.modify vmId (setStatus "pending") } := by
  -- the status is already committed when the attribute is read
  unfold fixGhostVm
  rw [EStateM.run_bind, EStateM.run_get]
  dsimp only
  rw [hvm]
  rfl

/-- Without a row `fix_ghost_vm` does nothing. -/
theorem fixGhostVm_run_none (hvm : w.vms.get? vmId = none) :
    (fixGhostVm env vmId).run w = .ok (false, "VM not found") w := by
  unfold fixGhostVm
  rw [EStateM.run_bind, EStateM.run_get]
  dsimp only
  rw [hvm]
  rfl

/-- Data without a tenant is not usable. -/
theorem not_usable {vmData : Dict} (h : vmData.get? "tenant_id" = none) : ¬ Usable vmData := by
  rintro ⟨hvalid, -⟩
  simp only [validateVmData, requireField, Except.bind_eq_ok_iff,
    Except.require_eq_ok_iff] at hvalid
  -- the check for the tenant comes after the one for the name
  obtain ⟨-, -, -, htenant, -⟩ := hvalid
  rw [h] at htenant
  cases htenant

/-- Where the two paths keep the contract with their helpers and with `deploy_vm_task`. -/
theorem contract_iff (env : Environment) (accepted : AcceptedBody) (vms : Serial VmRow)
    (vmId : ℕ) :
    (KeepsContract ((createVm env accepted.body).run { vms, tasks := [] }) ↔ env.Refused) ∧
      checkVmQuota.bind quotaArguments ≠ .ok () ∧ deployVmTask.bind deployArguments = .ok () ∧
      ¬ Usable accepted.body.modelDump ∧
      (KeepsContract ((fixGhostVm env vmId).run { vms, tasks := [] }) ↔ vms.get? vmId = none) ∧
      (∀ name provider cpu ram diskSize networkId,
        ¬ Usable (ghostData name provider cpu ram diskSize networkId)) ∧
      (Atomic vms vmId ((fixGhostVm env vmId).run { vms, tasks := [] }) ↔
        ∀ vm ∈ vms.get? vmId, vm .status = .text "pending") := by
  refine ⟨?_, checkVmQuota_bind_ne, deployVmTask_bind, not_usable (get?_modelDump _ _), ?_,
    fun _ _ _ _ _ _ => not_usable ?_, ?_⟩
  · by_cases hrefused : env.Refused
    · -- a request that is refused raises nothing but its refusal
      obtain ⟨status, detail, hrun⟩ := createVm_run_of_refused hrefused
      rw [hrun]
      exact iff_of_true ⟨rfl, List.forall_mem_nil _⟩ hrefused
    · -- every other one fails at the attribute
      have hpassed := not_or.mp hrefused
      rw [createVm_run (not_not.mp hpassed.1) (Bool.eq_true_of_not_eq_false hpassed.2)]
      exact iff_of_false (fun h => by cases h.1) hrefused
  · cases hvm : vms.get? vmId with
    | none =>
      rw [fixGhostVm_run_none hvm]
      exact iff_of_true (List.forall_mem_nil _) rfl
    | some vm =>
      rw [fixGhostVm_run hvm]
      exact iff_of_false (fun h => by cases h.1) (Option.some_ne_none _)
  · simp only [ghostData, Dict.of, List.foldl_cons, List.foldl_nil, Table.get?_insert,
      Table.get?_empty]
    rfl
  · cases hvm : vms.get? vmId with
    | none =>
      rw [fixGhostVm_run_none hvm]
      exact iff_of_true trivial fun _ hmem => by cases hmem
    | some vm =>
      rw [fixGhostVm_run hvm]
      show (vms.modify vmId (setStatus "pending")).get? vmId = vms.get? vmId ↔ _
      -- the row is as before exactly when its status was pending
      rw [Serial.get?_modify, if_pos rfl, hvm, Option.map_some, Option.some.injEq]
      constructor
      · rintro hsame vm' ⟨⟩
        rw [← hsame]
        exact Function.update_self ..
      · intro hstatus
        have hpending := hstatus vm rfl
        rw [setStatus, ← hpending, Function.update_eq_self]

/-- A body with a name of its own and the defaults. -/
def webBody : VMCreate where
  name := "web-1"
  description := none
  cpu := 2
  ram := 4096
  provider := "docker"
  image := none
  networkId := none

/-- A user who may create VMs. -/
def quiet : Environment where
  rateLimited := none
  permitted := true
  userId := 1
  tenantId := 1
  quota := .ok ()
  locks := true
  queue := .ok (some "task-1")

/-- The row of a VM that is lost on its provider. -/
def ghost : VmRow
  | .name => .text "web-1"
  | .status => .text "running"
  | _ => .none

/-- The smallest request is not created, and a ghost is left as pending. -/
theorem not_contract : (∃ accepted : AcceptedBody,
      ¬ KeepsContract ((createVm quiet accepted.body).run { vms := .empty, tasks := [] })) ∧
    ¬ Atomic (Serial.empty.add ghost) 1
      ((fixGhostVm quiet 1).run { vms := Serial.empty.add ghost, tasks := [] }) := by
  constructor
  · have hvalid : webBody.validate = some webBody := by decide +kernel
    refine ⟨.of hvalid, fun h => ?_⟩
    rw [createVm_run rfl rfl] at h
    exact nomatch h.1
  · intro h
    have hvm : (Serial.empty.add ghost).get? 1 = some ghost := rfl
    rw [fixGhostVm_run hvm] at h
    have hstatus := congrArg (Option.map fun vm : VmRow => vm .status) (Eq.trans h hvm)
    exact absurd hstatus (by decide)

end ProxmoxIaas.RequestContract
