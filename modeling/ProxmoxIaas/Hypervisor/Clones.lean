import ProxmoxIaas.Foundation.Lines
import ProxmoxIaas.Foundation.Polling
import ProxmoxIaas.Hypervisor.Api
import ProxmoxIaas.VirtualMachines.Schema
import Mathlib.Data.List.Infix

/-!
# Clones of Templates

`clone_opnsense` and `clone_vm_with_cloudinit` clone a template, wait for the task of the API, set
the configuration of the new VM, which is tried again while the VM is locked, and start it. The API
may answer anything to any request, and raise any exception of the HTTP library.

## Main results

- `clone_inOrder`: whatever the API answers, a VM is started at most once, after its clone is
  complete and has its configuration, and a clone succeeds exactly if all of this was reported.
-/

namespace ProxmoxIaas.Clones

open Polling ProxmoxApi

/-- The members of a configuration. -/
abbrev Config := List (String × List Char)

/-- A request to the API. -/
inductive Request where
  /-- Clone a template. -/
  | clone (templateId : ℕ) (form : List Char)
  /-- Ask for the status of a task. -/
  | taskStatus (upid : List Char)
  /-- Set the configuration of a VM. -/
  | configure (vmId : ℕ) (config : Config)
  /-- Start a VM. -/
  | start (vmId : ℕ)
  deriving DecidableEq, Repr

/-- An answer of the API. -/
abbrev Answer := Except Failure Response

/-- An exception inside of a clone. -/
inductive Error where
  /-- `RuntimeError` for a task that has failed, with its exit status. -/
  | task (exitStatus : Field)
  /-- An exception of the HTTP library. -/
  | api (failure : Failure)
  /-- Another one. -/
  | other (text : List Char)
  deriving DecidableEq, Repr

/-- Send a request. -/
def send (o : Outside Request Answer) (r : Request) (t : Trace Request Answer) :
    Except Error Data × Trace Request Answer :=
  ((api (t.reply o r)).mapError .api, t.exchange o r)

/-! ## Tasks -/

/-- The task of the API that data name, if it is one to wait for. A list or an object is not, since
its text begins with a bracket. -/
def upidOf : Data → Option (List Char)
  | .text upid => if "UPID:".toList <+: upid then some upid else none
  | .object _ | .other _ => none

/-- What the status of a task says. -/
def taskVerdict (_ : Unit) (a : Answer) : Verdict Unit (Except Error Unit) :=
  match api a with
  | .error _ => .more ()
  | .ok status =>
    match status.get "status", status with
    | .ok (some (.text ['s', 't', 'o', 'p', 'p', 'e', 'd'])), .object members =>
      let exitStatus := (members.lookup "exitstatus").getD (.text [])
      if exitStatus = .text ['O', 'K'] then .done (.ok ()) else .done (.error (.task exitStatus))
    | _, _ => .more ()

/-- `_wait_for_task`. -/
def waitForTask (o : Outside Request Answer) (upid : Data) (timeout : ℕ)
    (t : Trace Request Answer) : Except Error Unit × Trace Request Answer :=
  match upidOf upid with
  | none => (.ok (), t)
  | some upid =>
    poll o (.taskStatus upid) taskVerdict
      (.error (.other ("Task ".toList ++ upid ++ " timed out after ".toList ++
        (toString timeout).toList ++ ['s']))) (t.now + seconds timeout) pollPause () t

/-! ## Clones -/

/-- The name of a VM, of letters, digits and hyphens. -/
def sanitizeName (newVmId : ℕ) (name : List Char) : List Char :=
  let replaced := name.map fun c => if c.isAlphanum then c else '-'
  let stripped := ((replaced.dropWhile (· = '-')).reverse.dropWhile (· = '-')).reverse
  if stripped = [] then "vm-".toList ++ (toString newVmId).toList else stripped

/-- The form of a request to clone. -/
def cloneForm (node storage : List Char) (newVmId : ℕ) (name : List Char) : List Char :=
  "newid=".toList ++ (toString newVmId).toList ++ "&name=".toList ++ sanitizeName newVmId name ++
    "&full=1&target=".toList ++ node ++ "&storage=".toList ++ storage

/-- The task that a clone is, of which the text may be the whole response. -/
def opnsenseUpid (response : Response) : Except Error Data :=
  match response.data with
  | .ok data => .ok (data.getD (.text []))
  | .error _ => .ok (.text (Text.trim response.text))

/-- The task that a clone is. -/
def cloudinitUpid (response : Response) : Except Error Data :=
  match response.data with
  | .ok data => .ok (data.getD (.text []))
  | .error text => .error (.other text)

/-- What is to be done for a clone. -/
structure Plan where
  templateId : ℕ
  newVmId : ℕ
  form : List Char
  /-- How the task is read from the response. -/
  upid : Response → Except Error Data
  /-- The seconds until the VM is no longer locked. -/
  delay : ℕ
  /-- The configuration, or why there is none. -/
  config : Except Error Config
  /-- Whether the VM is started. -/
  autoStart : Bool

/-- Whether the configuration is set once more after an error. -/
def isLocked : Error → Bool
  | .api (.http text) => ['l', 'o', 'c', 'k'] <:+: text.map VmSchema.lowerChar
  | .api (.other _) | .task _ | .other _ => false

/-- Set the configuration. -/
def configure (o : Outside Request Answer) (vmId : ℕ) (config : Config)
    (t : Trace Request Answer) : Except Error Unit × Trace Request Answer :=
  retry (fun t => (((send o (.configure vmId config) t).1.map fun _ => ()),
      (send o (.configure vmId config) t).2)) isLocked
    (fun attempt => seconds ((attempt + 1) * 5)) 2 0 t

/-- Start the VM and wait until it runs. -/
def start (o : Outside Request Answer) (vmId : ℕ) :
    Trace Request Answer → Except Error Unit × Trace Request Answer :=
  andThen (send o (.start vmId)) fun upid => waitForTask o upid 60

/-- The task that the answer to a request to clone names. -/
def Plan.task (p : Plan) : Answer → Except Error Data
  | .error failure => .error (.api failure)
  | .ok response => p.upid response

/-- Send the request to clone and read the task. -/
def submit (o : Outside Request Answer) (p : Plan) (t : Trace Request Answer) :
    Except Error Data × Trace Request Answer :=
  (p.task (t.reply o (.clone p.templateId p.form)), t.exchange o (.clone p.templateId p.form))

/-- The body of both functions. -/
def clone (o : Outside Request Answer) (p : Plan) :
    Trace Request Answer → Except Error Unit × Trace Request Answer :=
  andThen (submit o p) fun upid =>
  andThen (waitForTask o upid 300) fun _ =>
  andThen (fun t => (p.config, t.sleep (seconds p.delay))) fun config =>
  andThen (configure o p.newVmId config) fun _ =>
  if p.autoStart then start o p.newVmId else fun t => (.ok (), t)

/-- What `clone_vm_with_cloudinit` is called with. -/
structure CloudInit where
  /-- The first network device of `vm_config`. -/
  net0 : Option (List Char)
  /-- The bridge of the tenant. -/
  lanBridge : Option (List Char)
  username : List Char
  password : Option (List Char)
  /-- The key of the user. -/
  sshPublicKey : Option (List Char)
  /-- Whether the address is static. -/
  ipMode : List Char
  /-- The static address. -/
  ipAddress : Option (List Char)
  gateway : List Char
  cpu : ℕ
  ram : ℕ
  /-- Whether the VM is started. -/
  autoStart : Bool
  /-- Whether only the resources are set. -/
  skipCloudinit : Bool

/-- The member of a configuration for an optional value that is not empty. -/
def optionalMember (key : String) (value : List Char → List Char) :
    Option (List Char) → Config
  | none | some [] => []
  | some text => [(key, value text)]

/-- The configuration of a new VM. The hash of a password and the encoding of a key are the ones of
the libraries. -/
def cloudinitConfig (hash quote : List Char → List Char) (c : CloudInit) : Except Error Config :=
  match c.net0, c.lanBridge with
  | some net0, _ => .ok (("net0", net0) :: rest)
  | none, some (b :: bridge) =>
    .ok (("net0", "virtio,bridge=".toList ++ (b :: bridge) ++ ",firewall=1".toList) :: rest)
  | none, none | none, some [] =>
    .error (.other "Either vm_config with net0 or lan_bridge must be provided".toList)
where
  /-- The members after the network device. -/
  rest : Config :=
    (if c.skipCloudinit then []
      else ("ciuser", c.username) :: optionalMember "cipassword" hash c.password ++
        optionalMember "sshkeys" quote c.sshPublicKey ++
        [("ipconfig0", if c.ipMode = "dhcp".toList then "ip=dhcp".toList
          else "ip=".toList ++ c.ipAddress.getD "None".toList ++ "/24,gw=".toList ++ c.gateway)]) ++
      [("cores", (toString c.cpu).toList), ("memory", (toString c.ram).toList)]

/-- An exception that reaches the caller. -/
inductive Raised where
  /-- The `RuntimeError` for a task that has failed. -/
  | task (exitStatus : Field)
  /-- Another `RuntimeError`. -/
  | failed (text : List Char)
  deriving DecidableEq, Repr

/-- Every exception is a `RuntimeError` in the end. -/
def raised (beginning : List Char) : Error → Raised
  | .task exitStatus => .task exitStatus
  | .api failure => .failed (beginning ++ failure.text)
  | .other text => .failed (beginning ++ text)

/-- The plan of `clone_opnsense`. -/
def opnsensePlan (node storage : List Char) (templateId newVmId : ℕ) (name lanBridge : List Char) :
    Plan where
  templateId
  newVmId
  form := cloneForm node storage newVmId name
  upid := opnsenseUpid
  delay := 5
  config := .ok [("net0", "virtio,bridge=vmbr0,firewall=0".toList),
    ("net1", "virtio,bridge=".toList ++ lanBridge ++ ",firewall=0".toList)]
  autoStart := true

/-- `clone_opnsense`. -/
def cloneOpnsense (o : Outside Request Answer) (node storage : List Char) (templateId newVmId : ℕ)
    (name lanBridge : List Char) (t : Trace Request Answer) :
    Except Raised Unit × Trace Request Answer :=
  let (result, t') := clone o (opnsensePlan node storage templateId newVmId name lanBridge) t
  (result.mapError (raised "Failed to clone VM: ".toList), t')

/-- The plan of `clone_vm_with_cloudinit`. -/
def cloudinitPlan (hash quote : List Char → List Char) (node storage : List Char)
    (templateId newVmId : ℕ) (name : List Char) (c : CloudInit) : Plan where
  templateId
  newVmId
  form := cloneForm node storage newVmId name
  upid := cloudinitUpid
  delay := 2
  config := cloudinitConfig hash quote c
  autoStart := c.autoStart

/-- `clone_vm_with_cloudinit`. -/
def cloneVmWithCloudinit (o : Outside Request Answer) (hash quote : List Char → List Char)
    (node storage : List Char) (templateId newVmId : ℕ) (name : List Char) (c : CloudInit)
    (t : Trace Request Answer) : Except Raised Unit × Trace Request Answer :=
  let (result, t') := clone o (cloudinitPlan hash quote node storage templateId newVmId name c) t
  (result.mapError (raised "Failed to clone VM with cloud-init: ".toList), t')

/-! ## What is said -/

/-- A request to clone. -/
def isClone : Request × Answer → Bool
  | (.clone .., _) => true
  | (.taskStatus _, _) | (.configure .., _) | (.start _, _) => false

/-- A request to set a configuration. -/
def isConfigure : Request × Answer → Bool
  | (.configure .., _) => true
  | (.taskStatus _, _) | (.clone .., _) | (.start _, _) => false

/-- A request to start a VM. -/
def isStart : Request × Answer → Bool
  | (.start _, _) => true
  | (.taskStatus _, _) | (.clone .., _) | (.configure .., _) => false

/-- An answer that is no error. -/
def isAccepted (a : Answer) : Bool := (api a).isOk

/-- The API has said that a task is complete, if data name one. -/
def TaskDone (upid : Data) (log : List (Request × Answer)) : Prop :=
  ∀ task, upidOf upid = some task →
    ∃ a, (Request.taskStatus task, a) ∈ log ∧ taskVerdict () a = .done (.ok ())

/-- The API has said that the clone is complete. -/
def Complete (p : Plan) (log : List (Request × Answer)) : Prop :=
  ∃ response rest upid, log = (.clone p.templateId p.form, .ok response) :: rest ∧
    p.upid response = .ok upid ∧ TaskDone upid rest

/-- The API has accepted the configuration. -/
def Configured (p : Plan) (log : List (Request × Answer)) : Prop :=
  ∃ config a, p.config = .ok config ∧ (Request.configure p.newVmId config, a) ∈ log ∧ isAccepted a

/-- The API has said that the VM runs. -/
def Running (p : Plan) (log : List (Request × Answer)) : Prop :=
  ∃ before a after upid, log = before ++ (.start p.newVmId, a) :: after ∧ api a = .ok upid ∧
    TaskDone upid after

section Steps

variable {o : Outside Request Answer}

/-- What is said while waiting for a task. -/
structure Waited (upid : Data) (polls : List (Request × Answer)) (result : Except Error Unit) :
    Prop where
  /-- Only its status is asked for. -/
  request : ∀ exchange ∈ polls, ∃ task, exchange.1 = .taskStatus task
  /-- The wait is over if the task is complete. -/
  result : result = .ok () ↔ TaskDone upid polls

/-- A status that settles the matter ends the wait. -/
theorem verdict_of_stateAfter {answers : List Answer} {result : Unit}
    (h : stateAfter taskVerdict () answers = some result) :
    ∀ a ∈ answers, taskVerdict () a = .more () := by
  induction answers with
  | nil => exact List.forall_mem_nil _
  | cons a answers ih =>
    rw [stateAfter] at h
    refine List.forall_mem_cons.mpr ?_
    cases hverdict : taskVerdict () a with
    | more u =>
      rw [hverdict] at h
      exact ⟨rfl, ih h⟩
    | done result =>
      rw [hverdict] at h
      cases h

theorem tells_waitForTask (o : Outside Request Answer) (upid : Data) (timeout : ℕ) :
    Tells (waitForTask o upid timeout) (Waited upid) := by
  intro t
  unfold waitForTask
  cases htask : upidOf upid with
  | none =>
    refine ⟨[], (List.append_nil _).symm, List.forall_mem_nil _, fun _ task h => ?_, fun _ => rfl⟩
    rw [htask] at h
    cases h
  | some task =>
    dsimp only
    have hmem : ∀ {answers : List Answer} {a : Answer},
        (Request.taskStatus task, a) ∈ answers.map (Request.taskStatus task, ·) → a ∈ answers :=
      fun h => by
        obtain ⟨a, ha, heq⟩ := List.mem_map.mp h
        exact (Prod.mk.inj heq).2 ▸ ha
    have hdone : ∀ log, TaskDone upid log ↔
        ∃ a, (Request.taskStatus task, a) ∈ log ∧ taskVerdict () a = .done (.ok ()) := fun log =>
      ⟨fun h => h task htask, fun h task' htask' => Option.some.inj (htask.symm.trans htask') ▸ h⟩
    have hended := ended_poll o (.taskStatus task) taskVerdict (.error (.other ("Task ".toList ++
      task ++ " timed out after ".toList ++ (toString timeout).toList ++ ['s'])))
      (t.now + seconds timeout) pollPause () t
    generalize poll o (.taskStatus task) taskVerdict _ (t.now + seconds timeout) pollPause () t =
      result at hended ⊢
    obtain ⟨result, t', now⟩ := result
    dsimp only at hended ⊢
    cases hended with
    | late answers hmore hlength =>
      refine ⟨_, rfl, fun _ h => ⟨task, fst_of_mem_map h⟩, ⟨fun h => (nomatch h), fun h => ?_⟩⟩
      obtain ⟨u, hu⟩ := Option.isSome_iff_exists.mp hmore
      obtain ⟨a, ha, hverdict⟩ := (hdone _).mp h
      rw [verdict_of_stateAfter hu a (hmem ha)] at hverdict
      cases hverdict
    | done answers u a result hafter hverdict hlength =>
      refine ⟨_, rfl, fun _ h => ⟨task, fst_of_mem_map h⟩, ?_⟩
      rw [hdone]
      constructor
      · rintro rfl
        exact ⟨a, List.mem_map_of_mem (List.mem_append_right _ List.mem_cons_self), hverdict⟩
      · rintro ⟨b, hb, hverdict'⟩
        rcases List.mem_append.mp (hmem hb) with hb | hb
        · rw [verdict_of_stateAfter hafter b hb] at hverdict'
          cases hverdict'
        · rw [List.mem_singleton.mp hb, hverdict] at hverdict'
          exact Verdict.done.inj hverdict'

/-- What is said while the configuration is set. -/
structure Put (vmId : ℕ) (config : Config) (left : ℕ) (puts : List (Request × Answer))
    (result : Except Error Unit) : Prop where
  /-- It is the same configuration each time. -/
  request : ∀ exchange ∈ puts, exchange.1 = .configure vmId config
  /-- How often it is set. -/
  length : puts.length ≤ left + 1
  /-- It is accepted the last time, or never. -/
  result : (result = .ok () ∧ ∃ a, puts.getLast? = some (.configure vmId config, a) ∧
    isAccepted a = true) ∨
    (∃ e, result = .error e) ∧ ∀ exchange ∈ puts, isAccepted exchange.2 = false

/-- A configuration that was set was accepted the last time. -/
theorem Put.accepted {vmId left : ℕ} {config : Config} {puts : List (Request × Answer)}
    (h : Put vmId config left puts (.ok ())) :
    ∃ a, puts.getLast? = some (.configure vmId config, a) ∧ isAccepted a = true := by
  rcases h.result with ⟨-, h⟩ | ⟨⟨e, h⟩, -⟩
  · exact h
  · cases h

theorem put_of_retried {vmId : ℕ} {config : Config} {left : ℕ} {log : List (Request × Answer)}
    {result : Except Error Unit}
    (h : Retried (fun log result => ∃ a, log = [(Request.configure vmId config, a)] ∧
      result = ((api a).mapError Error.api).map fun _ => ()) isLocked left log result) :
    Put vmId config left log result := by
  induction h with
  | last left log result h =>
    obtain ⟨a, rfl, rfl⟩ := h
    refine ⟨List.forall_mem_singleton.mpr rfl, Nat.le_add_left .., ?_⟩
    cases ha : api a with
    | ok data => exact .inl ⟨rfl, a, rfl, by rw [isAccepted, ha]; rfl⟩
    | error failure =>
      exact .inr ⟨⟨_, rfl⟩, List.forall_mem_singleton.mpr (by rw [isAccepted, ha]; rfl)⟩
  | more left log e rest result h hagain hrest ih =>
    obtain ⟨a, rfl, he⟩ := h
    have ha : isAccepted a = false := by
      unfold isAccepted
      cases ha : api a with
      | ok data =>
        rw [ha] at he
        cases he
      | error failure => rfl
    refine ⟨List.forall_mem_cons.mpr ⟨rfl, ih.request⟩, Nat.add_le_add_right ih.length 1, ?_⟩
    rcases ih.result with ⟨hresult, b, hb, hb'⟩ | ⟨hresult, hnone⟩
    · exact .inl ⟨hresult, b, by rw [List.getLast?_append, hb]; rfl, hb'⟩
    · exact .inr ⟨hresult, List.forall_mem_cons.mpr ⟨ha, hnone⟩⟩

theorem tells_configure (o : Outside Request Answer) (vmId : ℕ) (config : Config) :
    Tells (configure o vmId config) (Put vmId config 2) :=
  ((tells_exchange o (.configure vmId config) fun a =>
    ((api a).mapError Error.api).map fun _ => ()).retry isLocked
      (fun attempt => seconds ((attempt + 1) * 5)) 2 0).imp fun _ _ => put_of_retried

/-- What is said while the VM is started. -/
structure Starts (vmId : ℕ) (log : List (Request × Answer)) (result : Except Error Unit) :
    Prop where
  /-- It is started once, and then only its task is asked for. -/
  request : ∃ a polls, log = (.start vmId, a) :: polls ∧
    (∀ exchange ∈ polls, ∃ task, exchange.1 = .taskStatus task) ∧
    (result = .ok () ↔ ∃ upid, api a = .ok upid ∧ TaskDone upid polls)

theorem tells_start (o : Outside Request Answer) (vmId : ℕ) :
    Tells (start o vmId) (Starts vmId) := by
  refine ((tells_exchange o (.start vmId) fun a => (api a).mapError Error.api).andThen
    fun upid => tells_waitForTask o upid 60).imp ?_
  rintro log result (⟨e, rfl, a, rfl, ha⟩ | ⟨upid, log₁, polls, rfl, ⟨a, rfl, ha⟩, hpolls⟩)
  · refine ⟨a, [], rfl, List.forall_mem_nil _, ⟨fun h => (nomatch h), fun ⟨upid, h, _⟩ => ?_⟩⟩
    rw [h] at ha
    cases ha
  · refine ⟨a, polls, rfl, hpolls.request, hpolls.result.trans ⟨fun h => ?_, ?_⟩⟩
    · cases h' : api a with
      | ok upid' =>
        rw [h'] at ha
        exact ⟨upid', rfl, Except.ok.inj ha ▸ h⟩
      | error failure =>
        rw [h'] at ha
        cases ha
    · rintro ⟨upid', h', hdone⟩
      rw [h'] at ha
      exact Except.ok.inj ha ▸ hdone

end Steps

/-! ## Clones -/

/-- What is said in a clone. -/
inductive Cloned (p : Plan) : List (Request × Answer) → Except Error Unit → Prop where
  /-- It is refused, or its task cannot be read. -/
  | refused (a : Answer) (e : Error)
    (ha : ∀ response, a = .ok response → ∃ e, p.upid response = .error e) :
    Cloned p [(.clone p.templateId p.form, a)] (.error e)
  /-- It does not become complete. -/
  | incomplete (response : Response) (upid : Data) (polls : List (Request × Answer)) (e : Error)
    (hupid : p.upid response = .ok upid) (hpolls : Waited upid polls (.error e)) :
    Cloned p ((.clone p.templateId p.form, .ok response) :: polls) (.error e)
  /-- There is no configuration. -/
  | unknown (response : Response) (upid : Data) (polls : List (Request × Answer)) (e : Error)
    (hupid : p.upid response = .ok upid) (hpolls : Waited upid polls (.ok ()))
    (hconfig : p.config = .error e) :
    Cloned p ((.clone p.templateId p.form, .ok response) :: polls) (.error e)
  /-- The configuration is not accepted. -/
  | unconfigured (response : Response) (upid : Data) (polls puts : List (Request × Answer))
    (config : Config) (e : Error) (hupid : p.upid response = .ok upid)
    (hpolls : Waited upid polls (.ok ())) (hconfig : p.config = .ok config)
    (hputs : Put p.newVmId config 2 puts (.error e)) :
    Cloned p ((.clone p.templateId p.form, .ok response) :: (polls ++ puts)) (.error e)
  /-- The VM is not to be started. -/
  | configured (response : Response) (upid : Data) (polls puts : List (Request × Answer))
    (config : Config) (hupid : p.upid response = .ok upid)
    (hpolls : Waited upid polls (.ok ())) (hconfig : p.config = .ok config)
    (hputs : Put p.newVmId config 2 puts (.ok ())) (hstart : p.autoStart = false) :
    Cloned p ((.clone p.templateId p.form, .ok response) :: (polls ++ puts)) (.ok ())
  /-- The VM is started. -/
  | started (response : Response) (upid : Data) (polls puts starts : List (Request × Answer))
    (config : Config) (result : Except Error Unit) (hupid : p.upid response = .ok upid)
    (hpolls : Waited upid polls (.ok ())) (hconfig : p.config = .ok config)
    (hputs : Put p.newVmId config 2 puts (.ok ())) (hstart : p.autoStart = true)
    (hstarts : Starts p.newVmId starts result) :
    Cloned p ((.clone p.templateId p.form, .ok response) :: (polls ++ (puts ++ starts))) result

theorem tells_clone (o : Outside Request Answer) (p : Plan) : Tells (clone o p) (Cloned p) := by
  have hconfig : Tells (fun t : Trace Request Answer => (p.config, t.sleep (seconds p.delay)))
      fun log result => log = [] ∧ result = p.config := (tells_pure p.config).sleep _
  have hstart : Tells (if p.autoStart then start o p.newVmId else fun t => (.ok (), t))
      fun log result => (p.autoStart = true ∧ Starts p.newVmId log result) ∨
        (p.autoStart = false ∧ log = [] ∧ result = .ok ()) := by
    cases p.autoStart with
    | true => exact (tells_start o p.newVmId).imp fun _ _ h => .inl ⟨rfl, h⟩
    | false => exact (tells_pure (.ok ())).imp fun _ _ h => .inr ⟨rfl, h⟩
  have hclone := (tells_exchange o (.clone p.templateId p.form) p.task).andThen fun upid =>
    (tells_waitForTask o upid 300).andThen fun _ => hconfig.andThen fun config =>
      (tells_configure o p.newVmId config).andThen fun _ => hstart
  refine hclone.imp ?_
  rintro log result (⟨e, rfl, a, rfl, ha⟩ | ⟨upid, _, log, rfl, ⟨a, rfl, ha⟩, h⟩)
  · exact .refused a e fun response hresponse => ⟨e, by rw [hresponse] at ha; exact ha.symm⟩
  obtain ⟨response, rfl⟩ : ∃ response, a = .ok response := by
    cases a with
    | error failure => cases ha
    | ok response => exact ⟨response, rfl⟩
  rcases h with ⟨e, rfl, hpolls⟩ | ⟨⟨⟩, polls, log, rfl, hpolls, h⟩
  · exact .incomplete response upid log e ha.symm hpolls
  rcases h with ⟨e, rfl, rfl, hconfig⟩ | ⟨config, _, log, rfl, ⟨rfl, hconfig⟩, h⟩
  · rw [List.append_nil]
    exact .unknown response upid polls e ha.symm hpolls hconfig.symm
  rcases h with ⟨e, rfl, hputs⟩ | ⟨⟨⟩, puts, log, rfl, hputs, h⟩
  · exact .unconfigured response upid polls log config e ha.symm hpolls hconfig.symm hputs
  rcases h with ⟨hauto, hstarts⟩ | ⟨hauto, rfl, rfl⟩
  · exact .started response upid polls puts log config result ha.symm hpolls hconfig.symm hputs
      hauto hstarts
  · rw [List.append_nil]
    exact .configured response upid polls puts config ha.symm hpolls hconfig.symm hputs hauto

/-- What a caller can rely on. -/
structure InOrder {ε : Type*} (p : Plan) (said : List (Request × Answer))
    (result : Except ε Unit) : Prop where
  /-- The template is cloned once, and that first. -/
  cloned : ∃ a rest, said = (.clone p.templateId p.form, a) :: rest ∧
    ∀ exchange ∈ rest, isClone exchange = false
  /-- The same configuration is set each time, after the clone is complete. -/
  configured : ∀ before exchange after, said = before ++ exchange :: after → isConfigure exchange →
    Complete p before ∧ ∃ config, p.config = .ok config ∧
      exchange.1 = .configure p.newVmId config
  /-- It is set at most three times. -/
  configures : said.countP isConfigure ≤ 3
  /-- The VM is started at most once. -/
  starts : said.countP isStart ≤ 1
  /-- It is started right after its configuration was accepted. -/
  started : ∀ before exchange after, said = before ++ exchange :: after → isStart exchange →
    exchange.1 = .start p.newVmId ∧ p.autoStart = true ∧ Complete p before ∧
      ∃ config a, p.config = .ok config ∧
        before.getLast? = some (.configure p.newVmId config, a) ∧ isAccepted a = true
  /-- The clone succeeds exactly if all of this was reported. -/
  result : result = .ok () ↔
    Complete p said ∧ Configured p said ∧ (p.autoStart = true → Running p said)

section InOrder

variable {p : Plan} {polls puts starts : List (Request × Answer)} {result : Except Error Unit}

theorem TaskDone.append {upid : Data} {log : List (Request × Answer)} (h : TaskDone upid log)
    (rest : List (Request × Answer)) : TaskDone upid (log ++ rest) := fun task htask =>
  let ⟨a, ha, hdone⟩ := h task htask
  ⟨a, List.mem_append_left rest ha, hdone⟩

theorem Complete.append {log : List (Request × Answer)} (h : Complete p log)
    (rest : List (Request × Answer)) : Complete p (log ++ rest) := by
  obtain ⟨response, log, upid, rfl, hupid, hdone⟩ := h
  exact ⟨response, log ++ rest, upid, rfl, hupid, hdone.append rest⟩

theorem kinds_of_polls (h : ∀ exchange ∈ polls, ∃ task, exchange.1 = Request.taskStatus task) :
    ∀ exchange ∈ polls, isClone exchange = false ∧ isConfigure exchange = false ∧
      isStart exchange = false := by
  rintro ⟨request, a⟩ hmem
  obtain ⟨task, rfl : request = _⟩ := h _ hmem
  exact ⟨rfl, rfl, rfl⟩

/-- The part before an element of a kind that the first part has none of. -/
theorem exists_of_append {α : Type*} {kind : α → Bool} {first rest before after : List α} {x : α}
    (hfirst : ∀ y ∈ first, kind y = false) (hx : kind x = true)
    (h : first ++ rest = before ++ x :: after) :
    ∃ between, before = first ++ between ∧ rest = between ++ x :: after := by
  rcases List.append_eq_append_iff.mp h with ⟨between, hbefore, hrest⟩ | ⟨between, hbefore, hrest⟩
  · exact ⟨between, hbefore, hrest⟩
  · cases between with
    | nil => exact ⟨[], by rw [List.append_nil, ← List.append_nil before, hbefore], hrest.symm⟩
    | cons y between =>
      obtain ⟨rfl, -⟩ := List.cons.inj hrest
      rw [hfirst x (hbefore ▸ List.mem_append_right _ List.mem_cons_self)] at hx
      cases hx

theorem eq_of_append_cons {α : Type*} {kind : α → Bool} {first last before after : List α}
    {x y : α} (hfirst : ∀ z ∈ first, kind z = false) (hlast : ∀ z ∈ last, kind z = false)
    (hy : kind y = true) (h : first ++ x :: last = before ++ y :: after) :
    before = first ∧ y = x ∧ after = last := by
  obtain ⟨between, rfl, hrest⟩ := exists_of_append hfirst hy h
  cases between with
  | nil =>
    obtain ⟨rfl, rfl⟩ := List.cons.inj hrest
    exact ⟨List.append_nil _, rfl, rfl⟩
  | cons z between =>
    obtain ⟨-, rfl⟩ := List.cons.inj hrest
    rw [hlast y (List.mem_append_right _ List.mem_cons_self)] at hy
    cases hy

/-- The VM is started after its configuration was accepted, or not at all. -/
inductive StartsAfter (p : Plan) (puts : List (Request × Answer)) :
    List (Request × Answer) → Prop where
  /-- It is not started. -/
  | never : StartsAfter p puts []
  /-- It is started. -/
  | once (config : Config) (a b : Answer) (polls : List (Request × Answer))
    (hauto : p.autoStart = true) (hconfig : p.config = .ok config)
    (hlast : puts.getLast? = some (.configure p.newVmId config, a)) (ha : isAccepted a = true)
    (hpolls : ∀ exchange ∈ polls, ∃ task, exchange.1 = Request.taskStatus task) :
    StartsAfter p puts ((.start p.newVmId, b) :: polls)

theorem StartsAfter.kinds (h : StartsAfter p puts starts) :
    (∀ exchange ∈ starts, isClone exchange = false ∧ isConfigure exchange = false) ∧
      starts.countP isStart ≤ 1 := by
  cases h with
  | never => exact ⟨List.forall_mem_nil _, Nat.zero_le _⟩
  | once config a b polls hauto hconfig hlast ha hpolls =>
    have hkinds := kinds_of_polls hpolls
    have hnone : polls.countP isStart = 0 :=
      countP_eq_zero_of_forall fun e he => (hkinds e he).2.2
    refine ⟨List.forall_mem_cons.mpr ⟨⟨rfl, rfl⟩, fun e he => ⟨(hkinds e he).1, (hkinds e he).2.1⟩⟩,
      ?_⟩
    rw [List.countP_cons, hnone]
    exact le_rfl

/-- The stages of a clone are in order. -/
theorem inOrder_of {a : Answer}
    (hpolls : ∀ exchange ∈ polls, ∃ task, exchange.1 = Request.taskStatus task)
    (hcomplete : puts ≠ [] → Complete p ((.clone p.templateId p.form, a) :: polls))
    (hputs : ∀ exchange ∈ puts, ∃ config, p.config = .ok config ∧
      exchange.1 = .configure p.newVmId config)
    (hlength : puts.length ≤ 3) (hstarts : StartsAfter p puts starts)
    (hresult : result = .ok () ↔
      Complete p ((.clone p.templateId p.form, a) :: (polls ++ (puts ++ starts))) ∧
        Configured p ((.clone p.templateId p.form, a) :: (polls ++ (puts ++ starts))) ∧
        (p.autoStart = true →
          Running p ((.clone p.templateId p.form, a) :: (polls ++ (puts ++ starts))))) :
    InOrder p ((.clone p.templateId p.form, a) :: (polls ++ (puts ++ starts))) result := by
  have hpolls' := kinds_of_polls hpolls
  have hputs' : ∀ exchange ∈ puts, isClone exchange = false ∧ isStart exchange = false := by
    rintro ⟨request, b⟩ hmem
    obtain ⟨config, -, rfl : request = _⟩ := hputs _ hmem
    exact ⟨rfl, rfl⟩
  obtain ⟨hstarts', hcount⟩ := hstarts.kinds
  -- neither the clone nor its task sets the configuration or starts the VM
  have hfirst : ∀ exchange ∈ (Request.clone p.templateId p.form, a) :: polls,
      isConfigure exchange = false ∧ isStart exchange = false :=
    List.forall_mem_cons.mpr ⟨⟨rfl, rfl⟩, fun e he => (hpolls' e he).2⟩
  refine ⟨⟨a, _, rfl, ?_⟩, ?_, ?_, ?_, ?_, hresult⟩
  · exact List.forall_mem_append.mpr ⟨fun e he => (hpolls' e he).1,
      List.forall_mem_append.mpr ⟨fun e he => (hputs' e he).1, fun e he => (hstarts' e he).1⟩⟩
  · intro before exchange after h hexchange
    obtain ⟨between, rfl, hrest⟩ := exists_of_append (fun e he => (hfirst e he).1) hexchange h
    have hmem : exchange ∈ puts := by
      rcases List.mem_append.mp (hrest ▸ List.mem_append_right _ List.mem_cons_self) with
        hmem | hmem
      · exact hmem
      · rw [(hstarts' exchange hmem).2] at hexchange
        cases hexchange
    exact ⟨(hcomplete (List.ne_nil_of_mem hmem)).append between, hputs exchange hmem⟩
  · have hfew := List.countP_le_length (p := isConfigure) (l := puts)
    rw [← List.cons_append, List.countP_append, List.countP_append,
      countP_eq_zero_of_forall fun e he => (hfirst e he).1,
      countP_eq_zero_of_forall fun e he => (hstarts' e he).2]
    omega
  · rw [← List.cons_append, List.countP_append, List.countP_append,
      countP_eq_zero_of_forall fun e he => (hfirst e he).2,
      countP_eq_zero_of_forall fun e he => (hputs' e he).2]
    omega
  · intro before exchange after h hexchange
    have hnone : ∀ e ∈ (Request.clone p.templateId p.form, a) :: polls ++ puts,
        isStart e = false := List.forall_mem_append.mpr
      ⟨fun e he => (hfirst e he).2, fun e he => (hputs' e he).2⟩
    rw [← List.cons_append, ← List.append_assoc] at h
    cases hstarts with
    | never =>
      have hmem : exchange ∈ (Request.clone p.templateId p.form, a) :: polls ++ puts := by
        rw [← List.append_nil (_ ++ puts), h]
        exact List.mem_append_right _ List.mem_cons_self
      rw [hnone exchange hmem] at hexchange
      cases hexchange
    | once config b c polls' hauto hconfig hlast hb hpolls' =>
      have hne : puts ≠ [] := by
        rintro rfl
        cases hlast
      obtain ⟨rfl, rfl, -⟩ := eq_of_append_cons hnone
        (fun e he => (kinds_of_polls hpolls' e he).2.2) hexchange h
      refine ⟨rfl, hauto, (hcomplete hne).append puts, config, b, hconfig, ?_, hb⟩
      rw [List.getLast?_append, hlast]
      rfl

theorem InOrder.mapError {said : List (Request × Answer)} (h : InOrder p said result)
    (f : Error → Raised) : InOrder p said (result.mapError f) := by
  refine ⟨h.cloned, h.configured, h.configures, h.starts, h.started, h.result.symm.trans ?_ |>.symm⟩
  cases result with
  | error e => exact ⟨fun h => (nomatch h), fun h => (nomatch h)⟩
  | ok u => exact ⟨fun _ => rfl, fun _ => rfl⟩

end InOrder

section Result

variable {p : Plan} {response : Response} {upid : Data} {polls puts : List (Request × Answer)}
  {config : Config}

/-- Where no configuration was set, none was accepted. -/
theorem not_configured {log : List (Request × Answer)}
    (h : ∀ exchange ∈ log, isConfigure exchange = true → isAccepted exchange.2 = false) :
    ¬Configured p log := by
  rintro ⟨config, a, -, hmem, ha⟩
  exact Bool.false_ne_true ((h _ hmem rfl).symm.trans ha)

theorem complete_of_waited (hupid : p.upid response = .ok upid)
    (hpolls : Waited upid polls (.ok ())) :
    Complete p ((.clone p.templateId p.form, .ok response) :: polls) :=
  ⟨response, polls, upid, rfl, hupid, hpolls.result.mp rfl⟩

/-- A clone that ends before the configuration is set. -/
theorem inOrder_of_polls {a : Answer} {e : Error}
    (hpolls : ∀ exchange ∈ polls, ∃ task, exchange.1 = Request.taskStatus task) :
    InOrder p ((.clone p.templateId p.form, a) :: polls) (.error e) := by
  have hnone : ¬Configured p ((.clone p.templateId p.form, a) :: (polls ++ ([] ++ []))) := by
    refine not_configured (List.forall_mem_cons.mpr
      ⟨fun h => (nomatch h), fun exchange hmem h => ?_⟩)
    rw [List.append_nil, List.append_nil] at hmem
    rw [(kinds_of_polls hpolls exchange hmem).2.1] at h
    cases h
  have horder : InOrder p ((.clone p.templateId p.form, a) :: (polls ++ ([] ++ []))) (.error e) :=
    inOrder_of hpolls (fun h => absurd rfl h) (List.forall_mem_nil _) (Nat.zero_le _)
      (.never (p := p)) ⟨fun h => (nomatch h), fun ⟨_, h, _⟩ => absurd h hnone⟩
  rwa [List.append_nil, List.append_nil] at horder

end Result

/-- Whatever the API answers and how long it takes, a clone is made in order. -/
theorem Cloned.inOrder {p : Plan} {said : List (Request × Answer)} {result : Except Error Unit}
    (h : Cloned p said result) : InOrder p said result := by
  cases h with
  | refused a e ha => exact inOrder_of_polls (List.forall_mem_nil _)
  | incomplete response upid polls e hupid hpolls => exact inOrder_of_polls hpolls.request
  | unknown response upid polls e hupid hpolls hconfig => exact inOrder_of_polls hpolls.request
  | unconfigured response upid polls puts config e hupid hpolls hconfig hputs =>
    have hnone : ∀ exchange ∈ puts, isAccepted exchange.2 = false := by
      rcases hputs.result with ⟨h, -⟩ | ⟨-, h⟩
      · cases h
      · exact h
    rw [← List.append_nil puts]
    refine inOrder_of hpolls.request (fun _ => complete_of_waited hupid hpolls)
      (fun exchange hmem => ⟨config, hconfig, hputs.request exchange hmem⟩) hputs.length .never
      ⟨fun h => (nomatch h), fun ⟨_, h, _⟩ => absurd h (not_configured ?_)⟩
    refine List.forall_mem_cons.mpr ⟨fun h => (nomatch h), List.forall_mem_append.mpr
      ⟨fun exchange hmem h => ?_, ?_⟩⟩
    · rw [(kinds_of_polls hpolls.request exchange hmem).2.1] at h
      cases h
    · rw [List.append_nil]
      exact fun exchange hmem _ => hnone exchange hmem
  | configured response upid polls puts config hupid hpolls hconfig hputs hstart =>
    obtain ⟨a, hlast, ha⟩ := hputs.accepted
    have hcomplete := complete_of_waited hupid hpolls
    rw [← List.append_nil puts]
    refine inOrder_of hpolls.request (fun _ => hcomplete)
      (fun exchange hmem => ⟨config, hconfig, hputs.request exchange hmem⟩) hputs.length .never
      ⟨fun _ => ⟨hcomplete.append (puts ++ []), ⟨config, a, hconfig, ?_, ha⟩, fun h => ?_⟩,
        fun _ => rfl⟩
    · rw [List.append_nil]
      exact List.mem_cons_of_mem _ (List.mem_append_right _ (List.mem_of_getLast? hlast))
    · exact absurd (hstart.symm.trans h) Bool.false_ne_true
  | started response upid polls puts starts config result hupid hpolls hconfig hputs hstart
      hstarts =>
    obtain ⟨a, hlast, ha⟩ := hputs.accepted
    obtain ⟨b, polls', rfl, hpolls', hresult⟩ := hstarts.request
    have hcomplete := complete_of_waited hupid hpolls
    refine inOrder_of hpolls.request (fun _ => hcomplete)
      (fun exchange hmem => ⟨config, hconfig, hputs.request exchange hmem⟩) hputs.length
      (.once config a b polls' hstart hconfig hlast ha hpolls') (hresult.trans ⟨?_, ?_⟩)
    · rintro ⟨upid', hb, hdone⟩
      refine ⟨hcomplete.append _, ⟨config, a, hconfig, ?_, ha⟩, fun _ =>
        ⟨(.clone p.templateId p.form, .ok response) :: (polls ++ puts), b, polls', upid', ?_, hb,
          hdone⟩⟩
      · exact List.mem_cons_of_mem _ (List.mem_append_right _ (List.mem_append_left _
          (List.mem_of_getLast? hlast)))
      · rw [List.cons_append, List.append_assoc]
    · rintro ⟨-, -, hrunning⟩
      obtain ⟨before, c, after, upid', hlog, hc, hdone⟩ := hrunning hstart
      have hnone : ∀ e ∈ (Request.clone p.templateId p.form, .ok response) :: polls ++ puts,
          isStart e = false := by
        refine List.forall_mem_cons.mpr ⟨rfl, List.forall_mem_append.mpr
          ⟨fun e he => (kinds_of_polls hpolls.request e he).2.2, ?_⟩⟩
        rintro ⟨request, d⟩ hmem
        obtain rfl : request = _ := hputs.request _ hmem
        rfl
      rw [← List.cons_append, ← List.append_assoc] at hlog
      obtain ⟨-, heq, rfl⟩ := eq_of_append_cons hnone
        (fun e he => (kinds_of_polls hpolls' e he).2.2) rfl hlog
      exact ⟨upid', (Prod.mk.inj heq).2 ▸ hc, hdone⟩

end ProxmoxIaas.Clones
