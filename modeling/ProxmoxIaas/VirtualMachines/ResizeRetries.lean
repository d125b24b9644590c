import ProxmoxIaas.Foundation.Machine
import ProxmoxIaas.VirtualMachines.DiskResize

/-!
# Repetitions of the Resize of a Disk

Any number of requests for one and the same resize, made within the window in which a repetition is
recognised, each with or without a restart. They overlap in any way: a request loads its VM and
reads the disk, checks whether it is a repetition, has the hypervisor resize the disk, reads the
size again and commits it, restarts the VM, and commits the size once more.

The check finds the last resize of the disk only. It does not see a request that has resized the
disk but has not committed yet, and after a restart it finds a row that has added nothing.

## Main results

- `run_alone`: a request that is alone does what the endpoint does.
- `recentResize_spec`: what the check finds.
- `step_inv`: what a step does to a batch of repetitions.
- `once`: where the disk grows once and is charged once.
-/

namespace ProxmoxIaas.ResizeRetries

open DiskResize
open Quota (VmRow QuotaSettings DiskResizeRequest parseSizeToMib)

/-- The requests for one resize. -/
structure Batch where
  /-- The tenant of the users. -/
  tenantId : ℕ
  /-- The VM. -/
  vmId : ℕ
  /-- The disk. -/
  disk : String
  /-- The size to add. -/
  size : String
  /-- The time before which no request was made. -/
  start : ℤ
  deriving DecidableEq, Repr

/-- A request of a batch. -/
def Batch.request (batch : Batch) (restartAfterResize : Bool) : DiskResizeRequest :=
  ⟨batch.disk, batch.size, restartAfterResize⟩

/-- The row that the check of a request finds at some time. -/
def Batch.recent (batch : Batch) (s : DiskResize.State) (now : ℤ) : Option VMDiskResize :=
  recentResize s.resizes batch.vmId batch.disk now

/-- A request is made within the window that begins with the batch. -/
structure Batch.InWindow (batch : Batch) (env : Environment) : Prop where
  start_le : batch.start ≤ env.startedAt
  startedAt_le : env.startedAt ≤ env.now
  now_lt : env.now < batch.start + window
  now_le : env.now ≤ env.restartedAt

instance (batch : Batch) (env : Environment) : Decidable (batch.InWindow env) :=
  decidable_of_iff (batch.start ≤ env.startedAt ∧ env.startedAt ≤ env.now ∧
      env.now < batch.start + window ∧ env.now ≤ env.restartedAt)
    ⟨fun ⟨h₁, h₂, h₃, h₄⟩ => ⟨h₁, h₂, h₃, h₄⟩, fun ⟨h₁, h₂, h₃, h₄⟩ => ⟨h₁, h₂, h₃, h₄⟩⟩

/-- How far a request has come. -/
inductive Phase where
  /-- It has loaded the VM and read the disk. -/
  | opened
  /-- It is not taken for a repetition of the row that was found. -/
  | checked (recent : Option VMDiskResize)
  /-- The hypervisor has resized the disk. -/
  | grown
  /-- The size is committed, and a restart is asked for. -/
  | committed (newMib : ℕ)
  /-- The VM is restarted, and its row loaded again. -/
  | restarted (vm : VmRow) (newMib : ℕ)
  deriving DecidableEq, Repr

/-- A request in flight. -/
structure Call where
  /-- The user. -/
  userId : ℕ
  /-- Whether the VM is restarted afterwards. -/
  restartAfterResize : Bool
  /-- What the request meets outside of the database. -/
  env : Environment
  /-- Its local variables. -/
  opened : Opened
  /-- How far it has come. -/
  phase : Phase

/-- The committed database with the hypervisor, and the requests. -/
structure State where
  /-- The database and the hypervisor. -/
  base : DiskResize.State
  /-- Requests in flight. -/
  calls : Table ℕ Call
  /-- The responses of the requests that have succeeded. -/
  answers : List DiskResizeResponse

/-- The steps of the requests, which are named by a number. -/
inductive Event where
  /-- A request passes its first checks. -/
  | open (call userId : ℕ) (restartAfterResize : Bool) (env : Environment)
  /-- A request looks for the resize that it repeats. -/
  | check (call : ℕ)
  /-- A request calls the hypervisor. -/
  | grow (call : ℕ)
  /-- A request reads the size again and commits it. -/
  | commit (call : ℕ)
  /-- A request restarts the VM. -/
  | restart (call : ℕ)
  /-- A request commits the size after the restart. -/
  | sync (call : ℕ)
  /-- A request ends in the middle. -/
  | crash (call : ℕ)

/-- A request goes on. -/
def State.advance (s : State) (call : ℕ) (current : Call) (phase : Phase) : State :=
  { s with calls := s.calls.insert call { current with phase } }

/-- A request ends with an error. -/
def State.fail (s : State) (call : ℕ) : State := { s with calls := s.calls.erase call }

/-- A request ends with a response. -/
def State.answer (s : State) (call : ℕ) (response : DiskResizeResponse) : State :=
  { s with calls := s.calls.erase call, answers := response :: s.answers }

section Steps

variable (settings : ℕ → QuotaSettings) (iam : IamDb) (batch : Batch)

/-- Open a request of the batch. -/
def openStep (s : State) (call userId : ℕ) (restartAfterResize : Bool) (env : Environment) :
    State :=
  match openDiskResize settings iam userId batch.tenantId batch.vmId
    (batch.request restartAfterResize) env s.base with
  | .ok opened =>
    if s.calls.get? call = none ∧ batch.InWindow env then
      { s with
        calls := s.calls.insert call
          { userId, restartAfterResize, env, opened, phase := .opened } }
    else s
  | .error _ => s

/-- Check whether a request is a repetition. -/
def checkStep (s : State) (call : ℕ) : State :=
  match s.calls.get? call with
  | some current =>
    match current.phase with
    | .opened =>
      -- the check reads the committed rows, not those of other requests in flight
      let recent := batch.recent s.base current.env.now
      match repeated recent current.opened.requestedMib with
      | some row => s.answer call
          (.ofSizes batch.disk row.previousSizeMib row.newSizeMib "already_resized" false)
      | none => s.advance call current (.checked recent)
    | _ => s
  | none => s

/-- Have the hypervisor resize the disk. -/
def growStep (s : State) (call : ℕ) : State :=
  match s.calls.get? call with
  | some current =>
    match current.phase, current.env.resize with
    -- the request names the size to add, so that a second call adds it once more
    | .checked _, .ok () =>
      State.advance
        { s with
          base := s.base.growDisk current.opened.proxmoxId batch.disk
            current.opened.requestedMib }
        call current .grown
    | .checked _, .error _ => s.fail call
    | _, _ => s
  | none => s

/-- Read the size again and commit it. -/
def commitStep (s : State) (call : ℕ) : State :=
  match s.calls.get? call with
  | some current =>
    match current.phase, current.env.commit with
    | .grown, .ok () =>
      -- a disk that is not listed is taken to have grown as asked
      let newMib := (truthy (listed (s.base.disks current.opened.proxmoxId)
        current.env.listsResized batch.disk)).getD
          (current.opened.previousMib + current.opened.requestedMib)
      let committed : State :=
        { s with
          base := s.base.commitSize batch.vmId current.opened.vm
            { vmId := batch.vmId
              diskId := batch.disk
              previousSizeMib := current.opened.previousMib
              newSizeMib := newMib
              resizedBy := current.userId
              createdAt := current.env.startedAt } }
      if current.restartAfterResize then committed.advance call current (.committed newMib)
      else committed.answer call
        (.ofSizes batch.disk current.opened.previousMib newMib "resized" false)
    | .grown, .error _ => s.fail call
    | _, _ => s
  | none => s

/-- Restart a VM that is running, and load its row again. -/
def restartStep (s : State) (call : ℕ) : State :=
  match s.calls.get? call with
  | some current =>
    match current.phase with
    | .committed newMib =>
      match (s.base.vms.get? batch.vmId).filter fun vm =>
        vm.status = "running" ∧ current.env.restarts = true with
      | some vm => s.advance call current (.restarted vm newMib)
      | none => s.answer call
          (.ofSizes batch.disk current.opened.previousMib newMib "resized" false)
    | _ => s
  | none => s

/-- Commit the size after the restart, if the disk is listed. -/
def syncStep (s : State) (call : ℕ) : State :=
  match s.calls.get? call with
  | some current =>
    match current.phase with
    | .restarted vm newMib =>
      match (truthy (listed (s.base.disks current.opened.proxmoxId) current.env.listsRestarted
        batch.disk)).filter fun _ => current.env.commitsRestart with
      | none => s.answer call
          (.ofSizes batch.disk current.opened.previousMib newMib "resized" true)
      | some actualMib =>
        State.answer
          { s with
            base := s.base.commitSize batch.vmId vm
              { vmId := batch.vmId
                diskId := batch.disk
                -- the row of the resize says that the disk has had its new size before
                previousSizeMib := newMib
                newSizeMib := actualMib
                resizedBy := current.userId
                createdAt := current.env.restartedAt } }
          call (.ofSizes batch.disk current.opened.previousMib actualMib "resized" true)
    | _ => s
  | none => s

/-- The state after a step. -/
def step (s : State) : Event → State
  | .open call userId restartAfterResize env =>
    openStep settings iam batch s call userId restartAfterResize env
  | .check call => checkStep batch s call
  | .grow call => growStep batch s call
  | .commit call => commitStep batch s call
  | .restart call => restartStep batch s call
  | .sync call => syncStep batch s call
  | .crash call => s.fail call

/-- The rows of the disk are older than the batch, and what the check finds among them is not the
resize of the batch. -/
def Batch.New (db : DiskResize.State) : Prop :=
  (∀ row ∈ db.resizes, row.vmId = batch.vmId → row.diskId = batch.disk →
      row.createdAt < batch.start) ∧
    ∀ now (requestedMib : ℕ), parseSizeToMib batch.size = some (requestedMib : ℤ) → batch.start ≤ now →
      repeated (batch.recent db now) requestedMib = none

/-- The batches of requests that find a database. -/
def machine (db : DiskResize.State) : Machine State Event where
  init s := batch.New db ∧ s = { base := db, calls := ∅, answers := [] }
  step := step settings iam batch

/-- The row that the check of a request has found, if it is about to call the hypervisor. -/
def Phase.found : Phase → Option (Option VMDiskResize)
  | checked recent => some recent
  | _ => none

/-- No other request is between its call to the hypervisor and its commit. -/
def State.NoOtherGrown (s : State) (call : ℕ) : Prop :=
  ∀ other current, s.calls.get? other = some current → current.phase = .grown → other = call

/-- The branches that go wrong are not taken. When a request calls the hypervisor, no other one is
between its own call and its commit, the check would still find the row that it has found, and that
row is not one that a request of the batch has written after a restart. No request ends between its
call to the hypervisor and its commit. -/
def careful (s : State) : Event → Prop
  | .grow call => ∀ current ∈ s.calls.get? call, ∀ recent ∈ current.phase.found,
      s.NoOtherGrown call ∧ batch.recent s.base current.env.now = recent ∧
        ∀ row ∈ recent, batch.start ≤ row.createdAt → row.previousSizeMib ≠ row.newSizeMib
  | .commit call => ∀ current ∈ s.calls.get? call, current.phase = .grown →
      current.env.commit = .ok ()
  | .crash call => ∀ current ∈ s.calls.get? call, current.phase ≠ .grown
  | _ => True

instance (s : State) (call : ℕ) : Decidable (s.NoOtherGrown call) :=
  decidable_of_iff (∀ entry ∈ s.calls.entries, entry.2.phase = .grown → entry.1 = call)
    ⟨fun h other current hother => h ⟨other, current⟩ (Table.get?_eq_some_iff.mp hother),
      fun h entry hentry => h entry.1 entry.2 (Table.get?_eq_some_iff.mpr hentry)⟩

instance (s : State) : DecidablePred (careful batch s)
  | .open .. => isTrue trivial
  | .check _ => isTrue trivial
  | .grow call => inferInstanceAs (Decidable (∀ current ∈ s.calls.get? call,
      ∀ recent ∈ current.phase.found, s.NoOtherGrown call ∧
        batch.recent s.base current.env.now = recent ∧
          ∀ row ∈ recent, batch.start ≤ row.createdAt → row.previousSizeMib ≠ row.newSizeMib))
  | .commit call => inferInstanceAs (Decidable (∀ current ∈ s.calls.get? call,
      current.phase = .grown → current.env.commit = .ok ()))
  | .restart _ => isTrue trivial
  | .sync _ => isTrue trivial
  | .crash call => inferInstanceAs (Decidable (∀ current ∈ s.calls.get? call,
      current.phase ≠ .grown))

/-- Once no request is in flight, the disk and the stored size are as before and no request has
succeeded, or the disk has grown once and this size is stored. -/
def Once (db : DiskResize.State) (s : State) : Prop :=
  ∀ vm proxmoxId size (requestedMib : ℕ), db.vms.get? batch.vmId = some vm →
    hypervisorId vm batch.vmId = some proxmoxId →
    (db.disks proxmoxId).get? batch.disk = some size →
    parseSizeToMib batch.size = some (requestedMib : ℤ) → s.calls = ∅ →
      ((s.base.disks proxmoxId).get? batch.disk = some size ∧
          s.base.vms.get? batch.vmId = some vm ∧ s.answers = []) ∨
        ((s.base.disks proxmoxId).get? batch.disk = some (size + requestedMib) ∧
          s.base.vms.get? batch.vmId =
            some { vm with diskSizeMb := some (size + requestedMib) })

end Steps

/-! ### A request that is alone -/

section Alone

variable {settings : ℕ → QuotaSettings} {iam : IamDb} {batch : Batch} {base : DiskResize.State}
  {current : Call} {newMib : ℕ} {recent : Option VMDiskResize}

/-- A state without requests in flight. -/
def State.idle (base : DiskResize.State) (answers : List DiskResizeResponse) : State :=
  { base, calls := ∅, answers }

/-- A state with one request. -/
def State.single (base : DiskResize.State) (current : Call) : State :=
  { base, calls := AList.insert 0 current ∅, answers := [] }

/-- The steps of one request. -/
def alone (userId : ℕ) (restartAfterResize : Bool) (env : Environment) : List Event :=
  [.open 0 userId restartAfterResize env, .check 0, .grow 0, .commit 0, .restart 0, .sync 0]

theorem checkStep_single (hphase : current.phase = .opened) :
    checkStep batch (.single base current) 0 =
      match repeated (batch.recent base current.env.now) current.opened.requestedMib with
      | some row => .idle base
          [.ofSizes batch.disk row.previousSizeMib row.newSizeMib "already_resized" false]
      | none => .single base
          { current with phase := .checked (batch.recent base current.env.now) } := by
  obtain ⟨userId, restartAfterResize, env, opened, phase⟩ := current
  subst hphase
  rfl

theorem growStep_single (hphase : current.phase = .checked recent) :
    growStep batch (.single base current) 0 =
      match current.env.resize with
      | .ok () => .single
          (base.growDisk current.opened.proxmoxId batch.disk current.opened.requestedMib)
          { current with phase := .grown }
      | .error _ => .idle base [] := by
  obtain ⟨userId, restartAfterResize, env, opened, phase⟩ := current
  subst hphase
  unfold growStep
  simp only [State.single, Table.get?_insert, if_true]
  cases env.resize <;> rfl

/-- The last steps of a request. -/
theorem sync_restart_single (hphase : current.phase = .committed newMib) :
    syncStep batch (restartStep batch (.single base current) 0) 0 =
      .idle
        (restartResized current.userId batch.vmId (batch.request current.restartAfterResize)
          current.env base current.opened newMib).2
        [(restartResized current.userId batch.vmId (batch.request current.restartAfterResize)
          current.env base current.opened newMib).1] := by
  obtain ⟨userId, restartAfterResize, env, opened, phase⟩ := current
  subst hphase
  unfold restartStep restartResized
  simp only [State.single, Table.get?_insert, if_true]
  cases hvm : (base.vms.get? batch.vmId).filter fun vm =>
    vm.status = "running" ∧ env.restarts = true with
  | none => rfl
  | some vm =>
    simp only [syncStep, State.advance, Table.get?_insert, if_true]
    simp only [Batch.request]
    cases hlisted : truthy (listed (base.disks opened.proxmoxId) env.listsRestarted batch.disk) with
    | none => rfl
    | some actualMib =>
      by_cases hcommits : env.commitsRestart = true
      · simp only [Option.filter_some, hcommits, if_true]
        rfl
      · simp only [Option.filter_some, hcommits]
        rfl

/-- The steps after the check are the part of the endpoint after it. -/
theorem growAndCommit_single (hphase : current.phase = .checked recent) :
    syncStep batch (restartStep batch (commitStep batch (growStep batch
        (.single base current) 0) 0) 0) 0 =
      .idle
        (growAndCommit current.userId batch.vmId (batch.request current.restartAfterResize)
          current.env base current.opened).2
        (growAndCommit current.userId batch.vmId (batch.request current.restartAfterResize)
          current.env base current.opened).1.toOption.toList := by
  rw [growStep_single hphase]
  unfold growAndCommit
  cases hresize : current.env.resize with
  | error e => rfl
  | ok u =>
    dsimp only
    unfold commitStep
    simp only [State.single, Table.get?_insert, if_true]
    cases hcommit : current.env.commit with
    | error text => rfl
    | ok u =>
      dsimp only
      by_cases hrestart : current.restartAfterResize = true
      · simp only [Batch.request, hrestart, if_true]
        exact sync_restart_single rfl
      · simp only [Batch.request, hrestart]
        rfl

/-- Without a request nothing happens. -/
theorem steps_idle (answers : List DiskResizeResponse) :
    syncStep batch (restartStep batch (commitStep batch (growStep batch (checkStep batch
      (.idle base answers) 0) 0) 0) 0) 0 = .idle base answers := by
  have hcheck : checkStep batch (.idle base answers) 0 = .idle base answers := rfl
  have hgrow : growStep batch (.idle base answers) 0 = .idle base answers := rfl
  have hcommit : commitStep batch (.idle base answers) 0 = .idle base answers := rfl
  have hrestart : restartStep batch (.idle base answers) 0 = .idle base answers := rfl
  have hsync : syncStep batch (.idle base answers) 0 = .idle base answers := rfl
  rw [hcheck, hgrow, hcommit, hrestart, hsync]

/-- A request that is alone does what the endpoint does. -/
theorem run_alone (s db : DiskResize.State) {userId : ℕ} {restartAfterResize : Bool}
    {env : Environment} (hwindow : batch.InWindow env) :
    (machine settings iam batch db).run (.idle s []) (alone userId restartAfterResize env) =
      .idle
        (resizeVmDisk settings iam userId batch.tenantId batch.vmId
          (batch.request restartAfterResize) env s).2
        (resizeVmDisk settings iam userId batch.tenantId batch.vmId
          (batch.request restartAfterResize) env s).1.toOption.toList := by
  simp only [Machine.run, alone, List.foldl_cons, List.foldl_nil, machine, step]
  unfold resizeVmDisk openStep
  dsimp only [State.idle]
  cases hopen : openDiskResize settings iam userId batch.tenantId batch.vmId
    (batch.request restartAfterResize) env s with
  -- if the first check raises, no step finds a request
  | error e => exact steps_idle []
  | ok opened =>
    have hopened : (if Table.get? (∅ : Table ℕ Call) 0 = none ∧ batch.InWindow env then
        ({ base := s
           calls := AList.insert 0
            { userId, restartAfterResize, env, opened, phase := .opened } ∅
           answers := [] } : State)
        else { base := s, calls := ∅, answers := [] }) =
        .single s { userId, restartAfterResize, env, opened, phase := .opened } :=
      if_pos ⟨rfl, hwindow⟩
    dsimp only
    refine (congrArg (fun t => syncStep batch (restartStep batch (commitStep batch (growStep batch
      (checkStep batch t 0) 0) 0) 0) 0) hopened).trans ?_
    rw [checkStep_single rfl]
    simp only [Batch.recent, Batch.request]
    cases hrepeated : repeated (recentResize s.resizes batch.vmId batch.disk env.now)
        opened.requestedMib with
    | some row => rfl
    | none => exact growAndCommit_single rfl

end Alone

/-! ### What the check finds -/

/-- The check finds a row that is not older than any other row of the disk within the window. -/
theorem recentResize_spec {resizes : List VMDiskResize} {row : VMDiskResize} {now : ℤ}
    (hmem : row ∈ resizes) (hrecent : now - window < row.createdAt) :
    ∃ found ∈ resizes, recentResize resizes row.vmId row.diskId now = some found ∧
      found.vmId = row.vmId ∧ found.diskId = row.diskId ∧ row.createdAt ≤ found.createdAt := by
  unfold recentResize List.latest
  rw [List.head?_take, if_neg one_ne_zero]
  generalize hrows : resizes.filter _ = rows
  have hrow : row ∈ rows := by
    rw [← hrows, List.mem_filter]
    simp [hmem, hrecent]
  have hperm := List.perm_insertionSort (fun a b : VMDiskResize => b.createdAt ≤ a.createdAt) rows
  have hsorted := List.pairwise_insertionSort_time VMDiskResize.createdAt rows
  -- the rows are sorted by time, the latest first
  cases hsort : rows.insertionSort fun a b => b.createdAt ≤ a.createdAt with
  | nil =>
    rw [hsort] at hperm
    exact absurd (hperm.mem_iff.mpr hrow) List.not_mem_nil
  | cons found rest =>
    rw [hsort] at hperm hsorted
    have hfound : found ∈ rows := hperm.mem_iff.mp List.mem_cons_self
    rw [← hrows, List.mem_filter] at hfound
    simp only [decide_eq_true_eq] at hfound
    obtain ⟨hfound, hvm, hdisk, -⟩ := hfound
    refine ⟨found, hfound, rfl, hvm, hdisk, ?_⟩
    rcases List.mem_cons.mp (hperm.mem_iff.mpr hrow) with heq | hrest
    · rw [heq]
    · exact (List.pairwise_cons.mp hsorted).1 row hrest

/-! ### Invariants -/

/-- The resize of a batch, in terms of the database that the batch finds. -/
structure Target where
  /-- The row of the VM. -/
  vm : VmRow
  /-- The id of the VM on the hypervisor. -/
  proxmoxId : ℕ
  /-- The size of the disk. -/
  size : ℕ
  /-- The size to add. -/
  requestedMib : ℕ

/-- The size of the disk once it has grown. -/
def Target.newSize (target : Target) : ℕ := target.size + target.requestedMib

/-- The row of the VM once this size is stored. -/
def Target.resized (target : Target) : VmRow :=
  { target.vm with diskSizeMb := some target.newSize }

/-- The values of a target are those of a batch and a database. -/
structure Target.Of (target : Target) (batch : Batch) (db : DiskResize.State) : Prop where
  vm : db.vms.get? batch.vmId = some target.vm
  proxmoxId : hypervisorId target.vm batch.vmId = some target.proxmoxId
  size : (db.disks target.proxmoxId).get? batch.disk = some target.size
  requestedMib : parseSizeToMib batch.size = some (target.requestedMib : ℤ)

/-- A row that a request of the batch has written. -/
structure Batch.Wrote (batch : Batch) (row : VMDiskResize) : Prop where
  vmId : row.vmId = batch.vmId
  diskId : row.diskId = batch.disk
  start_le : batch.start ≤ row.createdAt

/-- What holds of every request in flight. -/
structure CallInv (batch : Batch) (target : Target) (current : Call) : Prop where
  requestedMib : current.opened.requestedMib = target.requestedMib
  positive : 0 < target.requestedMib
  proxmoxId : current.opened.proxmoxId = target.proxmoxId
  inWindow : batch.InWindow current.env
  checked : ∀ recent, current.phase = .checked recent → repeated recent target.requestedMib = none

/-- A request has not called the hypervisor yet. -/
def Phase.Early : Phase → Prop
  | opened => True
  | checked _ => True
  | _ => False

/-- What a request may be at once the batch has committed. -/
def Phase.Settled (target : Target) : Phase → Prop
  | opened => True
  | checked _ => True
  | grown => False
  | committed newMib => newMib = target.newSize
  | restarted vm newMib => vm = target.resized ∧ newMib = target.newSize

/-- How far a batch has come. -/
inductive Stage (batch : Batch) (target : Target) (db : DiskResize.State) (s : State) : Prop
  /-- No request has called the hypervisor. -/
  | untouched
      (disk : (s.base.disks target.proxmoxId).get? batch.disk = some target.size)
      (vm : s.base.vms.get? batch.vmId = some target.vm)
      (resizes : s.base.resizes = db.resizes)
      (answers : s.answers = [])
      (calls : ∀ call current, s.calls.get? call = some current → current.phase.Early ∧
        current.opened.vm = target.vm ∧ current.opened.previousMib = target.size)
  /-- One request has called the hypervisor and not committed yet. -/
  | growing (call : ℕ) (current : Call)
      (disk : (s.base.disks target.proxmoxId).get? batch.disk = some target.newSize)
      (vm : s.base.vms.get? batch.vmId = some target.vm)
      (resizes : s.base.resizes = db.resizes)
      (answers : s.answers = [])
      (getCall : s.calls.get? call = some current)
      (grown : current.phase = .grown)
      (loaded : current.opened.vm = target.vm)
      (previousMib : current.opened.previousMib = target.size)
      (others : ∀ other current, s.calls.get? other = some current → other ≠ call →
        current.phase.Early)
  /-- One request has committed the size. -/
  | done
      (disk : (s.base.disks target.proxmoxId).get? batch.disk = some target.newSize)
      (vm : s.base.vms.get? batch.vmId = some target.resized)
      (rows : ∀ row ∈ s.base.resizes, batch.Wrote row → row.newSizeMib = target.newSize ∧
        (row.previousSizeMib = target.size ∨ row.previousSizeMib = row.newSizeMib))
      (wrote : ∃ row ∈ s.base.resizes, batch.Wrote row)
      (calls : ∀ call current, s.calls.get? call = some current → current.phase.Settled target)

/-- The invariant of a batch whose steps are careful. -/
structure Inv (batch : Batch) (target : Target) (db : DiskResize.State) (s : State) : Prop where
  calls : ∀ call current, s.calls.get? call = some current → CallInv batch target current
  stage : Stage batch target db s

section Steps

variable {settings : ℕ → QuotaSettings} {iam : IamDb} {batch : Batch} {target : Target}
  {db : DiskResize.State} {s : State} {call : ℕ} {current : Call} {phase : Phase}

theorem Phase.Early.settled (h : phase.Early) : phase.Settled target := by
  cases phase with
  | opened => trivial
  | checked recent => trivial
  | grown => exact h.elim
  | committed newMib => exact h.elim
  | restarted vm newMib => exact h.elim

/-- The calls after one of them has gone on. -/
theorem get?_advance_eq_some {other : ℕ} {remaining : Call} :
    (s.advance call current phase).calls.get? other = some remaining ↔
      other = call ∧ { current with phase } = remaining ∨
        other ≠ call ∧ s.calls.get? other = some remaining :=
  Table.get?_insert_eq_some

/-- A request that does not stand between its call to the hypervisor and its commit may end. -/
theorem Inv.fail (h : Inv batch target db s)
    (hphase : ∀ current, s.calls.get? call = some current → current.phase ≠ .grown) :
    Inv batch target db (s.fail call) where
  calls other current hother := h.calls other current (Table.get?_erase_eq_some.mp hother).2
  stage := by
    cases h.stage with
    | untouched disk vm resizes answers calls =>
      exact .untouched disk vm resizes answers fun other current hother =>
        calls other current (Table.get?_erase_eq_some.mp hother).2
    | growing grower current disk vm resizes answers getCall grown loaded previousMib others =>
      -- the request that has called the hypervisor stays in flight
      have hne : grower ≠ call := by
        rintro rfl
        exact hphase current getCall grown
      exact .growing grower current disk vm resizes answers
        (Table.get?_erase_eq_some.mpr ⟨hne, getCall⟩) grown loaded previousMib
        fun other current hother => others other current (Table.get?_erase_eq_some.mp hother).2
    | done disk vm rows wrote calls =>
      exact .done disk vm rows wrote fun other current hother =>
        calls other current (Table.get?_erase_eq_some.mp hother).2

/-- A batch that has committed may answer. -/
theorem Inv.answer {response : DiskResizeResponse}
    (hcalls : ∀ call current, s.calls.get? call = some current → CallInv batch target current)
    (disk : (s.base.disks target.proxmoxId).get? batch.disk = some target.newSize)
    (vm : s.base.vms.get? batch.vmId = some target.resized)
    (rows : ∀ row ∈ s.base.resizes, batch.Wrote row → row.newSizeMib = target.newSize ∧
      (row.previousSizeMib = target.size ∨ row.previousSizeMib = row.newSizeMib))
    (wrote : ∃ row ∈ s.base.resizes, batch.Wrote row)
    (settled : ∀ other current, other ≠ call → s.calls.get? other = some current →
      current.phase.Settled target) :
    Inv batch target db (s.answer call response) where
  calls other current hother := hcalls other current (Table.get?_erase_eq_some.mp hother).2
  stage := by
    refine .done disk vm rows wrote fun other current hother => ?_
    obtain ⟨hne, hother⟩ := Table.get?_erase_eq_some.mp hother
    exact settled other current hne hother

/-- A request that goes on keeps what holds of it. -/
theorem CallInv.advance (h : CallInv batch target current)
    (hchecked : ∀ recent, phase = .checked recent →
      repeated recent target.requestedMib = none) :
    CallInv batch target { current with phase } where
  requestedMib := h.requestedMib
  positive := h.positive
  proxmoxId := h.proxmoxId
  inWindow := h.inWindow
  checked := hchecked

/-- What holds of the calls after one of them has gone on. -/
theorem calls_advance
    (h : ∀ call current, s.calls.get? call = some current → CallInv batch target current)
    (hcall : s.calls.get? call = some current)
    (hchecked : ∀ recent, phase = .checked recent →
      repeated recent target.requestedMib = none) :
    ∀ other remaining, (s.advance call current phase).calls.get? other = some remaining →
      CallInv batch target remaining := by
  intro other remaining hother
  rcases get?_advance_eq_some.mp hother with ⟨-, rfl⟩ | ⟨-, hother⟩
  · exact (h call current hcall).advance hchecked
  · exact h other remaining hother

/-- What the check of a request finds in the rows that were there before the batch. -/
theorem repeated_of_resizes_eq (hnew : batch.New db) (htarget : target.Of batch db)
    (hresizes : s.base.resizes = db.resizes) (hcurrent : CallInv batch target current) :
    repeated (batch.recent s.base current.env.now) target.requestedMib = none := by
  have hnow : batch.start ≤ current.env.now :=
    hcurrent.inWindow.start_le.trans hcurrent.inWindow.startedAt_le
  rw [Batch.recent, hresizes]
  exact hnew.2 _ _ htarget.requestedMib hnow

/-- Once the batch has committed, the check finds a row that a request of the batch has written. -/
theorem recent_of_wrote (hwrote : ∃ row ∈ s.base.resizes, batch.Wrote row)
    (hcurrent : CallInv batch target current) :
    ∃ found ∈ s.base.resizes, batch.recent s.base current.env.now = some found ∧
      batch.Wrote found := by
  obtain ⟨row, hmem, hrow⟩ := hwrote
  -- the row of a request of the batch is within the window of every other one
  have hrecent : current.env.now - window < row.createdAt := by
    have := hcurrent.inWindow.now_lt
    have := hrow.start_le
    omega
  obtain ⟨found, hfound, heq, hvm, hdisk, hle⟩ := recentResize_spec hmem hrecent
  rw [hrow.vmId, hrow.diskId] at heq
  exact ⟨found, hfound, heq, hvm.trans hrow.vmId, hdisk.trans hrow.diskId, hrow.start_le.trans hle⟩

/-! ### The steps -/

/-- A request that has not called the hypervisor goes on without doing so. -/
theorem Inv.advance_early (h : Inv batch target db s) (hcall : s.calls.get? call = some current)
    (hcurrent : current.phase.Early) (hphase : phase.Early)
    (hchecked : ∀ recent, phase = .checked recent →
      repeated recent target.requestedMib = none) :
    Inv batch target db (s.advance call current phase) where
  calls := calls_advance h.calls hcall hchecked
  stage := by
    cases h.stage with
    | untouched disk vm resizes answers calls =>
      refine .untouched disk vm resizes answers fun other remaining hother => ?_
      rcases get?_advance_eq_some.mp hother with ⟨-, rfl⟩ | ⟨-, hother⟩
      · exact ⟨hphase, (calls call current hcall).2⟩
      · exact calls other remaining hother
    | growing grower growing disk vm resizes answers getCall grown loaded previousMib others =>
      have hne : grower ≠ call := by
        rintro rfl
        obtain rfl := Option.some.inj (hcall.symm.trans getCall)
        rw [grown] at hcurrent
        exact hcurrent
      refine .growing grower growing disk vm resizes answers ?_ grown loaded previousMib
        fun other remaining hother hother' => ?_
      · exact get?_advance_eq_some.mpr (Or.inr ⟨hne, getCall⟩)
      · rcases get?_advance_eq_some.mp hother with ⟨-, rfl⟩ | ⟨-, hother⟩
        · exact hphase
        · exact others other remaining hother hother'
    | done disk vm rows wrote calls =>
      refine .done disk vm rows wrote fun other remaining hother => ?_
      rcases get?_advance_eq_some.mp hother with ⟨-, rfl⟩ | ⟨-, hother⟩
      · exact hphase.settled
      · exact calls other remaining hother

theorem Inv.check (hnew : batch.New db) (htarget : target.Of batch db)
    (h : Inv batch target db s) : Inv batch target db (checkStep batch s call) := by
  unfold checkStep
  split
  case h_2 => exact h
  case h_1 current hcall =>
    have hcurrent := h.calls call current hcall
    split
    case h_2 => exact h
    case h_1 hphase =>
      have hearly : current.phase.Early := by
        rw [hphase]
        trivial
      dsimp only
      rw [hcurrent.requestedMib]
      cases hrepeated : repeated (batch.recent s.base current.env.now) target.requestedMib with
      | none =>
        refine h.advance_early hcall hearly trivial fun recent heq => ?_
        rw [← Phase.checked.inj heq]
        exact hrepeated
      | some row =>
        -- only a batch that has committed is answered from a row
        cases h.stage with
        | untouched _ _ resizes =>
          have hnone := repeated_of_resizes_eq hnew htarget resizes hcurrent
          exact nomatch hrepeated.symm.trans hnone
        | growing _ _ _ _ resizes =>
          have hnone := repeated_of_resizes_eq hnew htarget resizes hcurrent
          exact nomatch hrepeated.symm.trans hnone
        | done disk vm rows wrote calls =>
          exact .answer h.calls disk vm rows wrote fun other remaining _ hother =>
            calls other remaining hother

theorem Inv.grow (hcareful : careful batch s (.grow call)) (h : Inv batch target db s) :
    Inv batch target db (growStep batch s call) := by
  unfold growStep
  split
  case h_2 => exact h
  case h_1 current hcall =>
    have hcurrent := h.calls call current hcall
    split
    case h_3 => exact h
    case h_2 recent _ hphase _ =>
      refine h.fail fun failing hfailing => ?_
      obtain rfl := Option.some.inj (hcall.symm.trans hfailing)
      rw [hphase]
      exact Phase.noConfusion
    case h_1 recent hphase _ =>
      obtain ⟨hother, hrecent, hrestart⟩ := hcareful current hcall recent (by rw [hphase]; rfl)
      cases h.stage with
      | untouched disk vm resizes answers calls =>
        obtain ⟨-, hloaded, hprevious⟩ := calls call current hcall
        rw [hcurrent.proxmoxId, hcurrent.requestedMib]
        refine ⟨calls_advance h.calls hcall fun _ heq => (nomatch heq),
          .growing call { current with phase := .grown } (get?_growDisk disk) vm resizes answers
            ?_ rfl hloaded hprevious fun other remaining hremaining hne => ?_⟩
        · exact get?_advance_eq_some.mpr (Or.inl ⟨rfl, rfl⟩)
        · obtain ⟨hcall', -⟩ | ⟨-, hremaining⟩ := get?_advance_eq_some.mp hremaining
          · exact absurd hcall' hne
          · exact (calls other remaining hremaining).1
      | growing grower growing _ _ _ _ getCall grown =>
        -- the request that has called the hypervisor is another one
        obtain rfl := hother grower growing getCall grown
        obtain rfl := Option.some.inj (hcall.symm.trans getCall)
        exact nomatch hphase.symm.trans grown
      | done disk vm rows wrote calls =>
        -- the check would have found that the request is a repetition
        obtain ⟨found, hmem, hfound, hwrote⟩ := recent_of_wrote wrote hcurrent
        obtain rfl := hrecent.symm.trans hfound
        obtain ⟨hnewSize, hprevious⟩ := rows found hmem hwrote
        have hadds : found.Adds target.requestedMib := by
          rcases hprevious with hsize | hsame
          · rw [VMDiskResize.Adds, hnewSize, hsize]
            rfl
          · exact absurd hsame (hrestart found rfl hwrote.start_le)
        have hnone := hcurrent.checked _ hphase
        rw [repeated, Option.filter_some, if_pos (decide_eq_true hadds)] at hnone
        cases hnone

theorem Inv.commit (hnew : batch.New db) (hcareful : careful batch s (.commit call))
    (h : Inv batch target db s) : Inv batch target db (commitStep batch s call) := by
  unfold commitStep
  split
  case h_2 => exact h
  case h_1 current hcall =>
    have hcurrent := h.calls call current hcall
    split
    case h_3 => exact h
    case h_2 hphase hcommit =>
      exact nomatch (hcareful current hcall hphase).symm.trans hcommit
    case h_1 hphase _ =>
      cases h.stage with
      | untouched _ _ _ _ calls =>
        have hearly := (calls call current hcall).1
        rw [hphase] at hearly
        exact hearly.elim
      | done _ _ _ _ calls =>
        have hsettled := calls call current hcall
        rw [hphase] at hsettled
        exact hsettled.elim
      | growing grower growing disk vm resizes answers getCall grown loaded previousMib others =>
        -- only the request that has called the hypervisor can commit
        obtain rfl : grower = call := by
          by_contra hne
          have hearly := others call current hcall (Ne.symm hne)
          rw [hphase] at hearly
          exact hearly
        obtain rfl := Option.some.inj (hcall.symm.trans getCall)
        have hnewMib : (truthy (listed (s.base.disks current.opened.proxmoxId)
            current.env.listsResized batch.disk)).getD
              (current.opened.previousMib + current.opened.requestedMib) = target.newSize := by
          have hpositive : 0 < target.newSize := Nat.add_pos_right _ hcurrent.positive
          rw [hcurrent.proxmoxId, truthy_listed _ disk hpositive, previousMib,
            hcurrent.requestedMib]
          split <;> rfl
        dsimp only
        rw [hnewMib]
        generalize hrow : VMDiskResize.mk batch.vmId batch.disk current.opened.previousMib
          target.newSize current.userId current.env.startedAt = row
        have hwrote : batch.Wrote row := by
          rw [← hrow]
          exact ⟨rfl, rfl, hcurrent.inWindow.start_le⟩
        have hstored : (s.base.commitSize batch.vmId current.opened.vm row).vms.get? batch.vmId =
            some target.resized := by
          rw [get?_commitSize vm loaded, ← hrow]
          rfl
        -- the other rows of the disk are older than the batch
        have hrows : ∀ old ∈ row :: s.base.resizes, batch.Wrote old →
            old.newSizeMib = target.newSize ∧
              (old.previousSizeMib = target.size ∨ old.previousSizeMib = old.newSizeMib) := by
          intro old hmem hold
          rcases List.mem_cons.mp hmem with rfl | hmem
          · rw [← hrow]
            exact ⟨rfl, Or.inl previousMib⟩
          · rw [resizes] at hmem
            exact absurd hold.start_le (not_le.mpr (hnew.1 old hmem hold.vmId hold.diskId))
        split
        · refine ⟨calls_advance h.calls hcall fun _ heq => (nomatch heq),
            .done disk hstored hrows ⟨row, List.mem_cons_self, hwrote⟩
              fun other remaining hremaining => ?_⟩
          rcases get?_advance_eq_some.mp hremaining with ⟨-, rfl⟩ | ⟨hne, hremaining⟩
          · rfl
          · exact (others other remaining hremaining hne).settled
        · exact .answer h.calls disk hstored hrows ⟨row, List.mem_cons_self, hwrote⟩
            fun other remaining hne hremaining => (others other remaining hremaining hne).settled

/-- The state of a batch with a request that has committed. -/
theorem Inv.done_of_committed (h : Inv batch target db s)
    (hcall : s.calls.get? call = some current) (hphase : ¬ current.phase.Early)
    (hgrown : current.phase ≠ .grown) :
    (s.base.disks target.proxmoxId).get? batch.disk = some target.newSize ∧
      s.base.vms.get? batch.vmId = some target.resized ∧
      (∀ row ∈ s.base.resizes, batch.Wrote row → row.newSizeMib = target.newSize ∧
        (row.previousSizeMib = target.size ∨ row.previousSizeMib = row.newSizeMib)) ∧
      (∃ row ∈ s.base.resizes, batch.Wrote row) ∧
      ∀ call current, s.calls.get? call = some current → current.phase.Settled target := by
  cases h.stage with
  | untouched _ _ _ _ calls => exact absurd (calls call current hcall).1 hphase
  | growing grower growing _ _ _ _ getCall grown _ _ others =>
    by_cases hne : call = grower
    · subst hne
      obtain rfl := Option.some.inj (hcall.symm.trans getCall)
      exact absurd grown hgrown
    · exact absurd (others call current hcall hne) hphase
  | done disk vm rows wrote calls => exact ⟨disk, vm, rows, wrote, calls⟩

theorem Inv.restart (h : Inv batch target db s) :
    Inv batch target db (restartStep batch s call) := by
  unfold restartStep
  split
  case h_2 => exact h
  case h_1 current hcall =>
    split
    case h_2 => exact h
    case h_1 newMib hphase =>
      -- the request has committed, so the batch has
      obtain ⟨disk, vm, rows, wrote, calls⟩ := h.done_of_committed hcall
        (by rw [hphase]; exact id) (by rw [hphase]; exact Phase.noConfusion)
      have hnewMib : newMib = target.newSize := by
        have hsettled := calls call current hcall
        rw [hphase] at hsettled
        exact hsettled
      split
      case h_2 =>
        exact .answer h.calls disk vm rows wrote fun other remaining _ hother =>
          calls other remaining hother
      case h_1 loaded hloaded =>
        obtain rfl : target.resized = loaded :=
          Option.some.inj (vm.symm.trans (Option.eq_some_of_filter_eq_some hloaded))
        refine ⟨calls_advance h.calls hcall fun _ heq => (nomatch heq),
          .done disk vm rows wrote fun other remaining hremaining => ?_⟩
        rcases get?_advance_eq_some.mp hremaining with ⟨-, rfl⟩ | ⟨-, hremaining⟩
        · exact ⟨rfl, hnewMib⟩
        · exact calls other remaining hremaining

theorem Inv.sync (h : Inv batch target db s) :
    Inv batch target db (syncStep batch s call) := by
  unfold syncStep
  split
  case h_2 => exact h
  case h_1 current hcall =>
    have hcurrent := h.calls call current hcall
    split
    case h_2 => exact h
    case h_1 loaded newMib hphase =>
      obtain ⟨disk, vm, rows, wrote, calls⟩ := h.done_of_committed hcall
        (by rw [hphase]; exact id) (by rw [hphase]; exact Phase.noConfusion)
      obtain ⟨hloaded, hnewMib⟩ : loaded = target.resized ∧ newMib = target.newSize := by
        have hsettled := calls call current hcall
        rw [hphase] at hsettled
        exact hsettled
      split
      case h_1 =>
        exact .answer h.calls disk vm rows wrote fun other remaining _ hother =>
          calls other remaining hother
      case h_2 actualMib hactual =>
        -- the size that is read after the restart is the one that is stored
        have hactualMib : actualMib = target.newSize := by
          have hpositive : 0 < target.newSize := Nat.add_pos_right _ hcurrent.positive
          have hlisted := Option.eq_some_of_filter_eq_some hactual
          rw [hcurrent.proxmoxId, truthy_listed _ disk hpositive] at hlisted
          split at hlisted
          · exact (Option.some.inj hlisted).symm
          · cases hlisted
        rw [hactualMib, hnewMib]
        generalize hrow : VMDiskResize.mk batch.vmId batch.disk target.newSize target.newSize
          current.userId current.env.restartedAt = row
        have hstored : (s.base.commitSize batch.vmId loaded row).vms.get? batch.vmId =
            some target.resized := by
          rw [get?_commitSize vm hloaded, ← hrow]
          rfl
        have hrows : ∀ old ∈ row :: s.base.resizes, batch.Wrote old →
            old.newSizeMib = target.newSize ∧
              (old.previousSizeMib = target.size ∨ old.previousSizeMib = old.newSizeMib) := by
          intro old hmem hold
          rcases List.mem_cons.mp hmem with rfl | hmem
          · rw [← hrow]
            exact ⟨rfl, Or.inr rfl⟩
          · exact rows old hmem hold
        obtain ⟨first, hfirst, hwrote⟩ := wrote
        exact .answer h.calls disk hstored hrows ⟨first, List.mem_cons_of_mem _ hfirst, hwrote⟩
          fun other remaining _ hother => calls other remaining hother

theorem Inv.open {userId : ℕ} {restartAfterResize : Bool} {env : Environment}
    (htarget : target.Of batch db) (h : Inv batch target db s) :
    Inv batch target db (openStep settings iam batch s call userId restartAfterResize env) := by
  unfold openStep
  split
  case h_2 => exact h
  case h_1 opened hopen =>
    obtain ⟨hvm, hid, hsize, hparse, hpositive⟩ := openDiskResize_eq_ok hopen
    split
    case isFalse => exact h
    case isTrue hfree =>
      obtain ⟨hfree, hwindow⟩ := hfree
      have hrequested : opened.requestedMib = target.requestedMib := by
        exact_mod_cast Option.some.inj (hparse.symm.trans htarget.requestedMib)
      -- a request that was made before has written the size only
      have hproxmox : opened.proxmoxId = target.proxmoxId := by
        have hstored : s.base.vms.get? batch.vmId = some target.vm ∨
            s.base.vms.get? batch.vmId = some target.resized := by
          cases h.stage with
          | untouched _ vm => exact Or.inl vm
          | growing _ _ _ vm => exact Or.inl vm
          | done _ vm => exact Or.inr vm
        have hsame : hypervisorId opened.vm batch.vmId = hypervisorId target.vm batch.vmId := by
          rcases hstored with hstored | hstored
          · rw [Option.some.inj (hvm.symm.trans hstored)]
          · rw [Option.some.inj (hvm.symm.trans hstored)]
            rfl
        exact Option.some.inj (hid.symm.trans (hsame.trans htarget.proxmoxId))
      constructor
      · intro other remaining hother
        rcases Table.get?_insert_eq_some.mp hother with ⟨-, rfl⟩ | ⟨-, hother⟩
        · exact ⟨hrequested, hrequested ▸ hpositive, hproxmox, hwindow, by rintro _ ⟨⟩⟩
        · exact h.calls other remaining hother
      · cases h.stage with
        | untouched disk vm resizes answers calls =>
          refine .untouched disk vm resizes answers fun other remaining hother => ?_
          rcases Table.get?_insert_eq_some.mp hother with ⟨-, rfl⟩ | ⟨-, hother⟩
          · refine ⟨trivial, Option.some.inj (hvm.symm.trans vm), ?_⟩
            rw [hproxmox] at hsize
            exact Option.some.inj (hsize.symm.trans disk)
          · exact calls other remaining hother
        | growing grower growing disk vm resizes answers getCall grown loaded previousMib others =>
          have hne : grower ≠ call := by
            rintro rfl
            cases hfree.symm.trans getCall
          refine .growing grower growing disk vm resizes answers ?_ grown loaded previousMib
            fun other remaining hother hother' => ?_
          · exact Table.get?_insert_eq_some.mpr (Or.inr ⟨hne, getCall⟩)
          · rcases Table.get?_insert_eq_some.mp hother with ⟨-, rfl⟩ | ⟨-, hother⟩
            · trivial
            · exact others other remaining hother hother'
        | done disk vm rows wrote calls =>
          refine .done disk vm rows wrote fun other remaining hother => ?_
          rcases Table.get?_insert_eq_some.mp hother with ⟨-, rfl⟩ | ⟨-, hother⟩
          · trivial
          · exact calls other remaining hother

/-- What a careful step does to a batch. -/
theorem step_inv (hnew : batch.New db) (htarget : target.Of batch db)
    (h : Inv batch target db s) (e : Event) (hcareful : careful batch s e) :
    Inv batch target db (step settings iam batch s e) := by
  cases e with
  | «open» call userId restartAfterResize env => exact h.open htarget
  | check call => exact h.check hnew htarget
  | grow call => exact h.grow hcareful
  | commit call => exact h.commit hnew hcareful
  | restart call => exact h.restart
  | sync call => exact h.sync
  | crash call => exact h.fail hcareful

end Steps

/-- In every run whose steps are careful, the repetitions of a resize grow the disk once and store
its size once. -/
theorem once (settings : ℕ → QuotaSettings) (iam : IamDb) (batch : Batch) (db : DiskResize.State)
    {s : State} (h : (machine settings iam batch db).Reachable (careful batch) s) :
    Once batch db s := by
  intro vm proxmoxId size requestedMib hvm hid hsize hparse hquiet
  let target : Target := ⟨vm, proxmoxId, size, requestedMib⟩
  have htarget : target.Of batch db := ⟨hvm, hid, hsize, hparse⟩
  have hinv : batch.New db ∧ Inv batch target db s := by
    refine h.invariant (fun s => batch.New db ∧ Inv batch target db s) ?_ ?_
    · -- the batch begins without a request, and the disk as it was found
      rintro s ⟨hnew, rfl⟩
      exact ⟨hnew, fun call current hcall => (nomatch hcall),
        .untouched hsize hvm rfl rfl fun call current hcall => (nomatch hcall)⟩
    · rintro s e ⟨hnew, hinv⟩ hcareful
      exact ⟨hnew, step_inv hnew htarget hinv e hcareful⟩
  cases hinv.2.stage with
  | untouched disk vm _ answers => exact Or.inl ⟨disk, vm, answers⟩
  -- a batch in this stage has a request in flight
  | growing call current _ _ _ _ getCall =>
    rw [hquiet] at getCall
    exact nomatch getCall
  | done disk vm => exact Or.inr ⟨disk, vm⟩

/-- The requests that add 10 GiB to the disk of a VM. -/
def webBatch : Batch where
  tenantId := 1
  vmId := 1
  disk := "scsi0"
  size := "+10G"
  start := 0

/-- The requests find a VM with one disk. -/
def webMachine : Machine State Event :=
  machine (fun _ => ⟨none, none, none, none, none⟩) resizerIam webBatch (webState 20480 oneDisk)

/-- The state before the first request. -/
def webStart : State where
  base := webState 20480 oneDisk
  calls := ∅
  answers := []

private theorem webMachine_init : webMachine.init webStart :=
  ⟨⟨fun _ hmem => (nomatch hmem), fun _ _ _ _ => rfl⟩, rfl⟩

/-- A later request. -/
def later : Environment := { calm with startedAt := 2, now := 3, restartedAt := 4 }

/-- A request is repeated before it has committed, and the repetition is recognised. -/
def overlap : List Event :=
  [.open 0 1 false calm, .check 0, .grow 0, .open 1 1 true later, .commit 0, .check 1]

theorem once_overlap : Once webBatch (webState 20480 oneDisk) (webMachine.run webStart overlap) :=
  once _ _ _ _ ((Machine.Reachable.start webMachine_init).run (by decide +kernel))

/-- A request is repeated after it has restarted the VM. -/
def repeatRestarted : List Event :=
  [.open 0 1 true calm, .check 0, .grow 0, .commit 0, .restart 0, .sync 0,
    .open 1 1 false later, .check 1, .grow 1, .commit 1]

/-- The repetition makes the disk grow again. -/
theorem not_once : ¬ ∀ settings iam batch db s,
    (machine settings iam batch db).Reachable Machine.anyStep s → Once batch db s := by
  intro h
  have hdisk : ((webMachine.run webStart repeatRestarted).base.disks 100).get? "scsi0" =
      some 40960 := by
    decide +kernel
  have hquiet : (webMachine.run webStart repeatRestarted).calls.entries = [] := by
    have hempty : (webMachine.run webStart repeatRestarted).calls.entries.isEmpty = true := by
      decide +kernel
    exact List.isEmpty_iff.mp hempty
  have hparse : parseSizeToMib webBatch.size = some ((10240 : ℕ) : ℤ) := by decide +kernel
  rcases h _ _ _ _ _ (Machine.reachable_run webMachine_init repeatRestarted) (webVm 20480) 100
    20480 10240 rfl rfl rfl hparse (AList.ext hquiet) with ⟨hsize, -⟩ | ⟨hsize, -⟩
  · exact absurd (Option.some.inj (hdisk.symm.trans hsize)) (by decide)
  · exact absurd (Option.some.inj (hdisk.symm.trans hsize)) (by decide)

end ProxmoxIaas.ResizeRetries
