import ProxmoxIaas.Foundation.Machine
import ProxmoxIaas.Foundation.Table

/-!
# The Dispatch of Image Builds

An image build starts with a request. Its medium is on the storage already, or the hypervisor
downloads it first, and then a poll of the progress finds that the download has ended. Whoever finds
the medium ready commits the status `ready`, dispatches the task that creates the VM, and commits the
status `creating_vm`. Requests, polls and tasks overlap in any way. A status is written only if it
differs from the one that was loaded before.

## Main results

- `Build.dispatches_pollAlone`: a poll that is alone dispatches a build whose download has succeeded.
- `Build.Inv.proceed`: what one step of an activity preserves.
- `dispatched_once`: the runs in which every build is dispatched once and its VM stays `running`.
- `not_dispatched_once`: the runs in which it is not.
-/

namespace ProxmoxIaas.BuildDispatch

/-- The statuses of a build up to its VM. -/
inductive Status where
  | downloadingIso
  | ready
  | creatingVm
  | running
  | error
  deriving DecidableEq, Repr

/-- The download task of the hypervisor. -/
inductive Download where
  | running
  | succeeded
  | failed
  deriving DecidableEq, Repr

/-- How far a request, a poll or a task has come. A status is the one that was loaded last. -/
inductive Stage where
  /-- A poll has loaded the build. -/
  | polled (loaded : Status)
  /-- A poll has found the download succeeded and the status `downloading_iso`. -/
  | checked
  /-- A poll has found the download failed. -/
  | failing (loaded : Status)
  /-- A poll, or a request for a medium on the storage, has committed the status `ready`. -/
  | committed
  /-- A request with an address has committed the build. -/
  | registered
  /-- The build is loaded again, and the task is dispatched next. -/
  | loaded (loaded : Status)
  /-- The task is dispatched. -/
  | dispatched (loaded : Status)
  /-- A task is in the queue. -/
  | queued
  /-- A task has loaded the build. -/
  | started (loaded : Status)
  /-- A task has committed the status `creating_vm`. -/
  | creating
  /-- A task has loaded the build again, and creates the VM. -/
  | starting (loaded : Status)
  /-- A task has committed the status `running`. -/
  | created
  /-- A task has failed for the last time. -/
  | givenUp
  /-- The callback for that has loaded the build. -/
  | givenUpLoaded (loaded : Status)
  /-- The activity has come to its end. -/
  | ended
  deriving DecidableEq, Repr

/-- A build, with what has come of it. -/
structure Build where
  /-- The status. -/
  status : Status
  /-- The download task; `none` if the medium was on the storage. -/
  download : Option Download
  /-- Whether the medium is only downloaded. -/
  downloadOnly : Bool
  /-- The activities on the build, in the order in which they began. -/
  activities : List Stage
  /-- How often the task was dispatched. -/
  dispatches : ℕ
  /-- How many tasks have succeeded. -/
  successes : ℕ
  deriving DecidableEq, Repr

/-- The status in the table after an assignment is committed: an assignment of the status that was
loaded writes nothing. -/
def assign (loaded new current : Status) : Status := if loaded = new then current else new

namespace Build

/-- An activity goes on. -/
def move (b : Build) (i : ℕ) (stage : Stage) : Build :=
  { b with activities := b.activities.set i stage }

/-- An activity commits a status and goes on. -/
def commit (b : Build) (i : ℕ) (loaded new : Status) (stage : Stage) : Build :=
  { b.move i stage with status := assign loaded new b.status }

/-- `create_build_vm_task.delay`. -/
def dispatch (b : Build) : Build :=
  { b with activities := b.activities ++ [.queued], dispatches := b.dispatches + 1 }

/-- What an activity does next: `get_download_progress` from `polled` on, `start_build` from
`committed` or `registered` on, `create_build_vm_task` from `queued` on. -/
def proceed (b : Build) (i : ℕ) : Stage → Build
  | .polled loaded =>
    match b.download with
    | some .succeeded => b.move i (if loaded = .downloadingIso then .checked else .ended)
    | some .failed => b.move i (.failing loaded)
    | some .running | none => b.move i .ended
  | .checked => b.commit i .downloadingIso .ready .committed
  | .failing loaded => b.commit i loaded .error .ended
  -- the commit expires the attributes, so the next one that is read loads the row
  | .committed => b.move i (if b.downloadOnly then .ended else .loaded b.status)
  | .registered =>
    b.move i (if b.status = .ready ∧ b.downloadOnly = false then .loaded b.status else .ended)
  | .loaded loaded => (b.move i (.dispatched loaded)).dispatch
  | .dispatched loaded => b.commit i loaded .creatingVm .ended
  | .queued => b.move i (.started b.status)
  | .started loaded => b.commit i loaded .creatingVm .creating
  | .creating => b.move i (.starting b.status)
  | .starting loaded => b.commit i loaded .running .created
  | .created => { b.move i .ended with successes := b.successes + 1 }
  | .givenUp => b.move i (.givenUpLoaded b.status)
  | .givenUpLoaded loaded => b.commit i loaded .error .ended
  | .ended => b

/-- A task fails. One that has its build commits the status `error`, and runs again unless it was
its last time; one that has none fails for good. -/
def fail (b : Build) (i : ℕ) (again : Bool) : Stage → Build
  | .queued => b.move i .givenUp
  | .started _ | .creating | .starting _ | .created =>
    { b.move i (if again then .queued else .givenUp) with status := .error }
  | .polled _ | .checked | .failing _ | .committed | .registered | .loaded _ | .dispatched _
  | .givenUp | .givenUpLoaded _ | .ended => b

end Build

/-- What can happen to a build. -/
inductive BuildEvent where
  /-- The download ends. -/
  | downloadEnds (succeeds : Bool)
  /-- A client polls the progress. -/
  | poll
  /-- An activity takes its next step. -/
  | proceed (i : ℕ)
  /-- A task fails. -/
  | fail (i : ℕ) (again : Bool)
  /-- An activity ends where it is: an exception, a restart of the process, or a lost task. -/
  | die (i : ℕ)
  deriving DecidableEq, Repr

/-- The build after an event. -/
def Build.after (b : Build) : BuildEvent → Build
  | .downloadEnds succeeds =>
    if b.download = some .running then
      { b with download := some (if succeeds then .succeeded else .failed) }
    else b
  | .poll => { b with activities := b.activities ++ [.polled b.status] }
  | .proceed i => (b.activities[i]?).elim b (b.proceed i)
  | .fail i again => (b.activities[i]?).elim b (b.fail i again)
  | .die i => b.move i .ended

/-- The events on all builds. -/
inductive Event where
  /-- `start_build` with a volume. -/
  | startFromVolume (vmid : ℤ)
  /-- `start_build` with an address, whose medium may be on the storage already. -/
  | startFromUrl (vmid : ℤ) (alreadyExists downloadOnly : Bool)
  /-- Something happens to a build. -/
  | act (vmid : ℤ) (event : BuildEvent)
  deriving DecidableEq, Repr

/-- The build of a request with a volume. -/
def Build.ofVolume : Build where
  status := .ready
  download := none
  downloadOnly := false
  activities := [.committed]
  dispatches := 0
  successes := 0

/-- The build of a request with an address. -/
def Build.ofUrl (alreadyExists downloadOnly : Bool) : Build where
  status := if alreadyExists then .ready else .downloadingIso
  download := if alreadyExists then none else some .running
  downloadOnly := downloadOnly
  activities := [.registered]
  dispatches := 0
  successes := 0

/-- The table of builds by the ids of their VMs. -/
abbrev State := Table ℤ Build

/-- A row is inserted unless its id is taken. -/
def insertBuild (s : State) (vmid : ℤ) (b : Build) : State :=
  if (s.get? vmid).isSome then s else s.insert vmid b

/-- The table after an event. -/
def step (s : State) : Event → State
  | .startFromVolume vmid => insertBuild s vmid .ofVolume
  | .startFromUrl vmid alreadyExists downloadOnly =>
    insertBuild s vmid (.ofUrl alreadyExists downloadOnly)
  | .act vmid event => s.modify vmid (·.after event)

/-- The table of builds, which is empty at first. -/
def machine : Machine State Event where
  init s := s = ∅
  step := step

/-- An activity that has found the medium ready and will dispatch the task. -/
def Build.willDispatch (b : Build) : Stage → Bool
  | .committed => !b.downloadOnly
  | .registered => b.download.isNone && !b.downloadOnly
  | .loaded _ => true
  | _ => false

/-- A build on which a poll runs from its start to its end, and nothing else. -/
def Build.pollAlone (b : Build) : Build :=
  [BuildEvent.proceed b.activities.length, .proceed b.activities.length,
    .proceed b.activities.length, .proceed b.activities.length,
    .proceed b.activities.length].foldl Build.after (b.after .poll)

/-- The task of a build is dispatched once after its medium is ready, and its VM stays `running`. -/
structure Build.DispatchedOnce (b : Build) : Prop where
  /-- The task is dispatched once at most. -/
  once : b.dispatches ≤ 1
  /-- If the medium was found ready, it is dispatched, or an activity does so within two steps. -/
  due : b.downloadOnly = false → b.status ≠ .downloadingIso → b.download ≠ some .failed →
    b.dispatches = 1 ∨ ∃ i, ((b.after (.proceed i)).after (.proceed i)).dispatches = 1
  /-- If the medium is ready and was not found so, a poll dispatches it. -/
  waiting : b.downloadOnly = false → b.status = .downloadingIso → b.download = some .succeeded →
    b.pollAlone.dispatches = 1
  /-- It is not dispatched if the medium is only downloaded, or if that failed. -/
  idle : b.downloadOnly = true ∨ b.download = some .failed → b.dispatches = 0
  /-- After a task has succeeded the status is `running`. -/
  running : 0 < b.successes → b.status = .running

/-- The step of an activity that goes wrong if others were faster. A poll commits the status `ready`
only if no other one has; a request does not find the status `ready` that a poll has committed; and
the status `creating_vm` is committed before the task commits `running`. -/
def Build.InTime (b : Build) : Stage → Prop
  | .checked => b.status = .downloadingIso ∨ b.downloadOnly = true
  | .registered => b.status = .ready → b.download = none ∨ b.downloadOnly = true
  | .dispatched loaded => loaded = .creatingVm ∨ b.status ≠ .running
  | _ => True

instance (b : Build) (stage : Stage) : Decidable (b.InTime stage) := by
  unfold Build.InTime
  split <;> infer_instance

/-- The steps of activities are in time, and no activity dies that will dispatch the task. -/
def Build.Allows (b : Build) : BuildEvent → Prop
  | .proceed i => ∀ stage ∈ b.activities[i]?, b.InTime stage
  | .die i => ∀ stage ∈ b.activities[i]?, b.willDispatch stage = false
  | _ => True

instance (b : Build) (event : BuildEvent) : Decidable (b.Allows event) := by
  unfold Build.Allows
  split <;> infer_instance

/-- The condition on the events. -/
def Allowed (s : State) : Event → Prop
  | .act vmid event => ∀ b ∈ s.get? vmid, b.Allows event
  | _ => True

instance (s : State) (event : Event) : Decidable (Allowed s event) := by
  unfold Allowed
  split <;> infer_instance

section Counts

/-- A run of the task, also one that has failed for the last time. -/
def Stage.isTask : Stage → Bool
  | .queued | .started _ | .creating | .starting _ | .created | .givenUp | .givenUpLoaded _ => true
  | _ => false

/-- A run of the task that has not committed the status `running`. -/
def Stage.isUnfinished : Stage → Bool
  | .queued | .started _ | .creating | .starting _ => true
  | _ => false

/-- A run of the task that has committed the status `running`. -/
def Stage.isCreated : Stage → Bool
  | .created => true
  | _ => false

namespace Build

/-- How many activities will dispatch the task. -/
def pending (b : Build) : ℕ := b.activities.countP b.willDispatch

/-- How many runs of the task there are. -/
def tasks (b : Build) : ℕ := b.activities.countP Stage.isTask

/-- How many of them have not committed the status `running`. -/
def unfinished (b : Build) : ℕ := b.activities.countP Stage.isUnfinished

/-- How many of them have. -/
def created (b : Build) : ℕ := b.activities.countP Stage.isCreated

/-- What an activity has seen of the build. -/
def Fits (b : Build) : Stage → Prop
  | .checked => b.download = some .succeeded
  | .failing _ => b.download = some .failed
  | .dispatched _ => 0 < b.dispatches
  | .starting loaded => loaded ≠ .running
  | _ => True

/-- What holds of a build on the way. -/
structure Inv (b : Build) : Prop where
  /-- One dispatch is pending or done. -/
  once : b.pending + b.dispatches ≤ 1
  /-- Every run of the task was dispatched. -/
  tasks : b.tasks + b.successes ≤ b.dispatches
  /-- Whoever will dispatch the task has found the medium ready. -/
  ready : 0 < b.pending → b.status = .ready
  /-- Nothing is dispatched before. -/
  waiting : b.status = .downloadingIso → b.dispatches = 0
  /-- If the medium was found ready, the dispatch is pending or done. -/
  due : b.downloadOnly = false → b.status ≠ .downloadingIso → b.download ≠ some .failed →
    b.pending + b.dispatches = 1
  /-- Nothing is dispatched for a medium that is only downloaded, or could not be. -/
  idle : b.downloadOnly = true ∨ b.download = some .failed → b.pending + b.dispatches = 0
  /-- The status says whether the medium is downloaded. -/
  downloading : b.download = some .running → b.status = .downloadingIso
  /-- After a task has committed the status `running`, it stays. -/
  running : 0 < b.created + b.successes → b.status = .running
  /-- Before that, the status is another one. -/
  unfinished : 0 < b.unfinished → b.status ≠ .running
  /-- The activities have seen the build. -/
  fits : ∀ stage ∈ b.activities, b.Fits stage

variable {b : Build} {i : ℕ} {stage new : Stage}

/-- A finished run of the task is a run of the task, and an unfinished one as well. -/
theorem unfinished_add_created_le (b : Build) : b.unfinished + b.created ≤ b.tasks := by
  simp only [unfinished, created, tasks]
  induction b.activities with
  | nil => exact le_rfl
  | cons stage stages ih =>
    rw [List.countP_cons, List.countP_cons, List.countP_cons]
    cases stage <;> simp only [Stage.isUnfinished, Stage.isCreated, Stage.isTask] <;> grind

/-- One activity less is counted, and one more, if an activity goes on. -/
theorem countP_move (h : b.activities[i]? = some stage) (new : Stage) (p : Stage → Bool) :
    (b.move i new).activities.countP p + (if p stage then 1 else 0) =
      b.activities.countP p + (if p new then 1 else 0) := by
  obtain ⟨hi, hstage⟩ := List.getElem?_eq_some_iff.mp h
  have hle : (if p stage then 1 else 0) ≤ b.activities.countP p := by
    split
    case isTrue hp => exact List.countP_pos_iff.mpr ⟨stage, List.mem_of_getElem? h, hp⟩
    case isFalse => exact Nat.zero_le _
  rw [move, List.countP_set hi, hstage]
  omega

/-- As many activities are counted. -/
theorem countP_move_same {p : Stage → Bool} (h : b.activities[i]? = some stage)
    (hp : p new = p stage) : (b.move i new).activities.countP p = b.activities.countP p := by
  have hcount := countP_move h new p
  rw [hp] at hcount
  exact Nat.add_right_cancel hcount

/-- One more is counted. -/
theorem countP_move_more {p : Stage → Bool} (h : b.activities[i]? = some stage)
    (hold : p stage = false) (hnew : p new = true) :
    (b.move i new).activities.countP p = b.activities.countP p + 1 := by
  have hcount := countP_move h new p
  rwa [hold, hnew, if_neg Bool.false_ne_true, if_pos rfl] at hcount

/-- One less is counted. -/
theorem countP_move_less {p : Stage → Bool} (h : b.activities[i]? = some stage)
    (hold : p stage = true) (hnew : p new = false) :
    (b.move i new).activities.countP p + 1 = b.activities.countP p := by
  have hcount := countP_move h new p
  rwa [hold, hnew, if_neg Bool.false_ne_true, if_pos rfl] at hcount

/-- What the activities have seen stays if one of them goes on. -/
theorem fits_move (hfits : ∀ stage ∈ b.activities, b.Fits stage) (hnew : b.Fits new) :
    ∀ stage ∈ (b.move i new).activities, b.Fits stage := by
  intro stage hstage
  rcases List.mem_or_eq_of_mem_set hstage with hmem | rfl
  · exact hfits stage hmem
  · exact hnew

/-- What an activity has seen stays after a dispatch. -/
theorem fits_dispatch {b' : Build} (h : b'.dispatches = b.dispatches + 1)
    (hdownload : b'.download = b.download) (hfits : b.Fits stage) : b'.Fits stage := by
  cases stage with
  | checked => exact hdownload.trans hfits
  | failing loaded => exact hdownload.trans hfits
  | dispatched loaded => exact lt_of_lt_of_eq (Nat.succ_pos _) h.symm
  | starting loaded => exact hfits
  | _ => trivial

/-- A run of the task is the only one, and nothing is pending. -/
theorem Inv.of_isTask (hinv : b.Inv) (h : b.activities[i]? = some stage)
    (htask : stage.isTask = true) :
    b.tasks = 1 ∧ b.successes = 0 ∧ b.dispatches = 1 ∧ b.pending = 0 := by
  have hpos : 0 < b.tasks := List.countP_pos_iff.mpr ⟨stage, List.mem_of_getElem? h, htask⟩
  have htasks := hinv.tasks
  have honce := hinv.once
  omega

/-- An activity goes on that will dispatch the task as it would before, and that is no other kind of
run of the task. -/
theorem Inv.move (hinv : b.Inv) (h : b.activities[i]? = some stage)
    (hdispatch : b.willDispatch new = b.willDispatch stage)
    (htask : new.isTask = true → stage.isTask = true)
    (hunfinished : new.isUnfinished = true → stage.isUnfinished = true)
    (hcreated : new.isCreated = true → stage.isCreated = true) (hfits : b.Fits new) :
    (b.move i new).Inv := by
  have hpending : (b.move i new).pending = b.pending := countP_move_same h hdispatch
  have hle : ∀ p : Stage → Bool, (p new = true → p stage = true) →
      (b.move i new).activities.countP p ≤ b.activities.countP p := fun p hp => by
    have hcount := countP_move h new p
    split_ifs at hcount with hold hnew hnew
    · omega
    · omega
    · exact absurd (hp hnew) hold
    · omega
  have htasks : (b.move i new).tasks ≤ b.tasks := hle _ htask
  have hunfinished : (b.move i new).unfinished ≤ b.unfinished := hle _ hunfinished
  have hcreated : (b.move i new).created ≤ b.created := hle _ hcreated
  exact {
    once := hpending.symm ▸ hinv.once
    tasks := le_trans (Nat.add_le_add_right htasks _) hinv.tasks
    ready := hpending.symm ▸ hinv.ready
    waiting := hinv.waiting
    due := hpending.symm ▸ hinv.due
    idle := hpending.symm ▸ hinv.idle
    downloading := hinv.downloading
    running := fun hpos => hinv.running (lt_of_lt_of_le hpos (Nat.add_le_add_right hcreated _))
    unfinished := fun hpos => hinv.unfinished (lt_of_lt_of_le hpos hunfinished)
    fits := fits_move hinv.fits hfits }

/-- After a dispatch the download is not running. -/
theorem Inv.download_ne_running (hinv : b.Inv) (h : 0 < b.dispatches) :
    b.download ≠ some .running := fun hdownload =>
  absurd (hinv.waiting (hinv.downloading hdownload)) (Nat.ne_of_gt h)

/-- Another status than `running` is written after the download has ended, while nothing is pending
and no run of the task has committed `running`. -/
theorem Inv.withStatus (hinv : b.Inv) {status : Status} (hpending : b.pending = 0)
    (hcreated : b.created + b.successes = 0) (hdownload : b.download ≠ some .running)
    (hdue : b.downloadOnly = false → b.download ≠ some .failed → b.dispatches = 1)
    (hiso : status ≠ .downloadingIso) (hrunning : status ≠ .running) :
    { b with status := status : Build }.Inv where
  once := hinv.once
  tasks := hinv.tasks
  ready := fun hpos => absurd hpending (Nat.ne_of_gt hpos)
  waiting := fun h => absurd h hiso
  due := fun honly _ hfailed => by
    have hdispatches := hdue honly hfailed
    show b.pending + b.dispatches = 1
    omega
  idle := hinv.idle
  downloading := fun h => absurd h hdownload
  running := fun hpos => absurd hcreated (Nat.ne_of_gt hpos)
  unfinished := fun _ => hrunning
  fits := hinv.fits

/-- An activity commits such a status. -/
theorem Inv.assign (hinv : b.Inv) {loaded status : Status} (hpending : b.pending = 0)
    (hcreated : loaded = status ∨ b.created + b.successes = 0)
    (hdownload : b.download ≠ some .running)
    (hdue : b.downloadOnly = false → b.download ≠ some .failed → b.dispatches = 1)
    (hiso : status ≠ .downloadingIso) (hrunning : status ≠ .running) :
    { b with status := BuildDispatch.assign loaded status b.status : Build }.Inv := by
  rw [BuildDispatch.assign]
  split
  case isTrue => exact hinv
  case isFalse hne =>
    exact hinv.withStatus hpending (hcreated.resolve_left hne) hdownload hdue hiso hrunning

/-- A run of the task that has not committed `running` leaves none that has. -/
theorem Inv.of_isUnfinished (hinv : b.Inv) (h : b.activities[i]? = some stage)
    (htask : stage.isTask = true) (hunfinished : stage.isUnfinished = true) :
    b.unfinished = 1 ∧ b.created = 0 := by
  have hpos : 0 < b.unfinished := List.countP_pos_iff.mpr ⟨stage, List.mem_of_getElem? h, hunfinished⟩
  have hle := b.unfinished_add_created_le
  have htasks := (hinv.of_isTask h htask).1
  omega

/-- A poll has loaded the build: it goes on if the download has ended. -/
theorem Inv.proceed_polled {loaded : Status} (hinv : b.Inv)
    (h : b.activities[i]? = some (.polled loaded)) : (b.proceed i (.polled loaded)).Inv := by
  have hmove : ∀ new : Stage, b.willDispatch new = false → new.isTask = false →
      new.isUnfinished = false → new.isCreated = false → b.Fits new → (b.move i new).Inv := by
    intro new hdispatch htask hunfinished hcreated hfits
    exact hinv.move h hdispatch (fun h => absurd (htask.symm.trans h) (by decide))
      (fun h => absurd (hunfinished.symm.trans h) (by decide))
      (fun h => absurd (hcreated.symm.trans h) (by decide)) hfits
  rw [proceed]
  split
  case h_1 hdownload =>
    split
    case isTrue => exact hmove .checked rfl rfl rfl rfl hdownload
    case isFalse => exact hmove .ended rfl rfl rfl rfl trivial
  case h_2 hdownload => exact hmove (.failing loaded) rfl rfl rfl rfl hdownload
  case h_3 => exact hmove .ended rfl rfl rfl rfl trivial
  case h_4 => exact hmove .ended rfl rfl rfl rfl trivial

/-- A poll commits the status `ready`, if no other one has. -/
theorem Inv.proceed_checked (hinv : b.Inv) (h : b.activities[i]? = some .checked)
    (hin : b.InTime .checked) : (b.proceed i .checked).Inv := by
  have hdownload : b.download = some .succeeded := hinv.fits _ (List.mem_of_getElem? h)
  cases honly : b.downloadOnly with
  | true =>
    -- nothing will be dispatched, so the status does not matter
    have hmoved : (b.move i .committed).Inv := hinv.move h (by simp [willDispatch, honly])
      nofun nofun nofun trivial
    have hidle := hmoved.idle (Or.inl honly)
    have htasks := hmoved.tasks
    have hle := (b.move i .committed).unfinished_add_created_le
    refine hmoved.assign (by omega) (Or.inr (by omega)) ?_ ?_ (by decide) (by decide)
    · exact fun hrunning => absurd (hrunning.symm.trans hdownload) (by decide)
    · exact fun hfalse => absurd (hfalse.symm.trans honly) (by decide)
  | false =>
    have hstatus : b.status = .downloadingIso :=
      hin.resolve_right fun htrue => absurd (htrue.symm.trans honly) (by decide)
    have hdispatches := hinv.waiting hstatus
    have hnone : b.pending = 0 := Nat.eq_zero_of_not_pos fun hpos =>
      absurd (hstatus.symm.trans (hinv.ready hpos)) (by decide)
    have hpending : (b.move i .committed).pending = b.pending + 1 :=
      countP_move_more (p := b.willDispatch) h rfl (by rw [willDispatch, honly]; rfl)
    have htasks : (b.move i .committed).tasks = b.tasks := countP_move_same h rfl
    have hle := (b.move i .committed).unfinished_add_created_le
    have hsum := hinv.tasks
    have hnumbers : (b.move i .committed).pending = 1 ∧ b.dispatches = 0 ∧
        (b.move i .committed).tasks + b.successes = 0 ∧
        (b.move i .committed).unfinished = 0 ∧
        (b.move i .committed).created + b.successes = 0 := by omega
    obtain ⟨hone, hzero, htask, hunfinished, hcreated⟩ := hnumbers
    exact {
      once := by
        show (b.move i .committed).pending + b.dispatches ≤ 1
        omega
      tasks := htask.le.trans (Nat.zero_le _)
      ready := fun _ => rfl
      waiting := fun _ => hzero
      due := fun _ _ _ => by
        show (b.move i .committed).pending + b.dispatches = 1
        omega
      idle := fun hidle => by
        rcases hidle with htrue | hfailed
        · exact absurd (htrue.symm.trans honly) (by decide)
        · exact absurd (hfailed.symm.trans hdownload) (by decide)
      downloading := fun hrunning => absurd (hrunning.symm.trans hdownload) (by decide)
      running := fun hpos => absurd hcreated (Nat.ne_of_gt hpos)
      unfinished := fun hpos => absurd hunfinished (Nat.ne_of_gt hpos)
      fits := fits_move hinv.fits trivial }

/-- A poll commits the status `error` after a download that failed. -/
theorem Inv.proceed_failing {loaded : Status} (hinv : b.Inv)
    (h : b.activities[i]? = some (.failing loaded)) : (b.proceed i (.failing loaded)).Inv := by
  have hdownload : b.download = some .failed := hinv.fits _ (List.mem_of_getElem? h)
  have hmoved : (b.move i .ended).Inv := hinv.move h rfl nofun nofun nofun trivial
  have hidle := hmoved.idle (Or.inr hdownload)
  have htasks := hmoved.tasks
  have hle := (b.move i .ended).unfinished_add_created_le
  refine hmoved.assign (by omega) (Or.inr (by omega)) ?_ ?_ (by decide) (by decide)
  · exact fun hrunning => absurd (hrunning.symm.trans hdownload) (by decide)
  · exact fun _ hne => absurd hdownload hne

/-- The build is loaded again before the dispatch. -/
theorem Inv.proceed_committed (hinv : b.Inv) (h : b.activities[i]? = some .committed) :
    (b.proceed i .committed).Inv := by
  rw [proceed]
  split
  case isTrue honly =>
    exact hinv.move h (by simp [willDispatch, honly]) nofun nofun nofun trivial
  case isFalse honly =>
    exact hinv.move h (by simp [willDispatch, honly]) nofun nofun nofun trivial

/-- A request goes on if it finds the status `ready`. -/
theorem Inv.proceed_registered (hinv : b.Inv) (h : b.activities[i]? = some .registered)
    (hin : b.InTime .registered) : (b.proceed i .registered).Inv := by
  rw [proceed]
  split
  case isTrue hready =>
    have hnone : b.download = none :=
      (hin hready.1).resolve_right fun htrue => absurd (htrue.symm.trans hready.2) (by decide)
    exact hinv.move h (by simp [willDispatch, hnone, hready.2]) nofun nofun nofun trivial
  case isFalse hready =>
    -- a request for a medium on the storage finds it
    have hfalse : b.willDispatch .registered = false := Bool.eq_false_iff.mpr fun htrue => by
      have hpos : 0 < b.pending := List.countP_pos_iff.mpr ⟨_, List.mem_of_getElem? h, htrue⟩
      simp only [willDispatch, Bool.and_eq_true, Bool.not_eq_true'] at htrue
      exact hready ⟨hinv.ready hpos, htrue.2⟩
    exact hinv.move h hfalse.symm nofun nofun nofun trivial

/-- The task is dispatched. -/
theorem Inv.proceed_loaded {loaded : Status} (hinv : b.Inv)
    (h : b.activities[i]? = some (.loaded loaded)) : (b.proceed i (.loaded loaded)).Inv := by
  have hless : (b.move i (.dispatched loaded)).pending + 1 = b.pending :=
    countP_move_less (p := b.willDispatch) h rfl rfl
  have htasks : (b.move i (.dispatched loaded)).tasks = b.tasks := countP_move_same h rfl
  have hle := (b.move i (.dispatched loaded)).unfinished_add_created_le
  have honce := hinv.once
  have hsum := hinv.tasks
  have hstatus := hinv.ready (by omega)
  have hready : b.status ≠ .downloadingIso := hstatus ▸ by decide
  have hpending : (b.proceed i (.loaded loaded)).pending =
      (b.move i (.dispatched loaded)).pending := by
    exact (List.countP_append ..).trans (Nat.add_zero _)
  have htasks' : (b.proceed i (.loaded loaded)).tasks =
      (b.move i (.dispatched loaded)).tasks + 1 := List.countP_append ..
  have hcreated : (b.proceed i (.loaded loaded)).created =
      (b.move i (.dispatched loaded)).created := (List.countP_append ..).trans (Nat.add_zero _)
  exact {
    once := by
      show (b.proceed i (.loaded loaded)).pending + (b.dispatches + 1) ≤ 1
      omega
    tasks := by
      show (b.proceed i (.loaded loaded)).tasks + b.successes ≤ b.dispatches + 1
      omega
    ready := fun hpos => absurd hpos (by omega)
    waiting := fun hiso => absurd hiso hready
    due := fun _ _ _ => by
      show (b.proceed i (.loaded loaded)).pending + (b.dispatches + 1) = 1
      omega
    idle := fun hidle => by
      have hzero := hinv.idle hidle
      omega
    downloading := hinv.downloading
    running := fun hpos => by
      have hpos : 0 < (b.proceed i (.loaded loaded)).created + b.successes := hpos
      omega
    unfinished := fun _ => by
      show b.status ≠ .running
      exact hstatus ▸ by decide
    fits := fun stage hstage => by
      rcases List.mem_append.mp hstage with hmem | hmem
      · rcases List.mem_or_eq_of_mem_set hmem with hmem | rfl
        · exact fits_dispatch rfl rfl (hinv.fits stage hmem)
        · exact Nat.succ_pos _
      · rw [List.mem_singleton.mp hmem]
        trivial }

/-- An endpoint that has dispatched the task commits the status `creating_vm`, before the task commits
`running`. -/
theorem Inv.proceed_dispatched {loaded : Status} (hinv : b.Inv)
    (h : b.activities[i]? = some (.dispatched loaded)) (hin : b.InTime (.dispatched loaded)) :
    (b.proceed i (.dispatched loaded)).Inv := by
  have hpos : 0 < b.dispatches := hinv.fits _ (List.mem_of_getElem? h)
  have hmoved : (b.move i .ended).Inv := hinv.move h rfl nofun nofun nofun trivial
  have honce := hmoved.once
  have hdispatches : b.dispatches = 1 := by
    have hone := hinv.once
    omega
  have hcreated : loaded = .creatingVm ∨ (b.move i .ended).created + b.successes = 0 :=
    hin.imp_right fun hne => Nat.eq_zero_of_not_pos fun hpos => hne (hmoved.running hpos)
  refine hmoved.assign ?_ hcreated (hinv.download_ne_running hpos) (fun _ _ => hdispatches)
    (by decide) (by decide)
  have hone : (b.move i .ended).pending + b.dispatches ≤ 1 := honce
  omega

/-- The task commits the status `creating_vm`. -/
theorem Inv.proceed_started {loaded : Status} (hinv : b.Inv)
    (h : b.activities[i]? = some (.started loaded)) : (b.proceed i (.started loaded)).Inv := by
  have hmoved : (b.move i .creating).Inv :=
    hinv.move h rfl (fun _ => rfl) (fun _ => rfl) nofun trivial
  have hmem : (b.move i .creating).activities[i]? = some .creating :=
    List.getElem?_set_self (List.getElem?_eq_some_iff.mp h).1
  obtain ⟨-, hsuccesses, hdispatches, hpending⟩ := hmoved.of_isTask hmem rfl
  obtain ⟨-, hcreated⟩ := hmoved.of_isUnfinished hmem rfl rfl
  exact hmoved.assign hpending (Or.inr (by omega)) (hmoved.download_ne_running (by omega))
    (fun _ _ => hdispatches) (by decide) (by decide)

/-- The task commits the status `running`. -/
theorem Inv.proceed_starting {loaded : Status} (hinv : b.Inv)
    (h : b.activities[i]? = some (.starting loaded)) : (b.proceed i (.starting loaded)).Inv := by
  have hne : loaded ≠ .running := hinv.fits _ (List.mem_of_getElem? h)
  have hstatus : (b.proceed i (.starting loaded)).status = .running := if_neg hne
  obtain ⟨htasks, hsuccesses, hdispatches, hpending⟩ := hinv.of_isTask h rfl
  have hpending' : (b.move i .created).pending = b.pending :=
    countP_move_same (p := b.willDispatch) h rfl
  have htasks' : (b.move i .created).tasks = b.tasks := countP_move_same h rfl
  have hcreated : (b.move i .created).created = b.created + 1 := countP_move_more h rfl rfl
  have hle := (b.move i .created).unfinished_add_created_le
  exact {
    once := by
      show (b.move i .created).pending + b.dispatches ≤ 1
      omega
    tasks := by
      show (b.move i .created).tasks + b.successes ≤ b.dispatches
      omega
    ready := fun hpos => by
      have hpos : 0 < (b.move i .created).pending := hpos
      omega
    waiting := fun hiso => absurd (hstatus.symm.trans hiso) (by decide)
    due := fun _ _ _ => by
      show (b.move i .created).pending + b.dispatches = 1
      omega
    idle := fun hidle => by
      have hzero := hinv.idle hidle
      omega
    downloading := fun hrunning =>
      absurd hrunning (hinv.download_ne_running (by omega))
    running := fun _ => hstatus
    unfinished := fun hpos => by
      have hpos : 0 < (b.move i .created).unfinished := hpos
      omega
    fits := fits_move hinv.fits trivial }

/-- The task succeeds. -/
theorem Inv.proceed_created (hinv : b.Inv) (h : b.activities[i]? = some .created) :
    (b.proceed i .created).Inv := by
  have hstatus : b.status = .running := hinv.running
    (Nat.add_pos_left (List.countP_pos_iff.mpr ⟨_, List.mem_of_getElem? h, rfl⟩) _)
  have hmoved : (b.move i .ended).Inv := hinv.move h rfl nofun nofun nofun trivial
  have htasks : (b.move i .ended).tasks + 1 = b.tasks := countP_move_less h rfl rfl
  have hsum := hinv.tasks
  exact {
    once := hmoved.once
    tasks := by
      show (b.move i .ended).tasks + (b.successes + 1) ≤ b.dispatches
      omega
    ready := hmoved.ready
    waiting := hmoved.waiting
    due := hmoved.due
    idle := hmoved.idle
    downloading := hmoved.downloading
    running := fun _ => hstatus
    unfinished := hmoved.unfinished
    fits := hmoved.fits }

/-- The callback commits the status `error`. -/
theorem Inv.proceed_givenUpLoaded {loaded : Status} (hinv : b.Inv)
    (h : b.activities[i]? = some (.givenUpLoaded loaded)) :
    (b.proceed i (.givenUpLoaded loaded)).Inv := by
  have hmoved : (b.move i .ended).Inv := hinv.move h rfl nofun nofun nofun trivial
  obtain ⟨htasks, hsuccesses, hdispatches, hpending⟩ := hinv.of_isTask h rfl
  have hless : (b.move i .ended).tasks + 1 = b.tasks := countP_move_less h rfl rfl
  have hle := (b.move i .ended).unfinished_add_created_le
  have hpending' : (b.move i .ended).pending = b.pending :=
    countP_move_same (p := b.willDispatch) h rfl
  refine hmoved.assign (by omega) (Or.inr ?_) (hinv.download_ne_running (by omega))
    (fun _ _ => hdispatches) (by decide) (by decide)
  show (b.move i .ended).created + b.successes = 0
  omega

/-- One step of an activity that is in time. -/
theorem Inv.proceed (hinv : b.Inv) (h : b.activities[i]? = some stage) (hin : b.InTime stage) :
    (b.proceed i stage).Inv := by
  cases stage with
  | polled loaded => exact hinv.proceed_polled h
  | checked => exact hinv.proceed_checked h hin
  | failing loaded => exact hinv.proceed_failing h
  | committed => exact hinv.proceed_committed h
  | registered => exact hinv.proceed_registered h hin
  | loaded loaded => exact hinv.proceed_loaded h
  | dispatched loaded => exact hinv.proceed_dispatched h hin
  | queued => exact hinv.move h rfl (fun _ => rfl) (fun _ => rfl) nofun trivial
  | started loaded => exact hinv.proceed_started h
  | creating =>
    have hpos : 0 < b.unfinished := List.countP_pos_iff.mpr ⟨_, List.mem_of_getElem? h, rfl⟩
    exact hinv.move h rfl (fun _ => rfl) (fun _ => rfl) nofun (hinv.unfinished hpos)
  | starting loaded => exact hinv.proceed_starting h
  | created => exact hinv.proceed_created h
  | givenUp => exact hinv.move h rfl (fun _ => rfl) nofun nofun trivial
  | givenUpLoaded loaded => exact hinv.proceed_givenUpLoaded h
  | ended => exact hinv

/-- A task with its build fails: it commits the status `error`, and is queued again or given up. -/
theorem Inv.fail_task (hinv : b.Inv) (h : b.activities[i]? = some stage) (htask : stage.isTask = true)
    (hnew : new = .queued ∨ new = .givenUp) :
    { b.move i new with status := .error : Build }.Inv := by
  obtain ⟨htasks, hsuccesses, hdispatches, hpending⟩ := hinv.of_isTask h htask
  have hold : b.willDispatch stage = false := by
    cases stage <;> first | rfl | cases htask
  have hpending' : (b.move i new).pending = b.pending := countP_move_same (p := b.willDispatch) h (by
    rcases hnew with rfl | rfl <;> exact hold.symm)
  have htasks' : (b.move i new).tasks = b.tasks := countP_move_same h (by
    rcases hnew with rfl | rfl <;> exact htask.symm)
  have hcreated : (b.move i new).created = 0 := by
    -- without this run there is none, and this one has not committed `running` any more
    have hended : (b.move i .ended).tasks + 1 = b.tasks := countP_move_less h htask rfl
    have hle := (b.move i .ended).unfinished_add_created_le
    have hcount : (b.move i new).created = (b.move i .ended).created := by
      refine Nat.add_right_cancel ((countP_move h new Stage.isCreated).trans ?_)
      rw [created, countP_move h .ended Stage.isCreated]
      rcases hnew with rfl | rfl <;> rfl
    omega
  exact {
    once := by
      show (b.move i new).pending + b.dispatches ≤ 1
      omega
    tasks := by
      show (b.move i new).tasks + b.successes ≤ b.dispatches
      omega
    ready := fun hpos => by
      have hpos : 0 < (b.move i new).pending := hpos
      omega
    waiting := nofun
    due := fun _ _ _ => by
      show (b.move i new).pending + b.dispatches = 1
      omega
    idle := fun hidle => by
      have hzero := hinv.idle hidle
      omega
    downloading := fun hrunning => absurd hrunning (hinv.download_ne_running (by omega))
    running := fun hpos => by
      have hpos : 0 < (b.move i new).created + b.successes := hpos
      omega
    unfinished := nofun
    fits := fits_move hinv.fits (by rcases hnew with rfl | rfl <;> trivial) }

/-- A failure of a task. -/
theorem Inv.fail (hinv : b.Inv) (h : b.activities[i]? = some stage) (again : Bool) :
    (b.fail i again stage).Inv := by
  have hagain : (if again then Stage.queued else .givenUp) = .queued ∨
      (if again then Stage.queued else .givenUp) = .givenUp := by
    cases again with
    | true => exact Or.inl rfl
    | false => exact Or.inr rfl
  cases stage with
  | queued => exact hinv.move h rfl (fun _ => rfl) nofun nofun trivial
  | started loaded => exact hinv.fail_task h rfl hagain
  | creating => exact hinv.fail_task h rfl hagain
  | starting loaded => exact hinv.fail_task h rfl hagain
  | created => exact hinv.fail_task h rfl hagain
  | _ => exact hinv

/-- The download ends. -/
theorem Inv.downloadEnds (hinv : b.Inv) (hdownload : b.download = some .running)
    (download : Download) (hended : download ≠ .running) :
    { b with download := some download : Build }.Inv := by
  have hstatus := hinv.downloading hdownload
  have hdispatches := hinv.waiting hstatus
  have hwill : Build.willDispatch { b with download := some download } = b.willDispatch := by
    funext stage
    cases stage <;> simp [willDispatch, hdownload]
  have hpending : Build.pending { b with download := some download } = b.pending :=
    congrArg (b.activities.countP ·) hwill
  have hnone : b.pending = 0 := Nat.eq_zero_of_not_pos fun hpos =>
    absurd (hstatus.symm.trans (hinv.ready hpos)) (by decide)
  exact {
    once := hpending.symm ▸ hinv.once
    tasks := hinv.tasks
    ready := fun hpos => absurd (hpending.symm ▸ hpos) (by omega)
    waiting := fun _ => hdispatches
    due := fun _ hne => absurd hstatus hne
    idle := fun _ => by
      show Build.pending { b with download := some download } + b.dispatches = 0
      omega
    downloading := fun hrunning => absurd (Option.some.inj hrunning) hended
    running := hinv.running
    unfinished := hinv.unfinished
    fits := fun stage hstage => by
      have hfits := hinv.fits stage hstage
      cases stage with
      | checked => exact absurd (hdownload.symm.trans hfits) (by decide)
      | failing loaded => exact absurd (hdownload.symm.trans hfits) (by decide)
      | dispatched loaded => exact hfits
      | starting loaded => exact hfits
      | _ => trivial }

/-- A poll begins. -/
theorem Inv.poll (hinv : b.Inv) : (b.after .poll).Inv := by
  have hcount : ∀ p : Stage → Bool, p (.polled b.status) = false →
      (b.after .poll).activities.countP p = b.activities.countP p := fun p hp => by
    show (b.activities ++ [Stage.polled b.status]).countP p = b.activities.countP p
    rw [List.countP_append, List.countP_singleton, hp, if_neg Bool.false_ne_true, Nat.add_zero]
  have hpending : (b.after .poll).pending = b.pending := hcount b.willDispatch rfl
  have htasks : (b.after .poll).tasks = b.tasks := hcount _ rfl
  have hunfinished : (b.after .poll).unfinished = b.unfinished := hcount _ rfl
  have hcreated : (b.after .poll).created = b.created := hcount _ rfl
  exact {
    once := hpending.symm ▸ hinv.once
    tasks := htasks.symm ▸ hinv.tasks
    ready := hpending.symm ▸ hinv.ready
    waiting := hinv.waiting
    due := hpending.symm ▸ hinv.due
    idle := hpending.symm ▸ hinv.idle
    downloading := hinv.downloading
    running := hcreated.symm ▸ hinv.running
    unfinished := hunfinished.symm ▸ hinv.unfinished
    fits := fun stage hstage => by
      rcases List.mem_append.mp hstage with hmem | hmem
      · exact hinv.fits stage hmem
      · rw [List.mem_singleton.mp hmem]
        trivial }

/-- What an event preserves. -/
theorem Inv.after (hinv : b.Inv) {event : BuildEvent} (hallows : b.Allows event) :
    (b.after event).Inv := by
  cases event with
  | downloadEnds succeeds =>
    rw [Build.after]
    split
    case isTrue hdownload =>
      exact hinv.downloadEnds hdownload _ (by cases succeeds <;> decide)
    case isFalse => exact hinv
  | poll => exact hinv.poll
  | proceed i =>
    rw [Build.after]
    cases h : b.activities[i]? with
    | none => exact hinv
    | some stage => exact hinv.proceed h (hallows stage h)
  | fail i again =>
    rw [Build.after]
    cases h : b.activities[i]? with
    | none => exact hinv
    | some stage => exact hinv.fail h again
  | die i =>
    rw [Build.after]
    cases h : b.activities[i]? with
    | none =>
      rwa [Build.move, List.set_eq_of_length_le (List.getElem?_eq_none_iff.mp h)]
    | some stage =>
      exact hinv.move h (hallows stage h).symm nofun nofun nofun trivial

/-- A new build of a request with a volume. -/
theorem inv_ofVolume : ofVolume.Inv where
  once := by decide
  tasks := by decide
  ready := fun _ => rfl
  waiting := nofun
  due := fun _ _ _ => rfl
  idle := by decide
  downloading := nofun
  running := by decide
  unfinished := by decide
  fits := List.forall_mem_singleton.mpr trivial

/-- A new build of a request with an address. -/
theorem inv_ofUrl (alreadyExists downloadOnly : Bool) : (ofUrl alreadyExists downloadOnly).Inv where
  once := by revert alreadyExists downloadOnly; decide
  tasks := Nat.zero_le _
  ready := by revert alreadyExists downloadOnly; decide
  waiting := fun _ => rfl
  due := by revert alreadyExists downloadOnly; decide
  idle := by revert alreadyExists downloadOnly; decide
  downloading := by revert alreadyExists downloadOnly; decide
  running := by revert alreadyExists downloadOnly; decide
  unfinished := by revert alreadyExists downloadOnly; decide
  fits := List.forall_mem_singleton.mpr trivial

/-- A poll that is alone dispatches the task if the download has succeeded and no poll has found
that. -/
theorem dispatches_pollAlone (honly : b.downloadOnly = false) (hstatus : b.status = .downloadingIso)
    (hdownload : b.download = some .succeeded) : b.pollAlone.dispatches = b.dispatches + 1 := by
  simp [pollAlone, after, Build.proceed, Build.move, commit, dispatch, BuildDispatch.assign, honly,
    hstatus, hdownload]

/-- An activity that will dispatch the task does so within two steps. -/
theorem dispatches_of_willDispatch (h : b.activities[i]? = some stage)
    (hwill : b.willDispatch stage = true) (hready : b.status = .ready) :
    ((b.after (.proceed i)).after (.proceed i)).dispatches = b.dispatches + 1 := by
  have hi := (List.getElem?_eq_some_iff.mp h).1
  have hself : ∀ new : Stage, (b.activities.set i new)[i]? = some new := fun new =>
    List.getElem?_set_self hi
  have hfirst : b.after (.proceed i) = b.proceed i stage := by rw [Build.after, h]; rfl
  -- the first step of a request or a poll loads the build, and the second one dispatches
  have hloaded : b.proceed i stage = b.move i (.loaded b.status) →
      ((b.after (.proceed i)).after (.proceed i)).dispatches = b.dispatches + 1 := fun hmove => by
    rw [hfirst, hmove, Build.after, Build.move, hself]
    rfl
  cases stage with
  | committed =>
    exact hloaded (by rw [Build.proceed, if_neg (by simpa [willDispatch] using hwill)])
  | registered =>
    simp only [willDispatch, Bool.and_eq_true, Bool.not_eq_true'] at hwill
    exact hloaded (by rw [Build.proceed, if_pos ⟨hready, hwill.2⟩])
  | loaded status =>
    have hlength : i < (b.activities.set i (.dispatched status)).length := by
      rwa [List.length_set]
    rw [hfirst, Build.proceed, Build.after, dispatch, Build.move, List.getElem?_append_left hlength,
      hself]
    rfl
  | _ => cases hwill

/-- The invariant says that the task is dispatched once. -/
theorem Inv.dispatchedOnce (hinv : b.Inv) : b.DispatchedOnce where
  once := le_trans (Nat.le_add_left _ _) hinv.once
  due := fun honly hstatus hdownload => by
    have hone := hinv.due honly hstatus hdownload
    rcases Nat.eq_zero_or_pos b.pending with hzero | hpos
    · exact Or.inl (by omega)
    · obtain ⟨stage, hstage, hwill⟩ := List.countP_pos_iff.mp hpos
      obtain ⟨i, hi⟩ := List.mem_iff_getElem?.mp hstage
      refine Or.inr ⟨i, ?_⟩
      rw [dispatches_of_willDispatch hi hwill (hinv.ready hpos)]
      omega
  waiting := fun honly hstatus hdownload => by
    rw [dispatches_pollAlone honly hstatus hdownload, hinv.waiting hstatus]
  idle := fun hidle => (Nat.add_eq_zero_iff.mp (hinv.idle hidle)).2
  running := fun hpos => hinv.running (Nat.add_pos_right _ hpos)

end Build

end Counts

/-- Every build that can be reached meets the invariant if the steps of activities are in time and
none dies that will dispatch the task. -/
theorem inv_of_reachable {s : State} (h : machine.Reachable Allowed s) :
    ∀ vmid b, s.get? vmid = some b → b.Inv := by
  refine h.invariant (fun s => ∀ vmid b, s.get? vmid = some b → b.Inv) ?_ ?_
  · rintro s rfl vmid b hb
    cases hb
  · intro s event hinv hallowed vmid b hb
    have hinsert : ∀ {new : Build} {id : ℤ}, new.Inv →
        (insertBuild s id new).get? vmid = some b → b.Inv := by
      intro new id hnew hb
      rw [insertBuild] at hb
      split at hb
      case isTrue => exact hinv vmid b hb
      case isFalse =>
        rcases Table.get?_insert_eq_some.mp hb with ⟨-, rfl⟩ | ⟨-, hb⟩
        · exact hnew
        · exact hinv vmid b hb
    cases event with
    | startFromVolume id => exact hinsert Build.inv_ofVolume hb
    | startFromUrl id alreadyExists downloadOnly =>
      exact hinsert (Build.inv_ofUrl alreadyExists downloadOnly) hb
    | act id event =>
      change (s.modify id (·.after event)).get? vmid = some b at hb
      rw [Table.get?_modify] at hb
      split at hb
      case isTrue hid =>
        obtain ⟨old, hold, rfl⟩ := Option.map_eq_some_iff.mp hb
        exact (hinv vmid old hold).after (hallowed old (hid ▸ hold))
      case isFalse => exact hinv vmid b hb

/-- In a run whose activities are in time, and in which none dies that will dispatch the task, the
task of every build is dispatched once after its medium is ready, and its VM stays `running`. -/
theorem dispatched_once {s : State} (h : machine.Reachable Allowed s) :
    ∀ vmid b, s.get? vmid = some b → b.DispatchedOnce := fun vmid b hb =>
  (inv_of_reachable h vmid b hb).dispatchedOnce

section Runs

/-- A medium is downloaded, and a poll dispatches the task before it ends. -/
def downloadRun : List Event :=
  [.startFromUrl 9000 false false, .act 9000 (.proceed 0), .act 9000 (.downloadEnds true),
    .act 9000 .poll, .act 9000 (.proceed 1), .act 9000 (.proceed 1), .act 9000 (.proceed 1),
    .act 9000 (.proceed 1), .act 9000 (.proceed 2), .act 9000 (.proceed 1), .act 9000 (.proceed 2),
    .act 9000 (.proceed 2), .act 9000 (.proceed 2), .act 9000 (.proceed 2)]

/-- The build after that. -/
def runningBuild : Build where
  status := .running
  download := some .succeeded
  downloadOnly := false
  activities := [.ended, .ended, .ended]
  dispatches := 1
  successes := 1

/-- The condition can be met by a run with a dispatch and a success. -/
theorem dispatched_once_small : runningBuild.DispatchedOnce := by
  have hrun : machine.Reachable Allowed (machine.run ∅ downloadRun) :=
    (Machine.Reachable.start rfl).run (by decide)
  exact dispatched_once hrun 9000 runningBuild (by decide)

/-- Two polls find the status `downloading_iso` before one of them commits `ready`. -/
def twoPolls : List Event :=
  [.startFromUrl 9000 false false, .act 9000 (.proceed 0), .act 9000 (.downloadEnds true),
    .act 9000 .poll, .act 9000 .poll, .act 9000 (.proceed 1), .act 9000 (.proceed 2),
    .act 9000 (.proceed 1), .act 9000 (.proceed 2), .act 9000 (.proceed 1), .act 9000 (.proceed 1),
    .act 9000 (.proceed 2), .act 9000 (.proceed 2)]

/-- A poll commits the status `ready`, and dies. -/
def lostPoll : List Event :=
  [.startFromUrl 9000 false false, .act 9000 (.proceed 0), .act 9000 (.downloadEnds true),
    .act 9000 .poll, .act 9000 (.proceed 1), .act 9000 (.proceed 1), .act 9000 (.die 1)]

/-- The task is through before the request that dispatched it commits the status `creating_vm`. -/
def fastTask : List Event :=
  [.startFromVolume 9000, .act 9000 (.proceed 0), .act 9000 (.proceed 0), .act 9000 (.proceed 1),
    .act 9000 (.proceed 1), .act 9000 (.proceed 1), .act 9000 (.proceed 1), .act 9000 (.proceed 1),
    .act 9000 (.proceed 0)]

/-- In other runs the task is dispatched twice, it is never dispatched, or the status `running` is
overwritten. -/
theorem not_dispatched_once :
    (¬ ∀ s, machine.Reachable Machine.anyStep s → ∀ vmid b, s.get? vmid = some b →
      b.dispatches ≤ 1) ∧
    (¬ ∀ s, machine.Reachable Machine.anyStep s → ∀ vmid b, s.get? vmid = some b →
      b.downloadOnly = false → b.status = .ready →
        b.dispatches = 1 ∨ ∃ i, ((b.after (.proceed i)).after (.proceed i)).dispatches = 1) ∧
    ¬ ∀ s, machine.Reachable Machine.anyStep s → ∀ vmid b, s.get? vmid = some b →
      0 < b.successes → b.status = .running := by
  have hreach : ∀ events, machine.Reachable Machine.anyStep (machine.run ∅ events) :=
    Machine.reachable_run rfl
  refine ⟨fun h => ?_, fun h => ?_, fun h => ?_⟩
  · obtain ⟨b, hb, htwo⟩ : ∃ b, (machine.run ∅ twoPolls).get? 9000 = some b ∧ b.dispatches = 2 :=
      ⟨_, rfl, rfl⟩
    exact absurd (h _ (hreach twoPolls) 9000 b hb) (by omega)
  · rcases h _ (hreach lostPoll) 9000 _ rfl rfl rfl with hone | ⟨i, hi⟩
    · cases hone
    · match i with
      | 0 => cases hi
      | 1 => cases hi
      | i + 2 => cases hi
  · exact absurd (h _ (hreach fastTask) 9000 _ rfl (by decide)) (by decide)

end Runs

end ProxmoxIaas.BuildDispatch
