import ProxmoxIaas.Foundation.Polling
import ProxmoxIaas.Hypervisor.Api
import ProxmoxIaas.VirtualMachines.Schema
import Mathlib.Data.List.Infix

/-!
# Commands in Virtual Machines

`exec_in_vm` waits for the guest agent of a VM, asks it to run a command, and then asks for the
output until there is one. The request to run the command is repeated after some errors. The API may
answer anything to any request, and raise any exception of the HTTP library.

## Main results

- `execInVm_once`: whatever the API answers, the guest agent accepts a command at most once, and the
  output is the one of the process it has started.
- `run_pingedFirst`: in every run of a provider, no command is sent to a VM before its guest agent
  has answered two pings in a row.
-/

namespace ProxmoxIaas.GuestExec

open Polling ProxmoxApi

/-- The answer of `_api`: what it returns, or the text of the exception it raises. -/
abbrev Answer := Except (List Char) Data

/-- A request to the API. -/
inductive Request where
  /-- Ping the guest agent. -/
  | ping (vmId : ℕ)
  /-- Run a command. -/
  | exec (node : String) (vmId : ℕ) (command : String) (timeout : ℕ)
  /-- Ask for the output of a process. -/
  | execStatus (node : String) (vmId : ℕ) (pid : Field)
  deriving DecidableEq, Repr

/-- What a command has put out. -/
structure Output where
  out : Field
  err : Field
  exitcode : Field
  deriving DecidableEq, Repr

/-- An exception that reaches the caller. -/
inductive Error where
  /-- `TimeoutError`. -/
  | timeout (text : List Char)
  /-- `RuntimeError`. -/
  | runtime (text : List Char)
  deriving DecidableEq, Repr

/-! ## Waiting -/

/-- Two pings in a row must succeed. -/
def pingVerdict (consecutiveOk : ℕ) : Answer → Verdict ℕ Bool
  | .ok _ => if consecutiveOk + 1 ≥ 2 then .done true else .more (consecutiveOk + 1)
  | .error _ => .more 0

/-- `_wait_for_guest_agent`, with the VMs whose agents are known to be stable. -/
def waitForGuestAgent (o : Outside Request Answer) (stableAgents : List ℕ) (vmId : ℕ)
    (t : Trace Request Answer) : Except Error (List ℕ) × Trace Request Answer :=
  if vmId ∈ stableAgents then (.ok stableAgents, t)
  else
    match poll o (.ping vmId) pingVerdict false (t.now + seconds 120) pollPause 0 t with
    | (true, t') => (.ok (vmId :: stableAgents), t')
    | (false, t') => (.error (.timeout ("Guest agent on VM ".toList ++ (toString vmId).toList ++
        " did not respond within 120s".toList)), t')

/-- What the status of a process says. -/
def statusVerdict (_ : Unit) : Answer → Verdict Unit (Except (List Char) Output)
  | .error _ => .more ()
  | .ok data =>
    match data.get "exited", data with
    | .ok (some exited), .object members =>
      if exited.isTruthy then
        .done (.ok ⟨(members.lookup "out-data").getD (.text []),
          (members.lookup "err-data").getD (.text []), (members.lookup "exitcode").getD (.int 0)⟩)
      else .more ()
    | _, _ => .more ()

/-- The exception when there is no output in time. -/
def noOutput : List Char := "Command execution timed out after 60s".toList

/-- `_wait_for_exec_output`. -/
def waitForExecOutput (o : Outside Request Answer) (node : String) (vmId : ℕ) (pid : Field)
    (t : Trace Request Answer) : Except (List Char) Output × Trace Request Answer :=
  poll o (.execStatus node vmId pid) statusVerdict (.error noOutput) (t.now + seconds 60) 2000 () t

/-! ## Running a command -/

/-- The exception when there is no process. -/
def noPid : List Char := "No PID returned from exec command".toList

/-- An attempt to run a command. -/
def attempt (o : Outside Request Answer) (node : String) (vmId : ℕ) (command : String) (timeout : ℕ)
    (t : Trace Request Answer) : Except (List Char) Output × Trace Request Answer :=
  let request := Request.exec node vmId command timeout
  let t' := t.exchange o request
  match t.reply o request with
  | .error text => (.error text, t')
  | .ok data =>
    match data.get "pid" with
    | .error text => (.error text, t')
    | .ok pid =>
      if (pid.getD .null).isTruthy then waitForExecOutput o node vmId (pid.getD .null) t'
      else (.error noPid, t')

/-- The texts of errors after which the request is repeated. -/
def retryableParts : List (List Char) :=
  [['b', 'r', 'o', 'k', 'e', 'n', ' ', 'p', 'i', 'p', 'e'],
    ['n', 'o', 't', ' ', 'r', 'u', 'n', 'n', 'i', 'n', 'g'], ['5', '0', '0'], ['5', '9', '6']]

/-- Whether the request is repeated after an error. -/
def isRetryable (text : List Char) : Bool :=
  retryableParts.any fun part => part <:+: text.map VmSchema.lowerChar

/-- The exception of a command that fails. -/
def failure (text : List Char) : Error := .runtime ("Failed to execute command: ".toList ++ text)

/-- `exec_in_vm`, with the VMs whose agents are known to be stable afterwards. -/
def execInVm (o : Outside Request Answer) (settleDelay : ℕ) (stableAgents : List ℕ) (vmId : ℕ)
    (command : String) (timeout : ℕ) (node : String) (skipAgentCheck : Bool)
    (t : Trace Request Answer) : Except Error Output × List ℕ × Trace Request Answer :=
  let (agent, t') :=
    if skipAgentCheck then (.ok stableAgents, t) else waitForGuestAgent o stableAgents vmId t
  match agent with
  | .error e => (.error e, stableAgents, t')
  | .ok stableAgents' =>
    let (result, t'') := retry
      (attempt o node vmId command (if timeout = 0 then 60 else timeout)) isRetryable
      (fun attempt => seconds ((attempt + 1) * 15)) 2 0 (t'.sleep (seconds settleDelay))
    (result.mapError failure, stableAgents', t'')

/-- A provider with an `OPNsenseConfigInVM` that uses it. -/
structure Session where
  /-- The VMs whose agents are known to be stable. -/
  stableAgents : List ℕ
  /-- Whether a command of the configuration has run. -/
  agentVerified : Bool
  /-- What was said. -/
  trace : Trace Request Answer

/-- A new provider and a new configuration. -/
def Session.new (now : ℕ) : Session := ⟨[], false, [], now⟩

/-- `_exec_vm`. -/
def execVm (o : Outside Request Answer) (settleDelay vmId : ℕ) (node command : String) (timeout : ℕ)
    (s : Session) : Except Error Output × Session :=
  let (result, stableAgents, trace) :=
    execInVm o settleDelay s.stableAgents vmId command timeout node s.agentVerified s.trace
  match result with
  | .ok out => (.ok out, ⟨stableAgents, true, trace⟩)
  | .error e => (.error e, ⟨stableAgents, s.agentVerified, trace⟩)

/-- A use of the provider. -/
inductive Use where
  /-- By the configuration of the VM. -/
  | config (command : String) (timeout : ℕ)
  /-- By anyone, for any VM. -/
  | call (vmId : ℕ) (command : String) (timeout : ℕ) (node : String)

/-- The session after a use. -/
def use (o : Outside Request Answer) (settleDelay vmId : ℕ) (node : String) (s : Session) :
    Use → Session
  | .config command timeout => (execVm o settleDelay vmId node command timeout s).2
  | .call vmId' command timeout node' =>
    let (_, stableAgents, trace) :=
      execInVm o settleDelay s.stableAgents vmId' command timeout node' false s.trace
    { s with stableAgents, trace }

/-! ## What is said -/

/-- The process that the guest agent has started. -/
def pidOf : Answer → Option Field
  | .error _ => none
  | .ok data =>
    match data.get "pid" with
    | .ok (some pid) => if pid.isTruthy then some pid else none
    | _ => none

/-- A request to run a command. -/
def isExec : Request × Answer → Bool
  | (.exec .., _) => true
  | (.ping _, _) | (.execStatus .., _) => false

/-- A request to run a command that the guest agent accepts. -/
def accepts (exchange : Request × Answer) : Bool := isExec exchange && (pidOf exchange.2).isSome

/-- A request to run a command in a VM. -/
def isExecIn (vmId : ℕ) : Request × Answer → Bool
  | (.exec _ vmId' .., _) => vmId' == vmId
  | (.ping _, _) | (.execStatus .., _) => false

/-- Two pings in a row have succeeded. -/
def Answers (vmId : ℕ) (log : List (Request × Answer)) : Prop :=
  ∃ a b, [(Request.ping vmId, Except.ok a), (Request.ping vmId, Except.ok b)] <:+: log

/-- No command is sent to a VM before two pings in a row have succeeded. -/
def PingedFirst (vmId : ℕ) (log : List (Request × Answer)) : Prop :=
  ∀ before exchange after, log = before ++ exchange :: after → isExecIn vmId exchange →
    Answers vmId before

section Agent

/-- Two answers in a row are the last ones. -/
theorem stateAfter_pair (a b : Data) (n : ℕ) :
    stateAfter pingVerdict n [.ok a, .ok b] = none := by
  by_cases hn : n + 1 ≥ 2
  · simp only [stateAfter, pingVerdict, if_pos hn]
  · simp only [stateAfter, pingVerdict, if_neg hn, if_pos (show n + 1 + 1 ≥ 2 by omega)]

/-- While the wait goes on, no two pings in a row have succeeded. -/
theorem not_infix_of_stateAfter {answers : List Answer}
    (h : (stateAfter pingVerdict 0 answers).isSome) (a b : Data) :
    ¬[Except.ok a, Except.ok b] <:+: answers := by
  rintro ⟨before, after, rfl⟩
  rw [List.append_assoc, stateAfter_append] at h
  cases hbefore : stateAfter pingVerdict 0 before with
  | none =>
    rw [hbefore] at h
    cases h
  | some n =>
    rw [hbefore, Option.bind_some, stateAfter_append, stateAfter_pair] at h
    cases h

/-- The wait ends with the second of two successful pings. -/
theorem suffix_of_pingVerdict {answers : List Answer} {n : ℕ} {a : Answer} {stable : Bool}
    (hafter : stateAfter pingVerdict 0 answers = some n) (h : pingVerdict n a = .done stable) :
    stable = true ∧ ∃ b c, [Except.ok b, Except.ok c] <:+ answers ++ [a] := by
  cases a with
  | error text => cases h
  | ok c =>
    simp only [pingVerdict] at h
    by_cases hn : n + 1 ≥ 2
    · rw [if_pos hn] at h
      cases h
      refine ⟨rfl, ?_⟩
      -- the count is not zero, so the ping before has succeeded too
      cases answers using List.reverseRecOn with
      | nil =>
        cases hafter
        omega
      | append_singleton before last =>
        rw [stateAfter_append] at hafter
        obtain ⟨m, -, hlast⟩ := Option.bind_eq_some_iff.mp hafter
        cases last with
        | error text =>
          cases hlast
          omega
        | ok b => exact ⟨b, c, before, (List.append_assoc before [Except.ok b] [Except.ok c]).symm⟩
    · rw [if_neg hn] at h
      cases h

/-- What is said while waiting for the guest agent. -/
structure Pinged (vmId : ℕ) (stableAgents : List ℕ) (pings : List (Request × Answer))
    (agent : Except Error (List ℕ)) : Prop where
  /-- Only this VM is pinged. -/
  request : ∀ exchange ∈ pings, exchange.1 = .ping vmId
  /-- It is pinged every three seconds. -/
  length : pings.length ≤ 40
  /-- The agent is known, has answered two pings in a row, or has not. -/
  result : (vmId ∈ stableAgents ∧ pings = [] ∧ agent = .ok stableAgents) ∨
    (Answers vmId pings ∧ agent = .ok (vmId :: stableAgents)) ∨
    (¬Answers vmId pings ∧ ∃ text, agent = .error (.timeout text))

theorem tells_waitForGuestAgent (o : Outside Request Answer) (stableAgents : List ℕ) (vmId : ℕ) :
    Tells (waitForGuestAgent o stableAgents vmId) (Pinged vmId stableAgents) := by
  intro t
  by_cases hknown : vmId ∈ stableAgents
  · simp only [waitForGuestAgent, if_pos hknown]
    exact ⟨[], (List.append_nil _).symm, List.forall_mem_nil _, Nat.zero_le _,
      .inl ⟨hknown, rfl, rfl⟩⟩
  have hpause : (pollPause : ℕ) = 3000 := rfl
  have hended := ended_poll o (.ping vmId) pingVerdict false (t.now + seconds 120) pollPause 0 t
  rw [Nat.add_sub_cancel_left] at hended
  simp only [waitForGuestAgent, if_neg hknown]
  generalize poll o (.ping vmId) pingVerdict false (t.now + seconds 120) pollPause 0 t = result
    at hended ⊢
  obtain ⟨stable, t', now⟩ := result
  dsimp only at hended
  cases hended with
  | late answers hmore hlength =>
    rw [hpause] at hlength
    refine ⟨_, rfl, fun _ => fst_of_mem_map, ?_, .inr (.inr ⟨?_, _, rfl⟩)⟩
    · rw [List.length_map]
      simp only [seconds] at hlength
      omega
    · rintro ⟨a, b, h⟩
      have hanswers := h.map Prod.snd
      rw [map_snd_map] at hanswers
      exact not_infix_of_stateAfter hmore a b hanswers
  | done answers n a stable hafter hdone hlength =>
    rw [hpause] at hlength
    obtain ⟨rfl, b, c, hsuffix⟩ := suffix_of_pingVerdict hafter hdone
    refine ⟨_, rfl, fun _ => fst_of_mem_map, ?_,
      .inr (.inl ⟨⟨b, c, (hsuffix.map (Request.ping vmId, ·)).isInfix⟩, rfl⟩)⟩
    rw [List.length_map, List.length_append, List.length_singleton]
    simp only [seconds] at hlength
    omega

end Agent

section Attempt

variable {o : Outside Request Answer} {node : String} {vmId timeout : ℕ} {command : String}
  {t : Trace Request Answer}

/-- Only an output settles the matter. -/
theorem statusVerdict_eq_done {u : Unit} {a : Answer} {result : Except (List Char) Output}
    (h : statusVerdict u a = .done result) : ∃ out, result = .ok out := by
  unfold statusVerdict at h
  split at h
  · cases h
  · split at h
    · split at h
      · cases h
        exact ⟨_, rfl⟩
      · cases h
    · cases h

/-- What is said while waiting for the output of a process. -/
structure Polled (node : String) (vmId : ℕ) (pid : Field) (polls : List (Request × Answer))
    (result : Except (List Char) Output) : Prop where
  /-- Only this process is asked for. -/
  request : ∀ exchange ∈ polls, exchange.1 = .execStatus node vmId pid
  /-- It is asked for every two seconds. -/
  length : polls.length ≤ 30
  /-- There is no output in time, or it is what the last answer says. -/
  result : result = .error noOutput ∨ ∃ out a, result = .ok out ∧
    polls.getLast? = some (.execStatus node vmId pid, a) ∧ statusVerdict () a = .done (.ok out)

theorem tells_waitForExecOutput (o : Outside Request Answer) (node : String) (vmId : ℕ)
    (pid : Field) : Tells (waitForExecOutput o node vmId pid) (Polled node vmId pid) := by
  intro t
  have hpause : ((2000 : ℕ+) : ℕ) = 2000 := rfl
  have hended := ended_poll o (.execStatus node vmId pid) statusVerdict (.error noOutput)
    (t.now + seconds 60) 2000 () t
  rw [Nat.add_sub_cancel_left] at hended
  change Ended _ _ _ _ _ _ _ (waitForExecOutput o node vmId pid t).1
    (waitForExecOutput o node vmId pid t).2.log at hended
  generalize (waitForExecOutput o node vmId pid t).1 = result,
    (waitForExecOutput o node vmId pid t).2.log = log at hended ⊢
  cases hended with
  | late answers hmore hlength =>
    rw [hpause] at hlength
    refine ⟨_, rfl, fun _ => fst_of_mem_map, ?_, .inl rfl⟩
    rw [List.length_map]
    simp only [seconds] at hlength
    omega
  | done answers u a result hafter hdone hlength =>
    rw [hpause] at hlength
    obtain ⟨out, rfl⟩ := statusVerdict_eq_done hdone
    refine ⟨_, rfl, fun _ => fst_of_mem_map, ?_, .inr ⟨out, a, rfl, ?_, hdone⟩⟩
    · rw [List.length_map, List.length_append, List.length_singleton]
      simp only [seconds] at hlength
      omega
    · rw [List.map_append]
      exact List.getLast?_concat ..

/-- What is said in an attempt to run a command, which the guest agent refuses or accepts. -/
inductive Attempted (request : Request) (node : String) (vmId : ℕ) :
    List (Request × Answer) → Except (List Char) Output → Prop where
  /-- There is no process. -/
  | refused (a : Answer) (text : List Char) (hpid : pidOf a = none) :
    Attempted request node vmId [(request, a)] (.error text)
  /-- There is one, and its output is waited for. -/
  | accepted (a : Answer) (pid : Field) (polls : List (Request × Answer))
    (result : Except (List Char) Output) (hpid : pidOf a = some pid)
    (hpolls : Polled node vmId pid polls result) :
    Attempted request node vmId ((request, a) :: polls) result

theorem tells_attempt (o : Outside Request Answer) (node : String) (vmId : ℕ) (command : String)
    (timeout : ℕ) :
    Tells (attempt o node vmId command timeout)
      (Attempted (.exec node vmId command timeout) node vmId) := by
  intro t
  simp only [attempt]
  generalize ht' : t.exchange o (.exec node vmId command timeout) = t'
  have hlog : t'.log = t.log ++
      [(.exec node vmId command timeout, t.reply o (.exec node vmId command timeout))] := ht' ▸ rfl
  generalize t.reply o (.exec node vmId command timeout) = a at hlog ⊢
  cases a with
  | error text => exact ⟨_, hlog, .refused _ text rfl⟩
  | ok data =>
    cases hget : data.get "pid" with
    | error text =>
      have hpid : pidOf (.ok data) = none := by simp only [pidOf, hget]
      simp only [hget]
      exact ⟨_, hlog, .refused _ text hpid⟩
    | ok pid =>
      simp only [hget]
      by_cases htruthy : (pid.getD .null).isTruthy
      · -- only a member that is there is true
        have hpid : pidOf (.ok data) = some (pid.getD .null) := by
          cases pid with
          | none => cases htruthy
          | some pid =>
            simp only [pidOf, hget, Option.getD_some, if_pos (show pid.isTruthy from htruthy)]
        obtain ⟨polls, hpolls, h⟩ := tells_waitForExecOutput o node vmId (pid.getD .null) t'
        rw [if_pos htruthy]
        refine ⟨_, ?_, .accepted _ _ polls _ hpid h⟩
        rw [hpolls, hlog, List.append_assoc, List.singleton_append]
      · have hpid : pidOf (.ok data) = none := by
          cases pid with
          | none => simp only [pidOf, hget]
          | some pid => simp only [pidOf, hget, if_neg (show ¬pid.isTruthy from htruthy)]
        rw [if_neg htruthy]
        exact ⟨_, hlog, .refused _ _ hpid⟩

/-- A command that is accepted is not repeated. -/
theorem isRetryable_noOutput : isRetryable noOutput = false := by
  have hlower : noOutput.map VmSchema.lowerChar = "command execution timed out after 60s".toList :=
    rfl
  rw [isRetryable, hlower]
  rfl

/-- What is said while a command is sent until the guest agent accepts it. -/
inductive Ran (request : Request) (node : String) (vmId left : ℕ) :
    List (Request × Answer) → Except (List Char) Output → Prop where
  /-- It never does. -/
  | refused (refusals : List (Request × Answer)) (text : List Char)
    (hrefusals : ∀ exchange ∈ refusals, exchange.1 = request ∧ pidOf exchange.2 = none)
    (hlength : refusals.length ≤ left + 1) : Ran request node vmId left refusals (.error text)
  /-- It does so the last time. -/
  | accepted (refusals : List (Request × Answer)) (a : Answer) (pid : Field)
    (polls : List (Request × Answer)) (result : Except (List Char) Output)
    (hrefusals : ∀ exchange ∈ refusals, exchange.1 = request ∧ pidOf exchange.2 = none)
    (hlength : refusals.length ≤ left) (hpid : pidOf a = some pid)
    (hpolls : Polled node vmId pid polls result) :
    Ran request node vmId left (refusals ++ (request, a) :: polls) result

theorem ran_of_retried {request : Request} {left : ℕ} {log : List (Request × Answer)}
    {result : Except (List Char) Output}
    (h : Retried (Attempted request node vmId) isRetryable left log result) :
    Ran request node vmId left log result := by
  induction h with
  | last left log result h =>
    cases h with
    | refused a text hpid =>
      exact .refused _ text (List.forall_mem_singleton.mpr ⟨rfl, hpid⟩) (Nat.le_add_left ..)
    | accepted a pid polls result hpid hpolls =>
      exact .accepted [] a pid polls result (List.forall_mem_nil _) (Nat.zero_le _) hpid hpolls
  | more left log text rest result h hagain hrest ih =>
    cases h with
    | accepted a pid polls result hpid hpolls =>
      -- the only error after a command was accepted is one that ends the attempts
      rcases hpolls.result with h | ⟨out, _, h, _⟩
      · rw [Except.error.inj h, isRetryable_noOutput] at hagain
        cases hagain
      · cases h
    | refused a text hpid =>
      cases ih with
      | refused refusals text hrefusals hlength =>
        exact .refused _ text (List.forall_mem_cons.mpr ⟨⟨rfl, hpid⟩, hrefusals⟩)
          (Nat.add_le_add_right hlength 1)
      | accepted refusals b pid polls result hrefusals hlength hpid' hpolls =>
        exact .accepted ((request, a) :: refusals) b pid polls result
          (List.forall_mem_cons.mpr ⟨⟨rfl, hpid⟩, hrefusals⟩) (Nat.add_le_add_right hlength 1)
          hpid' hpolls

theorem Ran.counts {log : List (Request × Answer)} {result : Except (List Char) Output}
    (h : Ran (.exec node vmId command timeout) node vmId 2 log result) :
    log.countP accepts ≤ 1 ∧ log.countP isExec ≤ 3 ∧ log.length ≤ 33 := by
  have hrefused : ∀ refusals : List (Request × Answer),
      (∀ exchange ∈ refusals, exchange.1 = .exec node vmId command timeout ∧
        pidOf exchange.2 = none) → refusals.countP accepts = 0 := fun refusals hrefusals =>
    countP_eq_zero_of_forall fun exchange hmem => by
      rw [accepts, (hrefusals exchange hmem).2, Option.isSome_none, Bool.and_false]
  have hpolled : ∀ {pid polls result}, Polled node vmId pid polls result →
      polls.countP isExec = 0 ∧ polls.countP accepts = 0 := fun hpolls => by
    refine ⟨countP_eq_zero_of_forall ?_, countP_eq_zero_of_forall ?_⟩
    all_goals
      rintro ⟨request, a⟩ hmem
      obtain rfl : request = _ := hpolls.request _ hmem
      rfl
  cases h with
  | refused refusals text hrefusals hlength =>
    have hexecs := List.countP_le_length (p := isExec) (l := log)
    rw [hrefused log hrefusals]
    omega
  | accepted refusals a pid polls result hrefusals hlength hpid hpolls =>
    have hexecs := List.countP_le_length (p := isExec) (l := refusals)
    have hpolls' := hpolls.length
    obtain ⟨hno, hnone⟩ := hpolled hpolls
    simp only [List.countP_append, List.countP_cons, List.length_append, List.length_cons,
      hrefused refusals hrefusals, hno, hnone]
    split_ifs <;> omega

/-- The output is the one of the process that was started. -/
theorem Ran.output {log : List (Request × Answer)} {out : Output}
    (h : Ran (.exec node vmId command timeout) node vmId 2 log (.ok out)) :
    ∃ refusals a pid polls last, log = refusals ++ (.exec node vmId command timeout, a) :: polls ∧
      pidOf a = some pid ∧ polls.getLast? = some (.execStatus node vmId pid, last) ∧
      statusVerdict () last = .done (.ok out) := by
  cases h with
  | accepted refusals a pid polls result hrefusals hlength hpid hpolls =>
    rcases hpolls.result with h | ⟨_, last, h, hlast, hverdict⟩
    · cases h
    · cases h
      exact ⟨refusals, a, pid, polls, last, rfl, hpid, hlast, hverdict⟩

/-- What is said in a call. -/
inductive Said (request : Request) (node : String) (vmId : ℕ) (skipAgentCheck : Bool)
    (stableAgents : List ℕ) :
    List (Request × Answer) → Except Error Output → List ℕ → Prop where
  /-- The guest agent does not answer. -/
  | silent (pings : List (Request × Answer)) (text : List Char) (hskip : skipAgentCheck = false)
    (hpings : Pinged vmId stableAgents pings (.error (.timeout text))) :
    Said request node vmId skipAgentCheck stableAgents pings (.error (.timeout text)) stableAgents
  /-- It does, or is taken to do so. -/
  | ran (pings ran : List (Request × Answer)) (stableAgents' : List ℕ)
    (outcome : Except (List Char) Output)
    (hskip : skipAgentCheck = true → pings = [] ∧ stableAgents' = stableAgents)
    (hpings : skipAgentCheck = false → Pinged vmId stableAgents pings (.ok stableAgents'))
    (hran : Ran request node vmId 2 ran outcome) :
    Said request node vmId skipAgentCheck stableAgents (pings ++ ran) (outcome.mapError failure)
      stableAgents'

end Attempt

section Call

variable (o : Outside Request Answer) (settleDelay : ℕ) (stableAgents : List ℕ) (vmId : ℕ)
  (command : String) (timeout : ℕ) (node : String) (skipAgentCheck : Bool)
  (t : Trace Request Answer)

theorem said_execInVm :
    ∃ said, (execInVm o settleDelay stableAgents vmId command timeout node skipAgentCheck t).2.2.log
        = t.log ++ said ∧
      Said (.exec node vmId command (if timeout = 0 then 60 else timeout)) node vmId skipAgentCheck
        stableAgents said
        (execInVm o settleDelay stableAgents vmId command timeout node skipAgentCheck t).1
        (execInVm o settleDelay stableAgents vmId command timeout node skipAgentCheck t).2.1 := by
  have hran := (((tells_attempt o node vmId command (if timeout = 0 then 60 else timeout)).retry
    isRetryable (fun attempt => seconds ((attempt + 1) * 15)) 2 0).imp
    fun _ _ => ran_of_retried).sleep (seconds settleDelay)
  cases skipAgentCheck with
  | true =>
    obtain ⟨log, hlog, hran⟩ := hran t
    exact ⟨log, hlog, .ran [] log stableAgents _ (fun _ => ⟨rfl, rfl⟩) (fun h => nomatch h) hran⟩
  | false =>
    obtain ⟨pings, hpings, h⟩ := tells_waitForGuestAgent o stableAgents vmId t
    simp only [execInVm, Bool.false_eq_true, if_false]
    generalize waitForGuestAgent o stableAgents vmId t = result at hpings h ⊢
    obtain ⟨agent, t'⟩ := result
    cases agent with
    | error e =>
      obtain ⟨text, rfl⟩ : ∃ text, e = .timeout text := by
        rcases h.result with ⟨-, -, h⟩ | ⟨-, h⟩ | ⟨-, text, h⟩
        · cases h
        · cases h
        · exact ⟨text, Except.error.inj h⟩
      exact ⟨pings, hpings, .silent pings text rfl h⟩
    | ok stableAgents' =>
      obtain ⟨log, hlog, hran⟩ := hran t'
      refine ⟨pings ++ log, ?_,
        .ran pings log stableAgents' _ (fun h => nomatch h) (fun _ => h) hran⟩
      rw [← List.append_assoc, ← hpings]
      exact hlog

end Call

section PingedFirst

variable {vmId : ℕ} {log log' : List (Request × Answer)}

theorem Answers.mono (h : Answers vmId log) (hpart : log <:+: log') : Answers vmId log' :=
  let ⟨a, b, h⟩ := h
  ⟨a, b, h.trans hpart⟩

theorem pingedFirst_of_forall (h : ∀ exchange ∈ log, isExecIn vmId exchange = false) :
    PingedFirst vmId log := by
  rintro before exchange after rfl hexec
  rw [h exchange (List.mem_append_cons_self)] at hexec
  cases hexec

theorem PingedFirst.append (h : PingedFirst vmId log)
    (h' : Answers vmId log ∨ PingedFirst vmId log') : PingedFirst vmId (log ++ log') := by
  intro before exchange after happend hexec
  rcases List.append_eq_append_iff.mp happend with ⟨between, rfl, hlog'⟩ | ⟨between, rfl, hlog⟩
  · rcases h' with hanswers | h'
    · exact hanswers.mono (List.prefix_append ..).isInfix
    · exact (h' between exchange after hlog' hexec).mono (List.suffix_append ..).isInfix
  · cases between with
    | nil =>
      rcases h' with hanswers | h'
      · rwa [List.append_nil] at hanswers
      · have hanswers := h' [] exchange after hlog.symm hexec
        exact hanswers.mono (List.nil_infix)
    | cons first between =>
      obtain ⟨rfl, -⟩ := List.cons.inj hlog
      exact h before _ between rfl hexec

theorem Pinged.not_exec {stableAgents : List ℕ} {agent : Except Error (List ℕ)}
    (h : Pinged vmId stableAgents log agent) (vmId' : ℕ) :
    ∀ exchange ∈ log, isExec exchange = false ∧ isExecIn vmId' exchange = false := by
  rintro ⟨request, a⟩ hmem
  obtain rfl : request = _ := h.request _ hmem
  exact ⟨rfl, rfl⟩

theorem Pinged.counts {stableAgents : List ℕ} {agent : Except Error (List ℕ)}
    (h : Pinged vmId stableAgents log agent) :
    log.countP accepts = 0 ∧ log.countP isExec = 0 := by
  refine ⟨countP_eq_zero_of_forall fun exchange hmem => ?_,
    countP_eq_zero_of_forall fun exchange hmem => (h.not_exec vmId exchange hmem).1⟩
  rw [accepts, (h.not_exec vmId exchange hmem).1, Bool.false_and]

theorem Ran.isExecIn_eq_false {node command : String} {timeout vmId' : ℕ}
    {outcome : Except (List Char) Output}
    (h : Ran (.exec node vmId command timeout) node vmId 2 log outcome) (hne : vmId ≠ vmId') :
    ∀ exchange ∈ log, isExecIn vmId' exchange = false := by
  have hexec : ∀ a, isExecIn vmId' (.exec node vmId command timeout, a) = false := fun _ =>
    beq_eq_false_iff_ne.mpr hne
  have hrefused : ∀ refusals : List (Request × Answer),
      (∀ exchange ∈ refusals, exchange.1 = .exec node vmId command timeout ∧
        pidOf exchange.2 = none) → ∀ exchange ∈ refusals, isExecIn vmId' exchange = false := by
    rintro refusals hrefusals ⟨request, a⟩ hmem
    obtain rfl : request = _ := (hrefusals _ hmem).1
    exact hexec a
  cases h with
  | refused _ _ hrefusals => exact hrefused log hrefusals
  | accepted refusals a pid polls _ hrefusals _ _ hpolls =>
    refine List.forall_mem_append.mpr ⟨hrefused refusals hrefusals,
      List.forall_mem_cons.mpr ⟨hexec a, ?_⟩⟩
    rintro ⟨request, a⟩ hmem
    obtain rfl : request = _ := hpolls.request _ hmem
    rfl

end PingedFirst

/-! ## At most once -/

section Said

variable {vmId : ℕ} {command : String} {timeout : ℕ} {node : String} {skipAgentCheck : Bool}
  {stableAgents : List ℕ} {said : List (Request × Answer)} {result : Except Error Output}
  {stableAgents' : List ℕ}

theorem Said.cases_pings
    (h : Said (.exec node vmId command timeout) node vmId skipAgentCheck stableAgents said result
      stableAgents') :
    ∃ pings ran, said = pings ++ ran ∧ pings.length ≤ 40 ∧ pings.countP accepts = 0 ∧
      pings.countP isExec = 0 ∧ (∀ vm, ∀ exchange ∈ pings, isExecIn vm exchange = false) ∧
      ((ran = [] ∧ ∃ e, result = .error e) ∨ ∃ outcome,
        Ran (.exec node vmId command timeout) node vmId 2 ran outcome ∧
          result = outcome.mapError failure ∧
          (skipAgentCheck = false → vmId ∉ stableAgents → Answers vmId pings)) := by
  cases h with
  | silent pings text hskip hpings =>
    obtain ⟨haccepts, hexecs⟩ := hpings.counts
    exact ⟨said, [], (List.append_nil _).symm, hpings.length, haccepts, hexecs,
      fun vm exchange hmem => (hpings.not_exec vm exchange hmem).2, .inl ⟨rfl, _, rfl⟩⟩
  | ran pings ran stableAgents' outcome hskip hpings hran =>
    refine ⟨pings, ran, rfl, ?_⟩
    cases skipAgentCheck with
    | true =>
      rw [(hskip rfl).1]
      exact ⟨Nat.zero_le _, rfl, rfl, fun _ => List.forall_mem_nil _,
        .inr ⟨outcome, hran, rfl, fun h => nomatch h⟩⟩
    | false =>
      have hpings := hpings rfl
      obtain ⟨haccepts, hexecs⟩ := hpings.counts
      refine ⟨hpings.length, haccepts, hexecs,
        fun vm exchange hmem => (hpings.not_exec vm exchange hmem).2,
        .inr ⟨outcome, hran, rfl, fun _ hunknown => ?_⟩⟩
      rcases hpings.result with ⟨hknown, -⟩ | ⟨hanswers, -⟩ | ⟨-, text, h⟩
      · exact absurd hknown hunknown
      · exact hanswers
      · cases h

theorem Said.counts
    (h : Said (.exec node vmId command timeout) node vmId skipAgentCheck stableAgents said result
      stableAgents') :
    said.countP accepts ≤ 1 ∧ said.countP isExec ≤ 3 ∧ said.length ≤ 73 := by
  obtain ⟨pings, ran, rfl, hlength, haccepts, hexecs, -, hran⟩ := h.cases_pings
  have hcounts : ran.countP accepts ≤ 1 ∧ ran.countP isExec ≤ 3 ∧ ran.length ≤ 33 := by
    rcases hran with ⟨rfl, -⟩ | ⟨outcome, hran, -⟩
    · exact ⟨Nat.zero_le _, Nat.zero_le _, Nat.zero_le _⟩
    · exact hran.counts
  rw [List.countP_append, List.countP_append, List.length_append]
  omega

/-- Commands are sent to one VM, and to that after pings if its agent is not known. -/
theorem Said.pingedFirst
    (h : Said (.exec node vmId command timeout) node vmId skipAgentCheck stableAgents said result
      stableAgents') (vm : ℕ)
    (hvm : vm ≠ vmId ∨ (skipAgentCheck = false ∧ vmId ∉ stableAgents)) :
    PingedFirst vm said := by
  obtain ⟨pings, ran, rfl, -, -, -, hpings, hran⟩ := h.cases_pings
  refine (pingedFirst_of_forall (hpings vm)).append ?_
  rcases hran with ⟨rfl, -⟩ | ⟨outcome, hran, -, hanswers⟩
  · exact .inr (pingedFirst_of_forall (List.forall_mem_nil _))
  · by_cases hne : vm = vmId
    · obtain ⟨hskip, hunknown⟩ := hvm.resolve_left (not_not.mpr hne)
      exact .inl (hne ▸ hanswers hskip hunknown)
    · exact .inr (pingedFirst_of_forall (hran.isExecIn_eq_false (Ne.symm hne)))

end Said

/-- What a caller can rely on. -/
structure RunsOnce (vmId : ℕ) (command : String) (timeout : ℕ) (node : String) (known : Prop)
    (said : List (Request × Answer)) (result : Except Error Output) : Prop where
  /-- The guest agent accepts the command at most once. -/
  accepted : said.countP accepts ≤ 1
  /-- It is sent at most three times. -/
  sent : said.countP isExec ≤ 3
  /-- There are so many requests in all. -/
  length : said.length ≤ 73
  /-- The output is what the last answer says about the process the guest agent has started. -/
  output : ∀ out, result = .ok out → ∃ before a pid polls last,
    said = before ++ (.exec node vmId command (if timeout = 0 then 60 else timeout), a) :: polls ∧
      pidOf a = some pid ∧ polls.getLast? = some (.execStatus node vmId pid, last) ∧
      statusVerdict () last = .done (.ok out)
  /-- A command is sent after two pings have succeeded in a row, if the agent is not known to be
  stable. -/
  pinged : ¬known → PingedFirst vmId said

/-- A command runs at most once, whatever the API answers and how long it takes. -/
theorem execInVm_once (o : Outside Request Answer) (settleDelay : ℕ) (stableAgents : List ℕ)
    (vmId : ℕ) (command : String) (timeout : ℕ) (node : String) (skipAgentCheck : Bool)
    (t : Trace Request Answer) :
    ∃ said, (execInVm o settleDelay stableAgents vmId command timeout node skipAgentCheck t).2.2.log
        = t.log ++ said ∧
      RunsOnce vmId command timeout node (skipAgentCheck ∨ vmId ∈ stableAgents) said
        (execInVm o settleDelay stableAgents vmId command timeout node skipAgentCheck t).1 := by
  obtain ⟨said, hlog, hsaid⟩ := said_execInVm o settleDelay stableAgents vmId command timeout node
    skipAgentCheck t
  obtain ⟨haccepted, hsent, hlength⟩ := hsaid.counts
  refine ⟨said, hlog, haccepted, hsent, hlength, fun out hout => ?_, fun hknown => ?_⟩
  · obtain ⟨pings, ran, rfl, -, -, -, -, hran⟩ := hsaid.cases_pings
    rcases hran with ⟨-, e, h⟩ | ⟨outcome, hran, h, -⟩
    · cases hout.symm.trans h
    · cases outcome with
      | error text => cases hout.symm.trans h
      | ok out' =>
        obtain rfl : out = out' := Except.ok.inj (hout.symm.trans h)
        obtain ⟨refusals, a, pid, polls, last, rfl, houtput⟩ := hran.output
        exact ⟨pings ++ refusals, a, pid, polls, last, (List.append_assoc ..).symm, houtput⟩
  · obtain ⟨hskip, hunknown⟩ := not_or.mp hknown
    exact hsaid.pingedFirst vmId (.inr ⟨Bool.eq_false_iff.mpr hskip, hunknown⟩)

/-! ## Runs -/

/-- What holds of a provider and a configuration in use. -/
structure Session.Valid (vmId : ℕ) (s : Session) : Prop where
  /-- The agents that are known to be stable have answered two pings in a row. -/
  stable : ∀ vm ∈ s.stableAgents, Answers vm s.trace.log
  /-- So has the one of the configuration if a command has run. -/
  verified : s.agentVerified = true → Answers vmId s.trace.log
  /-- No command was sent to any VM before that. -/
  pinged : ∀ vm, PingedFirst vm s.trace.log

/-- What a call adds. -/
structure Adds (skipAgentCheck : Bool) (stableAgents : List ℕ) (vmId : ℕ)
    (said : List (Request × Answer)) (stableAgents' : List ℕ) (succeeds : Prop) : Prop where
  /-- It sends commands to one VM, after pings. -/
  pinged : ∀ vm, vm ≠ vmId ∨ (skipAgentCheck = false ∧ vmId ∉ stableAgents) → PingedFirst vm said
  /-- What it takes to be stable. -/
  stable : ∀ vm ∈ stableAgents', vm ∈ stableAgents ∨ Answers vm said
  /-- A command that has run is one in a VM whose agent is known. -/
  known : succeeds → skipAgentCheck = false → vmId ∈ stableAgents'
  /-- At most one command is accepted. -/
  accepted : said.countP accepts ≤ 1

theorem adds_execInVm (o : Outside Request Answer) (settleDelay : ℕ) (stableAgents : List ℕ)
    (vmId : ℕ) (command : String) (timeout : ℕ) (node : String) (skipAgentCheck : Bool)
    (t : Trace Request Answer) :
    ∃ said, (execInVm o settleDelay stableAgents vmId command timeout node skipAgentCheck t).2.2.log
        = t.log ++ said ∧
      Adds skipAgentCheck stableAgents vmId said
        (execInVm o settleDelay stableAgents vmId command timeout node skipAgentCheck t).2.1
        ((execInVm o settleDelay stableAgents vmId command timeout node skipAgentCheck t).1.isOk =
          true) := by
  obtain ⟨said, hlog, hsaid⟩ := said_execInVm o settleDelay stableAgents vmId command timeout node
    skipAgentCheck t
  refine ⟨said, hlog, ?_⟩
  generalize (execInVm o settleDelay stableAgents vmId command timeout node skipAgentCheck t).1 =
    result, (execInVm o settleDelay stableAgents vmId command timeout node skipAgentCheck t).2.1 =
    stableAgents' at hsaid ⊢
  refine ⟨hsaid.pingedFirst, fun vm hmem => ?_, fun hok hskip => ?_, hsaid.counts.1⟩
  · cases hsaid with
    | silent pings text hskip hpings => exact .inl hmem
    | ran pings ran stableAgents' outcome hskip hpings hran =>
      cases skipAgentCheck with
      | true => exact .inl ((hskip rfl).2 ▸ hmem)
      | false =>
        rcases (hpings rfl).result with ⟨-, -, h⟩ | ⟨hanswers, h⟩ | ⟨-, text, h⟩
        · exact .inl (Except.ok.inj h ▸ hmem)
        · rw [Except.ok.inj h] at hmem
          rcases List.mem_cons.mp hmem with rfl | hmem
          · exact .inr (hanswers.mono (List.prefix_append ..).isInfix)
          · exact .inl hmem
        · cases h
  · cases hsaid with
    | silent pings text hskip hpings => cases hok
    | ran pings ran stableAgents' outcome _ hpings hran =>
      rcases (hpings hskip).result with ⟨hknown, -, h⟩ | ⟨-, h⟩ | ⟨-, text, h⟩
      · exact Except.ok.inj h ▸ hknown
      · exact Except.ok.inj h ▸ List.mem_cons_self
      · cases h

theorem Session.Valid.adds {vmId vmId' : ℕ} {s s' : Session} {skipAgentCheck : Bool}
    {said : List (Request × Answer)} {succeeds : Prop} (h : s.Valid vmId)
    (hskip : skipAgentCheck = true → vmId' = vmId ∧ s.agentVerified = true)
    (hlog : s'.trace.log = s.trace.log ++ said)
    (hadds : Adds skipAgentCheck s.stableAgents vmId' said s'.stableAgents succeeds)
    (hverified : s'.agentVerified = true → s.agentVerified = true ∨ vmId' = vmId ∧ succeeds) :
    s'.Valid vmId := by
  have hkeep : ∀ {vm}, Answers vm s.trace.log → Answers vm s'.trace.log := fun h =>
    h.mono (hlog ▸ (List.prefix_append ..).isInfix)
  have hstable : ∀ vm ∈ s'.stableAgents, Answers vm s'.trace.log := fun vm hmem => by
    rcases hadds.stable vm hmem with hmem | hanswers
    · exact hkeep (h.stable vm hmem)
    · exact hanswers.mono (hlog ▸ (List.suffix_append ..).isInfix)
  refine ⟨hstable, fun hv => ?_, fun vm => hlog ▸ (h.pinged vm).append ?_⟩
  · rcases hverified hv with hv | ⟨rfl, hsucceeds⟩
    · exact hkeep (h.verified hv)
    · cases hcheck : skipAgentCheck with
      | true => exact hkeep (h.verified (hskip hcheck).2)
      | false => exact hstable vmId' (hadds.known hsucceeds hcheck)
  · by_cases hvm : vm = vmId'
    · cases hcheck : skipAgentCheck with
      | true =>
        obtain ⟨rfl, hv⟩ := hskip hcheck
        exact .inl (hvm ▸ h.verified hv)
      | false =>
        by_cases hknown : vmId' ∈ s.stableAgents
        · exact .inl (hvm ▸ h.stable vmId' hknown)
        · exact .inr (hadds.pinged vm (.inr ⟨hcheck, hknown⟩))
    · exact .inr (hadds.pinged vm (.inl hvm))

/-- A use keeps what holds of a session, and at most one command is accepted. -/
theorem Session.Valid.use (o : Outside Request Answer) (settleDelay : ℕ) {vmId : ℕ} (node : String)
    {s : Session} (h : s.Valid vmId) (u : Use) :
    (GuestExec.use o settleDelay vmId node s u).Valid vmId ∧
      (GuestExec.use o settleDelay vmId node s u).trace.log.countP accepts ≤
        s.trace.log.countP accepts + 1 := by
  cases u with
  | config command timeout =>
    obtain ⟨said, hlog, hadds⟩ := adds_execInVm o settleDelay s.stableAgents vmId command timeout
      node s.agentVerified s.trace
    simp only [GuestExec.use, execVm]
    generalize execInVm o settleDelay s.stableAgents vmId command timeout node s.agentVerified
      s.trace = result at hlog hadds ⊢
    obtain ⟨result, stableAgents, trace⟩ := result
    dsimp only at hlog hadds ⊢
    have hcount : trace.log.countP accepts ≤ s.trace.log.countP accepts + 1 := by
      rw [hlog, List.countP_append]
      exact Nat.add_le_add_left hadds.accepted _
    cases result with
    | ok out =>
      exact ⟨h.adds (fun hv => ⟨rfl, hv⟩) hlog hadds fun _ => .inr ⟨rfl, rfl⟩, hcount⟩
    | error e => exact ⟨h.adds (fun hv => ⟨rfl, hv⟩) hlog hadds .inl, hcount⟩
  | call vmId' command timeout node' =>
    obtain ⟨said, hlog, hadds⟩ := adds_execInVm o settleDelay s.stableAgents vmId' command timeout
      node' false s.trace
    refine ⟨h.adds (fun hskip => absurd hskip Bool.false_ne_true) hlog hadds .inl, ?_⟩
    have hlog' : (GuestExec.use o settleDelay vmId node s
        (.call vmId' command timeout node')).trace.log = s.trace.log ++ said := hlog
    rw [hlog', List.countP_append]
    exact Nat.add_le_add_left hadds.accepted _

/-- In every run of a new provider, no command is sent to a VM before its guest agent has answered
two pings in a row, and no more commands are accepted than there were calls. -/
theorem run_pingedFirst (o : Outside Request Answer) (settleDelay vmId : ℕ) (node : String)
    (now : ℕ) (uses : List Use) :
    (∀ vm, PingedFirst vm
      (uses.foldl (use o settleDelay vmId node) (.new now)).trace.log) ∧
      (uses.foldl (use o settleDelay vmId node) (.new now)).trace.log.countP accepts ≤
        uses.length := by
  have hrun : ∀ (uses : List Use) (s : Session), s.Valid vmId →
      (uses.foldl (use o settleDelay vmId node) s).Valid vmId ∧
        (uses.foldl (use o settleDelay vmId node) s).trace.log.countP accepts ≤
          s.trace.log.countP accepts + uses.length := fun uses => by
    induction uses with
    | nil => exact fun s h => ⟨h, le_rfl⟩
    | cons u uses ih =>
      intro s h
      obtain ⟨hvalid, hcount⟩ := h.use o settleDelay node u
      obtain ⟨hvalid', hcount'⟩ := ih _ hvalid
      rw [List.foldl_cons, List.length_cons]
      exact ⟨hvalid', by omega⟩
  have hnew : (Session.new now).Valid vmId := ⟨List.forall_mem_nil _, fun h => (nomatch h),
    fun _ => pingedFirst_of_forall (List.forall_mem_nil _)⟩
  obtain ⟨hvalid, hcount⟩ := hrun uses (.new now) hnew
  exact ⟨hvalid.pinged, hcount.trans_eq (Nat.zero_add _)⟩

end ProxmoxIaas.GuestExec
