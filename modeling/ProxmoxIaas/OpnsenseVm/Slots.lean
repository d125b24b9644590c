import ProxmoxIaas.OpnsenseVm.Interleavings
import ProxmoxIaas.OpnsenseVm.Targets

/-!
# Interface Slots

A run reads the names that are in use, chooses free ones, and writes its entries in later
executions. Another run may take the same names in between, and then both runs write them.

## Main results

- `slots_kept`: no run takes a name or an entry of another run, if at each write the names it has
  chosen are still free.
- `slots_taken`: two runs that alternate end with the same names.
-/

namespace ProxmoxIaas.OpnsenseVm

/-- The VLAN that a run configures: its tag and its parent interface. -/
def Job.vlan? : Job → Option (ℕ × String)
  | .vlan task parentIf => some (task.vlanTag, parentIf)
  | .wireguard _ _ => none

/-- The VLAN that a run has configured to the end. -/
def Run.completedVlan? (run : Run) : Option (ℕ × String) :=
  match run.phase with
  | some (.done _ _) => run.job.vlan?
  | _ => none

/-- No slot of an interface or of a VLAN device was taken from a run. -/
structure SlotsKept (s : State) : Prop where
  /-- Completed runs have different interfaces. -/
  opts_ne : ∀ id job device opt id' job' device' opt',
    s.runs.get? id = some ⟨job, some (.done device opt)⟩ →
    s.runs.get? id' = some ⟨job', some (.done device' opt')⟩ → id ≠ id' → opt ≠ opt'
  /-- Completed runs for different tags have different VLAN devices. -/
  vlanifs_ne : ∀ id task parentIf vlanif opt id' task' parentIf' vlanif' opt',
    s.runs.get? id = some ⟨.vlan task parentIf, some (.done vlanif opt)⟩ →
    s.runs.get? id' = some ⟨.vlan task' parentIf', some (.done vlanif' opt')⟩ →
    task.vlanTag ≠ task'.vlanTag → vlanif ≠ vlanif'
  /-- No two runs have written one entry. -/
  writer_unique : ∀ id id' opt, (id, opt) ∈ s.writes → (id', opt) ∈ s.writes → id = id'

/-- An interface is missing, or on a device. -/
def missingOrOn (config : Config) (device opt : String) : Bool :=
  (config.interfaces.get? opt).all fun iface => iface.device = device

/-- Whether an execution finds what it relies on as the run has read it. -/
def findsSlots (s : State) (id : ℕ) (job : Job) : Phase → Bool
  -- The device of a VLAN that exists is no other VLAN's device, and no tunnel's.
  | .findOpt vlanif _ => !isTunnelDevice vlanif &&
      s.vm.config.vlans.all fun other =>
        other.vlanif = vlanif → some (other.tag, other.parentIf) = job.vlan?
  -- A reused interface is not one that another run has put there since the list was read.
  | .readAddress vlanif opt | .verifyAddress vlanif opt => missingOrOn s.vm.config vlanif opt
  | .setAddress vlanif opt => missingOrOn s.vm.config vlanif opt &&
      s.writes.all fun write => write.2 = opt → write.1 = id
  -- The name of the new device is still free, or the VLAN already has a device of this name.
  | .addVlan vlanif _ => s.vm.config.vlans.all fun other =>
      other.vlanif = vlanif ↔ some (other.tag, other.parentIf) = job.vlan?
  -- The name of the new interface is still free.
  | .addOpt _ opt => (s.vm.config.interfaces.get? opt).isNone
  -- No other run has configured the same VLAN to the end.
  | .reconfigure _ _ => (s.runs.first? fun _ run =>
      run.completedVlan?.isSome ∧ run.completedVlan? = job.vlan?).isNone
  | _ => true

/-- The condition on the steps of a run of the system. -/
def keepsSlots (s : State) : Event → Bool
  | .execute id _ =>
    match s.runs.get? id with
    | some ⟨job, some phase⟩ => findsSlots s id job phase
    | _ => true
  | _ => true

/-! ## What a run relies on -/

/-- Some VLAN device has a name. -/
def HasName (config : Config) (vlanif : String) : Prop :=
  ∃ device ∈ config.vlans, device.vlanif = vlanif

/-- A VLAN, and no other one, has devices of a name, and the name is no tunnel's. -/
structure OwnDevice (config : Config) (vlan? : Option (ℕ × String)) (vlanif : String) :
    Prop where
  /-- There is such a device. -/
  hasName : HasName config vlanif
  /-- All such devices belong to the VLAN. -/
  only : ∀ device ∈ config.vlans, device.vlanif = vlanif →
    some (device.tag, device.parentIf) = vlan?
  /-- Tunnels have other names. -/
  not_tunnel : isTunnelDevice vlanif = false

/-- An interface exists and is on a device. -/
def Bound (config : Config) (device opt : String) : Prop :=
  ∃ iface, config.interfaces.get? opt = some iface ∧ iface.device = device

/-- What holds of a VLAN run in each phase. -/
def VlanInv (config : Config) (vlan? : Option (ℕ × String)) : Phase → Prop
  | .listInterfaces vlans => ∀ device ∈ vlans, HasName config device.vlanif
  | .findOpt vlanif _ => HasName config vlanif
  | .addVlan vlanif _ => isTunnelDevice vlanif = false
  | .readAddress vlanif _ | .setAddress vlanif _ | .verifyAddress vlanif _ | .verifyVlan vlanif _
  | .addOpt vlanif _ => OwnDevice config vlan? vlanif
  | .verifyOpt vlanif opt | .createIface vlanif opt | .reload vlanif opt | .readKea vlanif opt
  | .addSubnet vlanif opt _ | .setInterfaces vlanif opt _ | .reconfigure vlanif opt
  | .done vlanif opt => OwnDevice config vlan? vlanif ∧ Bound config vlanif opt
  | .listVlans | .listNames | .findDevice _ => True

/-- What holds of a tunnel run in each phase. -/
def TunnelInv (config : Config) (writes : List (ℕ × String)) (id : ℕ) : Phase → Prop
  | .addOpt device _ => isTunnelDevice device = true
  | .verifyOpt device opt | .reload device opt | .done device opt =>
    isTunnelDevice device = true ∧ Bound config device opt ∧ (id, opt) ∈ writes
  | _ => True

/-- What holds of a run in each phase. -/
def RunInv (config : Config) (writes : List (ℕ × String)) (id : ℕ) (job : Job) (phase : Phase) :
    Prop :=
  match job with
  | .vlan _ _ => VlanInv config job.vlan? phase
  | .wireguard _ _ => TunnelInv config writes id phase

/-- A later configuration still has what the runs rely on. -/
structure Kept (config config' : Config) : Prop where
  /-- The names of VLAN devices. -/
  hasName : ∀ {vlanif}, HasName config vlanif → HasName config' vlanif
  /-- The VLANs they belong to. -/
  ownDevice : ∀ {vlan? vlanif}, OwnDevice config vlan? vlanif → OwnDevice config' vlan? vlanif
  /-- The devices of the interfaces. -/
  bound : ∀ {device opt}, Bound config device opt → Bound config' device opt

theorem Kept.refl (config : Config) : Kept config config := ⟨id, id, id⟩

/-- The devices of an unchanged section are kept if the interfaces stay on their devices. -/
theorem kept_of_vlans_eq {config config' : Config} (hvlans : config'.vlans = config.vlans)
    (hbound : ∀ {device opt}, Bound config device opt → Bound config' device opt) :
    Kept config config' where
  hasName h := by rwa [HasName, hvlans]
  ownDevice h := ⟨by rw [HasName, hvlans]; exact h.hasName, by rw [hvlans]; exact h.only,
    h.not_tunnel⟩
  bound := hbound

/-- A new interface moves no other one to another device. -/
theorem bound_addOptInterface {config : Config} {opt vlanif ip descr device name : String}
    {subnet : ℕ} (hfree : config.interfaces.get? opt = none) (h : Bound config device name) :
    Bound (addOptInterface config opt vlanif ip subnet descr) device name := by
  obtain ⟨iface, hget, hdevice⟩ := h
  refine ⟨iface, ?_, hdevice⟩
  rw [get?_addOptInterface, if_neg]
  · exact hget
  · rintro rfl
    rw [hfree] at hget
    cases hget

/-- A new address moves no interface to another device. -/
theorem bound_setInterfaceIp {config : Config} {opt ip device name : String} {subnet : ℕ}
    (h : Bound config device name) : Bound (setInterfaceIp config opt ip subnet) device name := by
  obtain ⟨iface, hget, hdevice⟩ := h
  rw [Bound, get?_setInterfaceIp, hget]
  split
  case isTrue => exact ⟨_, rfl, hdevice⟩
  case isFalse => exact ⟨_, rfl, hdevice⟩

theorem kept_setInterfaceIp (config : Config) (opt ip : String) (subnet : ℕ) :
    Kept config (setInterfaceIp config opt ip subnet) :=
  kept_of_vlans_eq rfl bound_setInterfaceIp

theorem kept_addOptInterface {config : Config} {opt : String}
    (hfree : config.interfaces.get? opt = none) (vlanif ip : String) (subnet : ℕ)
    (descr : String) : Kept config (addOptInterface config opt vlanif ip subnet descr) :=
  kept_of_vlans_eq rfl (bound_addOptInterface hfree)

/-- A device whose name is free, or already the one of its VLAN, leaves the others theirs. -/
theorem kept_addVlanDevice {config : Config} {tag : ℕ} {parentIf vlanif descr : String}
    (hfree : ∀ other ∈ config.vlans,
      other.vlanif = vlanif ↔ (other.tag, other.parentIf) = (tag, parentIf)) :
    Kept config (addVlanDevice config tag parentIf vlanif descr) := by
  have hasName : ∀ {name}, HasName config name →
      HasName (addVlanDevice config tag parentIf vlanif descr) name := by
    rintro name ⟨other, hmem, rfl⟩
    rcases mem_upsertVlan_of_mem hmem with hkept | ⟨hparent, htag⟩
    · exact ⟨other, hkept, rfl⟩
    · -- The device that is written over belongs to this VLAN, so it has the new name.
      have hname := (hfree other hmem).mpr (by rw [htag, hparent])
      exact ⟨_, device_mem_upsertVlan _ _, hname.symm⟩
  refine ⟨hasName, fun {vlan? name} h => ⟨hasName h.hasName, ?_, h.not_tunnel⟩, id⟩
  intro device hmem hname
  rcases mem_of_mem_upsertVlan hmem with rfl | hmem
  · obtain ⟨other, hother, hothername⟩ := h.hasName
    have hvlan := (hfree other hother).mp (hothername.trans hname.symm)
    rw [← h.only other hother hothername, hvlan]
  · exact h.only device hmem hname

/-- An execution that finds what it relies on leaves the other runs what they rely on. -/
theorem Edit.kept {s : State} {id : ℕ} {job : Job} {phase : Phase} {config' : Config}
    (h : Edit job s.vm.config phase config') (hfinds : findsSlots s id job phase = true) :
    Kept s.vm.config config' := by
  cases h with
  | read => exact .refl _
  | addVlan hjob vlanif opt =>
    subst hjob
    refine kept_addVlanDevice fun other hother => ?_
    simpa [findsSlots, Job.vlan?] using
      of_decide_eq_true (List.all_eq_true.mp hfinds other hother)
  | addOpt device opt ip subnet descr =>
    exact kept_addOptInterface (Option.isNone_iff_eq_none.mp hfinds) ..
  | setAddress => exact kept_setInterfaceIp ..

/-- What holds of a run is not lost when others work on the VM. -/
theorem RunInv.mono {config config' : Config} {writes writes' : List (ℕ × String)} {id : ℕ}
    {job : Job} {phase : Phase} (h : RunInv config writes id job phase)
    (hkept : Kept config config') (hwrites : writes ⊆ writes') :
    RunInv config' writes' id job phase := by
  cases job with
  | vlan task parentIf =>
    cases phase
    case listInterfaces vlans => exact fun device hmem => hkept.hasName (h device hmem)
    case findOpt => exact hkept.hasName h
    case addVlan => exact h
    case readAddress | setAddress | verifyAddress | verifyVlan | addOpt => exact hkept.ownDevice h
    case listVlans | listNames | findDevice => trivial
    all_goals exact ⟨hkept.ownDevice h.1, hkept.bound h.2⟩
  | wireguard gatewayIp descr =>
    cases phase
    case addOpt => exact h
    case verifyOpt | reload | done => exact ⟨h.1, hkept.bound h.2.1, hwrites h.2.2⟩
    all_goals trivial

/-! ## What an execution gives its own run -/

/-- A name that `_next_vlanif` returns is no tunnel's. -/
theorem isTunnelDevice_nextVlanif {vlanifs : List String} {vlanif : String}
    (h : nextVlanif vlanifs = some vlanif) : isTunnelDevice vlanif = false := by
  have hstart := startsWith_nextVlanif h
  obtain ⟨rest, hrest⟩ := List.isPrefixOf_iff_prefix.mp hstart
  rw [isTunnelDevice, Text.startsWith, ← hrest]
  rfl

/-- An interface that exists is on the device, if it is missing or on it. -/
theorem bound_of_missingOrOn {config : Config} {device opt : String} {iface : Interface}
    (h : missingOrOn config device opt = true) (hget : config.interfaces.get? opt = some iface) :
    Bound config device opt := by
  rw [missingOrOn, hget] at h
  exact ⟨iface, hget, of_decide_eq_true h⟩

/-- Only an interface that exists has an address. -/
theorem exists_of_getInterfaceIpAndSubnet {config : Config} {opt : String} {address : String × ℕ}
    (h : getInterfaceIpAndSubnet config opt = some (some address)) :
    ∃ iface, config.interfaces.get? opt = some iface := by
  unfold getInterfaceIpAndSubnet at h
  cases hget : config.interfaces.get? opt with
  | none =>
    rw [hget] at h
    cases h
  | some iface => exact ⟨iface, rfl⟩

/-- Only an interface that exists passes the check of its address. -/
theorem exists_of_verifyInterfaceIp {config : Config} {opt ip : String} {subnet : ℕ}
    (h : verifyInterfaceIp config opt ip subnet = true) :
    ∃ iface, config.interfaces.get? opt = some iface :=
  ((Option.any_eq_true ..).mp h).imp fun _ => And.left

/-- A written device belongs to its VLAN, if no other one has its name. -/
theorem ownDevice_addVlanDevice {config : Config} {tag : ℕ} {parentIf vlanif descr : String}
    (hfree : ∀ other ∈ config.vlans,
      other.vlanif = vlanif ↔ (other.tag, other.parentIf) = (tag, parentIf))
    (hname : isTunnelDevice vlanif = false) :
    OwnDevice (addVlanDevice config tag parentIf vlanif descr) (some (tag, parentIf)) vlanif := by
  refine ⟨⟨_, device_mem_upsertVlan _ _, rfl⟩, ?_, hname⟩
  intro device hmem hdevice
  rcases mem_of_mem_upsertVlan hmem with rfl | hmem
  · rfl
  · rw [(hfree device hmem).mp hdevice]

/-- A written interface is on its device. -/
theorem bound_addOptInterface_self (config : Config) (opt vlanif ip : String) (subnet : ℕ)
    (descr : String) : Bound (addOptInterface config opt vlanif ip subnet descr) vlanif opt := by
  rw [Bound, get?_addOptInterface, if_pos rfl]
  exact ⟨_, rfl, rfl⟩

/-- An execution of a VLAN run leads to what the next phase relies on. -/
theorem vlanInv_step {s : State} {id : ℕ} {task : VlanTask} {parentIf : String}
    {phase next : Phase} {vm : Opnsense}
    (hinv : VlanInv s.vm.config (some (task.vlanTag, parentIf)) phase)
    (hfinds : findsSlots s id (.vlan task parentIf) phase = true)
    (hstep : vlanStep task parentIf s.vm phase = some (next, vm)) :
    VlanInv vm.config (some (task.vlanTag, parentIf)) next := by
  cases vlanStep_move hstep
  case listVlans => exact fun device hmem => ⟨device, hmem, rfl⟩
  case reuse device hfound => exact hinv device (List.mem_of_find?_eq_some hfound)
  case create hvlanif hopt => exact isTunnelDevice_nextVlanif hvlanif
  case findOpt opt =>
    obtain ⟨htunnel, hothers⟩ := Bool.and_eq_true_iff.mp hfinds
    exact ⟨hinv, fun device hmem =>
      of_decide_eq_true (List.all_eq_true.mp hothers device hmem), by simpa using htunnel⟩
  case sameAddress hcurrent =>
    obtain ⟨iface, hget⟩ := exists_of_getInterfaceIpAndSubnet hcurrent
    exact ⟨hinv, bound_of_missingOrOn hfinds hget⟩
  case setAddress => exact (kept_setInterfaceIp ..).ownDevice hinv
  case verifyAddress hverify =>
    obtain ⟨iface, hget⟩ := exists_of_verifyInterfaceIp hverify
    exact ⟨hinv, bound_of_missingOrOn hfinds hget⟩
  case addVlan =>
    refine ownDevice_addVlanDevice (fun other hother => ?_) hinv
    simpa [Job.vlan?] using of_decide_eq_true (List.all_eq_true.mp hfinds other hother)
  case addOpt =>
    have hkept := kept_addOptInterface (Option.isNone_iff_eq_none.mp hfinds)
    exact ⟨(hkept ..).ownDevice hinv, bound_addOptInterface_self ..⟩
  all_goals exact hinv

/-- An execution of a tunnel run leads to what the next phase relies on. -/
theorem tunnelInv_step {writes : List (ℕ × String)} {id : ℕ}
    {gatewayIp descr device : String} {phase next : Phase} {vm vm' : Opnsense}
    (hinv : TunnelInv vm.config writes id phase) (hdevice : isTunnelDevice device = true)
    (hstep : wireguardStep gatewayIp descr device vm phase = some (next, vm')) :
    TunnelInv vm'.config (writes ++ ((written vm.config phase).map (id, ·)).toList) id next := by
  cases phase
  case listNames =>
    obtain ⟨opt, -, hstep⟩ := Option.bind_eq_some_iff.mp hstep
    cases hstep
    trivial
  case findDevice =>
    cases hstep
    exact hdevice
  case addOpt device opt =>
    cases hstep
    exact ⟨hinv, bound_addOptInterface_self .., by simp [written]⟩
  case verifyOpt =>
    obtain ⟨-, -, hstep⟩ := Option.bind_eq_some_iff.mp hstep
    cases hstep
    exact ⟨hinv.1, hinv.2.1, List.mem_append_left _ hinv.2.2⟩
  case reload | done =>
    cases hstep
    exact ⟨hinv.1, hinv.2.1, List.mem_append_left _ hinv.2.2⟩
  all_goals
    cases hstep
    trivial

/-- An execution of a run leads to what its next phase relies on. -/
theorem runInv_step {s : State} {id : ℕ} {job : Job} {device : String} {phase next : Phase}
    {vm : Opnsense} (hinv : RunInv s.vm.config s.writes id job phase)
    (hfinds : findsSlots s id job phase = true) (hdevice : isTunnelDevice device = true)
    (hstep : job.step device s.vm phase = some (next, vm)) :
    RunInv vm.config (s.writes ++ ((written s.vm.config phase).map (id, ·)).toList) id job
      next := by
  cases job with
  | vlan task parentIf => exact vlanInv_step hinv hfinds hstep
  | wireguard gatewayIp descr => exact tunnelInv_step hinv hdevice hstep

/-! ## The invariant -/

/-- What holds in every state whose steps have found the slots they rely on. -/
structure SlotsInv (s : State) : Prop where
  /-- Each run finds what it relies on. -/
  runs : ∀ {id job phase}, s.runs.get? id = some ⟨job, some phase⟩ →
    RunInv s.vm.config s.writes id job phase
  /-- A VLAN is configured to the end by one run. -/
  completed : ∀ {id id' run run' vlan}, s.runs.get? id = some run → s.runs.get? id' = some run' →
    run.completedVlan? = some vlan → run'.completedVlan? = some vlan → id = id'
  /-- An entry is written by one run. -/
  writer_unique : ∀ {id id' opt}, (id, opt) ∈ s.writes → (id', opt) ∈ s.writes → id = id'
  /-- Written entries exist. -/
  bound : ∀ {id opt}, (id, opt) ∈ s.writes → ∃ device, Bound s.vm.config device opt

/-- The run of a phase in which nothing is known yet has configured no VLAN to the end. -/
theorem completedVlan?_of_start {run : Run}
    (h : run.phase = none ∨ run.phase = some run.job.start) : run.completedVlan? = none := by
  unfold Run.completedVlan?
  rcases h with hnone | hstart
  · rw [hnone]
  · rw [hstart]
    cases run.job <;> rfl

/-- Starting and stopping runs keeps the invariant. -/
theorem SlotsInv.of_runs {s : State} (h : SlotsInv s) {runs : Serial Run}
    (hruns : ∀ {id run}, runs.get? id = some run →
      s.runs.get? id = some run ∨ run.phase = none ∨ run.phase = some run.job.start) :
    SlotsInv { s with runs } where
  runs hget := by
    rcases hruns hget with hold | hstart
    · exact h.runs hold
    · rename_i id job phase
      obtain rfl : phase = job.start := Option.some.inj (hstart.resolve_left nofun)
      cases job <;> trivial
  completed := by
    intro id id' run run' vlan hget hget' hvlan hvlan'
    rcases hruns hget with hold | hstart
    · rcases hruns hget' with hold' | hstart'
      · exact h.completed hold hold' hvlan hvlan'
      · rw [completedVlan?_of_start hstart'] at hvlan'
        cases hvlan'
    · rw [completedVlan?_of_start hstart] at hvlan
      cases hvlan
  writer_unique := h.writer_unique
  bound := h.bound

/-- A run becomes complete with its last execution. -/
theorem completedVlan?_step {job : Job} {device : String} {vm vm' : Opnsense}
    {phase next : Phase} {vlan : ℕ × String} (hstep : job.step device vm phase = some (next, vm'))
    (hnext : (Run.mk job (some next)).completedVlan? = some vlan) :
    (Run.mk job (some phase)).completedVlan? = some vlan ∨
      ((∃ vlanif opt, phase = .reconfigure vlanif opt) ∧ job.vlan? = some vlan) := by
  cases job with
  | wireguard gatewayIp descr => cases next <;> cases hnext
  | vlan task parentIf =>
    cases vlanStep_move hstep
    case reconfigure vlanif opt => exact Or.inr ⟨⟨vlanif, opt, rfl⟩, hnext⟩
    case done => exact Or.inl hnext
    all_goals cases hnext

/-- An entry that an execution writes exists afterwards. -/
theorem bound_of_written {job : Job} {device : String} {vm vm' : Opnsense} {phase next : Phase}
    {opt : String} (hstep : job.step device vm phase = some (next, vm'))
    (hkept : Kept vm.config vm'.config) (hwritten : written vm.config phase = some opt) :
    ∃ device, Bound vm'.config device opt := by
  cases phase
  case addOpt device name =>
    obtain rfl : name = opt := Option.some.inj hwritten
    cases job <;> cases hstep <;> exact ⟨_, bound_addOptInterface_self ..⟩
  case setAddress device name =>
    obtain ⟨iface, hget, rfl⟩ := Option.map_eq_some_iff.mp hwritten
    exact ⟨_, hkept.bound ⟨iface, hget, rfl⟩⟩
  all_goals cases hwritten

/-- Only the run itself may have written the entry that its execution writes. -/
theorem SlotsInv.writer_of_written {s : State} (h : SlotsInv s) {id id' : ℕ} {job : Job}
    {phase : Phase} {opt : String} (hfinds : findsSlots s id job phase = true)
    (hwritten : written s.vm.config phase = some opt) (hmem : (id', opt) ∈ s.writes) :
    id' = id := by
  cases phase
  case addOpt device name =>
    -- The entry is missing, so nobody has written it.
    obtain rfl : name = opt := Option.some.inj hwritten
    obtain ⟨device, iface, hget, -⟩ := h.bound hmem
    have hfree := Option.isNone_iff_eq_none.mp hfinds
    rw [hget] at hfree
    cases hfree
  case setAddress device name =>
    obtain ⟨iface, hget, rfl⟩ := Option.map_eq_some_iff.mp hwritten
    have hwriter := List.all_eq_true.mp (Bool.and_eq_true_iff.mp hfinds).2 _ hmem
    exact of_decide_eq_true hwriter rfl
  all_goals cases hwritten

/-- An execution that finds the slots it relies on keeps the invariant. -/
theorem SlotsInv.execute {s : State} (h : SlotsInv s) {id : ℕ} {device : String} {job : Job}
    {phase next : Phase} {vm : Opnsense} (hrun : s.runs.get? id = some ⟨job, some phase⟩)
    (hdevice : isTunnelDevice device = true)
    (hstep : job.step device s.vm phase = some (next, vm))
    (hfinds : findsSlots s id job phase = true) :
    SlotsInv {
      vm
      runs := s.runs.modify id (·.at (some next))
      writes := s.writes ++ ((written s.vm.config phase).map (id, ·)).toList } := by
  have hkept : Kept s.vm.config vm.config := (Job.step_config hstep).kept hfinds
  have hmem : ∀ {id' opt}, (id', opt) ∈
      s.writes ++ ((written s.vm.config phase).map (id, ·)).toList →
      (id', opt) ∈ s.writes ∨ (id' = id ∧ written s.vm.config phase = some opt) := by
    intro id' opt hmem
    rcases List.mem_append.mp hmem with hold | hnew
    · exact Or.inl hold
    · obtain ⟨name, hname, heq⟩ := Option.map_eq_some_iff.mp (Option.mem_toList.mp hnew)
      cases heq
      exact Or.inr ⟨rfl, hname⟩
  refine ⟨fun {id' job' phase'} hget => ?_, fun {id₁ id₂ run₁ run₂ vlan} hget₁ hget₂ h₁ h₂ => ?_,
    fun {id₁ id₂ opt} h₁ h₂ => ?_, fun {id' opt} hwrite => ?_⟩
  · rcases get?_execute hrun hget with ⟨rfl, heq⟩ | ⟨-, hget⟩
    · cases heq
      exact runInv_step (h.runs hrun) hfinds hdevice hstep
    · exact (h.runs hget).mono hkept (List.subset_append_left _ _)
  · -- The run that becomes complete is the first one for its VLAN.
    have hfirst : ∀ {id' run'}, id' ≠ id → s.runs.get? id' = some run' →
        (Run.mk job (some next)).completedVlan? = some vlan →
        run'.completedVlan? ≠ some vlan := by
      intro id' run' hne hget' hnext hvlan'
      rcases completedVlan?_step hstep hnext with hold | ⟨⟨vlanif, opt, rfl⟩, hvlan⟩
      · exact hne (h.completed hget' hrun hvlan' hold)
      · have hnone := Serial.first?_eq_none_iff.mp (Option.isNone_iff_eq_none.mp hfinds) _ _ hget'
        simp [hvlan', hvlan] at hnone
    rcases get?_execute hrun hget₁ with ⟨rfl, rfl⟩ | ⟨hne₁, hold₁⟩
    · rcases get?_execute hrun hget₂ with ⟨rfl, rfl⟩ | ⟨hne₂, hold₂⟩
      · rfl
      · exact absurd h₂ (hfirst hne₂ hold₂ h₁)
    · rcases get?_execute hrun hget₂ with ⟨rfl, rfl⟩ | ⟨hne₂, hold₂⟩
      · exact absurd h₁ (hfirst hne₁ hold₁ h₂)
      · exact h.completed hold₁ hold₂ h₁ h₂
  · rcases hmem h₁ with hold₁ | ⟨rfl, hwritten⟩
    · rcases hmem h₂ with hold₂ | ⟨rfl, hwritten⟩
      · exact h.writer_unique hold₁ hold₂
      · exact h.writer_of_written hfinds hwritten hold₁
    · rcases hmem h₂ with hold₂ | ⟨rfl, -⟩
      · exact (h.writer_of_written hfinds hwritten hold₂).symm
      · rfl
  · rcases hmem hwrite with hold | ⟨-, hwritten⟩
    · obtain ⟨device, hbound⟩ := h.bound hold
      exact ⟨device, hkept.bound hbound⟩
    · exact bound_of_written hstep hkept hwritten

/-- Every step that finds the slots it relies on keeps the invariant. -/
theorem SlotsInv.step {s : State} (h : SlotsInv s) {event : Event}
    (hok : keepsSlots s event = true) : SlotsInv (s.step event) := by
  have hmoved := step_cases s event
  generalize s.step event = s' at hmoved
  cases hmoved with
  | runs event hruns => exact h.of_runs hruns
  | execute hrun hdevice hstep =>
    rw [keepsSlots, hrun] at hok
    exact h.execute hrun hdevice hstep hok

/-- A completed run is bound to its interface. -/
theorem RunInv.bound_done {config : Config} {writes : List (ℕ × String)} {id : ℕ} {job : Job}
    {device opt : String} (h : RunInv config writes id job (.done device opt)) :
    Bound config device opt := by
  cases job with
  | vlan task parentIf => exact h.2
  | wireguard gatewayIp descr => exact h.2.1

/-- Two VLANs that own one name are the same. -/
theorem OwnDevice.vlan_eq {config : Config} {vlan? vlan?' : Option (ℕ × String)}
    {vlanif : String} (h : OwnDevice config vlan? vlanif) (h' : OwnDevice config vlan?' vlanif) :
    vlan? = vlan?' := by
  obtain ⟨device, hmem, hname⟩ := h.hasName
  exact (h.only device hmem hname).symm.trans (h'.only device hmem hname)

/-- The invariant says that no slot was taken. -/
theorem SlotsInv.slotsKept {s : State} (h : SlotsInv s) : SlotsKept s where
  writer_unique _ _ _ := h.writer_unique
  vlanifs_ne := by
    rintro id task parentIf vlanif opt id' task' parentIf' _ opt' hget hget' hne rfl
    obtain ⟨hown, -⟩ : OwnDevice _ _ vlanif ∧ _ := h.runs hget
    obtain ⟨hown', -⟩ : OwnDevice _ _ vlanif ∧ _ := h.runs hget'
    have hvlan : (task.vlanTag, parentIf) = (task'.vlanTag, parentIf') :=
      Option.some.inj (hown.vlan_eq hown')
    exact hne (Prod.mk.inj hvlan).1
  opts_ne := by
    rintro id job device opt id' job' device' _ hget hget' hne rfl
    have hinv := h.runs hget
    have hinv' := h.runs hget'
    -- The interface is on one device, which tells the runs apart.
    obtain rfl : device = device' := by
      obtain ⟨iface, hiface, rfl⟩ := hinv.bound_done
      obtain ⟨iface', hiface', rfl⟩ := hinv'.bound_done
      rw [Option.some.inj (hiface.symm.trans hiface')]
    cases job with
    | vlan task parentIf =>
      cases job' with
      | vlan task' parentIf' =>
        have hvlan : (Job.vlan task parentIf).vlan? = (Job.vlan task' parentIf').vlan? :=
          hinv.1.vlan_eq hinv'.1
        exact hne (h.completed hget hget' rfl hvlan.symm)
      | wireguard gatewayIp descr => exact absurd (hinv.1.not_tunnel.symm.trans hinv'.1) (by decide)
    | wireguard gatewayIp descr =>
      cases job' with
      | vlan task' parentIf' => exact absurd (hinv'.1.not_tunnel.symm.trans hinv.1) (by decide)
      | wireguard gatewayIp' descr' => exact hne (h.writer_unique hinv.2.2 hinv'.2.2)

/-- In every run of any number of tasks on an OPNsense VM, completed runs have different
interfaces, those for different tags have different VLAN devices, and no entry is written by two
runs, if each execution finds the slots it relies on as its run has read them. -/
theorem slots_kept {vm : Opnsense} {s : State}
    (h : (machine vm).Reachable (fun s event => keepsSlots s event = true) s) : SlotsKept s := by
  have hinv : SlotsInv s := by
    refine h.invariant SlotsInv ?_ fun s event hs hok => hs.step hok
    rintro _ rfl
    exact ⟨nofun, nofun, nofun, nofun⟩
  exact hinv.slotsKept

/-- A run for the network `172.16.n.0/24` with tag `n`. -/
def vlanJob (n : ℕ) : Job :=
  .vlan (.ofMessage { tenantId := 1, vlanTag := n, ipAddress := s!"172.16.{n}.1", subnet := 24 })
    "vtnet1"

/-- Executions of runs, in the order of their ids. -/
def executions (ids : List ℕ) : List Event := ids.map fun id => .execute id "wg0"

/-- Three tasks, one after the other, find the slots they rely on. -/
theorem slots_kept_sequence : SlotsKept ((machine plainVm).run
    { vm := plainVm, runs := .empty, writes := [] }
    ([.start (vlanJob 10), .start (vlanJob 11), .start (.wireguard "10.200.0.1" "office")] ++
      executions (List.replicate 12 1 ++ List.replicate 12 2 ++ List.replicate 5 3))) :=
  slots_kept ((Machine.Reachable.start rfl).run (by decide +kernel))

/-- Two runs that both read the names before either writes end with the same names. -/
theorem slots_taken : ¬ ∀ (vm : Opnsense) (s : State),
    (machine vm).Reachable Machine.anyStep s → SlotsKept s := by
  intro hkept
  have h := hkept plainVm _ (Machine.reachable_run rfl
    ([.start (vlanJob 10), .start (vlanJob 11)] ++
      executions ([1, 2, 1, 2] ++ List.replicate 10 1 ++ List.replicate 10 2)))
  exact h.opts_ne 1 (vlanJob 10) "vlan01" "opt1" 2 (vlanJob 11) "vlan01" "opt1" (by decide +kernel)
    (by decide +kernel) (by decide) rfl

end ProxmoxIaas.OpnsenseVm
