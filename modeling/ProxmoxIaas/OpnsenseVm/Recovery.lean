import ProxmoxIaas.OpnsenseVm.Interleavings

/-!
# Repeated Runs of the VLAN Task

Each step of the VLAN task decides from the configuration whether it was already taken. A run that
finds its VLAN device reuses it; it does not create a missing interface, and it always adds a
DHCP subnet.

## Main results

- `recovers_iff`: when a run that stops, and any number of runs after it, leave the
  configuration that one run leaves.
- `not_recovers`: a run that stops after it has written the device is not made good.
-/

namespace ProxmoxIaas.OpnsenseVm

/-- The VM that a run leaves when it stops after a number of executions, if no exception has
stopped it before. -/
def stopped (task : VlanTask) (parentIf : String) : ℕ → Phase → Opnsense → Opnsense
  | 0, _, vm => vm
  | k + 1, phase, vm =>
    match vlanStep task parentIf vm phase with
    | none => vm
    | some (next, vm') => stopped task parentIf k next vm'

/-- The VM that a run leaves when it completes with a number of executions. -/
def finish (task : VlanTask) (parentIf : String) : ℕ → Phase → Opnsense → Option Opnsense
  | _, .done _ _, vm => some vm
  | 0, _, _ => none
  | n + 1, phase, vm => (vlanStep task parentIf vm phase).bind fun r => finish task parentIf n r.1 r.2

/-- The executions that are left in a phase, at most. -/
def Phase.rank : Phase → ℕ
  | .listVlans => 12
  | .listInterfaces _ => 11
  | .addVlan _ _ => 10
  | .verifyVlan _ _ | .findOpt _ _ => 9
  | .addOpt _ _ | .readAddress _ _ => 8
  | .verifyOpt _ _ | .setAddress _ _ => 7
  | .createIface _ _ | .verifyAddress _ _ => 6
  | .reload _ _ => 5
  | .readKea _ _ => 4
  | .addSubnet _ _ _ => 3
  | .setInterfaces _ _ _ => 2
  | .reconfigure _ _ => 1
  | .done _ _ | .listNames | .findDevice _ => 0

/-- The VM that a fault-free run leaves; `none` is an exception of the task itself. -/
def faultFree (task : VlanTask) (parentIf : String) (vm : Opnsense) : Option Opnsense :=
  finish task parentIf Phase.listVlans.rank .listVlans vm

/-- The VM that fault-free runs leave, one after the other. -/
def completedRuns (task : VlanTask) (parentIf : String) : ℕ → Opnsense → Option Opnsense
  | 0, vm => some vm
  | n + 1, vm => (faultFree task parentIf vm).bind (completedRuns task parentIf n)

/-- A run completes from a phase on and leaves a VM, however many executions it takes. -/
inductive Completes (task : VlanTask) (parentIf : String) : Phase → Opnsense → Opnsense → Prop where
  | done (vlanif opt : String) (vm : Opnsense) : Completes task parentIf (.done vlanif opt) vm vm
  | step {phase next : Phase} {vm vm' vm'' : Opnsense}
      (hstep : vlanStep task parentIf vm phase = some (next, vm'))
      (hrest : Completes task parentIf next vm' vm'') : Completes task parentIf phase vm vm''

/-- A run that is done leaves the VM as it is. -/
@[simp]
theorem finish_done (task : VlanTask) (parentIf : String) (n : ℕ) (vlanif opt : String)
    (vm : Opnsense) : finish task parentIf n (.done vlanif opt) vm = some vm := by
  cases n <;> rfl

/-- The first execution of a run, and the rest. -/
theorem finish_succ (task : VlanTask) (parentIf : String) (n : ℕ) (phase : Phase) (vm : Opnsense) :
    finish task parentIf (n + 1) phase vm =
      (vlanStep task parentIf vm phase).bind fun r => finish task parentIf n r.1 r.2 := by
  cases phase
  case done vlanif opt => simp [vlanStep]
  all_goals rfl

/-- A move, and the rest of the run. -/
theorem VlanMove.finish_succ {task : VlanTask} {parentIf : String} {phase next : Phase}
    {vm vm' : Opnsense} (h : VlanMove task parentIf vm phase next vm') {n : ℕ} :
    finish task parentIf (n + 1) phase vm = finish task parentIf n next vm' := by
  rw [OpnsenseVm.finish_succ, h.vlanStep_eq, Option.bind_some]

/-- A run may take fewer executions than it has. -/
theorem finish_mono {task : VlanTask} {parentIf : String} {n m : ℕ} {phase : Phase}
    {vm vm' : Opnsense} (h : finish task parentIf n phase vm = some vm') (hle : n ≤ m) :
    finish task parentIf m phase vm = some vm' := by
  induction n generalizing m phase vm with
  | zero =>
    cases phase
    case done => simpa using h
    all_goals cases h
  | succ n ih =>
    obtain ⟨m, rfl⟩ : ∃ m', m = m' + 1 := ⟨m - 1, by omega⟩
    rw [finish_succ] at h ⊢
    obtain ⟨r, hstep, hrest⟩ := Option.bind_eq_some_iff.mp h
    rw [hstep]
    exact ih hrest (by omega)

/-- A move takes a run closer to its end, or leaves it where it is. -/
theorem VlanMove.rank_lt {task : VlanTask} {parentIf : String} {phase next : Phase}
    {vm vm' : Opnsense} (h : VlanMove task parentIf vm phase next vm') :
    next.rank < phase.rank ∨ (next = phase ∧ vm' = vm) := by
  cases h
  case done | listNames | findDevice => exact Or.inr ⟨rfl, rfl⟩
  all_goals exact Or.inl (by simp [Phase.rank])

/-- A run that completes does so within the bound of its phase. -/
theorem Completes.finish_rank {task : VlanTask} {parentIf : String} {phase : Phase}
    {vm vm' : Opnsense} (h : Completes task parentIf phase vm vm') :
    finish task parentIf phase.rank phase vm = some vm' := by
  induction h with
  | done => rfl
  | step hstep hrest ih =>
    have hmove := vlanStep_move hstep
    rcases hmove.rank_lt with hlt | ⟨rfl, rfl⟩
    · rename_i phase next vm vm' vm''
      obtain ⟨n, hn⟩ : ∃ n, phase.rank = n + 1 := ⟨phase.rank - 1, by omega⟩
      rw [hn, hmove.finish_succ]
      exact finish_mono ih (by omega)
    · exact ih

/-- A run that completes within a bound completes. -/
theorem completes_of_finish {task : VlanTask} {parentIf : String} {n : ℕ} {phase : Phase}
    {vm vm' : Opnsense} (h : finish task parentIf n phase vm = some vm') :
    Completes task parentIf phase vm vm' := by
  induction n generalizing phase vm with
  | zero =>
    cases phase
    case done =>
      cases h
      exact .done ..
    all_goals cases h
  | succ n ih =>
    rw [finish_succ] at h
    obtain ⟨r, hstep, hrest⟩ := Option.bind_eq_some_iff.mp h
    exact .step hstep (ih hrest)

/-- The fault-free run is the run that completes, so the bound on its executions is large enough. -/
theorem faultFree_eq_some_iff {task : VlanTask} {parentIf : String} {vm vm' : Opnsense} :
    faultFree task parentIf vm = some vm' ↔ Completes task parentIf .listVlans vm vm' :=
  ⟨completes_of_finish, Completes.finish_rank⟩

/-- Whether a device is the one that the task looks for. -/
def isDeviceOf (task : VlanTask) (parentIf : String) (device : VlanDevice) : Bool :=
  device.tag = task.vlanTag ∧ device.parentIf = parentIf

/-- The configuration in which the task has created its VLAN. -/
def created (task : VlanTask) (parentIf vlanif opt : String) (config : Config) : Config :=
  addOptInterface (addVlanDevice config task.vlanTag parentIf vlanif task.descr) opt vlanif
    task.ipAddress task.subnet (Text.upper task.descr)

/-- The DHCP settings after the API calls of the task. -/
def Kea.serve (kea : Kea) (opt : String) (subnet : KeaSubnet) : Kea :=
  (kea.addSubnet subnet).setInterfaces (withOpt kea.interfaces opt)

variable {task : VlanTask} {parentIf : String} {vm : Opnsense}

/-- The end of every run: the DHCP server gets one more subnet. -/
theorem finish_readKea (n : ℕ) (vlanif opt : String) :
    finish task parentIf (n + 4) (.readKea vlanif opt) vm =
      (task.keaSubnet opt).map fun subnet => { vm with kea := vm.kea.serve opt subnet } := by
  cases hsubnet : task.keaSubnet opt with
  | none => simp [finish, vlanStep, hsubnet]
  | some subnet =>
    rw [VlanMove.finish_succ (.readKea ..), VlanMove.finish_succ (.addSubnet hsubnet),
      VlanMove.finish_succ (.setInterfaces ..), VlanMove.finish_succ (.reconfigure ..), finish_done]
    rfl

theorem verifyVlanExists_addVlanDevice (config : Config) (tag : ℕ)
    (parentIf vlanif descr : String) :
    verifyVlanExists (addVlanDevice config tag parentIf vlanif descr) tag parentIf vlanif = true :=
  List.any_eq_true.mpr ⟨_, device_mem_upsertVlan _ _, by simp⟩

theorem verifyOptExists_addOptInterface (config : Config) (opt vlanif ip : String) (subnet : ℕ)
    (descr : String) :
    verifyOptExists (addOptInterface config opt vlanif ip subnet descr) opt vlanif ip = true := by
  rw [verifyOptExists, get?_addOptInterface, if_pos rfl]
  simp

/-- A run that creates its VLAN passes the checks of its own writes. -/
theorem finish_addVlan (n : ℕ) (vlanif opt : String) :
    finish task parentIf (n + 10) (.addVlan vlanif opt) vm =
      (task.keaSubnet opt).map fun subnet =>
        { config := created task parentIf vlanif opt vm.config
          kea := vm.kea.serve opt subnet } := by
  rw [VlanMove.finish_succ (.addVlan ..),
    VlanMove.finish_succ (.verifyVlan (verifyVlanExists_addVlanDevice ..)),
    VlanMove.finish_succ (.addOpt ..),
    VlanMove.finish_succ (.verifyOpt (verifyOptExists_addOptInterface ..)),
    VlanMove.finish_succ (.createIface ..), VlanMove.finish_succ (.reload ..), finish_readKea]
  rfl

/-- A run that finds no device of its VLAN chooses two names. -/
theorem vlanStep_listInterfaces {vlans : List VlanDevice}
    (hfound : vlans.find? (isDeviceOf task parentIf) = none) :
    vlanStep task parentIf vm (.listInterfaces vlans) =
      (nextVlanif (vlans.map (·.vlanif))).bind fun vlanif =>
      (nextOpt (getInterfaceNames vm.config)).bind fun opt => some (.addVlan vlanif opt, vm) := by
  unfold isDeviceOf at hfound
  rw [vlanStep, hfound]
  rfl

/-- A fault-free run that finds no device of its VLAN. -/
theorem faultFree_create (hfound : vm.config.vlans.find? (isDeviceOf task parentIf) = none) :
    faultFree task parentIf vm =
      (nextVlanif (vm.config.vlans.map (·.vlanif))).bind fun vlanif =>
      (nextOpt (getInterfaceNames vm.config)).bind fun opt =>
      (task.keaSubnet opt).map fun subnet =>
        { config := created task parentIf vlanif opt vm.config
          kea := vm.kea.serve opt subnet } := by
  have hlist : faultFree task parentIf vm =
      finish task parentIf 11 (.listInterfaces vm.config.vlans) vm :=
    VlanMove.finish_succ (.listVlans ..)
  rw [hlist, finish_succ, vlanStep_listInterfaces hfound]
  cases nextVlanif (vm.config.vlans.map (·.vlanif)) with
  | none => rfl
  | some vlanif =>
    cases nextOpt (getInterfaceNames vm.config) with
    | none => rfl
    | some opt => exact finish_addVlan 0 vlanif opt

/-! ## Runs that reuse a device -/

/-- The interfaces on a device, in document order. -/
def interfacesOn (config : Config) (device : String) : List (String × Interface) :=
  config.interfaces.select fun _ iface => iface.device = device

/-- The interface that a run reuses is the first one on the device. -/
theorem getOptForVlanif_eq (config : Config) (vlanif : String) :
    getOptForVlanif config vlanif = (interfacesOn config vlanif).head?.map (·.1) := rfl

/-- The interfaces on a device are stored. -/
theorem get?_of_mem_interfacesOn {config : Config} {device opt : String} {iface : Interface}
    (h : (opt, iface) ∈ interfacesOn config device) :
    config.interfaces.get? opt = some iface ∧ iface.device = device :=
  (Table.mem_select.mp h).imp_right of_decide_eq_true

/-- A name that `_next_opt` returns is free. -/
theorem get?_nextOpt {config : Config} {opt : String}
    (h : nextOpt (getInterfaceNames config) = some opt) : config.interfaces.get? opt = none := by
  cases hget : config.interfaces.get? opt with
  | none => rfl
  | some iface =>
    exact absurd (List.mem_keys_of_mem (Table.get?_eq_some_iff.mp hget)) (nextOpt_not_mem h)

/-- A fault-free run that finds a device of its VLAN. -/
theorem faultFree_reuse {device : VlanDevice}
    (hfound : vm.config.vlans.find? (isDeviceOf task parentIf) = some device) :
    faultFree task parentIf vm =
      finish task parentIf 10 (.findOpt device.vlanif (getInterfaceNames vm.config)) vm :=
  (VlanMove.finish_succ (.listVlans ..)).trans (VlanMove.finish_succ (.reuse hfound))

/-- A run that has to check an interface that does not exist raises an exception. -/
theorem vlanStep_verifyAddress_missing {vlanif opt : String}
    (hmissing : vm.config.interfaces.get? opt = none) :
    vlanStep task parentIf { vm with
      config := setInterfaceIp vm.config opt task.ipAddress task.subnet }
      (.verifyAddress vlanif opt) = none := by
  have hfalse : verifyInterfaceIp (setInterfaceIp vm.config opt task.ipAddress task.subnet) opt
      task.ipAddress task.subnet = false := by
    simp [verifyInterfaceIp, hmissing]
  simp [vlanStep, hfalse, Option.require]

/-- An interface without an address to read stops a run with an exception. -/
theorem vlanStep_readAddress_unreadable {vlanif opt : String} {iface : Interface}
    (hget : vm.config.interfaces.get? opt = some iface) (hsubnet : iface.subnet = none) :
    vlanStep task parentIf vm (.readAddress vlanif opt) = none := by
  simp [vlanStep, getInterfaceIpAndSubnet, hget, hsubnet]

/-- A missing interface is not created: the run does not complete. -/
theorem finish_findOpt_missing {vlanif : String} (hon : interfacesOn vm.config vlanif = [])
    (n : ℕ) : finish task parentIf (n + 4)
      (.findOpt vlanif (getInterfaceNames vm.config)) vm = none := by
  cases hopt : nextOpt (getInterfaceNames vm.config) with
  | none => simp [finish_succ, vlanStep, getOptForVlanif_eq, hon, hopt]
  | some opt =>
    have hmissing := get?_nextOpt hopt
    have hread : getInterfaceIpAndSubnet vm.config opt = some none := by
      simp [getInterfaceIpAndSubnet, hmissing]
    have hchoice : (getOptForVlanif vm.config vlanif).or (nextOpt (getInterfaceNames vm.config)) =
        some opt := by
      rw [getOptForVlanif_eq, hon, hopt]
      rfl
    rw [VlanMove.finish_succ (.findOpt hchoice),
      VlanMove.finish_succ (.otherAddress hread (by rintro ⟨⟩)),
      VlanMove.finish_succ (.setAddress ..), finish_succ, vlanStep_verifyAddress_missing hmissing]
    rfl

/-- The address that was set is found. -/
theorem verifyInterfaceIp_setInterfaceIp {config : Config} {opt : String} {iface : Interface}
    (hget : config.interfaces.get? opt = some iface) (ip : String) (subnet : ℕ) :
    verifyInterfaceIp (setInterfaceIp config opt ip subnet) opt ip subnet = true := by
  simp [verifyInterfaceIp, hget]

/-- Setting the address that an interface has changes nothing. -/
theorem setInterfaceIp_eq_self {config : Config} {opt ip : String} {subnet : ℕ} {iface : Interface}
    (hget : config.interfaces.get? opt = some iface) (hip : iface.ipaddr = ip)
    (hsubnet : iface.subnet = some subnet) : setInterfaceIp config opt ip subnet = config := by
  have hself : config.interfaces.modify opt
      (fun iface => { iface with ipaddr := ip, subnet := some subnet }) = config.interfaces := by
    refine Table.modify_eq_self fun other hother => ?_
    obtain rfl := Option.some.inj (hget.symm.trans hother)
    rw [← hip, ← hsubnet]
  rw [setInterfaceIp, hself]

/-- Setting the address of an interface that does not exist changes nothing. -/
theorem setInterfaceIp_missing {config : Config} {opt : String}
    (hmissing : config.interfaces.get? opt = none) (ip : String) (subnet : ℕ) :
    setInterfaceIp config opt ip subnet = config := by
  have hself : config.interfaces.modify opt
      (fun iface => { iface with ipaddr := ip, subnet := some subnet }) = config.interfaces := by
    refine Table.modify_eq_self fun other hother => ?_
    rw [hmissing] at hother
    cases hother
  rw [setInterfaceIp, hself]

/-- The interface has the address that the task asks for. -/
def HasAddress (task : VlanTask) (iface : Interface) : Prop :=
  iface.ipaddr = task.ipAddress ∧ iface.subnet = some task.subnet

instance (task : VlanTask) (iface : Interface) : Decidable (HasAddress task iface) :=
  inferInstanceAs (Decidable (_ ∧ _))

/-- A run takes the first interface on the device and compares its address. -/
theorem reuse_moves {vlanif opt : String} {iface : Interface} {rest : List (String × Interface)}
    (hon : interfacesOn vm.config vlanif = (opt, iface) :: rest)
    (hsubnet : iface.subnet.isSome = true) (names : List String) :
    VlanMove task parentIf vm (.findOpt vlanif names) (.readAddress vlanif opt) vm ∧
      (HasAddress task iface →
        VlanMove task parentIf vm (.readAddress vlanif opt) (.readKea vlanif opt) vm) ∧
      (¬ HasAddress task iface →
        VlanMove task parentIf vm (.readAddress vlanif opt) (.setAddress vlanif opt) vm) := by
  obtain ⟨hget, -⟩ := get?_of_mem_interfacesOn (hon ▸ List.mem_cons_self)
  obtain ⟨prefixLength, hlen⟩ := Option.isSome_iff_exists.mp hsubnet
  have hchoice : (getOptForVlanif vm.config vlanif).or (nextOpt names) = some opt := by
    rw [getOptForVlanif_eq, hon]
    rfl
  have hread : getInterfaceIpAndSubnet vm.config opt =
      some (some (iface.ipaddr, prefixLength)) := by
    simp [getInterfaceIpAndSubnet, hget, hlen]
  refine ⟨.findOpt hchoice, fun hsame => .sameAddress ?_, fun hother => .otherAddress hread ?_⟩
  · have hlength : prefixLength = task.subnet := Option.some.inj (hlen.symm.trans hsame.2)
    rw [hread, hsame.1, hlength]
  · intro heq
    obtain ⟨hip, hlength⟩ := Prod.mk.inj (Option.some.inj heq)
    exact hother ⟨hip, hlen.trans (by rw [hlength])⟩

/-- A run that finds an interface with a readable address gives it the address asked for. -/
theorem finish_findOpt {vlanif opt : String} {iface : Interface} {names : List String}
    {rest : List (String × Interface)} (hon : interfacesOn vm.config vlanif = (opt, iface) :: rest)
    (hsubnet : iface.subnet.isSome = true) (n : ℕ) :
    finish task parentIf (n + 9) (.findOpt vlanif names) vm =
      (task.keaSubnet opt).map fun subnet =>
        { config := setInterfaceIp vm.config opt task.ipAddress task.subnet
          kea := vm.kea.serve opt subnet } := by
  obtain ⟨hget, -⟩ := get?_of_mem_interfacesOn (hon ▸ List.mem_cons_self)
  obtain ⟨hfind, hsame, hother⟩ := reuse_moves hon hsubnet names
  rw [hfind.finish_succ]
  by_cases haddress : HasAddress task iface
  · rw [(hsame haddress).finish_succ, finish_readKea (n + 3),
      setInterfaceIp_eq_self hget haddress.1 haddress.2]
  · rw [(hother haddress).finish_succ, VlanMove.finish_succ (.setAddress ..),
      VlanMove.finish_succ (.verifyAddress (verifyInterfaceIp_setInterfaceIp hget ..)),
      VlanMove.finish_succ (.reload ..), finish_readKea n]

/-- A run that finds an interface with an unreadable address does not complete. -/
theorem finish_findOpt_unreadable {vlanif opt : String} {iface : Interface} {names : List String}
    {rest : List (String × Interface)} (hon : interfacesOn vm.config vlanif = (opt, iface) :: rest)
    (hsubnet : iface.subnet = none) (n : ℕ) :
    finish task parentIf (n + 2) (.findOpt vlanif names) vm = none := by
  obtain ⟨hget, -⟩ := get?_of_mem_interfacesOn (hon ▸ List.mem_cons_self)
  have hchoice : (getOptForVlanif vm.config vlanif).or (nextOpt names) = some opt := by
    rw [getOptForVlanif_eq, hon]
    rfl
  rw [VlanMove.finish_succ (.findOpt hchoice), finish_succ,
    vlanStep_readAddress_unreadable hget hsubnet]
  rfl

/-! ## Runs that stop -/

/-- A move, and the rest of a run that stops. -/
theorem VlanMove.stopped_succ {phase next : Phase} {vm' : Opnsense}
    (h : VlanMove task parentIf vm phase next vm') (k : ℕ) :
    stopped task parentIf (k + 1) phase vm = stopped task parentIf k next vm' := by
  rw [stopped, h.vlanStep_eq]

/-- A run that raises an exception stops there. -/
theorem stopped_of_raise {phase : Phase} (h : vlanStep task parentIf vm phase = none) (k : ℕ) :
    stopped task parentIf k phase vm = vm := by
  cases k with
  | zero => rfl
  | succ k => rw [stopped, h]

/-- If a run leaves a VM after a move when it stops early, it does so with one more execution. -/
theorem VlanMove.stopped_le {phase next : Phase} (h : VlanMove task parentIf vm phase next vm)
    {n : ℕ} (hnext : ∀ k ≤ n, stopped task parentIf k next vm = vm) :
    ∀ k ≤ n + 1, stopped task parentIf k phase vm = vm := by
  intro k hk
  cases k with
  | zero => rfl
  | succ k =>
    rw [h.stopped_succ]
    exact hnext k (by omega)

/-- The number of DHCP subnets for a network. -/
def subnetCount (cidr : String) (vm : Opnsense) : ℕ :=
  vm.kea.subnets.countP fun subnet => subnet.subnet = cidr

/-- No execution removes a DHCP subnet. -/
theorem subnetCount_le_stopped (cidr : String) (k : ℕ) (phase : Phase) (vm : Opnsense) :
    subnetCount cidr vm ≤ subnetCount cidr (stopped task parentIf k phase vm) := by
  induction k generalizing phase vm with
  | zero => exact Nat.le_refl _
  | succ k ih =>
    unfold stopped
    split
    case h_1 => exact Nat.le_refl _
    case h_2 next vm' hstep =>
      refine Nat.le_trans ?_ (ih next vm')
      cases vlanStep_move hstep
      case addSubnet =>
        simp only [subnetCount, Kea.addSubnet, List.countP_append]
        omega
      all_goals exact Nat.le_refl _

/-- The subnet that the task adds is the one of its network. -/
theorem keaSubnet_of_networkOf {cidr : String}
    (hcidr : networkOf task.ipAddress task.subnet = some cidr) (opt : String) :
    ∃ subnet, task.keaSubnet opt = some subnet ∧ subnet.subnet = cidr := by
  simp [VlanTask.keaSubnet, hcidr]

/-- A run that stops before it adds the DHCP subnet leaves the VM as it found it. -/
theorem stopped_readKea_le (vlanif opt : String) :
    ∀ k ≤ 1, stopped task parentIf k (.readKea vlanif opt) vm = vm :=
  VlanMove.stopped_le (.readKea ..) fun k hk => by
    obtain rfl : k = 0 := by omega
    rfl

/-- A run that stops after it has added the DHCP subnet leaves it there. -/
theorem stopped_readKea_ge {cidr : String}
    (hcidr : networkOf task.ipAddress task.subnet = some cidr) (vlanif opt : String) :
    ∀ k ≥ 2, 0 < subnetCount cidr (stopped task parentIf k (.readKea vlanif opt) vm) := by
  obtain ⟨subnet, hsubnet, rfl⟩ := keaSubnet_of_networkOf hcidr opt
  intro k hk
  obtain ⟨k, rfl⟩ : ∃ k', k = k' + 2 := ⟨k - 2, by omega⟩
  rw [VlanMove.stopped_succ (.readKea ..), VlanMove.stopped_succ (.addSubnet hsubnet)]
  refine Nat.lt_of_lt_of_le ?_ (subnetCount_le_stopped ..)
  simp [subnetCount, Kea.addSubnet]

/-- What a run that creates its VLAN leaves when it stops, by the number of its executions. -/
theorem stopped_addVlan (vlanif opt : String) :
    (∀ k, 1 ≤ k → k ≤ 2 → stopped task parentIf k (.addVlan vlanif opt) vm =
      { vm with config := addVlanDevice vm.config task.vlanTag parentIf vlanif task.descr }) ∧
    (∀ k, 3 ≤ k → k ≤ 7 → stopped task parentIf k (.addVlan vlanif opt) vm =
      { vm with config := created task parentIf vlanif opt vm.config }) := by
  constructor
  · intro k hpos hk
    obtain ⟨k, rfl⟩ : ∃ k', k = k' + 1 := ⟨k - 1, by omega⟩
    rw [VlanMove.stopped_succ (.addVlan ..)]
    refine VlanMove.stopped_le (.verifyVlan (verifyVlanExists_addVlanDevice ..)) (fun k hk => ?_) k
      (show k ≤ 0 + 1 by omega)
    obtain rfl : k = 0 := by omega
    rfl
  · intro k hpos hk
    obtain ⟨k, rfl⟩ : ∃ k', k = k' + 3 := ⟨k - 3, by omega⟩
    rw [VlanMove.stopped_succ (.addVlan ..),
      VlanMove.stopped_succ (.verifyVlan (verifyVlanExists_addVlanDevice ..)),
      VlanMove.stopped_succ (.addOpt ..)]
    exact VlanMove.stopped_le (.verifyOpt (verifyOptExists_addOptInterface ..))
      (VlanMove.stopped_le (.createIface ..) (VlanMove.stopped_le (.reload ..)
        (stopped_readKea_le _ _))) k (by omega)

/-- A run that creates its VLAN and reaches the DHCP server has added a subnet. -/
theorem stopped_addVlan_ge {cidr : String}
    (hcidr : networkOf task.ipAddress task.subnet = some cidr) (vlanif opt : String) :
    ∀ k ≥ 8, 0 < subnetCount cidr (stopped task parentIf k (.addVlan vlanif opt) vm) := by
  intro k hk
  obtain ⟨k, rfl⟩ : ∃ k', k = k' + 6 := ⟨k - 6, by omega⟩
  rw [VlanMove.stopped_succ (.addVlan ..),
    VlanMove.stopped_succ (.verifyVlan (verifyVlanExists_addVlanDevice ..)),
    VlanMove.stopped_succ (.addOpt ..),
    VlanMove.stopped_succ (.verifyOpt (verifyOptExists_addOptInterface ..)),
    VlanMove.stopped_succ (.createIface ..), VlanMove.stopped_succ (.reload ..)]
  exact stopped_readKea_ge hcidr vlanif opt k (by omega)

/-- The executions with which a run that reuses an interface does not reach the DHCP server. -/
def reuseLimit (task : VlanTask) (iface : Interface) : ℕ :=
  if HasAddress task iface then 5 else 8

/-- What a run that reuses an interface leaves when it stops before it reaches the DHCP server. -/
theorem stopped_findOpt_le {vlanif opt : String} {iface : Interface} {names : List String}
    {rest : List (String × Interface)} (hon : interfacesOn vm.config vlanif = (opt, iface) :: rest)
    (hsubnet : iface.subnet.isSome = true) {k : ℕ} (hk : k + 2 ≤ reuseLimit task iface) :
    stopped task parentIf k (.findOpt vlanif names) vm = vm ∨
      stopped task parentIf k (.findOpt vlanif names) vm =
        { vm with config := setInterfaceIp vm.config opt task.ipAddress task.subnet } := by
  obtain ⟨hget, -⟩ := get?_of_mem_interfacesOn (hon ▸ List.mem_cons_self)
  obtain ⟨hfind, hsame, hother⟩ := reuse_moves hon hsubnet names
  by_cases haddress : HasAddress task iface
  · rw [reuseLimit, if_pos haddress] at hk
    exact Or.inl (hfind.stopped_le ((hsame haddress).stopped_le (stopped_readKea_le _ _)) k
      (by omega))
  · rw [reuseLimit, if_neg haddress] at hk
    rcases Nat.lt_or_ge k 3 with hlt | hge
    · refine Or.inl (hfind.stopped_le ((hother haddress).stopped_le fun k hk => ?_) k
        (show k ≤ 0 + 1 + 1 by omega))
      obtain rfl : k = 0 := by omega
      rfl
    · obtain ⟨k, rfl⟩ : ∃ k', k = k' + 3 := ⟨k - 3, by omega⟩
      rw [hfind.stopped_succ, (hother haddress).stopped_succ,
        VlanMove.stopped_succ (.setAddress ..)]
      exact Or.inr (VlanMove.stopped_le
        (.verifyAddress (verifyInterfaceIp_setInterfaceIp hget ..))
        (VlanMove.stopped_le (.reload ..) (stopped_readKea_le _ _)) k (by omega))

/-- A run that reuses an interface and reaches the DHCP server has added a subnet. -/
theorem stopped_findOpt_ge {cidr : String}
    (hcidr : networkOf task.ipAddress task.subnet = some cidr) {vlanif opt : String}
    {iface : Interface} {names : List String} {rest : List (String × Interface)}
    (hon : interfacesOn vm.config vlanif = (opt, iface) :: rest)
    (hsubnet : iface.subnet.isSome = true) {k : ℕ} (hk : reuseLimit task iface < k + 2) :
    0 < subnetCount cidr (stopped task parentIf k (.findOpt vlanif names) vm) := by
  obtain ⟨hget, -⟩ := get?_of_mem_interfacesOn (hon ▸ List.mem_cons_self)
  obtain ⟨hfind, hsame, hother⟩ := reuse_moves hon hsubnet names
  by_cases haddress : HasAddress task iface
  · rw [reuseLimit, if_pos haddress] at hk
    obtain ⟨k, rfl⟩ : ∃ k', k = k' + 2 := ⟨k - 2, by omega⟩
    rw [hfind.stopped_succ, (hsame haddress).stopped_succ]
    exact stopped_readKea_ge hcidr vlanif opt k (by omega)
  · rw [reuseLimit, if_neg haddress] at hk
    obtain ⟨k, rfl⟩ : ∃ k', k = k' + 5 := ⟨k - 5, by omega⟩
    rw [hfind.stopped_succ, (hother haddress).stopped_succ, VlanMove.stopped_succ (.setAddress ..),
      VlanMove.stopped_succ (.verifyAddress (verifyInterfaceIp_setInterfaceIp hget ..)),
      VlanMove.stopped_succ (.reload ..)]
    exact stopped_readKea_ge hcidr vlanif opt k (by omega)

/-! ## The configuration that runs leave -/

/-- The VLAN is configured once: it has one device, one interface on it with the address that the
task asks for, and one DHCP subnet. -/
structure Configured (task : VlanTask) (parentIf cidr : String) (vm : Opnsense) : Prop where
  /-- The device and the interface. -/
  device : ∃ device opt iface, vm.config.vlans.filter (isDeviceOf task parentIf) = [device] ∧
    interfacesOn vm.config device.vlanif = [(opt, iface)] ∧ HasAddress task iface
  /-- The DHCP subnet. -/
  subnet : subnetCount cidr vm = 1

/-- One fault-free run configures the VLAN once, but for the DHCP subnet. -/
inductive Ready (task : VlanTask) (parentIf : String) (vm : Opnsense) : Prop where
  /-- Nothing of the VLAN is there, and the names of new devices and interfaces are in order. -/
  | create {vlanif opt : String} (hdevices : vm.config.vlans.filter (isDeviceOf task parentIf) = [])
      (hvlanif : nextVlanif (vm.config.vlans.map (·.vlanif)) = some vlanif)
      (hopt : nextOpt (getInterfaceNames vm.config) = some opt)
      (hon : interfacesOn vm.config vlanif = [])
  /-- There is one device with one interface that has a readable address. -/
  | reuse {device : VlanDevice} {opt : String} {iface : Interface}
      (hdevices : vm.config.vlans.filter (isDeviceOf task parentIf) = [device])
      (hon : interfacesOn vm.config device.vlanif = [(opt, iface)])
      (hsubnet : iface.subnet.isSome = true)

/-- A device of a VLAN that has none is written after all others. -/
theorem upsertVlan_of_filter_eq_nil {device : VlanDevice} {vlans : List VlanDevice}
    (h : vlans.filter (isDeviceOf task parentIf) = []) (htag : device.tag = task.vlanTag)
    (hparent : device.parentIf = parentIf) : upsertVlan device vlans = vlans ++ [device] := by
  induction vlans with
  | nil => rfl
  | cons other others ih =>
    have hother := List.filter_eq_nil_iff.mp h
    have hne : ¬ (other.parentIf = device.parentIf ∧ other.tag = device.tag) := by
      rintro ⟨hp, ht⟩
      exact hother other List.mem_cons_self
        (decide_eq_true ⟨ht.trans htag, hp.trans hparent⟩)
    rw [upsertVlan, if_neg hne, ih]
    · rfl
    · exact List.filter_eq_nil_iff.mpr fun d hd => hother d (List.mem_cons_of_mem _ hd)

/-- The device of a run that creates its VLAN. -/
def newDevice (task : VlanTask) (parentIf vlanif : String) : VlanDevice where
  tag := task.vlanTag
  parentIf := parentIf
  vlanif := vlanif
  pcp := 0
  proto := ""
  descr := task.descr

/-- The written device is the only one of the VLAN. -/
theorem filter_addVlanDevice (h : vm.config.vlans.filter (isDeviceOf task parentIf) = [])
    (vlanif : String) :
    (addVlanDevice vm.config task.vlanTag parentIf vlanif task.descr).vlans.filter
      (isDeviceOf task parentIf) = [newDevice task parentIf vlanif] := by
  have hself : isDeviceOf task parentIf (newDevice task parentIf vlanif) = true :=
    decide_eq_true ⟨rfl, rfl⟩
  change (upsertVlan (newDevice task parentIf vlanif) _).filter _ = _
  rw [upsertVlan_of_filter_eq_nil h rfl rfl, List.filter_append, h,
    List.filter_cons_of_pos hself]
  rfl

/-- The interface of a run that creates its VLAN. -/
def newInterface (task : VlanTask) (vlanif opt : String) : Interface where
  descr := if Text.upper task.descr = "" then Text.upper opt else Text.upper task.descr
  device := vlanif
  enable := "1"
  ipaddr := task.ipAddress
  subnet := some task.subnet
  ipaddrv6 := ""
  blockpriv := "0"
  blockbogons := "0"

/-- The new interface is the last one on its device. -/
theorem interfacesOn_created {vlanif opt : String} (hopt : vm.config.interfaces.get? opt = none) :
    interfacesOn (created task parentIf vlanif opt vm.config) vlanif =
      interfacesOn vm.config vlanif ++ [(opt, newInterface task vlanif opt)] := by
  have hinterfaces : (created task parentIf vlanif opt vm.config).interfaces =
      vm.config.interfaces.append opt (newInterface task vlanif opt) := by
    simp only [created, addOptInterface, addVlanDevice, hopt]
    rfl
  have hdevice : decide ((newInterface task vlanif opt).device = vlanif) = true :=
    decide_eq_true rfl
  rw [interfacesOn, hinterfaces, Table.select_append hopt, if_pos hdevice]
  rfl

/-- A new address leaves the interfaces on their devices. -/
theorem interfacesOn_setInterfaceIp (config : Config) (opt ip : String) (subnet : ℕ)
    (device : String) : interfacesOn (setInterfaceIp config opt ip subnet) device =
      (interfacesOn config device).map fun r =>
        (r.1, if r.1 = opt then { r.2 with ipaddr := ip, subnet := some subnet } else r.2) := by
  change (config.interfaces.modify opt fun iface =>
    { iface with ipaddr := ip, subnet := some subnet }).select _ = _
  rw [Table.select_modify]
  · rfl
  · intro name iface
    rfl

/-- The DHCP server has one more subnet for the network. -/
theorem subnetCount_serve {cidr : String} {subnet : KeaSubnet} (hsubnet : subnet.subnet = cidr)
    (config : Config) (opt : String) :
    subnetCount cidr { config, kea := vm.kea.serve opt subnet } = subnetCount cidr vm + 1 := by
  simp [subnetCount, Kea.serve, Kea.setInterfaces, Kea.addSubnet, hsubnet]

section

variable {cidr : String} (hcidr : networkOf task.ipAddress task.subnet = some cidr)
include hcidr

/-- What a fault-free run leaves when nothing of its VLAN is there. -/
theorem faultFree_of_filter_eq_nil
    (hdevices : vm.config.vlans.filter (isDeviceOf task parentIf) = []) {vm' : Opnsense} :
    faultFree task parentIf vm = some vm' ↔ ∃ vlanif opt subnet,
      nextVlanif (vm.config.vlans.map (·.vlanif)) = some vlanif ∧
      nextOpt (getInterfaceNames vm.config) = some opt ∧ subnet.subnet = cidr ∧
      task.keaSubnet opt = some subnet ∧
      { config := created task parentIf vlanif opt vm.config
        kea := vm.kea.serve opt subnet } = vm' := by
  have hfound : vm.config.vlans.find? (isDeviceOf task parentIf) = none := by
    rw [← List.head?_filter, hdevices]
    rfl
  rw [faultFree_create hfound]
  simp only [Option.bind_eq_some_iff, Option.map_eq_some_iff]
  constructor
  · rintro ⟨vlanif, hvlanif, opt, hopt, subnet, hsubnet, heq⟩
    obtain ⟨subnet', hsubnet', hnetwork⟩ := keaSubnet_of_networkOf hcidr opt
    obtain rfl := Option.some.inj (hsubnet.symm.trans hsubnet')
    exact ⟨vlanif, opt, subnet, hvlanif, hopt, hnetwork, hsubnet, heq⟩
  · rintro ⟨vlanif, opt, subnet, hvlanif, hopt, -, hsubnet, heq⟩
    exact ⟨vlanif, hvlanif, opt, hopt, subnet, hsubnet, heq⟩

/-- What a fault-free run leaves when it finds a device of its VLAN. -/
theorem faultFree_of_filter_eq_cons {device : VlanDevice} {others : List VlanDevice}
    (hdevices : vm.config.vlans.filter (isDeviceOf task parentIf) = device :: others)
    {vm' : Opnsense} :
    faultFree task parentIf vm = some vm' ↔ ∃ opt iface rest subnet,
      interfacesOn vm.config device.vlanif = (opt, iface) :: rest ∧ iface.subnet.isSome = true ∧
      subnet.subnet = cidr ∧ task.keaSubnet opt = some subnet ∧
      { config := setInterfaceIp vm.config opt task.ipAddress task.subnet
        kea := vm.kea.serve opt subnet } = vm' := by
  have hfound : vm.config.vlans.find? (isDeviceOf task parentIf) = some device := by
    rw [← List.head?_filter, hdevices]
    rfl
  rw [faultFree_reuse hfound]
  cases hon : interfacesOn vm.config device.vlanif with
  | nil =>
    rw [finish_findOpt_missing hon 6]
    simp
  | cons first rest =>
    obtain ⟨opt, iface⟩ := first
    obtain ⟨subnet, hsubnet, hnetwork⟩ := keaSubnet_of_networkOf hcidr opt
    cases hlen : iface.subnet with
    | none =>
      rw [finish_findOpt_unreadable hon hlen 8]
      simp [hlen]
    | some prefixLength =>
      rw [finish_findOpt hon (by rw [hlen]; rfl) 1, hsubnet]
      constructor
      · intro heq
        exact ⟨opt, iface, rest, subnet, rfl, by rw [hlen]; rfl, hnetwork, hsubnet,
          Option.some.inj heq⟩
      · rintro ⟨opt', iface', rest', subnet', hon', -, -, hsubnet', heq⟩
        cases hon'
        obtain rfl := Option.some.inj (hsubnet.symm.trans hsubnet')
        exact congrArg some heq

/-- A fault-free run adds one DHCP subnet. -/
theorem subnetCount_faultFree {vm' : Opnsense} (h : faultFree task parentIf vm = some vm') :
    subnetCount cidr vm' = subnetCount cidr vm + 1 := by
  cases hdevices : vm.config.vlans.filter (isDeviceOf task parentIf) with
  | nil =>
    obtain ⟨vlanif, opt, subnet, -, -, hnetwork, -, rfl⟩ :=
      (faultFree_of_filter_eq_nil hcidr hdevices).mp h
    exact subnetCount_serve hnetwork ..
  | cons device others =>
    obtain ⟨opt, iface, rest, subnet, -, -, hnetwork, -, rfl⟩ :=
      (faultFree_of_filter_eq_cons hcidr hdevices).mp h
    exact subnetCount_serve hnetwork ..

/-- Any number of fault-free runs adds as many DHCP subnets. -/
theorem subnetCount_completedRuns {n : ℕ} {vm' : Opnsense}
    (h : completedRuns task parentIf n vm = some vm') :
    subnetCount cidr vm' = subnetCount cidr vm + n := by
  induction n generalizing vm with
  | zero =>
    cases h
    rfl
  | succ n ih =>
    obtain ⟨vm₁, hfirst, hrest⟩ := Option.bind_eq_some_iff.mp h
    rw [ih hrest, subnetCount_faultFree hcidr hfirst]
    omega

/-- A fault-free run configures the VLAN once exactly if the VM is ready for it and has no DHCP
subnet for the network. -/
theorem configured_iff : (∃ vm', faultFree task parentIf vm = some vm' ∧
      Configured task parentIf cidr vm') ↔
    Ready task parentIf vm ∧ subnetCount cidr vm = 0 := by
  cases hdevices : vm.config.vlans.filter (isDeviceOf task parentIf) with
  -- no device yet: the run creates one, with an interface and a subnet
  | nil =>
    constructor
    · rintro ⟨vm', hrun, hconfigured⟩
      have hcount := subnetCount_faultFree hcidr hrun
      rw [hconfigured.subnet] at hcount
      obtain ⟨vlanif, opt, subnet, hvlanif, hopt, -, -, rfl⟩ :=
        (faultFree_of_filter_eq_nil hcidr hdevices).mp hrun
      obtain ⟨device, name, iface, hdevice, hon, -⟩ := hconfigured.device
      obtain rfl := List.singleton_inj.mp ((filter_addVlanDevice hdevices vlanif).symm.trans hdevice)
      have hnone := get?_nextOpt hopt
      -- the created interface is the only one on the new device, so there was none before
      have hlist := (interfacesOn_created hnone).symm.trans hon
      refine ⟨.create hdevices hvlanif hopt ?_, by omega⟩
      have hlength := congrArg List.length hlist
      rw [List.length_append, List.length_singleton, List.length_singleton] at hlength
      exact List.length_eq_zero_iff.mp (by omega)
    · rintro ⟨hready, hcount⟩
      cases hready with
      | reuse hdevices' => cases hdevices.symm.trans hdevices'
      | create hdevices' hvlanif hopt hon =>
        rename_i vlanif opt
        obtain ⟨subnet, hsubnet, hnetwork⟩ := keaSubnet_of_networkOf hcidr opt
        refine ⟨_, (faultFree_of_filter_eq_nil hcidr hdevices).mpr
          ⟨vlanif, opt, subnet, hvlanif, hopt, hnetwork, hsubnet, rfl⟩, ⟨?_, ?_⟩⟩
        · refine ⟨newDevice task parentIf vlanif, opt, newInterface task vlanif opt,
            filter_addVlanDevice hdevices vlanif, ?_, rfl, rfl⟩
          exact (interfacesOn_created (get?_nextOpt hopt)).trans (by rw [hon]; rfl)
        · rw [subnetCount_serve hnetwork, hcount]
  -- a device is found: the run uses the first interface on it
  | cons device others =>
    constructor
    · rintro ⟨vm', hrun, hconfigured⟩
      have hcount := subnetCount_faultFree hcidr hrun
      rw [hconfigured.subnet] at hcount
      obtain ⟨opt, iface, rest, subnet, hon, hlen, -, -, rfl⟩ :=
        (faultFree_of_filter_eq_cons hcidr hdevices).mp hrun
      obtain ⟨device', name, iface', hdevice, hon', -⟩ := hconfigured.device
      obtain ⟨rfl, rfl⟩ := List.cons_eq_cons.mp (hdevices.symm.trans hdevice)
      have hlength := congrArg List.length
        ((interfacesOn_setInterfaceIp ..).symm.trans hon')
      rw [List.length_map, hon, List.length_cons, List.length_singleton] at hlength
      obtain rfl : rest = [] := List.length_eq_zero_iff.mp (by omega)
      exact ⟨.reuse hdevices hon hlen, by omega⟩
    · rintro ⟨hready, hcount⟩
      cases hready with
      | create hdevices' => cases hdevices.symm.trans hdevices'
      | reuse hdevices' hon hlen =>
        rename_i device' opt iface
        obtain ⟨rfl, rfl⟩ := List.cons_eq_cons.mp (hdevices.symm.trans hdevices')
        obtain ⟨subnet, hsubnet, hnetwork⟩ := keaSubnet_of_networkOf hcidr opt
        refine ⟨_, (faultFree_of_filter_eq_cons hcidr hdevices).mpr
          ⟨opt, iface, [], subnet, hon, hlen, hnetwork, hsubnet, rfl⟩, ⟨?_, ?_⟩⟩
        · refine ⟨device, opt, { iface with ipaddr := task.ipAddress, subnet := some task.subnet },
            hdevices, ?_, rfl, rfl⟩
          refine (interfacesOn_setInterfaceIp ..).trans ?_
          rw [hon]
          simp
        · rw [subnetCount_serve hnetwork, hcount]

end

/-! ## Runs after a run that stops -/

/-- The last run of those that stop or complete configures the VLAN once: a run stops after `k`
executions, and of the `n + 1` fault-free runs that follow all complete. -/
def Recovers (task : VlanTask) (parentIf cidr : String) (vm : Opnsense) (k n : ℕ) : Prop :=
  ∃ final, completedRuns task parentIf (n + 1) (stopped task parentIf k .listVlans vm) =
    some final ∧ Configured task parentIf cidr final

/-- The VM and the number of executions of the run that stops, for which a later run recovers. -/
def recoverable (task : VlanTask) (parentIf cidr : String) (vm : Opnsense) (k : ℕ) : Bool :=
  subnetCount cidr vm = 0 &&
    match vm.config.vlans.filter (isDeviceOf task parentIf) with
    | [] =>
      match nextVlanif (vm.config.vlans.map (·.vlanif)), nextOpt (getInterfaceNames vm.config) with
      | some vlanif, some _ =>
        match interfacesOn vm.config vlanif with
        -- Not between the scripts that write the device and the interface.
        | [] => k ≤ 2 || (5 ≤ k && k ≤ 9)
        -- An interface that is left over on a device of this name is taken for the missing one.
        | [(_, iface)] => iface.subnet.isSome && (k = 3 || k = 4)
        | _ => false
      | _, _ => false
    | [device] =>
      match interfacesOn vm.config device.vlanif with
      | [(_, iface)] => iface.subnet.isSome && k ≤ reuseLimit task iface
      | _ => false
    | _ => false

/-- Two executions that only read do not count. -/
theorem stopped_two_reads {phase next next' : Phase} (h : VlanMove task parentIf vm phase next vm)
    (h' : VlanMove task parentIf vm next next' vm) (k : ℕ) :
    stopped task parentIf k phase vm = stopped task parentIf (k - 2) next' vm := by
  match k with
  | 0 => rfl
  | 1 => exact h.stopped_succ 0
  | k + 2 => rw [h.stopped_succ, h'.stopped_succ, Nat.add_sub_cancel]

/-- A run that finds no interface on its device leaves the VM as it found it. -/
theorem stopped_findOpt_missing {vlanif : String} (hon : interfacesOn vm.config vlanif = [])
    (k : ℕ) : stopped task parentIf k (.findOpt vlanif (getInterfaceNames vm.config)) vm = vm := by
  cases hopt : nextOpt (getInterfaceNames vm.config) with
  | none =>
    refine stopped_of_raise ?_ k
    simp [vlanStep, getOptForVlanif_eq, hon, hopt]
  | some opt =>
    have hmissing := get?_nextOpt hopt
    have hread : getInterfaceIpAndSubnet vm.config opt = some none := by
      simp [getInterfaceIpAndSubnet, hmissing]
    have hchoice : (getOptForVlanif vm.config vlanif).or (nextOpt (getInterfaceNames vm.config)) =
        some opt := by
      rw [getOptForVlanif_eq, hon, hopt]
      rfl
    rw [stopped_two_reads (.findOpt hchoice) (.otherAddress hread (by rintro ⟨⟩))]
    cases k - 2 with
    | zero => rfl
    | succ k =>
      rw [VlanMove.stopped_succ (.setAddress ..),
        stopped_of_raise (vlanStep_verifyAddress_missing hmissing), setInterfaceIp_missing hmissing]

/-- A run that finds an interface with an unreadable address leaves the VM as it found it. -/
theorem stopped_findOpt_unreadable {vlanif opt : String} {iface : Interface}
    {names : List String} {rest : List (String × Interface)}
    (hon : interfacesOn vm.config vlanif = (opt, iface) :: rest) (hsubnet : iface.subnet = none)
    (k : ℕ) : stopped task parentIf k (.findOpt vlanif names) vm = vm := by
  obtain ⟨hget, -⟩ := get?_of_mem_interfacesOn (hon ▸ List.mem_cons_self)
  have hchoice : (getOptForVlanif vm.config vlanif).or (nextOpt names) = some opt := by
    rw [getOptForVlanif_eq, hon]
    rfl
  cases k with
  | zero => rfl
  | succ k =>
    rw [VlanMove.stopped_succ (.findOpt hchoice)]
    exact stopped_of_raise (vlanStep_readAddress_unreadable hget hsubnet) k

/-- A VM without devices of the VLAN is ready if no interface is left over on the next name. -/
theorem ready_of_filter_eq_nil {vlanif opt : String}
    (hdevices : vm.config.vlans.filter (isDeviceOf task parentIf) = [])
    (hvlanif : nextVlanif (vm.config.vlans.map (·.vlanif)) = some vlanif)
    (hopt : nextOpt (getInterfaceNames vm.config) = some opt) :
    Ready task parentIf vm ↔ interfacesOn vm.config vlanif = [] := by
  constructor
  · intro hready
    cases hready with
    | create _ hvlanif' _ hon =>
      obtain rfl := Option.some.inj (hvlanif.symm.trans hvlanif')
      exact hon
    | reuse hdevices' => cases hdevices.symm.trans hdevices'
  · exact .create hdevices hvlanif hopt

/-- A VM with a device of the VLAN is ready if it is the only one, and one interface is on it, with
an address. -/
theorem ready_of_filter_eq_cons {device : VlanDevice} {others : List VlanDevice}
    (hdevices : vm.config.vlans.filter (isDeviceOf task parentIf) = device :: others) :
    Ready task parentIf vm ↔ others = [] ∧ ∃ opt iface,
      interfacesOn vm.config device.vlanif = [(opt, iface)] ∧ iface.subnet.isSome = true := by
  constructor
  · intro hready
    cases hready with
    | create hdevices' => cases hdevices.symm.trans hdevices'
    | reuse hdevices' hon hsubnet =>
      obtain ⟨rfl, rfl⟩ := List.cons_eq_cons.mp (hdevices.symm.trans hdevices')
      exact ⟨rfl, _, _, hon, hsubnet⟩
  · rintro ⟨rfl, opt, iface, hon, hsubnet⟩
    exact .reuse hdevices hon hsubnet

/-- With an address on its first interface, a VM is ready if it has no other device and interface. -/
theorem ready_of_interfacesOn_eq_cons {device : VlanDevice} {others : List VlanDevice}
    {opt : String} {iface : Interface} {rest : List (String × Interface)}
    (hdevices : vm.config.vlans.filter (isDeviceOf task parentIf) = device :: others)
    (hon : interfacesOn vm.config device.vlanif = (opt, iface) :: rest)
    (hsubnet : iface.subnet.isSome = true) :
    Ready task parentIf vm ↔ others = [] ∧ rest = [] := by
  rw [ready_of_filter_eq_cons hdevices, hon]
  constructor
  · rintro ⟨hothers, opt', iface', hlist, -⟩
    exact ⟨hothers, (List.cons_eq_cons.mp hlist).2⟩
  · rintro ⟨hothers, rfl⟩
    exact ⟨hothers, opt, iface, rfl, hsubnet⟩

/-- A run that cannot choose its names raises an exception, and writes nothing. -/
theorem not_ready_stopped_of_raise
    (hraise : vlanStep task parentIf vm (.listInterfaces vm.config.vlans) = none)
    (hdevices : vm.config.vlans.filter (isDeviceOf task parentIf) = []) (k : ℕ) :
    ¬ Ready task parentIf (stopped task parentIf k .listVlans vm) := by
  have hstop : stopped task parentIf k .listVlans vm = vm := by
    cases k with
    | zero => rfl
    | succ k =>
      rw [VlanMove.stopped_succ (.listVlans ..)]
      exact stopped_of_raise hraise k
  rw [hstop]
  intro hready
  cases hready with
  | create _ hvlanif hopt =>
    have hfound : vm.config.vlans.find? (isDeviceOf task parentIf) = none := by
      rw [← List.head?_filter, hdevices]
      rfl
    rw [(VlanMove.create hfound hvlanif hopt).vlanStep_eq] at hraise
    cases hraise
  | reuse hdevices' => cases hdevices.symm.trans hdevices'

section

variable {cidr : String} (hcidr : networkOf task.ipAddress task.subnet = some cidr)
include hcidr

/-- Which stopped runs that create their VLAN leave the VM ready. -/
theorem ready_stopped_create {vlanif opt : String}
    (hdevices : vm.config.vlans.filter (isDeviceOf task parentIf) = [])
    (hvlanif : nextVlanif (vm.config.vlans.map (·.vlanif)) = some vlanif)
    (hopt : nextOpt (getInterfaceNames vm.config) = some opt) (k : ℕ) :
    (Ready task parentIf (stopped task parentIf k .listVlans vm) ∧
        subnetCount cidr (stopped task parentIf k .listVlans vm) = 0) ↔
      subnetCount cidr vm = 0 ∧
        ((interfacesOn vm.config vlanif = [] ∧ (k ≤ 2 ∨ (5 ≤ k ∧ k ≤ 9))) ∨
        ((k = 3 ∨ k = 4) ∧ ∃ name iface, interfacesOn vm.config vlanif = [(name, iface)] ∧
          iface.subnet.isSome = true)) := by
  have hfound : vm.config.vlans.find? (isDeviceOf task parentIf) = none := by
    rw [← List.head?_filter, hdevices]
    rfl
  rw [stopped_two_reads (.listVlans ..) (.create hfound hvlanif hopt)]
  obtain ⟨hdevice, hiface⟩ := @stopped_addVlan task parentIf vm vlanif opt
  have hrange : k ≤ 2 ∨ (3 ≤ k ∧ k ≤ 4) ∨ (5 ≤ k ∧ k ≤ 9) ∨ 10 ≤ k := by omega
  rcases hrange with hk | hk | hk | hk
  · -- The run has written nothing.
    have hzero : k - 2 = 0 := by omega
    rw [hzero, stopped, ready_of_filter_eq_nil hdevices hvlanif hopt]
    constructor
    · rintro ⟨hon, hcount⟩
      exact ⟨hcount, Or.inl ⟨hon, Or.inl hk⟩⟩
    · rintro ⟨hcount, ⟨hon, -⟩ | ⟨h34, -⟩⟩
      · exact ⟨hon, hcount⟩
      · omega
  · -- The run has written the device, but not the interface.
    rw [hdevice (k - 2) (by omega) (by omega),
      ready_of_filter_eq_cons (filter_addVlanDevice hdevices vlanif)]
    constructor
    · rintro ⟨⟨-, name, iface, hon, hsubnet⟩, hcount⟩
      exact ⟨hcount, Or.inr ⟨by omega, name, iface, hon, hsubnet⟩⟩
    · rintro ⟨hcount, ⟨-, h⟩ | ⟨-, name, iface, hon, hsubnet⟩⟩
      · omega
      · exact ⟨⟨rfl, name, iface, hon, hsubnet⟩, hcount⟩
  · -- The run has written both.
    rw [hiface (k - 2) (by omega) (by omega),
      ready_of_filter_eq_cons (filter_addVlanDevice hdevices vlanif)]
    have hlist := @interfacesOn_created task parentIf vm vlanif opt (get?_nextOpt hopt)
    constructor
    · rintro ⟨⟨-, name, iface, hon, -⟩, hcount⟩
      have hlength := congrArg List.length (hlist.symm.trans hon)
      rw [List.length_append, List.length_singleton, List.length_singleton] at hlength
      exact ⟨hcount, Or.inl ⟨List.length_eq_zero_iff.mp (by omega), Or.inr hk⟩⟩
    · rintro ⟨hcount, ⟨hon, -⟩ | ⟨h34, -⟩⟩
      · exact ⟨⟨rfl, opt, newInterface task vlanif opt, hlist.trans (by rw [hon]; rfl), rfl⟩, hcount⟩
      · omega
  · -- The run has added a DHCP subnet, and the next one adds another.
    have hpos := @stopped_addVlan_ge task parentIf vm cidr hcidr vlanif opt (k - 2) (by omega)
    constructor
    · rintro ⟨-, hcount⟩
      omega
    · rintro ⟨-, ⟨-, h⟩ | ⟨h, -⟩⟩ <;> omega

/-- Which stopped runs that find a device of their VLAN leave the VM ready. -/
theorem ready_stopped_reuse {device : VlanDevice} {others : List VlanDevice}
    (hdevices : vm.config.vlans.filter (isDeviceOf task parentIf) = device :: others) (k : ℕ) :
    (Ready task parentIf (stopped task parentIf k .listVlans vm) ∧
        subnetCount cidr (stopped task parentIf k .listVlans vm) = 0) ↔
      subnetCount cidr vm = 0 ∧ others = [] ∧ ∃ opt iface,
        interfacesOn vm.config device.vlanif = [(opt, iface)] ∧ iface.subnet.isSome = true ∧
          k ≤ reuseLimit task iface := by
  have hfound : vm.config.vlans.find? (isDeviceOf task parentIf) = some device := by
    rw [← List.head?_filter, hdevices]
    rfl
  rw [stopped_two_reads (.listVlans ..) (.reuse hfound)]
  cases hon : interfacesOn vm.config device.vlanif with
  | nil =>
    rw [stopped_findOpt_missing hon, ready_of_filter_eq_cons hdevices, hon]
    simp
  | cons first rest =>
    obtain ⟨opt, iface⟩ := first
    cases hlen : iface.subnet with
    | none =>
      rw [stopped_findOpt_unreadable hon hlen, ready_of_filter_eq_cons hdevices, hon]
      constructor
      · rintro ⟨⟨-, opt', iface', hlist, hsome⟩, -⟩
        cases hlist
        rw [hlen] at hsome
        cases hsome
      · rintro ⟨-, -, opt', iface', hlist, hsome, -⟩
        cases hlist
        rw [hlen] at hsome
        cases hsome
    | some prefixLength =>
      have hsome : iface.subnet.isSome = true := by rw [hlen]; rfl
      rcases Nat.lt_or_ge (reuseLimit task iface) k with hk | hk
      · -- The run has added a DHCP subnet, and the next one adds another.
        have hpos := @stopped_findOpt_ge task parentIf vm cidr hcidr _ _ _
          (getInterfaceNames vm.config) _ hon hsome (k - 2) (by omega)
        constructor
        · rintro ⟨-, hcount⟩
          omega
        · rintro ⟨-, -, opt', iface', hlist, -, hk'⟩
          cases hlist
          omega
      · have hlimit : 2 ≤ reuseLimit task iface := by
          unfold reuseLimit
          split <;> omega
        have hready : Ready task parentIf (stopped task parentIf (k - 2)
            (.findOpt device.vlanif (getInterfaceNames vm.config)) vm) ↔
              others = [] ∧ rest = [] := by
          rcases @stopped_findOpt_le task parentIf vm _ _ _ (getInterfaceNames vm.config) _ hon
            hsome (k - 2) (by omega) with hstop | hstop
          · rw [hstop]
            exact ready_of_interfacesOn_eq_cons hdevices hon hsome
          · have hset := interfacesOn_setInterfaceIp vm.config opt task.ipAddress task.subnet
              device.vlanif
            rw [hon, List.map_cons] at hset
            rw [hstop]
            have hready := @ready_of_interfacesOn_eq_cons task parentIf { vm with
              config := setInterfaceIp vm.config opt task.ipAddress task.subnet } device others _ _
              _ hdevices hset (by simp)
            exact hready.trans (and_congr_right fun _ => List.map_eq_nil_iff)
        have hcount : subnetCount cidr (stopped task parentIf (k - 2)
            (.findOpt device.vlanif (getInterfaceNames vm.config)) vm) = subnetCount cidr vm := by
          rcases @stopped_findOpt_le task parentIf vm _ _ _ (getInterfaceNames vm.config) _ hon
            hsome (k - 2) (by omega) with hstop | hstop
          · rw [hstop]
          · rw [hstop]
            rfl
        rw [hready, hcount]
        constructor
        · rintro ⟨⟨hothers, rfl⟩, hzero⟩
          exact ⟨hzero, hothers, opt, iface, rfl, hsome, hk⟩
        · rintro ⟨hzero, hothers, opt', iface', hlist, -, -⟩
          exact ⟨⟨hothers, (List.cons_eq_cons.mp hlist).2⟩, hzero⟩

/-- Which stopped runs leave a VM that one more run configures once. -/
theorem ready_stopped_iff (k : ℕ) :
    (Ready task parentIf (stopped task parentIf k .listVlans vm) ∧
        subnetCount cidr (stopped task parentIf k .listVlans vm) = 0) ↔
      recoverable task parentIf cidr vm k = true := by
  unfold recoverable
  cases hdevices : vm.config.vlans.filter (isDeviceOf task parentIf) with
  | cons device others =>
    rw [ready_stopped_reuse hcidr hdevices]
    cases others with
    | cons device' others => simp
    | nil =>
      cases hon : interfacesOn vm.config device.vlanif with
      | nil => simp [hon]
      | cons first rest =>
        obtain ⟨opt, iface⟩ := first
        cases rest with
        | nil => simp [hon]
        | cons second rest => simp [hon]
  | nil =>
    have hfound : vm.config.vlans.find? (isDeviceOf task parentIf) = none := by
      rw [← List.head?_filter, hdevices]
      rfl
    have hchoose := @vlanStep_listInterfaces task parentIf vm _ hfound
    cases hvlanif : nextVlanif (vm.config.vlans.map (·.vlanif)) with
    | none =>
      rw [hvlanif] at hchoose
      simp [not_ready_stopped_of_raise hchoose hdevices]
    | some vlanif =>
      cases hopt : nextOpt (getInterfaceNames vm.config) with
      | none =>
        rw [hvlanif, hopt] at hchoose
        simp [not_ready_stopped_of_raise hchoose hdevices]
      | some opt =>
        rw [ready_stopped_create hcidr hdevices hvlanif hopt]
        cases hon : interfacesOn vm.config vlanif with
        | nil => simp [hon]
        | cons first rest =>
          obtain ⟨name, iface⟩ := first
          cases rest with
          | nil => simp [hon, and_comm]
          | cons second rest => simp [hon]

/-- A run that stops after `k` executions, and `n + 1` fault-free runs after it, leave the VLAN
configured once exactly if `n` is zero, so that one run completes, and the VM and `k` are such
that it can recover: there is no DHCP subnet for the network yet, the run stops before it adds one,
and either there is nothing of the VLAN and the run does not stop between the device and the
interface, or there is one device with one interface that has an address. -/
theorem recovers_iff (k n : ℕ) : Recovers task parentIf cidr vm k n ↔
    n = 0 ∧ recoverable task parentIf cidr vm k = true := by
  rw [← ready_stopped_iff hcidr, ← configured_iff hcidr]
  constructor
  · rintro ⟨final, hruns, hconfigured⟩
    have hcount := subnetCount_completedRuns hcidr hruns
    rw [hconfigured.subnet] at hcount
    obtain rfl : n = 0 := by omega
    obtain ⟨vm', hfirst, hrest⟩ := Option.bind_eq_some_iff.mp hruns
    cases hrest
    exact ⟨rfl, final, hfirst, hconfigured⟩
  · rintro ⟨rfl, vm', hfirst, hconfigured⟩
    refine ⟨vm', ?_, hconfigured⟩
    rw [completedRuns, hfirst]
    rfl

end

/-- The task of the network `172.16.10.0/24` with tag 10. -/
def dmzTask : VlanTask := .ofMessage ⟨1, 10, "172.16.10.1", 24⟩

/-- A VM without VLANs. -/
def bareVm : Opnsense where
  config := { vlans := [], interfaces := ∅ }
  kea := { subnets := [], interfaces := [] }

/-- The network of the task. -/
theorem networkOf_dmzTask :
    networkOf dmzTask.ipAddress dmzTask.subnet = some "172.16.10.0/24" := by
  decide +kernel

/-- A run that stops before it has written anything is followed by one that completes. -/
theorem recovers_bareVm : Recovers dmzTask "vtnet1" "172.16.10.0/24" bareVm 2 0 :=
  (recovers_iff networkOf_dmzTask 2 0).mpr ⟨rfl, by decide +kernel⟩

/-- A run that stops between the device and the interface is followed by no run that completes. -/
theorem not_recovers : ¬ ∀ (task : VlanTask) (parentIf cidr : String),
    networkOf task.ipAddress task.subnet = some cidr → ∀ (vm : Opnsense) (k n : ℕ),
      Recovers task parentIf cidr vm k n := by
  intro hrecovers
  obtain ⟨final, hruns, -⟩ := hrecovers dmzTask "vtnet1" _ networkOf_dmzTask bareVm 3 0
  have hnone : completedRuns dmzTask "vtnet1" 1
      (stopped dmzTask "vtnet1" 3 .listVlans bareVm) = none := by
    decide +kernel
  rw [hnone] at hruns
  cases hruns

-- Of two runs that complete, the second adds a second DHCP subnet.
example : (completedRuns dmzTask "vtnet1" 2 bareVm).map (subnetCount "172.16.10.0/24") =
    some 2 := by
  decide +kernel

end ProxmoxIaas.OpnsenseVm
