import ProxmoxIaas.Foundation.Result
import ProxmoxIaas.OpnsenseVm.Config
import ProxmoxIaas.Provisioning.Networks

/-!
# The Tasks that Configure an OPNsense VM

A run of `create_opnsense_vlan`, and the part of a run of `provision_wireguard_tunnel_task` that
creates the interface of a tunnel, as sequences of remote executions. Between two of them other
runs may change the VM, so a run is a phase that carries what it has read and chosen so far.

## Main results

- `vlanStep_move`: what each execution of a VLAN run does.
- `Job.step_config`, `Job.step_kea`: the executions that change the configuration and the DHCP
  settings, and how.
-/

namespace ProxmoxIaas.OpnsenseVm

/-- The settings that replace missing arguments. -/
structure Settings where
  /-- `DEFAULT_OPNSENSE_VM_ID`. -/
  defaultOpnsenseVmId : ℤ
  /-- `DEFAULT_OPNSENSE_PARENT_IF`. -/
  defaultOpnsenseParentIf : String
  deriving DecidableEq, Repr

/-- The arguments of `create_opnsense_vlan` that its remote executions use. -/
structure VlanTask where
  /-- The tenant. -/
  tenantId : ℕ
  /-- The VLAN tag. -/
  vlanTag : ℕ
  /-- The address of the VLAN interface. -/
  ipAddress : String
  /-- The prefix length of the VLAN interface. -/
  subnet : ℕ
  /-- The first address that DHCP hands out. -/
  dhcpStart : Option String
  /-- The last address that DHCP hands out. -/
  dhcpEnd : Option String
  /-- The VM to configure. -/
  vmId : Option ℤ
  /-- The parent interface. -/
  parentIf : Option String
  /-- The description of the VLAN. -/
  description : String
  deriving DecidableEq, Repr

/-- The task that `create_network` dispatches; all other arguments have their defaults. -/
def VlanTask.ofMessage (message : VlanMessage) : VlanTask where
  tenantId := message.tenantId
  vlanTag := message.vlanTag
  ipAddress := message.ipAddress
  subnet := message.subnet
  dhcpStart := none
  dhcpEnd := none
  vmId := none
  parentIf := none
  description := ""

/-- The VM that a task configures: `vm_id or settings.DEFAULT_OPNSENSE_VM_ID`. -/
def VlanTask.targetVm (task : VlanTask) (settings : Settings) : ℤ :=
  (task.vmId.filter (· ≠ 0)).getD settings.defaultOpnsenseVmId

/-- The parent interface of the VLAN: `parent_if or settings.DEFAULT_OPNSENSE_PARENT_IF`. -/
def VlanTask.parent (task : VlanTask) (settings : Settings) : String :=
  (truthyText task.parentIf).getD settings.defaultOpnsenseParentIf

/-- The description that is written to the VM. -/
def VlanTask.descr (task : VlanTask) : String :=
  if task.description = "" then s!"tenant{task.tenantId}-vlan{task.vlanTag}" else task.description

/-- The first three parts of an address, and one more. -/
def hostOf (ipAddress host : String) : String :=
  .ofList (Text.join '.' ((Text.split '.' ipAddress.toList).take 3 ++ [host.toList]))

/-- `ip_network` without strictness; `none` is a `ValueError`. -/
def networkOf (ipAddress : String) (subnet : ℕ) : Option String := do
  let address ← Ipv4.parse? ipAddress.toList
  if h : subnet ≤ 32 then some (Ipv4Net.ofHost address subnet h).text else none

/-- The DHCP subnet that the task adds for an interface. -/
def VlanTask.keaSubnet (task : VlanTask) (opt : String) : Option KeaSubnet := do
  let subnet ← networkOf task.ipAddress task.subnet
  let dhcpStart := (truthyText task.dhcpStart).getD (hostOf task.ipAddress "10")
  let dhcpEnd := (truthyText task.dhcpEnd).getD (hostOf task.ipAddress "200")
  return {
    subnet
    description := Text.upper opt
    pools := s!"{dhcpStart} - {dhcpEnd}"
    routers := task.ipAddress }

/-- What a run configures. -/
inductive Job where
  /-- `create_opnsense_vlan`, with the parent interface it uses. -/
  | vlan (task : VlanTask) (parentIf : String)
  /-- `provision_wireguard_tunnel_task`: the gateway address and the description of the tunnel. -/
  | wireguard (gatewayIp descr : String)
  deriving DecidableEq, Repr

/-- How far a run has come: the remote execution that is next, with what it uses. -/
inductive Phase where
  /-- `get_vlan_list`. -/
  | listVlans
  /-- `get_interface_names`. -/
  | listInterfaces (vlans : List VlanDevice)
  /-- `get_opt_for_vlanif`, for the device of a VLAN that exists. -/
  | findOpt (vlanif : String) (names : List String)
  /-- `get_interface_ip_and_subnet`. -/
  | readAddress (vlanif opt : String)
  /-- The script of `set_interface_ip`. -/
  | setAddress (vlanif opt : String)
  /-- `verify_interface_ip`. -/
  | verifyAddress (vlanif opt : String)
  /-- The script of `add_vlan_device`. -/
  | addVlan (vlanif opt : String)
  /-- `verify_vlan_exists`. -/
  | verifyVlan (vlanif opt : String)
  /-- `get_interface_names` of a tunnel. -/
  | listNames
  /-- `get_wg_device_name`. -/
  | findDevice (opt : String)
  /-- The script of `add_opt_interface`. -/
  | addOpt (device opt : String)
  /-- `verify_opt_exists`. -/
  | verifyOpt (device opt : String)
  /-- `create_vlan_iface_with_ip`. -/
  | createIface (device opt : String)
  /-- `reload_config`. -/
  | reload (device opt : String)
  /-- The request for the DHCP settings. -/
  | readKea (device opt : String)
  /-- `add_subnet`. -/
  | addSubnet (device opt : String) (enabled : List String)
  /-- `set` with the list of interfaces. -/
  | setInterfaces (device opt : String) (enabled : List String)
  /-- `reconfigure`. -/
  | reconfigure (device opt : String)
  /-- The run has taken all its steps on the VM. -/
  | done (device opt : String)
  deriving DecidableEq, Repr

/-- The phase in which a run starts. -/
def Job.start : Job → Phase
  | .vlan _ _ => .listVlans
  | .wireguard _ _ => .listNames

/-- The list of interfaces that is written back to the DHCP server. -/
def withOpt (enabled : List String) (opt : String) : List String :=
  if opt ∈ enabled then enabled else enabled ++ [opt]

/-- The executions of a VLAN run. `none` is an exception; the execution it comes from has not
changed anything. -/
def vlanStep (task : VlanTask) (parentIf : String) (vm : Opnsense) :
    Phase → Option (Phase × Opnsense)
  | .listVlans => some (.listInterfaces vm.config.vlans, vm)
  | .listInterfaces vlans =>
    let names := getInterfaceNames vm.config
    match vlans.find? fun device => device.tag = task.vlanTag ∧ device.parentIf = parentIf with
    | some device => some (.findOpt device.vlanif names, vm)
    | none => do
      let vlanif ← nextVlanif (vlans.map (·.vlanif))
      let opt ← nextOpt names
      return (.addVlan vlanif opt, vm)
  | .findOpt vlanif names => do
    let opt ← (getOptForVlanif vm.config vlanif).or (nextOpt names)
    return (.readAddress vlanif opt, vm)
  | .readAddress vlanif opt => do
    let current ← getInterfaceIpAndSubnet vm.config opt
    return if current = some (task.ipAddress, task.subnet) then (.readKea vlanif opt, vm)
      else (.setAddress vlanif opt, vm)
  | .setAddress vlanif opt => some (.verifyAddress vlanif opt,
      { vm with config := setInterfaceIp vm.config opt task.ipAddress task.subnet })
  | .verifyAddress vlanif opt => do
    Option.require (verifyInterfaceIp vm.config opt task.ipAddress task.subnet)
    return (.reload vlanif opt, vm)
  | .addVlan vlanif opt => some (.verifyVlan vlanif opt,
      { vm with config := addVlanDevice vm.config task.vlanTag parentIf vlanif task.descr })
  | .verifyVlan vlanif opt => do
    Option.require (verifyVlanExists vm.config task.vlanTag parentIf vlanif)
    return (.addOpt vlanif opt, vm)
  | .addOpt vlanif opt => some (.verifyOpt vlanif opt,
      { vm with
        config := addOptInterface vm.config opt vlanif task.ipAddress task.subnet
          (Text.upper task.descr) })
  | .verifyOpt vlanif opt => do
    Option.require (verifyOptExists vm.config opt vlanif task.ipAddress)
    return (.createIface vlanif opt, vm)
  -- The device of the running system is not part of the configuration.
  | .createIface vlanif opt => some (.reload vlanif opt, vm)
  | .reload vlanif opt => some (.readKea vlanif opt, vm)
  | .readKea vlanif opt => some (.addSubnet vlanif opt vm.kea.interfaces, vm)
  | .addSubnet vlanif opt enabled => do
    let subnet ← task.keaSubnet opt
    return (.setInterfaces vlanif opt enabled, { vm with kea := vm.kea.addSubnet subnet })
  | .setInterfaces vlanif opt enabled => some (.reconfigure vlanif opt,
      { vm with kea := vm.kea.setInterfaces (withOpt enabled opt) })
  | .reconfigure vlanif opt => some (.done vlanif opt, vm)
  -- The other phases belong to tunnels, or are final.
  | phase => some (phase, vm)

/-- The executions of a tunnel run. `device` is the answer of the WireGuard server. -/
def wireguardStep (gatewayIp descr device : String) (vm : Opnsense) :
    Phase → Option (Phase × Opnsense)
  | .listNames => do
    let opt ← nextOptWireguard (getInterfaceNames vm.config)
    return (.findDevice opt, vm)
  | .findDevice opt => some (.addOpt device opt, vm)
  | .addOpt device opt => some (.verifyOpt device opt,
      { vm with config := addOptInterface vm.config opt device gatewayIp 24 descr })
  | .verifyOpt device opt => do
    Option.require (verifyOptExists vm.config opt device gatewayIp)
    return (.reload device opt, vm)
  | .reload device opt => some (.done device opt, vm)
  -- The other phases belong to VLANs, or are final.
  | phase => some (phase, vm)

/-- One remote execution of a run. -/
def Job.step (job : Job) (device : String) (vm : Opnsense) (phase : Phase) :
    Option (Phase × Opnsense) :=
  match job with
  | .vlan task parentIf => vlanStep task parentIf vm phase
  | .wireguard gatewayIp descr => wireguardStep gatewayIp descr device vm phase

/-! ## What an execution does -/

/-- The executions of a VLAN run that raise no exception. -/
inductive VlanMove (task : VlanTask) (parentIf : String) (vm : Opnsense) :
    Phase → Phase → Opnsense → Prop where
  | listVlans : VlanMove task parentIf vm .listVlans (.listInterfaces vm.config.vlans) vm
  /-- A device of the VLAN is among those that were read. -/
  | reuse {vlans : List VlanDevice} {device : VlanDevice}
      (hfound : vlans.find? (fun device =>
        device.tag = task.vlanTag ∧ device.parentIf = parentIf) = some device) :
      VlanMove task parentIf vm (.listInterfaces vlans)
        (.findOpt device.vlanif (getInterfaceNames vm.config)) vm
  /-- No device of the VLAN is among those that were read. -/
  | create {vlans : List VlanDevice} {vlanif opt : String}
      (hfound : vlans.find? (fun device =>
        device.tag = task.vlanTag ∧ device.parentIf = parentIf) = none)
      (hvlanif : nextVlanif (vlans.map (·.vlanif)) = some vlanif)
      (hopt : nextOpt (getInterfaceNames vm.config) = some opt) :
      VlanMove task parentIf vm (.listInterfaces vlans) (.addVlan vlanif opt) vm
  | findOpt {vlanif opt : String} {names : List String}
      (hopt : (getOptForVlanif vm.config vlanif).or (nextOpt names) = some opt) :
      VlanMove task parentIf vm (.findOpt vlanif names) (.readAddress vlanif opt) vm
  /-- The interface has the address that is asked for. -/
  | sameAddress {vlanif opt : String} (hcurrent : getInterfaceIpAndSubnet vm.config opt =
      some (some (task.ipAddress, task.subnet))) :
      VlanMove task parentIf vm (.readAddress vlanif opt) (.readKea vlanif opt) vm
  /-- The interface is missing, or has another address. -/
  | otherAddress {vlanif opt : String} {current : Option (String × ℕ)}
      (hcurrent : getInterfaceIpAndSubnet vm.config opt = some current)
      (hother : current ≠ some (task.ipAddress, task.subnet)) :
      VlanMove task parentIf vm (.readAddress vlanif opt) (.setAddress vlanif opt) vm
  | setAddress (vlanif opt : String) :
      VlanMove task parentIf vm (.setAddress vlanif opt) (.verifyAddress vlanif opt)
        { vm with config := setInterfaceIp vm.config opt task.ipAddress task.subnet }
  | verifyAddress {vlanif opt : String}
      (hverify : verifyInterfaceIp vm.config opt task.ipAddress task.subnet = true) :
      VlanMove task parentIf vm (.verifyAddress vlanif opt) (.reload vlanif opt) vm
  | addVlan (vlanif opt : String) :
      VlanMove task parentIf vm (.addVlan vlanif opt) (.verifyVlan vlanif opt)
        { vm with config := addVlanDevice vm.config task.vlanTag parentIf vlanif task.descr }
  | verifyVlan {vlanif opt : String}
      (hverify : verifyVlanExists vm.config task.vlanTag parentIf vlanif = true) :
      VlanMove task parentIf vm (.verifyVlan vlanif opt) (.addOpt vlanif opt) vm
  | addOpt (vlanif opt : String) :
      VlanMove task parentIf vm (.addOpt vlanif opt) (.verifyOpt vlanif opt)
        { vm with
          config := addOptInterface vm.config opt vlanif task.ipAddress task.subnet
            (Text.upper task.descr) }
  | verifyOpt {vlanif opt : String}
      (hverify : verifyOptExists vm.config opt vlanif task.ipAddress = true) :
      VlanMove task parentIf vm (.verifyOpt vlanif opt) (.createIface vlanif opt) vm
  | createIface (vlanif opt : String) :
      VlanMove task parentIf vm (.createIface vlanif opt) (.reload vlanif opt) vm
  | reload (vlanif opt : String) :
      VlanMove task parentIf vm (.reload vlanif opt) (.readKea vlanif opt) vm
  | readKea (vlanif opt : String) : VlanMove task parentIf vm (.readKea vlanif opt)
      (.addSubnet vlanif opt vm.kea.interfaces) vm
  | addSubnet {vlanif opt : String} {enabled : List String} {subnet : KeaSubnet}
      (hsubnet : task.keaSubnet opt = some subnet) :
      VlanMove task parentIf vm (.addSubnet vlanif opt enabled) (.setInterfaces vlanif opt enabled)
        { vm with kea := vm.kea.addSubnet subnet }
  | setInterfaces (vlanif opt : String) (enabled : List String) :
      VlanMove task parentIf vm (.setInterfaces vlanif opt enabled) (.reconfigure vlanif opt)
        { vm with kea := vm.kea.setInterfaces (withOpt enabled opt) }
  | reconfigure (vlanif opt : String) :
      VlanMove task parentIf vm (.reconfigure vlanif opt) (.done vlanif opt) vm
  /-- A run that is done stays so. -/
  | done (vlanif opt : String) :
      VlanMove task parentIf vm (.done vlanif opt) (.done vlanif opt) vm
  /-- The phases of tunnels are not reached. -/
  | listNames : VlanMove task parentIf vm .listNames .listNames vm
  | findDevice (opt : String) : VlanMove task parentIf vm (.findDevice opt) (.findDevice opt) vm

/-- Every execution of a VLAN run that raises no exception is one of the moves. -/
theorem vlanStep_move {task : VlanTask} {parentIf : String} {vm vm' : Opnsense}
    {phase next : Phase} (h : vlanStep task parentIf vm phase = some (next, vm')) :
    VlanMove task parentIf vm phase next vm' := by
  cases phase
  case listInterfaces vlans =>
    simp only [vlanStep] at h
    split at h
    case h_1 device hfound =>
      cases h
      exact .reuse hfound
    case h_2 hfound =>
      simp only [Option.bind_eq_bind, Option.bind_eq_some_iff] at h
      obtain ⟨vlanif, hvlanif, opt, hopt, h⟩ := h
      cases h
      exact .create hfound hvlanif hopt
  case findOpt vlanif names =>
    obtain ⟨opt, hopt, h⟩ := Option.bind_eq_some_iff.mp h
    cases h
    exact .findOpt hopt
  case readAddress vlanif opt =>
    obtain ⟨current, hcurrent, h⟩ := Option.bind_eq_some_iff.mp h
    split at h
    case isTrue hsame =>
      cases h
      exact .sameAddress (hsame ▸ hcurrent)
    case isFalse hother =>
      cases h
      exact .otherAddress hcurrent hother
  case verifyAddress vlanif opt =>
    obtain ⟨⟨⟩, hverify, h⟩ := Option.bind_eq_some_iff.mp h
    cases h
    exact .verifyAddress (Option.require_eq_some_iff.mp hverify)
  case verifyVlan vlanif opt =>
    obtain ⟨⟨⟩, hverify, h⟩ := Option.bind_eq_some_iff.mp h
    cases h
    exact .verifyVlan (Option.require_eq_some_iff.mp hverify)
  case verifyOpt vlanif opt =>
    obtain ⟨⟨⟩, hverify, h⟩ := Option.bind_eq_some_iff.mp h
    cases h
    exact .verifyOpt (Option.require_eq_some_iff.mp hverify)
  case addSubnet vlanif opt enabled =>
    obtain ⟨subnet, hsubnet, h⟩ := Option.bind_eq_some_iff.mp h
    cases h
    exact .addSubnet hsubnet
  all_goals
    cases h
    constructor

/-- Every move is an execution. -/
theorem VlanMove.vlanStep_eq {task : VlanTask} {parentIf : String} {vm vm' : Opnsense}
    {phase next : Phase} (h : VlanMove task parentIf vm phase next vm') :
    vlanStep task parentIf vm phase = some (next, vm') := by
  cases h
  case reuse hfound => simp only [vlanStep, hfound]
  case create hfound hvlanif hopt => simp only [vlanStep, hfound, hvlanif, hopt]; rfl
  case findOpt hopt => simp only [vlanStep, hopt]; rfl
  case sameAddress hcurrent => simp [vlanStep, hcurrent]
  case otherAddress hcurrent hother => simp [vlanStep, hcurrent, hother]
  case verifyAddress hverify => simp [vlanStep, hverify, Option.require]
  case verifyVlan hverify => simp [vlanStep, hverify, Option.require]
  case verifyOpt hverify => simp [vlanStep, hverify, Option.require]
  case addSubnet hsubnet => simp [vlanStep, hsubnet]
  all_goals rfl

/-- What an execution of a run leaves of the configuration. -/
inductive Edit (job : Job) (config : Config) : Phase → Config → Prop where
  /-- All other executions only read it. -/
  | read (phase : Phase) : Edit job config phase config
  /-- A VLAN device is written. -/
  | addVlan {task : VlanTask} {parentIf : String} (hjob : job = .vlan task parentIf)
      (vlanif opt : String) : Edit job config (.addVlan vlanif opt)
        (addVlanDevice config task.vlanTag parentIf vlanif task.descr)
  /-- An interface is written. -/
  | addOpt (device opt ip : String) (subnet : ℕ) (descr : String) :
      Edit job config (.addOpt device opt) (addOptInterface config opt device ip subnet descr)
  /-- The address of an interface is written. -/
  | setAddress (device opt ip : String) (subnet : ℕ) :
      Edit job config (.setAddress device opt) (setInterfaceIp config opt ip subnet)

/-- What an execution of a run leaves of the DHCP settings. -/
inductive KeaEdit (kea : Kea) : Phase → Kea → Prop where
  /-- All other executions only read them. -/
  | read (phase : Phase) : KeaEdit kea phase kea
  /-- A subnet is added. -/
  | addSubnet (device opt : String) (enabled : List String) (subnet : KeaSubnet) :
      KeaEdit kea (.addSubnet device opt enabled) (kea.addSubnet subnet)
  /-- The list that was read before is written back, with the interface of the run. -/
  | setInterfaces (device opt : String) (enabled : List String) :
      KeaEdit kea (.setInterfaces device opt enabled) (kea.setInterfaces (withOpt enabled opt))

/-- The executions of a tunnel run that raise no exception edit at most one interface. -/
theorem wireguardStep_edit {gatewayIp descr device : String} {vm vm' : Opnsense}
    {phase next : Phase} (h : wireguardStep gatewayIp descr device vm phase = some (next, vm')) :
    Edit (.wireguard gatewayIp descr) vm.config phase vm'.config ∧ vm'.kea = vm.kea := by
  cases phase
  case addOpt vlanif opt =>
    cases h
    exact ⟨.addOpt .., rfl⟩
  case listNames =>
    obtain ⟨opt, -, h⟩ := Option.bind_eq_some_iff.mp h
    cases h
    exact ⟨.read _, rfl⟩
  case verifyOpt =>
    obtain ⟨-, -, h⟩ := Option.bind_eq_some_iff.mp h
    cases h
    exact ⟨.read _, rfl⟩
  all_goals
    cases h
    exact ⟨.read _, rfl⟩

/-- The executions that change the configuration are the scripts of the three writing phases. -/
theorem Job.step_config {job : Job} {device : String} {vm vm' : Opnsense} {phase next : Phase}
    (h : job.step device vm phase = some (next, vm')) : Edit job vm.config phase vm'.config := by
  cases job with
  | vlan task parentIf =>
    cases vlanStep_move h
    case addVlan => exact .addVlan rfl ..
    case addOpt => exact .addOpt ..
    case setAddress => exact .setAddress ..
    all_goals exact .read _
  | wireguard gatewayIp descr => exact (wireguardStep_edit h).1

/-- The executions that change the DHCP settings are two API calls of VLAN runs. -/
theorem Job.step_kea {job : Job} {device : String} {vm vm' : Opnsense} {phase next : Phase}
    (h : job.step device vm phase = some (next, vm')) : KeaEdit vm.kea phase vm'.kea := by
  cases job with
  | vlan task parentIf =>
    cases vlanStep_move h
    case addSubnet => exact .addSubnet ..
    case setInterfaces => exact .setInterfaces ..
    all_goals exact .read _
  | wireguard gatewayIp descr => exact (wireguardStep_edit h).2 ▸ .read _

end ProxmoxIaas.OpnsenseVm
