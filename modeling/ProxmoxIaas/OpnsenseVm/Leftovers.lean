import ProxmoxIaas.OpnsenseVm.Runs

/-!
# Leftovers of Deleted Networks

What an OPNsense VM may still have of networks that were deleted: a VLAN device with the tag, an
interface with the gateway address, a DHCP subnet. A tag that was given to another network in the
meantime must be left with the address and the DHCP subnet of that network only.

Nothing here depends on how networks are created and deleted: the networks are two lists, of which
one loses the network that the other gains.

## Main results

- `NoLeftovers.create`, `NoLeftovers.delete`: networks are created, and deleted when the VM has
  nothing of them.
- `NoLeftovers.move`: a run of a VLAN task leaves nothing of a deleted network if it writes what
  belongs to a live network.
-/

namespace ProxmoxIaas

/-- What the configuration of a VM shows of a network. -/
structure Wiring where
  /-- The VLAN tag. -/
  vlanId : Option ℕ
  /-- The gateway address. -/
  gatewayIp : String
  /-- The subnet. -/
  cidr : String
  deriving DecidableEq, Repr

/-- What the configuration of a VM shows of the network in a row. -/
def TenantNetwork.wiring (network : TenantNetwork) : Wiring where
  vlanId := network.vlanId
  gatewayIp := network.gatewayIp
  cidr := network.cidr

namespace OpnsenseVm

variable {deleted live : List Wiring} {parentIf : String} {vm vm' : Opnsense} {task : VlanTask}

/-- An interface has the address of a live network with a tag, and only DHCP subnets of live
networks with this tag. -/
structure OnlyCurrent (live : List Wiring) (tag : ℕ) (kea : Kea) (opt : String)
    (iface : Interface) : Prop where
  /-- The address. -/
  address : ∃ network ∈ live, network.vlanId = some tag ∧ iface.ipaddr = network.gatewayIp ∧
    iface.subnet = some 24
  /-- The DHCP subnets carry the name of the interface. -/
  subnets : ∀ subnet ∈ kea.subnets, subnet.description = Text.upper opt →
    ∃ network ∈ live, network.vlanId = some tag ∧ subnet.subnet = network.cidr

/-- A VM has nothing of the deleted networks that is not of a live one as well. -/
structure NoLeftovers (deleted live : List Wiring) (parentIf : String) (vm : Opnsense) : Prop where
  /-- A VLAN device with the tag of a deleted network is of a live one. -/
  device : ∀ network ∈ deleted, ∀ device ∈ vm.config.vlans, device.parentIf = parentIf →
    network.vlanId = some device.tag → ∃ other ∈ live, other.vlanId = some device.tag
  /-- An interface with the address of a deleted network is of a live one. -/
  interface : ∀ network ∈ deleted, ∀ opt iface, vm.config.interfaces.get? opt = some iface →
    iface.ipaddr = network.gatewayIp → ∃ other ∈ live, other.gatewayIp = network.gatewayIp
  /-- A DHCP subnet of a deleted network is of a live one. -/
  subnet : ∀ network ∈ deleted, ∀ subnet ∈ vm.kea.subnets, subnet.subnet = network.cidr →
    ∃ other ∈ live, other.cidr = network.cidr
  /-- The interfaces of a tag that was used again are those of live networks. -/
  reused : ∀ network ∈ deleted, ∀ device ∈ vm.config.vlans, device.parentIf = parentIf →
    network.vlanId = some device.tag → ∀ opt iface, vm.config.interfaces.get? opt = some iface →
      iface.device = device.vlanif → OnlyCurrent live device.tag vm.kea opt iface

/-- A VM has nothing of a network. -/
def holdsNothing (parentIf : String) (network : Wiring) (vm : Opnsense) : Bool :=
  (vm.config.vlans.all fun device =>
    device.parentIf ≠ parentIf ∨ network.vlanId ≠ some device.tag) &&
  (vm.config.interfaces.first? fun _ iface => iface.ipaddr = network.gatewayIp).isNone &&
  vm.kea.subnets.all fun subnet => subnet.subnet ≠ network.cidr

/-- A network is the one that a task was dispatched for. -/
def isFor (task : VlanTask) (network : Wiring) : Bool :=
  network.vlanId = some task.vlanTag ∧ network.gatewayIp = task.ipAddress ∧
    networkOf task.ipAddress task.subnet = some network.cidr

/-- A network has the tag, the address or the subnet that a task writes. -/
def shares (task : VlanTask) (network : Wiring) : Bool :=
  network.vlanId = some task.vlanTag ∨ network.gatewayIp = task.ipAddress ∨
    networkOf task.ipAddress task.subnet = some network.cidr

/-- The network of a task is live, or no deleted network has anything that the task writes. -/
def fits (deleted live : List Wiring) (task : VlanTask) : Bool :=
  live.any (isFor task) || !deleted.any (shares task)

/-- The VLAN devices of a name whose tags deleted networks had. -/
def reusedOn (deleted : List Wiring) (parentIf : String) (vm : Opnsense) (vlanif : String) :
    List VlanDevice :=
  vm.config.vlans.filter fun device => device.parentIf = parentIf ∧ device.vlanif = vlanif ∧
    deleted.any fun network => network.vlanId = some device.tag

/-- The condition on the remote executions of a run: what it writes belongs to a live network or to
none that was deleted, and the names it has chosen are not those of another tag. -/
def harmless (deleted live : List Wiring) (parentIf : String) (vm : Opnsense) (task : VlanTask) :
    Phase → Bool
  | .addVlan vlanif _ => fits deleted live task &&
    (!(deleted.any fun network => network.vlanId = some task.vlanTag) ||
      (vm.config.interfaces.first? fun _ iface => iface.device = vlanif).isNone)
  | .addOpt vlanif opt => fits deleted live task &&
    (reusedOn deleted parentIf vm vlanif).all fun device => device.tag = task.vlanTag ∧
      vm.kea.subnets.all fun subnet => subnet.description ≠ Text.upper opt
  | .setAddress _ opt => fits deleted live task &&
    (vm.config.interfaces.get? opt).all fun iface =>
      (reusedOn deleted parentIf vm iface.device).all fun device => device.tag = task.vlanTag
  | .addSubnet _ opt _ => fits deleted live task &&
    (vm.config.interfaces.first? fun name iface => Text.upper name = Text.upper opt ∧
      (reusedOn deleted parentIf vm iface.device).any fun device =>
        device.tag ≠ task.vlanTag).isNone
  | _ => true

/-! ### Creation and deletion -/

/-- An interface stays that of a live network when networks are created. -/
theorem OnlyCurrent.mono {live' : List Wiring} {tag : ℕ} {kea : Kea} {opt : String}
    {iface : Interface} (h : OnlyCurrent live tag kea opt iface)
    (hlive : ∀ network ∈ live, network ∈ live') : OnlyCurrent live' tag kea opt iface where
  address := by
    obtain ⟨network, hmem, haddress⟩ := h.address
    exact ⟨network, hlive network hmem, haddress⟩
  subnets subnet hsubnet hdescription := by
    obtain ⟨network, hmem, hcidr⟩ := h.subnets subnet hsubnet hdescription
    exact ⟨network, hlive network hmem, hcidr⟩

/-- The creation of a network leaves nothing of deleted ones. -/
theorem NoLeftovers.create (h : NoLeftovers deleted live parentIf vm) {deleted' live' : List Wiring}
    (hdeleted : ∀ network ∈ deleted', network ∈ deleted)
    (hlive : ∀ network ∈ live, network ∈ live') : NoLeftovers deleted' live' parentIf vm where
  device network hmem device hdevice hparent htag := by
    obtain ⟨other, hother, h⟩ := h.device network (hdeleted _ hmem) device hdevice hparent htag
    exact ⟨other, hlive other hother, h⟩
  interface network hmem opt iface hget hip := by
    obtain ⟨other, hother, h⟩ := h.interface network (hdeleted _ hmem) opt iface hget hip
    exact ⟨other, hlive other hother, h⟩
  subnet network hmem subnet hsubnet hcidr := by
    obtain ⟨other, hother, h⟩ := h.subnet network (hdeleted _ hmem) subnet hsubnet hcidr
    exact ⟨other, hlive other hother, h⟩
  reused network hmem device hdevice hparent htag opt iface hget hon :=
    (h.reused network (hdeleted _ hmem) device hdevice hparent htag opt iface hget hon).mono hlive

section Delete

variable {gone : Wiring} (hnothing : holdsNothing parentIf gone vm = true)

include hnothing

/-- No VLAN device has the tag of a network of which the VM has nothing. -/
theorem vlanId_ne_of_holdsNothing {device : VlanDevice} (hmem : device ∈ vm.config.vlans)
    (hparent : device.parentIf = parentIf) : gone.vlanId ≠ some device.tag := by
  simp only [holdsNothing, Bool.and_eq_true, List.all_eq_true, decide_eq_true_eq] at hnothing
  exact (hnothing.1.1 device hmem).resolve_left fun hne => hne hparent

/-- No interface has the address of a network of which the VM has nothing. -/
theorem ipaddr_ne_of_holdsNothing {opt : String} {iface : Interface}
    (hget : vm.config.interfaces.get? opt = some iface) : iface.ipaddr ≠ gone.gatewayIp := by
  simp only [holdsNothing, Bool.and_eq_true, Option.isNone_iff_eq_none,
    Table.first?_eq_none_iff] at hnothing
  simpa using hnothing.1.2 opt iface hget

/-- No DHCP subnet is that of a network of which the VM has nothing. -/
theorem subnet_ne_of_holdsNothing {subnet : KeaSubnet} (hmem : subnet ∈ vm.kea.subnets) :
    subnet.subnet ≠ gone.cidr := by
  simp only [holdsNothing, Bool.and_eq_true, List.all_eq_true, decide_eq_true_eq] at hnothing
  exact hnothing.2 subnet hmem

/-- The deletion of a network of which the VM has nothing. -/
theorem NoLeftovers.delete (h : NoLeftovers deleted live parentIf vm) {deleted' live' : List Wiring}
    (hdeleted : ∀ network ∈ deleted', network = gone ∨ network ∈ deleted)
    (hlive : ∀ network ∈ live, network = gone ∨ network ∈ live') :
    NoLeftovers deleted' live' parentIf vm where
  device network hmem device hdevice hparent htag := by
    have hne := vlanId_ne_of_holdsNothing hnothing hdevice hparent
    rcases hdeleted network hmem with rfl | hold
    · exact absurd htag hne
    · obtain ⟨other, hother, hother'⟩ := h.device network hold device hdevice hparent htag
      rcases hlive other hother with rfl | hstill
      · exact absurd hother' hne
      · exact ⟨other, hstill, hother'⟩
  interface network hmem opt iface hget hip := by
    have hne := ipaddr_ne_of_holdsNothing hnothing hget
    rcases hdeleted network hmem with rfl | hold
    · exact absurd hip hne
    · obtain ⟨other, hother, hother'⟩ := h.interface network hold opt iface hget hip
      rcases hlive other hother with rfl | hstill
      · exact absurd (hip.trans hother'.symm) hne
      · exact ⟨other, hstill, hother'⟩
  subnet network hmem subnet hsubnet hcidr := by
    have hne := subnet_ne_of_holdsNothing hnothing hsubnet
    rcases hdeleted network hmem with rfl | hold
    · exact absurd hcidr hne
    · obtain ⟨other, hother, hother'⟩ := h.subnet network hold subnet hsubnet hcidr
      rcases hlive other hother with rfl | hstill
      · exact absurd (hcidr.trans hother'.symm) hne
      · exact ⟨other, hstill, hother'⟩
  reused network hmem device hdevice hparent htag opt iface hget hon := by
    have hne := vlanId_ne_of_holdsNothing hnothing hdevice hparent
    rcases hdeleted network hmem with rfl | hold
    · exact absurd htag hne
    · have hcurrent := h.reused network hold device hdevice hparent htag opt iface hget hon
      -- A live network with the tag of the device is not the one that goes.
      have hstays : ∀ other ∈ live, other.vlanId = some device.tag → other ∈ live' :=
        fun other hother hother' => (hlive other hother).resolve_left fun heq =>
          hne (heq ▸ hother')
      constructor
      · obtain ⟨other, hother, hother', haddress⟩ := hcurrent.address
        exact ⟨other, hstays other hother hother', hother', haddress⟩
      · intro subnet hsubnet hdescription
        obtain ⟨other, hother, hother', hcidr⟩ := hcurrent.subnets subnet hsubnet hdescription
        exact ⟨other, hstays other hother hother', hother', hcidr⟩

end Delete

/-! ### The executions of a run -/

/-- What a fitting task writes of a deleted network is all of one live network. -/
theorem exists_isFor_of_shares (hfits : fits deleted live task = true) {network : Wiring}
    (hmem : network ∈ deleted) (hshares : shares task network = true) :
    ∃ other ∈ live, other.vlanId = some task.vlanTag ∧ other.gatewayIp = task.ipAddress ∧
      networkOf task.ipAddress task.subnet = some other.cidr := by
  rcases Bool.or_eq_true_iff.mp hfits with hlive | hnone
  · obtain ⟨other, hother, hfor⟩ := List.any_eq_true.mp hlive
    exact ⟨other, hother, of_decide_eq_true hfor⟩
  · exfalso
    rw [Bool.not_eq_true', List.any_eq_false] at hnone
    exact hnone network hmem hshares

/-- A VLAN device of a re-used tag is listed under its name. -/
theorem mem_reusedOn {device : VlanDevice} (hdevice : device ∈ vm.config.vlans)
    (hparent : device.parentIf = parentIf) {network : Wiring} (hmem : network ∈ deleted)
    (htag : network.vlanId = some device.tag) :
    device ∈ reusedOn deleted parentIf vm device.vlanif := by
  have hany : (deleted.any fun network => network.vlanId = some device.tag) = true :=
    List.any_eq_true.mpr ⟨network, hmem, decide_eq_true htag⟩
  exact List.mem_filter.mpr ⟨hdevice, decide_eq_true ⟨hparent, rfl, hany⟩⟩

section Writes

variable (h : NoLeftovers deleted live parentIf vm)

include h

/-- A VLAN device is written. -/
theorem NoLeftovers.addVlan {vlanif opt descr : String}
    (hok : harmless deleted live parentIf vm task (.addVlan vlanif opt) = true) :
    NoLeftovers deleted live parentIf
      { vm with config := addVlanDevice vm.config task.vlanTag parentIf vlanif descr } := by
  obtain ⟨hfits, hfree⟩ := Bool.and_eq_true_iff.mp hok
  refine ⟨fun network hmem device hdevice hparent htag => ?_, h.interface, h.subnet,
    fun network hmem device hdevice hparent htag opt iface hget hon => ?_⟩
  · rcases mem_of_mem_upsertVlan hdevice with rfl | hold
    · obtain ⟨other, hother, hvlan, -⟩ :=
        exists_isFor_of_shares hfits hmem (decide_eq_true (Or.inl htag))
      exact ⟨other, hother, hvlan⟩
    · exact h.device network hmem device hold hparent htag
  · rcases mem_of_mem_upsertVlan hdevice with rfl | hold
    · exfalso
      -- No interface is on the device yet, if its tag is one that was used before.
      rcases Bool.or_eq_true_iff.mp hfree with hnew | hnone
      · rw [Bool.not_eq_true', List.any_eq_false] at hnew
        exact hnew network hmem (decide_eq_true htag)
      · have hnot := Table.first?_eq_none_iff.mp (Option.isNone_iff_eq_none.mp hnone) opt iface hget
        exact of_decide_eq_false hnot hon
    · exact h.reused network hmem device hold hparent htag opt iface hget hon

/-- An interface is written. -/
theorem NoLeftovers.addOpt {vlanif opt descr : String} (hlength : task.subnet = 24)
    (hok : harmless deleted live parentIf vm task (.addOpt vlanif opt) = true) :
    NoLeftovers deleted live parentIf
      { vm with config := addOptInterface vm.config opt vlanif task.ipAddress task.subnet descr } := by
  obtain ⟨hfits, hnames⟩ := Bool.and_eq_true_iff.mp hok
  refine ⟨h.device, fun network hmem name iface hget hip => ?_, h.subnet,
    fun network hmem device hdevice hparent htag name iface hget hon => ?_⟩
  · rw [get?_addOptInterface] at hget
    split at hget
    case isFalse => exact h.interface network hmem name iface hget hip
    case isTrue =>
      obtain rfl := Option.some.inj hget
      obtain ⟨other, hother, -, hgateway, -⟩ :=
        exists_isFor_of_shares hfits hmem (decide_eq_true (Or.inr (Or.inl hip.symm)))
      exact ⟨other, hother, hgateway.trans hip⟩
  · rw [get?_addOptInterface] at hget
    split at hget
    case isFalse => exact h.reused network hmem device hdevice hparent htag name iface hget hon
    case isTrue hname =>
      subst hname
      obtain rfl := Option.some.inj hget
      have hlisted := mem_reusedOn hdevice hparent hmem htag
      rw [← show vlanif = device.vlanif from hon] at hlisted
      obtain ⟨hown, hfree⟩ := of_decide_eq_true (List.all_eq_true.mp hnames device hlisted)
      constructor
      · obtain ⟨other, hother, hvlan, hgateway, -⟩ :=
          exists_isFor_of_shares hfits hmem (decide_eq_true (Or.inl (hown ▸ htag)))
        exact ⟨other, hother, hown ▸ hvlan, hgateway.symm, congrArg some hlength⟩
      · intro subnet hsubnet hdescription
        exact absurd hdescription (of_decide_eq_true (List.all_eq_true.mp hfree subnet hsubnet))

/-- The address of an interface is written. -/
theorem NoLeftovers.setAddress {vlanif opt : String} (hlength : task.subnet = 24)
    (hok : harmless deleted live parentIf vm task (.setAddress vlanif opt) = true) :
    NoLeftovers deleted live parentIf
      { vm with config := setInterfaceIp vm.config opt task.ipAddress task.subnet } := by
  obtain ⟨hfits, hnames⟩ := Bool.and_eq_true_iff.mp hok
  refine ⟨h.device, fun network hmem name iface hget hip => ?_, h.subnet,
    fun network hmem device hdevice hparent htag name iface hget hon => ?_⟩
  · rw [get?_setInterfaceIp] at hget
    split at hget
    case isFalse => exact h.interface network hmem name iface hget hip
    case isTrue =>
      obtain ⟨old, -, rfl⟩ := Option.map_eq_some_iff.mp hget
      obtain ⟨other, hother, -, hgateway, -⟩ :=
        exists_isFor_of_shares hfits hmem (decide_eq_true (Or.inr (Or.inl hip.symm)))
      exact ⟨other, hother, hgateway.trans hip⟩
  · rw [get?_setInterfaceIp] at hget
    split at hget
    case isFalse => exact h.reused network hmem device hdevice hparent htag name iface hget hon
    case isTrue hname =>
      subst hname
      obtain ⟨old, hold, rfl⟩ := Option.map_eq_some_iff.mp hget
      have hlisted := mem_reusedOn hdevice hparent hmem htag
      rw [← show old.device = device.vlanif from hon] at hlisted
      rw [hold] at hnames
      have hown := of_decide_eq_true (List.all_eq_true.mp hnames device hlisted)
      refine ⟨?_, (h.reused network hmem device hdevice hparent htag name old hold hon).subnets⟩
      obtain ⟨other, hother, hvlan, hgateway, -⟩ :=
        exists_isFor_of_shares hfits hmem (decide_eq_true (Or.inl (hown ▸ htag)))
      exact ⟨other, hother, hown ▸ hvlan, hgateway.symm, congrArg some hlength⟩

/-- A DHCP subnet is added. -/
theorem NoLeftovers.addSubnet {vlanif opt : String} {enabled : List String} {subnet : KeaSubnet}
    (hsubnet : task.keaSubnet opt = some subnet)
    (hok : harmless deleted live parentIf vm task (.addSubnet vlanif opt enabled) = true) :
    NoLeftovers deleted live parentIf { vm with kea := vm.kea.addSubnet subnet } := by
  obtain ⟨hfits, hnames⟩ := Bool.and_eq_true_iff.mp hok
  obtain ⟨cidr, hcidr, hkea⟩ := Option.bind_eq_some_iff.mp hsubnet
  obtain rfl := Option.some.inj hkea
  refine ⟨h.device, h.interface, fun network hmem other hother heq => ?_,
    fun network hmem device hdevice hparent htag name iface hget hon => ?_⟩
  · rcases List.mem_append.mp hother with hold | hnew
    · exact h.subnet network hmem other hold heq
    · obtain rfl := List.mem_singleton.mp hnew
      obtain ⟨current, hcurrent, -, -, hnetwork⟩ := exists_isFor_of_shares hfits hmem
        (decide_eq_true (Or.inr (Or.inr (hcidr.trans (congrArg some heq)))))
      exact ⟨current, hcurrent, Option.some.inj (hnetwork.symm.trans hcidr) ▸ heq⟩
  · have hcurrent := h.reused network hmem device hdevice hparent htag name iface hget hon
    refine ⟨hcurrent.address, fun other hother hdescription => ?_⟩
    rcases List.mem_append.mp hother with hold | hnew
    · exact hcurrent.subnets other hold hdescription
    · obtain rfl := List.mem_singleton.mp hnew
      have hlisted := mem_reusedOn hdevice hparent hmem htag
      rw [← hon] at hlisted
      have hown : device.tag = task.vlanTag := by
        by_contra hne
        have hnot := Table.first?_eq_none_iff.mp (Option.isNone_iff_eq_none.mp hnames) name iface hget
        refine of_decide_eq_false hnot ⟨hdescription.symm, ?_⟩
        exact List.any_eq_true.mpr ⟨device, hlisted, decide_eq_true hne⟩
      obtain ⟨current, hmem', hvlan, -, hnetwork⟩ :=
        exists_isFor_of_shares hfits hmem (decide_eq_true (Or.inl (hown ▸ htag)))
      exact ⟨current, hmem', hown ▸ hvlan, Option.some.inj (hcidr.symm.trans hnetwork)⟩

/-- No execution of a run that meets the condition leaves anything of a deleted network. -/
theorem NoLeftovers.move {phase next : Phase} (hlength : task.subnet = 24)
    (hok : harmless deleted live parentIf vm task phase = true)
    (hmove : VlanMove task parentIf vm phase next vm') : NoLeftovers deleted live parentIf vm' := by
  cases hmove with
  | addVlan => exact h.addVlan hok
  | addOpt => exact h.addOpt hlength hok
  | setAddress => exact h.setAddress hlength hok
  | addSubnet hsubnet => exact h.addSubnet hsubnet hok
  | setInterfaces =>
    -- The list of interfaces is not part of the subnets.
    exact ⟨h.device, h.interface, h.subnet, fun network hmem device hdevice hparent htag name iface
      hget hon => ⟨(h.reused network hmem device hdevice hparent htag name iface hget hon).address,
        (h.reused network hmem device hdevice hparent htag name iface hget hon).subnets⟩⟩
  | _ => exact h

end Writes

end OpnsenseVm

end ProxmoxIaas
