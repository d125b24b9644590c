import ProxmoxIaas.Foundation.Ipv4
import ProxmoxIaas.Foundation.Numerals
import ProxmoxIaas.Foundation.Table

/-!
# The Configuration of an OPNsense VM

The parts of `config.xml` that VLANs and tunnels use, the Kea DHCP settings, and the scripts and
API calls that read and edit them. A script runs under a file lock, so each is one function of
the configuration; a script that ends in `die` exits with code zero, so its caller sees no error.

## Main results

- `nextOpt_not_mem`, `nextVlanif_not_mem`: the names that are chosen are free.
-/

namespace ProxmoxIaas.OpnsenseVm

/-- A `<vlan>` entry. -/
structure VlanDevice where
  /-- The VLAN tag. -/
  tag : ℕ
  /-- The parent interface, `<if>`. -/
  parentIf : String
  /-- The name of the VLAN device. -/
  vlanif : String
  /-- Priority code point. -/
  pcp : ℕ
  /-- Protocol. -/
  proto : String
  /-- Description. -/
  descr : String
  deriving DecidableEq, Repr

/-- An entry of `<interfaces>`. The value of a missing element is the empty text. -/
structure Interface where
  /-- Description. -/
  descr : String
  /-- The device, `<if>`. -/
  device : String
  /-- Whether the interface is enabled. -/
  enable : String
  /-- Address. -/
  ipaddr : String
  /-- Prefix length; `none` if the element is missing or empty. -/
  subnet : Option ℕ
  /-- IPv6 address. -/
  ipaddrv6 : String
  /-- Whether private networks are blocked. -/
  blockpriv : String
  /-- Whether bogon networks are blocked. -/
  blockbogons : String
  deriving DecidableEq, Repr

/-- The `<vlans>` and `<interfaces>` sections of `config.xml`, in document order. -/
structure Config where
  /-- Section `<vlans>`. -/
  vlans : List VlanDevice
  /-- Section `<interfaces>`, by element name. -/
  interfaces : Table String Interface
  deriving DecidableEq

/-- A subnet of the Kea DHCP server. -/
structure KeaSubnet where
  /-- The network. -/
  subnet : String
  /-- Description. -/
  description : String
  /-- The range of addresses. -/
  pools : String
  /-- The option `routers`. -/
  routers : String
  deriving DecidableEq, Repr

/-- The settings of the Kea DHCP server. -/
structure Kea where
  /-- The subnets, in the order of their creation. -/
  subnets : List KeaSubnet
  /-- The enabled interfaces. -/
  interfaces : List String
  deriving DecidableEq, Repr

/-- What the tasks change on an OPNsense VM. -/
structure Opnsense where
  /-- `config.xml`. -/
  config : Config
  /-- The DHCP server. -/
  kea : Kea
  deriving DecidableEq

/-! ## Fresh names -/

/-- The digits that the pattern `word(\d+)$` finds in a name; `$` also matches in front of a
newline at the end. -/
def digitsAfter (word name : String) : Option (List Char) :=
  if Text.startsWith name word then
    let rest := name.toList.drop word.toList.length
    let digits := if rest.getLast? = some '\n' then rest.dropLast else rest
    if digits ≠ [] ∧ digits.all fun c => (Text.digit? c).isSome then some digits else none
  else none

/-- One more than the largest number, or one. -/
def nextNumber (numbers : List ℕ) : ℕ :=
  match numbers.max? with
  | some n => n + 1
  | none => 1

/-- A name with a number, which may have at most 4300 digits. -/
def numbered (word : String) (width n : ℕ) : Option String :=
  let digits := Text.digits n
  if digits.length ≤ Text.maxStrDigits then
    some (.ofList (word.toList ++ List.replicate (width - digits.length) '0' ++ digits))
  else none

/-- `_next_vlanif`; `none` is a `ValueError` for a number with too many digits. -/
def nextVlanif (existingVlanifs : List String) : Option String := do
  let numbers ← (existingVlanifs.filterMap (digitsAfter "vlan")).mapM Text.decimal?
  numbered "vlan" 2 (nextNumber numbers)

/-- `_next_opt` of the VLAN tasks. -/
def nextOpt (existingIfaceNames : List String) : Option String := do
  let numbers ← (existingIfaceNames.filterMap (digitsAfter "opt")).mapM Text.decimal?
  numbered "opt" 1 (nextNumber numbers)

/-- One more than the largest integer, or one. -/
def nextInteger (numbers : List ℤ) : ℤ :=
  match numbers.max? with
  | some n => n + 1
  | none => 1

/-- `_next_opt` of the WireGuard tasks: what follows `opt` is read as an integer, and names for
which that fails are skipped. -/
def nextOptWireguard (existingIfaceNames : List String) : Option String :=
  let numbers := existingIfaceNames.filterMap fun name =>
    if Text.startsWith name "opt" then Text.integer? (name.toList.drop 3) else none
  let n := nextInteger numbers
  if (Text.digits n.natAbs).length ≤ Text.maxStrDigits then some ("opt" ++ toString n) else none

/-- The numbers of a list of numerals include the number of each. -/
theorem mem_of_mapM_eq_some {texts : List (List Char)} {numbers : List ℕ}
    (h : texts.mapM Text.decimal? = some numbers) {text : List Char} (hmem : text ∈ texts) {n : ℕ}
    (hn : Text.decimal? text = some n) : n ∈ numbers := by
  have hvalue : Text.decimal? text ∈ numbers.map some :=
    Option.mapM_eq_some_iff.mp h ▸ List.mem_map_of_mem hmem
  rwa [hn, List.mem_map_of_injective (Option.some_injective _)] at hvalue

/-- The next number is larger than all numbers. -/
theorem lt_nextNumber {numbers : List ℕ} {n : ℕ} (h : n ∈ numbers) : n < nextNumber numbers := by
  unfold nextNumber
  split
  case h_1 m hmax => exact Nat.lt_succ_of_le ((List.max?_le_iff hmax).mp le_rfl n h)
  case h_2 hmax => simp [List.max?_eq_none_iff.mp hmax] at h

/-- The number of a numbered name is found again. -/
theorem digitsAfter_numbered {word name : String} {width n : ℕ} (hwidth : width ≤ 2)
    (h : numbered word width n = some name) :
    ∃ digits, digitsAfter word name = some digits ∧ Text.decimal? digits = some n := by
  simp only [numbered] at h
  split at h
  case isFalse => cases h
  case isTrue hlength =>
    obtain rfl := Option.some.inj h
    have hlimit : width - (Text.digits n).length + (Text.digits n).length ≤ Text.maxStrDigits := by
      have : 2 ≤ Text.maxStrDigits := by decide
      omega
    refine ⟨_, ?_, Text.decimal?_replicate_append_digits _ hlimit⟩
    generalize width - (Text.digits n).length = zeros
    have hdigit : ∀ c ∈ List.replicate zeros '0' ++ Text.digits n, c.isDigit = true := by
      intro c hc
      rcases List.mem_append.mp hc with hc | hc
      · rw [List.eq_of_mem_replicate hc]
        rfl
      · exact Text.isDigit_of_mem_digits hc
    have hne : List.replicate zeros '0' ++ Text.digits n ≠ [] :=
      List.append_ne_nil_of_right_ne_nil _ Nat.toDigits_ne_nil
    have hlast : (List.replicate zeros '0' ++ Text.digits n).getLast? ≠ some '\n' := fun hlast =>
      absurd (hdigit _ (List.mem_of_getLast? hlast)) (by decide)
    have hall : ∀ c ∈ List.replicate zeros '0' ++ Text.digits n,
        (Text.digit? c).isSome = true := fun c hc => by
      rw [Text.digit?_of_isDigit (hdigit c hc)]
      rfl
    have hstart : Text.startsWith (.ofList (word.toList ++ List.replicate zeros '0' ++
        Text.digits n)) word = true := by
      simp [Text.startsWith, List.append_assoc]
    rw [digitsAfter, if_pos hstart]
    simp only [String.toList_ofList, List.append_assoc, List.drop_left]
    rw [if_neg hlast, if_pos ⟨hne, List.all_eq_true.mpr hall⟩]

/-- A numbered name starts with its word. -/
theorem startsWith_numbered {word name : String} {width n : ℕ}
    (h : numbered word width n = some name) : Text.startsWith name word = true := by
  simp only [numbered] at h
  split at h
  case isFalse => cases h
  case isTrue =>
    obtain rfl := Option.some.inj h
    simp [Text.startsWith, List.append_assoc]

/-- `_next_opt` returns a name that is not in use. -/
theorem nextOpt_not_mem {names : List String} {opt : String} (h : nextOpt names = some opt) :
    opt ∉ names := by
  simp only [nextOpt, Option.bind_eq_bind, Option.bind_eq_some_iff] at h
  obtain ⟨numbers, hnumbers, hopt⟩ := h
  obtain ⟨digits, hdigits, hvalue⟩ := digitsAfter_numbered (by decide) hopt
  intro hmem
  have hdigitsmem := List.mem_filterMap.mpr ⟨opt, hmem, hdigits⟩
  exact Nat.lt_irrefl _ (lt_nextNumber (mem_of_mapM_eq_some hnumbers hdigitsmem hvalue))

/-- `_next_vlanif` returns a name that starts with `vlan`. -/
theorem startsWith_nextVlanif {vlanifs : List String} {vlanif : String}
    (h : nextVlanif vlanifs = some vlanif) : Text.startsWith vlanif "vlan" = true := by
  simp only [nextVlanif, Option.bind_eq_bind, Option.bind_eq_some_iff] at h
  obtain ⟨numbers, -, hvlanif⟩ := h
  exact startsWith_numbered hvlanif

/-- `_next_vlanif` returns a name that is not in use. -/
theorem nextVlanif_not_mem {vlanifs : List String} {vlanif : String}
    (h : nextVlanif vlanifs = some vlanif) : vlanif ∉ vlanifs := by
  simp only [nextVlanif, Option.bind_eq_bind, Option.bind_eq_some_iff] at h
  obtain ⟨numbers, hnumbers, hvlanif⟩ := h
  obtain ⟨digits, hdigits, hvalue⟩ := digitsAfter_numbered (by decide) hvlanif
  intro hmem
  have hdigitsmem := List.mem_filterMap.mpr ⟨vlanif, hmem, hdigits⟩
  exact Nat.lt_irrefl _ (lt_nextNumber (mem_of_mapM_eq_some hnumbers hdigitsmem hvalue))

/-! ## Reading and editing the configuration -/

/-- `get_interface_names`. -/
def getInterfaceNames (config : Config) : List String := config.interfaces.keys

/-- `get_opt_for_vlanif`: the first interface on a device. -/
def getOptForVlanif (config : Config) (vlanif : String) : Option String :=
  (config.interfaces.first? fun _ iface => iface.device = vlanif).map (·.1)

/-- `get_interface_ip_and_subnet`. The outer `none` is the `ValueError` of an interface without a
prefix length, the inner one is an interface that does not exist. -/
def getInterfaceIpAndSubnet (config : Config) (opt : String) : Option (Option (String × ℕ)) :=
  match config.interfaces.get? opt with
  | none => some none
  | some iface => iface.subnet.map fun subnet => some (iface.ipaddr, subnet)

/-- Write a device over the first one with its tag and parent, or after all others. -/
def upsertVlan (device : VlanDevice) : List VlanDevice → List VlanDevice
  | [] => [device]
  | other :: others =>
    if other.parentIf = device.parentIf ∧ other.tag = device.tag then device :: others
    else other :: upsertVlan device others

/-- The script of `add_vlan_device`. -/
def addVlanDevice (config : Config) (tag : ℕ) (parentIf vlanif descr : String) : Config :=
  { config with
    vlans := upsertVlan { tag, parentIf, vlanif, pcp := 0, proto := "", descr } config.vlans }

/-- The written device is among the devices. -/
theorem device_mem_upsertVlan (device : VlanDevice) (vlans : List VlanDevice) :
    device ∈ upsertVlan device vlans := by
  induction vlans with
  | nil => exact List.mem_cons_self
  | cons other others ih =>
    unfold upsertVlan
    split
    case isTrue => exact List.mem_cons_self
    case isFalse => exact List.mem_cons_of_mem _ ih

/-- The other devices were there before. -/
theorem mem_of_mem_upsertVlan {device other : VlanDevice} {vlans : List VlanDevice}
    (h : other ∈ upsertVlan device vlans) : other = device ∨ other ∈ vlans := by
  induction vlans with
  | nil => exact Or.inl (List.mem_singleton.mp h)
  | cons first rest ih =>
    unfold upsertVlan at h
    split at h
    case isTrue => exact (List.mem_cons.mp h).imp_right (List.mem_cons_of_mem _)
    case isFalse =>
      rcases List.mem_cons.mp h with rfl | h
      · exact Or.inr List.mem_cons_self
      · exact (ih h).imp_right (List.mem_cons_of_mem _)

/-- Only a device with the same tag and parent is written over. -/
theorem mem_upsertVlan_of_mem {device other : VlanDevice} {vlans : List VlanDevice}
    (h : other ∈ vlans) : other ∈ upsertVlan device vlans ∨
      (other.parentIf = device.parentIf ∧ other.tag = device.tag) := by
  induction vlans with
  | nil => cases h
  | cons first rest ih =>
    unfold upsertVlan
    rcases List.mem_cons.mp h with rfl | h
    · split
      case isTrue hsame => exact Or.inr hsame
      case isFalse => exact Or.inl List.mem_cons_self
    · split
      case isTrue => exact Or.inl (List.mem_cons_of_mem _ h)
      case isFalse => exact (ih h).imp_left (List.mem_cons_of_mem _)

/-- `verify_vlan_exists`. -/
def verifyVlanExists (config : Config) (tag : ℕ) (parentIf vlanif : String) : Bool :=
  config.vlans.any fun device =>
    device.tag = tag ∧ device.parentIf = parentIf ∧ device.vlanif = vlanif

/-- The script of `add_opt_interface`: every element is set, whether the entry is new or not. -/
def addOptInterface (config : Config) (opt vlanif ip : String) (subnet : ℕ) (descr : String) :
    Config :=
  let iface : Interface := {
    descr := if descr = "" then Text.upper opt else descr
    device := vlanif
    enable := "1"
    ipaddr := ip
    subnet := some subnet
    ipaddrv6 := ""
    blockpriv := "0"
    blockbogons := "0" }
  { config with
    interfaces := match config.interfaces.get? opt with
      | none => config.interfaces.append opt iface
      | some _ => config.interfaces.modify opt fun _ => iface }

@[simp]
theorem get?_addOptInterface (config : Config) (opt vlanif ip : String) (subnet : ℕ)
    (descr name : String) :
    (addOptInterface config opt vlanif ip subnet descr).interfaces.get? name =
      if name = opt then some {
        descr := if descr = "" then Text.upper opt else descr
        device := vlanif
        enable := "1"
        ipaddr := ip
        subnet := some subnet
        ipaddrv6 := ""
        blockpriv := "0"
        blockbogons := "0" }
      else config.interfaces.get? name := by
  unfold addOptInterface
  cases hopt : config.interfaces.get? opt with
  | none => simp
  | some iface =>
    rw [Table.get?_modify]
    split
    case isTrue hname => rw [hname, hopt, Option.map_some]
    case isFalse => rfl

/-- `verify_opt_exists`. -/
def verifyOptExists (config : Config) (opt vlanif ip : String) : Bool :=
  (config.interfaces.get? opt).any fun iface => iface.device = vlanif ∧ iface.ipaddr = ip

/-- The script of `set_interface_ip`; it ends without an edit if there is no such interface. -/
def setInterfaceIp (config : Config) (opt ip : String) (subnet : ℕ) : Config :=
  { config with
    interfaces := config.interfaces.modify opt fun iface =>
      { iface with ipaddr := ip, subnet := some subnet } }

@[simp]
theorem get?_setInterfaceIp (config : Config) (opt ip : String) (subnet : ℕ) (name : String) :
    (setInterfaceIp config opt ip subnet).interfaces.get? name =
      if name = opt then (config.interfaces.get? name).map fun iface =>
        { iface with ipaddr := ip, subnet := some subnet }
      else config.interfaces.get? name :=
  Table.get?_modify ..

/-- `verify_interface_ip`. -/
def verifyInterfaceIp (config : Config) (opt ip : String) (subnet : ℕ) : Bool :=
  (config.interfaces.get? opt).any fun iface => iface.ipaddr = ip ∧ iface.subnet = some subnet

/-- The script of `remove_vlan`: the first device with the tag is removed, and the first interface
on it. Without a parent every device with the tag matches. -/
def removeVlan (config : Config) (vlanTag : ℕ) (parentIf : String) : Config :=
  let found (device : VlanDevice) : Bool :=
    device.tag = vlanTag ∧ (parentIf = "" ∨ device.parentIf = parentIf)
  match config.vlans.find? found with
  | none => config
  | some device =>
    { vlans := config.vlans.eraseP found
      interfaces := match getOptForVlanif config device.vlanif with
        | none => config.interfaces
        | some opt => config.interfaces.erase opt }

/-! ## The DHCP server -/

/-- `add_subnet`: each call creates an entry. -/
def Kea.addSubnet (kea : Kea) (subnet : KeaSubnet) : Kea :=
  { kea with subnets := kea.subnets ++ [subnet] }

/-- `set` with a list of interfaces. -/
def Kea.setInterfaces (kea : Kea) (interfaces : List String) : Kea := { kea with interfaces }

end ProxmoxIaas.OpnsenseVm
