import ProxmoxIaas.Foundation.Lines
import ProxmoxIaas.OpnsenseVm.Config
import ProxmoxIaas.OpnsenseVm.ConfigEdits
import Mathlib.Data.List.ReduceOption

/-!
# The Configuration as a Document

The scripts of `OPNsenseConfigInVM` read and edit `config.xml` as a tree of elements, and print what
they found, which is taken apart again. The tasks are modelled over a configuration of records. Here
a document represents such a configuration: its sections hold one element for each record.

## Main results

- `Represents.answer`: a request is answered for a document as for the configuration that it
  represents, and what it leaves is represented again.
- `run_answers`: whoever makes the requests cannot tell the two apart.
-/

namespace ProxmoxIaas.Documents

open OpnsenseVm (Config VlanDevice Interface)
open ConfigEdits (IntCast entries editSection isVlan vlanFields hasTag isOn isInert isXmlChar
  isXmlName)

/-! ## Requests -/

/-- What the tasks ask of the configuration file: calls of functions that read, and the scripts that
write. -/
inductive Request where
  | getVlanList
  | getInterfaceNames
  | getOptForVlanif (vlanif : String)
  | getInterfaceIpAndSubnet (opt : String)
  | verifyVlanExists (tag : ℕ) (parentIf vlanif : String)
  | verifyOptExists (opt vlanif ip : String)
  | verifyVlanRemoved (tag : ℕ) (parentIf : String)
  | verifyInterfaceIp (opt ip : String) (subnet : ℕ)
  /-- The script of `add_vlan_device`. -/
  | addVlanDevice (tag : ℕ) (parentIf vlanif descr : String)
  /-- The script of `add_opt_interface`. -/
  | addOptInterface (opt vlanif ip : String) (subnet : ℕ) (descr : String)
  /-- The script of `set_interface_ip`. -/
  | setInterfaceIp (opt ip : String) (subnet : ℕ)
  /-- The script of `remove_vlan`. -/
  | removeVlan (vlanTag : ℕ) (parentIf : String)

/-- A VLAN in the list of `get_vlan_list`. -/
structure ListedVlan where
  tag : ℤ
  parentIf : String
  vlanif : String
  descr : String
  deriving DecidableEq, Repr

/-- What a request returns. -/
inductive Answer where
  | vlans (vlans : List ListedVlan)
  | names (names : List String)
  /-- A name, if there is one. -/
  | name (name : Option String)
  /-- An address and the length of its prefix. -/
  | address (ip : Option String) (subnet : Option ℤ)
  | done
  | failed
  deriving DecidableEq, Repr

/-- A check that raises an exception if it fails. -/
def Answer.ofCheck (passed : Bool) : Answer := if passed then .done else .failed

/-! ## The document -/

/-- The entries for VLANs. -/
def vlans (document : List Xml) : List Xml :=
  (entries "vlans" document).filter (Xml.isElement "vlan")

/-- The interfaces. -/
def interfaces (document : List Xml) : List Xml :=
  (entries "interfaces" document).filter Xml.isNamed

/-- The name of an element. -/
def elementName : Xml → String
  | .element name _ _ => name
  | .text _ | .comment _ => ""

/-- The line that is printed for a VLAN. -/
def vlanLine (v : Xml) : List Char :=
  Text.join '|' [(v.property "tag").toList, (v.property "if").toList, (v.property "vlanif").toList,
    (v.property "descr").toList]

/-- The VLAN of a line, if it is one; the outer `none` is a `ValueError`. -/
def listedVlan (line : List Char) : Option (Option ListedVlan) :=
  if Text.trim line = [] then some none
  else match Text.splitUpTo '|' 3 line with
    | [tag, parentIf, vlanif, descr] =>
      if Text.trim tag = [] then some none
      else (Text.integer? tag).map fun tag =>
        some { tag, parentIf := .ofList parentIf, vlanif := .ofList vlanif, descr := .ofList descr }
    | _ => some none

/-- `get_vlan_list`. -/
def getVlanList (document : List Xml) : Option (List ListedVlan) :=
  let raw := Text.trim (Text.join '\n' ((vlans document).map vlanLine))
  ((Text.splitLines raw).mapM listedVlan).map List.reduceOption

/-- `get_interface_names`. -/
def getInterfaceNames (document : List Xml) : List String :=
  let raw := Text.trim (Text.join ',' ((interfaces document).map fun iface =>
    (elementName iface).toList))
  ((Text.split ',' raw).filter fun name => Text.trim name ≠ []).map .ofList

/-- `raw.strip() or None`. -/
def stripOrNone (raw : List Char) : Option String :=
  if Text.trim raw = [] then none else some (.ofList (Text.trim raw))

/-- `get_opt_for_vlanif`. -/
def getOptForVlanif (document : List Xml) (vlanif : String) : Option String :=
  stripOrNone (match (interfaces document).find? fun iface => iface.property "if" = vlanif with
    | some iface => (elementName iface).toList
    | none => [])

/-- The first interface with a name. -/
def interface? (document : List Xml) (opt : String) : Option Xml :=
  (interfaces document).find? (Xml.isElement opt)

/-- The address and the length of the prefix that are printed; `none` is a `ValueError`. -/
def addressOf (raw : List Char) : Option (Option String × Option ℤ) :=
  if raw = [] then some (none, none)
  else match Text.split '|' raw with
    | ip :: subnet :: _ => (Text.integer? subnet).map fun subnet => (some (.ofList ip), some subnet)
    | parts => some (parts.head?.map .ofList, none)

/-- `get_interface_ip_and_subnet`. -/
def getInterfaceIpAndSubnet (document : List Xml) (opt : String) :
    Option (Option String × Option ℤ) :=
  addressOf (Text.trim (match interface? document opt with
    | some iface => (iface.property "ipaddr").toList ++ '|' :: (iface.property "subnet").toList
    | none => []))

/-- `verify_vlan_exists`. -/
def verifyVlanExists (cast : IntCast) (document : List Xml) (tag : ℤ) (parentIf vlanif : String) :
    Bool :=
  (vlans document).any fun v => cast.toInt (v.property "tag") = tag && v.property "if" = parentIf &&
    v.property "vlanif" = vlanif

/-- `verify_opt_exists`. -/
def verifyOptExists (document : List Xml) (opt vlanif ip : String) : Bool :=
  (interface? document opt).any fun iface =>
    iface.property "if" = vlanif && iface.property "ipaddr" = ip

/-- `verify_vlan_removed`. -/
def verifyVlanRemoved (cast : IntCast) (document : List Xml) (tag : ℤ) (parentIf : String) : Bool :=
  !(vlans document).any fun v => cast.toInt (v.property "tag") = tag && v.property "if" = parentIf

/-- `verify_interface_ip`. -/
def verifyInterfaceIp (cast : IntCast) (document : List Xml) (opt ip : String) (subnet : ℤ) :
    Bool :=
  (interface? document opt).any fun iface =>
    iface.property "ipaddr" = ip && cast.toInt (iface.property "subnet") = subnet

/-- The properties that `set_interface_ip` assigns. -/
def addressFields (ip : String) (subnet : ℤ) : List (String × String) :=
  [("ipaddr", ip), ("subnet", toString subnet)]

/-- The script of `set_interface_ip`, which ends early if there is no such interface. -/
def setInterfaceIp (document : List Xml) (opt ip : String) (subnet : ℤ) : List Xml :=
  editSection "interfaces" (FirstMatch.modify (Xml.isElement opt)
    (Xml.assignAll (addressFields ip subnet))) document

/-- Python's `upper`, as far as names of interfaces need it. -/
def upper (text : List Char) : List Char := text.map Char.toUpper

/-- Answer a request for a document. -/
def answer (cast : IntCast) (document : List Xml) : Request → Answer × List Xml
  | .getVlanList => ((getVlanList document).elim .failed .vlans, document)
  | .getInterfaceNames => (.names (getInterfaceNames document), document)
  | .getOptForVlanif vlanif => (.name (getOptForVlanif document vlanif), document)
  | .getInterfaceIpAndSubnet opt =>
    ((getInterfaceIpAndSubnet document opt).elim .failed fun current =>
      .address current.1 current.2, document)
  | .verifyVlanExists tag parentIf vlanif =>
    (.ofCheck (verifyVlanExists cast document tag parentIf vlanif), document)
  | .verifyOptExists opt vlanif ip => (.ofCheck (verifyOptExists document opt vlanif ip), document)
  | .verifyVlanRemoved tag parentIf =>
    (.ofCheck (verifyVlanRemoved cast document tag parentIf), document)
  | .verifyInterfaceIp opt ip subnet =>
    (.ofCheck (verifyInterfaceIp cast document opt ip subnet), document)
  | .addVlanDevice tag parentIf vlanif descr =>
    (.done, ConfigEdits.addVlanDevice cast document tag parentIf vlanif descr)
  | .addOptInterface opt vlanif ip subnet descr =>
    (.done, ConfigEdits.addOptInterface upper document opt vlanif ip subnet descr true)
  | .setInterfaceIp opt ip subnet => (.done, setInterfaceIp document opt ip subnet)
  | .removeVlan vlanTag parentIf => (.done, ConfigEdits.removeVlan cast document vlanTag parentIf)

/-! ## The configuration -/

/-- A VLAN as it is listed. -/
def ListedVlan.ofDevice (device : VlanDevice) : ListedVlan where
  tag := device.tag
  parentIf := device.parentIf
  vlanif := device.vlanif
  descr := device.descr

/-- Answer a request for a configuration. -/
def configAnswer (config : Config) : Request → Answer × Config
  | .getVlanList => (.vlans (config.vlans.map .ofDevice), config)
  | .getInterfaceNames => (.names (OpnsenseVm.getInterfaceNames config), config)
  | .getOptForVlanif vlanif => (.name (OpnsenseVm.getOptForVlanif config vlanif), config)
  | .getInterfaceIpAndSubnet opt =>
    (match OpnsenseVm.getInterfaceIpAndSubnet config opt with
      | none => .failed
      | some none => .address none none
      | some (some current) => .address (some current.1) (some current.2), config)
  | .verifyVlanExists tag parentIf vlanif =>
    (.ofCheck (OpnsenseVm.verifyVlanExists config tag parentIf vlanif), config)
  | .verifyOptExists opt vlanif ip =>
    (.ofCheck (OpnsenseVm.verifyOptExists config opt vlanif ip), config)
  | .verifyVlanRemoved tag parentIf =>
    (.ofCheck (!config.vlans.any fun device => device.tag = tag ∧ device.parentIf = parentIf),
      config)
  | .verifyInterfaceIp opt ip subnet =>
    (.ofCheck (OpnsenseVm.verifyInterfaceIp config opt ip subnet), config)
  | .addVlanDevice tag parentIf vlanif descr =>
    (.done, OpnsenseVm.addVlanDevice config tag parentIf vlanif descr)
  | .addOptInterface opt vlanif ip subnet descr =>
    (.done, OpnsenseVm.addOptInterface config opt vlanif ip subnet descr)
  | .setInterfaceIp opt ip subnet => (.done, OpnsenseVm.setInterfaceIp config opt ip subnet)
  | .removeVlan vlanTag parentIf => (.done, OpnsenseVm.removeVlan config vlanTag parentIf)

/-! ## Representation -/

/-- A text that is found again in a line. -/
def IsField (text : String) : Prop :=
  ∀ c ∈ text.toList, c ≠ '|' ∧ Text.isLineBreak c = false

/-- A text that is found again at the end of a line. -/
def IsLastField (text : String) : Prop :=
  (∀ c ∈ text.toList, Text.isLineBreak c = false) ∧
    ∀ c ∈ text.toList.getLast?, Text.isSpace c = false

/-- A text that is found again in front of the length of a prefix. -/
def IsAddress (text : String) : Prop := '|' ∉ text.toList ∧ Text.IsTight text.toList

/-- A name of an element that is found again in a list of names. -/
def IsName (name : String) : Prop :=
  isXmlName name.toList = true ∧ ∀ c ∈ name.toList, Text.isSpace c = false

/-- The properties of a VLAN. -/
def deviceFields (device : VlanDevice) : List (String × String) :=
  [("if", device.parentIf), ("tag", toString (device.tag : ℤ)), ("pcp", toString (device.pcp : ℤ)),
    ("proto", device.proto), ("descr", device.descr), ("vlanif", device.vlanif)]

/-- An entry for a VLAN. -/
structure HoldsVlan (v : Xml) (device : VlanDevice) : Prop where
  element : v.isElement "vlan" = true
  fields : v.HasFields (deviceFields device)
  /-- PHP has the tag. -/
  tag : device.tag < 2 ^ 63
  /-- The parent interface is found again. -/
  parentIf : IsField device.parentIf
  /-- The device is found again. -/
  vlanif : IsField device.vlanif
  /-- The description is found again. -/
  descr : IsLastField device.descr

/-- The length of a prefix as it is written. -/
def subnetText (subnet : Option ℕ) : String := subnet.elim "" fun n => toString (n : ℤ)

/-- The properties of an interface. -/
def interfaceFields (iface : Interface) : List (String × String) :=
  [("descr", iface.descr), ("if", iface.device), ("enable", iface.enable),
    ("ipaddr", iface.ipaddr), ("subnet", subnetText iface.subnet), ("ipaddrv6", iface.ipaddrv6),
    ("blockpriv", iface.blockpriv), ("blockbogons", iface.blockbogons)]

/-- An element for an interface. -/
structure HoldsInterface (node : Xml) (row : Σ _ : String, Interface) : Prop where
  /-- It has the name of the interface. -/
  element : node.isElement row.1 = true
  fields : node.HasFields (interfaceFields row.2)
  /-- PHP has the length of the prefix. -/
  subnet : ∀ n ∈ row.2.subnet, n < 2 ^ 63
  /-- The address is found again. -/
  ipaddr : IsAddress row.2.ipaddr
  /-- The name is found again. -/
  name : IsName row.1

/-- A document whose sections hold a configuration. -/
structure Represents (document : List Xml) (config : Config) : Prop where
  /-- There is a section for interfaces. -/
  isSection : document.any (Xml.isElement "interfaces") = true
  /-- The VLANs, in their order. -/
  vlans : List.Forall₂ HoldsVlan (vlans document) config.vlans
  /-- The interfaces, in their order. -/
  interfaces : List.Forall₂ HoldsInterface (interfaces document) config.interfaces.entries

/-- The texts that a script takes between quotes of both kinds. -/
def Request.names : Request → List String
  | .getVlanList | .getInterfaceNames => []
  | .getOptForVlanif vlanif => [vlanif]
  | .getInterfaceIpAndSubnet opt => [opt]
  | .verifyVlanExists _ parentIf vlanif => [parentIf, vlanif]
  | .verifyOptExists opt vlanif ip => [opt, vlanif, ip]
  | .verifyVlanRemoved _ parentIf => [parentIf]
  | .verifyInterfaceIp opt ip _ => [opt, ip]
  | .addVlanDevice _ parentIf vlanif _ => [parentIf, vlanif]
  | .addOptInterface opt vlanif ip _ _ => [opt, vlanif, ip]
  | .setInterfaceIp opt ip _ => [opt, ip]
  | .removeVlan _ parentIf => [parentIf]

/-- The description that a script takes between single quotes. -/
def Request.descr : Request → String
  | .addVlanDevice _ _ _ descr | .addOptInterface _ _ _ _ descr => descr
  | _ => ""

/-- The scripts take the texts as they are, and the file can hold them. -/
structure Request.IsVerbatim (request : Request) : Prop where
  /-- Names have neither quotes nor backslashes nor dollar signs. -/
  names : ∀ text ∈ request.names, ∀ c ∈ text.toList, isInert c = true ∧ isXmlChar c = true
  /-- The description has neither quotes nor backslashes. -/
  descr : ∀ c ∈ request.descr.toList, c ≠ '\'' ∧ c ≠ '\\' ∧ isXmlChar c = true

/-- What is written can be read back. -/
def Request.IsReadable : Request → Prop
  | .verifyInterfaceIp _ _ subnet => 0 < subnet
  | .addVlanDevice tag parentIf vlanif descr =>
    tag < 2 ^ 63 ∧ IsField parentIf ∧ IsField vlanif ∧ IsLastField descr
  | .addOptInterface opt _ ip subnet _ => IsName opt ∧ IsAddress ip ∧ subnet < 2 ^ 63
  | .setInterfaceIp _ ip subnet => IsAddress ip ∧ subnet < 2 ^ 63
  | _ => True

/-- Requests that the scripts can answer. -/
structure Request.IsPlain (request : Request) : Prop where
  /-- The script is the one that is meant. -/
  isVerbatim : request.IsVerbatim
  /-- What is written can be read back. -/
  isReadable : request.IsReadable

/-- The answers to the first requests of a client, which sees the answers so far, and what is left
after them. -/
def run {σ : Type} (step : σ → Request → Answer × σ) (client : List Answer → Request) :
    ℕ → σ → List Answer × σ
  | 0, s => ([], s)
  | n + 1, s =>
    let (answers, s) := run step client n s
    let (answer, s) := step s (client answers)
    (answers ++ [answer], s)

section Rows

variable {κ α : Type*} [DecidableEq κ] {rows : List (Σ _ : κ, α)}

omit [DecidableEq κ] in
theorem fst_ne_of_nodupKeys {row : Σ _ : κ, α} (h : (row :: rows).NodupKeys) :
    ∀ other ∈ rows, other.1 ≠ row.1 := fun other hother heq => by
  have hkeys := List.nodupKeys_cons.mp h
  exact hkeys.1 (heq ▸ List.mem_keys_of_mem hother)

/-- A write to the row of a key is one to the first row with it. -/
theorem map_eq_modify (h : rows.NodupKeys) (k : κ) (f : α → α) :
    (rows.map fun row => (⟨row.1, if row.1 = k then f row.2 else row.2⟩ : Σ _ : κ, α)) =
      FirstMatch.modify (fun row => row.1 = k) (fun row => ⟨row.1, f row.2⟩) rows := by
  induction rows with
  | nil => rfl
  | cons row rows ih =>
    rw [List.map_cons, FirstMatch.modify]
    by_cases hrow : row.1 = k
    · have hrest : rows.map (fun row => (⟨row.1, if row.1 = k then f row.2 else row.2⟩ :
          Σ _ : κ, α)) = rows := by
        conv_rhs => rw [← List.map_id rows]
        refine List.map_congr_left fun other hother => ?_
        rw [if_neg fun heq => fst_ne_of_nodupKeys h other hother (heq.trans hrow.symm), id]
      rw [hrest, if_pos hrow, if_pos (decide_eq_true hrow)]
    · rw [ih (List.nodupKeys_cons.mp h).2, if_neg hrow, if_neg (by simpa using hrow)]

/-- The first row that is removed is removed by its key. -/
theorem eraseP_eq_kerase (h : rows.NodupKeys) (p : (Σ _ : κ, α) → Bool) :
    rows.eraseP p = (rows.find? p).elim rows fun row => rows.kerase row.1 := by
  induction rows with
  | nil => rfl
  | cons row rows ih =>
    by_cases hrow : p row = true
    · rw [List.eraseP_cons_of_pos hrow, List.find?_cons_of_pos hrow, Option.elim_some,
        List.kerase_cons_eq rfl]
    · rw [List.eraseP_cons_of_neg hrow, List.find?_cons_of_neg hrow,
        ih (List.nodupKeys_cons.mp h).2]
      cases hfind : rows.find? p with
      | none => rfl
      | some other =>
        have hne := fst_ne_of_nodupKeys h other (List.mem_of_find?_eq_some hfind)
        rw [Option.elim_some, Option.elim_some, List.kerase_cons_ne hne]

theorem get?_eq_find? (t : Table κ α) (k : κ) :
    t.get? k = (t.entries.find? fun row => row.1 = k).map Sigma.snd := by
  cases hfind : t.entries.find? fun row => row.1 = k with
  | none =>
    refine Option.eq_none_iff_forall_ne_some.mpr fun a hget => ?_
    have hmem := Table.get?_eq_some_iff.mp hget
    exact List.find?_eq_none.mp hfind _ hmem (decide_eq_true rfl)
  | some row =>
    obtain ⟨k', a⟩ := row
    obtain rfl : k' = k := by simpa using List.find?_some hfind
    exact Table.get?_eq_some_iff.mpr (List.mem_of_find?_eq_some hfind)

theorem entries_upsert {t t' : Table κ α} {k : κ} {a : α}
    (hnone : t.get? k = none → t' = t.append k a)
    (hsome : ∀ a', t.get? k = some a' → t' = t.modify k fun _ => a) :
    t'.entries =
      FirstMatch.upsert (fun row => row.1 = k) (fun row => ⟨row.1, a⟩) ⟨k, a⟩ t.entries := by
  have hany : t.entries.any (fun row => row.1 = k) = (t.get? k).isSome := by
    rw [Bool.eq_iff_iff, List.any_eq_true, Option.isSome_iff_exists]
    constructor
    · rintro ⟨⟨k', a'⟩, hmem, hk⟩
      obtain rfl : k' = k := of_decide_eq_true hk
      exact ⟨a', Table.get?_eq_some_iff.mpr hmem⟩
    · rintro ⟨a', hget⟩
      exact ⟨⟨k, a'⟩, Table.get?_eq_some_iff.mp hget, decide_eq_true rfl⟩
  rw [FirstMatch.upsert, hany]
  cases hget : t.get? k with
  | none =>
    have hkeys : k ∉ t.entries.keys := fun hk => by
      have hsome := AList.lookup_isSome.mpr (AList.mem_keys.mpr hk)
      rw [show t.lookup k = none from hget] at hsome
      cases hsome
    rw [hnone hget]
    exact congrArg (· ++ [(⟨k, a⟩ : Σ _ : κ, α)]) (List.kerase_of_notMem_keys hkeys)
  | some a' =>
    rw [hsome a' hget]
    exact map_eq_modify t.nodupKeys k fun _ => a

end Rows

section Edits

variable {cast : IntCast} {document : List Xml} {config : Config}

/-- The configuration writes VLANs as the script does. -/
theorem upsertVlan_eq_upsert (device : VlanDevice) (devices : List VlanDevice) :
    OpnsenseVm.upsertVlan device devices =
      FirstMatch.upsert (fun other => other.parentIf = device.parentIf && other.tag = device.tag)
        (fun _ => device) device devices := by
  induction devices with
  | nil => rfl
  | cons other others ih =>
    rw [OpnsenseVm.upsertVlan, FirstMatch.upsert, List.any_cons, FirstMatch.modify]
    by_cases hsame : other.parentIf = device.parentIf ∧ other.tag = device.tag
    · simp [hsame]
    · have hne : (other.parentIf = device.parentIf && other.tag = device.tag : Bool) = false := by
        simpa using hsame
      rw [if_neg hsame, ih, hne, FirstMatch.upsert, Bool.false_or, if_neg Bool.false_ne_true]
      split
      case isTrue => rfl
      case isFalse => rfl

theorem toInt_tag {v : Xml} {device : VlanDevice} (h : HoldsVlan v device) :
    cast.toInt (v.property "tag") = device.tag := by
  have htag := (h.fields ("tag", toString (device.tag : ℤ)) (by simp [deviceFields])).2
  rw [htag, cast.toInt_toString _ (by simpa using h.tag)]

theorem property_of_holdsVlan {v : Xml} {device : VlanDevice} (h : HoldsVlan v device) :
    v.property "if" = device.parentIf ∧ v.property "vlanif" = device.vlanif ∧
      v.property "descr" = device.descr ∧
      v.property "tag" = toString (device.tag : ℤ) := by
  have hfields := h.fields
  simp only [Xml.HasFields, deviceFields, List.forall_mem_cons] at hfields
  obtain ⟨hif, htag, -, -, hdescr, hvlanif, -⟩ := hfields
  exact ⟨hif.2, hvlanif.2, hdescr.2, htag.2⟩

theorem isVlan_eq {v : Xml} {device : VlanDevice} (h : HoldsVlan v device) (tag : ℕ)
    (parentIf : String) :
    isVlan cast tag parentIf v = (device.parentIf = parentIf && device.tag = tag : Bool) := by
  rw [isVlan, h.element, toInt_tag h, (property_of_holdsVlan h).1, Bool.true_and]
  simp only [Int.natCast_inj]

theorem hasTag_eq {v : Xml} {device : VlanDevice} (h : HoldsVlan v device) (tag : ℕ)
    (parentIf : String) :
    hasTag cast tag parentIf v =
      decide (device.tag = tag ∧ (parentIf = "" ∨ device.parentIf = parentIf)) := by
  rw [hasTag, h.element, toInt_tag h, (property_of_holdsVlan h).1, Bool.true_and]
  simp

theorem property_of_holdsInterface {node : Xml} {row : Σ _ : String, Interface}
    (h : HoldsInterface node row) :
    node.property "if" = row.2.device ∧ node.property "ipaddr" = row.2.ipaddr ∧
      node.property "subnet" = subnetText row.2.subnet := by
  have hfields := h.fields
  simp only [Xml.HasFields, interfaceFields, List.forall_mem_cons] at hfields
  obtain ⟨-, hif, -, hipaddr, hsubnet, -⟩ := hfields
  exact ⟨hif.2, hipaddr.2, hsubnet.2⟩

theorem isElement_eq {node : Xml} {row : Σ _ : String, Interface} (h : HoldsInterface node row)
    (opt : String) : node.isElement opt = decide (row.1 = opt) := by
  have hname := h.element
  cases node with
  | text value => cases hname
  | comment value => cases hname
  | element name attributes content =>
    obtain rfl : name = row.1 := of_decide_eq_true hname
    rfl

theorem isOn_eq {node : Xml} {row : Σ _ : String, Interface} (h : HoldsInterface node row)
    (device : String) : isOn device node = decide (row.2.device = device) := by
  rw [isOn, Xml.isNamed_of_isElement h.element, (property_of_holdsInterface h).1, Bool.true_and]

/-! ### What the scripts leave -/

theorem deviceFields_new (tag : ℕ) (parentIf vlanif descr : String) :
    deviceFields { tag, parentIf, vlanif, pcp := 0, proto := "", descr } =
      vlanFields tag parentIf vlanif descr := by
  have hzero : toString ((0 : ℕ) : ℤ) = "0" := by decide
  rw [deviceFields, hzero]
  rfl

theorem vlans_addVlanDevice (tag : ℤ) (parentIf vlanif descr : String) :
    vlans (ConfigEdits.addVlanDevice cast document tag parentIf vlanif descr) =
      FirstMatch.upsert (isVlan cast tag parentIf)
        (Xml.assignAll (vlanFields tag parentIf vlanif descr)) (.element "vlan" [] [])
        (vlans document) := by
  have hvlan : ∀ v, isVlan cast tag parentIf v = true → v.isElement "vlan" = true := fun v hv =>
    (Bool.and_eq_true_iff.mp hv).1
  rw [vlans, ConfigEdits.addVlanDevice, ConfigEdits.entries_editSection ConfigEdits.any_withVlans,
    ConfigEdits.entries_withVlans, vlans]
  exact FirstMatch.filter_upsert hvlan (fun v hv => Xml.isElement_assignAll.trans (hvlan v hv))
    (Xml.isElement_assignAll.trans rfl)

theorem interfaces_addVlanDevice (tag : ℤ) (parentIf vlanif descr : String) :
    interfaces (ConfigEdits.addVlanDevice cast document tag parentIf vlanif descr) =
      interfaces document := by
  rw [interfaces, ConfigEdits.addVlanDevice, ConfigEdits.entries_editSection_of_ne (by decide),
    ConfigEdits.entries_withVlans, interfaces]

/-- The document represents the configuration with the VLAN. -/
theorem Represents.addVlanDevice (h : Represents document config) {tag : ℕ}
    {parentIf vlanif descr : String} (htag : tag < 2 ^ 63) (hparent : IsField parentIf)
    (hvlanif : IsField vlanif) (hdescr : IsLastField descr) :
    Represents (ConfigEdits.addVlanDevice cast document tag parentIf vlanif descr)
      (OpnsenseVm.addVlanDevice config tag parentIf vlanif descr) where
  isSection := by
    rw [ConfigEdits.addVlanDevice, ConfigEdits.any_editSection,
      ConfigEdits.any_withVlans_of_ne (by decide)]
    exact h.isSection
  vlans := by
    have hnew : ∀ node : Xml, node.isElement "vlan" = true →
        (∀ name ∈ (vlanFields tag parentIf vlanif descr).map Prod.fst,
          (node.children name).length ≤ 1) →
        HoldsVlan (node.assignAll (vlanFields tag parentIf vlanif descr))
          { tag, parentIf, vlanif, pcp := 0, proto := "", descr } := fun node hnode hsingle => by
      refine ⟨Xml.isElement_assignAll.trans hnode, ?_, htag, hparent, hvlanif, hdescr⟩
      rw [deviceFields_new]
      exact fun field hfield => Xml.hasField_assignAll (Xml.isNamed_of_isElement hnode)
        (ConfigEdits.nodup_vlanFields ..) hfield (hsingle _ (List.mem_map_of_mem hfield))
    have hdevices : (OpnsenseVm.addVlanDevice config tag parentIf vlanif descr).vlans =
        FirstMatch.upsert _ _ _ config.vlans := upsertVlan_eq_upsert _ _
    rw [vlans_addVlanDevice, hdevices]
    refine FirstMatch.forall₂_upsert (R := HoldsVlan)
      (fun v device hv => isVlan_eq hv tag parentIf) h.vlans
      (fun v device hv _ => hnew v hv.element fun name hname => ?_)
      (hnew (.element "vlan" [] []) rfl fun name _ => Nat.zero_le 1)
    -- the entry that is written over has each of the properties at most once
    have hsame : name ∈ (deviceFields device).map Prod.fst := hname
    obtain ⟨field, hfield, rfl⟩ := List.mem_map.mp hsame
    exact (hv.fields field hfield).1
  interfaces := by
    rw [interfaces_addVlanDevice]
    exact h.interfaces

/-- The entries for VLANs after an edit of the interfaces. -/
theorem vlans_editInterfaces (f : List Xml → List Xml) :
    vlans (editSection "interfaces" f document) = vlans document := by
  rw [vlans, ConfigEdits.entries_editSection_of_ne (by decide), vlans]

theorem interfaces_editInterfaces (h : Represents document config) (f : List Xml → List Xml) :
    interfaces (editSection "interfaces" f document) =
      (f (entries "interfaces" document)).filter Xml.isNamed := by
  rw [interfaces, ConfigEdits.entries_editSection h.isSection]

/-- The interface that `add_opt_interface` writes. -/
def newInterface (opt vlanif ip : String) (subnet : ℕ) (descr : String) : Interface where
  descr := if descr = "" then Text.upper opt else descr
  device := vlanif
  enable := "1"
  ipaddr := ip
  subnet := some subnet
  ipaddrv6 := ""
  blockpriv := "0"
  blockbogons := "0"

theorem interfaceFields_new (opt vlanif ip : String) (subnet : ℕ) (descr : String) :
    interfaceFields (newInterface opt vlanif ip subnet descr) =
      ConfigEdits.interfaceFields upper opt vlanif ip subnet descr true := by
  have hdescr : (if descr = "" then Text.upper opt else descr) =
      .ofList (OpnsenseVm.descrVal upper descr.toList opt.toList) := by
    rw [OpnsenseVm.descrVal]
    by_cases hempty : descr = ""
    · rw [if_pos hempty, if_pos (String.toList_eq_nil_iff.mpr hempty)]
      rfl
    · rw [if_neg hempty, if_neg fun hnil => hempty (String.toList_eq_nil_iff.mp hnil),
        String.ofList_toList]
  rw [interfaceFields, newInterface, hdescr]
  rfl

/-- The document represents the configuration with the interface. -/
theorem Represents.addOptInterface (h : Represents document config) {opt vlanif ip : String}
    {subnet : ℕ} {descr : String} (hopt : IsName opt) (hip : IsAddress ip)
    (hsubnet : subnet < 2 ^ 63) :
    Represents (ConfigEdits.addOptInterface upper document opt vlanif ip subnet descr true)
      (OpnsenseVm.addOptInterface config opt vlanif ip subnet descr) where
  isSection := ConfigEdits.any_editSection.trans h.isSection
  vlans := by
    rw [ConfigEdits.addOptInterface, vlans_editInterfaces]
    exact h.vlans
  interfaces := by
    have hnew : ∀ node : Xml, node.isElement opt = true →
        (∀ name ∈ (ConfigEdits.interfaceFields upper opt vlanif ip subnet descr true).map Prod.fst,
          (node.children name).length ≤ 1) →
        HoldsInterface (ConfigEdits.setInterface upper opt vlanif ip subnet descr true node)
          ⟨opt, newInterface opt vlanif ip subnet descr⟩ := fun node hnode hsingle => by
      rw [ConfigEdits.setInterface_eq]
      refine ⟨Xml.isElement_assignAll.trans hnode, ?_, fun n hn => Option.some.inj hn ▸ hsubnet,
        hip, hopt⟩
      rw [interfaceFields_new]
      exact fun field hfield => Xml.hasField_assignAll (Xml.isNamed_of_isElement hnode)
        (ConfigEdits.nodup_interfaceFields ..) hfield (hsingle _ (List.mem_map_of_mem hfield))
    rw [ConfigEdits.addOptInterface, interfaces_editInterfaces h, FirstMatch.filter_upsert]
    · have hentries : (OpnsenseVm.addOptInterface config opt vlanif ip subnet
          descr).interfaces.entries = FirstMatch.upsert _ _ _ config.interfaces.entries :=
        entries_upsert (fun hget => by rw [OpnsenseVm.addOptInterface, hget])
          fun iface hget => by rw [OpnsenseVm.addOptInterface, hget]
      rw [hentries]
      refine FirstMatch.forall₂_upsert (R := HoldsInterface)
        (fun node row hnode => isElement_eq hnode opt) h.interfaces
        (fun node row hnode hrow => ?_)
        (hnew (.element opt [] []) (decide_eq_true rfl) fun name _ => Nat.zero_le 1)
      obtain rfl : row.1 = opt := of_decide_eq_true hrow
      refine hnew node hnode.element fun name hname => ?_
      have hsame : name ∈ (interfaceFields row.2).map Prod.fst := hname
      obtain ⟨field, hfield, rfl⟩ := List.mem_map.mp hsame
      exact (hnode.fields field hfield).1
    · exact fun node hnode => Xml.isNamed_of_isElement hnode
    · intro node hnode
      rw [ConfigEdits.setInterface_eq]
      exact Xml.isNamed_assignAll.trans (Xml.isNamed_of_isElement hnode)
    · rw [ConfigEdits.setInterface_eq]
      exact Xml.isNamed_assignAll.trans rfl

/-- The document represents the configuration with the address. -/
theorem Represents.setInterfaceIp (h : Represents document config) {opt ip : String} {subnet : ℕ}
    (hip : IsAddress ip) (hsubnet : subnet < 2 ^ 63) :
    Represents (setInterfaceIp document opt ip subnet)
      (OpnsenseVm.setInterfaceIp config opt ip subnet) where
  isSection := ConfigEdits.any_editSection.trans h.isSection
  vlans := by
    rw [Documents.setInterfaceIp, vlans_editInterfaces]
    exact h.vlans
  interfaces := by
    rw [Documents.setInterfaceIp, interfaces_editInterfaces h, FirstMatch.filter_modify]
    · have hentries := map_eq_modify config.interfaces.nodupKeys opt fun iface =>
        { iface with ipaddr := ip, subnet := some subnet }
      have hmodify : (OpnsenseVm.setInterfaceIp config opt ip subnet).interfaces.entries = _ :=
        hentries
      rw [hmodify]
      refine FirstMatch.forall₂_modify (fun node row hnode => isElement_eq hnode opt) h.interfaces
        fun node row hnode _ => ?_
      refine ⟨Xml.isElement_assignAll.trans hnode.element, ?_,
        fun n hn => Option.some.inj hn ▸ hsubnet, hip, hnode.name⟩
      refine Xml.hasFields_assignAll hnode.fields (Xml.isNamed_of_isElement hnode.element)
        (by show (["ipaddr", "subnet"] : List String).Nodup; decide) ?_
      simp [interfaceFields, addressFields, subnetText]
    · exact fun node hnode => Xml.isNamed_of_isElement hnode
    · exact fun node hnode => Xml.isNamed_assignAll.trans (Xml.isNamed_of_isElement hnode)

theorem getOptForVlanif_eq_find? (config : Config) (vlanif : String) :
    OpnsenseVm.getOptForVlanif config vlanif =
      (config.interfaces.entries.find? fun row => row.2.device = vlanif).map Sigma.fst := by
  rw [OpnsenseVm.getOptForVlanif, Table.first?, Table.select, List.head?_map, List.head?_filter,
    Option.map_map]
  rfl

/-- The first interface on a device is removed by its name. -/
theorem entries_removeInterface (config : Config) (vlanif : String) :
    ((OpnsenseVm.getOptForVlanif config vlanif).elim config.interfaces
      config.interfaces.erase).entries =
      config.interfaces.entries.eraseP fun row => row.2.device = vlanif := by
  rw [eraseP_eq_kerase config.interfaces.nodupKeys, getOptForVlanif_eq_find?]
  cases config.interfaces.entries.find? fun row => row.2.device = vlanif with
  | none => rfl
  | some row => rfl

/-- The document represents the configuration without the VLAN. -/
theorem Represents.removeVlan (h : Represents document config) (tag : ℕ) (parentIf : String) :
    Represents (ConfigEdits.removeVlan cast document tag parentIf)
      (OpnsenseVm.removeVlan config tag parentIf) := by
  have hvlan : ∀ v, hasTag cast tag parentIf v = true → v.isElement "vlan" = true := fun v hv =>
    (Bool.and_eq_true_iff.mp hv).1
  have hsame : ∀ v device, HoldsVlan v device → hasTag cast tag parentIf v =
      decide (device.tag = tag ∧ (parentIf = "" ∨ device.parentIf = parentIf)) :=
    fun v device hv => hasTag_eq hv tag parentIf
  have hvlans : Documents.vlans (ConfigEdits.removeVlan cast document tag parentIf) =
      (Documents.vlans document).eraseP (hasTag cast tag parentIf) := by
    rw [Documents.vlans, ConfigEdits.entries_vlans_removeVlan, FirstMatch.filter_eraseP hvlan,
      Documents.vlans]
  have hinterfaces : Documents.interfaces (ConfigEdits.removeVlan cast document tag parentIf) =
      (ConfigEdits.eraseDevice ((Documents.vlans document).find? (hasTag cast tag parentIf))
        (entries "interfaces" document)).filter Xml.isNamed := by
    rw [Documents.interfaces, ConfigEdits.entries_interfaces_removeVlan, Documents.vlans,
      FirstMatch.find?_filter hvlan]
  have hsection : (ConfigEdits.removeVlan cast document tag parentIf).any
      (Xml.isElement "interfaces") = true := by
    rw [ConfigEdits.removeVlan_eq, ConfigEdits.any_editBoth]
    exact h.isSection
  have herase := FirstMatch.forall₂_eraseP hsame h.vlans
  rw [← hvlans] at herase
  rcases FirstMatch.find?_cases hsame h.vlans with
    ⟨hnode, hdevice⟩ | ⟨v, device, hnode, hdevice, hv⟩
  · rw [List.eraseP_of_forall_not (List.find?_eq_none.mp hdevice)] at herase
    rw [hnode] at hinterfaces
    rw [OpnsenseVm.removeVlan, hdevice]
    exact ⟨hsection, herase, hinterfaces ▸ h.interfaces⟩
  · have hon : ∀ node, isOn device.vlanif node = true → node.isNamed = true :=
      fun node hnode => (Bool.and_eq_true_iff.mp hnode).1
    have hremoved : (OpnsenseVm.removeVlan config tag parentIf).interfaces =
        (OpnsenseVm.getOptForVlanif config device.vlanif).elim config.interfaces
          config.interfaces.erase := by
      simp only [OpnsenseVm.removeVlan, hdevice]
      cases OpnsenseVm.getOptForVlanif config device.vlanif with
      | none => rfl
      | some opt => rfl
    refine ⟨hsection, ?_, ?_⟩
    · rw [OpnsenseVm.removeVlan, hdevice]
      exact herase
    · rw [hinterfaces, hnode, ConfigEdits.eraseDevice, (property_of_holdsVlan hv).2.1,
        FirstMatch.filter_eraseP hon, hremoved, entries_removeInterface]
      exact FirstMatch.forall₂_eraseP (R := HoldsInterface)
        (fun node row hnode => isOn_eq hnode device.vlanif) h.interfaces

end Edits

/-! ### What the scripts print -/

section Reads

variable {cast : IntCast} {document : List Xml} {config : Config}

theorem toList_toString (n : ℕ) : (toString (n : ℤ)).toList = Text.digits n := by
  show (toString n).toList = Text.digits n
  simp [Text.digits]

/-- No digit is white space, a separator or a line break. -/
theorem of_mem_digits {n : ℕ} {c : Char} (h : c ∈ Text.digits n) :
    Text.isSpace c = false ∧ c ≠ '|' ∧ Text.isLineBreak c = false := by
  have hdigit := Text.isDigit_of_mem_digits h
  have hsome : (Text.digit? c).isSome = true := by
    rw [Text.digit?_of_isDigit hdigit]
    rfl
  have hspace := (Text.not_isSpace_of_digit? hsome).1
  refine ⟨hspace, fun heq => absurd (heq ▸ hdigit) (by decide), ?_⟩
  -- a line break is white space
  rw [Text.isSpace, Bool.or_eq_false_iff, decide_eq_false_iff_not] at hspace
  refine decide_eq_false fun hbreak => hspace.1 ?_
  revert hbreak
  generalize c.toNat = n
  simp only [List.mem_cons, List.not_mem_nil, or_false]
  omega

/-- A number that PHP has is read back by Python. -/
theorem integer?_digits {n : ℕ} (h : n < 2 ^ 63) :
    Text.integer? (Text.digits n) = some (n : ℤ) := by
  have hlimit : (2 : ℕ) ^ 63 ≤ 10 ^ Text.maxStrDigits :=
    (Nat.pow_le_pow_left (by decide) 63).trans (Nat.pow_le_pow_right (by decide) (by decide))
  have hread := Text.integer?_toString (z := n)
    (Text.length_digits_le_iff.mpr (h.trans_le hlimit))
  rwa [toList_toString] at hread

theorem vlanLine_eq {v : Xml} {device : VlanDevice} (h : HoldsVlan v device) :
    vlanLine v = Text.join '|' [Text.digits device.tag, device.parentIf.toList,
      device.vlanif.toList, device.descr.toList] := by
  obtain ⟨hif, hvlanif, hdescr, htag⟩ := property_of_holdsVlan h
  rw [vlanLine, hif, hvlanif, hdescr, htag, toList_toString]

/-- The line of a VLAN has no white space at its ends and no line breaks. -/
theorem isTight_vlanLine {v : Xml} {device : VlanDevice} (h : HoldsVlan v device) :
    vlanLine v ≠ [] ∧ Text.IsTight (vlanLine v) ∧ ∀ c ∈ vlanLine v, Text.isLineBreak c = false := by
  have hdigits : Text.digits device.tag ≠ [] := Nat.toDigits_ne_nil
  rw [vlanLine_eq h, Text.join_cons_cons]
  refine ⟨List.append_ne_nil_of_left_ne_nil hdigits _, ⟨fun c hc => ?_, ?_⟩, fun c hc => ?_⟩
  · rw [List.head?_append_of_ne_nil _ hdigits] at hc
    exact (of_mem_digits (List.mem_of_head? hc)).1
  · -- the line ends with the description, or with the separator in front of it
    have hlast : Text.join '|' [device.descr.toList] = device.descr.toList := by simp [Text.join]
    refine Text.not_isSpace_getLast?_append_cons rfl ?_
    rw [Text.join_cons_cons]
    refine Text.not_isSpace_getLast?_append_cons rfl ?_
    rw [Text.join_cons_cons, hlast]
    exact Text.not_isSpace_getLast?_append_cons rfl h.descr.2
  · rw [← Text.join_cons_cons] at hc
    rcases Text.mem_of_mem_join hc with rfl | ⟨part, hpart, hc⟩
    · rfl
    · simp only [List.mem_cons, List.not_mem_nil, or_false] at hpart
      rcases hpart with rfl | rfl | rfl | rfl
      · exact (of_mem_digits hc).2.2
      · exact (h.parentIf c hc).2
      · exact (h.vlanif c hc).2
      · exact h.descr.1 c hc

theorem listedVlan_vlanLine {v : Xml} {device : VlanDevice} (h : HoldsVlan v device) :
    listedVlan (vlanLine v) = some (some (.ofDevice device)) := by
  obtain ⟨hne, htight, -⟩ := isTight_vlanLine h
  have htrim : Text.trim (Text.digits device.tag) = Text.digits device.tag :=
    Text.trim_of_isTight (Text.isTight_of_forall fun c hc => (of_mem_digits hc).1)
  have hfields : ∀ field ∈ [Text.digits device.tag, device.parentIf.toList, device.vlanif.toList],
      '|' ∉ field := by
    intro field hfield hc
    simp only [List.mem_cons, List.not_mem_nil, or_false] at hfield
    rcases hfield with rfl | rfl | rfl
    · exact (of_mem_digits hc).2.1 rfl
    · exact (h.parentIf _ hc).1 rfl
    · exact (h.vlanif _ hc).1 rfl
  have hsplit : Text.splitUpTo '|' 3 (vlanLine v) = [Text.digits device.tag,
      device.parentIf.toList, device.vlanif.toList, device.descr.toList] := by
    rw [vlanLine_eq h]
    exact Text.splitUpTo_join hfields device.descr.toList
  rw [listedVlan, Text.trim_of_isTight htight, if_neg hne, hsplit]
  show (if Text.trim (Text.digits device.tag) = [] then some none else _) = _
  have hne : Text.digits device.tag ≠ [] := Nat.toDigits_ne_nil
  rw [htrim, if_neg hne, integer?_digits h.tag, Option.map_some,
    String.ofList_toList, String.ofList_toList, String.ofList_toList]
  rfl

theorem getVlanList_eq (h : Represents document config) :
    getVlanList document = some (config.vlans.map .ofDevice) := by
  have hlines : ∀ line ∈ (vlans document).map vlanLine,
      line ≠ [] ∧ Text.IsTight line ∧ ∀ c ∈ line, Text.isLineBreak c = false := by
    intro line hline
    obtain ⟨v, hv, rfl⟩ := List.mem_map.mp hline
    obtain ⟨device, hdevice⟩ := FirstMatch.exists_related h.vlans v hv
    exact isTight_vlanLine hdevice
  have hlist : ((vlans document).map vlanLine).mapM listedVlan =
      some ((config.vlans.map ListedVlan.ofDevice).map some) := by
    rw [Option.mapM_eq_some_iff, List.map_map, List.map_map, List.map_map]
    exact FirstMatch.map_eq_map h.vlans fun v device hv => listedVlan_vlanLine hv
  rw [getVlanList, Text.trim_of_isTight (Text.isTight_join fun line hline =>
      ⟨(hlines line hline).1, (hlines line hline).2.1⟩),
    Text.splitLines_join fun line hline => ⟨(hlines line hline).1, (hlines line hline).2.2⟩, hlist,
    Option.map_some]
  simp [List.reduceOption]

theorem of_isName {name : String} (h : IsName name) :
    name.toList ≠ [] ∧ Text.IsTight name.toList ∧ ',' ∉ name.toList := by
  obtain ⟨hname, hspace⟩ := h
  refine ⟨fun hnil => ?_, Text.isTight_of_forall hspace, fun hcomma => ?_⟩
  · rw [hnil] at hname
    cases hname
  · -- a comma is in none of the ranges
    cases htext : name.toList with
    | nil =>
      rw [htext] at hcomma
      cases hcomma
    | cons c rest =>
      rw [htext, isXmlName, Bool.and_eq_true, List.all_eq_true] at hname
      rw [htext] at hcomma
      rcases List.mem_cons.mp hcomma with rfl | hmem
      · cases hname.1
      · cases hname.2 _ hmem

/-- The name of the element is the one of the interface. -/
theorem elementName_eq {node : Xml} {row : Σ _ : String, Interface} (h : HoldsInterface node row) :
    elementName node = row.1 := by
  have hname := h.element
  cases node with
  | text value => cases hname
  | comment value => cases hname
  | element name attributes content => exact of_decide_eq_true hname

theorem getInterfaceNames_eq (h : Represents document config) :
    getInterfaceNames document = OpnsenseVm.getInterfaceNames config := by
  have hnames : ((interfaces document).map fun iface => (elementName iface).toList) =
      config.interfaces.entries.map fun row => row.1.toList :=
    FirstMatch.map_eq_map h.interfaces fun node row hnode => by rw [elementName_eq hnode]
  have hall : ∀ name ∈ config.interfaces.entries.map fun row => row.1.toList,
      name ≠ [] ∧ Text.IsTight name ∧ ',' ∉ name := by
    rw [← hnames]
    intro name hname
    obtain ⟨node, hnode, rfl⟩ := List.mem_map.mp hname
    obtain ⟨row, hrow⟩ := FirstMatch.exists_related h.interfaces node hnode
    rw [elementName_eq hrow]
    exact of_isName hrow.name
  have hkeys : OpnsenseVm.getInterfaceNames config =
      (config.interfaces.entries.map fun row => row.1.toList).map .ofList := by
    rw [List.map_map]
    exact List.map_congr_left fun row _ => String.ofList_toList.symm
  rw [getInterfaceNames, hnames, hkeys]
  generalize config.interfaces.entries.map (fun row => row.1.toList) = names at hall
  refine congrArg (List.map String.ofList) ?_
  have htight : Text.IsTight (Text.join ',' names) := Text.isTight_join fun name hname =>
    ⟨(hall name hname).1, (hall name hname).2.1⟩
  rw [Text.trim_of_isTight htight]
  cases names with
  | nil => rfl
  | cons name names =>
    rw [Text.split_join (List.cons_ne_nil _ _) fun name hname => (hall name hname).2.2,
      List.filter_eq_self]
    intro name hname
    rw [Text.trim_of_isTight (hall name hname).2.1]
    exact decide_eq_true (hall name hname).1

theorem getOptForVlanif_eq (h : Represents document config) (vlanif : String) :
    getOptForVlanif document vlanif = OpnsenseVm.getOptForVlanif config vlanif := by
  rw [getOptForVlanif, getOptForVlanif_eq_find?]
  rcases FirstMatch.find?_cases (R := HoldsInterface)
    (p := fun iface => iface.property "if" = vlanif) (q := fun row => row.2.device = vlanif)
    (fun node row hnode => by rw [(property_of_holdsInterface hnode).1]) h.interfaces with
    ⟨hnode, hrow⟩ | ⟨node, row, hnode, hrow, hholds⟩
  · rw [hnode, hrow]
    rfl
  · obtain ⟨hne, htight, -⟩ := of_isName hholds.name
    rw [hnode, hrow]
    show stripOrNone (elementName node).toList = some row.1
    rw [elementName_eq hholds, stripOrNone, Text.trim_of_isTight htight, if_neg hne,
      String.ofList_toList]

theorem interface?_cases (h : Represents document config) (opt : String) :
    interface? document opt = none ∧ config.interfaces.get? opt = none ∨
      ∃ node iface, interface? document opt = some node ∧
        config.interfaces.get? opt = some iface ∧ HoldsInterface node ⟨opt, iface⟩ := by
  rw [interface?, get?_eq_find?]
  rcases FirstMatch.find?_cases (R := HoldsInterface) (p := Xml.isElement opt)
    (q := fun row => row.1 = opt) (fun node row hnode => isElement_eq hnode opt) h.interfaces with
    ⟨hnode, hrow⟩ | ⟨node, row, hnode, hrow, hholds⟩
  · exact Or.inl ⟨hnode, by rw [hrow]; rfl⟩
  · obtain rfl : row.1 = opt := by simpa using List.find?_some hrow
    exact Or.inr ⟨node, row.2, hnode, by rw [hrow]; rfl, hholds⟩

/-- The length of a prefix that was written is read back by Python. -/
theorem integer?_subnetText {subnet : Option ℕ} (h : ∀ n ∈ subnet, n < 2 ^ 63) :
    Text.integer? (subnetText subnet).toList = subnet.map Int.ofNat := by
  cases subnet with
  | none => rfl
  | some n =>
    rw [subnetText, Option.elim_some, toList_toString, integer?_digits (h n rfl)]
    rfl

/-- What is printed for an interface is read back. -/
theorem addressOf_print {ip : String} {subnet : Option ℕ} (hip : IsAddress ip)
    (hsubnet : ∀ n ∈ subnet, n < 2 ^ 63) :
    addressOf (Text.trim (ip.toList ++ '|' :: (subnetText subnet).toList)) =
      subnet.map fun n : ℕ => (some ip, some (n : ℤ)) := by
  obtain ⟨hbar, htight⟩ := hip
  have hdigits : ∀ c ∈ (subnetText subnet).toList, Text.isSpace c = false ∧ c ≠ '|' := by
    intro c hc
    cases subnet with
    | none => cases hc
    | some n =>
      rw [subnetText, Option.elim_some, toList_toString] at hc
      exact ⟨(of_mem_digits hc).1, (of_mem_digits hc).2.1⟩
  have hjoin : ip.toList ++ '|' :: (subnetText subnet).toList =
      Text.join '|' [ip.toList, (subnetText subnet).toList] := by
    rw [Text.join_cons_cons]
    simp [Text.join]
  have htrim : Text.IsTight (ip.toList ++ '|' :: (subnetText subnet).toList) := by
    refine ⟨fun c hc => ?_, Text.not_isSpace_getLast?_append_cons rfl fun c hc =>
      (hdigits c (List.mem_of_getLast? hc)).1⟩
    cases htext : ip.toList with
    | nil =>
      rw [htext] at hc
      exact Option.some.inj hc ▸ rfl
    | cons d text =>
      rw [htext] at hc
      exact htight.1 c (by rw [htext]; exact hc)
  have hparts : ∀ part ∈ [ip.toList, (subnetText subnet).toList], '|' ∉ part :=
    List.forall_mem_cons.mpr ⟨hbar, List.forall_mem_singleton.mpr fun hc => (hdigits _ hc).2 rfl⟩
  rw [Text.trim_of_isTight htrim, addressOf, if_neg (by simp), hjoin,
    Text.split_join (List.cons_ne_nil _ _) hparts]
  show (Text.integer? (subnetText subnet).toList).map _ = _
  rw [integer?_subnetText hsubnet, Option.map_map, String.ofList_toList]
  rfl

/-- The address of an interface and the length of its prefix are read back. -/
theorem getInterfaceIpAndSubnet_eq (h : Represents document config) (opt : String) :
    (getInterfaceIpAndSubnet document opt).elim .failed (fun current =>
        Answer.address current.1 current.2) =
      (configAnswer config (.getInterfaceIpAndSubnet opt)).1 := by
  rcases interface?_cases h opt with ⟨hnode, hget⟩ | ⟨node, iface, hnode, hget, hholds⟩
  · rw [getInterfaceIpAndSubnet, hnode, configAnswer, OpnsenseVm.getInterfaceIpAndSubnet, hget]
    rfl
  · obtain ⟨-, hipaddr, hsubnet⟩ := property_of_holdsInterface hholds
    have hread := addressOf_print hholds.ipaddr hholds.subnet
    rw [← hipaddr, ← hsubnet] at hread
    rw [getInterfaceIpAndSubnet, hnode, hread, hipaddr, configAnswer,
      OpnsenseVm.getInterfaceIpAndSubnet, hget]
    dsimp only
    cases iface.subnet with
    | none => rfl
    | some n => rfl

/-! ### What the scripts check -/

theorem verifyVlanExists_eq (h : Represents document config) (tag : ℕ) (parentIf vlanif : String) :
    verifyVlanExists cast document tag parentIf vlanif =
      OpnsenseVm.verifyVlanExists config tag parentIf vlanif := by
  refine FirstMatch.any_eq (R := HoldsVlan) (fun v device hv => ?_) h.vlans
  obtain ⟨hif, hvlanif, -⟩ := property_of_holdsVlan hv
  rw [toInt_tag hv, hif, hvlanif]
  simp [Bool.and_assoc]

theorem verifyVlanRemoved_eq (h : Represents document config) (tag : ℕ) (parentIf : String) :
    verifyVlanRemoved cast document tag parentIf =
      !config.vlans.any fun device => device.tag = tag ∧ device.parentIf = parentIf := by
  refine congrArg not (FirstMatch.any_eq (R := HoldsVlan) (fun v device hv => ?_) h.vlans)
  rw [toInt_tag hv, (property_of_holdsVlan hv).1]
  simp

theorem verifyOptExists_eq (h : Represents document config) (opt vlanif ip : String) :
    verifyOptExists document opt vlanif ip = OpnsenseVm.verifyOptExists config opt vlanif ip := by
  rw [verifyOptExists, OpnsenseVm.verifyOptExists]
  rcases interface?_cases h opt with ⟨hnode, hget⟩ | ⟨node, iface, hnode, hget, hholds⟩
  · rw [hnode, hget]
    rfl
  · obtain ⟨hif, hipaddr, -⟩ := property_of_holdsInterface hholds
    rw [hnode, hget, Option.any_some, Option.any_some, hif, hipaddr]
    simp

theorem verifyInterfaceIp_eq (h : Represents document config) (hempty : cast.toInt "" = 0)
    (opt ip : String) {subnet : ℕ} (hpos : 0 < subnet) :
    verifyInterfaceIp cast document opt ip subnet =
      OpnsenseVm.verifyInterfaceIp config opt ip subnet := by
  rw [verifyInterfaceIp, OpnsenseVm.verifyInterfaceIp]
  rcases interface?_cases h opt with ⟨hnode, hget⟩ | ⟨node, iface, hnode, hget, hholds⟩
  · rw [hnode, hget]
    rfl
  · obtain ⟨-, hipaddr, hsubnet⟩ := property_of_holdsInterface hholds
    rw [hnode, hget, Option.any_some, Option.any_some, hipaddr, hsubnet]
    cases hvalue : iface.subnet with
    | none =>
      -- a missing length is cast to zero
      have hne : (0 : ℤ) ≠ subnet := by omega
      simp [subnetText, hempty, hne]
    | some n =>
      have hn := hholds.subnet n hvalue
      rw [subnetText, Option.elim_some, cast.toInt_toString _ (by simpa using hn)]
      simp

end Reads

/-! ## Runs -/

section Runs

variable {cast : IntCast} {document : List Xml} {config : Config}

/-- A request is answered for a document as for the configuration that it represents, and what it
leaves is represented again. -/
theorem Represents.answer (h : Represents document config) (hempty : cast.toInt "" = 0)
    {request : Request} (hrequest : request.IsPlain) :
    (answer cast document request).1 = (configAnswer config request).1 ∧
      Represents (answer cast document request).2 (configAnswer config request).2 := by
  have hreadable := hrequest.isReadable
  cases request with
  | getVlanList => exact ⟨by rw [Documents.answer, getVlanList_eq h]; rfl, h⟩
  | getInterfaceNames => exact ⟨congrArg Answer.names (getInterfaceNames_eq h), h⟩
  | getOptForVlanif vlanif => exact ⟨congrArg Answer.name (getOptForVlanif_eq h vlanif), h⟩
  | getInterfaceIpAndSubnet opt => exact ⟨getInterfaceIpAndSubnet_eq h opt, h⟩
  | verifyVlanExists tag parentIf vlanif =>
    exact ⟨congrArg Answer.ofCheck (verifyVlanExists_eq h tag parentIf vlanif), h⟩
  | verifyOptExists opt vlanif ip =>
    exact ⟨congrArg Answer.ofCheck (verifyOptExists_eq h opt vlanif ip), h⟩
  | verifyVlanRemoved tag parentIf =>
    exact ⟨congrArg Answer.ofCheck (verifyVlanRemoved_eq h tag parentIf), h⟩
  | verifyInterfaceIp opt ip subnet =>
    exact ⟨congrArg Answer.ofCheck (verifyInterfaceIp_eq h hempty opt ip hreadable), h⟩
  | addVlanDevice tag parentIf vlanif descr =>
    obtain ⟨htag, hparent, hvlanif, hdescr⟩ := hreadable
    exact ⟨rfl, h.addVlanDevice htag hparent hvlanif hdescr⟩
  | addOptInterface opt vlanif ip subnet descr =>
    obtain ⟨hopt, hip, hsubnet⟩ := hreadable
    exact ⟨rfl, h.addOptInterface hopt hip hsubnet⟩
  | setInterfaceIp opt ip subnet =>
    obtain ⟨hip, hsubnet⟩ := hreadable
    exact ⟨rfl, h.setInterfaceIp hip hsubnet⟩
  | removeVlan vlanTag parentIf => exact ⟨rfl, h.removeVlan vlanTag parentIf⟩

/-- No client can tell a document from the configuration that it represents. -/
theorem run_answers (cast : IntCast) (hempty : cast.toInt "" = 0) (h : Represents document config)
    (client : List Answer → Request) (n : ℕ)
    (hplain : ∀ k < n, (client (run configAnswer client k config).1).IsPlain) :
    (run (answer cast) client n document).1 = (run configAnswer client n config).1 ∧
      Represents (run (answer cast) client n document).2 (run configAnswer client n config).2 := by
  induction n with
  | zero => exact ⟨rfl, h⟩
  | succ n ih =>
    obtain ⟨hanswers, hrest⟩ := ih fun k hk => hplain k (Nat.lt_succ_of_lt hk)
    obtain ⟨hanswer, hnext⟩ := hrest.answer hempty (hplain n (Nat.lt_succ_self n))
    simp only [run]
    rw [hanswers]
    exact ⟨congrArg (_ ++ [·]) hanswer, hnext⟩

/-- A client that lists the VLANs before and after it adds one. -/
def labClient (answers : List Answer) : Request :=
  if answers.length = 1 then
    .addVlanDevice 10 (.ofList ['v', 't', 'n', 'e', 't', '1']) (.ofList ['v', 'l', 'a', 'n', '1'])
      (.ofList ['l', 'a', 'b'])
  else .getVlanList

theorem isPlain_labClient (answers : List Answer) : (labClient answers).IsPlain := by
  rw [labClient]
  split
  case isTrue =>
    have hchars : ∀ text : List Char, (text.all fun c => isInert c && isXmlChar c && c != '|' &&
        !Text.isLineBreak c && !Text.isSpace c) = true → ∀ c ∈ (String.ofList text).toList,
        isInert c = true ∧ isXmlChar c = true ∧ c ≠ '|' ∧ Text.isLineBreak c = false ∧
          Text.isSpace c = false := by
      intro text htext c hc
      rw [String.toList_ofList] at hc
      simpa [and_assoc] using List.all_eq_true.mp htext c hc
    have hparent := hchars ['v', 't', 'n', 'e', 't', '1'] rfl
    have hvlanif := hchars ['v', 'l', 'a', 'n', '1'] rfl
    have hdescr := hchars ['l', 'a', 'b'] rfl
    refine ⟨⟨?_, fun c hc => ?_⟩, by decide, fun c hc => ?_, fun c hc => ?_, fun c hc => ?_,
      fun c hc => ?_⟩
    · exact List.forall_mem_cons.mpr ⟨fun c hc => ⟨(hparent c hc).1, (hparent c hc).2.1⟩,
        List.forall_mem_singleton.mpr fun c hc => ⟨(hvlanif c hc).1, (hvlanif c hc).2.1⟩⟩
    · have hinert := ConfigEdits.ne_of_isInert (hdescr c hc).1
      exact ⟨hinert.1, hinert.2.2.1, (hdescr c hc).2.1⟩
    · exact ⟨(hparent c hc).2.2.1, (hparent c hc).2.2.2.1⟩
    · exact ⟨(hvlanif c hc).2.2.1, (hvlanif c hc).2.2.2.1⟩
    · exact (hdescr c hc).2.2.2.1
    · exact (hdescr c (List.mem_of_getLast? hc)).2.2.2.2
  case isFalse => exact ⟨⟨List.forall_mem_nil _, List.forall_mem_nil _⟩, trivial⟩

/-- The VLAN is listed as it was added. -/
theorem run_answers_lab :
    (run (answer ConfigEdits.numeralCast) labClient 3 [.element "interfaces" [] []]).1 =
      [.vlans [], .done, .vlans [{
        tag := 10
        parentIf := .ofList ['v', 't', 'n', 'e', 't', '1']
        vlanif := .ofList ['v', 'l', 'a', 'n', '1']
        descr := .ofList ['l', 'a', 'b'] }]] := by
  have hrepresents : Represents [.element "interfaces" [] []] { vlans := [], interfaces := ∅ } :=
    ⟨rfl, List.Forall₂.nil, List.Forall₂.nil⟩
  exact (run_answers ConfigEdits.numeralCast rfl hrepresents labClient 3
    fun k _ => isPlain_labClient _).1

end Runs

end ProxmoxIaas.Documents
