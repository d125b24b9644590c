import ProxmoxIaas.Foundation.SimpleXml
import ProxmoxIaas.OpnsenseVm.Scripts
import Mathlib.Data.List.Perm.Basic

/-!
# Editing the Configuration File

What the scripts of `add_vlan_device`, `add_opt_interface` and `remove_vlan` do to `config.xml`: they
look for an entry among those of a section, and write over it, append a new one, or remove it. The
configuration is what is in the root element, which stays as it is.

## Main results

- `addVlan_of_fresh`: a new VLAN is one more entry in both sections.
- `ExactEdits`, `exactEdits`: removing a VLAN undoes adding it, repeating an edit changes nothing, and
  edits of different VLANs commute.
- `not_removesAdded`: without a parent the entry of another VLAN is removed.
-/

namespace ProxmoxIaas.ConfigEdits

open OpnsenseVm Php

/-- The cast of PHP from texts to integers, for the integers it has. -/
structure IntCast where
  /-- The integer of a text. -/
  toInt : String → ℤ
  /-- A printed integer is the integer. -/
  toInt_toString : ∀ n : ℤ, n.natAbs < 2 ^ 63 → toInt (toString n) = n

/-! ## Sections -/

/-- What is in the first section with a name. -/
def entries (name : String) (config : List Xml) : List Xml :=
  ((config.find? (Xml.isElement name)).map Xml.content).getD []

/-- Edit what is in the first section with a name. -/
def editSection (name : String) (f : List Xml → List Xml) (config : List Xml) : List Xml :=
  FirstMatch.modify (Xml.isElement name) (Xml.mapContent f) config

/-- The section for VLANs that is added if there is none. -/
def vlansSection : Xml :=
  .element "vlans" [("version", "1.0.0"), ("description", "VLAN configuration")] []

/-- The configuration with a section for VLANs. -/
def withVlans (config : List Xml) : List Xml :=
  if config.any (Xml.isElement "vlans") then config else config ++ [vlansSection]

/-! ## Adding and removing VLANs -/

/-- The entry that `add_vlan_device` looks for. -/
def isVlan (cast : IntCast) (tag : ℤ) (parentIf : String) (v : Xml) : Bool :=
  v.isElement "vlan" && (v.property "if" = parentIf && cast.toInt (v.property "tag") = tag)

/-- The properties that `add_vlan_device` assigns. -/
def vlanFields (tag : ℤ) (parentIf vlanif descr : String) : List (String × String) :=
  [("if", parentIf), ("tag", toString tag), ("pcp", "0"), ("proto", ""), ("descr", descr),
    ("vlanif", vlanif)]

/-- The script of `add_vlan_device`. -/
def addVlanDevice (cast : IntCast) (config : List Xml) (tag : ℤ) (parentIf vlanif descr : String) :
    List Xml :=
  editSection "vlans" (FirstMatch.upsert (isVlan cast tag parentIf)
    (Xml.assignAll (vlanFields tag parentIf vlanif descr)) (.element "vlan" [] []))
    (withVlans config)

/-- The properties that `add_opt_interface` assigns first. -/
def optFields (upper : List Char → List Char) (opt vlanif ip : String) (subnet : ℤ) (descr : String)
    (enable : Bool) : List (String × String) :=
  [("descr", .ofList (descrVal upper descr.toList opt.toList)), ("if", vlanif),
    ("enable", .ofList (enableVal enable)), ("ipaddr", ip), ("subnet", toString subnet)]

/-- What `add_opt_interface` makes of an interface. -/
def setInterface (upper : List Char → List Char) (opt vlanif ip : String) (subnet : ℤ)
    (descr : String) (enable : Bool) (iface : Xml) : Xml :=
  (((iface.assignAll (optFields upper opt vlanif ip subnet descr enable)).setChild "ipaddrv6" ""
    ).setChild "blockpriv" "0").setChild "blockbogons" "0"

/-- The script of `add_opt_interface`, which ends early without a section for interfaces. -/
def addOptInterface (upper : List Char → List Char) (config : List Xml) (opt vlanif ip : String)
    (subnet : ℤ) (descr : String) (enable : Bool) : List Xml :=
  editSection "interfaces" (FirstMatch.upsert (Xml.isElement opt)
    (setInterface upper opt vlanif ip subnet descr enable) (.element opt [] [])) config

/-- The entry that `remove_vlan` looks for; without a parent any will do. -/
def hasTag (cast : IntCast) (tag : ℤ) (parentIf : String) (v : Xml) : Bool :=
  v.isElement "vlan" &&
    (cast.toInt (v.property "tag") = tag && (parentIf = "" || v.property "if" = parentIf))

/-- Whether an interface is on a device. -/
def isOn (device : String) (iface : Xml) : Bool := iface.isNamed && iface.property "if" = device

/-- The script of `remove_vlan`. -/
def removeVlan (cast : IntCast) (config : List Xml) (vlanTag : ℤ) (parentIf : String) : List Xml :=
  match (entries "vlans" config).find? (hasTag cast vlanTag parentIf) with
  | none => config
  | some v =>
    editSection "interfaces" (List.eraseP (isOn (v.property "vlanif")))
      (editSection "vlans" (List.eraseP (hasTag cast vlanTag parentIf)) config)

/-- A character that XML can hold. -/
def isXmlChar (c : Char) : Bool :=
  c ∈ ['\t', '\n', '\r'] || (0x20 ≤ c.toNat && c.toNat ≠ 0xfffe && c.toNat ≠ 0xffff)

/-- The code points of the letters that a name in XML may have, in ranges. -/
def nameRanges : List (ℕ × ℕ) :=
  [(0x41, 0x5a), (0x5f, 0x5f), (0x61, 0x7a), (0xc0, 0xd6), (0xd8, 0xf6), (0xf8, 0x2ff),
    (0x370, 0x37d), (0x37f, 0x1fff), (0x200c, 0x200d), (0x2070, 0x218f), (0x2c00, 0x2fef),
    (0x3001, 0xd7ff), (0xf900, 0xfdcf), (0xfdf0, 0xfffd), (0x10000, 0xeffff)]

/-- The other characters that a name may have after its first one. -/
def otherRanges : List (ℕ × ℕ) :=
  [(0x2d, 0x2e), (0x30, 0x39), (0xb7, 0xb7), (0x300, 0x36f), (0x203f, 0x2040)]

/-- Whether a character is in one of the ranges. -/
def isIn (ranges : List (ℕ × ℕ)) (c : Char) : Bool :=
  ranges.any fun range => range.1 ≤ c.toNat && c.toNat ≤ range.2

/-- The name of an element, without a prefix. -/
def isXmlName : List Char → Bool
  | [] => false
  | c :: rest => isIn nameRanges c && rest.all (isIn (nameRanges ++ otherRanges))

/-- The description that `add_vlan` gives to the device. -/
def descrOf (tag : ℤ) (description : String) : String :=
  if description = "" then "vlan" ++ toString tag else description

/-- The description that it gives to the interface. -/
def upperDescr (upper : List Char → List Char) (tag : ℤ) (description : String) : String :=
  .ofList (upper (descrOf tag description).toList)

/-- A character that stands for itself in both kinds of quotes. -/
def isInert (c : Char) : Bool := c ≠ '\'' && c ≠ '"' && c ≠ '\\' && c ≠ '$'

/-- Arguments of `add_vlan` that the scripts take as they are, and that the file can hold. -/
structure Args (upper : List Char → List Char) where
  /-- The tag. -/
  tag : ℤ
  /-- The parent interface. -/
  parentIf : String
  /-- The device. -/
  vlanif : String
  /-- The name of the interface. -/
  opt : String
  /-- The address. -/
  ip : String
  /-- The length of the prefix. -/
  subnet : ℤ
  /-- The description. -/
  description : String
  /-- PHP has the integers. -/
  isInt : tag.natAbs < 2 ^ 63 ∧ subnet.natAbs < 2 ^ 63
  /-- Names have neither quotes nor backslashes nor dollar signs. -/
  names : ∀ text ∈ [parentIf, vlanif, opt, ip], ∀ c ∈ text.toList, isInert c = true
  /-- Descriptions have neither quotes nor backslashes. -/
  descriptions : ∀ text ∈ [(descrOf tag description).toList,
    descrVal upper (upperDescr upper tag description).toList opt.toList],
    ∀ c ∈ text, c ≠ '\'' ∧ c ≠ '\\'
  /-- The name of the interface is one of an element. -/
  isName : isXmlName opt.toList = true
  /-- XML can hold the texts. -/
  isText : ∀ text ∈ [parentIf.toList, vlanif.toList, ip.toList, (descrOf tag description).toList,
    descrVal upper (upperDescr upper tag description).toList opt.toList],
    ∀ c ∈ text, isXmlChar c = true

section AddVlan

variable {upper : List Char → List Char} (cast : IntCast)

/-- The first script of `add_vlan`. -/
def addDevice (config : List Xml) (a : Args upper) : List Xml :=
  addVlanDevice cast config a.tag a.parentIf a.vlanif (descrOf a.tag a.description)

/-- The second script of `add_vlan`. -/
def addOpt (config : List Xml) (a : Args upper) : List Xml :=
  addOptInterface upper config a.opt a.vlanif a.ip a.subnet
    (upperDescr upper a.tag a.description) true

/-- `add_vlan`, as far as it edits the configuration. -/
def addVlan (config : List Xml) (a : Args upper) : List Xml := addOpt (addDevice cast config a) a

/-- The configuration has a section for interfaces, and no entry with the tag and the parent, with
the device, or with the name of the interface. -/
structure Fresh (config : List Xml) (a : Args upper) : Prop where
  /-- There is a section for interfaces. -/
  interfaces : config.any (Xml.isElement "interfaces") = true
  /-- No VLAN has the tag and the parent. -/
  tag : ∀ v ∈ entries "vlans" config, isVlan cast a.tag a.parentIf v = false
  /-- No VLAN has the device. -/
  vlanif : ∀ v ∈ entries "vlans" config, v.isElement "vlan" = true → v.property "vlanif" ≠ a.vlanif
  /-- No interface is on the device. -/
  device : ∀ iface ∈ entries "interfaces" config, isOn a.vlanif iface = false
  /-- No interface has the name. -/
  opt : ∀ iface ∈ entries "interfaces" config, iface.isElement a.opt = false

/-- The configurations are the same but for the order of the entries of both sections. -/
def SameUpToOrder (config config' : List Xml) : Prop :=
  ∃ vlans interfaces, vlans.Perm (entries "vlans" config) ∧
    interfaces.Perm (entries "interfaces" config) ∧
    config' = editSection "interfaces" (fun _ => interfaces)
      (editSection "vlans" (fun _ => vlans) config)

/-- The entry of a new VLAN. -/
def newVlan (a : Args upper) : Xml :=
  (Xml.element "vlan" [] []).assignAll
    (vlanFields a.tag a.parentIf a.vlanif (descrOf a.tag a.description))

/-- The interface of a new VLAN. -/
def newInterface (a : Args upper) : Xml :=
  setInterface upper a.opt a.vlanif a.ip a.subnet (upperDescr upper a.tag a.description) true
    (.element a.opt [] [])

end AddVlan

section Read

variable {upper : List Char → List Char}

/-- What these characters are not. -/
theorem ne_of_isInert {c : Char} (h : isInert c = true) :
    c ≠ '\'' ∧ c ≠ '"' ∧ c ≠ '\\' ∧ c ≠ '$' := by
  simpa [isInert, and_assoc] using h

/-- A text of these characters stands for itself between single quotes. -/
theorem isPlain_of_isInert {text : List Char} (h : ∀ c ∈ text, isInert c = true) : IsPlain text :=
  isPlain_of_forall fun c hc => ⟨(ne_of_isInert (h c hc)).1, (ne_of_isInert (h c hc)).2.2.1⟩

/-- A text of these characters stands for itself between double quotes. -/
theorem isVerbatim_of_isInert {text : List Char} (h : ∀ c ∈ text, isInert c = true) :
    IsVerbatim text :=
  isVerbatim_of_forall fun c hc => (ne_of_isInert (h c hc)).2

/-- Numbers have these characters. -/
theorem isInert_of_mem_number {n : ℤ} : ∀ c ∈ number n, isInert c = true := by
  intro c hc
  rcases isDigit_or_eq_of_mem_number c hc with hdigit | rfl
  · have hne : ∀ d : Char, d.isDigit = false → c ≠ d := fun d hd heq =>
      Bool.false_ne_true (hd.symm.trans (heq ▸ hdigit))
    simp [isInert, hne]
  · rfl

/-- The scripts are read as they are meant. -/
theorem Args.isRead (a : Args upper) :
    IsRead (addVlanDeviceScript a.tag a.parentIf.toList a.vlanif.toList
        (descrOf a.tag a.description).toList) ∧
      IsRead (addOptInterfaceScript upper a.opt.toList a.vlanif.toList a.ip.toList a.subnet
        (upperDescr upper a.tag a.description).toList true) := by
  obtain ⟨hparent, hvlanif, hopt, hip, -⟩ := by simpa only [List.forall_mem_cons] using a.names
  obtain ⟨hdescr, hupper, -⟩ := by simpa only [List.forall_mem_cons] using a.descriptions
  constructor
  · have hreport : ∀ c ∈ vlanReport a.tag a.vlanif.toList, isInert c = true := by
      have hok : ∀ c ∈ "ok: vlan ".toList, isInert c = true := forall_mem_toList _ _ rfl
      have htag : ∀ c ∈ " tag=".toList, isInert c = true := forall_mem_toList _ _ rfl
      unfold vlanReport
      have hdevice := List.forall_mem_append.mpr ⟨hok, hvlanif⟩
      have hstart := List.forall_mem_append.mpr ⟨hdevice, htag⟩
      exact List.forall_mem_append.mpr ⟨hstart, isInert_of_mem_number⟩
    exact isRead_addVlanDeviceScript_iff.mpr ⟨isPlain_of_isInert hparent,
      isPlain_of_isInert hvlanif, isPlain_of_forall hdescr, isVerbatim_of_isInert hreport⟩
  · have hreport : ∀ c ∈ optReport a.opt.toList a.vlanif.toList a.ip.toList a.subnet,
        isInert c = true := by
      have hok : ∀ c ∈ "ok: ".toList, isInert c = true := forall_mem_toList _ _ rfl
      have harrow : ∀ c ∈ " -> ".toList, isInert c = true := forall_mem_toList _ _ rfl
      have hblank : ∀ c ∈ " ".toList, isInert c = true := forall_mem_toList _ _ rfl
      have hslash : ∀ c ∈ "/".toList, isInert c = true := forall_mem_toList _ _ rfl
      unfold optReport
      have hname := List.forall_mem_append.mpr ⟨hok, hopt⟩
      have hdevice := List.forall_mem_append.mpr
        ⟨List.forall_mem_append.mpr ⟨hname, harrow⟩, hvlanif⟩
      have haddress := List.forall_mem_append.mpr
        ⟨List.forall_mem_append.mpr ⟨hdevice, hblank⟩, hip⟩
      have hstart := List.forall_mem_append.mpr ⟨haddress, hslash⟩
      exact List.forall_mem_append.mpr ⟨hstart, isInert_of_mem_number⟩
    exact isRead_addOptInterfaceScript_iff.mpr ⟨isPlain_of_isInert hopt, isPlain_of_isInert hvlanif,
      isPlain_of_isInert hip, isPlain_of_forall hupper, isVerbatim_of_isInert hreport⟩

end Read

section Sections

variable {config : List Xml} {name name' : String} {f g : List Xml → List Xml}

/-- An edit keeps the names of sections. -/
theorem isElement_of_mapContent (a : Xml) (h : a.isElement name = true) :
    (a.mapContent f).isElement name = true := (Xml.isElement_mapContent f).trans h

/-- An edit keeps which sections there are. -/
@[simp]
theorem any_editSection :
    (editSection name f config).any (Xml.isElement name') = config.any (Xml.isElement name') := by
  by_cases hname : name = name'
  · subst hname
    exact FirstMatch.any_modify_self isElement_of_mapContent
  · have hfind := FirstMatch.find?_modify_of_disjoint (f := Xml.mapContent f) (l := config)
      (fun a ha => Xml.isElement_eq_false hname ha)
      fun a ha => Xml.isElement_eq_false hname (isElement_of_mapContent a ha)
    rw [Bool.eq_iff_iff, List.any_eq_true, List.any_eq_true, ← List.find?_isSome,
      ← List.find?_isSome, editSection, hfind]

/-- What is in a section after an edit. -/
theorem entries_editSection (h : config.any (Xml.isElement name) = true) :
    entries name (editSection name f config) = f (entries name config) := by
  obtain ⟨section_, hsection⟩ := Option.isSome_iff_exists.mp
    (List.find?_isSome.mpr (List.any_eq_true.mp h))
  have hnamed := Xml.isNamed_of_isElement (List.find?_some hsection)
  rw [entries, entries, editSection, FirstMatch.find?_modify_self isElement_of_mapContent, hsection,
    Option.map_some, Option.map_some, Option.getD_some, Option.map_some, Option.getD_some,
    Xml.content_mapContent hnamed]

/-- What is in a section after an edit that leaves an empty one alone, if there is one or not. -/
theorem entries_editSection_of_nil (h : f [] = []) :
    entries name (editSection name f config) = f (entries name config) := by
  by_cases hany : config.any (Xml.isElement name) = true
  · exact entries_editSection hany
  · have hself : editSection name f config = config :=
      FirstMatch.modify_of_any_eq_false (Bool.eq_false_iff.mpr hany)
    have hnone : config.find? (Xml.isElement name) = none := List.find?_eq_none.mpr
      fun a ha hp => hany (List.any_eq_true.mpr ⟨a, ha, hp⟩)
    have hnil : entries name config = [] := by
      rw [entries, hnone]
      rfl
    rw [hself, hnil, h]

/-- The other sections are as before. -/
theorem entries_editSection_of_ne (hne : name ≠ name') :
    entries name' (editSection name f config) = entries name' config := by
  rw [entries, entries, editSection, FirstMatch.find?_modify_of_disjoint]
  · exact fun a ha => Xml.isElement_eq_false hne ha
  · exact fun a ha => Xml.isElement_eq_false hne (isElement_of_mapContent a ha)

/-- Two edits of a section are one. -/
theorem editSection_editSection :
    editSection name g (editSection name f config) = editSection name (g ∘ f) config := by
  rw [editSection, editSection, FirstMatch.modify_modify isElement_of_mapContent]
  refine FirstMatch.modify_congr fun a _ => ?_
  cases a <;> rfl

/-- Edits of different sections commute. -/
theorem editSection_comm (hne : name ≠ name') :
    editSection name' g (editSection name f config) =
      editSection name f (editSection name' g config) :=
  FirstMatch.modify_comm (fun _ ha => Xml.isElement_eq_false hne ha)
    (fun a ha => Xml.isElement_eq_false hne (isElement_of_mapContent a ha))
    fun a ha => Xml.isElement_eq_false hne.symm (isElement_of_mapContent a ha)

/-- Edits that agree on what is in a section are the same. -/
theorem editSection_congr (h : f (entries name config) = g (entries name config)) :
    editSection name f config = editSection name g config := by
  refine FirstMatch.modify_congr fun a ha => ?_
  rw [entries, ha, Option.map_some, Option.getD_some] at h
  cases a with
  | text value => rfl
  | comment value => rfl
  | element other attributes content => exact congrArg (Xml.element other attributes) h

/-- An edit that does nothing to what is in a section does nothing. -/
theorem editSection_eq_self (h : f (entries name config) = entries name config) :
    editSection name f config = config := by
  have hid : editSection name id config = config := FirstMatch.modify_eq_self fun a _ => by
    cases a <;> rfl
  exact (editSection_congr h).trans hid

/-- There is a section for VLANs. -/
@[simp]
theorem any_withVlans : (withVlans config).any (Xml.isElement "vlans") = true := by
  rw [withVlans]
  split
  case isTrue h => exact h
  case isFalse => exact List.any_eq_true.mpr ⟨vlansSection, List.mem_concat_self, rfl⟩

/-- A section that is there is not added. -/
theorem withVlans_of_any (h : config.any (Xml.isElement "vlans") = true) :
    withVlans config = config := if_pos h

/-- Nothing is in a section that is added. -/
@[simp]
theorem entries_withVlans : entries name (withVlans config) = entries name config := by
  rw [withVlans]
  split
  case isTrue => rfl
  case isFalse h =>
    rw [entries, entries, List.find?_append]
    by_cases hname : "vlans" = name
    · subst hname
      have hnone : config.find? (Xml.isElement "vlans") = none := List.find?_eq_none.mpr
        fun a ha hp => h (List.any_eq_true.mpr ⟨a, ha, hp⟩)
      rw [hnone]
      rfl
    · have hother : [vlansSection].find? (Xml.isElement name) = none :=
        List.find?_eq_none.mpr fun a ha => by
          rw [List.mem_singleton.mp ha, Xml.isElement_eq_false hname rfl]
          exact Bool.false_ne_true
      rw [hother, Option.or_none]

/-- The other sections are there as before. -/
theorem any_withVlans_of_ne (hne : "vlans" ≠ name) :
    (withVlans config).any (Xml.isElement name) = config.any (Xml.isElement name) := by
  rw [withVlans]
  split
  case isTrue => rfl
  case isFalse =>
    have hother : vlansSection.isElement name = false := Xml.isElement_eq_false hne rfl
    rw [List.any_append, List.any_cons, hother, List.any_nil, Bool.or_false, Bool.or_false]

end Sections

section Entries

variable {cast : IntCast} {upper : List Char → List Char} {a : Args upper} {node : Xml}

/-- The properties of a VLAN are different ones. -/
theorem nodup_vlanFields (tag : ℤ) (parentIf vlanif descr : String) :
    ((vlanFields tag parentIf vlanif descr).map Prod.fst).Nodup := by
  show (["if", "tag", "pcp", "proto", "descr", "vlanif"] : List String).Nodup
  decide

/-- All properties of an interface. -/
def interfaceFields (upper : List Char → List Char) (opt vlanif ip : String) (subnet : ℤ)
    (descr : String) (enable : Bool) : List (String × String) :=
  optFields upper opt vlanif ip subnet descr enable ++
    [("ipaddrv6", ""), ("blockpriv", "0"), ("blockbogons", "0")]

/-- The properties of an interface are different ones. -/
theorem nodup_interfaceFields (opt vlanif ip : String) (subnet : ℤ) (descr : String)
    (enable : Bool) :
    ((interfaceFields upper opt vlanif ip subnet descr enable).map Prod.fst).Nodup := by
  show (["descr", "if", "enable", "ipaddr", "subnet", "ipaddrv6", "blockpriv", "blockbogons"] :
    List String).Nodup
  decide

/-- An interface is made by assignments alone. -/
theorem setInterface_eq (opt vlanif ip : String) (subnet : ℤ) (descr : String) (enable : Bool)
    (iface : Xml) :
    setInterface upper opt vlanif ip subnet descr enable iface =
      iface.assignAll (interfaceFields upper opt vlanif ip subnet descr enable) := by
  rw [setInterface, Xml.setChild_eq_assign, Xml.setChild_eq_assign, Xml.setChild_eq_assign,
    interfaceFields, Xml.assignAll, Xml.assignAll, List.foldl_append]
  rfl

/-- The VLAN that is written over keeps its tag and its parent. -/
theorem isVlan_assignAll {tag : ℤ} (htag : tag.natAbs < 2 ^ 63) {parentIf vlanif descr : String}
    (h : isVlan cast tag parentIf node = true) :
    isVlan cast tag parentIf (node.assignAll (vlanFields tag parentIf vlanif descr)) = true := by
  simp only [isVlan, Bool.and_eq_true, decide_eq_true_eq] at h ⊢
  obtain ⟨helement, hif, hcast⟩ := h
  have hnamed := Xml.isNamed_of_isElement helement
  have hnodup := nodup_vlanFields tag parentIf vlanif descr
  refine ⟨Xml.isElement_assignAll.trans helement, ?_, ?_⟩
  · have hmem : ("if", parentIf) ∈ vlanFields tag parentIf vlanif descr := by simp [vlanFields]
    rcases Xml.property_assignAll hnamed hnodup hmem with hvalue | hvalue
    · exact hvalue
    · exact hvalue.trans hif
  · have hmem : ("tag", toString tag) ∈ vlanFields tag parentIf vlanif descr := by
      simp [vlanFields]
    rcases Xml.property_assignAll hnamed hnodup hmem with hvalue | hvalue
    · rw [hvalue, cast.toInt_toString tag htag]
    · rw [hvalue, hcast]

/-- The properties of a new VLAN. -/
theorem property_newVlan {name value : String}
    (hmem : (name, value) ∈ vlanFields a.tag a.parentIf a.vlanif (descrOf a.tag a.description)) :
    (newVlan a).property name = value :=
  Xml.property_assignAll_of_children_eq_nil rfl (nodup_vlanFields ..) hmem rfl

/-- The parent of a new VLAN. -/
theorem property_if_newVlan : (newVlan a).property "if" = a.parentIf :=
  property_newVlan (by simp [vlanFields])

/-- The tag of a new VLAN. -/
theorem property_tag_newVlan : (newVlan a).property "tag" = toString a.tag :=
  property_newVlan (by simp [vlanFields])

/-- The device of a new VLAN. -/
theorem property_vlanif_newVlan : (newVlan a).property "vlanif" = a.vlanif :=
  property_newVlan (by simp [vlanFields])

/-- A new VLAN has its tag and its parent alone. -/
theorem isVlan_newVlan_iff {tag : ℤ} {parentIf : String} :
    isVlan cast tag parentIf (newVlan a) = true ↔ a.parentIf = parentIf ∧ a.tag = tag := by
  have helement : (newVlan a).isElement "vlan" = true := Xml.isElement_assignAll.trans rfl
  rw [isVlan, helement, property_if_newVlan, property_tag_newVlan,
    cast.toInt_toString a.tag a.isInt.1, Bool.true_and,
    Bool.and_eq_true, decide_eq_true_eq, decide_eq_true_eq]

/-- A search for a VLAN finds a new one if it is for its tag, and for its parent or any. -/
theorem hasTag_newVlan_iff {tag : ℤ} {parentIf : String} :
    hasTag cast tag parentIf (newVlan a) = true ↔
      a.tag = tag ∧ (parentIf = "" ∨ a.parentIf = parentIf) := by
  have helement : (newVlan a).isElement "vlan" = true := Xml.isElement_assignAll.trans rfl
  rw [hasTag, helement, property_if_newVlan, property_tag_newVlan,
    cast.toInt_toString a.tag a.isInt.1, Bool.true_and,
    Bool.and_eq_true, Bool.or_eq_true, decide_eq_true_eq, decide_eq_true_eq, decide_eq_true_eq]

/-- A new interface has its name and is on its device alone. -/
theorem isOn_newInterface_iff {device : String} :
    isOn device (newInterface a) = true ↔ a.vlanif = device := by
  have hmem : ("if", a.vlanif) ∈ interfaceFields upper a.opt a.vlanif a.ip a.subnet
      (upperDescr upper a.tag a.description) true := by simp [interfaceFields, optFields]
  have hif : (newInterface a).property "if" = a.vlanif := by
    rw [newInterface, setInterface_eq]
    exact Xml.property_assignAll_of_children_eq_nil rfl (nodup_interfaceFields ..) hmem rfl
  have hnamed : (newInterface a).isNamed = true := by
    rw [newInterface, setInterface_eq]
    exact Xml.isNamed_assignAll.trans rfl
  rw [isOn, hnamed, hif, Bool.true_and, decide_eq_true_eq]

/-- A new interface has its name. -/
theorem isElement_newInterface (name : String) :
    (newInterface a).isElement name = decide (a.opt = name) := by
  rw [newInterface, setInterface_eq]
  exact Xml.isElement_assignAll

end Entries

section Both

variable {config : List Xml} {name : String} {f f' g g' : List Xml → List Xml}

/-- Edit the section for VLANs, and then the one for interfaces. -/
def editBoth (f g : List Xml → List Xml) (config : List Xml) : List Xml :=
  editSection "interfaces" g (editSection "vlans" f config)

/-- Two edits of both sections are one. -/
theorem editBoth_editBoth :
    editBoth f' g' (editBoth f g config) = editBoth (f' ∘ f) (g' ∘ g) config := by
  have hne : "interfaces" ≠ "vlans" := by decide
  rw [editBoth, editBoth, editSection_comm hne, editSection_editSection, editSection_editSection]
  rfl

/-- Edits of both sections that agree on what is in them are the same. -/
theorem editBoth_congr (hvlans : f (entries "vlans" config) = f' (entries "vlans" config))
    (hinterfaces : g (entries "interfaces" config) = g' (entries "interfaces" config)) :
    editBoth f g config = editBoth f' g' config := by
  rw [editBoth, editBoth, editSection_congr hvlans]
  refine editSection_congr ?_
  rw [entries_editSection_of_ne (by decide), hinterfaces]

/-- Edits that do nothing to what is in both sections do nothing. -/
theorem editBoth_eq_self (hvlans : f (entries "vlans" config) = entries "vlans" config)
    (hinterfaces : g (entries "interfaces" config) = entries "interfaces" config) :
    editBoth f g config = config := by
  rw [editBoth, editSection_eq_self hvlans, editSection_eq_self hinterfaces]

/-- The VLANs after edits of both sections. -/
theorem entries_vlans_editBoth (h : config.any (Xml.isElement "vlans") = true) :
    entries "vlans" (editBoth f g config) = f (entries "vlans" config) := by
  rw [editBoth, entries_editSection_of_ne (by decide), entries_editSection h]

/-- The interfaces after edits of both sections. -/
theorem entries_interfaces_editBoth (h : config.any (Xml.isElement "interfaces") = true) :
    entries "interfaces" (editBoth f g config) = g (entries "interfaces" config) := by
  rw [editBoth, entries_editSection (any_editSection.trans h),
    entries_editSection_of_ne (by decide)]

/-- The other sections after edits of both. -/
theorem entries_editBoth_of_ne (hvlans : "vlans" ≠ name) (hinterfaces : "interfaces" ≠ name) :
    entries name (editBoth f g config) = entries name config := by
  rw [editBoth, entries_editSection_of_ne hinterfaces, entries_editSection_of_ne hvlans]

/-- Edits keep which sections there are. -/
@[simp]
theorem any_editBoth :
    (editBoth f g config).any (Xml.isElement name) = config.any (Xml.isElement name) :=
  any_editSection.trans any_editSection

/-- An entry is in a section. -/
theorem any_of_mem_entries {node : Xml} (h : node ∈ entries name config) :
    config.any (Xml.isElement name) = true := by
  rw [entries] at h
  cases hfind : config.find? (Xml.isElement name) with
  | none =>
    rw [hfind] at h
    cases h
  | some found =>
    exact List.any_eq_true.mpr ⟨found, List.mem_of_find?_eq_some hfind, List.find?_some hfind⟩

end Both

section AddVlan

variable {cast : IntCast} {upper : List Char → List Char} {a b : Args upper} {config : List Xml}

/-- The edit of the VLANs by `add_vlan`. -/
def upsertVlan (cast : IntCast) (a : Args upper) : List Xml → List Xml :=
  FirstMatch.upsert (isVlan cast a.tag a.parentIf)
    (Xml.assignAll (vlanFields a.tag a.parentIf a.vlanif (descrOf a.tag a.description)))
    (.element "vlan" [] [])

/-- The edit of the interfaces by `add_vlan`. -/
def upsertInterface (a : Args upper) : List Xml → List Xml :=
  FirstMatch.upsert (Xml.isElement a.opt)
    (setInterface upper a.opt a.vlanif a.ip a.subnet (upperDescr upper a.tag a.description) true)
    (.element a.opt [] [])

/-- `add_vlan` edits both sections. -/
theorem addVlan_eq (cast : IntCast) (config : List Xml) (a : Args upper) :
    addVlan cast config a = editBoth (upsertVlan cast a) (upsertInterface a) (withVlans config) := rfl

/-- A VLAN that is written again stays as it is. -/
theorem upsertVlan_upsertVlan (cast : IntCast) (a : Args upper) (vlans : List Xml) :
    upsertVlan cast a (upsertVlan cast a vlans) = upsertVlan cast a vlans :=
  FirstMatch.upsert_upsert (fun _ h => isVlan_assignAll a.isInt.1 h)
    (isVlan_newVlan_iff.mpr ⟨rfl, rfl⟩) fun _ => Xml.assignAll_assignAll (nodup_vlanFields ..)

/-- An interface that is written again stays as it is. -/
theorem upsertInterface_upsertInterface (a : Args upper) (interfaces : List Xml) :
    upsertInterface a (upsertInterface a interfaces) = upsertInterface a interfaces := by
  refine FirstMatch.upsert_upsert (fun iface h => ?_) ?_ fun iface => ?_
  · rw [setInterface_eq]
    exact Xml.isElement_assignAll.trans h
  · exact (isElement_newInterface a.opt).trans (decide_eq_true rfl)
  · rw [setInterface_eq, setInterface_eq]
    exact Xml.assignAll_assignAll (nodup_interfaceFields ..)

/-- A new VLAN is one more entry in both sections. -/
theorem addVlan_of_fresh (h : Fresh cast config a) :
    addVlan cast config a =
      editBoth (· ++ [newVlan a]) (· ++ [newInterface a]) (withVlans config) := by
  rw [addVlan_eq]
  refine editBoth_congr ?_ ?_
  · rw [entries_withVlans]
    exact FirstMatch.upsert_of_forall h.tag
  · rw [entries_withVlans]
    exact FirstMatch.upsert_of_forall h.opt

/-- The VLANs with a new one. -/
theorem entries_vlans_addVlan (h : Fresh cast config a) :
    entries "vlans" (addVlan cast config a) = entries "vlans" config ++ [newVlan a] := by
  rw [addVlan_of_fresh h, entries_vlans_editBoth any_withVlans, entries_withVlans]

/-- The interfaces with a new one. -/
theorem entries_interfaces_addVlan (h : Fresh cast config a) :
    entries "interfaces" (addVlan cast config a) =
      entries "interfaces" config ++ [newInterface a] := by
  have hany := (any_withVlans_of_ne (by decide)).trans h.interfaces
  rw [addVlan_of_fresh h, entries_interfaces_editBoth hany, entries_withVlans]

/-- There is a section for VLANs afterwards. -/
theorem withVlans_addVlan (cast : IntCast) (config : List Xml) (a : Args upper) :
    withVlans (addVlan cast config a) = addVlan cast config a :=
  withVlans_of_any (any_editBoth.trans any_withVlans)

/-- Another VLAN is still new. -/
theorem Fresh.addVlan (ha : Fresh cast config a) (hb : Fresh cast config b) (htag : a.tag ≠ b.tag)
    (hvlanif : a.vlanif ≠ b.vlanif) (hopt : a.opt ≠ b.opt) :
    Fresh cast (addVlan cast config a) b where
  interfaces := any_editBoth.trans ((any_withVlans_of_ne (by decide)).trans hb.interfaces)
  tag := by
    rw [entries_vlans_addVlan ha, List.forall_mem_append, List.forall_mem_singleton]
    exact ⟨hb.tag, Bool.eq_false_iff.mpr fun h => htag (isVlan_newVlan_iff.mp h).2⟩
  vlanif := by
    rw [entries_vlans_addVlan ha, List.forall_mem_append, List.forall_mem_singleton]
    refine ⟨hb.vlanif, fun _ h => hvlanif ?_⟩
    rw [← h, property_vlanif_newVlan]
  device := by
    rw [entries_interfaces_addVlan ha, List.forall_mem_append, List.forall_mem_singleton]
    exact ⟨hb.device, Bool.eq_false_iff.mpr fun h => hvlanif (isOn_newInterface_iff.mp h)⟩
  opt := by
    rw [entries_interfaces_addVlan ha, List.forall_mem_append, List.forall_mem_singleton]
    exact ⟨hb.opt, (isElement_newInterface b.opt).trans (decide_eq_false hopt)⟩

/-- New VLANs are added in any order, up to the order of the entries. -/
theorem addVlan_addVlan (ha : Fresh cast config a) (hb : Fresh cast config b)
    (htag : a.tag ≠ b.tag) (hvlanif : a.vlanif ≠ b.vlanif) (hopt : a.opt ≠ b.opt) :
    SameUpToOrder (addVlan cast (addVlan cast config a) b)
      (addVlan cast (addVlan cast config b) a) := by
  have hab := ha.addVlan hb htag hvlanif hopt
  have hba := hb.addVlan ha htag.symm hvlanif.symm hopt.symm
  have hboth : ∀ a b : Args upper, Fresh cast config a → Fresh cast (addVlan cast config a) b →
      addVlan cast (addVlan cast config a) b =
        editBoth (fun vlans => vlans ++ [newVlan a] ++ [newVlan b])
          (fun interfaces => interfaces ++ [newInterface a] ++ [newInterface b])
          (withVlans config) := fun a b ha hb => by
    rw [addVlan_of_fresh hb, withVlans_addVlan, addVlan_of_fresh ha, editBoth_editBoth]
    rfl
  have hinterfaces := (any_withVlans_of_ne (by decide)).trans ha.interfaces
  refine ⟨entries "vlans" config ++ [newVlan b] ++ [newVlan a],
    entries "interfaces" config ++ [newInterface b] ++ [newInterface a], ?_, ?_, ?_⟩
  · rw [hboth a b ha hab, entries_vlans_editBoth any_withVlans, entries_withVlans,
      List.append_assoc, List.append_assoc]
    exact (List.Perm.swap _ _ _).append_left _
  · rw [hboth a b ha hab, entries_interfaces_editBoth hinterfaces, entries_withVlans,
      List.append_assoc, List.append_assoc]
    exact (List.Perm.swap _ _ _).append_left _
  · rw [hboth a b ha hab, hboth b a hb hba]
    show _ = editBoth (fun _ => _) (fun _ => _) (editBoth _ _ (withVlans config))
    rw [editBoth_editBoth]
    exact editBoth_congr (by rw [entries_withVlans]; rfl) (by rw [entries_withVlans]; rfl)

/-- A VLAN that is added again stays as it is. -/
theorem addVlan_addVlan_self (cast : IntCast) (config : List Xml) (a : Args upper) :
    addVlan cast (addVlan cast config a) a = addVlan cast config a := by
  rw [addVlan_eq, withVlans_addVlan, addVlan_eq, editBoth_editBoth]
  exact editBoth_congr (upsertVlan_upsertVlan cast a _) (upsertInterface_upsertInterface a _)

/-- A device that is added again stays as it is. -/
theorem addDevice_addDevice (cast : IntCast) (config : List Xml) (a : Args upper) :
    addDevice cast (addDevice cast config a) a = addDevice cast config a := by
  have hself : withVlans (addDevice cast config a) = addDevice cast config a :=
    withVlans_of_any (any_editSection.trans any_withVlans)
  have hagain : addDevice cast (addDevice cast config a) a =
      editSection "vlans" (upsertVlan cast a) (withVlans (addDevice cast config a)) := rfl
  rw [hagain, hself]
  show editSection "vlans" (upsertVlan cast a)
    (editSection "vlans" (upsertVlan cast a) (withVlans config)) =
      editSection "vlans" (upsertVlan cast a) (withVlans config)
  rw [editSection_editSection]
  exact editSection_congr (upsertVlan_upsertVlan cast a _)

/-- An interface that is added again stays as it is. -/
theorem addOpt_addOpt (config : List Xml) (a : Args upper) :
    addOpt (addOpt config a) a = addOpt config a := by
  show editSection "interfaces" (upsertInterface a)
    (editSection "interfaces" (upsertInterface a) config) =
      editSection "interfaces" (upsertInterface a) config
  rw [editSection_editSection]
  exact editSection_congr (upsertInterface_upsertInterface a _)

end AddVlan

section RemoveVlan

variable {cast : IntCast} {upper : List Char → List Char} {a : Args upper} {config : List Xml}
  {tag tag' : ℤ} {parentIf parentIf' : String}

/-- The edit of the interfaces by `remove_vlan`, for the VLAN that is found. -/
def eraseDevice : Option Xml → List Xml → List Xml
  | none => id
  | some v => List.eraseP (isOn (v.property "vlanif"))

/-- Nothing is removed from a section that is empty. -/
theorem eraseDevice_nil (found : Option Xml) : eraseDevice found [] = [] := by
  cases found <;> rfl

/-- Entries are only removed. -/
theorem mem_of_mem_eraseDevice {found : Option Xml} {interfaces : List Xml} {iface : Xml}
    (h : iface ∈ eraseDevice found interfaces) : iface ∈ interfaces := by
  cases found with
  | none => exact h
  | some v => exact List.mem_of_mem_eraseP h

/-- `remove_vlan` edits both sections. -/
theorem removeVlan_eq (cast : IntCast) (config : List Xml) (tag : ℤ) (parentIf : String) :
    removeVlan cast config tag parentIf =
      editBoth (List.eraseP (hasTag cast tag parentIf))
        (eraseDevice ((entries "vlans" config).find? (hasTag cast tag parentIf))) config := by
  rw [removeVlan]
  split
  case h_1 hnone =>
    rw [hnone]
    refine (editBoth_eq_self ?_ rfl).symm
    exact List.eraseP_of_forall_not (List.find?_eq_none.mp hnone)
  case h_2 v hsome =>
    rw [hsome]
    rfl

/-- The VLANs after one is removed. -/
theorem entries_vlans_removeVlan :
    entries "vlans" (removeVlan cast config tag parentIf) =
      (entries "vlans" config).eraseP (hasTag cast tag parentIf) := by
  rw [removeVlan_eq, editBoth, entries_editSection_of_ne (by decide)]
  exact entries_editSection_of_nil rfl

/-- The interfaces after a VLAN is removed. -/
theorem entries_interfaces_removeVlan :
    entries "interfaces" (removeVlan cast config tag parentIf) =
      eraseDevice ((entries "vlans" config).find? (hasTag cast tag parentIf))
        (entries "interfaces" config) := by
  rw [removeVlan_eq, editBoth, entries_editSection_of_nil (eraseDevice_nil _),
    entries_editSection_of_ne (by decide)]

/-- A section for VLANs is added before or afterwards. -/
theorem removeVlan_withVlans :
    removeVlan cast (withVlans config) tag parentIf =
      withVlans (removeVlan cast config tag parentIf) := by
  have hany : (removeVlan cast config tag parentIf).any (Xml.isElement "vlans") =
      config.any (Xml.isElement "vlans") := by
    rw [removeVlan_eq, any_editBoth]
  by_cases hvlans : config.any (Xml.isElement "vlans") = true
  · rw [withVlans_of_any hvlans, withVlans_of_any (hany.trans hvlans)]
  · have hnil : entries "vlans" config = [] := List.eq_nil_iff_forall_not_mem.mpr
      fun v hv => hvlans (any_of_mem_entries hv)
    have hself : ∀ config, entries "vlans" config = [] →
        removeVlan cast config tag parentIf = config := fun config hnil => by
      rw [removeVlan, hnil]
      rfl
    rw [hself _ (entries_withVlans.trans hnil), hself _ hnil]

/-- With a parent the search is the one of `add_vlan_device`. -/
theorem hasTag_of_ne (h : parentIf ≠ "") (v : Xml) :
    hasTag cast tag parentIf v = isVlan cast tag parentIf v := by
  rw [hasTag, isVlan, decide_eq_false h, Bool.false_or, Bool.and_comm (decide (_ = tag))]

/-- Removing a VLAN undoes adding it. -/
theorem removeVlan_addVlan (h : Fresh cast config a)
    (hparent : a.parentIf ≠ "" ∨
      ∀ v ∈ entries "vlans" config, hasTag cast a.tag "" v = false) :
    removeVlan cast (addVlan cast config a) a.tag a.parentIf = withVlans config := by
  have hnone : ∀ v ∈ entries "vlans" config, hasTag cast a.tag a.parentIf v = false := by
    by_cases hempty : a.parentIf = ""
    · rw [hempty]
      exact hparent.resolve_left fun hne => hne hempty
    · exact fun v hv => (hasTag_of_ne hempty v).trans (h.tag v hv)
  have hnew : hasTag cast a.tag a.parentIf (newVlan a) = true :=
    hasTag_newVlan_iff.mpr ⟨rfl, Or.inr rfl⟩
  rw [removeVlan_eq, entries_vlans_addVlan h, FirstMatch.find?_concat_of_forall hnone hnew,
    addVlan_of_fresh h, editBoth_editBoth]
  refine editBoth_eq_self ?_ ?_
  · rw [entries_withVlans]
    exact FirstMatch.eraseP_concat_of_forall hnone hnew
  · rw [entries_withVlans, Function.comp_apply, eraseDevice, property_vlanif_newVlan]
    exact FirstMatch.eraseP_concat_of_forall h.device (isOn_newInterface_iff.mpr rfl)

/-- A VLAN is still new after another one is removed. -/
theorem Fresh.removeVlan (h : Fresh cast config a) (tag : ℤ) (parentIf : String) :
    Fresh cast (removeVlan cast config tag parentIf) a where
  interfaces := by
    rw [removeVlan_eq]
    exact any_editBoth.trans h.interfaces
  tag v hv := h.tag v (List.mem_of_mem_eraseP (entries_vlans_removeVlan ▸ hv))
  vlanif v hv := h.vlanif v (List.mem_of_mem_eraseP (entries_vlans_removeVlan ▸ hv))
  device v hv := h.device v (mem_of_mem_eraseDevice (entries_interfaces_removeVlan ▸ hv))
  opt v hv := h.opt v (mem_of_mem_eraseDevice (entries_interfaces_removeVlan ▸ hv))

/-- A new VLAN is added before or after one with another tag is removed. -/
theorem removeVlan_addVlan_of_ne (h : Fresh cast config a) (htag : a.tag ≠ tag) :
    removeVlan cast (addVlan cast config a) tag parentIf =
      addVlan cast (removeVlan cast config tag parentIf) a := by
  have hnew : hasTag cast tag parentIf (newVlan a) = false :=
    Bool.eq_false_iff.mpr fun hnew => htag (hasTag_newVlan_iff.mp hnew).1
  rw [removeVlan_eq, entries_vlans_addVlan h, FirstMatch.find?_concat hnew, addVlan_of_fresh h,
    addVlan_of_fresh (h.removeVlan tag parentIf), ← removeVlan_withVlans, removeVlan_eq,
    entries_withVlans, editBoth_editBoth, editBoth_editBoth]
  refine editBoth_congr (FirstMatch.eraseP_concat hnew) ?_
  cases hfind : (entries "vlans" config).find? (hasTag cast tag parentIf) with
  | none => rfl
  | some v =>
    -- the VLAN that is found is one of those from before, which are not on the new device
    have hfound := List.find?_some hfind
    rw [hasTag, Bool.and_eq_true] at hfound
    have hdevice := h.vlanif v (List.mem_of_find?_eq_some hfind) hfound.1
    exact FirstMatch.eraseP_concat
      (Bool.eq_false_iff.mpr fun hon => hdevice (isOn_newInterface_iff.mp hon).symm)

/-- A VLAN has one tag. -/
theorem hasTag_eq_false (hne : tag ≠ tag') (v : Xml) (h : hasTag cast tag parentIf v = true) :
    hasTag cast tag' parentIf' v = false := by
  simp only [hasTag, Bool.and_eq_true, decide_eq_true_eq] at h
  rw [hasTag, h.2.1, decide_eq_false hne, Bool.false_and, Bool.and_false]

/-- Interfaces of two devices are removed in any order. -/
theorem eraseDevice_comm (found found' : Option Xml) (interfaces : List Xml) :
    eraseDevice found (eraseDevice found' interfaces) =
      eraseDevice found' (eraseDevice found interfaces) := by
  cases found with
  | none => rfl
  | some v =>
    cases found' with
    | none => rfl
    | some v' =>
      by_cases hsame : v.property "vlanif" = v'.property "vlanif"
      · rw [eraseDevice, eraseDevice, hsame]
      · refine List.eraseP_comm fun iface _ => ?_
        by_contra hboth
        simp only [isOn, Bool.and_eq_true, decide_eq_true_eq, not_or, not_not] at hboth
        exact hsame (hboth.2.2.symm.trans hboth.1.2)

/-- VLANs with different tags are removed in any order. -/
theorem removeVlan_removeVlan (hne : tag ≠ tag') :
    removeVlan cast (removeVlan cast config tag parentIf) tag' parentIf' =
      removeVlan cast (removeVlan cast config tag' parentIf') tag parentIf := by
  have hboth : ∀ (tag tag' : ℤ) (parentIf parentIf' : String), tag ≠ tag' →
      removeVlan cast (removeVlan cast config tag parentIf) tag' parentIf' =
        editBoth (List.eraseP (hasTag cast tag' parentIf') ∘ List.eraseP (hasTag cast tag parentIf))
          (eraseDevice ((entries "vlans" config).find? (hasTag cast tag' parentIf')) ∘
            eraseDevice ((entries "vlans" config).find? (hasTag cast tag parentIf)))
          config := fun tag tag' parentIf parentIf' hne => by
    rw [removeVlan_eq, entries_vlans_removeVlan,
      FirstMatch.find?_eraseP_of_disjoint fun v hv => hasTag_eq_false hne v hv, removeVlan_eq,
      editBoth_editBoth]
  rw [hboth tag tag' parentIf parentIf' hne, hboth tag' tag parentIf' parentIf hne.symm]
  refine editBoth_congr (List.eraseP_comm fun v _ => ?_) (eraseDevice_comm _ _ _)
  by_cases hv : hasTag cast tag parentIf v = true
  · exact Or.inr (Bool.eq_false_iff.mp (hasTag_eq_false hne v hv))
  · exact Or.inl hv

/-- The other sections are as before. -/
theorem entries_removeVlan_of_ne {name : String} (hvlans : "vlans" ≠ name)
    (hinterfaces : "interfaces" ≠ name) :
    entries name (removeVlan cast config tag parentIf) = entries name config := by
  rw [removeVlan_eq, entries_editBoth_of_ne hvlans hinterfaces]

/-- The other sections are as before. -/
theorem entries_addVlan_of_ne {name : String} (hvlans : "vlans" ≠ name)
    (hinterfaces : "interfaces" ≠ name) :
    entries name (addVlan cast config a) = entries name config := by
  rw [addVlan_eq, entries_editBoth_of_ne hvlans hinterfaces, entries_withVlans]

end RemoveVlan

/-- Edits are upserts with inverses, and edits of different VLANs commute. -/
structure ExactEdits (cast : IntCast) (upper : List Char → List Char) : Prop where
  /-- The scripts are read as they are meant. -/
  reads : ∀ a : Args upper,
    IsRead (addVlanDeviceScript a.tag a.parentIf.toList a.vlanif.toList
        (descrOf a.tag a.description).toList) ∧
      IsRead (addOptInterfaceScript upper a.opt.toList a.vlanif.toList a.ip.toList a.subnet
        (upperDescr upper a.tag a.description).toList true)
  /-- Removing a VLAN undoes adding it, if it is removed by its parent or no other has its tag. -/
  undoes : ∀ config (a : Args upper), Fresh cast config a →
    (a.parentIf ≠ "" ∨ ∀ v ∈ entries "vlans" config, hasTag cast a.tag "" v = false) →
    removeVlan cast (addVlan cast config a) a.tag a.parentIf = withVlans config
  /-- Repeating an edit changes nothing. -/
  repeats : ∀ config (a : Args upper),
    addDevice cast (addDevice cast config a) a = addDevice cast config a ∧
      addOpt (addOpt config a) a = addOpt config a ∧
      addVlan cast (addVlan cast config a) a = addVlan cast config a
  /-- New VLANs are added in any order. -/
  adds : ∀ config (a b : Args upper), Fresh cast config a → Fresh cast config b → a.tag ≠ b.tag →
    a.vlanif ≠ b.vlanif → a.opt ≠ b.opt →
    SameUpToOrder (addVlan cast (addVlan cast config a) b)
      (addVlan cast (addVlan cast config b) a)
  /-- A new VLAN is added before or after another one is removed. -/
  addsRemoves : ∀ config (a : Args upper) tag parentIf, Fresh cast config a → a.tag ≠ tag →
    removeVlan cast (addVlan cast config a) tag parentIf =
      addVlan cast (removeVlan cast config tag parentIf) a
  /-- VLANs are removed in any order. -/
  removes : ∀ config tag tag' parentIf parentIf', tag ≠ tag' →
    removeVlan cast (removeVlan cast config tag parentIf) tag' parentIf' =
      removeVlan cast (removeVlan cast config tag' parentIf') tag parentIf
  /-- Adding a VLAN leaves the other entries unchanged. -/
  keepsAdding : ∀ config (a : Args upper), Fresh cast config a →
    entries "vlans" (addVlan cast config a) = entries "vlans" config ++ [newVlan a] ∧
      entries "interfaces" (addVlan cast config a) =
        entries "interfaces" config ++ [newInterface a] ∧
      ∀ name, "vlans" ≠ name → "interfaces" ≠ name →
        entries name (addVlan cast config a) = entries name config
  /-- Removing a VLAN leaves the other entries unchanged. -/
  keepsRemoving : ∀ config tag parentIf,
    entries "vlans" (removeVlan cast config tag parentIf) =
        (entries "vlans" config).eraseP (hasTag cast tag parentIf) ∧
      entries "interfaces" (removeVlan cast config tag parentIf) =
        eraseDevice ((entries "vlans" config).find? (hasTag cast tag parentIf))
          (entries "interfaces" config) ∧
      ∀ name, "vlans" ≠ name → "interfaces" ≠ name →
        entries name (removeVlan cast config tag parentIf) = entries name config

/-- All edits are such. -/
theorem exactEdits (cast : IntCast) (upper : List Char → List Char) : ExactEdits cast upper where
  reads := Args.isRead
  undoes _ _ := removeVlan_addVlan
  repeats config a :=
    ⟨addDevice_addDevice cast config a, addOpt_addOpt config a, addVlan_addVlan_self cast config a⟩
  adds _ _ _ := addVlan_addVlan
  addsRemoves _ _ _ _ := removeVlan_addVlan_of_ne
  removes _ _ _ _ _ := removeVlan_removeVlan
  keepsAdding _ _ h := ⟨entries_vlans_addVlan h, entries_interfaces_addVlan h,
    fun _ => entries_addVlan_of_ne⟩
  keepsRemoving _ _ _ := ⟨entries_vlans_removeVlan, entries_interfaces_removeVlan,
    fun _ => entries_removeVlan_of_ne⟩

section Lab

/-- The integers of texts that are numbers, and zero for other texts. -/
def numeralCast : IntCast where
  toInt text := (Text.int? text.toList).getD 0
  toInt_toString n _ := by rw [Text.int?_toString, Option.getD_some]

/-- The description of the VLANs of a test network. -/
theorem toList_descrOf_lab (tag : ℤ) :
    (descrOf tag (.ofList ['l', 'a', 'b'])).toList = ['l', 'a', 'b'] := by
  have hne : String.ofList ['l', 'a', 'b'] ≠ "" := fun h => by
    have htext := congrArg String.toList h
    rw [String.toList_ofList] at htext
    cases htext
  rw [descrOf, if_neg hne, String.toList_ofList]

/-- The description of their interfaces. -/
theorem descrVal_lab (tag : ℤ) (opt : List Char) :
    descrVal id (upperDescr id tag (.ofList ['l', 'a', 'b'])).toList opt = ['l', 'a', 'b'] := by
  rw [upperDescr, String.toList_ofList, id, toList_descrOf_lab]
  rfl

/-- A VLAN of the test network with tag 10. -/
def labVlan (parentIf vlanif opt : List Char)
    (hnames : (parentIf ++ vlanif ++ opt).all (fun c => isInert c && isXmlChar c) = true)
    (hname : isXmlName opt = true) : Args id where
  tag := 10
  parentIf := .ofList parentIf
  vlanif := .ofList vlanif
  opt := .ofList opt
  ip := .ofList ['1', '0', '.', '0', '.', '0', '.', '1']
  subnet := 24
  description := .ofList ['l', 'a', 'b']
  isInt := by decide
  names := by
    have haddress : ∀ c ∈ ['1', '0', '.', '0', '.', '0', '.', '1'], isInert c = true :=
      List.all_eq_true.mp rfl
    rw [List.all_eq_true, List.forall_mem_append, List.forall_mem_append] at hnames
    obtain ⟨⟨hparent, hvlanif⟩, hopt⟩ := hnames
    rw [List.forall_mem_cons, List.forall_mem_cons, List.forall_mem_cons, List.forall_mem_singleton,
      String.toList_ofList, String.toList_ofList, String.toList_ofList, String.toList_ofList]
    exact ⟨fun c hc => (Bool.and_eq_true_iff.mp (hparent c hc)).1,
      fun c hc => (Bool.and_eq_true_iff.mp (hvlanif c hc)).1,
      fun c hc => (Bool.and_eq_true_iff.mp (hopt c hc)).1, haddress⟩
  descriptions := by
    have hlab : ∀ c ∈ ['l', 'a', 'b'], isInert c = true := List.all_eq_true.mp rfl
    have hplain : ∀ c ∈ ['l', 'a', 'b'], c ≠ '\'' ∧ c ≠ '\\' := fun c hc =>
      ⟨(ne_of_isInert (hlab c hc)).1, (ne_of_isInert (hlab c hc)).2.2.1⟩
    rw [toList_descrOf_lab, String.toList_ofList, descrVal_lab]
    exact List.forall_mem_cons.mpr ⟨hplain, List.forall_mem_singleton.mpr hplain⟩
  isName := by rw [String.toList_ofList, hname]
  isText := by
    have haddress : ∀ c ∈ ['1', '0', '.', '0', '.', '0', '.', '1'], isXmlChar c = true :=
      List.all_eq_true.mp rfl
    have hlab : ∀ c ∈ ['l', 'a', 'b'], isXmlChar c = true := List.all_eq_true.mp rfl
    rw [List.all_eq_true, List.forall_mem_append, List.forall_mem_append] at hnames
    obtain ⟨⟨hparent, hvlanif⟩, -⟩ := hnames
    rw [toList_descrOf_lab, String.toList_ofList, String.toList_ofList, String.toList_ofList,
      String.toList_ofList, descrVal_lab]
    have hdescr : ∀ text ∈ [['l', 'a', 'b'], ['l', 'a', 'b']], ∀ c ∈ text, isXmlChar c = true :=
      List.forall_mem_cons.mpr ⟨hlab, List.forall_mem_singleton.mpr hlab⟩
    refine List.forall_mem_cons.mpr ⟨fun c hc => (Bool.and_eq_true_iff.mp (hparent c hc)).2, ?_⟩
    refine List.forall_mem_cons.mpr ⟨fun c hc => (Bool.and_eq_true_iff.mp (hvlanif c hc)).2, ?_⟩
    exact List.forall_mem_cons.mpr ⟨haddress, hdescr⟩

/-- The VLAN on an interface of the parent `vtnet1`, which is there before. -/
def oldVlan : Args id :=
  labVlan ['v', 't', 'n', 'e', 't', '1'] ['v', 'l', 'a', 'n', '1'] ['o', 'p', 't', '1'] rfl rfl

/-- The VLAN with the same tag on no parent. -/
def bareVlan : Args id := labVlan [] ['v', 'l', 'a', 'n', '2'] ['o', 'p', 't', '2'] rfl rfl

/-- The configuration of the test network. -/
def labConfig : List Xml :=
  [.element "vlans" [] [newVlan oldVlan], .element "interfaces" [] [newInterface oldVlan]]

/-- Without a parent the VLAN that was there before is removed. -/
theorem not_removesAdded :
    ¬ ∀ config (a : Args id), Fresh numeralCast config a →
      removeVlan numeralCast (addVlan numeralCast config a) a.tag a.parentIf = withVlans config := by
  intro h
  have hvlans : entries "vlans" labConfig = [newVlan oldVlan] := rfl
  have hinterfaces : entries "interfaces" labConfig = [newInterface oldVlan] := rfl
  have hparent : oldVlan.parentIf ≠ bareVlan.parentIf := by decide
  have hdevice : oldVlan.vlanif ≠ bareVlan.vlanif := by decide
  have hfresh : Fresh numeralCast labConfig bareVlan :=
    { interfaces := rfl
      tag := by
        rw [hvlans, List.forall_mem_singleton]
        exact Bool.eq_false_iff.mpr fun hnew => hparent (isVlan_newVlan_iff.mp hnew).1
      vlanif := by
        rw [hvlans, List.forall_mem_singleton, property_vlanif_newVlan]
        exact fun _ => hdevice
      device := by
        rw [hinterfaces, List.forall_mem_singleton]
        exact Bool.eq_false_iff.mpr fun hon => hdevice (isOn_newInterface_iff.mp hon)
      opt := by
        rw [hinterfaces, List.forall_mem_singleton, isElement_newInterface]
        decide }
  have hold : hasTag numeralCast bareVlan.tag bareVlan.parentIf (newVlan oldVlan) = true :=
    hasTag_newVlan_iff.mpr ⟨rfl, Or.inl rfl⟩
  have hleft := congrArg (entries "vlans") (h labConfig bareVlan hfresh)
  rw [entries_vlans_removeVlan, entries_vlans_addVlan hfresh, entries_withVlans, hvlans,
    List.singleton_append, List.eraseP_cons_of_pos hold] at hleft
  have hif := congrArg (Xml.property "if") (List.cons.inj hleft).1
  rw [property_if_newVlan, property_if_newVlan] at hif
  exact hparent hif.symm

end Lab

end ProxmoxIaas.ConfigEdits
