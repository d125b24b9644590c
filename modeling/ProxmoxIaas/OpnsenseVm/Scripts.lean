import ProxmoxIaas.Foundation.Php
import ProxmoxIaas.Foundation.Text

/-!
# The Scripts that Add Interfaces

`add_vlan_device` and `add_opt_interface` put PHP scripts together from fixed code and the texts
they are given: descriptions, names of interfaces and addresses, which are inserted between quotes
as they are.

## Main results

- `isRead_scripts_iff`: for which texts the scripts mean what was asked.
- `isPlain_wireguardDescr_iff`, `isPlain_of_acceptsCreate`: which names of tunnels these are.
-/

namespace ProxmoxIaas.OpnsenseVm

open Php

/-- Load the configuration. -/
def loadConfig : List Piece :=
  [.code "\n$cfg = ".toList, .single "/conf/config.xml".toList, .code ";\n$tmp = $cfg . ".toList,
    .single ".tmp.".toList,
    .code " . getmypid();\n$xml = simplexml_load_file($cfg);\nif ($xml === false) \x7b die(".toList,
    .double "Cannot load config.xml".toList, .code "); \x7d\n".toList]

/-- Save the configuration, and report. -/
def saveConfig (report : List Char) : List Piece :=
  [.code "\n$dom = new DOMDocument(".toList, .single "1.0".toList,
    .code ");\n$dom->preserveWhiteSpace = false;\n$dom->formatOutput = true;\n".toList,
    .code "$dom->loadXML($xml->asXML());\nfile_put_contents($tmp, $dom->saveXML());\n".toList,
    .code "rename($tmp, $cfg);\necho ".toList, .double report, .code ";\n".toList]

/-- Add the section of the VLANs if it is missing, up to the search for the VLAN. -/
def addVlans : List Piece :=
  [.code "\nif (!isset($xml->vlans)) \x7b\n    $xml->addChild(".toList, .single "vlans".toList,
    .code ");\n    $xml->vlans->addAttribute(".toList, .single "version".toList,
    .code ", ".toList, .single "1.0.0".toList,
    .code ");\n    $xml->vlans->addAttribute(".toList, .single "description".toList,
    .code ", ".toList, .single "VLAN configuration".toList,
    .code ");\n\x7d\n\n$found = null;\nforeach ($xml->vlans->vlan as $v) \x7b\n".toList,
    .code "    if ((string)$v->if === ".toList]

/-- The number as it is inserted. -/
def number (n : ℤ) : List Char := (toString n).toList

/-- What `add_vlan_device` reports. -/
def vlanReport (tag : ℤ) (vlanif : List Char) : List Char :=
  "ok: vlan ".toList ++ vlanif ++ " tag=".toList ++ number tag

/-- The script of `add_vlan_device`. -/
def addVlanDeviceScript (tag : ℤ) (parentIf vlanif descr : List Char) : List Piece :=
  loadConfig ++ addVlans ++
  ([.single parentIf, .code " && (int)$v->tag === ".toList, .code (number tag),
    .code ") \x7b\n        $found = $v;\n        break;\n    \x7d\n\x7d\n".toList,
    .code "if ($found === null) \x7b\n    $found = $xml->vlans->addChild(".toList,
    .single "vlan".toList, .code ");\n\x7d\n\n$found->if     = ".toList,
    .single parentIf, .code ";\n$found->tag    = ".toList, .code (number tag),
    .code ";\n$found->pcp    = 0;\n$found->proto  = ".toList, .single [],
    .code ";\n$found->descr  = ".toList, .single descr,
    .code ";\n$found->vlanif = ".toList, .single vlanif, .code ";\n".toList] : List Piece) ++
  saveConfig (vlanReport tag vlanif)

/-- What `add_opt_interface` reports. -/
def optReport (optName vlanif ip : List Char) (subnet : ℤ) : List Char :=
  "ok: ".toList ++ optName ++ " -> ".toList ++ vlanif ++ " ".toList ++ ip ++ "/".toList ++
    number subnet

/-- The fields of an interface that are always the same. -/
def fixedFields : List Piece :=
  [.code ";\n\nif (!isset($iface->ipaddrv6))    $iface->addChild(".toList,
    .single "ipaddrv6".toList, .code ", ".toList, .single [],
    .code ");\nelse                             $iface->ipaddrv6 = ".toList, .single [],
    .code ";\nif (!isset($iface->blockpriv))   $iface->addChild(".toList,
    .single "blockpriv".toList, .code ", ".toList, .single "0".toList,
    .code ");\nelse                             $iface->blockpriv = ".toList,
    .single "0".toList,
    .code ";\nif (!isset($iface->blockbogons)) $iface->addChild(".toList,
    .single "blockbogons".toList, .code ", ".toList, .single "0".toList,
    .code ");\nelse                             $iface->blockbogons = ".toList,
    .single "0".toList, .code ";\n".toList]

/-- The value of `enable`. -/
def enableVal (enable : Bool) : List Char := if enable then "1".toList else "0".toList

/-- The description of an interface: the one that is given, or the name in capital letters. -/
def descrVal (upper : List Char → List Char) (descr optName : List Char) : List Char :=
  if descr = [] then upper optName else descr

/-- The script of `add_opt_interface`. -/
def addOptInterfaceScript (upper : List Char → List Char) (optName vlanif ip : List Char) (subnet : ℤ)
    (descr : List Char) (enable : Bool) : List Piece :=
  loadConfig ++
  ([.code "if (!isset($xml->interfaces)) \x7b die(".toList,
    .double "No <interfaces> section in config.xml".toList, .code "); \x7d\n\n$opt = ".toList,
    .single optName,
    .code ";\nif (!isset($xml->interfaces->\x7b$opt\x7d)) \x7b\n".toList,
    .code "    $xml->interfaces->addChild($opt);\n\x7d\n".toList,
    .code "$iface = $xml->interfaces->\x7b$opt\x7d;\n\n$iface->descr   = ".toList,
    .single (descrVal upper descr optName), .code ";\n$iface->if      = ".toList,
    .single vlanif, .code ";\n$iface->enable  = ".toList, .single (enableVal enable),
    .code ";\n$iface->ipaddr  = ".toList, .single ip,
    .code ";\n$iface->subnet  = ".toList, .code (number subnet)] : List Piece) ++
  fixedFields ++ saveConfig (optReport optName vlanif ip subnet)

/-- A character of the pattern for names of tunnels. -/
def isNameChar (c : Char) : Bool := ('a' ≤ c && c ≤ 'z') || c.isDigit || c = '-'

/-- The pattern `[a-z0-9][a-z0-9-]{1,98}[a-z0-9]`. -/
def matchesName (text : List Char) : Bool :=
  3 ≤ text.length && text.length ≤ 100 && text.all isNameChar && text.head? ≠ some '-' &&
    text.getLast? ≠ some '-'

/-- The names that `WireGuardTunnelCreate` accepts; the end of the pattern may also be right before a
line break at the end. -/
def acceptsCreate (name : List Char) : Bool :=
  2 ≤ name.length && name.length ≤ 100 &&
    (matchesName name || (name.getLast? = some '\n' && matchesName name.dropLast))

/-- The name of a tunnel after `update_tunnel`; `WireGuardTunnelUpdate` accepts every name. -/
def updatedName (name : List Char) (update : Option (List Char)) : List Char := update.getD name

/-- The description of the interface of a tunnel. -/
def wireguardDescr (name : List Char) : List Char := "WireGuard-".toList ++ name

/-- The description of a VLAN, which no caller gives. -/
def vlanDescr (tenantId vlanTag : ℕ) : List Char :=
  "tenant".toList ++ Text.digits tenantId ++ "-vlan".toList ++ Text.digits vlanTag

/-- Digits are characters of the code. -/
theorem isCode_of_mem_digits {n : ℕ} : ∀ c ∈ Text.digits n, isCode c = true := fun c hc => by
  rw [isCode, Char.isAlphanum, Text.isDigit_of_mem_digits hc, Bool.or_true, Bool.true_or]

/-- Numbers have digits and a sign. -/
theorem isDigit_or_eq_of_mem_number {n : ℤ} : ∀ c ∈ number n, c.isDigit = true ∨ c = '-' := by
  intro c hc
  cases n with
  | ofNat m =>
    have hdigits : number (Int.ofNat m) = Text.digits m := by
      show (toString (m : ℕ)).toList = Text.digits m
      simp [Text.digits]
    exact Or.inl (Text.isDigit_of_mem_digits (hdigits ▸ hc))
  | negSucc m =>
    have hdigits : number (Int.negSucc m) = '-' :: Text.digits (m + 1) := by
      show ("-" ++ toString (m + 1)).toList = '-' :: Text.digits (m + 1)
      simp [Text.digits]
    rw [hdigits] at hc
    obtain rfl | hc := List.mem_cons.mp hc
    · exact Or.inr rfl
    · exact Or.inl (Text.isDigit_of_mem_digits hc)

/-- Numbers are code. -/
theorem isCode_of_mem_number {n : ℤ} : ∀ c ∈ number n, isCode c = true := by
  intro c hc
  rcases isDigit_or_eq_of_mem_number c hc with hdigit | rfl
  · rw [isCode, Char.isAlphanum, hdigit, Bool.or_true, Bool.true_or]
  · rfl

/-- The fixed pieces at the start are faithful. -/
theorem isFaithful_loadConfig : ∀ piece ∈ loadConfig, piece.IsFaithful := by
  simp only [loadConfig, List.forall_mem_cons]
  exact ⟨isFaithful_code _ rfl, isFaithful_single _ rfl, isFaithful_code _ rfl,
    isFaithful_single _ rfl, isFaithful_code _ rfl, isFaithful_double _ rfl,
    isFaithful_code _ rfl, nofun⟩

/-- The fixed pieces about the section of the VLANs are faithful. -/
theorem isFaithful_addVlans : ∀ piece ∈ addVlans, piece.IsFaithful := by
  simp only [addVlans, List.forall_mem_cons]
  exact ⟨isFaithful_code _ rfl, isFaithful_single _ rfl, isFaithful_code _ rfl,
    isFaithful_single _ rfl, isFaithful_code _ rfl, isFaithful_single _ rfl,
    isFaithful_code _ rfl, isFaithful_single _ rfl, isFaithful_code _ rfl,
    isFaithful_single _ rfl, isFaithful_code _ rfl, isFaithful_code _ rfl, nofun⟩

/-- The fixed fields of an interface are faithful. -/
theorem isFaithful_fixedFields : ∀ piece ∈ fixedFields, piece.IsFaithful := by
  simp only [fixedFields, List.forall_mem_cons]
  exact ⟨isFaithful_code _ rfl, isFaithful_single _ rfl, isFaithful_code _ rfl, isPlain_nil,
    isFaithful_code _ rfl, isPlain_nil, isFaithful_code _ rfl, isFaithful_single _ rfl,
    isFaithful_code _ rfl, isFaithful_single _ rfl, isFaithful_code _ rfl,
    isFaithful_single _ rfl, isFaithful_code _ rfl, isFaithful_single _ rfl,
    isFaithful_code _ rfl, isFaithful_single _ rfl, isFaithful_code _ rfl,
    isFaithful_single _ rfl, isFaithful_code _ rfl, nofun⟩

/-- The pieces at the end are faithful if and only if the report is. -/
theorem isFaithful_saveConfig_iff {report : List Char} :
    (∀ piece ∈ saveConfig report, piece.IsFaithful) ↔ IsVerbatim report := by
  constructor
  · intro h
    simp only [saveConfig, List.forall_mem_cons] at h
    obtain ⟨_, _, _, _, _, hreport, _⟩ := h
    exact hreport
  · intro h
    simp only [saveConfig, List.forall_mem_cons]
    exact ⟨isFaithful_code _ rfl, isFaithful_single _ rfl, isFaithful_code _ rfl,
      isFaithful_code _ rfl, isFaithful_code _ rfl, h, isFaithful_code _ rfl, nofun⟩

/-- The script of `add_vlan_device` means what was asked if and only if the texts it inserts are
plain and its report is verbatim. -/
theorem isRead_addVlanDeviceScript_iff {tag : ℤ} {parentIf vlanif descr : List Char} :
    IsRead (addVlanDeviceScript tag parentIf vlanif descr) ↔
      IsPlain parentIf ∧ IsPlain vlanif ∧ IsPlain descr ∧ IsVerbatim (vlanReport tag vlanif) := by
  rw [isRead_iff, addVlanDeviceScript, List.forall_mem_append, List.forall_mem_append,
    List.forall_mem_append, isFaithful_saveConfig_iff]
  constructor
  · rintro ⟨⟨_, h⟩, hreport⟩
    simp only [List.forall_mem_cons] at h
    obtain ⟨hparent, _, _, _, _, _, _, _, _, _, _, _, _, hdescr, _, hvlanif, _⟩ := h
    exact ⟨hparent, hvlanif, hdescr, hreport⟩
  · rintro ⟨hparent, hvlanif, hdescr, hreport⟩
    refine ⟨⟨⟨isFaithful_loadConfig, isFaithful_addVlans⟩, ?_⟩, hreport⟩
    simp only [List.forall_mem_cons]
    exact ⟨hparent, isFaithful_code _ rfl, isCode_of_mem_number, isFaithful_code _ rfl,
      isFaithful_code _ rfl, isFaithful_single _ rfl, isFaithful_code _ rfl, hparent,
      isFaithful_code _ rfl, isCode_of_mem_number, isFaithful_code _ rfl, isPlain_nil,
      isFaithful_code _ rfl, hdescr, isFaithful_code _ rfl, hvlanif, isFaithful_code _ rfl, nofun⟩

/-- The script of `add_opt_interface` means what was asked if and only if the texts it inserts are
plain and its report is verbatim. -/
theorem isRead_addOptInterfaceScript_iff {upper : List Char → List Char}
    {optName vlanif ip descr : List Char} {subnet : ℤ} {enable : Bool} :
    IsRead (addOptInterfaceScript upper optName vlanif ip subnet descr enable) ↔
      IsPlain optName ∧ IsPlain vlanif ∧ IsPlain ip ∧ IsPlain (descrVal upper descr optName) ∧
        IsVerbatim (optReport optName vlanif ip subnet) := by
  rw [isRead_iff, addOptInterfaceScript, List.forall_mem_append, List.forall_mem_append,
    List.forall_mem_append, isFaithful_saveConfig_iff]
  constructor
  · rintro ⟨⟨⟨_, h⟩, _⟩, hreport⟩
    simp only [List.forall_mem_cons] at h
    obtain ⟨_, _, _, hopt, _, _, _, hdescr, _, hvlanif, _, _, _, hip, _⟩ := h
    exact ⟨hopt, hvlanif, hip, hdescr, hreport⟩
  · rintro ⟨hopt, hvlanif, hip, hdescr, hreport⟩
    refine ⟨⟨⟨isFaithful_loadConfig, ?_⟩, isFaithful_fixedFields⟩, hreport⟩
    have henable : IsPlain (enableVal enable) := by
      cases enable with
      | true => exact isFaithful_single _ rfl
      | false => exact isFaithful_single _ rfl
    simp only [List.forall_mem_cons]
    exact ⟨isFaithful_code _ rfl, isFaithful_double _ rfl, isFaithful_code _ rfl, hopt,
      isFaithful_code _ rfl, isFaithful_code _ rfl, isFaithful_code _ rfl, hdescr,
      isFaithful_code _ rfl, hvlanif, isFaithful_code _ rfl, henable, isFaithful_code _ rfl, hip,
      isFaithful_code _ rfl, isCode_of_mem_number, nofun⟩

/-- The scripts mean what was asked, with every text as it is and no other code, if and only if the
texts that are inserted are plain and the reports are verbatim. -/
theorem isRead_scripts_iff (upper : List Char → List Char) (tag subnet : ℤ)
    (parentIf vlanif optName ip descr : List Char) (enable : Bool) :
    (IsRead (addVlanDeviceScript tag parentIf vlanif descr) ↔
      IsPlain parentIf ∧ IsPlain vlanif ∧ IsPlain descr ∧ IsVerbatim (vlanReport tag vlanif)) ∧
    (IsRead (addOptInterfaceScript upper optName vlanif ip subnet descr enable) ↔
      IsPlain optName ∧ IsPlain vlanif ∧ IsPlain ip ∧ IsPlain (descrVal upper descr optName) ∧
        IsVerbatim (optReport optName vlanif ip subnet)) :=
  ⟨isRead_addVlanDeviceScript_iff, isRead_addOptInterfaceScript_iff⟩

section Names

/-- The description of the interface of a tunnel is plain if and only if the name is. -/
theorem isPlain_wireguardDescr_iff {name : List Char} :
    IsPlain (wireguardDescr name) ↔ IsPlain name := by
  have hcode : (Piece.code "WireGuard-".toList).IsFaithful := isFaithful_code _ rfl
  exact isPlain_append_iff fun c hc => ne_of_isCode (hcode c hc)

/-- Characters of the pattern are neither quotes nor backslashes. -/
theorem ne_of_isNameChar {c : Char} (h : isNameChar c = true) : c ≠ '\'' ∧ c ≠ '\\' := by
  constructor
  · rintro rfl
    exact absurd h (by decide)
  · rintro rfl
    exact absurd h (by decide)

/-- A name that matches the pattern has neither quotes nor backslashes. -/
theorem ne_of_mem_of_matchesName {name : List Char} (h : matchesName name = true) :
    ∀ c ∈ name, c ≠ '\'' ∧ c ≠ '\\' := by
  simp only [matchesName, Bool.and_eq_true] at h
  exact fun c hc => ne_of_isNameChar (List.all_eq_true.mp h.1.1.2 c hc)

/-- Every name that a tunnel can be created with is plain. -/
theorem isPlain_of_acceptsCreate {name : List Char} (h : acceptsCreate name = true) :
    IsPlain name := by
  simp only [acceptsCreate, Bool.and_eq_true, Bool.or_eq_true, decide_eq_true_eq] at h
  obtain hmatches | ⟨hlast, hmatches⟩ := h.2
  · exact isPlain_of_forall (ne_of_mem_of_matchesName hmatches)
  · -- the line break at the end is plain as well
    rw [← List.dropLast_append_getLast? '\n' hlast]
    refine (isPlain_append_iff (ne_of_mem_of_matchesName hmatches)).mpr ?_
    exact isPlain_of_forall fun c hc => ne_of_isCode (List.mem_singleton.mp hc ▸ rfl)

/-- The description of the interface of a tunnel is plain if and only if the last name it was given
is plain: a tunnel keeps a plain name until it is updated. -/
theorem isPlain_updatedName_iff {name : List Char} (h : acceptsCreate name = true)
    (update : Option (List Char)) :
    IsPlain (wireguardDescr (updatedName name update)) ↔ ∀ new ∈ update, IsPlain new := by
  rw [isPlain_wireguardDescr_iff]
  cases update with
  | none => exact iff_of_true (isPlain_of_acceptsCreate h) nofun
  | some new =>
    constructor
    · rintro hplain _ ⟨⟩
      exact hplain
    · exact fun hplain => hplain new rfl

/-- The description of a VLAN is plain. -/
theorem isPlain_vlanDescr (tenantId vlanTag : ℕ) : IsPlain (vlanDescr tenantId vlanTag) := by
  have htenant : (Piece.code "tenant".toList).IsFaithful := isFaithful_code _ rfl
  have hvlan : (Piece.code "-vlan".toList).IsFaithful := isFaithful_code _ rfl
  have hcode : ∀ c ∈ vlanDescr tenantId vlanTag, isCode c = true := by
    unfold vlanDescr
    have hstart := List.forall_mem_append.mpr ⟨htenant, isCode_of_mem_digits (n := tenantId)⟩
    have hmiddle := List.forall_mem_append.mpr ⟨hstart, hvlan⟩
    exact List.forall_mem_append.mpr ⟨hmiddle, isCode_of_mem_digits⟩
  exact isPlain_of_forall fun c hc => ne_of_isCode (hcode c hc)

end Names

/-- A tunnel that is renamed while it is provisioned. -/
theorem not_isRead_scripts :
    ¬ ∀ name update, acceptsCreate name = true →
      IsRead (addOptInterfaceScript id "opt1".toList "wg0".toList "10.200.0.1".toList 24
        (wireguardDescr (updatedName name update)) true) := by
  intro h
  have hread := h ['v', 'p', 'n'] (some ['O', '\'', 'B', 'r', 'i', 'e', 'n']) (by decide)
  obtain ⟨_, _, _, hdescr, _⟩ := isRead_addOptInterfaceScript_iff.mp hread
  rw [descrVal, if_neg (by decide), isPlain_wireguardDescr_iff] at hdescr
  exact hdescr.noQuote (by decide)

end ProxmoxIaas.OpnsenseVm
