import ProxmoxIaas.Foundation.Result
import ProxmoxIaas.Foundation.Text

/-!
# The Schema of Virtual Machines

The fields that requests and responses about VMs share, with their bounds and the validator of
the name. A validated name is a text of small letters, digits, hyphens and underscores.

## Main results

- `validateName_eq_ok`: a validated name is accepted again, as it is.
- `VmBase.validate_validate`: so are validated fields.
-/

namespace ProxmoxIaas.VmSchema

/-- `VALID_PROVIDERS`. -/
def validProviders : List String := ["docker", "vsphere", "proxmox"]

/-- The small letter of a character. The letters `A` to `Z` and the Kelvin sign are the ones with
a small letter that a name may have; the others stay outside of the pattern. -/
def lowerChar (c : Char) : Char := if c = Char.ofNat 0x212A then 'k' else c.toLower

/-- The characters that a name may have after its first one. -/
def isNameChar (c : Char) : Bool := c.isLower || c.isDigit || c = '_' || c = '-'

/-- A line that `SHELL_SAFE_PATTERN` matches. -/
def matchesLine : List Char → Bool
  | [] => false
  | c :: rest => c.isLower && decide (2 ≤ rest.length ∧ rest.length ≤ 49) && rest.all isNameChar

/-- `SHELL_SAFE_PATTERN.match`: the end of the pattern also fits before a last line feed. -/
def shellSafePattern (text : List Char) : Bool :=
  matchesLine text || (text.getLast? = some '\n' && matchesLine text.dropLast)

/-- The characters that `shlex.quote` does not quote. -/
def isUnquotedChar (c : Char) : Bool :=
  c.isAlphanum || c ∈ ['_', '@', '%', '+', '=', ':', ',', '.', '/', '-']

/-- Whether `shlex.quote` leaves a text as it is. -/
def quoteKeeps (text : List Char) : Bool := text ≠ [] && text.all isUnquotedChar

/-- `VMBase.validate_name`. -/
def validateName (v : String) : Except String String := do
  Except.require "VM name cannot be empty" (v ≠ "")
  let normalized := v.toList.map lowerChar
  Except.require ("VM name must start with lowercase letter, contain only lowercase letters, " ++
    "numbers, hyphens, and underscores (3-50 characters)") (shellSafePattern normalized = true)
  Except.require "VM name cannot start or end with hyphens or underscores"
    (normalized.head? ≠ some '-' ∧ normalized.getLast? ≠ some '-' ∧
      normalized.head? ≠ some '_' ∧ normalized.getLast? ≠ some '_')
  Except.require "VM name cannot contain consecutive hyphens or underscores"
    (¬ ['-', '-'] <:+: normalized ∧ ¬ ['_', '_'] <:+: normalized)
  Except.require "VM name contains unsafe characters for shell execution"
    (quoteKeeps normalized = true)
  return .ofList normalized

/-- `VMBase`. -/
structure VmBase where
  /-- Name. -/
  name : String
  /-- Description. -/
  description : Option String
  /-- Number of cores. -/
  cpu : ℤ
  /-- Memory in MB. -/
  ram : ℤ
  /-- Provider. -/
  provider : String
  /-- Image of a container or a VM. -/
  image : Option String
  deriving DecidableEq, Repr

/-- The checks of the fields and the validators: the fields as they are accepted. -/
def VmBase.validate (b : VmBase) : Option VmBase := do
  Option.require (3 ≤ b.name.length ∧ b.name.length ≤ 50)
  Option.require (∀ text ∈ b.description, text.length ≤ 500)
  Option.require (1 ≤ b.cpu ∧ b.cpu ≤ 32)
  Option.require (512 ≤ b.ram ∧ b.ram ≤ 65536)
  Option.require (b.provider ∈ validProviders)
  Option.require (∀ text ∈ b.image, text.length ≤ 255)
  let name ← (validateName b.name).toOption
  return { b with name := name }

/-- The small letter of a capital letter is among the small letters. -/
theorem toNat_toLower {c : Char} (h : c.isUpper = true) :
    c.toLower.toNat = c.toNat + 32 ∧ c.toNat ≤ 90 := by
  have hrange := of_decide_eq_true h
  have hz : c.toNat ≤ 90 := UInt32.le_iff_toNat_le.mp hrange.2
  refine ⟨?_, hz⟩
  have hlower : c.toLower.val = c.val + 32 := congrArg Char.val (dif_pos hrange)
  change c.toLower.val.toNat = c.toNat + 32
  rw [hlower]
  rw [UInt32.toNat_add]
  change (c.toNat + 32) % 2 ^ 32 = c.toNat + 32
  omega

/-- A character that is no capital letter is kept. -/
theorem toLower_of_not_isUpper {c : Char} (h : c.isUpper ≠ true) : c.toLower = c :=
  dif_neg fun hrange => h (decide_eq_true hrange)

/-- Small letters have themselves as small letters. -/
theorem lowerChar_lowerChar (c : Char) : lowerChar (lowerChar c) = lowerChar c := by
  unfold lowerChar
  by_cases hkelvin : c = Char.ofNat 0x212A
  · rw [if_pos hkelvin]
    decide
  · rw [if_neg hkelvin]
    by_cases hupper : c.isUpper = true
    · obtain ⟨hlower, hle⟩ := toNat_toLower hupper
      -- a small letter made from a capital one is neither the Kelvin sign nor a capital letter
      have hne : c.toLower ≠ Char.ofNat 0x212A := fun heq => by
        rw [heq] at hlower
        change 0x212A = c.toNat + 32 at hlower
        omega
      have hnot : c.toLower.isUpper ≠ true := fun hup => by
        have hbound := (toNat_toLower hup).2
        have ha : 65 ≤ c.toNat := UInt32.le_iff_toNat_le.mp (of_decide_eq_true hupper).1
        omega
      rw [if_neg hne, toLower_of_not_isUpper hnot]
    · rw [toLower_of_not_isUpper hupper, if_neg hkelvin, toLower_of_not_isUpper hupper]

/-- What the validator accepts, and what it returns. -/
theorem validateName_eq_ok {v name : String} (h : validateName v = .ok name) :
    name.toList = v.toList.map lowerChar ∧ validateName name = .ok name := by
  have h' := h
  simp only [validateName, Except.bind_eq_ok_iff, Except.require_eq_ok_iff,
    Except.pure_eq_ok_iff] at h'
  obtain ⟨-, hempty, -, hpattern, -, hends, -, hdouble, -, hquote, rfl⟩ := h'
  have hlist : (String.ofList (v.toList.map lowerChar)).toList = v.toList.map lowerChar :=
    String.toList_ofList
  refine ⟨hlist, ?_⟩
  have hidem : (v.toList.map lowerChar).map lowerChar = v.toList.map lowerChar := by
    rw [List.map_map]
    exact List.map_congr_left fun c _ => lowerChar_lowerChar c
  have hne : String.ofList (v.toList.map lowerChar) ≠ "" := fun heq => by
    rw [heq] at hlist
    exact hempty (String.toList_injective (List.map_eq_nil_iff.mp hlist.symm))
  simp only [validateName, Except.bind_eq_ok_iff, Except.require_eq_ok_iff,
    Except.pure_eq_ok_iff, hlist, hidem]
  exact ⟨⟨⟩, hne, ⟨⟩, hpattern, ⟨⟩, hends, ⟨⟩, hdouble, ⟨⟩, hquote, trivial⟩

/-- The bounds of fields that were accepted, and what they were made from. -/
theorem VmBase.validate_eq_some_iff {b b' : VmBase} :
    b.validate = some b' ↔ (3 ≤ b.name.length ∧ b.name.length ≤ 50) ∧
      (∀ text ∈ b.description, text.length ≤ 500) ∧ (1 ≤ b.cpu ∧ b.cpu ≤ 32) ∧
      (512 ≤ b.ram ∧ b.ram ≤ 65536) ∧ b.provider ∈ validProviders ∧
      (∀ text ∈ b.image, text.length ≤ 255) ∧
      ∃ name, validateName b.name = .ok name ∧ { b with name := name } = b' := by
  simp only [VmBase.validate, Option.bind_eq_bind, Option.bind_eq_some_iff,
    Option.require_eq_some_iff, Option.pure_def, Option.some.injEq, Except.toOption_eq_some_iff,
    exists_and_left, exists_const]

/-- Accepted fields are accepted again, as they are. -/
theorem VmBase.validate_validate {b b' : VmBase} (h : b.validate = some b') :
    b'.validate = some b' := by
  obtain ⟨hlength, hdescription, hcpu, hram, hprovider, himage, name, hname, rfl⟩ :=
    validate_eq_some_iff.mp h
  obtain ⟨hlist, hagain⟩ := validateName_eq_ok hname
  have hsame : name.length = b.name.length := by
    rw [← String.length_toList, hlist, List.length_map, String.length_toList]
  exact validate_eq_some_iff.mpr
    ⟨hsame ▸ hlength, hdescription, hcpu, hram, hprovider, himage, name, hagain, rfl⟩

end ProxmoxIaas.VmSchema
