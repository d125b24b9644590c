import ProxmoxIaas.Foundation.Json
import ProxmoxIaas.Quota.Model

/-!
# Quota Settings as JSON

The limits of a tenant are kept as a JSON text. Tenants are updated with any text, and every check of
a quota reads it. Limits are validated by pydantic, which is a parameter: its conversion of booleans
and floating-point numbers to integers.

## Main results

- `settings_iff`: which limits are written and read back, and which texts are read at all.
-/

namespace ProxmoxIaas.Quota

/-- The conversion of values to integers by pydantic. -/
structure IntField where
  /-- The number that a boolean is converted to, if it is. -/
  ofBool : Bool → Option ℕ
  /-- The number that a floating-point number which is not negative is converted to, if it is. -/
  ofFloat : Json.Binary64 → Option ℕ
  /-- The number that an integer is converted to. -/
  ofInt : ℕ → Option ℕ
  /-- An integer is taken as it is. -/
  ofInt_eq : ∀ n, ofInt n = some n

/-- The conversion that the documentation of pydantic describes: booleans are numbers, and so are
floating-point numbers without a fraction. -/
def IntField.lax : IntField where
  ofBool value := some value.toNat
  ofFloat
    | .finite value => if value.den = 1 then some value.num.toNat else none
    | .infinite _ => none
    | .nan => none
  ofInt := some
  ofInt_eq _ := rfl

/-- Why a value is refused. -/
inductive FieldError where
  /-- A `ValueError`, which pydantic collects. -/
  | invalid
  /-- A `TypeError`, which ends the validation. -/
  | typeError
  deriving DecidableEq, Repr

/-- The result of a conversion. -/
def converted : Option ℕ → Except FieldError (Option ℕ)
  | some n => .ok (some n)
  | none => .error .invalid

/-- Validate a limit: `validate_positive_or_null` compares it to zero, and it is converted then. -/
def validateField (field : IntField) : Json.Value → Except FieldError (Option ℕ)
  | .null => .ok none
  | .bool value => converted (field.ofBool value)
  | .int n => if n < 0 then .error .invalid else converted (field.ofInt n.toNat)
  | .float value => if value.isNegative then .error .invalid else converted (field.ofFloat value)
  -- these cannot be compared to a number
  | .text _ | .array _ | .object _ => .error .typeError

/-- The limits by their names, in the order of the fields. -/
def namedLimits (quota : QuotaSettings) : List (List Char × Option ℕ) :=
  [("max_vms".toList, quota.maxVms), ("max_cpu_cores".toList, quota.maxCpuCores),
    ("max_ram_mb".toList, quota.maxRamMb), ("max_disk_gb".toList, quota.maxDiskGb),
    ("max_networks".toList, quota.maxNetworks)]

/-- `to_settings_json`; `none` is a `ValueError` for a number with too many digits. -/
def toSettingsJson (quota : QuotaSettings) : Option (List Char) := Json.dumps? (namedLimits quota)

/-- Settings without limits. -/
def noLimits : QuotaSettings := ⟨none, none, none, none, none⟩

/-- Validate the value of a field; a missing one has no limit. -/
def validateMember (field : IntField) (members : List (List ℕ × Json.Value)) (name : String) :
    Except FieldError (Option ℕ) :=
  match Json.member? members (name.toList.map Char.toNat) with
  | some value => validateField field value
  | none => .ok none

/-- The names of the fields. -/
def fieldNames : List String :=
  ["max_vms", "max_cpu_cores", "max_ram_mb", "max_disk_gb", "max_networks"]

/-- `cls(**data)`, where only the names of fields are kept: a `TypeError` for any field comes before
the errors that are collected. -/
def construct (field : IntField) (members : List (List ℕ × Json.Value)) :
    Except FieldError QuotaSettings :=
  if fieldNames.any fun name => validateMember field members name = .error .typeError then
    .error .typeError
  else do
    let maxVms ← validateMember field members "max_vms"
    let maxCpuCores ← validateMember field members "max_cpu_cores"
    let maxRamMb ← validateMember field members "max_ram_mb"
    let maxDiskGb ← validateMember field members "max_disk_gb"
    let maxNetworks ← validateMember field members "max_networks"
    return ⟨maxVms, maxCpuCores, maxRamMb, maxDiskGb, maxNetworks⟩

/-- The errors that `from_settings_json` lets through. -/
inductive SettingsError where
  /-- The JSON value has no members. -/
  | attributeError
  /-- A limit is invalid. -/
  | validationError
  /-- A number has too many digits. -/
  | valueError
  /-- Values are nested too deeply. -/
  | recursionError
  deriving DecidableEq, Repr

/-- `from_settings_json`, where at least one value can be nested. -/
def fromSettingsJson (limit : ℕ) (field : IntField) (settings : Option (List Char)) :
    Except SettingsError QuotaSettings :=
  match settings with
  | none | some [] => .ok noLimits
  | some text =>
    match Json.loads (limit + 1) text with
    | .error .decode => .ok noLimits
    | .error .digits => .error .valueError
    | .error .recursion => .error .recursionError
    | .ok (.object members) =>
      match construct field members with
      | .ok quota => .ok quota
      | .error .typeError => .ok noLimits
      | .error .invalid => .error .validationError
    | .ok _ => .error .attributeError

/-- A value that is no number. -/
def IsCompound : Json.Value → Prop
  | .text _ | .array _ | .object _ => True
  | _ => False

/-- A value that is a limit: `null`, or what pydantic takes for an integer and is not negative. -/
def IsLimit (field : IntField) : Json.Value → Prop
  | .null => True
  | .bool value => (field.ofBool value).isSome
  | .int n => 0 ≤ n
  | .float value => value.isNegative = false ∧ (field.ofFloat value).isSome
  | _ => False

/-- A field is refused by a `TypeError` if and only if its value is no number. -/
theorem validateField_eq_typeError_iff {field : IntField} {value : Json.Value} :
    validateField field value = .error .typeError ↔ IsCompound value := by
  have hconverted (n : Option ℕ) : converted n ≠ .error .typeError := by
    cases n with
    | none => exact nofun
    | some n => exact nofun
  cases value with
  | null => exact iff_of_false nofun id
  | bool value => exact iff_of_false (hconverted _) id
  | int n =>
    rw [validateField]
    split
    · exact iff_of_false nofun id
    · exact iff_of_false (hconverted _) id
  | float value =>
    rw [validateField]
    split
    · exact iff_of_false nofun id
    · exact iff_of_false (hconverted _) id
  | text codePoints => exact iff_of_true rfl trivial
  | array elements => exact iff_of_true rfl trivial
  | object members => exact iff_of_true rfl trivial

/-- A field is accepted if and only if its value is a limit. -/
theorem validateField_eq_ok_iff {field : IntField} {value : Json.Value} :
    (∃ n, validateField field value = .ok n) ↔ IsLimit field value := by
  have hconverted (n : Option ℕ) : (∃ m, converted n = .ok m) ↔ n.isSome := by
    cases n with
    | none => exact iff_of_false nofun nofun
    | some n => exact iff_of_true ⟨some n, rfl⟩ rfl
  cases value with
  | null => exact iff_of_true ⟨none, rfl⟩ trivial
  | bool value => exact hconverted _
  | int n =>
    rw [validateField, IsLimit]
    split
    next hneg => exact iff_of_false nofun (not_le.mpr hneg)
    next hneg =>
      rw [hconverted, field.ofInt_eq]
      exact iff_of_true rfl (not_lt.mp hneg)
  | float value =>
    rw [validateField, IsLimit]
    split
    next hneg => exact iff_of_false nofun fun h => Bool.noConfusion (hneg.symm.trans h.1)
    next hneg =>
      rw [hconverted]
      exact (and_iff_right (Bool.eq_false_iff.mpr hneg)).symm
  | text codePoints => exact iff_of_false nofun id
  | array elements => exact iff_of_false nofun id
  | object members => exact iff_of_false nofun id

section Construct

variable {field : IntField} {members : List (List ℕ × Json.Value)}

/-- The value of a field, if the object has the member. -/
def fieldValue? (members : List (List ℕ × Json.Value)) (name : String) : Option Json.Value :=
  Json.member? members (name.toList.map Char.toNat)

/-- A member is refused by a `TypeError` if and only if it is there and no number. -/
theorem validateMember_eq_typeError_iff {name : String} :
    validateMember field members name = .error .typeError ↔
      ∃ value ∈ fieldValue? members name, IsCompound value := by
  unfold validateMember fieldValue?
  split
  next value heq =>
    rw [validateField_eq_typeError_iff, heq]
    exact ⟨fun h => ⟨value, rfl, h⟩, by rintro ⟨_, ⟨⟩, h⟩; exact h⟩
  next heq =>
    rw [heq]
    exact iff_of_false nofun nofun

/-- A member is accepted if and only if it is a limit or missing. -/
theorem validateMember_eq_ok_iff {name : String} :
    (∃ n, validateMember field members name = .ok n) ↔
      ∀ value ∈ fieldValue? members name, IsLimit field value := by
  unfold validateMember fieldValue?
  split
  next value heq =>
    rw [validateField_eq_ok_iff, heq]
    exact ⟨by rintro h _ ⟨⟩; exact h, fun h => h value rfl⟩
  next heq =>
    rw [heq]
    exact iff_of_true ⟨none, rfl⟩ nofun

/-- The settings are refused by a `TypeError` if and only if some limit is no number. -/
theorem construct_eq_typeError_iff :
    construct field members = .error .typeError ↔
      ∃ name ∈ fieldNames, ∃ value ∈ fieldValue? members name, IsCompound value := by
  unfold construct
  split
  next hany =>
    obtain ⟨name, hname, h⟩ := List.any_eq_true.mp hany
    exact iff_of_true rfl ⟨name, hname, validateMember_eq_typeError_iff.mp (of_decide_eq_true h)⟩
  next hnone =>
    have hnot : ∀ name ∈ fieldNames, validateMember field members name ≠ .error .typeError :=
      fun name hname h => hnone (List.any_eq_true.mpr ⟨name, hname, decide_eq_true h⟩)
    refine iff_of_false (fun h => ?_) fun ⟨name, hname, h⟩ =>
      hnot name hname (validateMember_eq_typeError_iff.mpr h)
    -- an error of the validation is the error of one of its fields
    simp only [Except.bind_eq_error_iff] at h
    obtain h | ⟨_, _, h | ⟨_, _, h | ⟨_, _, h | ⟨_, _, h | ⟨_, _, h⟩⟩⟩⟩⟩ := h
    · exact hnot "max_vms" (by simp [fieldNames]) h
    · exact hnot "max_cpu_cores" (by simp [fieldNames]) h
    · exact hnot "max_ram_mb" (by simp [fieldNames]) h
    · exact hnot "max_disk_gb" (by simp [fieldNames]) h
    · exact hnot "max_networks" (by simp [fieldNames]) h
    · cases h

/-- The settings are accepted if and only if every limit is one or missing. -/
theorem construct_eq_ok_iff :
    (∃ quota, construct field members = .ok quota) ↔
      ∀ name ∈ fieldNames, ∀ value ∈ fieldValue? members name, IsLimit field value := by
  simp only [← validateMember_eq_ok_iff]
  constructor
  · rintro ⟨quota, h⟩
    unfold construct at h
    split at h
    next => cases h
    next =>
      simp only [Except.bind_eq_ok_iff] at h
      obtain ⟨maxVms, h₁, maxCpuCores, h₂, maxRamMb, h₃, maxDiskGb, h₄, maxNetworks, h₅, _⟩ := h
      simp only [fieldNames, List.forall_mem_cons]
      exact ⟨⟨_, h₁⟩, ⟨_, h₂⟩, ⟨_, h₃⟩, ⟨_, h₄⟩, ⟨_, h₅⟩, List.forall_mem_nil _⟩
  · intro h
    have hnone : ¬ fieldNames.any
        (fun name => validateMember field members name = .error .typeError) = true := fun hany => by
      obtain ⟨name, hname, herror⟩ := List.any_eq_true.mp hany
      obtain ⟨n, hn⟩ := h name hname
      rw [of_decide_eq_true herror] at hn
      cases hn
    simp only [fieldNames, List.forall_mem_cons] at h
    obtain ⟨⟨_, h₁⟩, ⟨_, h₂⟩, ⟨_, h₃⟩, ⟨_, h₄⟩, ⟨_, h₅⟩, _⟩ := h
    rw [construct, if_neg hnone, h₁, h₂, h₃, h₄, h₅]
    exact ⟨_, rfl⟩

end Construct

/-- The text is read: it is no JSON, or an object where some limit is no number, or where every limit
is one or missing. -/
def Readable (limit : ℕ) (field : IntField) (text : List Char) : Prop :=
  Json.loads (limit + 1) text = .error .decode ∨
    ∃ members, Json.loads (limit + 1) text = .ok (.object members) ∧
      ((∃ name ∈ fieldNames, ∃ value ∈ fieldValue? members name, IsCompound value) ∨
        ∀ name ∈ fieldNames, ∀ value ∈ fieldValue? members name, IsLimit field value)

/-- What is said about the members of an object that was read. -/
theorem exists_object_iff {members : List (List ℕ × Json.Value)}
    {p : List (List ℕ × Json.Value) → Prop} :
    (Except.ok (.object members) = (.error .decode : Except Json.Error Json.Value) ∨
      ∃ members', Except.ok (.object members) =
        (.ok (.object members') : Except Json.Error Json.Value) ∧ p members') ↔ p members := by
  constructor
  · rintro (h | ⟨_, ⟨⟩, h⟩)
    · cases h
    · exact h
  · exact fun h => Or.inr ⟨members, rfl, h⟩

/-- Settings are read if and only if they are missing or empty, or their text is readable. -/
theorem fromSettingsJson_returns_iff {limit : ℕ} {field : IntField} {settings : Option (List Char)} :
    (∃ quota, fromSettingsJson limit field settings = .ok quota) ↔
      ∀ text ∈ settings, text ≠ [] → Readable limit field text := by
  match settings with
  | none => exact iff_of_true ⟨noLimits, rfl⟩ nofun
  | some [] => exact iff_of_true ⟨noLimits, rfl⟩ (by rintro _ ⟨⟩ hne; exact absurd rfl hne)
  | some (c :: text) =>
    have hsome : (∀ text' ∈ some (c :: text), text' ≠ [] → Readable limit field text') ↔
        Readable limit field (c :: text) :=
      ⟨fun h => h _ rfl nofun, by rintro h _ ⟨⟩ _; exact h⟩
    rw [hsome, fromSettingsJson, Readable]
    · cases hloads : Json.loads (limit + 1) (c :: text) with
      | error error =>
        cases error with
        | decode => exact iff_of_true ⟨noLimits, rfl⟩ (Or.inl rfl)
        | digits => exact iff_of_false nofun (by simp)
        | recursion => exact iff_of_false nofun (by simp)
      | ok value =>
        cases value with
        | object members =>
          refine Iff.trans ?_ (exists_object_iff.symm)
          rw [← construct_eq_typeError_iff, ← construct_eq_ok_iff]
          dsimp only
          cases construct field members with
          | ok quota => exact iff_of_true ⟨quota, rfl⟩ (Or.inr ⟨quota, rfl⟩)
          | error error =>
            cases error with
            | invalid => exact iff_of_false nofun (by simp)
            | typeError => exact iff_of_true ⟨noLimits, rfl⟩ (Or.inl rfl)
        | null | bool | int | float | text | array => exact iff_of_false nofun (by simp)
    · exact nofun

/-- `get_quota_settings`, for the column of the row of the tenant, if there is one. -/
def getQuotaSettings (limit : ℕ) (field : IntField) (tenant : Option (Option (List Char))) :
    Except SettingsError QuotaSettings :=
  match tenant with
  | none => .ok noLimits
  | some settings => fromSettingsJson limit field settings

/-- The checks of a tenant have settings to go by if and only if its text is readable. -/
theorem getQuotaSettings_returns_iff {limit : ℕ} {field : IntField}
    {tenant : Option (Option (List Char))} :
    (∃ quota, getQuotaSettings limit field tenant = .ok quota) ↔
      ∀ settings ∈ tenant, ∀ text ∈ settings, text ≠ [] → Readable limit field text := by
  cases tenant with
  | none => exact iff_of_true ⟨noLimits, rfl⟩ nofun
  | some settings =>
    rw [getQuotaSettings, fromSettingsJson_returns_iff]
    exact ⟨by rintro h _ ⟨⟩; exact h, fun h => h settings rfl⟩

section RoundTrip

/-- A number that can be written. -/
def IsPrintable (n : ℕ) : Prop := (Text.digits n).length ≤ Text.maxStrDigits

/-- Every limit can be written. -/
def Printable (quota : QuotaSettings) : Prop :=
  ∀ member ∈ namedLimits quota, ∀ n ∈ member.2, IsPrintable n

/-- A limit is written if and only if it can be. -/
theorem dumpMember?_isSome_iff {member : List Char × Option ℕ} :
    (Json.dumpMember? member).isSome ↔ ∀ n ∈ member.2, IsPrintable n := by
  obtain ⟨name, value⟩ := member
  rw [Json.dumpMember?, Option.isSome_map]
  cases value with
  | none => exact iff_of_true rfl (by rintro _ ⟨⟩)
  | some n =>
    rw [Json.dumpNumber?]
    split
    next h => exact iff_of_true rfl (by rintro _ ⟨⟩; exact h)
    next h => exact iff_of_false (by rintro ⟨⟩) fun hall => h (hall n rfl)

/-- Settings are written if and only if every limit can be. -/
theorem toSettingsJson_isSome_iff {quota : QuotaSettings} :
    (toSettingsJson quota).isSome ↔ Printable quota := by
  rw [toSettingsJson, Json.dumps?, Option.isSome_map, Option.isSome_mapM_iff]
  exact forall₂_congr fun member _ => dumpMember?_isSome_iff

/-- The names need no escape sequence. -/
theorem isPlainKey_of_mem_namedLimits {quota : QuotaSettings} :
    ∀ member ∈ namedLimits quota, Json.IsPlainKey member.1 := by
  simp only [namedLimits, List.forall_mem_cons]
  exact ⟨by decide, by decide, by decide, by decide, by decide, nofun⟩

/-- A limit that was written is accepted as it is. -/
theorem validateField_ofNumber (field : IntField) (value : Option ℕ) :
    validateField field (.ofNumber value) = .ok value := by
  cases value with
  | none => rfl
  | some n =>
    rw [Json.Value.ofNumber, validateField, if_neg (by omega), Int.toNat_natCast, field.ofInt_eq]
    rfl

/-- The members of the object that is written. -/
def writtenMembers (quota : QuotaSettings) : List (List ℕ × Json.Value) :=
  (namedLimits quota).map fun member => (member.1.map Char.toNat, .ofNumber member.2)

/-- The names that are written are all different. -/
theorem nodup_writtenMembers (quota : QuotaSettings) :
    ((writtenMembers quota).map Prod.fst).Nodup := by
  have hnames : (writtenMembers quota).map Prod.fst =
      fieldNames.map fun name => name.toList.map Char.toNat := rfl
  rw [hnames]
  decide

/-- Every limit that was written is read back. -/
theorem validateMember_writtenMembers {field : IntField} {quota : QuotaSettings} {name : String}
    {value : Option ℕ} (h : (name.toList, value) ∈ namedLimits quota) :
    validateMember field (writtenMembers quota) name = .ok value := by
  have hmem : (name.toList.map Char.toNat, Json.Value.ofNumber value) ∈ writtenMembers quota :=
    List.mem_map_of_mem h
  rw [validateMember, Json.member?_of_nodup (nodup_writtenMembers quota) hmem]
  exact validateField_ofNumber field value

/-- The settings are put together again. -/
theorem construct_writtenMembers (field : IntField) (quota : QuotaSettings) :
    construct field (writtenMembers quota) = .ok quota := by
  have h₁ : validateMember field (writtenMembers quota) "max_vms" = .ok quota.maxVms :=
    validateMember_writtenMembers List.mem_cons_self
  have h₂ : validateMember field (writtenMembers quota) "max_cpu_cores" = .ok quota.maxCpuCores :=
    validateMember_writtenMembers (List.mem_cons_of_mem _ List.mem_cons_self)
  have h₃ : validateMember field (writtenMembers quota) "max_ram_mb" = .ok quota.maxRamMb :=
    validateMember_writtenMembers (by simp only [namedLimits, List.mem_cons, true_or, or_true])
  have h₄ : validateMember field (writtenMembers quota) "max_disk_gb" = .ok quota.maxDiskGb :=
    validateMember_writtenMembers (by simp only [namedLimits, List.mem_cons, true_or, or_true])
  have h₅ : validateMember field (writtenMembers quota) "max_networks" = .ok quota.maxNetworks :=
    validateMember_writtenMembers (by simp only [namedLimits, List.mem_cons, true_or, or_true])
  have hnone : ¬ fieldNames.any (fun name =>
      validateMember field (writtenMembers quota) name = .error .typeError) = true := by
    simp [fieldNames, h₁, h₂, h₃, h₄, h₅]
  rw [construct, if_neg hnone, h₁, h₂, h₃, h₄, h₅]
  rfl

/-- Settings that were written are read back. -/
theorem fromSettingsJson_toSettingsJson {limit : ℕ} {field : IntField} {quota : QuotaSettings}
    {text : List Char} (h : toSettingsJson quota = some text) :
    fromSettingsJson limit field (some text) = .ok quota := by
  have hloads : Json.loads (limit + 1) text = .ok (.object (writtenMembers quota)) :=
    Json.loads_dumps isPlainKey_of_mem_namedLimits h
  have hne : text ≠ [] := by
    obtain ⟨texts, _, rfl⟩ := Option.map_eq_some_iff.mp h
    exact List.cons_ne_nil _ _
  cases text with
  | nil => exact absurd rfl hne
  | cons c text =>
    rw [fromSettingsJson, hloads]
    · dsimp only
      rw [construct_writtenMembers]
    · exact nofun

end RoundTrip

/-- Limits survive being written and read if and only if they can be written, and a text is read if
and only if it is missing, empty or readable. -/
theorem settings_iff (limit : ℕ) (field : IntField) :
    (∀ quota, (∃ text, toSettingsJson quota = some text ∧
        fromSettingsJson limit field (some text) = .ok quota) ↔ Printable quota) ∧
    ∀ settings, (∃ quota, fromSettingsJson limit field settings = .ok quota) ↔
      ∀ text ∈ settings, text ≠ [] → Readable limit field text := by
  refine ⟨fun quota => ?_, fun settings => fromSettingsJson_returns_iff⟩
  rw [← toSettingsJson_isSome_iff, Option.isSome_iff_exists]
  exact exists_congr fun text => and_iff_left_of_imp fromSettingsJson_toSettingsJson

/-- A list, which has no members. -/
theorem not_settings :
    ¬ ∀ settings, ∃ quota, fromSettingsJson 1000 .lax settings = .ok quota := by
  intro h
  obtain ⟨quota, hquota⟩ := h (some ['[', ']'])
  have hloads : Json.loads 1001 ['[', ']'] = .ok (.array []) := by
    have hopen : Json.lex ['[', ']'] = .openArray :: Json.lex [']'] := Json.lex_cons rfl rfl
    have hclose : Json.lex [']'] = .closeArray :: Json.lex [] := Json.lex_cons rfl rfl
    rw [Json.loads, hopen, hclose, Json.lex]
    rfl
  rw [fromSettingsJson, hloads] at hquota
  · cases hquota
  · rintro ⟨⟩

end ProxmoxIaas.Quota
