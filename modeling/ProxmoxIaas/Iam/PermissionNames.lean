import ProxmoxIaas.Iam.Permissions

/-!
# Names of Permissions

What the check of a permission compares. A name has any number of segments between colons, and
the parser keeps the first two of them, so that names which differ further back are the same for
the check.

## Main results

- `covers_iff`: the comparison, in terms of the segments.
- `covers_iff_of_two_segments`: between names with two segments it is equality or a wildcard.
- `hasPermission_exact_iff`: when the check finds exactly what was granted.
-/

namespace ProxmoxIaas

/-- The segments of a name. -/
def segments (name : String) : List (List Char) := Text.split ':' name.toList

/-- The first segment of a name, the resource. -/
def firstSegment (name : String) : List Char := Text.before ':' name.toList

/-- The second segment of a name; a name without one has the empty text. -/
def secondSegment (name : String) : List Char := ((segments name)[1]?).getD []

/-- The permission for every action on the resource of a permission. -/
def wildcard (required : String) : String := (parsePermission required).1 ++ ":*"

/-- Some role of the user in the tenant has the permission itself, or the wildcard of its
resource. -/
def GrantedExactly (db : IamDb) (userId : ℕ) (tenantId : Option ℤ) (required : String) : Prop :=
  ∃ name ∈ grantedPermissions db userId tenantId, name = required ∨ name = wildcard required

instance (db : IamDb) (userId : ℕ) (tenantId : Option ℤ) (required : String) :
    Decidable (GrantedExactly db userId tenantId required) :=
  inferInstanceAs (Decidable (∃ name ∈ grantedPermissions db userId tenantId, _))

/-- A name has the first segment of another, and its second segment or a star. -/
def AgreesWith (required name : String) : Prop :=
  firstSegment name = firstSegment required ∧
    (secondSegment name = secondSegment required ∨ secondSegment name = ['*'])

instance (required name : String) : Decidable (AgreesWith required name) :=
  inferInstanceAs (Decidable (_ ∧ _))

/-- The segments of a name start with its first one. -/
theorem segments_eq_cons (name : String) :
    segments name = firstSegment name :: (segments name).tail := by
  have hhead : (segments name).head? = some (firstSegment name) := Text.head?_split
  cases h : segments name with
  | nil =>
    rw [h] at hhead
    cases hhead
  | cons segment rest =>
    rw [h, List.head?_cons, Option.some.injEq] at hhead
    rw [hhead, List.tail_cons]

/-- A name with one segment is this segment. -/
theorem toList_eq_of_singleton {name : String} {segment : List Char}
    (h : segments name = [segment]) : name.toList = segment := by
  -- the segments, joined again, are the name
  have hjoin : [':'].intercalate (segments name) = name.toList := List.intercalate_splitOn _
  rw [h] at hjoin
  simpa using hjoin.symm

/-- The parser returns the first two segments. -/
theorem parsePermission_eq (name : String) :
    parsePermission name = (.ofList (firstSegment name), .ofList (secondSegment name)) := by
  have hcons := segments_eq_cons name
  unfold parsePermission secondSegment
  rw [show Text.split ':' name.toList = segments name from rfl]
  cases htail : (segments name).tail with
  | nil =>
    -- the parser returns the name itself, which is its only segment
    rw [htail] at hcons
    rw [hcons, ← toList_eq_of_singleton hcons]
    simp
  | cons action rest =>
    rw [htail] at hcons
    rw [hcons]
    rfl

/-- A permission covers another if the first segments are the same, and the second ones are the
same or that of the permission is a star. -/
theorem covers_iff {required name : String} :
    covers required name = true ↔ AgreesWith required name := by
  unfold covers AgreesWith
  rw [parsePermission_eq required, parsePermission_eq name]
  simp only [Bool.and_eq_true, Bool.or_eq_true, decide_eq_true_eq, String.ofList_inj]
  rw [show ("*" : String) = .ofList ['*'] from rfl, String.ofList_inj]

/-- The wildcard of a resource has the resource and a star as its segments. -/
theorem segments_wildcard (required : String) :
    segments (wildcard required) = [firstSegment required, ['*']] := by
  have hjoin : (wildcard required).toList = Text.join ':' [firstSegment required, ['*']] := by
    rw [wildcard, parsePermission_eq, String.toList_append, String.toList_ofList]
    simp [Text.join, List.intercalate]
  rw [segments, hjoin]
  -- neither of the two segments has a colon
  refine Text.split_join (List.cons_ne_nil _ _) fun part hpart => ?_
  rcases List.mem_pair.mp hpart with rfl | rfl
  · exact Text.not_mem_before
  · decide

/-- The wildcard of a resource agrees with each permission on the resource. -/
theorem agreesWith_wildcard (required : String) : AgreesWith required (wildcard required) := by
  have hsegments := segments_wildcard required
  have hcons := (segments_eq_cons (wildcard required)).symm.trans hsegments
  refine ⟨(List.cons.inj hcons).1, Or.inr ?_⟩
  rw [secondSegment, hsegments]
  rfl

/-- A permission agrees with itself. -/
theorem agreesWith_self (required : String) : AgreesWith required required := ⟨rfl, Or.inl rfl⟩

/-- Names with the same segments are the same. -/
theorem segments_injective : Function.Injective segments := fun name name' h => by
  have hjoin : [':'].intercalate (segments name) = name.toList := List.intercalate_splitOn _
  have hjoin' : [':'].intercalate (segments name') = name'.toList := List.intercalate_splitOn _
  rw [h] at hjoin
  exact String.toList_injective (hjoin.symm.trans hjoin')

/-- A name with two segments is its resource and its action. -/
theorem segments_of_two {name : String} (h : (segments name).length = 2) :
    segments name = [firstSegment name, secondSegment name] := by
  obtain ⟨resource, action, hsegments⟩ := List.length_eq_two.mp h
  have hfirst := (segments_eq_cons name).symm.trans hsegments
  rw [(List.cons.inj hfirst).1, secondSegment, hsegments]
  rfl

/-- Between names with two segments, the comparison is exact. -/
theorem covers_iff_of_two_segments {required name : String}
    (hrequired : (segments required).length = 2) (hname : (segments name).length = 2) :
    covers required name = true ↔ name = required ∨ name = wildcard required := by
  rw [covers_iff]
  constructor
  · rintro ⟨hfirst, hsecond | hstar⟩
    · -- two names with the same two segments are the same
      refine Or.inl (segments_injective ?_)
      rw [segments_of_two hname, segments_of_two hrequired, hfirst, hsecond]
    · refine Or.inr (segments_injective ?_)
      rw [segments_of_two hname, segments_wildcard, hfirst, hstar]
  · rintro (rfl | rfl)
    · exact agreesWith_self name
    · exact agreesWith_wildcard required

variable {db : IamDb} {userId : ℕ} {tenantId : Option ℤ} {required : String}

/-- The check passes if the permission or the wildcard of its resource is granted. -/
theorem hasPermission_of_grantedExactly (h : GrantedExactly db userId tenantId required) :
    hasPermission db userId tenantId required = true := by
  obtain ⟨name, hname, hexact⟩ := h
  refine hasPermission_iff.mpr (Or.inr ⟨name, hname, Or.inr (covers_iff.mpr ?_)⟩)
  rcases hexact with rfl | rfl
  · exact agreesWith_self name
  · exact agreesWith_wildcard required

/-- The check of a user who is no super admin finds exactly what was granted, if and only if that
is granted, or no other granted name is a star or agrees with the required one in the segments
that the parser keeps. -/
theorem hasPermission_exact_iff (hsuper : isSuperAdmin db userId = false) :
    (hasPermission db userId tenantId required = true ↔
      GrantedExactly db userId tenantId required) ↔
    GrantedExactly db userId tenantId required ∨
      ∀ name ∈ grantedPermissions db userId tenantId, name ≠ "*" ∧ ¬ AgreesWith required name := by
  -- what the check finds is what agrees in the first two segments
  have hcheck : hasPermission db userId tenantId required = true ↔
      ∃ name ∈ grantedPermissions db userId tenantId, name = "*" ∨ AgreesWith required name := by
    simp only [hasPermission_iff, hsuper, Bool.false_eq_true, false_or, covers_iff]
  by_cases hexact : GrantedExactly db userId tenantId required
  · have hhas := hasPermission_of_grantedExactly hexact
    exact iff_of_true (iff_of_true hhas hexact) (Or.inl hexact)
  · -- nothing exact is granted, so the check must not find anything
    simp only [hexact, iff_false, false_or, hcheck, not_exists, not_and, not_or, ne_eq]

/-- A user with one permission, given by its name, in the first tenant. -/
def namedIam (name : String) : IamDb where
  tenants := Serial.empty.add ⟨"Acme", "acme"⟩
  users := Serial.empty.add ⟨"alice", "alice@acme.example", true, some 1⟩
  permissions := Serial.empty.add name
  roles := Serial.empty.add ⟨"snapshots", none, some 1, false, false, {1}⟩
  userRoles := Serial.empty.add ⟨1, some 1, 1, none⟩
  invitations := .empty

theorem hasPermission_exact_named :
    hasPermission (namedIam "vm:*") 1 (some 1) "vm:snapshot:create" = true ↔
      GrantedExactly (namedIam "vm:*") 1 (some 1) "vm:snapshot:create" :=
  (hasPermission_exact_iff (by decide +kernel)).mpr (Or.inl (by decide +kernel))

/-- Who may create snapshots may delete them. -/
theorem not_hasPermission_exact :
    ¬ ∀ db userId tenantId required, isSuperAdmin db userId = false →
      (hasPermission db userId tenantId required = true ↔
        GrantedExactly db userId tenantId required) := by
  intro h
  have hexact := h (namedIam "vm:snapshot:create") 1 (some 1) "vm:snapshot:delete"
    (by decide +kernel)
  exact absurd (hexact.mp (by decide +kernel)) (by decide +kernel)

end ProxmoxIaas
