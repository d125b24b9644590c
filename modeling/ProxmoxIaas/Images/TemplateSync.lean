import ProxmoxIaas.Foundation.Constrained
import ProxmoxIaas.Foundation.Text
import ProxmoxIaas.Provisioning.Model

/-!
# Synchronisation of Templates

The images of the platform are rows of a table that is synchronised with the templates of the
hypervisor. A template is found again by its id; a row that lost its template is deactivated, and
activated again when the template is back. Everything is written in one transaction.

Names of images are unique, and names of templates are not: a template whose name is taken makes
the transaction fail, and then none of the templates is synchronised.

## Main results

- `get?_syncImages`: the images after a synchronisation that is committed.
- `mirrored_iff`: the images mirror the templates if and only if the names that are taken are free.
- `not_mirrored`: two templates have the same name.
-/

namespace ProxmoxIaas

namespace TemplateSync

/-- A row of `image_templates`: the columns that the synchronisation writes. -/
structure ImageTemplate where
  /-- Unique name. -/
  name : Option String
  /-- Where the image comes from. -/
  provider : String
  /-- The id of the template there. -/
  templateId : String
  /-- What the image is for. -/
  category : String
  /-- The operating system. -/
  osType : Option String
  /-- Recommended number of cores. -/
  recommendedCpu : Option ℕ
  /-- Recommended memory in MiB. -/
  recommendedRamMb : Option ℕ
  /-- Recommended size of the disk in GiB. -/
  recommendedDiskGb : Option ℕ
  /-- Deactivated images are not offered. -/
  isActive : Bool
  /-- Whether every tenant may use the image. -/
  isPublic : Bool
  /-- When the image was synchronised. -/
  lastSyncedAt : Option ℕ
  /-- When the row was updated; the database writes it with every update. -/
  updatedAt : Option ℕ
  deriving DecidableEq, Repr

/-- The constraints of `image_templates`: a name is required and unique, and a provider has one
image for a template. -/
def imageConstraints : Constraints ImageTemplate where
  valid row := row.name.isSome
  conflict a b := a.name = b.name ∨ (a.provider = b.provider ∧ a.templateId = b.templateId)
  conflict_comm a b := by
    rw [decide_eq_decide, eq_comm (a := a.name), eq_comm (a := a.provider),
      eq_comm (a := a.templateId)]

/-- Table `image_templates`. -/
abbrev ImageTable := Constrained imageConstraints

/-- A template as the provider lists it. Keys that are missing have defaults. -/
structure ProxmoxTemplate where
  /-- The id of the template. -/
  vmid : ℕ
  /-- The name of the template, if the hypervisor reports one. -/
  name : Option String
  /-- The operating system. -/
  os : Option String
  /-- Number of cores. -/
  cores : Option ℕ
  /-- Memory in MiB. -/
  memory : Option ℕ
  /-- Size of the disk in GiB. -/
  disk : Option ℕ
  deriving DecidableEq, Repr

/-- The id of a template as it is stored. -/
def ProxmoxTemplate.key (pt : ProxmoxTemplate) : String := toString pt.vmid

/-- The clocks of a synchronisation. -/
structure Clocks where
  /-- The clock of the session. -/
  now : ℕ
  /-- The clock of the database. -/
  serverNow : ℕ

/-- What is set on the object of a listed template: the row of an inactive image is written
anew. -/
def ImageTemplate.refresh (now : ℕ) (pt : ProxmoxTemplate) (row : ImageTemplate) :
    ImageTemplate :=
  let row := { row with lastSyncedAt := some now }
  if row.isActive then row
  else
    { row with
      isActive := true
      name := pt.name
      osType := some (pt.os.getD ((truthyText row.osType).getD "Linux"))
      recommendedCpu := pt.cores.or row.recommendedCpu
      recommendedRamMb := pt.memory.or row.recommendedRamMb
      recommendedDiskGb := pt.disk.or row.recommendedDiskGb }

/-- What is set on the object of a template that is gone. -/
def ImageTemplate.deactivate (now : ℕ) (row : ImageTemplate) : ImageTemplate :=
  { row with isActive := false, lastSyncedAt := some now }

/-- The row of a new template. -/
def ProxmoxTemplate.image (pt : ProxmoxTemplate) : ImageTemplate where
  name := pt.name
  provider := "proxmox"
  templateId := pt.key
  category := "client_vm"
  osType := some (pt.os.getD "Linux")
  recommendedCpu := some (pt.cores.getD 1)
  recommendedRamMb := some (pt.memory.getD 1024)
  recommendedDiskGb := some (pt.disk.getD 10)
  isActive := true
  isPublic := false
  lastSyncedAt := none
  updatedAt := none

/-- The objects of a session. -/
structure SyncSession where
  /-- The loaded images of the hypervisor with their ids, by template. -/
  existing : Table String (ℕ × ImageTemplate)
  /-- The images that were added. -/
  inserted : List ImageTemplate

/-- The images of the hypervisor, by template. -/
def existingByVmid (images : ImageTable) : Table String (ℕ × ImageTemplate) :=
  .index (fun r => r.2.templateId) (images.rows.select fun _ row => row.provider = "proxmox")

/-- One turn of the loop over the templates. -/
def registerTemplate (now : ℕ) (session : SyncSession) (pt : ProxmoxTemplate) : SyncSession :=
  match session.existing.get? pt.key with
  | some _ =>
    { session with
      existing := session.existing.modify pt.key fun r => (r.1, r.2.refresh now pt) }
  | none => { session with inserted := session.inserted ++ [pt.image] }

/-- The loop over the images, unless nothing is listed. -/
def deactivateMissing (now : ℕ) (listing : List ProxmoxTemplate) (session : SyncSession) :
    SyncSession :=
  if listing ≠ [] then
    { session with
      existing := session.existing.mapRows fun vmid r =>
        (r.1, if r.2.isActive ∧ vmid ∉ listing.map (·.key) then r.2.deactivate now else r.2) }
  else session

/-- The objects of a session once both loops are done. -/
def reconcile (now : ℕ) (listing : List ProxmoxTemplate) (images : ImageTable) : SyncSession :=
  deactivateMissing now listing
    (listing.foldl (registerTemplate now) { existing := existingByVmid images, inserted := [] })

/-- The object of a row. -/
def SyncSession.object (session : SyncSession) (id : ℕ) (row : ImageTemplate) : ImageTemplate :=
  match session.existing.first? fun _ r => r.1 = id with
  | some (_, _, object) => object
  | none => row

/-- The row that is written for an object; the database adds the time if there is anything to
write. -/
def stamped (serverNow : ℕ) (row object : ImageTemplate) : ImageTemplate :=
  if object = row then row else { object with updatedAt := some serverNow }

/-- The statements of a commit: updates in the order of the ids, then insertions. -/
def SyncSession.statements (session : SyncSession) (serverNow : ℕ) (images : ImageTable) :
    List (Statement ImageTemplate) :=
  Statement.updates images.rows (fun id row => stamped serverNow row (session.object id row)) ++
    Statement.inserts session.inserted

/-- The table and the key of the cache. -/
structure State where
  /-- Table `image_templates`. -/
  images : ImageTable
  /-- Whether the key is set; none without Redis. -/
  redis : Option Bool

/-- `sync_proxmox_templates`: the number of new images. The provider may fail to list its
templates. -/
def syncProxmoxTemplates (s : State) (listing : Option (List ProxmoxTemplate)) (clocks : Clocks) :
    Except ApiError (ℕ × State) :=
  if s.redis = some true then .ok (0, s)
  else
    match listing with
    | none => .ok (0, s)
    | some listing =>
      let session := reconcile clocks.now listing s.images
      match s.images.executeAll (session.statements clocks.serverNow s.images) with
      | some images =>
        .ok (session.inserted.length, { images, redis := s.redis.map fun _ => true })
      | none => .error integrityError

/-- The state after a synchronisation; the transaction of one that raises is rolled back. -/
def stateAfter (s : State) (listing : Option (List ProxmoxTemplate)) (clocks : Clocks) : State :=
  match syncProxmoxTemplates s listing clocks with
  | .ok (_, s') => s'
  | .error _ => s

/-- The listed template with an id. -/
def template? (listing : List ProxmoxTemplate) (vmid : String) : Option ProxmoxTemplate :=
  listing.find? fun pt => pt.key = vmid

/-- The template that brings an inactive image back. -/
def reactivated? (listing : List ProxmoxTemplate) (row : ImageTemplate) : Option ProxmoxTemplate :=
  if row.provider = "proxmox" ∧ row.isActive = false then template? listing row.templateId else none

/-- The name of an image afterwards. -/
def nameAfter (listing : List ProxmoxTemplate) (row : ImageTemplate) : Option String :=
  match reactivated? listing row with
  | some pt => pt.name
  | none => row.name

/-- The listed templates that have no image. -/
def unregistered (images : ImageTable) (listing : List ProxmoxTemplate) : List ProxmoxTemplate :=
  listing.filter fun pt => (images.rows.first? fun _ row =>
    row.provider = "proxmox" ∧ row.templateId = pt.key).isNone

/-- The names that images take are there and free. An image that is brought back may take the name
that one with a smaller id has given up, a new image may take every name that was given up. -/
structure NamesFree (images : ImageTable) (listing : List ProxmoxTemplate) : Prop where
  /-- The name of an image that is brought back. -/
  reactivated : ∀ id row pt, images.rows.get? id = some row → reactivated? listing row = some pt →
    pt.name ≠ none ∧ ∀ j other, images.rows.get? j = some other → j ≠ id →
      pt.name ≠ if j < id then nameAfter listing other else other.name
  /-- The name of a new image. -/
  inserted : ∀ pt ∈ unregistered images listing,
    pt.name ≠ none ∧ ∀ j other, images.rows.get? j = some other → pt.name ≠ nameAfter listing other
  /-- The names of new images are different. -/
  distinct : ((unregistered images listing).map (·.name)).Nodup

/-- The images of the hypervisor are those of the listed templates, and nothing else has
changed. -/
structure Mirrors (listing : List ProxmoxTemplate) (before after : ImageTable) : Prop where
  /-- A listed template has one active image. -/
  listed : ∀ pt ∈ listing, ∃! id, ∃ row, after.rows.get? id = some row ∧
    row.provider = "proxmox" ∧ row.templateId = pt.key ∧ row.isActive = true
  /-- An active image of the hypervisor has a listed template. -/
  active : ∀ id row, after.rows.get? id = some row → row.provider = "proxmox" →
    row.isActive = true → ∃ pt ∈ listing, pt.key = row.templateId
  /-- The image of a template that is gone is kept and inactive. -/
  vanished : ∀ id row, before.rows.get? id = some row → row.provider = "proxmox" →
    (∀ pt ∈ listing, pt.key ≠ row.templateId) → ∃ row', after.rows.get? id = some row' ∧
      row'.provider = "proxmox" ∧ row'.templateId = row.templateId ∧ row'.isActive = false
  /-- Images of other sources are untouched. -/
  others : ∀ id row, row.provider ≠ "proxmox" →
    (after.rows.get? id = some row ↔ before.rows.get? id = some row)

/-- The columns of a row that are not times. -/
def ImageTemplate.unstamped (row : ImageTemplate) : ImageTemplate :=
  { row with lastSyncedAt := none, updatedAt := none }

/-- Two tables are the same but for the times of their rows. -/
def SameImages (images images' : ImageTable) : Prop :=
  ∀ id, (images'.rows.get? id).map (·.unstamped) = (images.rows.get? id).map (·.unstamped)

/-- A synchronisation mirrors the templates, and another one with the same list writes times
only. -/
def Mirrored (s : State) (listing : List ProxmoxTemplate) : Prop :=
  ∀ clocks, Mirrors listing s.images (stateAfter s (some listing) clocks).images ∧
    ∀ redis clocks', SameImages (stateAfter s (some listing) clocks).images
      (stateAfter { images := (stateAfter s (some listing) clocks).images, redis }
        (some listing) clocks').images

/-- What a synchronisation makes of the object of a row. -/
def ImageTemplate.synced (now : ℕ) (listing : List ProxmoxTemplate) (row : ImageTemplate) :
    ImageTemplate :=
  if row.provider = "proxmox" then
    match template? listing row.templateId with
    | some pt => row.refresh now pt
    | none => if listing ≠ [] ∧ row.isActive then row.deactivate now else row
  else row

variable {now serverNow : ℕ} {listing : List ProxmoxTemplate} {images : ImageTable}
  {id : ℕ} {row : ImageTemplate} {pt : ProxmoxTemplate} {vmid : String}

theorem toList_key (pt : ProxmoxTemplate) : pt.key.toList = Text.digits pt.vmid :=
  String.toList_ofList

/-- Different templates have different ids in the table. -/
theorem key_inj {pt pt' : ProxmoxTemplate} : pt.key = pt'.key ↔ pt.vmid = pt'.vmid := by
  constructor
  · intro h
    have hread := Text.nat?_digits pt.vmid
    rw [← toList_key, h, toList_key, Text.nat?_digits] at hread
    exact (Option.some.inj hread).symm
  · intro h
    rw [ProxmoxTemplate.key, h, ProxmoxTemplate.key]

theorem template?_eq_some (h : template? listing vmid = some pt) : pt ∈ listing ∧ pt.key = vmid :=
  ⟨List.mem_of_find?_eq_some h, by simpa using List.find?_some h⟩

theorem template?_eq_none_iff :
    template? listing vmid = none ↔ ∀ pt ∈ listing, pt.key ≠ vmid := by
  simp [template?]

theorem template?_cons (pt : ProxmoxTemplate) (listing : List ProxmoxTemplate) (vmid : String) :
    template? (pt :: listing) vmid =
      if pt.key = vmid then some pt else template? listing vmid := by
  unfold template?
  rw [List.find?_cons]
  by_cases h : pt.key = vmid <;> simp [h]

/-- The dictionary holds the images of the hypervisor. -/
theorem get?_existingByVmid :
    (existingByVmid images).get? vmid = some (id, row) ↔ images.rows.get? id = some row ∧
      row.provider = "proxmox" ∧ row.templateId = vmid := by
  rw [existingByVmid, Table.get?_index_eq_some_iff, Serial.select, Table.mem_select,
    decide_eq_true_eq, and_assoc]
  · rfl
  · rintro ⟨i, a⟩ ha ⟨j, b⟩ hb hkey
    rw [Serial.select, Table.mem_select, decide_eq_true_eq] at ha hb
    have hij : i = j := by
      by_contra hne
      have hconflict := images.distinct ha.1 hb.1 hne
      rw [imageConstraints, decide_eq_false_iff_not] at hconflict
      exact hconflict (Or.inr ⟨ha.2.trans hb.2.symm, hkey⟩)
    subst hij
    have hrow : some a = some b := ha.1.symm.trans hb.1
    rw [Option.some.inj hrow]

/-- The loop over the templates refreshes the objects that are loaded and adds the others. -/
theorem foldl_registerTemplate (now : ℕ) (hdistinct : (listing.map (·.vmid)).Nodup)
    (session : SyncSession) :
    (∀ vmid, (listing.foldl (registerTemplate now) session).existing.get? vmid =
      (session.existing.get? vmid).map fun r =>
        (r.1, (template? listing vmid).elim r.2 (r.2.refresh now))) ∧
    (listing.foldl (registerTemplate now) session).inserted = session.inserted ++
      (listing.filter fun pt => (session.existing.get? pt.key).isNone).map (·.image) := by
  induction listing generalizing session with
  | nil =>
    refine ⟨fun vmid => ?_, (List.append_nil _).symm⟩
    cases h : session.existing.get? vmid <;>
      simp only [List.foldl_nil, h, Option.map_none, Option.map_some, template?, List.find?_nil,
        Option.elim_none]
  | cons pt listing ih =>
    rw [List.map_cons, List.nodup_cons] at hdistinct
    -- no later template has the id of the first one
    have hlater : template? listing pt.key = none := template?_eq_none_iff.mpr
      fun other hother hkey => hdistinct.1 (List.mem_map.mpr ⟨other, hother, key_inj.mp hkey⟩)
    rw [List.foldl_cons]
    obtain ⟨hexisting, hinserted⟩ := ih hdistinct.2 (registerTemplate now session pt)
    cases hget : session.existing.get? pt.key with
    | none =>
      have hsession : registerTemplate now session pt =
          { session with inserted := session.inserted ++ [pt.image] } := by
        rw [registerTemplate, hget]
      rw [hsession] at hexisting hinserted ⊢
      refine ⟨fun vmid => ?_, ?_⟩
      · rw [hexisting, template?_cons]
        by_cases hkey : pt.key = vmid
        · rw [← hkey, hget, Option.map_none, Option.map_none]
        · rw [if_neg hkey]
      · rw [hinserted, List.filter_cons, hget, List.append_assoc]
        rfl
    | some r =>
      have hsession : registerTemplate now session pt =
          { session with
            existing := session.existing.modify pt.key fun r => (r.1, r.2.refresh now pt) } := by
        rw [registerTemplate, hget]
      rw [hsession] at hexisting hinserted ⊢
      refine ⟨fun vmid => ?_, ?_⟩
      · rw [hexisting, template?_cons, Table.get?_modify]
        by_cases hkey : pt.key = vmid
        · rw [if_pos hkey, if_pos hkey.symm, ← hkey, hlater, hget]
          rfl
        · rw [if_neg hkey, if_neg (Ne.symm hkey)]
      · rw [hinserted, List.filter_cons, hget]
        simp only [Table.isSome_get?_modify, ← Option.not_isSome, Option.isSome_some, Bool.not_true,
          Bool.false_eq_true, if_false]

/-- The loop over the images deactivates those whose template is not listed. -/
theorem get?_deactivateMissing (session : SyncSession) (vmid : String) :
    (deactivateMissing now listing session).existing.get? vmid =
      (session.existing.get? vmid).map fun r =>
        (r.1, if listing ≠ [] ∧ r.2.isActive ∧ template? listing vmid = none
          then r.2.deactivate now else r.2) := by
  have hmissing : vmid ∉ listing.map (·.key) ↔ template? listing vmid = none := by
    rw [template?_eq_none_iff, List.mem_map]
    exact ⟨fun h pt hpt hkey => h ⟨pt, hpt, hkey⟩, fun h ⟨pt, hpt, hkey⟩ => h pt hpt hkey⟩
  unfold deactivateMissing
  by_cases hne : listing ≠ []
  · rw [if_pos hne]
    simp only [Table.get?_mapRows, hmissing, true_and, hne, not_false_eq_true, ne_eq]
  · rw [if_neg hne]
    simp only [hne, false_and, if_false, Prod.mk.eta, Option.map_id']

/-- The dictionary once both loops are done. -/
theorem get?_reconcile (hdistinct : (listing.map (·.vmid)).Nodup) {object : ImageTemplate} :
    (reconcile now listing images).existing.get? vmid = some (id, object) ↔
      ∃ row, images.rows.get? id = some row ∧ row.provider = "proxmox" ∧ row.templateId = vmid ∧
        row.synced now listing = object := by
  have hloop := (foldl_registerTemplate now hdistinct
    { existing := existingByVmid images, inserted := [] }).1 vmid
  have hobject : ∀ row : ImageTemplate, row.provider = "proxmox" → row.templateId = vmid →
      row.synced now listing =
        if listing ≠ [] ∧ ((template? listing vmid).elim row (row.refresh now)).isActive ∧
            template? listing vmid = none
          then ((template? listing vmid).elim row (row.refresh now)).deactivate now
          else (template? listing vmid).elim row (row.refresh now) := by
    rintro row hprovider rfl
    rw [ImageTemplate.synced, if_pos hprovider]
    cases template? listing row.templateId <;> simp
  rw [reconcile, get?_deactivateMissing, hloop, Option.map_map, Option.map_eq_some_iff]
  constructor
  · rintro ⟨⟨j, row⟩, hrow, hsynced⟩
    obtain ⟨hget, hprovider, hkey⟩ := get?_existingByVmid.mp hrow
    simp only [Function.comp_apply, Prod.mk.injEq] at hsynced
    obtain ⟨rfl, hsynced⟩ := hsynced
    exact ⟨row, hget, hprovider, hkey, (hobject row hprovider hkey).trans hsynced⟩
  · rintro ⟨row, hget, hprovider, hkey, rfl⟩
    exact ⟨(id, row), get?_existingByVmid.mpr ⟨hget, hprovider, hkey⟩,
      Prod.ext rfl (hobject row hprovider hkey).symm⟩

/-- The object of a row once both loops are done. -/
theorem object_reconcile (hdistinct : (listing.map (·.vmid)).Nodup)
    (hget : images.rows.get? id = some row) :
    (reconcile now listing images).object id row = row.synced now listing := by
  rw [SyncSession.object]
  cases hfirst : (reconcile now listing images).existing.first? fun _ r => r.1 = id with
  | none =>
    have hnone := Table.first?_eq_none_iff.mp hfirst
    by_cases hprovider : row.provider = "proxmox"
    · have hobject : (reconcile now listing images).existing.get? row.templateId =
          some (id, row.synced now listing) :=
        (get?_reconcile hdistinct).mpr ⟨row, hget, hprovider, rfl, rfl⟩
      exact absurd (hnone _ _ hobject) (by simp)
    · rw [ImageTemplate.synced, if_neg hprovider]
  | some found =>
    obtain ⟨vmid, j, object⟩ := found
    obtain ⟨hfound, hid⟩ := Table.first?_eq_some hfirst
    obtain rfl : j = id := of_decide_eq_true hid
    obtain ⟨row', hget', -, -, hsynced⟩ := (get?_reconcile hdistinct).mp hfound
    rw [hget] at hget'
    obtain rfl := Option.some.inj hget'
    exact hsynced.symm

/-- The added images are those of the unregistered templates. -/
theorem inserted_reconcile (hdistinct : (listing.map (·.vmid)).Nodup) :
    (reconcile now listing images).inserted = (unregistered images listing).map (·.image) := by
  have hloop := (foldl_registerTemplate now hdistinct
    { existing := existingByVmid images, inserted := [] }).2
  have hsame : ∀ session, (deactivateMissing now listing session).inserted = session.inserted := by
    intro session
    unfold deactivateMissing
    split <;> rfl
  rw [reconcile, hsame, hloop, List.nil_append, unregistered]
  congr 1
  refine List.filter_congr fun pt _ => ?_
  rw [Bool.eq_iff_iff, Option.isNone_iff_eq_none, Option.isNone_iff_eq_none,
    Serial.first?_eq_none_iff]
  constructor
  · intro hnone id row hget
    rw [decide_eq_false_iff_not]
    rintro ⟨hprovider, hkey⟩
    have hfound := get?_existingByVmid.mpr ⟨hget, hprovider, hkey⟩
    rw [hnone] at hfound
    cases hfound
  · intro hnone
    cases hfound : (existingByVmid images).get? pt.key with
    | none => rfl
    | some r =>
      obtain ⟨hget, hprovider, hkey⟩ := get?_existingByVmid.mp hfound
      exact absurd ⟨hprovider, hkey⟩ (of_decide_eq_false (hnone _ _ hget))

theorem refresh_of_active (h : row.isActive = true) :
    row.refresh now pt = { row with lastSyncedAt := some now } :=
  if_pos h

theorem refresh_of_inactive (h : row.isActive = false) :
    row.refresh now pt =
      { row with
        isActive := true
        name := pt.name
        osType := some (pt.os.getD ((truthyText row.osType).getD "Linux"))
        recommendedCpu := pt.cores.or row.recommendedCpu
        recommendedRamMb := pt.memory.or row.recommendedRamMb
        recommendedDiskGb := pt.disk.or row.recommendedDiskGb
        lastSyncedAt := some now } :=
  if_neg (ne_true_of_eq_false h)

/-- The provider and the template of an image stay. -/
theorem source_synced : (row.synced now listing).provider = row.provider ∧
    (row.synced now listing).templateId = row.templateId := by
  unfold ImageTemplate.synced
  split
  case isFalse => exact ⟨rfl, rfl⟩
  case isTrue =>
    split
    case h_1 pt _ =>
      cases hactive : row.isActive with
      | true => rw [refresh_of_active hactive]; exact ⟨rfl, rfl⟩
      | false => rw [refresh_of_inactive hactive]; exact ⟨rfl, rfl⟩
    case h_2 => split <;> exact ⟨rfl, rfl⟩

/-- The name of an image is written when it is brought back. -/
theorem name_synced : (row.synced now listing).name = nameAfter listing row := by
  unfold ImageTemplate.synced nameAfter reactivated?
  by_cases hprovider : row.provider = "proxmox"
  · rw [if_pos hprovider]
    cases hactive : row.isActive with
    | true =>
      have hnot : ¬(row.provider = "proxmox" ∧ true = false) := by simp
      rw [if_neg hnot]
      cases template? listing row.templateId with
      | none => dsimp only; split <;> rfl
      | some pt => dsimp only; rw [refresh_of_active hactive]
    | false =>
      have hboth : row.provider = "proxmox" ∧ false = false := ⟨hprovider, rfl⟩
      rw [if_pos hboth]
      cases template? listing row.templateId with
      | none => dsimp only; split <;> rfl
      | some pt => dsimp only; rw [refresh_of_inactive hactive]
  · rw [if_neg hprovider, if_neg fun h => hprovider h.1]

/-- An image of the hypervisor is active afterwards exactly when its template is listed. -/
theorem isActive_synced (hne : listing ≠ []) (hprovider : row.provider = "proxmox") :
    (row.synced now listing).isActive = (template? listing row.templateId).isSome := by
  unfold ImageTemplate.synced
  rw [if_pos hprovider]
  cases template? listing row.templateId with
  | some pt =>
    cases hactive : row.isActive with
    | true => dsimp only; rw [refresh_of_active hactive]; exact hactive
    | false => dsimp only; rw [refresh_of_inactive hactive]; rfl
  | none =>
    dsimp only
    cases hactive : row.isActive with
    | true => rw [if_pos ⟨hne, rfl⟩]; rfl
    | false => rw [if_neg fun h => Bool.noConfusion h.2]; exact hactive

/-- The row that is written for a stored one. -/
def ImageTemplate.saved (clocks : Clocks) (listing : List ProxmoxTemplate) (row : ImageTemplate) :
    ImageTemplate :=
  stamped clocks.serverNow row (row.synced clocks.now listing)

variable {clocks : Clocks}

/-- A row that is written differs from its object in the time only. -/
theorem saved_cases (row : ImageTemplate) (clocks : Clocks) (listing : List ProxmoxTemplate) :
    row.saved clocks listing = row ∧ row.synced clocks.now listing = row ∨
    row.saved clocks listing =
      { row.synced clocks.now listing with updatedAt := some clocks.serverNow } := by
  unfold ImageTemplate.saved stamped
  split
  case isTrue h => exact Or.inl ⟨rfl, h⟩
  case isFalse => exact Or.inr rfl

theorem source_saved : (row.saved clocks listing).provider = row.provider ∧
    (row.saved clocks listing).templateId = row.templateId := by
  rcases saved_cases row clocks listing with ⟨heq, -⟩ | heq
  · rw [heq]; exact ⟨rfl, rfl⟩
  · rw [heq]; exact source_synced

theorem name_saved : (row.saved clocks listing).name = nameAfter listing row := by
  rcases saved_cases row clocks listing with ⟨heq, hsame⟩ | heq
  · have hname : (row.synced clocks.now listing).name = nameAfter listing row := name_synced
    rw [heq, ← hname, hsame]
  · rw [heq]; exact name_synced

theorem isActive_saved (hne : listing ≠ []) (hprovider : row.provider = "proxmox") :
    (row.saved clocks listing).isActive = (template? listing row.templateId).isSome := by
  rcases saved_cases row clocks listing with ⟨heq, hsame⟩ | heq
  · have hactive : (row.synced clocks.now listing).isActive =
        (template? listing row.templateId).isSome := isActive_synced hne hprovider
    rw [heq, ← hactive, hsame]
  · rw [heq]; exact isActive_synced hne hprovider

/-- The statements of a commit are the updates of the stored rows and the insertions of the images
of unregistered templates. -/
theorem statements_reconcile (hdistinct : (listing.map (·.vmid)).Nodup) :
    (reconcile clocks.now listing images).statements clocks.serverNow images =
      Statement.updates images.rows (fun _ row => row.saved clocks listing) ++
        Statement.inserts ((unregistered images listing).map (·.image)) := by
  rw [SyncSession.statements, inserted_reconcile hdistinct]
  congr 1
  refine Statement.updates_congr fun id row hget => ?_
  rw [object_reconcile hdistinct hget, ImageTemplate.saved]

/-- Two rows conflict over their names, if they are not images of one template. -/
theorem conflict_eq_false_iff {a b : ImageTemplate}
    (h : ¬(a.provider = b.provider ∧ a.templateId = b.templateId)) :
    imageConstraints.conflict a b = false ↔ a.name ≠ b.name := by
  simp only [imageConstraints, decide_eq_false_iff_not, h, or_false, ne_eq]

/-- Stored rows have different names, and are images of different templates. -/
theorem ne_of_stored {i j : ℕ} {a b : ImageTemplate} (ha : images.rows.get? i = some a)
    (hb : images.rows.get? j = some b) (hne : i ≠ j) :
    a.name ≠ b.name ∧ ¬(a.provider = b.provider ∧ a.templateId = b.templateId) := by
  have hconflict := images.distinct ha hb hne
  simp only [imageConstraints, decide_eq_false_iff_not, not_or] at hconflict
  exact hconflict

theorem mem_unregistered : pt ∈ unregistered images listing ↔ pt ∈ listing ∧
    ∀ id row, images.rows.get? id = some row → row.provider = "proxmox" →
      row.templateId ≠ pt.key := by
  simp only [unregistered, List.mem_filter, Option.isNone_iff_eq_none, Serial.first?_eq_none_iff,
    decide_eq_false_iff_not, not_and, ne_eq]

theorem reactivated?_eq_some_iff : reactivated? listing row = some pt ↔
    row.provider = "proxmox" ∧ row.isActive = false ∧
      template? listing row.templateId = some pt := by
  unfold reactivated?
  split
  case isTrue h => exact ⟨fun ht => ⟨h.1, h.2, ht⟩, fun ht => ht.2.2⟩
  case isFalse h => exact ⟨nofun, fun ht => absurd ⟨ht.1, ht.2.1⟩ h⟩

/-- The changed rows may be written exactly when the names of the images that are brought back are
there and free. -/
theorem allPermitted_saved_iff (hne : listing ≠ []) :
    Statement.AllPermitted imageConstraints images.rows
      (Statement.updates images.rows fun _ row => row.saved clocks listing) ↔
    ∀ id row pt, images.rows.get? id = some row → reactivated? listing row = some pt →
      pt.name ≠ none ∧ ∀ j other, images.rows.get? j = some other → j ≠ id →
        pt.name ≠ if j < id then nameAfter listing other else other.name := by
  have hname : ∀ id j other,
      (Statement.seenFrom (fun _ row => row.saved clocks listing) id j other).name =
        if j < id then nameAfter listing other else other.name := by
    intro id j other
    unfold Statement.seenFrom
    split
    case isTrue => exact name_saved
    case isFalse => rfl
  have hsource : ∀ {i j : ℕ} {a b : ImageTemplate}, images.rows.get? i = some a →
      images.rows.get? j = some b → j ≠ i →
      ¬((a.saved clocks listing).provider =
          (Statement.seenFrom (fun _ row => row.saved clocks listing) i j b).provider ∧
        (a.saved clocks listing).templateId =
          (Statement.seenFrom (fun _ row => row.saved clocks listing) i j b).templateId) := by
    intro i j a b ha hb hji
    rw [source_saved.1, source_saved.2]
    unfold Statement.seenFrom
    split
    case isTrue => rw [source_saved.1, source_saved.2]; exact (ne_of_stored ha hb hji.symm).2
    case isFalse => exact (ne_of_stored ha hb hji.symm).2
  rw [Statement.allPermitted_updates_iff]
  constructor
  · intro h id row pt hget hreactivated
    obtain ⟨hprovider, hinactive, htemplate⟩ := reactivated?_eq_some_iff.mp hreactivated
    have hnew : (row.saved clocks listing).name = pt.name := by
      rw [name_saved, nameAfter, hreactivated]
    have hchanged : row.saved clocks listing ≠ row := by
      intro heq
      have hactive : (row.saved clocks listing).isActive =
          (template? listing row.templateId).isSome := isActive_saved hne hprovider
      rw [heq, hinactive, htemplate] at hactive
      cases hactive
    obtain ⟨hvalid, hfree⟩ := h id row hget hchanged
    refine ⟨fun hnone => ?_, fun j other hother hj => ?_⟩
    · replace hvalid : (row.saved clocks listing).name.isSome = true := hvalid
      rw [hnew, hnone] at hvalid
      cases hvalid
    · have hnames := (conflict_eq_false_iff (hsource hget hother hj)).mp (hfree j other hother hj)
      rwa [hnew, hname] at hnames
  · intro h id row hget hchanged
    refine ⟨?_, fun j other hother hj =>
      (conflict_eq_false_iff (hsource hget hother hj)).mpr ?_⟩
    · show (row.saved clocks listing).name.isSome = true
      rw [name_saved, nameAfter]
      cases hreactivated : reactivated? listing row with
      | none => exact images.valid hget
      | some pt => exact Option.ne_none_iff_isSome.mp (h id row pt hget hreactivated).1
    · rw [hname, name_saved, nameAfter]
      cases hreactivated : reactivated? listing row with
      | some pt => exact (h id row pt hget hreactivated).2 j other hother hj
      | none =>
        dsimp only
        split
        case isFalse => exact (ne_of_stored hget hother hj.symm).1
        case isTrue hlt =>
          -- the other image may have been brought back, and has not taken the name of this one
          rw [nameAfter]
          cases hother' : reactivated? listing other with
          | none => exact (ne_of_stored hget hother hj.symm).1
          | some pt =>
            have hfree := (h j other pt hother hother').2 id row hget hj.symm
            rw [if_neg (Nat.not_lt.mpr hlt.le)] at hfree
            exact hfree.symm

/-- Everything may be written exactly when the names are free. -/
theorem allPermitted_iff (clocks : Clocks) (hne : listing ≠ []) (hdistinct : (listing.map (·.vmid)).Nodup) :
    Statement.AllPermitted imageConstraints images.rows
      ((reconcile clocks.now listing images).statements clocks.serverNow images) ↔
    NamesFree images listing := by
  rw [statements_reconcile hdistinct, Statement.allPermitted_append, allPermitted_saved_iff hne,
    Statement.allPermitted_inserts_iff]
  -- a new image conflicts with stored ones over its name only
  have hstored : ∀ pt ∈ unregistered images listing,
      (imageConstraints.valid pt.image = true ∧ ∀ j other,
        (Statement.runAll images.rows
          (Statement.updates images.rows fun _ row => row.saved clocks listing)).get? j =
            some other → imageConstraints.conflict pt.image other = false) ↔
      (pt.name ≠ none ∧ ∀ j other, images.rows.get? j = some other →
        pt.name ≠ nameAfter listing other) := by
    intro pt hpt
    have hvalid : imageConstraints.valid pt.image = true ↔ pt.name ≠ none :=
      Option.ne_none_iff_isSome.symm
    have hsource : ∀ j other, images.rows.get? j = some other →
        ¬(pt.image.provider = (other.saved clocks listing).provider ∧
          pt.image.templateId = (other.saved clocks listing).templateId) := by
      rintro j other hother ⟨hprovider, hkey⟩
      rw [source_saved.1] at hprovider
      rw [source_saved.2] at hkey
      exact (mem_unregistered.mp hpt).2 j other hother hprovider.symm hkey.symm
    rw [hvalid]
    refine and_congr_right fun _ => ⟨fun h j other hother => ?_, fun h j written hwritten => ?_⟩
    · have hconflict := h j (other.saved clocks listing) (by
        rw [Statement.get?_runAll_updates, hother, Option.map_some])
      rw [conflict_eq_false_iff (hsource j other hother), name_saved] at hconflict
      exact hconflict
    · rw [Statement.get?_runAll_updates, Option.map_eq_some_iff] at hwritten
      obtain ⟨other, hother, rfl⟩ := hwritten
      rw [conflict_eq_false_iff (hsource j other hother), name_saved]
      exact h j other hother
  have hpairs : ((unregistered images listing).map (·.image)).Pairwise
        (fun a b => imageConstraints.conflict b a = false) ↔
      ((unregistered images listing).map (·.name)).Nodup := by
    have hkeys : (unregistered images listing).Pairwise fun a b => a.key ≠ b.key := by
      have hlisting : listing.Pairwise fun a b => a.key ≠ b.key :=
        (List.pairwise_map.mp hdistinct).imp fun h hkey => h (key_inj.mp hkey)
      exact hlisting.sublist List.filter_sublist
    rw [List.pairwise_map, List.Nodup, List.pairwise_map]
    refine ⟨fun h => (h.and hkeys).imp ?_, fun h => (h.and hkeys).imp ?_⟩
    · rintro a b ⟨hconflict, hkey⟩
      exact ((conflict_eq_false_iff fun h => hkey h.2.symm).mp hconflict).symm
    · rintro a b ⟨hname, hkey⟩
      exact (conflict_eq_false_iff fun h => hkey h.2.symm).mpr hname.symm
  rw [hpairs]
  constructor
  · rintro ⟨hreactivated, hinserted, hnames⟩
    exact ⟨hreactivated, fun pt hpt =>
      (hstored pt hpt).mp (hinserted _ (List.mem_map_of_mem hpt)), hnames⟩
  · rintro ⟨hreactivated, hinserted, hnames⟩
    refine ⟨hreactivated, fun row hrow => ?_, hnames⟩
    obtain ⟨pt, hpt, rfl⟩ := List.mem_map.mp hrow
    exact (hstored pt hpt).mpr (hinserted pt hpt)

/-- The table after a synchronisation that is not skipped: a transaction that fails changes
nothing. -/
theorem images_stateAfter {s : State} (hredis : s.redis ≠ some true) :
    (stateAfter s (some listing) clocks).images = (s.images.executeAll
      ((reconcile clocks.now listing s.images).statements clocks.serverNow s.images)).getD
        s.images := by
  unfold stateAfter syncProxmoxTemplates
  rw [if_neg hredis]
  cases hexecute : s.images.executeAll
    ((reconcile clocks.now listing s.images).statements clocks.serverNow s.images) with
  | none => simp only [hexecute, Option.getD_none]
  | some images' => simp only [hexecute, Option.getD_some]

variable {images' : ImageTable}

/-- The images after a synchronisation that is committed: the stored ones as they are saved, and
new ones. -/
theorem get?_syncImages (hdistinct : (listing.map (·.vmid)).Nodup)
    (h : images.executeAll ((reconcile clocks.now listing images).statements clocks.serverNow
      images) = some images') :
    (∀ id row, images.rows.get? id = some row →
      images'.rows.get? id = some (row.saved clocks listing)) ∧
    (∀ id row', images'.rows.get? id = some row' →
      (∃ row, images.rows.get? id = some row ∧ row.saved clocks listing = row') ∨
        ∃ pt ∈ unregistered images listing, pt.image = row') ∧
    ∀ pt ∈ unregistered images listing, ∃ id, images'.rows.get? id = some pt.image := by
  have hrows := Constrained.rows_of_executeAll h
  rw [statements_reconcile hdistinct, Statement.runAll_append, Statement.runAll_inserts] at hrows
  refine ⟨fun id row hget => ?_, fun id row' hget => ?_, fun pt hpt => ?_⟩
  · rw [hrows]
    refine Serial.get?_foldl_add_of_get? ?_ _
    rw [Statement.get?_runAll_updates, hget, Option.map_some]
  · rw [hrows] at hget
    rcases Serial.get?_foldl_add hget with hold | ⟨-, hnew⟩
    · rw [Statement.get?_runAll_updates, Option.map_eq_some_iff] at hold
      exact Or.inl hold
    · exact Or.inr (List.mem_map.mp hnew)
  · rw [hrows]
    exact Serial.exists_get?_foldl_add (List.mem_map_of_mem hpt) _

theorem saved_of_ne (h : row.provider ≠ "proxmox") : row.saved clocks listing = row := by
  have hsynced : row.synced clocks.now listing = row := if_neg h
  rw [ImageTemplate.saved, hsynced, stamped, if_pos rfl]

/-- A synchronisation that is committed mirrors the templates. -/
theorem mirrors_of_executeAll (hne : listing ≠ []) (hdistinct : (listing.map (·.vmid)).Nodup)
    (h : images.executeAll ((reconcile clocks.now listing images).statements clocks.serverNow
      images) = some images') : Mirrors listing images images' := by
  obtain ⟨hstored, hcases, hnew⟩ := get?_syncImages hdistinct h
  refine
    { listed := fun pt hpt => ?_
      active := fun id row hget hprovider hactive => ?_
      vanished := fun id row hget hprovider hgone => ?_
      others := fun id row hprovider => ⟨fun hget => ?_, fun hget => ?_⟩ }
  · have hexists : ∃ id row, images'.rows.get? id = some row ∧ row.provider = "proxmox" ∧
        row.templateId = pt.key ∧ row.isActive = true := by
      by_cases hregistered : pt ∈ unregistered images listing
      · obtain ⟨id, hget⟩ := hnew pt hregistered
        exact ⟨id, pt.image, hget, rfl, rfl, rfl⟩
      · rw [mem_unregistered, not_and] at hregistered
        simp only [not_forall, not_not] at hregistered
        obtain ⟨id, row, hget, hprovider, hkey⟩ := hregistered hpt
        refine ⟨id, _, hstored id row hget, source_saved.1.trans hprovider,
          source_saved.2.trans hkey, ?_⟩
        rw [isActive_saved hne hprovider, ← Option.ne_none_iff_isSome, ne_eq, template?_eq_none_iff]
        exact fun hnone => hnone pt hpt hkey.symm
    obtain ⟨id, row, hget, hprovider, hkey, hactive⟩ := hexists
    refine ⟨id, ⟨row, hget, hprovider, hkey, hactive⟩, ?_⟩
    rintro j ⟨other, hother, hprovider', hkey', -⟩
    by_contra hji
    exact (ne_of_stored hother hget hji).2
      ⟨hprovider'.trans hprovider.symm, hkey'.trans hkey.symm⟩
  · rcases hcases id row hget with ⟨stored, -, rfl⟩ | ⟨pt, hpt, rfl⟩
    · rw [source_saved.1] at hprovider
      rw [isActive_saved hne hprovider] at hactive
      obtain ⟨pt, hpt⟩ := Option.isSome_iff_exists.mp hactive
      rw [source_saved.2]
      exact ⟨pt, template?_eq_some hpt⟩
    · exact ⟨pt, (mem_unregistered.mp hpt).1, rfl⟩
  · refine ⟨_, hstored id row hget, source_saved.1.trans hprovider, source_saved.2, ?_⟩
    rw [isActive_saved hne hprovider, template?_eq_none_iff.mpr hgone, Option.isSome_none]
  · rcases hcases id row hget with ⟨stored, hold, rfl⟩ | ⟨pt, -, rfl⟩
    · rw [source_saved.1] at hprovider
      rw [saved_of_ne hprovider]
      exact hold
    · exact absurd rfl hprovider
  · rw [hstored id row hget, saved_of_ne hprovider]

/-- The image of a listed template is active where the templates are mirrored. -/
theorem Mirrors.isActive (h : Mirrors listing images images')
    (hget : images'.rows.get? id = some row) (hprovider : row.provider = "proxmox")
    (hpt : pt ∈ listing) (hkey : row.templateId = pt.key) : row.isActive = true := by
  obtain ⟨j, ⟨other, hother, hprovider', hkey', hactive⟩, -⟩ := h.listed pt hpt
  have hij : id = j := by
    by_contra hne
    exact (ne_of_stored hget hother hne).2
      ⟨hprovider.trans hprovider'.symm, hkey.trans hkey'.symm⟩
  subst hij
  rw [hget] at hother
  rw [Option.some.inj hother]
  exact hactive

/-- Where the templates are mirrored, each of them has an image. -/
theorem Mirrors.unregistered_eq_nil (h : Mirrors listing images images') :
    unregistered images' listing = [] := by
  refine List.eq_nil_iff_forall_not_mem.mpr fun pt hpt => ?_
  obtain ⟨hmem, hnone⟩ := mem_unregistered.mp hpt
  obtain ⟨id, ⟨row, hget, hprovider, hkey, -⟩, -⟩ := h.listed pt hmem
  exact hnone id row hget hprovider hkey

/-- Where the templates are mirrored, no image takes a name. -/
theorem Mirrors.namesFree (h : Mirrors listing images images') : NamesFree images' listing := by
  have hregistered := h.unregistered_eq_nil
  refine ⟨fun id row pt hget hreactivated => ?_, fun pt hpt => ?_, ?_⟩
  · obtain ⟨hprovider, hinactive, htemplate⟩ := reactivated?_eq_some_iff.mp hreactivated
    obtain ⟨hpt, hkey⟩ := template?_eq_some htemplate
    rw [h.isActive hget hprovider hpt hkey.symm] at hinactive
    cases hinactive
  · rw [hregistered] at hpt
    cases hpt
  · rw [hregistered]
    exact List.nodup_nil

/-- Where the templates are mirrored, a synchronisation writes times only. -/
theorem Mirrors.unstamped_saved (h : Mirrors listing images images')
    (hget : images'.rows.get? id = some row) :
    (row.saved clocks listing).unstamped = row.unstamped := by
  have hsynced : (row.synced clocks.now listing).unstamped = row.unstamped := by
    unfold ImageTemplate.synced
    split
    case isFalse => rfl
    case isTrue hprovider =>
      split
      case h_1 pt htemplate =>
        obtain ⟨hpt, hkey⟩ := template?_eq_some htemplate
        rw [refresh_of_active (h.isActive hget hprovider hpt hkey.symm)]
        rfl
      case h_2 htemplate =>
        split
        case isFalse => rfl
        case isTrue hactive =>
          obtain ⟨pt, hpt, hkey⟩ := h.active id row hget hprovider hactive.2
          exact absurd hkey (template?_eq_none_iff.mp htemplate pt hpt)
  rcases saved_cases row clocks listing with ⟨heq, -⟩ | heq
  · rw [heq]
  · rw [heq, ← hsynced]
    rfl

/-- Where the templates are mirrored, a synchronisation that is committed changes times only. -/
theorem Mirrors.sameImages (h : Mirrors listing images images')
    (hdistinct : (listing.map (·.vmid)).Nodup) {again : ImageTable}
    (hagain : images'.executeAll ((reconcile clocks.now listing images').statements
      clocks.serverNow images') = some again) : SameImages images' again := by
  obtain ⟨hstored, hcases, -⟩ := get?_syncImages hdistinct hagain
  intro id
  cases hget : images'.rows.get? id with
  | some row =>
    rw [hstored id row hget, Option.map_some, Option.map_some, h.unstamped_saved hget]
  | none =>
    cases hget' : again.rows.get? id with
    | none => rfl
    | some row' =>
      rcases hcases id row' hget' with ⟨row, hrow, -⟩ | ⟨pt, hpt, -⟩
      · rw [hget] at hrow
        cases hrow
      · rw [h.unregistered_eq_nil] at hpt
        cases hpt

/-- Where a synchronisation mirrors the templates, the names were free: a transaction that fails
leaves a template without an active image. -/
theorem namesFree_of_mirrored {s : State} (hredis : s.redis ≠ some true) (hne : listing ≠ [])
    (hdistinct : (listing.map (·.vmid)).Nodup) (h : Mirrored s listing) :
    NamesFree s.images listing := by
  by_contra hnames
  have hmirrors := (h ⟨0, 0⟩).1
  have hfails : s.images.executeAll
      ((reconcile (Clocks.mk 0 0).now listing s.images).statements (Clocks.mk 0 0).serverNow
        s.images) = none := by
    rw [← Option.not_isSome_iff_eq_none, Constrained.isSome_executeAll_iff,
      allPermitted_iff _ hne hdistinct]
    exact hnames
  rw [images_stateAfter hredis, hfails, Option.getD_none] at hmirrors
  exact hnames hmirrors.namesFree

/-- A synchronisation with free names is committed. -/
theorem NamesFree.exists_executeAll (h : NamesFree images listing) (hne : listing ≠ [])
    (hdistinct : (listing.map (·.vmid)).Nodup) (clocks : Clocks) :
    ∃ images', images.executeAll ((reconcile clocks.now listing images).statements
      clocks.serverNow images) = some images' :=
  Option.isSome_iff_exists.mp (Constrained.isSome_executeAll_iff.mpr
    ((allPermitted_iff _ hne hdistinct).mpr h))

/-- The images mirror the listed templates after a synchronisation, and another one changes nothing
but times, if and only if the names that images take are free. -/
theorem mirrored_iff {s : State} (hredis : s.redis ≠ some true) (hne : listing ≠ [])
    (hdistinct : (listing.map (·.vmid)).Nodup) :
    Mirrored s listing ↔ NamesFree s.images listing := by
  refine ⟨namesFree_of_mirrored hredis hne hdistinct, fun hnames clocks => ?_⟩
  obtain ⟨images', hexecute⟩ := hnames.exists_executeAll hne hdistinct clocks
  have hmirrors := mirrors_of_executeAll hne hdistinct hexecute
  rw [images_stateAfter hredis, hexecute, Option.getD_some]
  refine ⟨hmirrors, fun redis clocks' => ?_⟩
  by_cases hcached : redis = some true
  · have hskip : stateAfter { images := images', redis } (some listing) clocks' =
        { images := images', redis } := by
      rw [stateAfter, syncProxmoxTemplates, if_pos hcached]
    rw [hskip]
    exact fun id => rfl
  · obtain ⟨again, hagain⟩ := hmirrors.namesFree.exists_executeAll hne hdistinct clocks'
    rw [images_stateAfter hcached, hagain, Option.getD_some]
    exact hmirrors.sameImages hdistinct hagain

/-- A template of the hypervisor. -/
def smallTemplate (vmid : ℕ) (name : String) : ProxmoxTemplate where
  vmid := vmid
  name := some name
  os := some "Ubuntu"
  cores := some 2
  memory := some 2048
  disk := some 20

/-- An inactive image, one whose template is gone, and one of another source. -/
def smallState : State where
  images := (Constrained.empty.executeAll
    [.insert { (smallTemplate 9000 "old").image with isActive := false },
      .insert (smallTemplate 9001 "gone").image,
      .insert { (smallTemplate 9002 "upload").image with provider := "upload" }]).getD .empty
  redis := some false

theorem mirrored_small :
    Mirrored smallState [smallTemplate 9000 "web", smallTemplate 9002 "db"] :=
  (mirrored_iff (by decide) (by decide) (by decide)).mpr
    ((allPermitted_iff ⟨0, 0⟩ (by decide) (by decide)).mp
      (Constrained.isSome_executeAll_iff.mp (by decide +kernel)))

/-- Two templates of one name are listed. -/
theorem not_mirrored : ¬ ∀ (s : State) (listing : List ProxmoxTemplate), s.redis ≠ some true →
    listing ≠ [] → (listing.map (·.vmid)).Nodup → Mirrored s listing := by
  intro h
  have hnames := namesFree_of_mirrored (by decide) (by decide) (by decide)
    (h smallState [smallTemplate 9003 "ubuntu", smallTemplate 9004 "ubuntu"] (by decide) (by decide)
      (by decide))
  exact absurd hnames.distinct (by decide +kernel)

end TemplateSync

end ProxmoxIaas
