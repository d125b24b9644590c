import ProxmoxIaas.Images.TemplateSync

/-!
# Images for Tenants

Administrators register images, edit and delete them, and assign them to tenants; a tenant is
offered the active images that are public or assigned to it. Deleting an image deactivates its row,
which is activated again when its template is registered, converted or found anew.

## Main results

- `run_offers`: a tenant is offered what was assigned to it and not taken back since, and rows of
  images stay under their ids with their templates.
-/

namespace ProxmoxIaas.ImageGrants

open TemplateSync (ImageTable ImageTemplate ProxmoxTemplate SyncSession Clocks stamped
  syncProxmoxTemplates)

/-- A row of `tenant_images`. -/
structure TenantImage where
  tenantId : ℕ
  imageId : ℕ
  /-- Inactive rows do not count. -/
  isActive : Bool
  deriving DecidableEq, Repr

/-- The tenant and the image of a row. -/
def TenantImage.key (row : TenantImage) : ℕ × ℕ := (row.tenantId, row.imageId)

/-- The constraint of `tenant_images`: a tenant has one row for an image. -/
def tenantImageConstraints : Constraints TenantImage where
  valid _ := true
  conflict a b := a.key = b.key
  conflict_comm a b := by rw [decide_eq_decide, eq_comm]

/-- The tables. -/
structure State where
  /-- Table `image_templates`. -/
  images : ImageTable
  /-- Table `tenant_images`. -/
  tenantImages : Constrained tenantImageConstraints
  /-- The ids of table `tenants`. -/
  tenants : Serial Unit

/-- What a new image is described with. -/
structure ImageData where
  name : String
  category : String
  recommendedCpu : ℕ
  recommendedRamMb : ℕ
  recommendedDiskGb : ℕ

/-- What `register_image` is asked for. -/
structure ImageCreate extends ImageData where
  provider : String
  templateId : String
  osType : Option String
  isPublic : Bool

/-- The fields that a request to `update_image` sets, each of which may be null. -/
structure ImageUpdate where
  name : Option (Option String)
  category : Option (Option String)
  osType : Option (Option String)
  recommendedCpu : Option (Option ℕ)
  recommendedRamMb : Option (Option ℕ)
  recommendedDiskGb : Option (Option ℕ)
  /-- Null counts as false. -/
  isPublic : Option (Option Bool)

/-- What `convert_build_to_template_task` is asked for. -/
structure Conversion extends ImageData where
  /-- The id of the VM that becomes a template. -/
  vmid : ℕ
  osType : String

/-! ## Requests -/

/-- The image of a template. -/
def find (s : State) (provider templateId : String) : Option (ℕ × ImageTemplate) :=
  s.images.rows.first? fun _ row => row.provider = provider ∧ row.templateId = templateId

/-- Commit a session that changed images or added some. -/
def commitImages (s : State) (serverNow : ℕ) (object : ℕ → ImageTemplate → ImageTemplate)
    (new : List ImageTemplate) : Except ApiError State := do
  let images ← Except.ofOption integrityError
    (s.images.commit (fun id row => stamped serverNow row (object id row)) new)
  return { s with images }

/-- Commit a session that changed one image. -/
def commitImage (s : State) (serverNow imageId : ℕ) (object : ImageTemplate) :
    Except ApiError State :=
  commitImages s serverNow (fun id row => if id = imageId then object else row) []

/-- What is written for a template that is registered. -/
def ImageCreate.row (data : ImageCreate) (now : ℕ) (updatedAt : Option ℕ) : ImageTemplate where
  name := some data.name
  provider := data.provider
  templateId := data.templateId
  category := data.category
  osType := data.osType
  recommendedCpu := some data.recommendedCpu
  recommendedRamMb := some data.recommendedRamMb
  recommendedDiskGb := some data.recommendedDiskGb
  isActive := true
  isPublic := data.isPublic
  lastSyncedAt := some now
  updatedAt

/-- `register_image`. The provider may fail to list its templates. -/
def registerImage (s : State) (data : ImageCreate) (listing : Option (List ProxmoxTemplate))
    (clocks : Clocks) : Except ApiError State := do
  let liveTemplates ← Except.ofOption integrityError listing
  Except.require (.http 400
    s!"Template ID {data.templateId} not found in Proxmox or not marked as template")
    (liveTemplates.any fun pt => pt.key = data.templateId)
  match find s data.provider data.templateId with
  | some (id, existing) =>
    Except.require (.http 409 "Template already registered") (existing.isActive = false)
    commitImage s clocks.serverNow id (data.row clocks.now existing.updatedAt)
  | none => commitImages s clocks.serverNow (fun _ row => row) [data.row clocks.now none]

/-- `update_image`. A category that is null violates a constraint of the database. -/
def updateImage (s : State) (imageId : ℕ) (data : ImageUpdate) (clocks : Clocks) :
    Except ApiError State := do
  let row ← Except.ofOption (.http 404 "Image not found") (s.images.rows.get? imageId)
  let category ← Except.ofOption integrityError (data.category.getD (some row.category))
  commitImage s clocks.serverNow imageId
    { row with
      name := data.name.getD row.name
      category
      osType := data.osType.getD row.osType
      recommendedCpu := data.recommendedCpu.getD row.recommendedCpu
      recommendedRamMb := data.recommendedRamMb.getD row.recommendedRamMb
      recommendedDiskGb := data.recommendedDiskGb.getD row.recommendedDiskGb
      isPublic := (data.isPublic.getD (some row.isPublic)).getD false
      lastSyncedAt := some clocks.now }

/-- `delete_image`, whether or not its template can be destroyed. -/
def deleteImage (s : State) (imageId : ℕ) (clocks : Clocks) : Except ApiError State := do
  let row ← Except.ofOption (.http 404 "Image not found") (s.images.rows.get? imageId)
  commitImage s clocks.serverNow imageId { row with isActive := false }

/-- The row of a tenant for an image. -/
def tenantImage? (s : State) (imageId tenantId : ℕ) : Option (ℕ × TenantImage) :=
  s.tenantImages.rows.first? fun _ row => row.key = (tenantId, imageId)

/-- One turn of the loop over the tenants: the ids of rows that are activated, and the rows that are
added. The session is not flushed, so a row that was added is not found again. -/
def assignTenant (s : State) (imageId : ℕ) (session : List ℕ × List TenantImage) (tid : ℕ) :
    Except ApiError (List ℕ × List TenantImage) := do
  Except.require (.http 404 s!"Tenant {tid} not found") ((s.tenants.get? tid).isSome = true)
  match tenantImage? s imageId tid with
  | some (id, _) => return (session.1 ++ [id], session.2)
  | none => return (session.1, session.2 ++ [{ tenantId := tid, imageId, isActive := true }])

/-- `assign_tenants`. -/
def assignTenants (s : State) (imageId : ℕ) (tenantIds : List ℕ) : Except ApiError State := do
  Except.require (.http 404 "Image not found") ((s.images.rows.get? imageId).isSome = true)
  let session ← tenantIds.foldlM (assignTenant s imageId) ([], [])
  let tenantImages ← Except.ofOption integrityError (s.tenantImages.commit
    (fun id row => if id ∈ session.1 then { row with isActive := true } else row) session.2)
  return { s with tenantImages }

/-- `unassign_tenant`. -/
def unassignTenant (s : State) (imageId tenantId : ℕ) : Except ApiError State := do
  let assignment ← Except.ofOption (.http 404 "Assignment not found")
    (tenantImage? s imageId tenantId)
  return { s with tenantImages := s.tenantImages.deleteWhere fun id _ => id = assignment.1 }

/-- `list_images` and `list_templates`, as far as they synchronise the templates. The key of the
cache may be set. -/
def listImages (s : State) (redis : Option Bool) (listing : Option (List ProxmoxTemplate))
    (clocks : Clocks) : Except ApiError State := do
  let (_, synced) ← syncProxmoxTemplates { images := s.images, redis } listing clocks
  return { s with images := synced.images }

/-- `convert_build_to_template_task`. The provider may fail to convert the VM. -/
def convertBuildToTemplate (s : State) (data : Conversion) (converted : Bool) (clocks : Clocks) :
    Except ApiError State := do
  Except.require integrityError (converted = true)
  let row (existing : ImageTemplate) : ImageTemplate :=
    { existing with
      name := some data.name
      category := data.category
      osType := some data.osType
      recommendedCpu := some data.recommendedCpu
      recommendedRamMb := some data.recommendedRamMb
      recommendedDiskGb := some data.recommendedDiskGb
      lastSyncedAt := some clocks.now
      isActive := true }
  match find s "proxmox" (toString data.vmid) with
  | some (id, existing) => commitImage s clocks.serverNow id (row existing)
  | none =>
    commitImages s clocks.serverNow (fun _ row => row) [row {
      name := none
      provider := "proxmox"
      templateId := toString data.vmid
      category := data.category
      osType := none
      recommendedCpu := none
      recommendedRamMb := none
      recommendedDiskGb := none
      isActive := true
      isPublic := false
      lastSyncedAt := none
      updatedAt := none }]

/-- `delete_tenant`, for a tenant that other tables let go or not. Its rows in `tenant_images` are
not deleted with it: the session takes the tenant out of them, which the database refuses. -/
def deleteTenant (s : State) (tenantId : ℕ) (free : Bool) : Except ApiError State := do
  Except.require (.http 404 "Tenant not found") ((s.tenants.get? tenantId).isSome = true)
  Except.require integrityError (free = true)
  Except.require integrityError
    ((s.tenantImages.rows.first? fun _ row => row.tenantId = tenantId).isNone = true)
  return { s with tenants := s.tenants.deleteWhere fun id _ => id = tenantId }

/-- What changes images, tenants and assignments. -/
inductive Request where
  /-- `register_image`. -/
  | register (data : ImageCreate) (listing : Option (List ProxmoxTemplate)) (clocks : Clocks)
  /-- `update_image`. -/
  | update (imageId : ℕ) (data : ImageUpdate) (clocks : Clocks)
  /-- `delete_image`. -/
  | delete (imageId : ℕ) (clocks : Clocks)
  /-- `assign_tenants`. -/
  | assign (imageId : ℕ) (tenantIds : List ℕ)
  /-- `unassign_tenant`. -/
  | unassign (imageId tenantId : ℕ)
  /-- `list_images` or `list_templates`. -/
  | list (redis : Option Bool) (listing : Option (List ProxmoxTemplate)) (clocks : Clocks)
  /-- `convert_build_to_template_task`. -/
  | convert (data : Conversion) (converted : Bool) (clocks : Clocks)
  /-- A tenant is created. -/
  | createTenant
  /-- `delete_tenant`. -/
  | deleteTenant (tenantId : ℕ) (free : Bool)

/-- A request, and whether it is made by a super administrator or by a task. -/
structure Call where
  /-- The caller may do everything. -/
  isSuperAdmin : Bool
  /-- The request. -/
  request : Request

/-- What a request does for a super administrator. -/
def perform (s : State) : Request → Except ApiError State
  | .register data listing clocks => registerImage s data listing clocks
  | .update imageId data clocks => updateImage s imageId data clocks
  | .delete imageId clocks => deleteImage s imageId clocks
  | .assign imageId tenantIds => assignTenants s imageId tenantIds
  | .unassign imageId tenantId => unassignTenant s imageId tenantId
  | .list redis listing clocks => listImages s redis listing clocks
  | .convert data converted clocks => convertBuildToTemplate s data converted clocks
  | .createTenant => .ok { s with tenants := s.tenants.add () }
  | .deleteTenant tenantId free => deleteTenant s tenantId free

/-- Answer a request. -/
def answer (s : State) (call : Call) : Except ApiError State := do
  Except.require (.http 403 "Super admin only") (call.isSuperAdmin = true)
  perform s call.request

/-- A run: the tables, and the requests that were answered with success, the last one first. -/
structure Run where
  /-- The tables. -/
  state : State
  /-- The requests. -/
  log : List Request

/-- Answer the next request. -/
def Run.next (run : Run) (call : Call) : Run :=
  match answer run.state call with
  | .ok state => { state, log := call.request :: run.log }
  | .error _ => run

/-- A run that starts without assignments. -/
def run (images : ImageTable) (tenants : Serial Unit) (calls : List Call) : Run :=
  calls.foldl Run.next { state := { images, tenantImages := .empty, tenants }, log := [] }

/-! ## What tenants are offered -/

/-- The images that are assigned to a tenant. -/
def assignedIds (s : State) (tenantId : ℕ) : List ℕ :=
  (s.tenantImages.rows.select fun _ row => row.tenantId = tenantId ∧ row.isActive = true).map
    (·.2.imageId)

/-- `tenant_images`, for a member of a tenant. -/
def tenantImages (s : State) (isSuperAdmin : Bool) (currentTenant tenantId : ℕ)
    (category : Option String) : Except ApiError (List (ℕ × ImageTemplate)) := do
  Except.require (.http 403 "Access denied to this tenant's images")
    (tenantId = currentTenant ∨ isSuperAdmin = true)
  return s.images.rows.select fun id row => row.isActive = true ∧
    (row.isPublic = true ∨ id ∈ assignedIds s tenantId) ∧
    ∀ c ∈ truthyText category, row.category = c

/-- The tenants that `get_image` lists for an image. -/
def assignedTenantIds (s : State) (imageId : ℕ) : List ℕ :=
  (s.tenantImages.rows.select fun _ row => row.imageId = imageId ∧ row.isActive = true).map
    (·.2.tenantId)

/-- Whether a request assigns an image to a tenant, or takes it back. -/
def Request.grants (tenant image : ℕ) : Request → Option Bool
  | .assign imageId tenantIds => if imageId = image ∧ tenant ∈ tenantIds then some true else none
  | .unassign imageId tenantId => if imageId = image ∧ tenantId = tenant then some false else none
  | _ => none

/-- The last request about a tenant and an image that was answered with success assigned it. -/
def IsGranted (log : List Request) (tenant image : ℕ) : Prop :=
  log.findSome? (Request.grants tenant image) = some true

/-- Both rows are of one template. -/
def SameTemplate (row row' : ImageTemplate) : Prop :=
  row'.provider = row.provider ∧ row'.templateId = row.templateId

variable {s s' : State} {request : Request} {images images' : ImageTable} {row row' : ImageTemplate}
  {log : List Request} {tenant image : ℕ}

/-! ## Rows of images -/

/-- Rows stay under their ids with their templates. -/
def RowsStay (images images' : ImageTable) : Prop :=
  ∀ id row, images.rows.get? id = some row →
    ∃ row', images'.rows.get? id = some row' ∧ SameTemplate row row'

theorem SameTemplate.refl (row : ImageTemplate) : SameTemplate row row := ⟨rfl, rfl⟩

theorem RowsStay.refl (images : ImageTable) : RowsStay images images :=
  fun _ row hget => ⟨row, hget, .refl row⟩

theorem RowsStay.trans {images'' : ImageTable} (h : RowsStay images images')
    (h' : RowsStay images' images'') : RowsStay images images'' := by
  intro id row hget
  obtain ⟨row', hget', hprovider, htemplate⟩ := h id row hget
  obtain ⟨row'', hget'', hprovider', htemplate'⟩ := h' id row' hget'
  exact ⟨row'', hget'', hprovider'.trans hprovider, htemplate'.trans htemplate⟩

theorem sameTemplate_stamped (serverNow : ℕ) (h : SameTemplate row row') :
    SameTemplate row (stamped serverNow row row') := by
  unfold stamped
  split
  · exact .refl row
  · exact h

/-- A request writes images only, and their rows stay. -/
def WritesImages (s s' : State) : Prop :=
  ∃ images, RowsStay s.images images ∧ s' = { s with images }

/-- A session that keeps the templates of its objects keeps the rows. -/
theorem rowsStay_commit {serverNow : ℕ} {object : ℕ → ImageTemplate → ImageTemplate}
    {new : List ImageTemplate}
    (hobject : ∀ id row, images.rows.get? id = some row → SameTemplate row (object id row))
    (h : images.commit (fun id row => stamped serverNow row (object id row)) new = some images') :
    RowsStay images images' := by
  intro id row hget
  exact ⟨_, (Constrained.of_commit h).1 id row hget,
    sameTemplate_stamped serverNow (hobject id row hget)⟩

/-- What a session that writes images does to the tables. -/
theorem of_commitImages {serverNow : ℕ} {object : ℕ → ImageTemplate → ImageTemplate}
    {new : List ImageTemplate}
    (hobject : ∀ id row, s.images.rows.get? id = some row → SameTemplate row (object id row))
    (h : commitImages s serverNow object new = .ok s') : WritesImages s s' := by
  simp only [commitImages, Except.bind_eq_ok_iff, Except.ofOption_eq_ok_iff,
    Except.pure_eq_ok_iff] at h
  obtain ⟨images, hcommit, rfl⟩ := h
  exact ⟨images, rowsStay_commit hobject hcommit, rfl⟩

/-- What a session that writes one image does to the tables. -/
theorem of_commitImage {serverNow imageId : ℕ} {object : ImageTemplate}
    (hget : s.images.rows.get? imageId = some row) (hobject : SameTemplate row object)
    (h : commitImage s serverNow imageId object = .ok s') : WritesImages s s' := by
  refine of_commitImages (fun id other hother => ?_) h
  split
  case isTrue hid =>
    subst hid
    exact Option.some.inj (hget.symm.trans hother) ▸ hobject
  case isFalse => exact .refl other

/-- The image of a template is stored, and of this template. -/
theorem of_find {provider templateId : String} {found : ℕ × ImageTemplate}
    (h : find s provider templateId = some found) :
    s.images.rows.get? found.1 = some found.2 ∧ found.2.provider = provider ∧
      found.2.templateId = templateId := by
  obtain ⟨hget, htemplate⟩ := Serial.first?_eq_some h
  exact ⟨hget, of_decide_eq_true htemplate⟩

theorem of_registerImage {data : ImageCreate} {listing : Option (List ProxmoxTemplate)}
    {clocks : Clocks} (h : registerImage s data listing clocks = .ok s') : WritesImages s s' := by
  simp only [registerImage, Except.bind_eq_ok_iff, Except.ofOption_eq_ok_iff,
    Except.require_eq_ok_iff] at h
  obtain ⟨live, -, -, -, h⟩ := h
  split at h
  case h_1 id existing hfind =>
    obtain ⟨-, -, h⟩ := Except.bind_eq_ok_iff.mp h
    obtain ⟨hget, hprovider, htemplate⟩ := of_find hfind
    exact of_commitImage hget ⟨hprovider.symm, htemplate.symm⟩ h
  case h_2 => exact of_commitImages (fun _ row _ => .refl row) h

theorem of_updateImage {imageId : ℕ} {data : ImageUpdate} {clocks : Clocks}
    (h : updateImage s imageId data clocks = .ok s') : WritesImages s s' := by
  simp only [updateImage, Except.bind_eq_ok_iff, Except.ofOption_eq_ok_iff] at h
  obtain ⟨row, hget, category, -, h⟩ := h
  refine of_commitImage hget ?_ h
  exact ⟨rfl, rfl⟩

theorem of_deleteImage {imageId : ℕ} {clocks : Clocks}
    (h : deleteImage s imageId clocks = .ok s') : WritesImages s s' := by
  simp only [deleteImage, Except.bind_eq_ok_iff, Except.ofOption_eq_ok_iff] at h
  obtain ⟨row, hget, h⟩ := h
  refine of_commitImage hget ?_ h
  exact ⟨rfl, rfl⟩

theorem of_convertBuildToTemplate {data : Conversion} {converted : Bool} {clocks : Clocks}
    (h : convertBuildToTemplate s data converted clocks = .ok s') : WritesImages s s' := by
  simp only [convertBuildToTemplate, Except.bind_eq_ok_iff, Except.require_eq_ok_iff] at h
  obtain ⟨-, -, h⟩ := h
  split at h
  case h_1 id existing hfind =>
    refine of_commitImage (of_find hfind).1 ?_ h
    exact ⟨rfl, rfl⟩
  case h_2 => exact of_commitImages (fun _ row _ => .refl row) h

section Synchronisation

variable {now : ℕ} {listing : List ProxmoxTemplate} {session : SyncSession}

/-- The objects of a synchronisation are those of stored images, with their templates. -/
def Loaded (images : ImageTable) (session : SyncSession) : Prop :=
  ∀ vmid r, session.existing.get? vmid = some r →
    ∃ row, images.rows.get? r.1 = some row ∧ SameTemplate row r.2

theorem sameTemplate_refresh {pt : ProxmoxTemplate} (h : SameTemplate row row') :
    SameTemplate row (row'.refresh now pt) := by
  cases hactive : row'.isActive with
  | true => exact TemplateSync.refresh_of_active hactive ▸ h
  | false => exact TemplateSync.refresh_of_inactive hactive ▸ h

/-- One turn of the loop over the templates keeps the templates of the objects. -/
theorem Loaded.registerTemplate (h : Loaded images session) (pt : ProxmoxTemplate) :
    Loaded images (TemplateSync.registerTemplate now session pt) := by
  intro vmid r hget
  unfold TemplateSync.registerTemplate at hget
  split at hget
  case h_1 =>
    rw [Table.get?_modify] at hget
    split at hget
    case isTrue =>
      obtain ⟨old, hold, rfl⟩ := Option.map_eq_some_iff.mp hget
      obtain ⟨row, hrow, hsame⟩ := h vmid old hold
      exact ⟨row, hrow, sameTemplate_refresh hsame⟩
    case isFalse => exact h vmid r hget
  case h_2 => exact h vmid r hget

theorem Loaded.foldl_registerTemplate (h : Loaded images session) :
    Loaded images (listing.foldl (TemplateSync.registerTemplate now) session) := by
  induction listing generalizing session with
  | nil => exact h
  | cons pt listing ih => exact ih (h.registerTemplate pt)

theorem Loaded.reconcile (now : ℕ) (listing : List ProxmoxTemplate) (images : ImageTable) :
    Loaded images (TemplateSync.reconcile now listing images) := by
  have hstart : Loaded images { existing := TemplateSync.existingByVmid images, inserted := [] } :=
    fun vmid r hget => ⟨r.2, (TemplateSync.get?_existingByVmid.mp hget).1, .refl r.2⟩
  intro vmid r hget
  rw [TemplateSync.reconcile, TemplateSync.get?_deactivateMissing] at hget
  obtain ⟨old, hold, rfl⟩ := Option.map_eq_some_iff.mp hget
  obtain ⟨row, hrow, hsame⟩ := hstart.foldl_registerTemplate vmid old hold
  refine ⟨row, hrow, ?_⟩
  show SameTemplate row (if _ then _ else _)
  split
  · exact hsame
  · exact hsame

/-- The object of a row has its template. -/
theorem Loaded.object (h : Loaded images session) {id : ℕ} (hget : images.rows.get? id = some row) :
    SameTemplate row (session.object id row) := by
  unfold SyncSession.object
  split
  case h_1 vmid found object hfound =>
    obtain ⟨hloaded, hid⟩ := Table.first?_eq_some hfound
    obtain ⟨stored, hstored, hsame⟩ := h vmid (found, object) hloaded
    rw [of_decide_eq_true hid, hget] at hstored
    exact Option.some.inj hstored ▸ hsame
  case h_2 => exact .refl row

theorem of_listImages {redis : Option Bool} {listing : Option (List ProxmoxTemplate)}
    {clocks : Clocks} (h : listImages s redis listing clocks = .ok s') : WritesImages s s' := by
  simp only [listImages, Except.bind_eq_ok_iff] at h
  obtain ⟨⟨new, synced⟩, hsync, h⟩ := h
  obtain rfl := Except.pure_eq_ok_iff.mp h
  refine ⟨synced.images, ?_, rfl⟩
  unfold syncProxmoxTemplates at hsync
  split at hsync
  case isTrue =>
    cases hsync
    exact .refl s.images
  case isFalse =>
    split at hsync
    case h_1 =>
      cases hsync
      exact .refl s.images
    case h_2 listing =>
      dsimp only at hsync
      split at hsync
      case h_1 images hexecute =>
        cases hsync
        exact rowsStay_commit (fun id row hget => (Loaded.reconcile _ _ _).object hget) hexecute
      case h_2 => cases hsync

end Synchronisation

/-! ## Rows of assignments -/

/-- A tenant has a row for an image. -/
abbrev HasRow (s : State) (tenant image : ℕ) : Prop :=
  s.tenantImages.HasKey TenantImage.key (tenant, image)

theorem tenantImage?_eq_none_iff :
    tenantImage? s image tenant = none ↔ ¬ HasRow s tenant image := by
  rw [HasRow, ← Constrained.isSome_first?_iff, Option.not_isSome_iff_eq_none]
  rfl

/-- The loop over the tenants goes through if all of them are there, and adds the rows that are
missing. -/
theorem of_foldlM_assignTenant {tids : List ℕ} {session session' : List ℕ × List TenantImage}
    (h : tids.foldlM (assignTenant s image) session = .ok session') :
    (∀ tid ∈ tids, (s.tenants.get? tid).isSome = true) ∧
      session'.2 = session.2 ++ (tids.filter fun tid => (tenantImage? s image tid).isNone).map
        fun tid => { tenantId := tid, imageId := image, isActive := true } := by
  induction tids generalizing session with
  | nil =>
    obtain rfl := Except.pure_eq_ok_iff.mp h
    exact ⟨nofun, (List.append_nil _).symm⟩
  | cons tid tids ih =>
    simp only [List.foldlM_cons, assignTenant, Except.bind_eq_ok_iff,
      Except.require_eq_ok_iff] at h
    obtain ⟨next, ⟨-, htenant, hnext⟩, h⟩ := h
    obtain ⟨htenants, hinserted⟩ := ih h
    refine ⟨List.forall_mem_cons.mpr ⟨htenant, htenants⟩, ?_⟩
    rw [hinserted, List.filter_cons]
    split at hnext
    case h_1 r id row hrow =>
      obtain rfl := Except.pure_eq_ok_iff.mp hnext
      rw [hrow]
      rfl
    case h_2 hrow =>
      obtain rfl := Except.pure_eq_ok_iff.mp hnext
      rw [hrow]
      simp

/-- All rows are active. -/
def AllActive (s : State) : Prop :=
  ∀ id row, s.tenantImages.rows.get? id = some row → row.isActive = true

/-- The tenants and the images of rows are there. -/
def Known (s : State) : Prop :=
  ∀ tenant image, HasRow s tenant image →
    (s.tenants.get? tenant).isSome = true ∧ (s.images.rows.get? image).isSome = true

theorem RowsStay.isSome (h : RowsStay images images') {id : ℕ}
    (hsome : (images.rows.get? id).isSome = true) : (images'.rows.get? id).isSome = true := by
  obtain ⟨row, hget⟩ := Option.isSome_iff_exists.mp hsome
  obtain ⟨row', hget', -⟩ := h id row hget
  exact Option.isSome_iff_exists.mpr ⟨row', hget'⟩

/-- What a request does to the tables. -/
structure Effect (request : Request) (s s' : State) : Prop where
  /-- Rows of images stay. -/
  images : RowsStay s.images s'.images
  /-- Only assigning adds rows, and only taking back deletes them. -/
  rows : ∀ tenant image, HasRow s' tenant image ↔
    (request.grants tenant image).elim (HasRow s tenant image) (· = true)
  /-- Rows are activated and never deactivated. -/
  active : AllActive s → AllActive s'
  /-- No tenant is deleted that has a row. -/
  known : Known s → Known s'

theorem Effect.of_images (hgrants : ∀ tenant image, request.grants tenant image = none)
    (h : WritesImages s s') : Effect request s s' := by
  obtain ⟨images, hstay, rfl⟩ := h
  exact {
    images := hstay
    rows := fun tenant image => by rw [hgrants]; rfl
    active := fun hactive => hactive
    known := fun hknown tenant image hrow =>
      ⟨(hknown tenant image hrow).1, hstay.isSome (hknown tenant image hrow).2⟩ }

theorem effect_assignTenants {imageId : ℕ} {tids : List ℕ}
    (h : assignTenants s imageId tids = .ok s') : Effect (.assign imageId tids) s s' := by
  simp only [assignTenants, Except.bind_eq_ok_iff, Except.require_eq_ok_iff,
    Except.ofOption_eq_ok_iff, Except.pure_eq_ok_iff] at h
  obtain ⟨-, himage, session, hloop, tenantImages, hcommit, rfl⟩ := h
  obtain ⟨htenants, hinserted⟩ := of_foldlM_assignTenant hloop
  rw [List.nil_append] at hinserted
  -- the rows that are added are those that are missing, so all tenants of the list have one
  have hrows : ∀ tenant image, HasRow { s with tenantImages } tenant image ↔
      HasRow s tenant image ∨ imageId = image ∧ tenant ∈ tids := by
    intro tenant image
    have hkeys : Constrained.HasKey TenantImage.key tenantImages (tenant, image) ↔ _ :=
      Constrained.hasKey_commit_iff hcommit fun id row => by split <;> rfl
    rw [HasRow, hkeys]
    constructor
    · rintro (hrow | ⟨row, hmem, hkey⟩)
      · exact Or.inl hrow
      · rw [hinserted, List.mem_map] at hmem
        obtain ⟨tid, htid, rfl⟩ := hmem
        obtain ⟨rfl, rfl⟩ := Prod.ext_iff.mp hkey
        exact Or.inr ⟨rfl, (List.mem_filter.mp htid).1⟩
    · rintro (hrow | ⟨rfl, hmem⟩)
      · exact Or.inl hrow
      · by_cases hrow : HasRow s tenant imageId
        · exact Or.inl hrow
        · refine Or.inr ⟨{ tenantId := tenant, imageId, isActive := true }, ?_, rfl⟩
          rw [hinserted, List.mem_map]
          refine ⟨tenant, List.mem_filter.mpr ⟨hmem, ?_⟩, rfl⟩
          rw [Option.isNone_iff_eq_none, tenantImage?_eq_none_iff]
          exact hrow
  refine ⟨.refl s.images, fun tenant image => ?_, fun hactive id row hget => ?_,
    fun hknown tenant image hrow => ?_⟩
  · rw [hrows, Request.grants]
    by_cases hgranted : imageId = image ∧ tenant ∈ tids
    · simp [hgranted]
    · simp [hgranted]
  · rcases (Constrained.of_commit hcommit).2.1 id row hget with ⟨old, hold, rfl⟩ | hmem
    · split
      · rfl
      · exact hactive id old hold
    · rw [hinserted, List.mem_map] at hmem
      obtain ⟨tid, -, rfl⟩ := hmem
      rfl
  · rcases (hrows tenant image).mp hrow with hrow | ⟨rfl, hmem⟩
    · exact hknown tenant image hrow
    · exact ⟨htenants tenant hmem, himage⟩

theorem effect_unassignTenant {imageId tenantId : ℕ}
    (h : unassignTenant s imageId tenantId = .ok s') :
    Effect (.unassign imageId tenantId) s s' := by
  simp only [unassignTenant, Except.bind_eq_ok_iff, Except.ofOption_eq_ok_iff,
    Except.pure_eq_ok_iff] at h
  obtain ⟨assignment, hfound, rfl⟩ := h
  obtain ⟨hget, hkey⟩ := Serial.first?_eq_some hfound
  have hkey : assignment.2.key = (tenantId, imageId) := of_decide_eq_true hkey
  have hrows : ∀ tenant image,
      HasRow { s with tenantImages := s.tenantImages.deleteWhere fun id _ => id = assignment.1 }
        tenant image ↔ HasRow s tenant image ∧ ¬ (imageId = image ∧ tenantId = tenant) := by
    intro tenant image
    rw [HasRow, Constrained.hasKey_deleteWhere_iff (fun _ _ => decide_eq_true) hget, hkey, ne_eq,
      Prod.mk.injEq, and_comm (a := tenant = tenantId), eq_comm (a := image),
      eq_comm (a := tenant)]
  refine ⟨.refl s.images, fun tenant image => ?_, fun hactive id row hget => ?_,
    fun hknown tenant image hrow => hknown tenant image ((hrows tenant image).mp hrow).1⟩
  · rw [hrows, Request.grants]
    by_cases htaken : imageId = image ∧ tenantId = tenant
    · simp [htaken]
    · simp [htaken]
  · rw [Constrained.deleteWhere, Serial.get?_deleteWhere, Option.filter_eq_some_iff] at hget
    exact hactive id row hget.1

theorem effect_deleteTenant {tenantId : ℕ} {free : Bool}
    (h : deleteTenant s tenantId free = .ok s') : Effect (.deleteTenant tenantId free) s s' := by
  simp only [deleteTenant, Except.bind_eq_ok_iff, Except.require_eq_ok_iff,
    Except.pure_eq_ok_iff, Option.isNone_iff_eq_none, Serial.first?_eq_none_iff] at h
  obtain ⟨-, -, -, -, -, hnone, rfl⟩ := h
  refine ⟨.refl s.images, fun _ _ => .rfl, fun hactive => hactive,
    fun hknown tenant image hrow => ⟨?_, (hknown tenant image hrow).2⟩⟩
  -- a tenant with a row is not the one that is deleted
  obtain ⟨id, row, hget, hkey⟩ := hrow
  have hother : tenant ≠ tenantId := by
    rintro rfl
    exact of_decide_eq_false (hnone id row hget) (Prod.ext_iff.mp hkey).1
  obtain ⟨stored, hstored⟩ :=
    Option.isSome_iff_exists.mp (hknown tenant image ⟨id, row, hget, hkey⟩).1
  rw [Serial.get?_deleteWhere, hstored]
  simp [hother]

/-- What a request does that succeeds. -/
theorem effect_perform (h : perform s request = .ok s') : Effect request s s' := by
  cases request with
  | register data listing clocks => exact .of_images (fun _ _ => rfl) (of_registerImage h)
  | update imageId data clocks => exact .of_images (fun _ _ => rfl) (of_updateImage h)
  | delete imageId clocks => exact .of_images (fun _ _ => rfl) (of_deleteImage h)
  | assign imageId tenantIds => exact effect_assignTenants h
  | unassign imageId tenantId => exact effect_unassignTenant h
  | list redis listing clocks => exact .of_images (fun _ _ => rfl) (of_listImages h)
  | convert data converted clocks =>
    exact .of_images (fun _ _ => rfl) (of_convertBuildToTemplate h)
  | createTenant =>
    obtain rfl := Except.ok.inj h
    refine ⟨.refl s.images, fun _ _ => .rfl, fun hactive => hactive,
      fun hknown tenant image hrow => ⟨?_, (hknown tenant image hrow).2⟩⟩
    rw [Serial.get?_add]
    split
    · rfl
    · exact (hknown tenant image hrow).1
  | deleteTenant tenantId free => exact effect_deleteTenant h

/-! ## Runs -/

/-- The rows of `tenant_images` are what was assigned and not taken back. -/
structure Records (run : Run) : Prop where
  /-- A tenant has a row for what was assigned to it. -/
  granted : ∀ tenant image, HasRow run.state tenant image ↔ IsGranted run.log tenant image
  /-- Rows are active. -/
  active : AllActive run.state
  /-- The tenants and the images of rows are there. -/
  known : Known run.state

theorem isGranted_cons : IsGranted (request :: log) tenant image ↔
    (request.grants tenant image).elim (IsGranted log tenant image) (· = true) := by
  rw [IsGranted, List.findSome?_cons]
  cases request.grants tenant image with
  | none => rfl
  | some granted => exact Option.some_inj

/-- A call is refused, or has its effect and is logged. -/
theorem next_cases (run : Run) (call : Call) : run.next call = run ∨
    Effect call.request run.state (run.next call).state ∧
      (run.next call).log = call.request :: run.log := by
  unfold Run.next
  split
  case h_1 state hanswer =>
    obtain ⟨-, -, hperform⟩ := Except.bind_eq_ok_iff.mp hanswer
    exact Or.inr ⟨effect_perform hperform, rfl⟩
  case h_2 => exact Or.inl rfl

theorem Records.next {run : Run} (h : Records run) (call : Call) : Records (run.next call) := by
  rcases next_cases run call with heq | ⟨heffect, hlog⟩
  · exact heq.symm ▸ h
  · refine ⟨fun tenant image => ?_, heffect.active h.active, heffect.known h.known⟩
    rw [heffect.rows, hlog, isGranted_cons, propext (h.granted tenant image)]

theorem Records.foldl {run : Run} (h : Records run) (calls : List Call) :
    Records (calls.foldl Run.next run) := by
  induction calls generalizing run with
  | nil => exact h
  | cons call calls ih => exact ih (h.next call)

theorem records_run (images : ImageTable) (tenants : Serial Unit) (calls : List Call) :
    Records (run images tenants calls) := by
  have hempty : ∀ id row, ¬ (Constrained.empty (c := tenantImageConstraints)).rows.get? id =
      some row := nofun
  refine Records.foldl ⟨fun tenant image => ?_, fun id row hget => absurd hget (hempty id row),
    fun tenant image hrow => ?_⟩ calls
  · refine iff_of_false ?_ nofun
    rintro ⟨id, row, hget, -⟩
    exact hempty id row hget
  · obtain ⟨id, row, hget, -⟩ := hrow
    exact absurd hget (hempty id row)

theorem rowsStay_foldl (run : Run) (calls : List Call) :
    RowsStay run.state.images (calls.foldl Run.next run).state.images := by
  induction calls generalizing run with
  | nil => exact .refl _
  | cons call calls ih =>
    rcases next_cases run call with heq | ⟨heffect, -⟩
    · rw [List.foldl_cons, heq]
      exact ih run
    · exact heffect.images.trans (ih _)

/-- What is selected among active rows. -/
theorem mem_map_select_iff (h : AllActive s) {p : TenantImage → Prop} [DecidablePred p]
    {f : TenantImage → ℕ} {n : ℕ} :
    n ∈ (s.tenantImages.rows.select fun _ row => p row ∧ row.isActive = true).map (f ·.2) ↔
      ∃ id row, s.tenantImages.rows.get? id = some row ∧ p row ∧ f row = n := by
  rw [List.mem_map]
  constructor
  · rintro ⟨⟨id, row⟩, hmem, hn⟩
    obtain ⟨hget, hrow⟩ := Table.mem_select.mp hmem
    exact ⟨id, row, hget, (of_decide_eq_true hrow).1, hn⟩
  · rintro ⟨id, row, hget, hp, hn⟩
    exact ⟨(id, row), Table.mem_select.mpr ⟨hget, decide_eq_true ⟨hp, h id row hget⟩⟩, hn⟩

theorem mem_assignedIds_iff (h : AllActive s) :
    image ∈ assignedIds s tenant ↔ HasRow s tenant image := by
  simp only [assignedIds, mem_map_select_iff h, HasRow, Constrained.HasKey, TenantImage.key,
    Prod.mk.injEq]

theorem mem_assignedTenantIds_iff (h : AllActive s) :
    tenant ∈ assignedTenantIds s image ↔ HasRow s tenant image := by
  simp only [assignedTenantIds, mem_map_select_iff h, HasRow, Constrained.HasKey, TenantImage.key,
    Prod.mk.injEq]
  refine exists_congr fun id => exists_congr fun row => and_congr_right fun _ => and_comm

theorem nodup_assignedTenantIds (s : State) (image : ℕ) : (assignedTenantIds s image).Nodup := by
  refine List.Nodup.map_on (fun r hr r' hr' htenant => ?_)
    (List.Nodup.of_map Prod.fst (Table.nodup_keys_select _ _))
  obtain ⟨hget, hrow⟩ := Table.mem_select.mp hr
  obtain ⟨hget', hrow'⟩ := Table.mem_select.mp hr'
  have hkey : r.2.key = r'.2.key :=
    Prod.ext htenant ((of_decide_eq_true hrow).1.trans (of_decide_eq_true hrow').1.symm)
  have hid : r.1 = r'.1 := by
    by_contra hne
    have hconflict := s.tenantImages.distinct hget hget' hne
    exact of_decide_eq_false hconflict hkey
  rw [← hid] at hget'
  exact Prod.ext hid (Option.some.inj (hget.symm.trans hget'))

/-- In every run, only its members and super administrators are told what a tenant is offered: the
active images that are public or were assigned to it and not taken back since. An image lists the
tenants that it is assigned to, each of them once. Their rows are there: a tenant with an assignment
is not deleted, and the row of an image stays under its id with its template. So an image that is
deleted keeps its assignments, and is offered again to the same tenants once its template is
back. -/
theorem run_offers (images : ImageTable) (tenants : Serial Unit) (calls calls' : List Call) :
    (∀ isSuperAdmin currentTenant tenant category offered,
      tenantImages (run images tenants calls).state isSuperAdmin currentTenant tenant category =
        .ok offered →
      (tenant = currentTenant ∨ isSuperAdmin = true) ∧ ∀ image row, (image, row) ∈ offered ↔
        (run images tenants calls).state.images.rows.get? image = some row ∧
          row.isActive = true ∧
          (row.isPublic = true ∨ IsGranted (run images tenants calls).log tenant image) ∧
          ∀ c ∈ truthyText category, row.category = c) ∧
    (∀ tenant image, tenant ∈ assignedTenantIds (run images tenants calls).state image ↔
      IsGranted (run images tenants calls).log tenant image) ∧
    (∀ image, (assignedTenantIds (run images tenants calls).state image).Nodup) ∧
    (∀ tenant image, IsGranted (run images tenants calls).log tenant image →
      ((run images tenants calls).state.tenants.get? tenant).isSome = true ∧
        ((run images tenants calls).state.images.rows.get? image).isSome = true) ∧
    ∀ image row, (run images tenants calls).state.images.rows.get? image = some row →
      ∃ row', (run images tenants (calls ++ calls')).state.images.rows.get? image = some row' ∧
        SameTemplate row row' := by
  have hrecords := records_run images tenants calls
  refine ⟨fun isSuperAdmin currentTenant tenant category offered h => ?_,
    fun tenant image => ?_, fun image => nodup_assignedTenantIds _ image,
    fun tenant image h => hrecords.known tenant image ((hrecords.granted tenant image).mpr h), ?_⟩
  · simp only [ImageGrants.tenantImages, Except.bind_eq_ok_iff, Except.require_eq_ok_iff,
      Except.pure_eq_ok_iff] at h
    obtain ⟨-, hmember, rfl⟩ := h
    refine ⟨hmember, fun image row => ?_⟩
    rw [Serial.select, Table.mem_select, decide_eq_true_eq, mem_assignedIds_iff hrecords.active,
      hrecords.granted]
    rfl
  · rw [mem_assignedTenantIds_iff hrecords.active, hrecords.granted]
  · have hstay := rowsStay_foldl (run images tenants calls) calls'
    rw [run, ← List.foldl_append] at hstay
    exact hstay

end ProxmoxIaas.ImageGrants
