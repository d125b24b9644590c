import ProxmoxIaas.VirtualMachines.Reads
import ProxmoxIaas.VirtualMachines.Schema

/-!
# Visibility of Virtual Machines

Which VMs of the current tenant the list shows, and which ones can be read. Both endpoints check
their response against its schema, a page of the list row by row, so that a page with a row that
the schema refuses fails as a whole.

The list takes a permission to delete VMs for a permission to see those of others; the endpoint
for a single VM does not.

## Main results

- `listed_iff`, `readable_iff`: what the two endpoints show.
- `listed_iff_readable_iff`: when they agree.
-/

namespace ProxmoxIaas.VmReads

/-- The fields of a row that the schema bounds. -/
def VmRow.base? (vm : VmRow) : Option VmSchema.VmBase := do
  let cpu ← vm.cpu
  let ram ← vm.ram
  return ⟨vm.name, vm.description, cpu, ram, vm.provider, vm.image⟩

/-- Whether `VMResponse` accepts a row. -/
def responseAccepts (vm : VmRow) : Bool := (vm.base?.bind VmSchema.VmBase.validate).isSome

/-- The reply of `list_vms`, which holds a checked response for each row. -/
def listVmsReply (db : ReadDb) (userId tenantId : ℕ) (query : ListQuery) :
    Except ApiError VmListResponse := do
  let response ← listVms db userId tenantId query
  Except.require (.http 500 "Internal Server Error")
    ((response.vms.all fun vm => responseAccepts vm.row) = true)
  return response

/-- The reply of `get_vm`, a checked response. -/
def getVmReply (db : ReadDb) (userId tenantId : ℕ) (vmId : ℤ) : Except ApiError VmResponse := do
  let response ← getVm db userId tenantId vmId
  Except.require (.http 500 "Internal Server Error") (responseAccepts response.row = true)
  return response

/-- The query of a page without filters. -/
structure ListQuery.IsPlain (query : ListQuery) : Prop where
  status : query.statusFilter = none
  provider : query.providerFilter = none
  owner : query.ownerFilter = none

/-- A VM appears on some page of the list. -/
def Listed (db : ReadDb) (userId tenantId vmId : ℕ) : Prop :=
  ∃ query response, ListQuery.IsPlain query ∧ listVmsReply db userId tenantId query = .ok response ∧
    ∃ vm ∈ response.vms, vm.id = vmId

/-- A VM is returned when it is asked for. -/
def Readable (db : ReadDb) (userId tenantId vmId : ℕ) : Prop :=
  ∃ response, getVmReply db userId tenantId vmId = .ok response ∧ response.id = vmId

/-- The VMs that the list shows page by page. -/
def visibleVms (db : ReadDb) (userId tenantId : ℕ) : List (ℕ × VmRow) :=
  (db.vms.select fun _ vm => getVisibleVmsQuery db userId tenantId vm).insertionSort
    fun a b => b.2.createdAt ≤ a.2.createdAt

section Replies

variable {db : ReadDb} {userId tenantId : ℕ}

/-- The VMs of the list are the rows that are visible. -/
theorem mem_visibleVms {id : ℕ} {vm : VmRow} :
    (id, vm) ∈ visibleVms db userId tenantId ↔
      db.vms.get? id = some vm ∧ getVisibleVmsQuery db userId tenantId vm = true := by
  rw [visibleVms, (List.perm_insertionSort _ _).mem_iff, Table.mem_select]

variable (db userId tenantId) in
/-- A page without filters is a piece of the visible VMs. -/
theorem listVms_plain {query : ListQuery} (h : query.IsPlain) :
    listVms db userId tenantId query = .ok
      { total := (db.vms.select fun _ vm => getVisibleVmsQuery db userId tenantId vm).length
        vms := (((visibleVms db userId tenantId).drop query.offset).take query.limit).map
          fun r => vmResponse r.1 r.2
        offset := query.offset
        limit := query.limit } := by
  simp [listVms, visibleVms, truthyText, h.status, h.provider, h.owner, Option.filter,
    Option.isSome]

/-- A stored VM is listed if it is visible and its row is accepted. -/
theorem listed_iff {id : ℕ} {vm : VmRow} (hget : db.vms.get? id = some vm) :
    Listed db userId tenantId id ↔
      getVisibleVmsQuery db userId tenantId vm = true ∧ responseAccepts vm = true := by
  constructor
  · rintro ⟨query, response, hplain, hreply, shown, hshown, rfl⟩
    simp only [listVmsReply, listVms_plain _ _ _ hplain, Except.bind_eq_ok_iff, Except.ok.injEq,
      Except.require_eq_ok_iff, Except.pure_eq_ok_iff, List.all_eq_true] at hreply
    obtain ⟨_, rfl, -, haccepts, rfl⟩ := hreply
    -- a VM on a page is a visible row, and the page was accepted with it
    obtain ⟨⟨id, row⟩, hmem, rfl⟩ := List.mem_map.mp hshown
    have hvisible := List.mem_of_mem_drop (List.mem_of_mem_take hmem)
    obtain ⟨hrow, hsees⟩ := mem_visibleVms.mp hvisible
    obtain rfl : vm = row := Option.some.inj (hget.symm.trans hrow)
    exact ⟨hsees, haccepts _ hshown⟩
  · rintro ⟨hsees, haccepts⟩
    obtain ⟨i, hi, hrow⟩ := List.getElem_of_mem (mem_visibleVms.mpr ⟨hget, hsees⟩)
    -- the page of length one at the place of the row
    let query : ListQuery := ⟨none, none, none, 1, i, Nat.le_refl 1, by decide⟩
    have hpage : ((visibleVms db userId tenantId).drop query.offset).take query.limit =
        [(id, vm)] := by
      change ((visibleVms db userId tenantId).drop i).take 1 = [(id, vm)]
      rw [List.drop_eq_getElem_cons hi, hrow]
      rfl
    have hplain : query.IsPlain := ⟨rfl, rfl, rfl⟩
    have hreply := listVms_plain db userId tenantId hplain
    rw [hpage] at hreply
    exact ⟨query, _, hplain, by
      rw [listVmsReply, hreply]
      simp only [Except.bind_eq_ok_iff, Except.ok.injEq, Except.require_eq_ok_iff,
        Except.pure_eq_ok_iff]
      exact ⟨_, rfl, ⟨⟩, by simpa [vmResponse] using haccepts, rfl⟩,
      vmResponse id vm, List.mem_singleton.mpr rfl, rfl⟩

/-- Super admins, who may update VMs, and the owner are not refused. -/
theorem getVm_eq_ok_iff {id : ℕ} {vm : VmRow} {response : VmResponse}
    (hget : db.vms.get? id = some vm) (htenant : vm.tenantId = tenantId) :
    getVm db userId tenantId id = .ok response ↔
      (isSuperAdmin db.iam userId = true ∨
        hasPermission db.iam userId (some tenantId) "vm:update" = true ∨ vm.ownerId = userId) ∧
      vmResponse id vm = response := by
  have hfound : ((id : ℤ).toNat?.bind fun id => (db.vms.get? id).map fun vm => (id, vm)) =
      some (id, vm) := by simp [hget, Int.toNat?]
  unfold getVm
  rw [hfound]
  -- a super admin finds every VM, another user those of the tenant only
  by_cases hsuper : isSuperAdmin db.iam userId = true
  · simp [hsuper, Except.ofOption]
  · have hfilter : (some (id, vm)).filter (fun r => r.2.tenantId = tenantId) = some (id, vm) := by
      simp [Option.filter, htenant]
    simp only [hsuper, hfilter, if_false, Except.bind_eq_ok_iff, Except.ofOption_eq_ok_iff,
      Except.require_eq_ok_iff, Except.pure_eq_ok_iff, Option.some.injEq, Prod.exists,
      Prod.mk.injEq, exists_and_left, Bool.or_eq_true, decide_eq_true_eq, false_or,
      Bool.false_eq_true, exists_const]
    constructor
    · rintro ⟨_, _, ⟨rfl, rfl⟩, hmay, hresponse⟩
      exact ⟨hmay, hresponse⟩
    · rintro ⟨hmay, hresponse⟩
      exact ⟨id, vm, ⟨rfl, rfl⟩, hmay, hresponse⟩

/-- A VM of the current tenant can be read by those who are not refused, if its row is accepted. -/
theorem readable_iff {id : ℕ} {vm : VmRow} (hget : db.vms.get? id = some vm)
    (htenant : vm.tenantId = tenantId) :
    Readable db userId tenantId id ↔
      (isSuperAdmin db.iam userId = true ∨
        hasPermission db.iam userId (some tenantId) "vm:update" = true ∨ vm.ownerId = userId) ∧
      responseAccepts vm = true := by
  simp only [Readable, getVmReply, Except.bind_eq_ok_iff, getVm_eq_ok_iff hget htenant,
    Except.require_eq_ok_iff, Except.pure_eq_ok_iff]
  constructor
  · rintro ⟨_, ⟨_, ⟨hmay, rfl⟩, -, haccepts, rfl⟩, -⟩
    exact ⟨hmay, haccepts⟩
  · rintro ⟨hmay, haccepts⟩
    exact ⟨_, ⟨_, ⟨hmay, rfl⟩, ⟨⟩, haccepts, rfl⟩, rfl⟩

/-- A VM of the current tenant appears in the list if and only if it can be read, unless its row
is accepted and the user, who is neither a super admin nor its owner, may delete VMs but not update
them. -/
theorem listed_iff_readable_iff {id : ℕ} {vm : VmRow} (hget : db.vms.get? id = some vm)
    (htenant : vm.tenantId = tenantId) :
    (Listed db userId tenantId id ↔ Readable db userId tenantId id) ↔
      responseAccepts vm = false ∨ isSuperAdmin db.iam userId = true ∨
        hasPermission db.iam userId (some tenantId) "vm:update" = true ∨ vm.ownerId = userId ∨
        hasPermission db.iam userId (some tenantId) "vm:delete" = false := by
  rw [listed_iff hget, readable_iff hget htenant, getVisibleVmsQuery]
  by_cases haccepts : responseAccepts vm = true
  · by_cases hsuper : isSuperAdmin db.iam userId = true
    · simp [haccepts, hsuper]
    · by_cases hupdate : hasPermission db.iam userId (some tenantId) "vm:update" = true
      · simp [haccepts, hsuper, hupdate, htenant]
      · -- only the permission to delete tells the two endpoints apart
        by_cases hdelete : hasPermission db.iam userId (some tenantId) "vm:delete" = true
        · simp [haccepts, hsuper, hupdate, hdelete, htenant]
        · simp [haccepts, hsuper, hupdate, hdelete, htenant]
  · -- neither endpoint returns a row that is refused
    simp [haccepts]

end Replies

/-- A VM of the first tenant that another user owns. -/
def othersRow : VmRow := { smallVm "web" 1 2 with ownerId := 2 }

/-- The VM of another user, and a user who may delete VMs. -/
def othersVm : ReadDb where
  iam := smallIam
  vms := AList.insert 1 othersRow ∅

theorem get?_smallReadDb : (smallReadDb 2).vms.get? 1 = some (smallVm "web" 1 2) := rfl

theorem listed_iff_readable_small :
    Listed (smallReadDb 2) 1 1 1 ↔ Readable (smallReadDb 2) 1 1 1 :=
  (listed_iff_readable_iff get?_smallReadDb rfl).mpr (by decide +kernel)

/-- Who may only delete VMs sees those of others in the list, and is refused to read them. -/
theorem not_listed_iff_readable : ¬ ∀ db userId tenantId id vm, db.vms.get? id = some vm →
    vm.tenantId = tenantId → (Listed db userId tenantId id ↔ Readable db userId tenantId id) := by
  intro h
  have hget : othersVm.vms.get? 1 = some othersRow := rfl
  have htenant : othersRow.tenantId = 1 := rfl
  have hagree := h othersVm 1 1 1 othersRow hget htenant
  rw [listed_iff hget, readable_iff hget htenant] at hagree
  exact absurd (hagree.mp (by decide +kernel)) (by decide +kernel)

end ProxmoxIaas.VmReads
