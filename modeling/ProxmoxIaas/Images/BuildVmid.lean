import ProxmoxIaas.Foundation.FirstFree
import Mathlib.Algebra.Order.SuccPred
import Mathlib.Data.Int.SuccPred

/-!
# Ids of Build VMs

The VM that builds an image gets the first id from 9000 on that neither a build nor a VM of the
hypervisor uses. The VMs are asked for with a call that swallows its failures: what cannot be
listed is an empty list, and the search takes that for a hypervisor without VMs.

## Main results

- `allocateBuildVmid_eq_some_iff`: what the search returns.
- `returnsFreeId_iff`: the id is free on the hypervisor if the VMs were listed, and otherwise if
  and only if the builds alone keep the search away from them.
- `not_returnsFreeId`: the listing fails and the id is in use.
-/

namespace ProxmoxIaas

namespace BuildVmid

/-- An entry of `cluster/resources`: a node, a storage, a container or a VM. -/
structure Resource where
  /-- The kind of the resource; VMs are `qemu`. -/
  type : Option String
  /-- The id, of a VM or a container. -/
  vmid : Option ℤ
  /-- The name. -/
  name : Option String
  /-- The status. -/
  status : Option String
  /-- Whether a VM is a template. -/
  template : Option ℤ
  deriving DecidableEq, Repr

/-- A VM as the provider lists it. -/
structure VmEntry where
  /-- The id of the VM. -/
  vmid : Option ℤ
  /-- The name of the VM. -/
  name : Option String
  /-- The status of the VM. -/
  status : Option String
  /-- Whether the VM is a template. -/
  template : ℤ
  deriving DecidableEq, Repr

/-- What the call of the API yields. -/
inductive Answer where
  /-- No connection, a status that is an error, or a body that cannot be read. -/
  | raised
  /-- The field `data` of the answer is a list. -/
  | list (resources : List Resource)
  /-- The field is an object, or there is none; the list may be a field of the object. -/
  | object (data : Option (List Resource))
  /-- A text, a number or null. -/
  | other
  deriving DecidableEq, Repr

/-- The resources of an answer. -/
def Answer.resources : Answer → List Resource
  | .raised => []
  | .list resources => resources
  | .object data => data.getD []
  | .other => []

/-- `list_all_vms`. A failure of the call is an empty list. -/
def listAllVms (answer : Answer) : List VmEntry :=
  (answer.resources.filter fun resource => resource.type = some "qemu").map fun resource =>
    { vmid := resource.vmid
      name := resource.name
      status := resource.status
      template := resource.template.getD 0 }

/-- The ids of the VMs that are listed. Without a provider there is no call, and no ids. -/
def proxmoxVmids : Option Answer → Finset ℤ
  | none => ∅
  | some answer =>
    ((listAllVms answer).filterMap fun vm => vm.vmid.filter fun vmid => vmid ≠ 0).toFinset

/-- `_allocate_build_vmid`, with the ids of the builds unless their query fails. -/
def allocateBuildVmid (dbVmids : Option (List ℤ)) (provider : Option Answer) : Option ℤ :=
  dbVmids.map fun vmids => firstFree (vmids.toFinset ∪ proxmoxVmids provider) 9000

/-- The ids that VMs of the hypervisor use. -/
def vmIds (hypervisor : List Resource) : List ℤ :=
  (hypervisor.filter fun resource => resource.type = some "qemu").filterMap (·.vmid)

/-- How a call to the hypervisor ends. -/
inductive Listing where
  /-- The resources are listed. -/
  | listed
  /-- They are listed in a field of an object. -/
  | nested
  /-- There is no provider. -/
  | noProvider
  /-- The call raises. -/
  | raised
  /-- The answer has no data. -/
  | empty
  /-- The answer is something else. -/
  | other
  deriving DecidableEq, Repr

/-- The answer of a hypervisor. -/
def Listing.answer (hypervisor : List Resource) : Listing → Option Answer
  | .listed => some (.list hypervisor)
  | .nested => some (.object (some hypervisor))
  | .noProvider => none
  | .raised => some .raised
  | .empty => some (.object none)
  | .other => some .other

/-- The call is without a fault. -/
def Listing.Succeeds (listing : Listing) : Prop := listing = .listed ∨ listing = .nested

instance (listing : Listing) : Decidable listing.Succeeds :=
  inferInstanceAs (Decidable (_ ∨ _))

/-- Nothing is returned, or an id from 9000 on that no build and no VM of the hypervisor uses, and
that is the least such id if there was no fault. -/
def ReturnsFreeId (dbVmids : Option (List ℤ)) (hypervisor : List Resource) (listing : Listing) :
    Prop :=
  ∀ vmid, allocateBuildVmid dbVmids (listing.answer hypervisor) = some vmid →
    9000 ≤ vmid ∧ (∀ vmids, dbVmids = some vmids → vmid ∉ vmids) ∧ vmid ∉ vmIds hypervisor ∧
      (listing.Succeeds → ∀ m, 9000 ≤ m → m < vmid →
        (∃ vmids, dbVmids = some vmids ∧ m ∈ vmids) ∨ m ∈ vmIds hypervisor)

/-- The search finds the first id that is neither in the table nor in the listing. -/
theorem allocateBuildVmid_eq_some_iff {dbVmids : Option (List ℤ)} {provider : Option Answer}
    {vmid : ℤ} :
    allocateBuildVmid dbVmids provider = some vmid ↔
      ∃ vmids, dbVmids = some vmids ∧ 9000 ≤ vmid ∧
        (vmid ∉ vmids ∧ vmid ∉ proxmoxVmids provider) ∧
        ∀ m, 9000 ≤ m → m < vmid → m ∈ vmids ∨ m ∈ proxmoxVmids provider := by
  simp only [allocateBuildVmid, Option.map_eq_some_iff, firstFree_eq_iff, Finset.mem_union,
    List.mem_toFinset, not_or]

/-- A call that succeeds lists the ids of the VMs, but for an id that is zero. -/
theorem mem_proxmoxVmids_of_succeeds {hypervisor : List Resource} {listing : Listing}
    (h : listing.Succeeds) {n : ℤ} :
    n ∈ proxmoxVmids (listing.answer hypervisor) ↔ n ∈ vmIds hypervisor ∧ n ≠ 0 := by
  have hlisted : ∀ answer : Answer, answer.resources = hypervisor →
      (n ∈ proxmoxVmids (some answer) ↔ n ∈ vmIds hypervisor ∧ n ≠ 0) := by
    rintro answer rfl
    simp only [proxmoxVmids, listAllVms, vmIds, List.mem_toFinset, List.filterMap_map,
      List.mem_filterMap, Function.comp_apply, Option.filter_eq_some_iff, decide_eq_true_eq]
    constructor
    · rintro ⟨resource, hmem, hvmid, hzero⟩
      exact ⟨⟨resource, hmem, hvmid⟩, hzero⟩
    · rintro ⟨⟨resource, hmem, hvmid⟩, hzero⟩
      exact ⟨resource, hmem, hvmid, hzero⟩
  rcases h with rfl | rfl
  · exact hlisted _ rfl
  · exact hlisted _ rfl

/-- A call that fails lists nothing. -/
theorem proxmoxVmids_of_not_succeeds {hypervisor : List Resource} {listing : Listing}
    (h : ¬ listing.Succeeds) : proxmoxVmids (listing.answer hypervisor) = ∅ := by
  cases listing with
  | listed => exact absurd (Or.inl rfl) h
  | nested => exact absurd (Or.inr rfl) h
  | noProvider => rfl
  | raised => rfl
  | empty => rfl
  | other => rfl

/-- The id that is returned is free if the VMs were listed. Where they were not, it is free if and
only if every VM from 9000 on has the id of a build, or an id above one that no build has. -/
theorem returnsFreeId_iff (dbVmids : Option (List ℤ)) (hypervisor : List Resource)
    (listing : Listing) :
    ReturnsFreeId dbVmids hypervisor listing ↔
      ∀ vmids, dbVmids = some vmids → listing.Succeeds ∨
        ∀ n ∈ vmIds hypervisor, 9000 ≤ n → n ∈ vmids ∨ ∃ m, 9000 ≤ m ∧ m < n ∧ m ∉ vmids := by
  by_cases hlisting : listing.Succeeds
  · refine iff_of_true (fun vmid hvmid => ?_) fun _ _ => Or.inl hlisting
    obtain ⟨vmids, rfl, hle, ⟨hbuild, hvm⟩, hbelow⟩ := allocateBuildVmid_eq_some_iff.mp hvmid
    refine ⟨hle, ?_, fun h => hvm ?_, fun _ m hm hlt => ?_⟩
    · rintro _ ⟨⟩
      exact hbuild
    · exact (mem_proxmoxVmids_of_succeeds hlisting).mpr ⟨h, by omega⟩
    · rcases hbelow m hm hlt with h | h
      · exact Or.inl ⟨vmids, rfl, h⟩
      · exact Or.inr ((mem_proxmoxVmids_of_succeeds hlisting).mp h).1
  · -- the search only sees the builds, so whether it meets a VM is a matter of these
    have hnone : proxmoxVmids (listing.answer hypervisor) = ∅ :=
      proxmoxVmids_of_not_succeeds hlisting
    cases dbVmids with
    | none => exact iff_of_true (fun vmid hvmid => nomatch hvmid) (fun vmids h => nomatch h)
    | some vmids =>
      have hresult : allocateBuildVmid (some vmids) (listing.answer hypervisor) =
          some (firstFree vmids.toFinset 9000) := by
        rw [allocateBuildVmid, Option.map_some, hnone, Finset.union_empty]
      have hmeets : firstFree vmids.toFinset (9000 : ℤ) ∉ (vmIds hypervisor).toFinset ↔ _ :=
        firstFree_notMem_iff
      simp only [List.mem_toFinset] at hmeets
      simp only [ReturnsFreeId, hresult, hlisting, Option.some.injEq, false_implies, false_or,
        forall_eq', and_true]
      rw [← hmeets]
      constructor
      · exact fun h => h.2.2
      · refine fun h => ⟨le_firstFree _ _, fun hmem => ?_, h⟩
        exact firstFree_notMem _ _ (List.mem_toFinset.mpr hmem)

/-- The hypervisor cannot be reached, and the id of its only VM is given to the build. -/
theorem not_returnsFreeId :
    ¬ ReturnsFreeId (some [])
      [{ type := some "qemu", vmid := some 9000, name := some "build-1", status := some "running",
         template := none }] .raised := by
  intro h
  have hresult : allocateBuildVmid (some []) (some .raised) = some 9000 := by
    rw [allocateBuildVmid, Option.map_some, Option.some.injEq]
    exact firstFree_of_notMem (by decide)
  exact (h 9000 hresult).2.2.1 (by decide)

end BuildVmid

end ProxmoxIaas
