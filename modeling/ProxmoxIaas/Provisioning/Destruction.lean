import Mathlib.Data.Finset.Basic
import Mathlib.Logic.Relation
import ProxmoxIaas.Provisioning.System

/-!
# Destruction of Tenants

The service that destroys a tenant dispatches a task, and the task calls the service. Neither of
them deletes a VM or gives anything back.

## Main results

- `destroyTenant_eq_ok`: what the service does, for the endpoint and for the task.
- `not_destroys`: the calls never come to an end, and nothing is released meanwhile.
-/

namespace ProxmoxIaas.Provisioning

/-- The database, the VMs of the hypervisor, and the messages that wait for a worker. -/
structure DestroyState where
  /-- The committed database. -/
  db : Db
  /-- The ids of the VMs. -/
  vms : Finset ℤ
  /-- The tenants of the dispatched messages of `destroy_tenant_task`. -/
  queue : List ℕ

/-- `destroy_tenant`; the broker takes the message, or the dispatch raises. -/
def destroyTenant (s : DestroyState) (tenantId : ℕ) (delay : Except ApiError Unit) :
    Except ApiError DestroyState := do
  let _ ← Except.ofOption (.valueError "Tenant not found") (s.db.tenants.get? tenantId)
  delay
  return { s with queue := s.queue ++ [tenantId] }

/-- `destroy_tenant_task`, which calls the service in a session of its own. -/
def destroyTenantTask (s : DestroyState) (tenantId : ℕ) (delay : Except ApiError Unit) :
    Except ApiError DestroyState :=
  destroyTenant s tenantId delay

/-- A worker runs the task for a message. The message is gone after the run, also if it raised. -/
def deliver (s : DestroyState) (index : ℕ) (delay : Except ApiError Unit) : DestroyState :=
  match s.queue[index]? with
  | none => s
  | some tenantId =>
    let s := { s with queue := s.queue.eraseIdx index }
    match destroyTenantTask s tenantId delay with
    | .ok s => s
    | .error _ => s

/-- A message about a tenant is delivered, and the calls of the task end in some way. -/
def DeliveryStep (tenantId : ℕ) (s s' : DestroyState) : Prop :=
  ∃ index delay, s.queue[index]? = some tenantId ∧ deliver s index delay = s'

/-- A message about a tenant is delivered, and all calls of the task succeed. -/
def SucceedingStep (tenantId : ℕ) (s s' : DestroyState) : Prop :=
  ∃ index, s.queue[index]? = some tenantId ∧ deliver s index (.ok ()) = s'

/-- A tenant with a bridge, a VM and a network. -/
structure Provisioned (s : DestroyState) (tenantId : ℕ) : Prop where
  /-- Its VM runs on the hypervisor, and its bridge is in use. -/
  tenant : ∃ tenant vmId bridgeId, s.db.tenants.get? tenantId = some tenant ∧
    tenant.opnsenseVmId = some vmId ∧ vmId ∈ s.vms ∧ tenant.bridgeId = some bridgeId ∧
    s.db.bridgePool.get? bridgeId = some ⟨.inUse, some tenantId⟩
  /-- It has a network with a subnet of the pool. -/
  network : ∃ id network subnetId subnet, s.db.tenantNetworks.get? id = some network ∧
    network.tenantId = tenantId ∧ network.live = true ∧ network.ipPoolId = some subnetId ∧
    s.db.globalIpPool.get? subnetId = some subnet ∧ subnet.status = .allocated

/-- What a tenant had before is deleted or back in its pool. -/
structure Released (before after : DestroyState) (tenantId : ℕ) : Prop where
  /-- The OPNsense VM is deleted. -/
  vm : ∀ tenant vmId, before.db.tenants.get? tenantId = some tenant →
    tenant.opnsenseVmId = some vmId → vmId ∉ after.vms
  /-- The bridge is available. -/
  bridge : ∀ tenant bridgeId bridge, before.db.tenants.get? tenantId = some tenant →
    tenant.bridgeId = some bridgeId → after.db.bridgePool.get? bridgeId = some bridge →
    bridge = ⟨.available, none⟩
  /-- The subnets are free. -/
  subnets : ∀ id network subnetId subnet, before.db.tenantNetworks.get? id = some network →
    network.tenantId = tenantId → network.live = true → network.ipPoolId = some subnetId →
    after.db.globalIpPool.get? subnetId = some subnet → subnet.status = .free

/-- The deliveries that a call of the service starts come to an end. -/
def Terminates (s : DestroyState) (tenantId : ℕ) : Prop :=
  ∀ s', destroyTenant s tenantId (.ok ()) = .ok s' → Acc (flip (DeliveryStep tenantId)) s'

/-- Deliveries that succeed lead from a call of the service to a state in which everything is
released. -/
def Releases (s : DestroyState) (tenantId : ℕ) : Prop :=
  ∀ s', destroyTenant s tenantId (.ok ()) = .ok s' →
    ∃ final, Relation.ReflTransGen (SucceedingStep tenantId) s' final ∧ Released s final tenantId

/-- The service only dispatches a message. -/
theorem destroyTenant_eq_ok {s s' : DestroyState} {tenantId : ℕ} {delay : Except ApiError Unit} :
    destroyTenant s tenantId delay = .ok s' ↔
      (∃ tenant, s.db.tenants.get? tenantId = some tenant) ∧ delay = .ok () ∧
        s' = { s with queue := s.queue ++ [tenantId] } := by
  simp only [destroyTenant, Except.bind_eq_ok_iff, Except.ofOption_eq_ok_iff,
    Except.pure_eq_ok_iff]
  constructor
  · rintro ⟨tenant, hget, _, rfl, rfl⟩
    exact ⟨⟨tenant, hget⟩, rfl, rfl⟩
  · rintro ⟨⟨tenant, hget⟩, rfl, rfl⟩
    exact ⟨tenant, hget, (), rfl, rfl⟩

/-- A message waits for a worker, and otherwise everything is as it was before the call. -/
structure Pending (before s : DestroyState) (tenantId : ℕ) : Prop where
  /-- The message. -/
  queued : tenantId ∈ s.queue
  /-- The database is as it was. -/
  db_eq : s.db = before.db
  /-- So is the hypervisor. -/
  vms_eq : s.vms = before.vms

/-- A delivery that succeeds puts its message back. -/
theorem Pending.step {before s s' : DestroyState} {tenantId : ℕ} (h : Pending before s tenantId)
    (hexists : ∃ tenant, before.db.tenants.get? tenantId = some tenant)
    (hstep : SucceedingStep tenantId s s') : Pending before s' tenantId := by
  obtain ⟨index, hindex, rfl⟩ := hstep
  have htask : destroyTenantTask { s with queue := s.queue.eraseIdx index } tenantId (.ok ()) =
      .ok { s with queue := s.queue.eraseIdx index ++ [tenantId] } :=
    destroyTenant_eq_ok.mpr ⟨h.db_eq ▸ hexists, rfl, rfl⟩
  have hdeliver : deliver s index (.ok ()) =
      { s with queue := s.queue.eraseIdx index ++ [tenantId] } := by
    simp only [deliver, hindex, htask]
  rw [hdeliver]
  exact ⟨List.mem_append_right _ List.mem_cons_self, h.db_eq, h.vms_eq⟩

/-- So does every delivery of a run. -/
theorem Pending.run {before s s' : DestroyState} {tenantId : ℕ} (h : Pending before s tenantId)
    (hexists : ∃ tenant, before.db.tenants.get? tenantId = some tenant)
    (hrun : Relation.ReflTransGen (SucceedingStep tenantId) s s') : Pending before s' tenantId := by
  induction hrun with
  | refl => exact h
  | tail _ hstep ih => exact ih.step hexists hstep

/-- There is a delivery as long as a message waits. -/
theorem Pending.exists_step {before s : DestroyState} {tenantId : ℕ}
    (h : Pending before s tenantId) : ∃ s', SucceedingStep tenantId s s' := by
  obtain ⟨index, hindex⟩ := List.getElem?_of_mem h.queued
  exact ⟨_, index, hindex, rfl⟩

/-- Deliveries that succeed never come to an end. -/
theorem Pending.not_acc {before s : DestroyState} {tenantId : ℕ} (h : Pending before s tenantId)
    (hexists : ∃ tenant, before.db.tenants.get? tenantId = some tenant) :
    ¬ Acc (flip (DeliveryStep tenantId)) s := by
  intro hacc
  induction hacc with
  | intro s _ ih =>
    obtain ⟨s', hstep⟩ := h.exists_step
    obtain ⟨index, hindex, heq⟩ := id hstep
    exact ih s' ⟨index, .ok (), hindex, heq⟩ (h.step hexists hstep)

/-- What is provisioned is not released while its message waits. -/
theorem Pending.not_released {before s : DestroyState} {tenantId : ℕ}
    (h : Pending before s tenantId) (hprovisioned : Provisioned before tenantId) :
    ¬ Released before s tenantId := by
  intro hreleased
  obtain ⟨tenant, vmId, bridgeId, hget, hvm, hmem, -, -⟩ := hprovisioned.tenant
  exact hreleased.vm tenant vmId hget hvm (h.vms_eq ▸ hmem)

/-- After a call of the service, the message of the task waits. -/
theorem pending_call (s : DestroyState) (tenantId : ℕ) :
    Pending s { s with queue := s.queue ++ [tenantId] } tenantId :=
  ⟨List.mem_append_right _ List.mem_cons_self, rfl, rfl⟩

/-- For no tenant that is provisioned do the calls come to an end, and nothing of it is ever
released. -/
theorem not_destroys {s : DestroyState} {tenantId : ℕ} (h : Provisioned s tenantId) :
    ¬ Terminates s tenantId ∧ ¬ Releases s tenantId := by
  obtain ⟨tenant, _, _, hget, -⟩ := h.tenant
  have hcall := destroyTenant_eq_ok.mpr ⟨⟨tenant, hget⟩, rfl, rfl⟩
  constructor
  · exact fun hends => (pending_call s tenantId).not_acc ⟨tenant, hget⟩ (hends _ hcall)
  · intro hreleases
    obtain ⟨final, hrun, hreleased⟩ := hreleases _ hcall
    exact ((pending_call s tenantId).run ⟨tenant, hget⟩ hrun).not_released h hreleased

/-- A tenant that was approved, with its VM. -/
def approvedState : DestroyState where
  db := (machine.run smallState
    [.openApproval 0 .admin 1, .approveTenant 0 .none (.ok ()) true]).db
  vms := {10001}
  queue := []

/-- The tenant is provisioned. -/
theorem provisioned_approvedState : Provisioned approvedState 1 where
  tenant := ⟨_, 10001, 101, rfl, rfl, by decide, rfl, rfl⟩
  network := ⟨1, _, 3, _, rfl, rfl, rfl, rfl, rfl, rfl⟩

/-- The approved tenant is never destroyed. -/
theorem not_destroys_small : ¬ Terminates approvedState 1 ∧ ¬ Releases approvedState 1 :=
  not_destroys provisioned_approvedState

/-- Not every tenant is destroyed: the calls for the approved one go on forever. -/
theorem not_terminates :
    ¬ ∀ s tenantId, Provisioned s tenantId → Terminates s tenantId ∧ Releases s tenantId := by
  intro h
  obtain ⟨tenant, _, _, hget, -⟩ := provisioned_approvedState.tenant
  have hends := (h approvedState 1 provisioned_approvedState).1 _
    (destroyTenant_eq_ok.mpr ⟨⟨tenant, hget⟩, rfl, rfl⟩)
  exact (pending_call approvedState 1).not_acc ⟨tenant, hget⟩ hends

end ProxmoxIaas.Provisioning
