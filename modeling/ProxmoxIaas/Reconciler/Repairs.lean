import ProxmoxIaas.Reconciler.Purge

/-!
# Rows That a Reconciliation Changes

A reconciliation deletes the rows of VMs without a container, corrects the statuses that differ from
that of the container, and releases the addresses of the VMs that it deletes. All other rows stay.

## Main results

- `reconcileProviders_repairs_iff`: the rows of VMs that a run changes.
- `reconcileProviders_releases_iff`: the reservations of addresses that it changes.
-/

namespace ProxmoxIaas.Reconciler

/-- The status of a VM differs from that of its container: one of them runs and the other does
not. -/
def drifts (calls : ProviderCalls) (vm : VmRecord) : Bool :=
  (getContainerStatus calls).any fun statuses =>
    (statuses.get? vm.name).any fun status => drifted vm status

/-- The reconciliation of a provider repairs a VM: its container is missing, or its status
differs. -/
def needsRepair (calls : ProviderCalls) (vm : VmRecord) : Bool :=
  !calls.knows vm.name || drifts calls vm

variable {db : ReconcilerDb} {calls : ProviderCalls} {backend : String → ProviderCalls}
  {provider : String} {id : ℕ} {vm : VmRecord}

/-- The drifts of a report are the rows of the provider whose status differs. -/
theorem mem_drift_iff {report : Report} (h : auditSingleProvider db calls provider = some report) :
    id ∈ report.drift.map (·.vmId) ↔
      ∃ vm, db.vms.get? id = some vm ∧ vm.provider = provider ∧ drifts calls vm = true := by
  simp only [auditSingleProvider, Option.bind_eq_bind, Option.bind_eq_some_iff] at h
  obtain ⟨statuses, hstatuses, hreport⟩ := h
  obtain rfl := Option.some.inj hreport
  simp only [List.mem_map, List.mem_filterMap, vmsOf, Serial.select, Prod.exists,
    Table.mem_select, Option.bind_eq_some_iff]
  constructor
  · rintro ⟨item, ⟨id, vm, ⟨hget, hprovider⟩, realStatus, hstatus, u, hdrifted, hitem⟩, rfl⟩
    cases hitem
    refine ⟨vm, hget, of_decide_eq_true hprovider, ?_⟩
    simpa [drifts, hstatuses, hstatus, Option.require_eq_some_iff] using hdrifted
  · rintro ⟨vm, hget, rfl, hdrifts⟩
    simp only [drifts, hstatuses, Option.any_some] at hdrifts
    cases hstatus : statuses.get? vm.name with
    | none =>
      rw [hstatus] at hdrifts
      cases hdrifts
    | some realStatus =>
      rw [hstatus, Option.any_some] at hdrifts
      exact ⟨⟨id, vm.name, vm.status, realStatus, vm.provider⟩, ⟨id, vm,
        ⟨hget, decide_eq_true rfl⟩, realStatus, hstatus, ⟨⟩,
        Option.require_eq_some_iff.mpr hdrifts, rfl⟩, rfl⟩

/-- A drift of a report tells the status of the row and that of its container. -/
theorem drifted_of_mem {report : Report} (h : auditSingleProvider db calls provider = some report)
    {item : Drift} (hmem : item ∈ report.drift) :
    ∃ vm, db.vms.get? item.vmId = some vm ∧ drifted vm item.realStatus = true := by
  simp only [auditSingleProvider, Option.bind_eq_bind, Option.bind_eq_some_iff] at h
  obtain ⟨statuses, -, hreport⟩ := h
  obtain rfl := Option.some.inj hreport
  simp only [List.mem_filterMap, vmsOf, Serial.select, Prod.exists, Table.mem_select,
    Option.bind_eq_some_iff] at hmem
  obtain ⟨id, vm, ⟨hget, -⟩, realStatus, -, u, hdrifted, hitem⟩ := hmem
  cases hitem
  exact ⟨vm, hget, Option.require_eq_some_iff.mp hdrifted⟩

/-- A corrected row has the status that one of the corrections says. -/
theorem status_correctDrifts {items : List Drift} (hget : db.vms.get? id = some vm)
    (hmem : id ∈ items.map (·.vmId)) : ∃ item ∈ items, item.vmId = id ∧
      (correctDrifts db items).1.vms.get? id = some { vm with status := item.realStatus } := by
  induction items generalizing db vm with
  | nil => cases hmem
  | cons item items ih =>
    rw [correctDrifts]
    by_cases hlater : id ∈ items.map (·.vmId)
    · -- A later correction overwrites this one.
      split
      case h_1 stored hstored =>
        have hnext : ({ db with vms := db.vms.modify item.vmId fun vm =>
            { vm with status := item.realStatus } } : ReconcilerDb).vms.get? id =
            some (if id = item.vmId then { vm with status := item.realStatus } else vm) := by
          rw [Serial.get?_modify]
          split
          case isTrue => rw [hget, Option.map_some]
          case isFalse => exact hget
        obtain ⟨later, hin, hid, hfinal⟩ := ih hnext hlater
        refine ⟨later, List.mem_cons_of_mem _ hin, hid, hfinal.trans ?_⟩
        split <;> rfl
      case h_2 =>
        obtain ⟨later, hin, hid, hfinal⟩ := ih hget hlater
        exact ⟨later, List.mem_cons_of_mem _ hin, hid, hfinal⟩
    · have hid : item.vmId = id := by
        rcases List.mem_cons.mp hmem with heq | hin
        · exact heq.symm
        · exact absurd hin hlater
      subst hid
      split
      case h_1 stored hstored =>
        obtain ⟨status, hfinal, hkept⟩ := get?_correctDrifts
          { db with vms := db.vms.modify item.vmId fun vm => { vm with status := item.realStatus } }
          items item.vmId
        refine ⟨item, List.mem_cons_self, rfl, ?_⟩
        dsimp only
        rw [hfinal, Serial.get?_modify, if_pos rfl, hget, Option.map_some, Option.map_some,
          hkept hlater]
      case h_2 hnone =>
        rw [hget] at hnone
        cases hnone

/-- The row of a VM after a run was at a provider: it is repaired, or stays as it was. -/
theorem get?_reconcileSingleProvider_iff (calls : ProviderCalls) (provider : String)
    (hget : db.vms.get? id = some vm) :
    (reconcileSingleProvider db calls provider).1.vms.get? id ≠ some vm ↔
      vm.provider = provider ∧ calls.passes db provider = true ∧ calls.lookupAgain = true ∧
        needsRepair calls vm = true := by
  rcases reconcileSingleProvider_cases db calls provider with
    ⟨hpasses, heq⟩ | ⟨hpasses, hagain, heq⟩ | ⟨hpasses, hagain, report, results, haudit, heq⟩
  · simp [hpasses, heq, hget]
  · simp [hagain, heq, hget]
  · have hghosts : id ∈ report.ghosts.map (·.vmId) ↔ _ := mem_ghosts_iff haudit
    have hdrift : id ∈ report.drift.map (·.vmId) ↔ _ := mem_drift_iff haudit
    simp only [hget, Option.some.injEq, exists_eq_left'] at hghosts hdrift
    obtain ⟨status, hcorrected, hother⟩ :=
      get?_correctDrifts (purgeGhosts db report.ghosts).1 report.drift id
    have hpurged := get?_purgeGhosts db report.ghosts id
    rw [heq]
    simp only [hpasses, hagain, true_and]
    by_cases hghost : id ∈ report.ghosts.map (·.vmId)
    · rw [hcorrected, hpurged, if_pos hghost, Option.map_none]
      obtain ⟨hprovider, hknows⟩ := hghosts.mp hghost
      exact iff_of_true nofun ⟨hprovider, by simp [needsRepair, hknows]⟩
    · rw [if_neg hghost, hget] at hpurged
      by_cases hitem : id ∈ report.drift.map (·.vmId)
      · obtain ⟨hprovider, hdrifts⟩ := hdrift.mp hitem
        refine iff_of_true ?_ ⟨hprovider, by simp [needsRepair, hdrifts]⟩
        obtain ⟨item, hmem, rfl, hfinal⟩ := status_correctDrifts hpurged hitem
        obtain ⟨vm', hget', hdrifted⟩ := drifted_of_mem haudit hmem
        obtain rfl := Option.some.inj (hget.symm.trans hget')
        intro hsame
        have hstatus : item.realStatus = vm.status :=
          congrArg VmRecord.status (Option.some.inj (hfinal.symm.trans hsame))
        simp [drifted, hstatus] at hdrifted
      · refine iff_of_false ?_ fun ⟨hprovider, hneeds⟩ => ?_
        · rw [hcorrected, hpurged, Option.map_some, not_not]
          exact congrArg (fun status => some { vm with status }) (hother hitem vm)
        · have hknows : calls.knows vm.name = true := by
            cases hknows : calls.knows vm.name with
            | true => rfl
            | false => exact absurd (hghosts.mpr ⟨hprovider, hknows⟩) hghost
          have hnot : drifts calls vm = false :=
            Bool.eq_false_iff.mpr fun hdrifts => hitem (hdrift.mpr ⟨hprovider, hdrifts⟩)
          simp [needsRepair, hknows, hnot] at hneeds

/-- A run changes the rows of the providers that it completes and can look up for the repairs, where
a repair is needed. -/
theorem reconcileProviders_repairs_iff {providers : List String} (hnodup : providers.Nodup)
    (hget : db.vms.get? id = some vm) :
    (reconcileProviders backend db providers).1.vms.get? id ≠ some vm ↔
      vm.provider ∈ completed backend db providers ∧ (backend vm.provider).lookupAgain = true ∧
        needsRepair (backend vm.provider) vm = true := by
  induction providers generalizing db vm with
  | nil => simp [reconcileProviders, completed, hget]
  | cons provider providers ih =>
    obtain ⟨hnotin, hrest⟩ := List.nodup_cons.mp hnodup
    rw [fst_reconcileProviders_cons]
    cases hpasses : (backend provider).passes db provider with
    | false => simp [completed, hpasses, hget]
    | true =>
      have hcompleted : completed backend db (provider :: providers) =
          provider :: completed backend (reconcileSingleProvider db (backend provider) provider).1
            providers := by
        rw [completed_reconcileSingleProvider hnotin, completed, List.takeWhile_cons, if_pos hpasses]
        rfl
      have hrow := get?_reconcileSingleProvider_iff (backend provider) provider hget
      rw [if_pos rfl, hcompleted, List.mem_cons]
      simp only [hpasses, true_and] at hrow
      by_cases hrepaired : (reconcileSingleProvider db (backend provider) provider).1.vms.get? id =
        some vm
      · rw [ih hrest hrepaired]
        constructor
        · rintro ⟨hmem, hneeds⟩
          exact ⟨Or.inr hmem, hneeds⟩
        · rintro ⟨hfirst | hmem, hneeds⟩
          · exact absurd hrepaired (hrow.mpr ⟨hfirst, hfirst ▸ hneeds⟩)
          · exact ⟨hmem, hneeds⟩
      · obtain ⟨hfirst, hneeds⟩ := hrow.mp hrepaired
        subst hfirst
        refine iff_of_true ?_ ⟨Or.inl rfl, hneeds⟩
        -- The later providers leave what this one has repaired.
        cases hafter : (reconcileSingleProvider db (backend vm.provider) vm.provider).1.vms.get? id with
        | none =>
          rw [get?_reconcileProviders_none hafter]
          rintro ⟨⟩
        | some vm' =>
          have hkept := get?_reconcileSingleProvider (backend vm.provider) vm.provider hget
          split at hkept
          case isTrue =>
            rw [hafter] at hkept
            cases hkept
          case isFalse =>
            obtain ⟨vm'', hget'', -, hprovider, -⟩ := hkept
            obtain rfl := Option.some.inj (hafter.symm.trans hget'')
            have hleft : (reconcileProviders backend (reconcileSingleProvider db
                (backend vm.provider) vm.provider).1 providers).1.vms.get? id = some vm' := by
              by_contra hchanged
              obtain ⟨hmem, -⟩ := (ih hrest hafter).mp hchanged
              rw [hprovider] at hmem
              exact hnotin (List.takeWhile_subset _ hmem)
            rw [hleft]
            intro hsame
            exact hrepaired (hafter.trans hsame)

/-! ### Reservations of addresses -/

/-- A reservation whose VM is deleted. -/
def IPReservation.release (reservation : IPReservation) : IPReservation :=
  { reservation with status := "released", vmId := none }

/-- The VM of a reservation is deleted between two states. -/
def losesVm (db db' : ReconcilerDb) (reservation : IPReservation) : Bool :=
  reservation.vmId.any fun id => (db.vms.get? id).isSome && (db'.vms.get? id).isNone

/-- From one state to another no VM appears, and the reservations are released whose VM is
deleted. -/
structure Frees (db db' : ReconcilerDb) : Prop where
  vms : ∀ id, db.vms.get? id = none → db'.vms.get? id = none
  reservations : ∀ k, db'.ipReservations.get? k = (db.ipReservations.get? k).map fun reservation =>
    if losesVm db db' reservation then reservation.release else reservation

/-- Nothing changes where the same VMs have a row. -/
theorem Frees.of_isSome_eq {db' : ReconcilerDb}
    (hvms : ∀ id, (db'.vms.get? id).isSome = (db.vms.get? id).isSome)
    (hreservations : db'.ipReservations = db.ipReservations) : Frees db db' where
  vms id hnone := by
    have hsome := hvms id
    rw [hnone] at hsome
    simpa using hsome
  reservations k := by
    have hkeeps : ∀ reservation, losesVm db db' reservation = false := by
      intro reservation
      rw [losesVm, Option.any_eq_false]
      rintro id -
      rw [← hvms]
      cases db'.vms.get? id <;> rfl
    simp [hreservations, hkeeps]

/-- One state after another. -/
theorem Frees.trans {db₁ db₂ db₃ : ReconcilerDb} (h : Frees db₁ db₂) (h' : Frees db₂ db₃) :
    Frees db₁ db₃ where
  vms id hnone := h'.vms id (h.vms id hnone)
  reservations k := by
    rw [h'.reservations, h.reservations, Option.map_map]
    congr 1
    funext reservation
    cases hid : reservation.vmId with
    | none =>
      -- A reservation without a VM stays.
      simp [losesVm, hid]
    | some id =>
      have hrelease : reservation.release.vmId = none := rfl
      have hfirst := h.vms id
      have hsecond := h'.vms id
      cases hget₁ : db₁.vms.get? id <;> cases hget₂ : db₂.vms.get? id <;>
        simp_all [losesVm]

/-- The purge of a VM. -/
theorem frees_purgeGhost (db : ReconcilerDb) (vmId : ℕ) (hsome : (db.vms.get? vmId).isSome = true) :
    Frees db (purgeGhost db vmId) := by
  have hvms : ∀ id, (purgeGhost db vmId).vms.get? id =
      if id = vmId then none else db.vms.get? id := by
    intro id
    rw [purgeGhost, Serial.get?_deleteWhere]
    by_cases hid : id = vmId <;> cases db.vms.get? id <;> simp [hid]
  refine ⟨fun id hnone => by rw [hvms, hnone, ite_self], fun k => ?_⟩
  refine (Serial.get?_mapRows ..).trans (congrArg (Option.map · _) (funext fun reservation => ?_))
  cases hid : reservation.vmId with
  | none => simp [losesVm, hid]
  | some id =>
    by_cases heq : id = vmId
    · subst heq
      simp [losesVm, hid, hvms, hsome, IPReservation.release]
    · -- The reservations of the other VMs stay.
      have hkeeps : losesVm db (purgeGhost db vmId) reservation = false := by
        rw [losesVm, hid, Option.any_some, hvms, if_neg heq]
        cases db.vms.get? id <;> rfl
      simp [hkeeps, heq]

/-- The purge of the ghosts. -/
theorem frees_purgeGhosts (db : ReconcilerDb) (ghosts : List Ghost) :
    Frees db (purgeGhosts db ghosts).1 := by
  induction ghosts generalizing db with
  | nil => exact .of_isSome_eq (fun _ => rfl) rfl
  | cons ghost ghosts ih =>
    rw [purgeGhosts]
    split
    case h_1 vm hvm =>
      exact (frees_purgeGhost db ghost.vmId (by rw [hvm, Option.isSome_some])).trans (ih _)
    case h_2 => exact ih db

/-- The corrections leave the reservations. -/
theorem ipReservations_correctDrifts (items : List Drift) :
    (correctDrifts db items).1.ipReservations = db.ipReservations := by
  induction items generalizing db with
  | nil => rfl
  | cons item items ih =>
    rw [correctDrifts]
    split
    case h_1 => exact ih
    case h_2 => exact ih

/-- The corrections of statuses. -/
theorem frees_correctDrifts (db : ReconcilerDb) (items : List Drift) :
    Frees db (correctDrifts db items).1 := by
  refine .of_isSome_eq (fun id => ?_) (ipReservations_correctDrifts items)
  obtain ⟨status, hget, -⟩ := get?_correctDrifts db items id
  rw [hget, Option.isSome_map]

/-- The repairs of a provider. -/
theorem frees_reconcileSingleProvider (db : ReconcilerDb) (calls : ProviderCalls)
    (provider : String) : Frees db (reconcileSingleProvider db calls provider).1 := by
  rcases reconcileSingleProvider_cases db calls provider with
    ⟨-, heq⟩ | ⟨-, -, heq⟩ | ⟨-, -, report, results, -, heq⟩
  · rw [heq]
    exact .of_isSome_eq (fun _ => rfl) rfl
  · rw [heq]
    exact .of_isSome_eq (fun _ => rfl) rfl
  · rw [heq]
    exact (frees_purgeGhosts db report.ghosts).trans (frees_correctDrifts _ report.drift)

/-- A run. -/
theorem frees_reconcileProviders (backend : String → ProviderCalls) (db : ReconcilerDb)
    (providers : List String) : Frees db (reconcileProviders backend db providers).1 := by
  induction providers generalizing db with
  | nil => exact .of_isSome_eq (fun _ => rfl) rfl
  | cons provider providers ih =>
    rw [fst_reconcileProviders_cons]
    split
    case isTrue =>
      exact (frees_reconcileSingleProvider db (backend provider) provider).trans (ih _)
    case isFalse => exact .of_isSome_eq (fun _ => rfl) rfl

/-- A run releases the reservations of the VMs that it deletes. -/
theorem reconcileProviders_releases_iff {providers : List String} (hnodup : providers.Nodup)
    {k : ℕ} {reservation : IPReservation} (hget : db.ipReservations.get? k = some reservation) :
    (reconcileProviders backend db providers).1.ipReservations.get? k ≠ some reservation ↔
      ∃ id vm, reservation.vmId = some id ∧ db.vms.get? id = some vm ∧
        vm.provider ∈ completed backend db providers ∧
          (backend vm.provider).lookupAgain = true ∧
            (backend vm.provider).knows vm.name = false := by
  rw [(frees_reconcileProviders backend db providers).reservations, hget, Option.map_some]
  have hchanged : (some (if losesVm db (reconcileProviders backend db providers).1 reservation then
      reservation.release else reservation) ≠ some reservation) ↔
      losesVm db (reconcileProviders backend db providers).1 reservation = true := by
    cases hloses : losesVm db (reconcileProviders backend db providers).1 reservation with
    | false => simp
    | true =>
      refine iff_of_true (fun hsame => ?_) rfl
      rw [if_pos rfl] at hsame
      -- A released reservation has no VM.
      have hnone : reservation.vmId = none :=
        (congrArg IPReservation.vmId (Option.some.inj hsame)).symm
      simp [losesVm, hnone] at hloses
  rw [hchanged, losesVm, Option.any_eq_true]
  refine exists_congr fun id => ?_
  cases hvm : db.vms.get? id with
  | none => simp
  | some vm =>
    simp only [Option.isSome_some, Bool.true_and, Option.isNone_iff_eq_none, Option.some.injEq,
      reconcileProviders_deletes_iff hnodup hvm]
    constructor
    · rintro ⟨hid, hdeleted⟩
      exact ⟨vm, hid, rfl, hdeleted⟩
    · rintro ⟨vm', hid, rfl, hdeleted⟩
      exact ⟨hid, hdeleted⟩

end ProxmoxIaas.Reconciler
