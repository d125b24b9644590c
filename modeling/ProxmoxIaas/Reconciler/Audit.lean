import ProxmoxIaas.Reconciler.Repairs

/-!
# The Classification of an Audit

An audit puts every row of a provider into one of three lists, by its container: it has none, it has
one that says something else about running, or it has one that agrees. The containers without a row
are the orphans. A reconciliation without faults leaves rows that all agree, so that a second audit
has nothing to report about them; whether the orphans are still there makes no difference.

## Main results

- `classifies_auditSingleProvider`: an audit is a partition of the rows.
- `audit_partition`: and so it is before and after a reconciliation, after which no row is left to
  repair.
-/

namespace ProxmoxIaas.Reconciler

/-- What an audit says about a row. -/
inductive RecordClass where
  | synced
  | drift
  | ghost
  deriving DecidableEq, Repr

/-- The class of a row, by the presence and the status of its container. -/
def recordClass (statuses : Table String String) (vm : VmRecord) : RecordClass :=
  match statuses.get? vm.name with
  | none => .ghost
  | some realStatus => if drifted vm realStatus then .drift else .synced

/-- The rows of a class. -/
def rowsOf (statuses : Table String String) (vms : List (ℕ × VmRecord)) (c : RecordClass) :
    List (ℕ × VmRecord) :=
  vms.filter fun vm => recordClass statuses vm.2 = c

/-- A report is about rows and containers: every row is reported once, under its class, and the
orphans are the containers without a row. -/
structure Classifies (statuses : Table String String) (vms : List (ℕ × VmRecord))
    (provider : String) (report : Report) : Prop where
  /-- The names of the rows with a container that agrees. -/
  synced : report.synced = (rowsOf statuses vms .synced).map (·.2.name)
  /-- The rows with a container that says something else, and what it says. -/
  drift : report.drift.map (fun item => (item.vmId, item.name, item.dbStatus, item.provider)) =
    (rowsOf statuses vms .drift).map fun vm => (vm.1, vm.2.name, vm.2.status, provider)
  /-- The status of a drift is that of the container. -/
  real : ∀ item ∈ report.drift, statuses.get? item.name = some item.realStatus
  /-- The rows without a container. -/
  ghosts : report.ghosts =
    (rowsOf statuses vms .ghost).map fun vm => ⟨vm.1, vm.2.name, vm.2.status, provider⟩
  /-- Every row is in one of the three lists. -/
  once : (report.synced ++ report.drift.map (·.name) ++ report.ghosts.map (·.name)).Perm
    (vms.map (·.2.name))
  /-- The containers without a row. -/
  orphans : report.orphans.map (fun orphan => (orphan.name, orphan.status, orphan.provider)) =
    (statuses.entries.filter fun r => vms.all fun vm => vm.2.name ≠ r.1).map
      fun r => (r.1, r.2, provider)

/-- No call to the provider fails during the run. -/
structure FaultFree (calls : ProviderCalls) : Prop where
  /-- The provider is looked up twice. -/
  lookup : calls.lookup = true ∧ calls.lookupAgain = true
  /-- It lists its containers. -/
  listed : ∃ containers, calls.listContainers = .returns containers
  /-- Every container can be removed. -/
  removed : ∀ name, calls.remove name = .returns ()

/-- Two dictionaries of statuses agree on the containers of the rows. -/
def AgreeOn (vms : List (ℕ × VmRecord)) (statuses statuses' : Table String String) : Prop :=
  ∀ vm ∈ vms, statuses'.get? vm.2.name = statuses.get? vm.2.name

/-- The rows of the three classes are all rows. -/
theorem rowsOf_perm (statuses : Table String String) (vms : List (ℕ × VmRecord)) :
    (rowsOf statuses vms .synced ++ rowsOf statuses vms .drift ++ rowsOf statuses vms .ghost).Perm
      vms := by
  unfold rowsOf
  induction vms with
  | nil => exact .refl _
  | cons vm vms ih =>
    -- each row is in the list of its class
    cases hclass : recordClass statuses vm.2 with
    | synced => simpa [List.filter_cons, hclass] using ih
    | drift =>
      have hmiddle : (rowsOf statuses vms .synced ++ vm :: (rowsOf statuses vms .drift ++
          rowsOf statuses vms .ghost)).Perm (vm :: vms) :=
        List.perm_middle.trans (List.Perm.cons vm (by simpa [rowsOf] using ih))
      simpa [rowsOf, List.filter_cons, hclass] using hmiddle
    | ghost =>
      have hmiddle : (rowsOf statuses vms .synced ++ rowsOf statuses vms .drift ++ vm ::
          rowsOf statuses vms .ghost).Perm (vm :: vms) :=
        List.perm_middle.trans (List.Perm.cons vm ih)
      simpa [rowsOf, List.filter_cons, hclass] using hmiddle

variable {db : ReconcilerDb} {calls calls' : ProviderCalls} {provider : String}
  {statuses statuses' : Table String String} {report : Report}

/-- A list that has an entry for each row of a class. -/
private theorem filterMap_eq_rowsOf {β : Type} {c : RecordClass} {vms : List (ℕ × VmRecord)}
    {f : ℕ × VmRecord → Option β} {g : ℕ × VmRecord → β}
    (h : ∀ vm, f vm = if recordClass statuses vm.2 = c then some (g vm) else none) :
    vms.filterMap f = (rowsOf statuses vms c).map g := by
  rw [rowsOf, ← List.filterMap_eq_map, List.filterMap_filter]
  refine List.filterMap_congr fun vm _ => ?_
  rw [h]
  by_cases hclass : recordClass statuses vm.2 = c
  · simp [hclass]
  · simp [hclass]

variable (db provider) in
/-- An audit reports every row under its class. -/
theorem classifies_auditSingleProvider (hstatuses : getContainerStatus calls = some statuses) :
    ∃ report, auditSingleProvider db calls provider = some report ∧
      Classifies statuses (vmsOf db provider) provider report := by
  refine ⟨_, by rw [auditSingleProvider, hstatuses]; rfl, ?_⟩
  generalize vmsOf db provider = vms
  -- the lists of an audit are the rows of the classes
  have hsynced : (vms.filterMap fun vm => do
      let realStatus ← statuses.get? vm.2.name
      Option.require (!drifted vm.2 realStatus)
      return vm.2.name) = (rowsOf statuses vms .synced).map (·.2.name) := by
    refine filterMap_eq_rowsOf fun vm => ?_
    cases hget : statuses.get? vm.2.name with
    | none => simp [recordClass, hget]
    | some realStatus => cases hdrift : drifted vm.2 realStatus <;>
        simp [recordClass, hget, hdrift, Option.require]
  have hdrift : (vms.filterMap fun vm => do
      let realStatus ← statuses.get? vm.2.name
      Option.require (drifted vm.2 realStatus)
      return ({ vmId := vm.1, name := vm.2.name, dbStatus := vm.2.status, realStatus, provider } :
        Drift)) = (rowsOf statuses vms .drift).map fun vm =>
          ⟨vm.1, vm.2.name, vm.2.status, (statuses.get? vm.2.name).getD "", provider⟩ := by
    refine filterMap_eq_rowsOf fun vm => ?_
    cases hget : statuses.get? vm.2.name with
    | none => simp [recordClass, hget]
    | some realStatus => cases hdrift : drifted vm.2 realStatus <;>
        simp [recordClass, hget, hdrift, Option.require]
  generalize hread : (vms.filterMap _ : List Ghost) = ghosts
  have hghosts : ghosts = (rowsOf statuses vms .ghost).map fun vm =>
      ⟨vm.1, vm.2.name, vm.2.status, provider⟩ := by
    rw [← hread]
    refine filterMap_eq_rowsOf fun vm => ?_
    cases hget : statuses.get? vm.2.name with
    | none => simp [recordClass, hget]
    | some realStatus => cases hdrift : drifted vm.2 realStatus <;>
        simp [recordClass, hget, hdrift]
  exact
    { synced := hsynced
      drift := by
        dsimp only
        rw [hdrift, List.map_map]
        rfl
      real := by
        dsimp only
        rw [hdrift]
        intro item hitem
        obtain ⟨vm, hvm, rfl⟩ := List.mem_map.mp hitem
        have hclass := of_decide_eq_true (List.mem_filter.mp hvm).2
        unfold recordClass at hclass
        -- a row of this class has a container, whose status is the reported one
        cases hget : statuses.get? vm.2.name with
        | none => simp [hget] at hclass
        | some realStatus => rfl
      ghosts := hghosts
      once := by
        dsimp only
        -- the three lists are the rows of the three classes, which are all rows
        have hnames := congrArg (List.map fun ghost : Ghost => ghost.name) hghosts
        rw [hsynced, hdrift, List.map_map]
        refine (List.Perm.append_left _ (List.Perm.of_eq hnames)).trans ?_
        rw [List.map_map]
        have hperm := (rowsOf_perm statuses vms).map fun vm => vm.2.name
        simpa [Function.comp_def] using hperm
      orphans := by
        dsimp only
        rw [List.map_filterMap, ← List.filterMap_eq_map, List.filterMap_filter]
        refine List.filterMap_congr fun r _ => ?_
        by_cases hany : (vms.any fun vm => vm.2.name = r.1) = true
        · have hall : ¬ (vms.all fun vm => vm.2.name ≠ r.1) = true := by simpa using hany
          rw [if_pos hany, if_neg hall]
          rfl
        · have hall : (vms.all fun vm => vm.2.name ≠ r.1) = true := by simpa using hany
          rw [if_neg hany, if_pos hall]
          rfl }

/-- The rows of a provider. -/
theorem mem_vmsOf {row : ℕ × VmRecord} :
    row ∈ vmsOf db provider ↔ db.vms.get? row.1 = some row.2 ∧ row.2.provider = provider := by
  rw [vmsOf, Serial.select, Table.mem_select, decide_eq_true_iff]
  rfl

/-- A reconciliation in which no call fails completes. -/
theorem FaultFree.passes (h : FaultFree calls) : calls.passes db provider = true := by
  obtain ⟨containers, hlisted⟩ := h.listed
  have hquery : calls.query ≠ .raises := by
    rw [ProviderCalls.query, h.lookup.1, if_pos rfl, hlisted]
    exact nofun
  rw [ProviderCalls.passes, Bool.and_eq_true]
  refine ⟨decide_eq_true hquery, ?_⟩
  rw [Bool.or_eq_true, List.all_eq_true]
  -- the removal of the orphans does not end the run
  refine Or.inr fun container _ => ?_
  rw [Bool.or_eq_true, h.removed]
  exact Or.inr (by decide)

/-- A row of the provider is a ghost of the report exactly if its class says so. -/
theorem Classifies.mem_ghosts {vms : List (ℕ × VmRecord)} {vm : ℕ × VmRecord}
    (h : Classifies statuses vms provider report) (hvm : vm ∈ vms)
    (hclass : recordClass statuses vm.2 = .ghost) : vm.1 ∈ report.ghosts.map (·.vmId) := by
  rw [h.ghosts, List.map_map]
  have hrow : vm ∈ rowsOf statuses vms .ghost := List.mem_filter.mpr ⟨hvm, decide_eq_true hclass⟩
  exact List.mem_map_of_mem (f := fun vm : ℕ × VmRecord => vm.1) hrow

/-- A row of the drift class is among the drifts. -/
theorem Classifies.mem_drift {vms : List (ℕ × VmRecord)} {vm : ℕ × VmRecord}
    (h : Classifies statuses vms provider report) (hvm : vm ∈ vms)
    (hclass : recordClass statuses vm.2 = .drift) : vm.1 ∈ report.drift.map (·.vmId) := by
  have hids := congrArg (List.map Prod.fst) h.drift
  rw [List.map_map, List.map_map] at hids
  have hrow : vm ∈ rowsOf statuses vms .drift := List.mem_filter.mpr ⟨hvm, decide_eq_true hclass⟩
  have hmem := List.mem_map_of_mem (f := fun vm : ℕ × VmRecord => vm.1) hrow
  exact hids.symm ▸ hmem

/-- A drift of the report is a row, and tells the status of its container. -/
theorem Classifies.row_of_drift {vms : List (ℕ × VmRecord)} {item : Drift}
    (h : Classifies statuses vms provider report) (hitem : item ∈ report.drift) :
    ∃ vm ∈ vms, vm.1 = item.vmId ∧ statuses.get? vm.2.name = some item.realStatus := by
  have hmem := List.mem_map_of_mem
    (f := fun item : Drift => (item.vmId, item.name, item.dbStatus, item.provider)) hitem
  rw [h.drift] at hmem
  obtain ⟨vm, hvm, heq⟩ := List.mem_map.mp hmem
  simp only [Prod.mk.injEq] at heq
  refine ⟨vm, (List.mem_filter.mp hvm).1, heq.1, ?_⟩
  rw [heq.2.1]
  exact h.real item hitem

/-- After a reconciliation without faults, the rows of the provider agree with the containers. -/
theorem recordClass_reconcileSingleProvider (hfaultFree : FaultFree calls)
    (hstatuses : getContainerStatus calls = some statuses)
    (hagree : AgreeOn (vmsOf db provider) statuses statuses') {row : ℕ × VmRecord}
    (hrow : row ∈ vmsOf (reconcileSingleProvider db calls provider).1 provider) :
    recordClass statuses' row.2 = .synced := by
  obtain ⟨id, vm'⟩ := row
  obtain ⟨hget', hprovider'⟩ := mem_vmsOf.mp hrow
  dsimp only at hget' hprovider'
  obtain ⟨report, haudit, hclassifies⟩ :=
    classifies_auditSingleProvider db provider hstatuses
  rcases reconcileSingleProvider_cases db calls provider with
    ⟨hpasses, -⟩ | ⟨-, hagain, -⟩ | ⟨-, -, report', results, haudit', heq⟩
  · exact absurd (hfaultFree.passes.symm.trans hpasses) Bool.noConfusion
  · exact absurd (hfaultFree.lookup.2.symm.trans hagain) Bool.noConfusion
  · -- the run has completed, so the drifts were corrected after the ghosts were purged
    obtain rfl : report = report' := Option.some.inj (haudit.symm.trans haudit')
    obtain ⟨status, hcorrected, hother⟩ :=
      get?_correctDrifts (purgeGhosts db report.ghosts).1 report.drift id
    have hpurged := get?_purgeGhosts db report.ghosts id
    rw [heq] at hget'
    by_cases hghost : id ∈ report.ghosts.map (·.vmId)
    · -- the rows of ghosts are gone
      rw [hcorrected, hpurged, if_pos hghost] at hget'
      cases hget'
    · rw [if_neg hghost] at hpurged
      rw [hcorrected, hpurged] at hget'
      obtain ⟨vm, hget, hvm⟩ := Option.map_eq_some_iff.mp hget'
      have hprovider : vm.provider = provider := by
        rw [← hprovider', ← hvm]
      have hmem : (id, vm) ∈ vmsOf db provider := mem_vmsOf.mpr ⟨hget, hprovider⟩
      have hname : statuses'.get? vm'.name = statuses.get? vm.name := by
        rw [← hvm]
        exact hagree (id, vm) hmem
      by_cases hdrift : id ∈ report.drift.map (·.vmId)
      · -- the row has the status of its container now
        obtain ⟨item, hitem, hid, hfinal⟩ :=
          status_correctDrifts (hpurged.trans hget) hdrift
        obtain ⟨row, hrow', hrowId, hreal⟩ := hclassifies.row_of_drift hitem
        have hsame : row.2 = vm := by
          have hrowGet := (mem_vmsOf.mp hrow').1
          rw [hrowId, hid, hget] at hrowGet
          exact (Option.some.inj hrowGet).symm
        rw [hcorrected, hpurged, hget, Option.map_some, hvm, Option.some.injEq] at hfinal
        unfold recordClass
        rw [hname, ← hsame, hreal, hfinal]
        simp [drifted]
      · -- the row is as it was, and agreed before
        have hkept : vm' = vm := by
          rw [← hvm, hother hdrift vm]
        cases hclass : recordClass statuses vm with
        | synced =>
          unfold recordClass at hclass ⊢
          rw [hname, hkept]
          exact hclass
        | drift => exact absurd (hclassifies.mem_drift hmem hclass) hdrift
        | ghost => exact absurd (hclassifies.mem_ghosts hmem hclass) hghost

variable (db provider) in
/-- An audit puts every row of the provider into exactly one list, by the presence and the status of
its container, and its orphans are the containers without a row. After a reconciliation without
faults, an audit that finds the containers of the rows as they were reports no drift and no
ghost. -/
theorem audit_partition (hstatuses : getContainerStatus calls = some statuses) :
    ∃ report, auditSingleProvider db calls provider = some report ∧
      Classifies statuses (vmsOf db provider) provider report ∧
      (FaultFree calls → ∀ calls' statuses', getContainerStatus calls' = some statuses' →
        AgreeOn (vmsOf db provider) statuses statuses' →
          ∃ report', auditSingleProvider (reconcileSingleProvider db calls provider).1 calls'
            provider = some report' ∧ report'.drift = [] ∧ report'.ghosts = []) := by
  obtain ⟨report, haudit, hclassifies⟩ :=
    classifies_auditSingleProvider db provider hstatuses
  refine ⟨report, haudit, hclassifies, fun hfaultFree calls' statuses' hstatuses' hagree => ?_⟩
  obtain ⟨report', haudit', hclassifies'⟩ := classifies_auditSingleProvider
    (reconcileSingleProvider db calls provider).1 provider hstatuses'
  -- after the run all rows are in the first class
  have hempty : ∀ c, c ≠ .synced →
      rowsOf statuses' (vmsOf (reconcileSingleProvider db calls provider).1 provider) c = [] := by
    intro c hc
    refine List.filter_eq_nil_iff.mpr fun row hrow hclass => hc ?_
    rw [← of_decide_eq_true hclass]
    exact recordClass_reconcileSingleProvider hfaultFree hstatuses hagree hrow
  refine ⟨report', haudit', ?_, ?_⟩
  · have hdrift := hclassifies'.drift
    rw [hempty .drift nofun] at hdrift
    exact List.map_eq_nil_iff.mp hdrift
  · rw [hclassifies'.ghosts, hempty .ghost nofun]
    rfl

/-- The removal of containers of other names leaves the status of a name as it was. -/
theorem get?_statusMap_filter (containers : List ContainerInfo) (keep : String → Bool)
    {name : String} (hkeep : keep name = true) :
    (statusMap (containers.filter fun container => keep container.name)).get? name =
      (statusMap containers).get? name := by
  -- what one container adds to a dictionary
  let set := fun (statuses : Table String String) (container : ContainerInfo) =>
    if (statuses.get? container.name).isSome then
      statuses.modify container.name fun _ => container.status
    else statuses.append container.name container.status
  have hset : ∀ (statuses : Table String String) (container : ContainerInfo),
      (set statuses container).get? name =
        if name = container.name then some container.status else statuses.get? name := by
    intro statuses container
    simp only [set]
    split
    case isTrue hsome =>
      rw [Table.get?_modify]
      by_cases hname : name = container.name
      · obtain ⟨status, hstatus⟩ := Option.isSome_iff_exists.mp hsome
        rw [if_pos hname, if_pos hname, hname, hstatus, Option.map_some]
      · rw [if_neg hname, if_neg hname]
    case isFalse => rw [Table.get?_append]
  -- the dictionaries that are built on need only agree on the name
  suffices hfold : ∀ statuses statuses' : Table String String,
      statuses.get? name = statuses'.get? name →
        ((containers.filter fun container => keep container.name).foldl set statuses).get? name =
          (containers.foldl set statuses').get? name from hfold ∅ ∅ rfl
  induction containers with
  | nil => exact fun _ _ h => h
  | cons container containers ih =>
    intro statuses statuses' h
    rw [List.foldl_cons]
    by_cases hkept : keep container.name = true
    · rw [List.filter_cons, if_pos hkept, List.foldl_cons]
      exact ih _ _ (by rw [hset, hset, h])
    · -- a container that is removed has another name
      have hne : name ≠ container.name := fun heq => hkept (heq ▸ hkeep)
      rw [List.filter_cons, if_neg hkept]
      exact ih _ _ (by rw [hset, if_neg hne, h])

/-- A provider that answers every call, with some containers. -/
def answering (containers : List ContainerInfo) : ProviderCalls where
  lookup := true
  listContainers := .returns containers
  lookupAgain := true
  remove _ := .returns ()

/-- A container that agrees with its row, one that does not, and one without a row. -/
def mixedContainers : List ContainerInfo :=
  [⟨"web", "running"⟩, ⟨"db", "exited"⟩, ⟨"stray", "running"⟩]

/-- The rows of the containers, and one without a container. -/
def mixedVms : ReconcilerDb where
  vms := ((Serial.empty.add ⟨"web", "docker", "running", none, none⟩).add
    ⟨"db", "docker", "running", none, none⟩).add ⟨"old", "docker", "running", none, none⟩
  ipReservations := .empty

/-- Nothing is left to repair, with or without the orphan. -/
theorem audit_partition_mixed : ∃ report',
    auditSingleProvider (reconcileSingleProvider mixedVms (answering mixedContainers) "docker").1
      (answering (mixedContainers.filter fun container => container.name ≠ "stray")) "docker" =
        some report' ∧ report'.drift = [] ∧ report'.ghosts = [] := by
  have hstatuses : ∀ containers, getContainerStatus (answering containers) =
      some (statusMap containers) := fun _ => rfl
  obtain ⟨_, -, -, hclean⟩ := audit_partition mixedVms "docker" (hstatuses mixedContainers)
  refine hclean ⟨⟨rfl, rfl⟩, ⟨_, rfl⟩, fun _ => rfl⟩ _ _ (hstatuses _) fun vm hvm => ?_
  have hnames : ∀ vm ∈ vmsOf mixedVms "docker", vm.2.name ≠ "stray" := by decide +kernel
  exact get?_statusMap_filter mixedContainers (fun name => name ≠ "stray")
    (decide_eq_true (hnames vm hvm))

end ProxmoxIaas.Reconciler
