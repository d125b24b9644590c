import ProxmoxIaas.Reconciler.Model

/-!
# Which Records a Reconciliation Deletes

A record should be deleted only if its container is known to be absent: the infrastructure was
asked and answered, the answer does not list the container, and no operation on the VM is in
flight. The reconciler cannot tell a query that failed from an empty answer, and does not look at
the status of the record, so what it deletes is justified exactly under conditions on the
database and on the answer.

## Main results

- `reconcileProviders_deletes_iff`: the records that a run deletes.
- `purge_justified_iff`: the runs whose deletions are all justified.
-/

namespace ProxmoxIaas.Reconciler

variable {backend : String → ProviderCalls} {db : ReconcilerDb} {calls : ProviderCalls}
  {provider : String} {id : ℕ} {vm : VmRecord}

/-- The statuses of a VM on which an operation is under way. -/
def inFlight (status : String) : Bool :=
  status = "deploying" || status = "provisioning" || status = "deleting"

/-- The containers that the reconciler knows of after the query. -/
def ProviderCalls.known (calls : ProviderCalls) : List ContainerInfo :=
  match calls.query with
  | .returns containers => containers
  | _ => []

/-- Whether the reconciler knows of a container of a name. -/
def ProviderCalls.knows (calls : ProviderCalls) (name : String) : Bool :=
  calls.known.any fun container => container.name = name

/-- Whether no exception ends the run while it is at a provider: the query raises none, and the
removal of a container without a row raises none. -/
def ProviderCalls.passes (calls : ProviderCalls) (db : ReconcilerDb) (provider : String) : Bool :=
  decide (calls.query ≠ .raises) && (!calls.lookupAgain || calls.known.all fun container =>
    (vmsOf db provider).any (fun vm => vm.2.name = container.name) ||
      decide (calls.remove container.name ≠ .raises))

/-- The providers of a list that a run completes. -/
def completed (backend : String → ProviderCalls) (db : ReconcilerDb) (providers : List String) :
    List String :=
  providers.takeWhile fun provider => (backend provider).passes db provider

/-- The dictionary of statuses, when there is one, has the names of the known containers. -/
theorem getContainerStatus_eq_some {statuses : Table String String}
    (h : getContainerStatus calls = some statuses) (name : String) :
    statuses.get? name = none ↔ calls.knows name = false := by
  rw [getContainerStatus] at h
  rw [ProviderCalls.knows, ProviderCalls.known]
  cases hquery : calls.query with
  | returns containers =>
    obtain rfl : statusMap containers = statuses := by simpa [hquery] using h
    simp [get?_statusMap_eq_none_iff]
  | providerException =>
    obtain rfl : ∅ = statuses := by simpa [hquery] using h
    simp
  | raises => simp [hquery] at h

/-- The removal of orphans ends unless one of the calls raises. -/
theorem isSome_purgeOrphans_iff (calls : ProviderCalls) (orphans : List Orphan) :
    (purgeOrphans calls orphans).isSome ↔
      ∀ orphan ∈ orphans, calls.remove orphan.name ≠ .raises := by
  induction orphans with
  | nil => simp [purgeOrphans]
  | cons orphan orphans ih =>
    rw [purgeOrphans, List.forall_mem_cons]
    cases hremove : calls.remove orphan.name with
    | returns u => simp [ih]
    | providerException => simp [ih]
    | raises => simp

/-- An audit ends unless the query raises. -/
theorem auditSingleProvider_eq_none_iff :
    auditSingleProvider db calls provider = none ↔ calls.query = .raises := by
  cases hquery : calls.query with
  | returns containers => simp [auditSingleProvider, getContainerStatus, hquery]
  | providerException => simp [auditSingleProvider, getContainerStatus, hquery]
  | raises => simp [auditSingleProvider, getContainerStatus, hquery]

/-- The orphans of a report are the known containers without a row. -/
theorem forall_orphans_iff {report : Report}
    (h : auditSingleProvider db calls provider = some report) (P : String → Prop) :
    (∀ orphan ∈ report.orphans, P orphan.name) ↔
      ∀ container ∈ calls.known,
        (vmsOf db provider).any (fun vm => vm.2.name = container.name) = false →
          P container.name := by
  simp only [auditSingleProvider, Option.bind_eq_bind, Option.bind_eq_some_iff] at h
  obtain ⟨statuses, hstatuses, hreport⟩ := h
  obtain rfl := Option.some.inj hreport
  have hkeys : ∀ name, name ∈ statuses.keys ↔ ∃ container ∈ calls.known, container.name = name := by
    intro name
    have hknows := getContainerStatus_eq_some hstatuses name
    rw [← AList.mem_keys, ← AList.lookup_isSome, ← Option.ne_none_iff_isSome]
    rw [ne_eq, show statuses.lookup name = none ↔ _ from hknows]
    simp [ProviderCalls.knows]
  have horphans : ∀ name, (∃ orphan ∈ statuses.entries.filterMap fun r =>
        if (vmsOf db provider).any fun vm => vm.2.name = r.1 then none
        else some ({ name := r.1, status := r.2, provider } : Orphan), orphan.name = name) ↔
      name ∈ statuses.keys ∧ (vmsOf db provider).any (fun vm => vm.2.name = name) = false := by
    intro name
    simp only [List.mem_filterMap, AList.keys, List.keys, List.mem_map]
    constructor
    · rintro ⟨orphan, ⟨r, hr, hif⟩, rfl⟩
      split at hif
      case isTrue => cases hif
      case isFalse hany =>
        cases hif
        exact ⟨⟨r, hr, rfl⟩, Bool.eq_false_iff.mpr hany⟩
    · rintro ⟨⟨r, hr, rfl⟩, hany⟩
      exact ⟨_, ⟨r, hr, if_neg (Bool.eq_false_iff.mp hany)⟩, rfl⟩
  constructor
  · intro h container hmem hany
    obtain ⟨orphan, horphan, hname⟩ :=
      (horphans container.name).mpr ⟨(hkeys _).mpr ⟨container, hmem, rfl⟩, hany⟩
    exact hname ▸ h orphan horphan
  · intro h orphan horphan
    obtain ⟨hkey, hany⟩ := (horphans orphan.name).mp ⟨orphan, horphan, rfl⟩
    obtain ⟨container, hmem, hname⟩ := (hkeys _).mp hkey
    rw [← hname] at hany ⊢
    exact h container hmem hany

/-- The ghosts of a report are the rows of the provider whose container is not known. -/
theorem mem_ghosts_iff {report : Report}
    (h : auditSingleProvider db calls provider = some report) :
    id ∈ report.ghosts.map (·.vmId) ↔
      ∃ vm, db.vms.get? id = some vm ∧ vm.provider = provider ∧ calls.knows vm.name = false := by
  simp only [auditSingleProvider, Option.bind_eq_bind, Option.bind_eq_some_iff] at h
  obtain ⟨statuses, hstatuses, hreport⟩ := h
  obtain rfl := Option.some.inj hreport
  simp only [List.mem_map, List.mem_filterMap, vmsOf, Serial.select, Prod.exists, Table.mem_select]
  constructor
  · rintro ⟨ghost, ⟨id, vm, ⟨hget, hprovider⟩, hmatch⟩, rfl⟩
    split at hmatch
    case h_1 => cases hmatch
    case h_2 hnone =>
      cases hmatch
      exact ⟨vm, hget, of_decide_eq_true hprovider,
        (getContainerStatus_eq_some hstatuses vm.name).mp hnone⟩
  · rintro ⟨vm, hget, rfl, hknows⟩
    have hnone := (getContainerStatus_eq_some hstatuses vm.name).mpr hknows
    exact ⟨⟨id, vm.name, vm.status, vm.provider⟩,
      ⟨id, vm, ⟨hget, decide_eq_true rfl⟩, by simp [hnone]⟩, rfl⟩

/-- A drift of a report is about a row of the provider. -/
theorem mem_drift {report : Report} (h : auditSingleProvider db calls provider = some report)
    (hid : id ∈ report.drift.map (·.vmId)) :
    ∃ vm, db.vms.get? id = some vm ∧ vm.provider = provider := by
  simp only [auditSingleProvider, Option.bind_eq_bind, Option.bind_eq_some_iff] at h
  obtain ⟨statuses, -, hreport⟩ := h
  obtain rfl := Option.some.inj hreport
  simp only [List.mem_map, List.mem_filterMap, vmsOf, Serial.select, Prod.exists,
    Table.mem_select, Option.bind_eq_some_iff] at hid
  obtain ⟨item, ⟨id, vm, ⟨hget, hprovider⟩, realStatus, -, u, -, hitem⟩, rfl⟩ := hid
  cases hitem
  exact ⟨vm, hget, of_decide_eq_true hprovider⟩

/-- What a run does at a provider: an exception leaves it before anything is written, or the
provider is not found again, or the report is repaired. -/
theorem reconcileSingleProvider_cases (db : ReconcilerDb) (calls : ProviderCalls)
    (provider : String) :
    (calls.passes db provider = false ∧
      reconcileSingleProvider db calls provider = (db, none)) ∨
    (calls.passes db provider = true ∧ calls.lookupAgain = false ∧
      reconcileSingleProvider db calls provider = (db, some .none)) ∨
    (calls.passes db provider = true ∧ calls.lookupAgain = true ∧
      ∃ report results, auditSingleProvider db calls provider = some report ∧
        reconcileSingleProvider db calls provider =
          ((correctDrifts (purgeGhosts db report.ghosts).1 report.drift).1, some results)) := by
  rw [reconcileSingleProvider, ProviderCalls.passes]
  cases haudit : auditSingleProvider db calls provider with
  | none => simp [auditSingleProvider_eq_none_iff.mp haudit]
  | some report =>
    have hquery : calls.query ≠ .raises := fun hraises => by
      simp [auditSingleProvider_eq_none_iff.mpr hraises] at haudit
    cases hagain : calls.lookupAgain with
    | false => simp [hquery]
    | true =>
      have hpurge := isSome_purgeOrphans_iff calls report.orphans
      rw [forall_orphans_iff haudit fun name => calls.remove name ≠ .raises] at hpurge
      cases horphans : purgeOrphans calls report.orphans with
      | none =>
        left
        rw [horphans] at hpurge
        exact ⟨by simpa [hquery] using hpurge, by simp [horphans]⟩
      | some purged =>
        right; right
        rw [horphans] at hpurge
        have hpasses : ∀ container ∈ calls.known,
            (vmsOf db provider).any (fun vm => vm.2.name = container.name) = false →
              calls.remove container.name ≠ .raises := hpurge.mp rfl
        refine ⟨by simpa [hquery, or_iff_not_imp_left] using hpasses, rfl, report, {
            orphanPurged := purged
            ghostPurged := (purgeGhosts db report.ghosts).2
            driftCorrected := (correctDrifts (purgeGhosts db report.ghosts).1 report.drift).2 },
          rfl, ?_⟩
        simp [horphans]

/-- The row of a VM after a run was at a provider. -/
theorem get?_reconcileSingleProvider (calls : ProviderCalls) (provider : String)
    (hget : db.vms.get? id = some vm) :
    if vm.provider = provider ∧ calls.passes db provider ∧ calls.lookupAgain ∧
        calls.knows vm.name = false then
      (reconcileSingleProvider db calls provider).1.vms.get? id = none
    else
      ∃ vm', (reconcileSingleProvider db calls provider).1.vms.get? id = some vm' ∧
        vm'.name = vm.name ∧ vm'.provider = vm.provider ∧
          (vm.provider ≠ provider → vm' = vm) := by
  rcases reconcileSingleProvider_cases db calls provider with
    ⟨hpasses, heq⟩ | ⟨hpasses, hagain, heq⟩ | ⟨hpasses, hagain, report, results, haudit, heq⟩
  · simp [hpasses, heq, hget]
  · simp [hagain, heq, hget]
  · have hghosts : id ∈ report.ghosts.map (·.vmId) ↔ _ := mem_ghosts_iff haudit
    obtain ⟨status, hcorrected, hother⟩ :=
      get?_correctDrifts (purgeGhosts db report.ghosts).1 report.drift id
    rw [heq, hcorrected, get?_purgeGhosts, hget]
    simp only [hget, Option.some.injEq, exists_eq_left'] at hghosts
    split
    case isTrue hdeleted => rw [if_pos (hghosts.mpr ⟨hdeleted.1, hdeleted.2.2.2⟩), Option.map_none]
    case isFalse hkept =>
      rw [if_neg fun hmem => hkept ⟨(hghosts.mp hmem).1, hpasses, hagain, (hghosts.mp hmem).2⟩]
      refine ⟨_, rfl, rfl, rfl, fun hne => ?_⟩
      have hdrift : id ∉ report.drift.map (·.vmId) := by
        intro hmem
        obtain ⟨vm', hget', hprovider⟩ := mem_drift haudit hmem
        obtain rfl := Option.some.inj (hget.symm.trans hget')
        exact hne hprovider
      exact congrArg (fun status => { vm with status }) (hother hdrift vm)

/-- No row appears while a run is at a provider. -/
theorem get?_reconcileSingleProvider_none (calls : ProviderCalls) (provider : String)
    (hget : db.vms.get? id = none) :
    (reconcileSingleProvider db calls provider).1.vms.get? id = none := by
  rcases reconcileSingleProvider_cases db calls provider with
    ⟨-, heq⟩ | ⟨-, -, heq⟩ | ⟨-, -, report, results, -, heq⟩
  · rw [heq, hget]
  · rw [heq, hget]
  · obtain ⟨status, hcorrected, -⟩ :=
      get?_correctDrifts (purgeGhosts db report.ghosts).1 report.drift id
    rw [heq, hcorrected, get?_purgeGhosts, hget, ite_self, Option.map_none]

/-- The rows of one provider stay as they are while a run is at another one. -/
theorem mem_vmsOf_reconcileSingleProvider {other : String} (hne : other ≠ provider)
    (r : ℕ × VmRecord) :
    r ∈ vmsOf (reconcileSingleProvider db calls provider).1 other ↔ r ∈ vmsOf db other := by
  simp only [vmsOf, Serial.select, Table.mem_select, decide_eq_true_eq]
  change (reconcileSingleProvider db calls provider).1.vms.get? r.1 = some r.2 ∧ _ ↔
    db.vms.get? r.1 = some r.2 ∧ _
  cases hget : db.vms.get? r.1 with
  | none => simp [get?_reconcileSingleProvider_none calls provider hget]
  | some vm =>
    have hrow := get?_reconcileSingleProvider calls provider hget
    split at hrow
    case isTrue hdeleted =>
      rw [hrow]
      constructor
      · rintro ⟨hnone, -⟩
        cases hnone
      · rintro ⟨hsome, hother⟩
        cases hsome
        exact absurd (hother.symm.trans hdeleted.1) hne
    case isFalse =>
      obtain ⟨vm', hget', -, hprovider, hsame⟩ := hrow
      rw [hget', Option.some.injEq, Option.some.injEq]
      constructor
      · rintro ⟨rfl, hother⟩
        exact ⟨(hsame (hprovider ▸ hother ▸ hne)).symm, hother⟩
      · rintro ⟨rfl, hother⟩
        exact ⟨hsame (hother ▸ hne), hother⟩

/-- Whether a run completes a provider does not depend on what it does at another one. -/
theorem passes_reconcileSingleProvider {other : String} (hne : other ≠ provider)
    (calls' : ProviderCalls) :
    calls'.passes (reconcileSingleProvider db calls provider).1 other = calls'.passes db other := by
  have hany : ∀ name, ((vmsOf (reconcileSingleProvider db calls provider).1 other).any fun vm =>
      vm.2.name = name) = (vmsOf db other).any fun vm => vm.2.name = name := by
    intro name
    rw [Bool.eq_iff_iff]
    simp only [List.any_eq_true, mem_vmsOf_reconcileSingleProvider hne]
  simp only [ProviderCalls.passes, hany]

/-- A run completes the same providers after it was at another one. -/
theorem completed_reconcileSingleProvider {providers : List String} (hnotin : provider ∉ providers) :
    completed backend (reconcileSingleProvider db calls provider).1 providers =
      completed backend db providers := by
  induction providers with
  | nil => rfl
  | cons other providers ih =>
    obtain ⟨hne, hnotin⟩ := List.ne_and_not_mem_of_not_mem_cons hnotin
    have htail := ih hnotin
    rw [completed, completed] at htail
    rw [completed, completed, List.takeWhile_cons, List.takeWhile_cons,
      passes_reconcileSingleProvider (Ne.symm hne), htail]

/-- No row appears during a run. -/
theorem get?_reconcileProviders_none {providers : List String} (hget : db.vms.get? id = none) :
    (reconcileProviders backend db providers).1.vms.get? id = none := by
  induction providers generalizing db with
  | nil => exact hget
  | cons provider providers ih =>
    have hnone := get?_reconcileSingleProvider_none (backend provider) provider hget
    rw [reconcileProviders]
    split
    case h_1 heq => rwa [heq] at hnone
    case h_2 heq =>
      rw [heq] at hnone
      exact ih hnone

/-- The database after a run over several providers: an exception at the first one ends it. -/
theorem fst_reconcileProviders_cons (providers : List String) :
    (reconcileProviders backend db (provider :: providers)).1 =
      if (backend provider).passes db provider then
        (reconcileProviders backend (reconcileSingleProvider db (backend provider) provider).1
          providers).1
      else db := by
  rw [reconcileProviders]
  rcases reconcileSingleProvider_cases db (backend provider) provider with
    ⟨hpasses, heq⟩ | ⟨hpasses, -, heq⟩ | ⟨hpasses, -, report, results, -, heq⟩
  · rw [heq, hpasses]
    rfl
  · rw [heq, hpasses]
    rfl
  · rw [heq, hpasses]
    rfl

/-- A run deletes the rows of the providers that it completes and can look up for the repairs,
where no container of that name is known. -/
theorem reconcileProviders_deletes_iff {providers : List String} (hnodup : providers.Nodup)
    (hget : db.vms.get? id = some vm) :
    (reconcileProviders backend db providers).1.vms.get? id = none ↔
      vm.provider ∈ completed backend db providers ∧ (backend vm.provider).lookupAgain ∧
        (backend vm.provider).knows vm.name = false := by
  induction providers generalizing db vm with
  | nil => simp [reconcileProviders, completed, hget]
  | cons provider providers ih =>
    obtain ⟨hnotin, hnodup⟩ := List.nodup_cons.mp hnodup
    have hrow := get?_reconcileSingleProvider (backend provider) provider hget
    rw [fst_reconcileProviders_cons]
    cases hpasses : (backend provider).passes db provider with
    | false => simp [completed, hpasses, hget]
    | true =>
      have hcompleted : completed backend db (provider :: providers) =
          provider :: completed backend (reconcileSingleProvider db (backend provider) provider).1
            providers := by
        rw [completed_reconcileSingleProvider hnotin, completed, List.takeWhile_cons, if_pos hpasses]
        rfl
      rw [if_pos rfl, hcompleted, List.mem_cons]
      simp only [hpasses, true_and] at hrow
      split at hrow
      case isTrue hdeleted =>
        obtain ⟨hfirst, hknows⟩ := hdeleted
        rw [hfirst]
        exact iff_of_true (get?_reconcileProviders_none hrow) ⟨Or.inl rfl, hknows⟩
      case isFalse hkept =>
        obtain ⟨vm', hget', hname, hprovider, hsame⟩ := hrow
        rw [ih hnodup hget', hname, hprovider]
        constructor
        · rintro ⟨hmem, hknows⟩
          exact ⟨Or.inr hmem, hknows⟩
        · rintro ⟨hfirst | hmem, hknows⟩
          · exact absurd ⟨hfirst, hfirst ▸ hknows⟩ hkept
          · exact ⟨hmem, hknows⟩

/-- The providers of a run are distinct. -/
theorem nodup_providersOf (provider : Option String) (vsphere : Bool) :
    (providersOf provider vsphere).Nodup := by
  unfold providersOf getAllProviders
  split
  case h_1 => exact List.nodup_singleton _
  case h_2 => cases vsphere <;> decide

/-- The deletion of a record is justified: the infrastructure was queried and answered, its
answer does not list the container of the VM, and no operation on the VM is in flight. -/
def Justified (calls : ProviderCalls) (vm : VmRecord) : Prop :=
  ∃ containers, calls.query = .returns containers ∧
    (∀ container ∈ containers, container.name ≠ vm.name) ∧ inFlight vm.status = false

/-- A run deletes only records whose deletion is justified exactly if, for every provider that it
completes and can look up for the repairs: a query that failed finds no record of that provider,
and after a query that answered no record whose container is missing is in flight. -/
theorem purge_justified_iff (backend : String → ProviderCalls) (db : ReconcilerDb)
    (provider : Option String) (vsphere : Bool) :
    (∀ id vm, db.vms.get? id = some vm →
      (reconcileAll backend db provider vsphere).1.vms.get? id = none →
      Justified (backend vm.provider) vm) ↔
    ∀ id vm, db.vms.get? id = some vm →
      vm.provider ∈ completed backend db (providersOf provider vsphere) →
      (backend vm.provider).lookupAgain = true →
      match (backend vm.provider).query with
      | .returns containers =>
        (∀ container ∈ containers, container.name ≠ vm.name) → inFlight vm.status = false
      | _ => False := by
  refine forall₃_congr fun id vm hget => ?_
  rw [reconcileAll, reconcileProviders_deletes_iff (nodup_providersOf provider vsphere) hget]
  simp only [and_imp]
  refine forall₂_congr fun hmem hagain => ?_
  rw [Justified, ProviderCalls.knows, ProviderCalls.known]
  cases (backend vm.provider).query with
  | returns containers => simp +contextual
  | providerException => simp
  | raises => simp

/-- A provider whose containers cannot be listed. -/
def unreachable : ProviderCalls where
  lookup := true
  listContainers := .providerException
  lookupAgain := true
  remove := fun _ => .returns ()

/-- A database with one running VM. -/
def runningVm : ReconcilerDb where
  vms := Serial.empty.add
    { name := "web"
      provider := "docker"
      status := "running"
      ipAddress := none
      networkId := none }
  ipReservations := Serial.empty

/-- A listing that fails deletes the record of a running VM. -/
theorem purge_not_justified :
    ¬ ∀ (backend : String → ProviderCalls) (db : ReconcilerDb) (provider : Option String)
      (vsphere : Bool) (id : ℕ) (vm : VmRecord), db.vms.get? id = some vm →
      (reconcileAll backend db provider vsphere).1.vms.get? id = none →
      Justified (backend vm.provider) vm := by
  intro hjustified
  obtain ⟨containers, hquery, -⟩ := hjustified (fun _ => unreachable) runningVm none false 1
    { name := "web", provider := "docker", status := "running", ipAddress := none,
      networkId := none } (by decide) (by decide)
  cases hquery

end ProxmoxIaas.Reconciler
