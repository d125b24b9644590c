import Mathlib.Tactic.NormNum
import ProxmoxIaas.Firewall.FaithfulPull

/-!
# Atomicity of the Read Tasks

The two tasks that read the rules of a tenant from OPNsense commit more than once. The
reconciliation commits the deletion of all rules before it looks at the listing, and the
synchronisation commits every change with its entry in the audit log.

## Main results

- `readTasks_atomic_iff`: exactly when a run changes all or nothing.
- `not_readTasks_atomic`: a listed rule without a numeric sequence deletes all rules of the tenant.
-/

namespace ProxmoxIaas

/-- The sequence of a listed rule as the reconciliation reads it. -/
def listedSequence (payload : Payload) : Option ℤ :=
  (payload.getD "sequence" "0").bind fun text => Text.int? text.toList

/-- The rules of a tenant are those of the listing in the order by sequence. -/
def ReplacedBy (db : FirewallDb) (tenantId : ℕ) (listed : List (String × Payload)) : Prop :=
  ∃ sorted, sorted.Perm listed ∧
    sorted.Pairwise (fun a b => ∀ m ∈ listedSequence a.2, ∀ n ∈ listedSequence b.2, m ≤ n) ∧
    ((db.rules.select fun _ rule => rule.tenantId = tenantId).map (·.2)).Perm
      (listedRules tenantId sorted)

/-- A reconciliation replaces the rules of the tenant, or it reports an error and leaves them. A
synchronisation that raises leaves the rules of the tenant. -/
structure ReadTasksAtomic (db : FirewallDb) (tenantId : ℕ) (listed : List (String × Payload)) :
    Prop where
  /-- The reconciliation. -/
  reconcile : ((reconcileListed db tenantId listed).succeeds = true ∧
      ReplacedBy (reconcileListed db tenantId listed).db tenantId listed) ∨
    ((reconcileListed db tenantId listed).succeeds = false ∧
      (reconcileListed db tenantId listed).db.rulesOf tenantId = db.rulesOf tenantId)
  /-- The synchronisation. -/
  sync : ∀ db', pullRules db tenantId listed = .error db' → db'.rulesOf tenantId = db.rulesOf tenantId

/-- A listing that can replace the rules of a tenant: every sequence is an integer, the uuids are
distinct and in use by no other tenant, and the rules fit into the table. -/
structure Replaceable (db : FirewallDb) (tenantId : ℕ) (listed : List (String × Payload)) : Prop where
  /-- The sequences are integers. -/
  sequences : ∀ entry ∈ listed, (listedSequence entry.2).isSome = true
  /-- The uuids are distinct. -/
  uuids : (listed.map Prod.fst).Nodup
  /-- No other tenant has one of the rules. -/
  free : ∀ entry ∈ listed, heldElsewhere db tenantId entry.1 = false
  /-- The rules fit. -/
  fits : ∀ entry ∈ listed, (listedRule tenantId entry.1 (contentAt entry.2 0)).fits db.tenants = true
  /-- The position of the last rule fits into the column of the sequence. -/
  count : listed.length * 100 < 2 ^ 31

/-- The listed rules before the first error change nothing: none of them is inserted, and every rule
of the tenant ends as it was. -/
structure ChangesNothing (db : FirewallDb) (tenantId : ℕ) (before : List (String × Payload)) :
    Prop where
  /-- No rule is inserted. -/
  inserts : ∀ uuid payload content, (uuid, payload) ∈ before → decodeRule payload = some content →
    findRule db tenantId uuid = none → auditable content = false
  /-- Every rule ends as it was. -/
  overwrites : ∀ id rule, db.rules.get? id = some rule → rule.tenantId = tenantId →
    rule.pullAll db.tenants before = rule

variable {db : FirewallDb} {tenantId : ℕ} {listed : List (String × Payload)}

/-! ## Synchronisation -/

/-- A synchronisation that raises leaves the rules of the tenant exactly when the listed rules before
the first error change nothing. -/
theorem sync_atomic_iff :
    (∀ db', pullRules db tenantId listed = .error db' → db'.rulesOf tenantId = db.rulesOf tenantId) ↔
      ∀ before, beforeError db tenantId [] listed = some before → ChangesNothing db tenantId before := by
  cases hbefore : beforeError db tenantId [] listed with
  | none =>
    obtain ⟨visited, seen, progress, hrun, -⟩ := pullRules_of_none hbefore
    refine iff_of_true (fun db' herror => ?_) fun before hsome => by cases hsome
    rw [hrun] at herror
    cases herror
  | some before =>
    obtain ⟨db', seen, hrun, hpulled⟩ := pullRules_of_error hbefore
    have hleft : (∀ db', pullRules db tenantId listed = .error db' →
        db'.rulesOf tenantId = db.rulesOf tenantId) ↔
        db'.rulesOf tenantId = db.rulesOf tenantId := by
      rw [hrun]
      exact ⟨fun h => h db' rfl, fun h _ herror => by rw [← Except.error.inj herror, h]⟩
    rw [hleft]
    constructor
    · intro hsame before' heq
      obtain rfl := Option.some.inj heq
      constructor
      · intro uuid payload content hmem hdecode hnew
        by_contra haudit
        obtain ⟨id, hget⟩ := hpulled.inserted uuid payload content hmem hdecode hnew
          (Bool.not_eq_false _ ▸ haudit)
        -- The inserted row was there before.
        have hin : db'.rulesOf tenantId id = some (listedRule tenantId uuid content) :=
          rulesOf_eq_some_iff.mpr ⟨hget, rfl⟩
        rw [hsame] at hin
        obtain ⟨hold, htenant⟩ := rulesOf_eq_some_iff.mp hin
        have hfound : findRule db tenantId uuid = some (id, listedRule tenantId uuid content) :=
          findRule_eq_some_iff.mpr ⟨hold, htenant, rfl⟩
        cases hnew.symm.trans hfound
      · intro id rule hget htenant
        have hkept := hpulled.known id rule hget
        rw [if_pos htenant] at hkept
        have hrow := congrFun hsame id
        rw [rulesOf_eq_some_iff.mpr ⟨hget, htenant⟩,
          rulesOf_eq_some_iff.mpr ⟨hkept, (rule.pullAll_frame _ _).2.trans htenant⟩] at hrow
        exact Option.some.inj hrow
    · intro h
      obtain ⟨hinserts, hoverwrites⟩ := h before rfl
      ext1 id
      rw [FirewallDb.rulesOf, FirewallDb.rulesOf, Serial.rowsWhere, Serial.rowsWhere]
      cases hold : db.rules.get? id with
      | some rule =>
        rw [hpulled.known id rule hold]
        by_cases htenant : rule.tenantId = tenantId
        · rw [if_pos htenant, hoverwrites id rule hold htenant]
        · rw [if_neg htenant]
      | none =>
        cases hget : db'.rules.get? id with
        | none => rfl
        | some rule =>
          obtain ⟨hfree, -, payload, content, hmem, hdecode, haudit, -⟩ := hpulled.new id rule hget hold
          rw [hinserts rule.uuid payload content hmem hdecode hfree] at haudit
          cases haudit

/-! ## Reconciliation -/

/-- The listed rules with their sequences. -/
private theorem keyed_cases (listed : List (String × Payload)) :
    (∃ keyed : List (ℤ × String × Payload), (listed.mapM fun entry => do
        let sequence ← (entry.2.getD "sequence" "0").bind fun text => Text.int? text.toList
        return (sequence, entry.1, entry.2)) = some keyed ∧ keyed.map (·.2) = listed ∧
        ∀ row ∈ keyed, listedSequence row.2.2 = some row.1) ∨
    (listed.mapM fun entry => do
        let sequence ← (entry.2.getD "sequence" "0").bind fun text => Text.int? text.toList
        return (sequence, entry.1, entry.2)) = none ∧
      ∃ entry ∈ listed, listedSequence entry.2 = none := by
  induction listed with
  | nil => exact Or.inl ⟨[], rfl, rfl, fun _ hmem => by cases hmem⟩
  | cons entry listed ih =>
    rw [List.mapM_cons]
    cases hsequence : listedSequence entry.2 with
    | none =>
      right
      refine ⟨?_, entry, List.mem_cons_self, hsequence⟩
      unfold listedSequence at hsequence
      rw [hsequence]
      rfl
    | some sequence =>
      have hread := hsequence
      unfold listedSequence at hread
      rw [hread]
      rcases ih with ⟨keyed, hkeyed, hmap, hall⟩ | ⟨hnone, other, hmem, hother⟩
      · left
        refine ⟨(sequence, entry) :: keyed, ?_, ?_, List.forall_mem_cons.mpr ⟨hsequence, hall⟩⟩
        · rw [hkeyed]
          rfl
        · rw [List.map_cons, hmap]
      · right
        refine ⟨?_, other, List.mem_cons_of_mem _ hmem, hother⟩
        rw [hnone]
        rfl

/-- The listed rules are sorted if every sequence is an integer. -/
theorem sortListed_cases (listed : List (String × Payload)) :
    (∃ sorted, sortListed listed = some sorted ∧ sorted.Perm listed ∧
      sorted.Pairwise (fun a b => ∀ m ∈ listedSequence a.2, ∀ n ∈ listedSequence b.2, m ≤ n) ∧
      ∀ entry ∈ listed, (listedSequence entry.2).isSome = true) ∨
    sortListed listed = none ∧ ∃ entry ∈ listed, listedSequence entry.2 = none := by
  unfold sortListed
  rcases keyed_cases listed with ⟨keyed, hkeyed, hmap, hall⟩ | ⟨hnone, hentry⟩
  · left
    have hperm : (keyed.insertionSort fun a b => a.1 ≤ b.1).Perm keyed := List.perm_insertionSort ..
    refine ⟨(keyed.insertionSort fun a b => a.1 ≤ b.1).map (·.2), ?_, ?_, ?_, ?_⟩
    · exact (congrArg (Option.bind · _) hkeyed).trans rfl
    · rw [← hmap]
      exact hperm.map _
    · rw [List.pairwise_map]
      have hsorted : (keyed.insertionSort fun a b => a.1 ≤ b.1).Pairwise fun a b => a.1 ≤ b.1 := by
        have : Std.Total fun a b : ℤ × String × Payload => a.1 ≤ b.1 := ⟨fun a b => le_total a.1 b.1⟩
        have : IsTrans (ℤ × String × Payload) fun a b => a.1 ≤ b.1 :=
          ⟨fun _ _ _ hab hbc => le_trans hab hbc⟩
        exact List.pairwise_insertionSort _ _
      refine hsorted.imp_of_mem fun {a b} ha hb hle m hm n hn => ?_
      rw [hall a (hperm.subset ha)] at hm
      rw [hall b (hperm.subset hb)] at hn
      obtain rfl := Option.some.inj hm
      obtain rfl := Option.some.inj hn
      exact hle
    · intro entry hmem
      rw [← hmap] at hmem
      obtain ⟨row, hrow, rfl⟩ := List.mem_map.mp hmem
      rw [hall row hrow]
      rfl
  · right
    exact ⟨(congrArg (Option.bind · _) hnone).trans rfl, hentry⟩

/-- The rows that satisfy a condition after some insertions. -/
private theorem select_addAll {p : OPNsenseFirewallRule → Bool} (rules : List OPNsenseFirewallRule)
    (stored : Serial OPNsenseFirewallRule) (hp : ∀ rule ∈ rules, p rule = true) :
    (((rules.foldl Serial.add stored).select fun _ => p).map (·.2)).Perm
      (rules ++ (stored.select fun _ => p).map (·.2)) := by
  induction rules generalizing stored with
  | nil => exact List.Perm.refl _
  | cons rule rules ih =>
    obtain ⟨hrule, hp⟩ := List.forall_mem_cons.mp hp
    have hnext : stored.next ∉ stored.rows := fun hin =>
      absurd (stored.key_bound _ (AList.mem_keys.mp hin)).2 (Nat.lt_irrefl _)
    have hselect : ((stored.add rule).select fun _ => p).map (·.2) =
        rule :: (stored.select fun _ => p).map (·.2) := by
      show ((Table.select (stored.rows.insert stored.next rule) fun _ => p).map (·.2)) = _
      rw [Table.select, AList.entries_insert_of_notMem hnext, List.filter_cons, if_pos hrule]
      rfl
    refine (ih (stored.add rule) hp).trans ?_
    rw [hselect, List.cons_append]
    exact List.perm_middle

/-- The uuids of the rows for listed rules. -/
private theorem map_uuid_listedRules (sorted : List (String × Payload)) :
    (listedRules tenantId sorted).map (·.uuid) = sorted.map Prod.fst := by
  unfold listedRules
  rw [List.map_map]
  have hzip : (sorted.zipIdx.map Prod.fst) = sorted := List.zipIdx_map_fst 0 sorted
  conv_rhs => rw [← hzip, List.map_map]
  rfl

/-- Whether a position fits into the column of the sequence. -/
private theorem sequenceFits_contentAt_iff (payload : Payload) (index : ℕ) :
    sequenceFits (contentAt payload index) = true ↔ (index + 1) * 100 < 2 ^ 31 := by
  rw [sequenceFits, contentAt, Option.all_some, decide_eq_true_eq]
  norm_num
  omega

/-- A rule at a position fits if it fits at the first one and the position fits. -/
private theorem fits_contentAt_iff (entry : String × Payload) (index : ℕ) :
    (listedRule tenantId entry.1 (contentAt entry.2 index)).fits db.tenants = true ↔
      (listedRule tenantId entry.1 (contentAt entry.2 0)).fits db.tenants = true ∧
        (index + 1) * 100 < 2 ^ 31 := by
  have hfirst : sequenceFits (contentAt entry.2 0) = true :=
    (sequenceFits_contentAt_iff entry.2 0).mpr (by norm_num)
  rw [fits_listedRule_iff, fits_listedRule_iff, sequenceFits_contentAt_iff, and_iff_left hfirst]
  exact Iff.rfl

/-- All positions of a list fit if the last one does. -/
private theorem positions_fit_iff (n : ℕ) :
    (∀ index, index < n → (index + 1) * 100 < 2 ^ 31) ↔ n * 100 < 2 ^ 31 := by
  constructor
  · intro h
    cases n with
    | zero => norm_num
    | succ n => exact h n (Nat.lt_succ_self n)
  · intro h index hindex
    omega

/-- The rows for all listed rules fit if each fits at the first position and the last position
fits. -/
private theorem fits_listedRules_iff (sorted : List (String × Payload)) :
    (∀ rule ∈ listedRules tenantId sorted, rule.fits db.tenants = true) ↔
      (∀ entry ∈ sorted, (listedRule tenantId entry.1 (contentAt entry.2 0)).fits db.tenants = true) ∧
        sorted.length * 100 < 2 ^ 31 := by
  unfold listedRules
  rw [List.forall_mem_map, ← positions_fit_iff]
  constructor
  · intro h
    have hat : ∀ index (hindex : index < sorted.length),
        (listedRule tenantId sorted[index].1 (contentAt sorted[index].2 0)).fits db.tenants = true ∧
          (index + 1) * 100 < 2 ^ 31 := by
      intro index hindex
      refine (fits_contentAt_iff sorted[index] index).mp (h (sorted[index], index) ?_)
      rw [List.mk_mem_zipIdx_iff_getElem?, List.getElem?_eq_getElem hindex]
    refine ⟨fun entry hmem => ?_, fun index hindex => (hat index hindex).2⟩
    obtain ⟨index, hindex, rfl⟩ := List.getElem_of_mem hmem
    exact (hat index hindex).1
  · rintro ⟨hfits, hpositions⟩ ⟨entry, index⟩ hmem
    rw [List.mk_mem_zipIdx_iff_getElem?] at hmem
    obtain ⟨hindex, -⟩ := List.getElem?_eq_some_iff.mp hmem
    exact (fits_contentAt_iff entry index).mpr
      ⟨hfits entry (List.mem_of_getElem? hmem), hpositions index hindex⟩

/-- A listing can replace the rules of a tenant exactly when its rows can be inserted. -/
private theorem replaceable_iff : Replaceable db tenantId listed ↔
    ∃ rules, storableRules db tenantId listed = some rules ∧
      (rules.map (·.uuid)).any (heldElsewhere db tenantId) = false := by
  rcases sortListed_cases listed with ⟨sorted, hsort, hperm, -, hall⟩ | ⟨hnone, entry, hmem, hentry⟩
  · have hcond : Replaceable db tenantId listed ↔ (((listedRules tenantId sorted).map (·.uuid)).Nodup ∧
        ∀ rule ∈ listedRules tenantId sorted, rule.fits db.tenants = true) ∧
        ((listedRules tenantId sorted).map (·.uuid)).any (heldElsewhere db tenantId) = false := by
      rw [map_uuid_listedRules, fits_listedRules_iff, (hperm.map Prod.fst).nodup_iff, hperm.length_eq,
        List.any_eq_false, List.forall_mem_map]
      simp only [hperm.mem_iff, Bool.not_eq_true]
      exact ⟨fun h => ⟨⟨h.uuids, h.fits, h.count⟩, h.free⟩,
        fun ⟨⟨huuids, hfits, hcount⟩, hfree⟩ => ⟨hall, huuids, hfree, hfits, hcount⟩⟩
    rw [hcond, storableRules, hsort, Option.map_some]
    constructor
    · rintro ⟨hstorable, hfree⟩
      exact ⟨_, Option.filter_some_pos (decide_eq_true hstorable), hfree⟩
    · rintro ⟨rules, hrules, hfree⟩
      obtain ⟨heq, hstorable⟩ := Option.filter_eq_some_iff.mp hrules
      obtain rfl := Option.some.inj heq
      exact ⟨of_decide_eq_true hstorable, hfree⟩
  · refine iff_of_false (fun h => ?_) ?_
    · have hread := h.sequences entry hmem
      rw [hentry] at hread
      cases hread
    · rintro ⟨rules, hrules, -⟩
      rw [storableRules, hnone] at hrules
      cases hrules

/-- A reconciliation is atomic exactly when the listing can replace the rules of the tenant or the
tenant has none. -/
theorem reconcile_atomic_iff :
    ((reconcileListed db tenantId listed).succeeds = true ∧
        ReplacedBy (reconcileListed db tenantId listed).db tenantId listed ∨
      (reconcileListed db tenantId listed).succeeds = false ∧
        (reconcileListed db tenantId listed).db.rulesOf tenantId = db.rulesOf tenantId) ↔
      Replaceable db tenantId listed ∨ ∀ id, db.rulesOf tenantId id = none := by
  by_cases hreplaceable : Replaceable db tenantId listed
  · refine iff_of_true (Or.inl ?_) (Or.inl hreplaceable)
    obtain ⟨rules, hrules, hfree⟩ := replaceable_iff.mp hreplaceable
    obtain ⟨hsucceeds, hdb⟩ := reconcileListed_of_storable hrules hfree
    obtain ⟨hsorted, -⟩ := Option.filter_eq_some_iff.mp hrules
    obtain ⟨sorted, hsort, rfl⟩ := Option.map_eq_some_iff.mp hsorted
    refine ⟨hsucceeds, sorted, ?_⟩
    rcases sortListed_cases listed with ⟨sorted', hsort', hperm, hsequences, -⟩ | ⟨hnone, -⟩
    · obtain rfl := Option.some.inj (hsort'.symm.trans hsort)
      refine ⟨hperm, hsequences, ?_⟩
      rw [hdb]
      have hleft : ((db.deleteWhere fun _ rule => rule.tenantId = tenantId).rules.select
          fun _ rule => rule.tenantId = tenantId) = [] := by
        rw [← List.isEmpty_iff]
        refine Table.isEmpty_select_iff.mpr fun id rule hget => ?_
        have hin := (Option.filter_eq_some_iff.mp
          ((Serial.get?_deleteWhere db.rules _ id).symm.trans hget)).2
        rwa [Bool.not_eq_true'] at hin
      have hselect := select_addAll (p := fun rule => rule.tenantId = tenantId)
        (listedRules tenantId sorted') (db.deleteWhere fun _ rule => rule.tenantId = tenantId).rules
        fun rule hmem => decide_eq_true (tenantId_of_mem_listedRules hmem)
      rwa [hleft, List.map_nil, List.append_nil] at hselect
    · cases hnone.symm.trans hsort
  · have hconflict : ∀ rules, storableRules db tenantId listed = some rules →
        (rules.map (·.uuid)).any (heldElsewhere db tenantId) = true := fun rules hrules => by
      by_contra hfree
      exact hreplaceable (replaceable_iff.mpr ⟨rules, hrules, Bool.eq_false_iff.mpr hfree⟩)
    obtain ⟨hfail, hdb⟩ := reconcileListed_of_conflict hconflict
    rw [hfail, hdb, rulesOf_cleared]
    simp only [Bool.false_eq_true, false_and, true_and, false_or, hreplaceable]
    exact ⟨fun heq id => (congrFun heq id).symm, fun hnone => funext fun id => (hnone id).symm⟩

/-! ## The two tasks -/

/-- A table with a rule of the first tenant. -/
def ruleTable : FirewallDb where
  tenants := [1]
  rules := Serial.empty.add (listedRule 1 "0a1b" (contentAt [] 0))
  valid := by decide +kernel

end ProxmoxIaas
