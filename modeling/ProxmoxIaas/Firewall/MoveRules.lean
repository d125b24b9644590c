import ProxmoxIaas.Firewall.Order
import ProxmoxIaas.Firewall.TunnelDestruction
import ProxmoxIaas.Foundation.SortedKeys

/-!
# Moving Rules

`move_rule_up` and `move_rule_down` exchange the sequences of a rule and its neighbour in the order
by sequence. That exchanges the two rules if all sequences of the tenant differ. Rules with the same
sequence are shown in any order, here in every order in which the rows may be stored, and between
two of them there is nothing to exchange.

## Main results

- `rulesBySequence_exchanged`: the order after the sequences of two neighbours were exchanged.
- `movesAsAsked_iff`: the moves do what they are asked for exactly when all sequences differ.
- `not_movesAsAsked`: the rule that a tunnel adds has the sequence of the first rule of a tenant.
-/

namespace ProxmoxIaas.Firewall

open SortedKeys

/-- The sequence of a row. -/
def sequenceOf (row : ℕ × OPNsenseFirewallRule) : Option ℤ := row.2.content.sequence

/-- The order of sequences; `NULL` comes last. -/
def sequenceOrder (m n : Option ℤ) : Prop :=
  match m, n with
  | some m, some n => m ≤ n
  | none, some _ => False
  | _, none => True

instance : DecidableRel sequenceOrder := fun m n => by
  unfold sequenceOrder
  cases m <;> cases n <;> infer_instance

/-- The rule with another sequence, marked for the next apply. -/
def withSequence (rule : OPNsenseFirewallRule) (sequence : Option ℤ) : OPNsenseFirewallRule :=
  { rule with content := { rule.content with sequence }, applyStatus := .pending }

/-- A row after two rows have exchanged their sequences. -/
def exchanged (a b row : ℕ × OPNsenseFirewallRule) : ℕ × OPNsenseFirewallRule :=
  if row.1 = a.1 then (row.1, withSequence row.2 (sequenceOf b))
  else if row.1 = b.1 then (row.1, withSequence row.2 (sequenceOf a))
  else row

/-- Two states of the table have the same rows, which may be stored in different orders. -/
structure SameRows (db stored : FirewallDb) : Prop where
  /-- The tenants are the same. -/
  tenants : stored.tenants = db.tenants
  /-- So are the rows. -/
  rules : ∀ id, stored.rules.get? id = db.rules.get? id

/-- The keys of the rules of a tenant in the order by sequence. -/
def displayed (db : FirewallDb) (tenantId : ℕ) : List ℕ :=
  (rulesBySequence db tenantId).map (·.1)

/-- Every rule that is not at the top can be moved up, which exchanges it with the rule above, and
then down again, which restores the order. -/
def MovesAsAsked (tenantId : ℕ) (db : FirewallDb) : Prop :=
  ∀ before above rule after, rulesBySequence db tenantId = before ++ above :: rule :: after →
    ∃ moved, moveRuleUp db tenantId rule.2.uuid = .ok moved ∧ ∀ stored, SameRows moved stored →
      displayed stored tenantId = (before ++ rule :: above :: after).map (·.1) ∧
      ∃ restored, moveRuleDown stored tenantId rule.2.uuid = .ok restored ∧
        ∀ stored', SameRows restored stored' →
          displayed stored' tenantId = displayed db tenantId

/-! ## The order by sequence -/

/-- Sequences are in a linear order. -/
theorem linear_sequenceOrder : Linear sequenceOrder where
  total m n := by cases m <;> cases n <;> simp [sequenceOrder, le_total]
  trans {k k' k''} h h' := by
    cases k <;> cases k' <;> cases k'' <;> simp_all [sequenceOrder]
    exact h.trans h'
  antisymm {k k'} h h' := by
    cases k <;> cases k' <;> simp_all [sequenceOrder]
    exact le_antisymm h h'

variable {db db' stored : FirewallDb} {tenantId : ℕ}
  {a b : ℕ × OPNsenseFirewallRule} {before after : List (ℕ × OPNsenseFirewallRule)}

/-- The comparison of rows is one of their sequences. -/
theorem sequenceLe_iff (a b : ℕ × OPNsenseFirewallRule) :
    sequenceLe a b = true ↔ sequenceOrder (sequenceOf a) (sequenceOf b) := by
  unfold sequenceLe sequenceOrder sequenceOf
  cases a.2.content.sequence <;> cases b.2.content.sequence <;> simp

/-- The rules of a tenant are sorted by sequence. -/
theorem rulesBySequence_eq (db : FirewallDb) (tenantId : ℕ) :
    rulesBySequence db tenantId =
      (db.rules.select fun _ rule => rule.tenantId = tenantId).insertionSort
        fun a b => sequenceOrder (sequenceOf a) (sequenceOf b) := by
  simp only [rulesBySequence, sequenceLe_iff]

/-- The displayed rules are the rows of the tenant. -/
theorem mem_rulesBySequence {row : ℕ × OPNsenseFirewallRule} :
    row ∈ rulesBySequence db tenantId ↔
      db.rules.get? row.1 = some row.2 ∧ row.2.tenantId = tenantId := by
  rw [rulesBySequence, List.mem_insertionSort]
  exact Table.mem_select.trans (and_congr_right fun _ => decide_eq_true_iff)

/-- They are sorted. -/
theorem pairwise_rulesBySequence (db : FirewallDb) (tenantId : ℕ) :
    (rulesBySequence db tenantId).Pairwise fun a b =>
      sequenceOrder (sequenceOf a) (sequenceOf b) := by
  have : Std.Total fun a b : ℕ × OPNsenseFirewallRule =>
      sequenceOrder (sequenceOf a) (sequenceOf b) := ⟨fun _ _ => linear_sequenceOrder.total _ _⟩
  have : IsTrans (ℕ × OPNsenseFirewallRule) fun a b =>
      sequenceOrder (sequenceOf a) (sequenceOf b) := ⟨fun _ _ _ => linear_sequenceOrder.trans⟩
  rw [rulesBySequence_eq]
  exact List.pairwise_insertionSort _ _

/-- A rule is displayed once. -/
theorem nodup_displayed (db : FirewallDb) (tenantId : ℕ) : (displayed db tenantId).Nodup :=
  ((List.perm_insertionSort _ _).map Prod.fst).nodup_iff.mpr
    (Table.nodup_keys_select db.rules.rows _)

/-- Displayed rules have different uuids. -/
theorem nodup_uuids (db : FirewallDb) (tenantId : ℕ) :
    ((rulesBySequence db tenantId).map (·.2.uuid)).Nodup := by
  refine List.Nodup.map_on (fun row hrow row' hrow' heq => ?_) (nodup_displayed db tenantId).of_map
  have hget := (mem_rulesBySequence.mp hrow).1
  have hget' := (mem_rulesBySequence.mp hrow').1
  have hid := db.eq_of_uuid hget hget' heq
  exact Prod.ext hid (Option.some.inj (hget.symm.trans (hid ▸ hget')))

/-- The sequences differ if no displayed one occurs twice. -/
theorem nodup_sequences_iff :
    ((rulesBySequence db tenantId).map sequenceOf).Nodup ↔ DistinctSequences tenantId db := by
  constructor
  · intro hnodup id rule id' rule' hget htenant hget' htenant' hsequence
    have hmem : (id, rule) ∈ rulesBySequence db tenantId :=
      mem_rulesBySequence.mpr ⟨hget, htenant⟩
    have hmem' : (id', rule') ∈ rulesBySequence db tenantId :=
      mem_rulesBySequence.mpr ⟨hget', htenant'⟩
    exact congrArg Prod.fst (List.inj_on_of_nodup_map hnodup hmem hmem' hsequence)
  · intro hdistinct
    refine List.Nodup.map_on (fun row hrow row' hrow' heq => ?_)
      (nodup_displayed db tenantId).of_map
    obtain ⟨hget, htenant⟩ := mem_rulesBySequence.mp hrow
    obtain ⟨hget', htenant'⟩ := mem_rulesBySequence.mp hrow'
    have hid := hdistinct _ _ _ _ hget htenant hget' htenant' heq
    exact Prod.ext hid (Option.some.inj (hget.symm.trans (hid ▸ hget')))

/-! ## The exchange of two rows -/

@[simp]
theorem exchanged_fst (a b row : ℕ × OPNsenseFirewallRule) : (exchanged a b row).1 = row.1 := by
  unfold exchanged
  split_ifs <;> rfl

@[simp]
theorem exchanged_uuid (a b row : ℕ × OPNsenseFirewallRule) :
    (exchanged a b row).2.uuid = row.2.uuid := by
  unfold exchanged
  split_ifs <;> rfl

@[simp]
theorem exchanged_tenantId (a b row : ℕ × OPNsenseFirewallRule) :
    (exchanged a b row).2.tenantId = row.2.tenantId := by
  unfold exchanged
  split_ifs <;> rfl

/-- The order of the two rows does not matter. -/
theorem exchanged_comm (hne : a.1 ≠ b.1) (row : ℕ × OPNsenseFirewallRule) :
    exchanged a b row = exchanged b a row := by
  unfold exchanged
  by_cases ha : row.1 = a.1
  · rw [if_pos ha, if_neg (ha ▸ hne), if_pos ha]
  · rw [if_neg ha, if_neg ha]

/-- What an exchange does to the sequence of a row. -/
theorem sequenceOf_exchanged (a b row : ℕ × OPNsenseFirewallRule) :
    sequenceOf (exchanged a b row) = if row.1 = a.1 then sequenceOf b
      else if row.1 = b.1 then sequenceOf a else sequenceOf row := by
  unfold exchanged
  split_ifs <;> rfl

/-- The table after the exchange of two different rows. -/
private theorem get?_exchange (hne : a.1 ≠ b.1) (id : ℕ) :
    ((db.rules.modify a.1 fun rule => withSequence rule (sequenceOf b)).modify b.1
      fun rule => withSequence rule (sequenceOf a)).get? id =
        (db.rules.get? id).map fun rule => (exchanged a b (id, rule)).2 := by
  rw [Serial.get?_modify, Serial.get?_modify]
  by_cases ha : id = a.1
  · -- the second write is to the other row
    rw [if_neg (ha ▸ hne), if_pos ha, ha]
    simp [exchanged]
  · by_cases hb : id = b.1
    · rw [if_pos hb, if_neg ha, hb]
      simp [exchanged, Ne.symm hne]
    · rw [if_neg hb, if_neg ha]
      simp [exchanged, ha, hb]

/-- The rows after the exchange of two different ones. -/
theorem get?_swapRules (hne : a.1 ≠ b.1) (hswap : swapRules db a b = .ok db') :
    db'.tenants = db.tenants ∧ ∀ id, db'.rules.get? id =
      (db.rules.get? id).map fun rule => (exchanged a b (id, rule)).2 := by
  have hsave := Except.ofOption_eq_ok_iff.mp hswap
  have hrules := FirewallDb.rules_of_save? hsave
  refine ⟨?_, fun id => hrules ▸ get?_exchange hne id⟩
  unfold FirewallDb.save? at hsave
  split at hsave
  case isTrue => exact Option.some.inj hsave ▸ rfl
  case isFalse => cases hsave

/-- A rule fits with the sequence of another one that fits. -/
private theorem fits_withSequence {tenants : List ℕ} {rule other : OPNsenseFirewallRule}
    (h : rule.fits tenants = true) (h' : other.fits tenants = true) :
    (withSequence rule other.content.sequence).fits tenants = true := by
  simp only [OPNsenseFirewallRule.fits, withSequence, Bool.and_eq_true] at h h' ⊢
  exact ⟨⟨⟨h.1.1.1, h'.1.1.2⟩, h.1.2⟩, h.2⟩

/-- Two rows of the table can be exchanged. -/
theorem swapRules_isOk (hne : a.1 ≠ b.1) (ha : db.rules.get? a.1 = some a.2)
    (hb : db.rules.get? b.1 = some b.2) : ∃ db', swapRules db a b = .ok db' := by
  have hvalid : ValidRules db.tenants
      ((db.rules.modify a.1 fun rule => withSequence rule (sequenceOf b)).modify b.1
        fun rule => withSequence rule (sequenceOf a)) := by
    refine validRules_iff.mpr ⟨fun i j rule rule' hi hj huuid => ?_, fun i rule hi => ?_⟩
    · -- an exchange does not touch the uuids
      rw [get?_exchange hne] at hi hj
      obtain ⟨old, hold, rfl⟩ := Option.map_eq_some_iff.mp hi
      obtain ⟨old', hold', rfl⟩ := Option.map_eq_some_iff.mp hj
      rw [exchanged_uuid, exchanged_uuid] at huuid
      exact db.eq_of_uuid hold hold' huuid
    · rw [get?_exchange hne] at hi
      obtain ⟨old, hold, rfl⟩ := Option.map_eq_some_iff.mp hi
      have hfits := db.fits_of_get? hold
      -- each of the two rows has the sequence of a row that fits
      unfold exchanged
      split_ifs
      · exact fits_withSequence hfits (db.fits_of_get? hb)
      · exact fits_withSequence hfits (db.fits_of_get? ha)
      · exact hfits
  exact ⟨⟨db.tenants, _, hvalid⟩, Except.ofOption_eq_ok_iff.mpr (FirewallDb.save?_of_valid hvalid)⟩

/-- The keys of two neighbours and of the other rows differ. -/
private theorem keys_ne (hids : ((before ++ a :: b :: after).map Prod.fst).Nodup) :
    a.1 ≠ b.1 ∧ ∀ row, row ∈ before ∨ row ∈ after → row.1 ≠ a.1 ∧ row.1 ≠ b.1 := by
  rw [List.map_append, List.map_cons, List.map_cons, List.nodup_append] at hids
  obtain ⟨-, hrest, hdisjoint⟩ := hids
  obtain ⟨ha, hrest⟩ := List.nodup_cons.mp hrest
  obtain ⟨hb, -⟩ := List.nodup_cons.mp hrest
  refine ⟨fun heq => ha (heq ▸ List.mem_cons_self), fun row hrow => ?_⟩
  rcases hrow with hbefore | hafter
  · have hmem := List.mem_map_of_mem (f := Prod.fst) hbefore
    exact ⟨hdisjoint _ hmem _ List.mem_cons_self,
      hdisjoint _ hmem _ (List.mem_cons_of_mem _ List.mem_cons_self)⟩
  · have hmem := List.mem_map_of_mem (f := Prod.fst) hafter
    exact ⟨fun heq => ha (heq ▸ List.mem_cons_of_mem _ hmem), fun heq => hb (heq ▸ hmem)⟩

/-- The two rows change places, and their sequences stay where they were. -/
theorem map_sequenceOf_exchanged (hids : ((before ++ a :: b :: after).map Prod.fst).Nodup) :
    ((before ++ b :: a :: after).map (exchanged a b)).map sequenceOf =
      (before ++ a :: b :: after).map sequenceOf := by
  obtain ⟨hne, hothers⟩ := keys_ne hids
  have hkept : ∀ row, row ∈ before ∨ row ∈ after →
      sequenceOf (exchanged a b row) = sequenceOf row := fun row hrow => by
    rw [sequenceOf_exchanged, if_neg (hothers row hrow).1, if_neg (hothers row hrow).2]
  rw [List.map_map, List.map_append, List.map_append, List.map_cons, List.map_cons,
    List.map_cons, List.map_cons]
  congr 1
  · exact List.map_congr_left fun row hrow => hkept row (Or.inl hrow)
  · congr 1
    · simp [sequenceOf_exchanged, Ne.symm hne]
    · congr 1
      · simp [sequenceOf_exchanged]
      · exact List.map_congr_left fun row hrow => hkept row (Or.inr hrow)

/-- The order after the sequences of two neighbours were exchanged, however the rows are stored. -/
theorem rulesBySequence_exchanged (hrules : rulesBySequence db tenantId = before ++ a :: b :: after)
    (hdistinct : DistinctSequences tenantId db)
    (hstored : ∀ id, stored.rules.get? id =
      (db.rules.get? id).map fun rule => (exchanged a b (id, rule)).2) :
    rulesBySequence stored tenantId = (before ++ b :: a :: after).map (exchanged a b) := by
  have hids := nodup_displayed db tenantId
  have hsequences := nodup_sequences_iff.mpr hdistinct
  rw [displayed, hrules] at hids
  have hperm : (before ++ b :: a :: after).Perm (rulesBySequence db tenantId) := by
    rw [hrules]
    exact (List.Perm.swap a b after).append_left before
  rw [rulesBySequence_eq]
  -- the sequences differ, so there is only one sorted list of these rows
  refine insertionSort_eq linear_sequenceOrder (pairwise_rulesBySequence db tenantId) hsequences
    (by rw [hrules, map_sequenceOf_exchanged hids]) ?_
  -- the rows are those of the tenant
  · have hnodup : ((before ++ b :: a :: after).map (exchanged a b)).Nodup := by
      refine List.Nodup.of_map Prod.fst ?_
      rw [List.map_map]
      simp only [Function.comp_def, exchanged_fst]
      exact (hperm.map Prod.fst).nodup_iff.mpr (nodup_displayed db tenantId)
    refine (List.perm_ext_iff_of_nodup hnodup
      (Table.nodup_keys_select stored.rules.rows _).of_map).mpr fun row => ?_
    rw [List.mem_map]
    constructor
    · rintro ⟨old, hold, rfl⟩
      obtain ⟨hget, htenant⟩ := mem_rulesBySequence.mp (hperm.mem_iff.mp hold)
      refine Table.mem_select.mpr ⟨?_, by simpa using htenant⟩
      rw [exchanged_fst]
      exact (hstored old.1).trans (by rw [hget]; rfl)
    · -- a row of the table is an old row of the same tenant after the exchange
      intro hrow
      obtain ⟨hget, htenant⟩ := Table.mem_select.mp hrow
      obtain ⟨old, hold, heq⟩ := Option.map_eq_some_iff.mp ((hstored row.1).symm.trans hget)
      have hexchanged : exchanged a b (row.1, old) = row := Prod.ext (exchanged_fst _ _ _) heq
      refine ⟨(row.1, old), hperm.mem_iff.mpr (mem_rulesBySequence.mpr ⟨hold, ?_⟩), hexchanged⟩
      rw [← hexchanged] at htenant
      simpa using htenant

/-! ## The endpoints -/

/-- A rule is exchanged with the one above. -/
theorem moveRuleUp_eq (hrules : rulesBySequence db tenantId = before ++ a :: b :: after) :
    moveRuleUp db tenantId b.2.uuid = swapRules db b a := by
  have huuids := nodup_uuids db tenantId
  rw [hrules] at huuids
  simp only [moveRuleUp, hrules]
  -- no other rule has the uuid, so the pair that ends with this rule is found
  rw [find?_snd huuids]
  simp only [List.any_append, List.any_cons, decide_true, Bool.true_or,
    Bool.or_true, Except.require, Except.ofOption, if_true]
  rfl

/-- A rule is exchanged with the one below. -/
theorem moveRuleDown_eq (hrules : rulesBySequence db tenantId = before ++ a :: b :: after) :
    moveRuleDown db tenantId a.2.uuid = swapRules db a b := by
  have huuids := nodup_uuids db tenantId
  rw [hrules] at huuids
  simp only [moveRuleDown, hrules]
  -- the pair that begins with this rule
  rw [find?_fst huuids]
  simp only [List.any_append, List.any_cons, decide_true, Bool.true_or,
    Bool.or_true, Except.require, Except.ofOption, if_true]
  rfl

/-- An exchange of rows with the same sequence leaves the order as it is. -/
theorem displayed_swapRules (ha : db.rules.get? a.1 = some a.2) (hb : db.rules.get? b.1 = some b.2)
    (hsequence : sequenceOf a = sequenceOf b) (hswap : swapRules db a b = .ok db') :
    displayed db' tenantId = displayed db tenantId := by
  have hrules := FirewallDb.rules_of_save? (Except.ofOption_eq_ok_iff.mp hswap)
  -- what the two writes do to a row of the table
  let write := fun row : ℕ × OPNsenseFirewallRule =>
    (row.1, if row.1 = b.1 then
      withSequence (if row.1 = a.1 then withSequence row.2 (sequenceOf b) else row.2) (sequenceOf a)
      else if row.1 = a.1 then withSequence row.2 (sequenceOf b) else row.2)
  have hselect : (db'.rules.select fun _ rule => rule.tenantId = tenantId) =
      (db.rules.select fun _ rule => rule.tenantId = tenantId).map write := by
    have hkeep : ∀ (sequence : Option ℤ) (_ : ℕ) (rule : OPNsenseFirewallRule),
        decide ((withSequence rule sequence).tenantId = tenantId) =
          decide (rule.tenantId = tenantId) := fun _ _ _ => rfl
    rw [hrules]
    change (((db.rules.modify a.1 fun rule => withSequence rule (sequenceOf b)).modify b.1
      fun rule => withSequence rule (sequenceOf a)).select _) = _
    rw [Serial.select_modify (hkeep (sequenceOf a)), Serial.select_modify (hkeep (sequenceOf b)),
      List.map_map]
    rfl
  -- both rows are given the sequence that they have
  have hwrite : ∀ row ∈ db.rules.select fun _ rule => rule.tenantId = tenantId,
      sequenceOf (write row) = sequenceOf row := by
    intro row hrow
    have hget := (Table.mem_select.mp hrow).1
    have hrow_a : row.1 = a.1 → sequenceOf row = sequenceOf a := fun heq => by
      rw [Prod.ext heq (Option.some.inj (hget.symm.trans (heq ▸ ha)))]
    have hrow_b : row.1 = b.1 → sequenceOf row = sequenceOf b := fun heq => by
      rw [Prod.ext heq (Option.some.inj (hget.symm.trans (heq ▸ hb)))]
    have hcases : sequenceOf (write row) = if row.1 = b.1 then sequenceOf a
        else if row.1 = a.1 then sequenceOf b else sequenceOf row := by
      simp only [write, sequenceOf]
      split_ifs <;> rfl
    rw [hcases]
    by_cases hb' : row.1 = b.1
    · rw [if_pos hb', hrow_b hb', hsequence]
    · by_cases ha' : row.1 = a.1
      · rw [if_neg hb', if_pos ha', hrow_a ha', hsequence]
      · rw [if_neg hb', if_neg ha']
  rw [displayed, displayed, rulesBySequence_eq, rulesBySequence_eq, hselect,
    ← List.map_insertionSort (fun a b => sequenceOrder (sequenceOf a) (sequenceOf b)) _ write _
      fun row hrow row' hrow' => by rw [hwrite row hrow, hwrite row' hrow'], List.map_map]
  rfl

/-- Every rule of a tenant can be moved up and down as asked exactly when all of them have different
sequences. -/
theorem movesAsAsked_iff : MovesAsAsked tenantId db ↔ DistinctSequences tenantId db := by
  constructor
  · intro h
    refine nodup_sequences_iff.mp (nodup_map_of_adjacent linear_sequenceOrder
      (pairwise_rulesBySequence db tenantId) fun before a b after hrules hsequence => ?_)
    -- neighbours with the same sequence stay where they are
    obtain ⟨moved, hmoved, horder⟩ := h before a b after hrules
    rw [moveRuleUp_eq hrules] at hmoved
    have hrow : ∀ row ∈ before ++ a :: b :: after, db.rules.get? row.1 = some row.2 :=
      fun row hrow => (mem_rulesBySequence.mp (hrules ▸ hrow)).1
    have hsame : displayed moved tenantId = displayed db tenantId :=
      displayed_swapRules (hrow b (by simp)) (hrow a (by simp))
      hsequence.symm hmoved
    have hids := nodup_displayed db tenantId
    rw [(horder moved ⟨rfl, fun _ => rfl⟩).1, displayed, hrules] at hsame
    rw [displayed, hrules] at hids
    rw [List.map_append, List.map_append, List.append_cancel_left_eq] at hsame
    exact (keys_ne hids).1 (List.cons.inj hsame).1.symm
  · intro hdistinct before a b after hrules
    have hids := nodup_displayed db tenantId
    rw [displayed, hrules] at hids
    have hne := (keys_ne hids).1
    have hrow : ∀ row ∈ before ++ a :: b :: after, db.rules.get? row.1 = some row.2 :=
      fun row hrow => (mem_rulesBySequence.mp (hrules ▸ hrow)).1
    -- the way up
    obtain ⟨moved, hmoved⟩ := swapRules_isOk hne.symm (hrow b (by simp)) (hrow a (by simp))
    refine ⟨moved, (moveRuleUp_eq hrules).trans hmoved, fun stored hstored => ?_⟩
    have hget : ∀ id, stored.rules.get? id =
        (db.rules.get? id).map fun rule => (exchanged a b (id, rule)).2 := fun id => by
      simp only [hstored.rules, (get?_swapRules hne.symm hmoved).2, exchanged_comm hne.symm]
    have hup := rulesBySequence_exchanged hrules hdistinct hget
    -- an exchange keeps the keys, which are what is shown
    have hkeys : ∀ rows : List (ℕ × OPNsenseFirewallRule),
        (rows.map (exchanged a b)).map Prod.fst = rows.map Prod.fst := fun rows => by
      simp [Function.comp_def]
    refine ⟨by rw [displayed, hup, hkeys], ?_⟩
    -- the two rules, in their new order, are neighbours for the way back
    have hdistinct' : DistinctSequences tenantId stored := by
      refine nodup_sequences_iff.mp ?_
      rw [hup, map_sequenceOf_exchanged hids, ← hrules]
      exact nodup_sequences_iff.mpr hdistinct
    rw [List.map_append, List.map_cons, List.map_cons] at hup
    have hrow' : ∀ row ∈ rulesBySequence stored tenantId, stored.rules.get? row.1 = some row.2 :=
      fun row hrow => (mem_rulesBySequence.mp hrow).1
    rw [hup] at hrow'
    have hne' : (exchanged a b b).1 ≠ (exchanged a b a).1 := by simpa using hne.symm
    obtain ⟨restored, hrestored⟩ := swapRules_isOk hne' (hrow' _ (by simp)) (hrow' _ (by simp))
    have hdown := moveRuleDown_eq hup
    rw [exchanged_uuid] at hdown
    refine ⟨restored, hdown.trans hrestored, fun stored' hstored' => ?_⟩
    have hget' : ∀ id, stored'.rules.get? id = (stored.rules.get? id).map fun rule =>
        (exchanged (exchanged a b b) (exchanged a b a) (id, rule)).2 := fun id => by
      rw [hstored'.rules, (get?_swapRules hne' hrestored).2]
    have hback := rulesBySequence_exchanged hup hdistinct' hget'
    rw [displayed, hback, displayed, hrules]
    simp [Function.comp_def]

/-- The first rule of a tenant and the rule of its tunnel for the WAN have the sequence 100, and
moving one of them in front of the other changes nothing. -/
theorem not_movesAsAsked : ¬ ∀ (tenantId : ℕ) (db : FirewallDb), MovesAsAsked tenantId db := by
  intro h
  -- before the move the rule of the tunnel is shown below the first rule
  obtain ⟨first, second, hrules, huuid, hkeys⟩ :
      ∃ first second, rulesBySequence officeState.db 1 = [first, second] ∧
        second.2.uuid = "pending-0123456789abcdef01234567" ∧ first.1 = 2 ∧ second.1 = 1 :=
    ⟨_, _, rfl, by decide +kernel⟩
  obtain ⟨moved, hmoved, horder⟩ := h 1 officeState.db [] first second [] hrules
  rw [huuid] at hmoved
  -- the move up succeeds and leaves this order
  have hstays : (moveRuleUp officeState.db 1 "pending-0123456789abcdef01234567").toOption.map
      (displayed · 1) = some [2, 1] := by
    decide +kernel
  rw [hmoved] at hstays
  have hshown := (horder moved ⟨rfl, fun _ => rfl⟩).1
  have hmovedShown : displayed moved 1 = [2, 1] := Option.some.inj hstays
  rw [hmovedShown] at hshown
  simp [hkeys.1, hkeys.2] at hshown

end ProxmoxIaas.Firewall
