import ProxmoxIaas.Firewall.Convergence
import ProxmoxIaas.Foundation.Moves

/-!
# The Order of Rules after an Apply Run

At the end of an apply run, every rule of the tenant is moved in front of its successor in the order
by sequence, from the last one to the first one. A pair is skipped if one of the two rules is not
listed on OPNsense, so that rules on both sides of a gap stay in the order in which they were.

## Main results

- `keys_applyAll`: the order of the rules on OPNsense after a complete run.
- `orderedBySequence_iff`: the rules are in the order by sequence exactly when the ends of the
  chains of linked rules stand in it before the moves.
- `not_orderedBySequence`: the rule between two others is deleted, and these stay in their order.
-/

namespace ProxmoxIaas.Firewall

open Moves

/-- The rules of a tenant that have some work. -/
def rowsWith (db : FirewallDb) (tenantId : ℕ) (work : Work) : List (ℕ × OPNsenseFirewallRule) :=
  db.rules.select fun _ rule => rule.tenantId = tenantId ∧ rule.work = some work

/-- The uuids that are deleted on OPNsense for some rows. -/
def deletedUuids (rows : List (ℕ × OPNsenseFirewallRule)) : List String :=
  (rows.map (·.2.uuid)).filter fun uuid => !isPlaceholder uuid

/-- The rules on OPNsense after the pushes of a complete run and before its moves: deleted rules are
taken out, missing ones are put back at the end, and new ones behind these. -/
def standing (tenantId : ℕ) (newUuid : ℕ → String) (s : State) : List String :=
  let kept := s.opnsense.keys.filter (· ∉ deletedUuids (rowsWith s.db tenantId .delete))
  kept ++ ((rowsWith s.db tenantId .update).map (·.2.uuid)).filter (· ∉ kept) ++
    (rowsWith s.db tenantId .create).map fun row => newUuid row.1

/-- The uuid of a row after the pushes of a complete run. -/
def uuidPushed (tenantId : ℕ) (newUuid : ℕ → String) (id : ℕ) (rule : OPNsenseFirewallRule) :
    String :=
  (ApplyCalls.succeed newUuid).uuidInOrder tenantId id rule

/-- The rules of a tenant in the order by sequence, by uuid. -/
def desired (tenantId : ℕ) (newUuid : ℕ → String) (s : State) : List String :=
  (ApplyCalls.succeed newUuid).desiredOrder tenantId s.db

/-- Whether a rule may be moved: it is listed, and the run has something to do. -/
def movable (tenantId : ℕ) (newUuid : ℕ → String) (s : State) (uuid : String) : Bool :=
  (pendingRules s.db tenantId).entries ≠ [] ∧ uuid ∈ (standing tenantId newUuid s).take 1000

/-- The rule at the end of the chain of a rule: the chain goes on to the next rule in the order by
sequence as long as both may be moved. -/
def endOf (tenantId : ℕ) (newUuid : ℕ → String) (s : State) (uuid : String) : String :=
  chainEnd (movable tenantId newUuid s) (desired tenantId newUuid s) uuid

/-- The rules of a tenant have different sequences. -/
def DistinctSequences (tenantId : ℕ) (db : FirewallDb) : Prop :=
  ∀ id rule id' rule', db.rules.get? id = some rule → rule.tenantId = tenantId →
    db.rules.get? id' = some rule' → rule'.tenantId = tenantId →
      rule.content.sequence = rule'.content.sequence → id = id'

/-- The rules of a tenant stand on OPNsense in the order by sequence. -/
def OrderedBySequence (tenantId : ℕ) (s : State) : Prop :=
  ∀ id rule id' rule', s.db.rules.get? id = some rule → rule.tenantId = tenantId →
    s.db.rules.get? id' = some rule' → rule'.tenantId = tenantId → id ≠ id' →
      sequenceLe (id, rule) (id', rule') = true →
        rule.uuid ∈ s.opnsense.keys → rule'.uuid ∈ s.opnsense.keys →
          Precedes s.opnsense.keys rule.uuid rule'.uuid

/-- The ends of the chains of the rules that are not deleted stand in the order by sequence before
the moves. -/
def EndsOrdered (tenantId : ℕ) (newUuid : ℕ → String) (s : State) : Prop :=
  ∀ id rule id' rule', s.db.rules.get? id = some rule → rule.tenantId = tenantId →
    rule.applyStatus ≠ .pendingDelete → s.db.rules.get? id' = some rule' →
    rule'.tenantId = tenantId → rule'.applyStatus ≠ .pendingDelete → id ≠ id' →
      sequenceLe (id, rule) (id', rule') = true →
        uuidPushed tenantId newUuid id rule ∈ standing tenantId newUuid s →
        uuidPushed tenantId newUuid id' rule' ∈ standing tenantId newUuid s →
          endOf tenantId newUuid s (uuidPushed tenantId newUuid id rule) =
              endOf tenantId newUuid s (uuidPushed tenantId newUuid id' rule') ∨
            Precedes (standing tenantId newUuid s)
              (endOf tenantId newUuid s (uuidPushed tenantId newUuid id rule))
              (endOf tenantId newUuid s (uuidPushed tenantId newUuid id' rule'))

variable {tenantId run : ℕ} {newUuid : ℕ → String} {s : State} {opnsense : Opnsense}

/-! ## The order on OPNsense -/

/-- Rules on OPNsense have different uuids. -/
theorem nodup_keys (opnsense : Opnsense) : opnsense.keys.Nodup := opnsense.nodupKeys

/-- A move on OPNsense moves a uuid. -/
theorem keys_moveBefore {uuid : String} (h : uuid ∈ opnsense.keys) (next : String) :
    (Table.moveBefore opnsense uuid next).keys = moveBefore uuid next opnsense.keys := by
  obtain ⟨payload, hget⟩ : ∃ payload, Table.get? opnsense uuid = some payload :=
    Option.isSome_iff_exists.mp (AList.lookup_isSome.mpr (AList.mem_keys.mpr h))
  unfold Table.moveBefore moveBefore
  rw [hget, ← AList.keys_erase]
  show (Table.placeBefore _ _ _).map Sigma.fst = _
  rw [Table.placeBefore, List.map_append, List.map_cons]
  show _ = ((AList.erase uuid opnsense).entries.map Sigma.fst).takeWhile _ ++
    uuid :: ((AList.erase uuid opnsense).entries.map Sigma.fst).dropWhile _
  rw [List.takeWhile_map, List.dropWhile_map]
  rfl

/-- The moves put the uuids into the order that was read. -/
theorem keys_moveTo (newUuid : ℕ → String) {order listed : List String} (start : ℕ)
    (hlisted : ∀ uuid ∈ listed, uuid ∈ opnsense.keys) :
    ((ApplyCalls.succeed newUuid).moveTo start (movesFor order listed) opnsense).keys =
      reorder (fun uuid => decide (uuid ∈ listed)) order opnsense.keys := by
  have happend : ∀ (moves moves' : List (String × String)) start opnsense,
      (ApplyCalls.succeed newUuid).moveTo start (moves ++ moves') opnsense =
        (ApplyCalls.succeed newUuid).moveTo (start + moves.length) moves'
          ((ApplyCalls.succeed newUuid).moveTo start moves opnsense) := by
    intro moves
    induction moves with
    | nil => exact fun moves' start opnsense => rfl
    | cons move moves ih =>
      intro moves' start opnsense
      rw [List.cons_append, ApplyCalls.moveTo, ih, List.length_cons, ApplyCalls.moveTo,
        Nat.add_right_comm, Nat.add_assoc]
  induction order generalizing start with
  | nil => rfl
  | cons uuid order ih =>
    cases order with
    | nil => rfl
    | cons next order =>
      have hmoves : movesFor (uuid :: next :: order) listed = movesFor (next :: order) listed ++
          if uuid ∈ listed ∧ next ∈ listed then [(uuid, next)] else [] := by
        simp only [movesFor, List.tail_cons, List.zip_cons_cons, List.filter_cons, Bool.decide_and]
        split <;> simp_all
      rw [hmoves, happend, reorder]
      by_cases hlinked : uuid ∈ listed ∧ next ∈ listed
      · have hperm : (reorder (fun uuid => decide (uuid ∈ listed)) (next :: order)
            opnsense.keys).Perm opnsense.keys :=
          reorder_perm fun a _ h => hlisted a (of_decide_eq_true h)
        rw [if_pos hlinked, if_pos (by simpa using hlinked), ← ih start]
        refine keys_moveBefore ?_ next
        rw [ih start, hperm.mem_iff]
        exact hlisted uuid hlinked.1
      · rw [if_neg hlinked, if_neg (by simpa using hlinked)]
        exact ih start

/-! ## The pushes -/

/-- The rules with some work. -/
theorem mem_rowsWith {db : FirewallDb} {work : Work} {row : ℕ × OPNsenseFirewallRule} :
    row ∈ rowsWith db tenantId work ↔
      db.rules.get? row.1 = some row.2 ∧ row.2.tenantId = tenantId ∧ row.2.work = some work := by
  unfold rowsWith Serial.select
  rw [Table.mem_select, decide_eq_true_eq]
  rfl

/-- They are different rows. -/
theorem nodup_rowsWith (db : FirewallDb) (tenantId : ℕ) (work : Work) :
    ((rowsWith db tenantId work).map Prod.fst).Nodup := by
  unfold rowsWith
  exact Table.nodup_keys_select _ _

/-- The work list of a run has these rows, in storage order. -/
theorem idsWith_pendingRules (db : FirewallDb) (tenantId : ℕ) (work : Work) :
    idsWith (pendingRules db tenantId) work = (rowsWith db tenantId work).map Prod.fst := by
  simp only [idsWith, rowsWith, pendingRules, Serial.select, Table.select, Table.mapRows,
    Table.deleteWhere, List.filter_map, List.map_map, List.filter_filter]
  refine congrArg _ (List.filter_congr fun row _ => ?_)
  simp only [Function.comp_def, Bool.not_not]
  by_cases hwork : row.2.work = some work <;> simp [hwork]

/-- The pushes of the rows with some work. -/
theorem foldl_pushTo {db : FirewallDb} {work : Work} {rows : List (ℕ × OPNsenseFirewallRule)}
    (h : ∀ row ∈ rows, db.rules.get? row.1 = some row.2 ∧ row.2.work = some work)
    (opnsense : Opnsense) :
    (rows.map Prod.fst).foldl ((ApplyCalls.succeed newUuid).pushTo db) opnsense =
      rows.foldl (fun opnsense row => pushCall work row.2 (newUuid row.1) opnsense) opnsense := by
  rw [List.foldl_map]
  refine List.foldl_ext _ _ _ fun opnsense row hmem => ?_
  obtain ⟨hget, hwork⟩ := h row hmem
  have heffect : ((ApplyCalls.succeed newUuid).result row.1 row.2 work).tookEffect = true := by
    show (if work = .delete ∧ isPlaceholder row.2.uuid then CallResult.returns
      else .returns).tookEffect = true
    rw [ite_self]
    rfl
  simp only [ApplyCalls.pushTo, hget, hwork, if_pos heffect]
  rfl

/-- The deletions. -/
private theorem keys_deletions (rows : List (ℕ × OPNsenseFirewallRule)) :
    (rows.foldl (fun opnsense row => pushCall .delete row.2 (newUuid row.1) opnsense) opnsense).keys =
      opnsense.keys.filter (· ∉ deletedUuids rows) := by
  induction rows generalizing opnsense with
  | nil => simp [deletedUuids]
  | cons row rows ih =>
    rw [List.foldl_cons, ih, pushCall]
    cases hplace : isPlaceholder row.2.uuid with
    | true =>
      have hsame : deletedUuids (row :: rows) = deletedUuids rows := by
        rw [deletedUuids, List.map_cons, List.filter_cons_of_neg (by simp [hplace])]
        rfl
      rw [if_pos rfl, hsame]
    | false =>
      have hmore : deletedUuids (row :: rows) = row.2.uuid :: deletedUuids rows := by
        rw [deletedUuids, List.map_cons, List.filter_cons_of_pos (by simp [hplace])]
        rfl
      rw [if_neg Bool.false_ne_true, hmore, Opnsense.delRule, AList.keys_erase,
        (nodup_keys opnsense).erase_eq_filter, List.filter_filter]
      refine List.filter_congr fun uuid _ => ?_
      by_cases heq : uuid = row.2.uuid <;> simp [heq]

/-- A rule that is not on OPNsense is put to the end. -/
private theorem keys_addRule {uuid : String} (h : uuid ∉ opnsense.keys) (payload : Payload) :
    (opnsense.addRule uuid payload).keys = opnsense.keys ++ [uuid] := by
  show ((AList.erase uuid opnsense).entries ++ [_]).map Sigma.fst = _
  rw [List.map_append]
  show (AList.erase uuid opnsense).keys ++ [uuid] = _
  rw [AList.keys_erase, List.erase_of_not_mem h]

/-- The updates. -/
private theorem keys_updates {rows : List (ℕ × OPNsenseFirewallRule)}
    (hnodup : (rows.map (·.2.uuid)).Nodup) :
    (rows.foldl (fun opnsense row => pushCall .update row.2 (newUuid row.1) opnsense) opnsense).keys =
      opnsense.keys ++ (rows.map (·.2.uuid)).filter (· ∉ opnsense.keys) := by
  induction rows generalizing opnsense with
  | nil => simp
  | cons row rows ih =>
    rw [List.map_cons] at hnodup
    obtain ⟨hnotin, hnodup⟩ := List.nodup_cons.mp hnodup
    rw [List.foldl_cons, ih hnodup, List.map_cons]
    by_cases hmem : row.2.uuid ∈ opnsense.keys
    · have hkeys : (pushCall .update row.2 (newUuid row.1) opnsense).keys = opnsense.keys := by
        have hthere : (Table.get? opnsense row.2.uuid).isSome = true :=
          AList.lookup_isSome.mpr (AList.mem_keys.mpr hmem)
        show (opnsense.setRule row.2.uuid _).keys = _
        rw [Opnsense.setRule, if_pos hthere]
        show (opnsense.entries.map _).map Sigma.fst = _
        rw [List.map_map]
        rfl
      rw [hkeys, List.filter_cons_of_neg (by simpa using hmem)]
    · have hkeys : (pushCall .update row.2 (newUuid row.1) opnsense).keys =
          opnsense.keys ++ [row.2.uuid] := by
        have hmissing : ¬ (Table.get? opnsense row.2.uuid).isSome = true :=
          fun h => hmem (AList.mem_keys.mp (AList.lookup_isSome.mp h))
        show (opnsense.setRule row.2.uuid _).keys = _
        rw [Opnsense.setRule, if_neg hmissing, keys_addRule hmem]
      rw [hkeys, List.filter_cons_of_pos (by simpa using hmem), List.append_assoc,
        List.singleton_append]
      -- The other rules have other uuids.
      refine congrArg (fun l => opnsense.keys ++ row.2.uuid :: l) (List.filter_congr fun uuid hin => ?_)
      have hne : uuid ≠ row.2.uuid := fun heq => hnotin (heq ▸ hin)
      simp [hne]

/-- The creations. -/
private theorem keys_creations {rows : List (ℕ × OPNsenseFirewallRule)}
    (hnodup : (rows.map fun row => newUuid row.1).Nodup)
    (hfree : ∀ row ∈ rows, newUuid row.1 ∉ opnsense.keys) :
    (rows.foldl (fun opnsense row => pushCall .create row.2 (newUuid row.1) opnsense) opnsense).keys =
      opnsense.keys ++ rows.map fun row => newUuid row.1 := by
  induction rows generalizing opnsense with
  | nil => simp
  | cons row rows ih =>
    rw [List.map_cons] at hnodup
    obtain ⟨hnotin, hnodup⟩ := List.nodup_cons.mp hnodup
    have hkeys : (pushCall .create row.2 (newUuid row.1) opnsense).keys =
        opnsense.keys ++ [newUuid row.1] := keys_addRule (hfree row List.mem_cons_self) _
    rw [List.foldl_cons, ih hnodup, hkeys, List.map_cons, List.append_assoc, List.singleton_append]
    intro row' hmem
    rw [hkeys, List.mem_append, List.mem_singleton]
    rintro (hold | heq)
    · exact hfree row' (List.mem_cons_of_mem _ hmem) hold
    · exact hnotin (heq ▸ List.mem_map_of_mem hmem)

section Complete

variable (hrun : s.applies.get? run = none) (hnew : GivesNew s newUuid)

include hnew

/-- No rule on OPNsense and no row has a uuid that is still to be given. -/
private theorem unused_newUuid {id : ℕ} (hsome : (s.db.rules.get? id).isSome = true) :
    newUuid id ∉ s.opnsense.keys ∧
      ∀ k rule, s.db.rules.get? k = some rule → rule.uuid ≠ newUuid id := by
  obtain ⟨hnone, hnorow, -⟩ := fresh_iff.mp (hnew.fresh id hsome)
  exact ⟨fun hmem => AList.lookup_eq_none.mp hnone (AList.mem_keys.mpr hmem), hnorow⟩

/-- The order of the rules on OPNsense after the pushes. -/
private theorem keys_pushAll :
    ((ApplyCalls.succeed newUuid).pushAll tenantId s.db s.opnsense).keys =
      standing tenantId newUuid s := by
  have hrows : ∀ work, ∀ row ∈ rowsWith s.db tenantId work,
      s.db.rules.get? row.1 = some row.2 ∧ row.2.work = some work := fun work row hmem =>
    ⟨(mem_rowsWith.mp hmem).1, (mem_rowsWith.mp hmem).2.2⟩
  have hsome : ∀ {work row}, row ∈ rowsWith s.db tenantId work →
      (s.db.rules.get? row.1).isSome = true := fun hmem => by
    rw [(mem_rowsWith.mp hmem).1]
    rfl
  -- Different rows have different uuids, and are given different ones.
  have huuids : ∀ work, ((rowsWith s.db tenantId work).map (·.2.uuid)).Nodup := fun work => by
    refine List.Nodup.map_on (fun row hrow row' hrow' heq => ?_)
      (nodup_rowsWith s.db tenantId work).of_map
    obtain ⟨hget, -⟩ := mem_rowsWith.mp hrow
    obtain ⟨hget', -⟩ := mem_rowsWith.mp hrow'
    have hid := s.db.eq_of_uuid hget hget' heq
    exact Prod.ext hid (Option.some.inj (hget.symm.trans (hid ▸ hget')))
  have hgiven : ((rowsWith s.db tenantId .create).map fun row => newUuid row.1).Nodup := by
    have hnodup := nodup_rowsWith s.db tenantId .create
    have hmap : ((rowsWith s.db tenantId .create).map fun row => newUuid row.1) =
        ((rowsWith s.db tenantId .create).map Prod.fst).map newUuid := by
      rw [List.map_map]
      rfl
    rw [hmap]
    refine List.Nodup.map_on (fun i hi j hj heq => ?_) hnodup
    obtain ⟨row, hrow, rfl⟩ := List.mem_map.mp hi
    obtain ⟨row', hrow', rfl⟩ := List.mem_map.mp hj
    exact hnew.different _ _ (hsome hrow) (hsome hrow') heq
  unfold ApplyCalls.pushAll workList standing
  rw [idsWith_pendingRules, idsWith_pendingRules, idsWith_pendingRules, List.foldl_append,
    List.foldl_append, foldl_pushTo (hrows .delete), foldl_pushTo (hrows .update),
    foldl_pushTo (hrows .create), keys_creations hgiven, keys_updates (huuids .update),
    keys_deletions]
  intro row hmem
  rw [keys_updates (huuids .update), keys_deletions, List.mem_append, List.mem_filter,
    List.mem_filter]
  obtain ⟨hkeys, hnorow⟩ := unused_newUuid hnew (hsome hmem)
  rintro (⟨hin, -⟩ | ⟨hin, -⟩)
  · exact hkeys hin
  · obtain ⟨row', hrow', heq⟩ := List.mem_map.mp hin
    exact hnorow _ _ (mem_rowsWith.mp hrow').1 heq

/-- The rules that stand on OPNsense before the moves are different. -/
theorem nodup_standing : (standing tenantId newUuid s).Nodup := by
  rw [← keys_pushAll hnew]
  exact nodup_keys _

include hrun

/-- The order of the rules on OPNsense after a complete run. -/
theorem keys_applyAll : (s.applyAll tenantId run newUuid).opnsense.keys =
    reorder (movable tenantId newUuid s) (desired tenantId newUuid s)
      (standing tenantId newUuid s) := by
  have hkeys : ((ApplyCalls.succeed newUuid).pushAll tenantId s.db s.opnsense).keys =
      standing tenantId newUuid s := keys_pushAll hnew
  rw [applyAll_eq_runApply, opnsense_runApply hrun hnew]
  split
  case isTrue hnone =>
    have hmovable : ∀ uuid, movable tenantId newUuid s uuid = false := fun uuid =>
      decide_eq_false fun h => h.1 hnone
    rw [reorder_of_not_movable fun uuid _ => hmovable uuid, ← hkeys, ApplyCalls.pushAll,
      (AList.ext hnone : pendingRules s.db tenantId = ∅)]
    rfl
  case isFalse hsome =>
    have hlisted : (ApplyCalls.succeed newUuid).listedOrder
        ((ApplyCalls.succeed newUuid).pushAll tenantId s.db s.opnsense) =
          (standing tenantId newUuid s).take 1000 := by
      rw [← hkeys]
      show (List.map _ (List.take 1000 _)).map Prod.fst = (List.map Sigma.fst _).take 1000
      rw [List.map_map, List.map_take]
      rfl
    rw [hlisted, keys_moveTo newUuid 0 fun uuid hmem => hkeys ▸ List.mem_of_mem_take hmem, hkeys]
    refine congrArg (fun movable => reorder movable _ _) (funext fun uuid => ?_)
    exact decide_eq_decide.mpr ⟨fun h => ⟨hsome, h⟩, And.right⟩

/-! ## The order by sequence -/

omit hrun in
/-- Different rows have different uuids after the pushes. -/
theorem uuidPushed_inj {id id' : ℕ} {rule rule' : OPNsenseFirewallRule}
    (hget : s.db.rules.get? id = some rule) (hget' : s.db.rules.get? id' = some rule')
    (heq : uuidPushed tenantId newUuid id rule = uuidPushed tenantId newUuid id' rule') :
    id = id' := by
  have hsome : (s.db.rules.get? id).isSome = true := by rw [hget]; rfl
  have hsome' : (s.db.rules.get? id').isSome = true := by rw [hget']; rfl
  unfold uuidPushed ApplyCalls.uuidInOrder at heq
  split at heq <;> split at heq
  · exact hnew.different id id' hsome hsome' heq
  · exact absurd heq.symm ((unused_newUuid hnew hsome).2 id' rule' hget')
  · exact absurd heq ((unused_newUuid hnew hsome').2 id rule hget)
  · exact s.db.eq_of_uuid hget hget' heq

omit hnew hrun in
/-- A complete run leaves the rules of the tenant that are not to be deleted. -/
private theorem exists_appliedRow {id : ℕ} {rule : OPNsenseFirewallRule}
    (htenant : rule.tenantId = tenantId) (hstatus : rule.applyStatus ≠ .pendingDelete) :
    ∃ rule', appliedRow tenantId (newUuid id) rule = some rule' ∧ rule'.tenantId = tenantId ∧
      rule'.content = rule.content ∧ rule'.uuid = uuidPushed tenantId newUuid id rule := by
  have hdelete : rule.work ≠ some .delete := by
    intro hwork
    unfold OPNsenseFirewallRule.work at hwork
    cases hcase : rule.applyStatus with
    | pendingDelete => exact hstatus hcase
    | pending =>
      rw [hcase] at hwork
      dsimp only at hwork
      split at hwork <;> cases hwork
    | synced | failed =>
      rw [hcase] at hwork
      cases hwork
  unfold appliedRow uuidPushed ApplyCalls.uuidInOrder
  rw [if_neg (not_not.mpr htenant)]
  cases hwork : rule.work with
  | none => exact ⟨rule, rfl, htenant, rfl, (if_neg fun h => nomatch h.2.1).symm⟩
  | some work =>
    cases work with
    | delete => exact absurd hwork hdelete
    | update => exact ⟨_, rfl, htenant, rfl, (if_neg fun h => nomatch h.2.1).symm⟩
    | create => exact ⟨_, rfl, htenant, rfl, (if_pos ⟨htenant, rfl, rfl⟩).symm⟩

/-- The rules of the tenant after a complete run come from those that are not deleted. -/
private theorem exists_of_get?_applyAll {id : ℕ} {rule' : OPNsenseFirewallRule}
    (hget : (s.applyAll tenantId run newUuid).db.rules.get? id = some rule')
    (htenant : rule'.tenantId = tenantId) :
    ∃ rule, s.db.rules.get? id = some rule ∧ rule.tenantId = tenantId ∧
      rule.applyStatus ≠ .pendingDelete ∧ rule'.content = rule.content ∧
      rule'.uuid = uuidPushed tenantId newUuid id rule := by
  rw [rules_applyAll hrun hnew] at hget
  obtain ⟨rule, hrule, happlied⟩ := Option.bind_eq_some_iff.mp hget
  have hown : rule.tenantId = tenantId := by
    by_contra hother
    rw [appliedRow, if_pos hother] at happlied
    exact hother (Option.some.inj happlied ▸ htenant)
  have hstatus : rule.applyStatus ≠ .pendingDelete := by
    intro hdelete
    have hwork : rule.work = some .delete := by rw [OPNsenseFirewallRule.work, hdelete]
    rw [appliedRow, if_neg (not_not.mpr hown), hwork] at happlied
    cases happlied
  obtain ⟨row, hrow, -, hcontent, huuid⟩ :
      ∃ row, appliedRow tenantId (newUuid id) rule = some row ∧ _ := exists_appliedRow hown hstatus
  obtain rfl := Option.some.inj (hrow.symm.trans happlied)
  exact ⟨rule, hrule, hown, hstatus, hcontent, huuid⟩

omit hrun in
/-- The order that is read has different uuids. -/
private theorem nodup_desired : (desired tenantId newUuid s).Nodup := by
  have hrows : (rulesBySequence s.db tenantId).Nodup := by
    refine (List.perm_insertionSort _ _).nodup_iff.mpr ?_
    exact (Table.nodup_keys_select s.db.rules.rows _).of_map
  refine List.Nodup.map_on (fun row hrow row' hrow' heq => ?_) hrows
  have hget := (Table.mem_select.mp ((List.mem_insertionSort _).mp hrow)).1
  have hget' := (Table.mem_select.mp ((List.mem_insertionSort _).mp hrow')).1
  have hid := uuidPushed_inj hnew hget hget' heq
  exact Prod.ext hid (Option.some.inj (hget.symm.trans (hid ▸ hget')))

omit hrun hnew in
/-- The order by sequence is total. -/
private theorem sequenceLe_total (a b : ℕ × OPNsenseFirewallRule) :
    sequenceLe a b = true ∨ sequenceLe b a = true := by
  unfold sequenceLe
  cases a.2.content.sequence <;> cases b.2.content.sequence <;> simp [le_total]

omit hrun hnew in
/-- It is transitive. -/
private theorem sequenceLe_trans {a b c : ℕ × OPNsenseFirewallRule} (h : sequenceLe a b = true)
    (h' : sequenceLe b c = true) : sequenceLe a c = true := by
  unfold sequenceLe at *
  cases ha : a.2.content.sequence <;> cases hb : b.2.content.sequence <;>
    cases hc : c.2.content.sequence <;> simp_all
  exact h.trans h'

omit hrun hnew in
/-- Rules in both orders have the same sequence. -/
private theorem sequence_eq_of_sequenceLe {a b : ℕ × OPNsenseFirewallRule}
    (h : sequenceLe a b = true) (h' : sequenceLe b a = true) :
    a.2.content.sequence = b.2.content.sequence := by
  unfold sequenceLe at *
  cases ha : a.2.content.sequence <;> cases hb : b.2.content.sequence <;> simp_all
  exact le_antisymm h h'

omit hrun in
/-- A rule is read before those with a larger sequence. -/
private theorem precedes_desired (hdistinct : DistinctSequences tenantId s.db) {id id' : ℕ}
    {rule rule' : OPNsenseFirewallRule} (hget : s.db.rules.get? id = some rule)
    (htenant : rule.tenantId = tenantId) (hget' : s.db.rules.get? id' = some rule')
    (htenant' : rule'.tenantId = tenantId) (hne : id ≠ id')
    (hle : sequenceLe (id, rule) (id', rule') = true) :
    Precedes (desired tenantId newUuid s) (uuidPushed tenantId newUuid id rule)
      (uuidPushed tenantId newUuid id' rule') := by
  have hmem : ∀ {id rule}, s.db.rules.get? id = some rule → rule.tenantId = tenantId →
      uuidPushed tenantId newUuid id rule ∈ desired tenantId newUuid s := fun hget htenant =>
    List.mem_map.mpr ⟨(_, _), (List.mem_insertionSort _).mpr
      (Table.mem_select.mpr ⟨hget, decide_eq_true htenant⟩), rfl⟩
  have hdifferent : uuidPushed tenantId newUuid id rule ≠ uuidPushed tenantId newUuid id' rule' :=
    fun heq => hne (uuidPushed_inj hnew hget hget' heq)
  refine (precedes_or (hmem hget htenant) (hmem hget' htenant') hdifferent).resolve_right fun h => ?_
  -- In the other order, the rules would have the same sequence.
  obtain ⟨row', row, hrows, heq', heq⟩ := exists_of_precedes_map h
  obtain ⟨hin', hin⟩ := hrows.mem
  have hrow := (Table.mem_select.mp ((List.mem_insertionSort _).mp hin)).1
  have hrow' := (Table.mem_select.mp ((List.mem_insertionSort _).mp hin')).1
  obtain rfl := uuidPushed_inj hnew hrow hget heq
  obtain rfl := uuidPushed_inj hnew hrow' hget' heq'
  obtain rfl := Option.some.inj (hrow.symm.trans hget)
  obtain rfl := Option.some.inj (hrow'.symm.trans hget')
  have : Std.Total (fun a b : ℕ × OPNsenseFirewallRule => sequenceLe a b = true) :=
    ⟨sequenceLe_total⟩
  have : IsTrans (ℕ × OPNsenseFirewallRule) (fun a b => sequenceLe a b = true) :=
    ⟨fun _ _ _ => sequenceLe_trans⟩
  have hle' := hrows.rel (List.pairwise_insertionSort _ _)
  exact hne (hdistinct _ _ _ _ hget htenant hget' htenant'
    (sequence_eq_of_sequenceLe hle hle'))

/-- After a complete apply run, the rules are in the order by sequence exactly when the ends of
their chains stood in it before the moves. -/
theorem orderedBySequence_iff (hdistinct : DistinctSequences tenantId s.db) :
    OrderedBySequence tenantId (s.applyAll tenantId run newUuid) ↔
      EndsOrdered tenantId newUuid s := by
  have hmovable : ∀ uuid ∈ desired tenantId newUuid s, movable tenantId newUuid s uuid = true →
      uuid ∈ standing tenantId newUuid s := fun uuid _ h =>
    List.mem_of_mem_take (of_decide_eq_true h).2
  have hkeys : (s.applyAll tenantId run newUuid).opnsense.keys =
      reorder (movable tenantId newUuid s) (desired tenantId newUuid s)
        (standing tenantId newUuid s) := keys_applyAll hrun hnew
  have hperm := reorder_perm hmovable
  -- Whether two rules are in order afterwards.
  have horder : ∀ {id rule id' rule'}, s.db.rules.get? id = some rule → rule.tenantId = tenantId →
      s.db.rules.get? id' = some rule' → rule'.tenantId = tenantId → id ≠ id' →
      sequenceLe (id, rule) (id', rule') = true →
      (Precedes (s.applyAll tenantId run newUuid).opnsense.keys
        (uuidPushed tenantId newUuid id rule) (uuidPushed tenantId newUuid id' rule') ↔
      endOf tenantId newUuid s (uuidPushed tenantId newUuid id rule) =
          endOf tenantId newUuid s (uuidPushed tenantId newUuid id' rule') ∨
        Precedes (standing tenantId newUuid s)
          (endOf tenantId newUuid s (uuidPushed tenantId newUuid id rule))
          (endOf tenantId newUuid s (uuidPushed tenantId newUuid id' rule'))) := by
    intro id rule id' rule' hget htenant hget' htenant' hne hle
    rw [hkeys, precedes_reorder (nodup_desired hnew) (nodup_standing hnew) hmovable
      fun heq => hne (uuidPushed_inj hnew hget hget' heq)]
    unfold endOf
    split
    case isTrue heq =>
      exact iff_of_true (precedes_desired hnew hdistinct hget htenant hget' htenant' hne hle)
        (Or.inl heq)
    case isFalse hends => exact ⟨Or.inr, fun h => h.resolve_left hends⟩
  have hrules := @rules_applyAll tenantId run newUuid s hrun hnew
  have hrow := @exists_of_get?_applyAll tenantId run newUuid s hrun hnew
  -- The run itself does not matter any more.
  generalize s.applyAll tenantId run newUuid = after at hkeys horder hrules hrow ⊢
  constructor
  · intro h id rule id' rule' hget htenant hstatus hget' htenant' hstatus' hne hle hin hin'
    obtain ⟨row, happlied, hrowTenant, hcontent, huuid⟩ :=
      @exists_appliedRow tenantId newUuid id rule htenant hstatus
    obtain ⟨row', happlied', hrowTenant', hcontent', huuid'⟩ :=
      @exists_appliedRow tenantId newUuid id' rule' htenant' hstatus'
    refine (horder hget htenant hget' htenant' hne hle).mp ?_
    rw [← huuid, ← huuid']
    refine h id row id' row' ?_ hrowTenant ?_ hrowTenant' hne ?_ ?_ ?_
    · rw [hrules, hget, Option.bind_some, happlied]
    · rw [hrules, hget', Option.bind_some, happlied']
    · unfold sequenceLe at hle ⊢
      rwa [hcontent, hcontent']
    · rwa [hkeys, huuid, hperm.mem_iff]
    · rwa [hkeys, huuid', hperm.mem_iff]
  · intro h id row id' row' hrowGet hrowTenant hrowGet' hrowTenant' hne hle hin hin'
    obtain ⟨rule, hget, htenant, hstatus, hcontent, huuid⟩ := hrow hrowGet hrowTenant
    obtain ⟨rule', hget', htenant', hstatus', hcontent', huuid'⟩ := hrow hrowGet' hrowTenant'
    have hle' : sequenceLe (id, rule) (id', rule') = true := by
      unfold sequenceLe at hle ⊢
      rwa [hcontent, hcontent'] at hle
    rw [huuid, huuid']
    rw [hkeys, hperm.mem_iff, huuid] at hin
    rw [hkeys, hperm.mem_iff, huuid'] at hin'
    exact (horder hget htenant hget' htenant' hne hle').mpr
      (h id rule id' rule' hget htenant hstatus hget' htenant' hstatus' hne hle' hin hin')

end Complete

/-- A rule with some sequence and uuid. -/
private def ruleAt (sequence : ℤ) (uuid : String) (applyStatus : ApplyStatus) :
    OPNsenseFirewallRule where
  tenantId := 1
  uuid
  content := { defaultContent with sequence := some sequence }
  applyStatus
  applyError := none

/-- Three rules of which the middle one is to be deleted. On OPNsense the last one is the first. -/
def gapState : State where
  db :=
    { tenants := [1]
      rules := ((Serial.empty.add (ruleAt 100 "1a" .synced)).add (ruleAt 200 "2b" .pendingDelete)).add
        (ruleAt 300 "3c" .synced)
      valid := by decide +kernel }
  opnsense := Table.append (Table.append (Table.append ∅ "3c" []) "1a" []) "2b" []
  applies := ∅
  rules := ∅
  syncs := ∅
  created := []

/-- The uuids that OPNsense would give to the three rules. -/
def gapUuid (id : ℕ) : String := "new" ++ toString id

/-- They are new. -/
private theorem givesNew_gapState : GivesNew gapState gapUuid where
  different i j hi hj h := by
    have hbound : ∀ k (rule : OPNsenseFirewallRule), gapState.db.rules.get? k = some rule →
        k = 1 ∨ k = 2 ∨ k = 3 := Serial.forall_get?_iff.mpr (by decide +kernel)
    obtain ⟨rule, hrule⟩ := Option.isSome_iff_exists.mp hi
    obtain ⟨rule', hrule'⟩ := Option.isSome_iff_exists.mp hj
    rcases hbound i rule hrule with rfl | rfl | rfl <;>
      rcases hbound j rule' hrule' with rfl | rfl | rfl <;> first | rfl | (revert h; decide +kernel)
  fresh id hsome := by
    have hfresh : ∀ k (rule : OPNsenseFirewallRule), gapState.db.rules.get? k = some rule →
        gapState.fresh (gapUuid k) = true := Serial.forall_get?_iff.mpr (by decide +kernel)
    obtain ⟨rule, hrule⟩ := Option.isSome_iff_exists.mp hsome
    exact hfresh id rule hrule

/-- The three rules have different sequences. -/
private theorem distinct_gapState : DistinctSequences 1 gapState.db := by
  have hsequence : ∀ k (rule : OPNsenseFirewallRule), gapState.db.rules.get? k = some rule →
      rule.content.sequence = some (100 * (k : ℤ)) := Serial.forall_get?_iff.mpr (by decide +kernel)
  intro id rule id' rule' hget _ hget' _ heq
  rw [hsequence id rule hget, hsequence id' rule' hget', Option.some_inj] at heq
  omega

/-- The rules with a gap between them. -/
theorem orderedBySequence_iff_gap :
    OrderedBySequence 1 (gapState.applyAll 1 0 gapUuid) ↔ EndsOrdered 1 gapUuid gapState :=
  orderedBySequence_iff rfl givesNew_gapState distinct_gapState

/-- The rule between two others is deleted, and these stay in their order on OPNsense. -/
theorem not_orderedBySequence : ¬ ∀ tenantId run newUuid (s : State),
    s.applies.get? run = none → GivesNew s newUuid → DistinctSequences tenantId s.db →
      OrderedBySequence tenantId (s.applyAll tenantId run newUuid) := by
  intro h
  have hordered := h 1 0 gapUuid gapState rfl givesNew_gapState distinct_gapState
  have hkeys : (gapState.applyAll 1 0 gapUuid).opnsense.keys = ["3c", "1a"] := by decide +kernel
  have hrow : (gapState.applyAll 1 0 gapUuid).db.rules.get? 1 = some (ruleAt 100 "1a" .synced) := by
    decide +kernel
  have hrow' : (gapState.applyAll 1 0 gapUuid).db.rules.get? 3 = some (ruleAt 300 "3c" .synced) := by
    decide +kernel
  have hprecedes := hordered 1 _ 3 _ hrow rfl hrow' rfl (by decide) (by decide)
    (by rw [hkeys]; decide) (by rw [hkeys]; decide)
  rw [hkeys] at hprecedes
  simp [ruleAt, Precedes] at hprecedes

end ProxmoxIaas.Firewall
