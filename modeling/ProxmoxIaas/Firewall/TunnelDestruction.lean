import ProxmoxIaas.Firewall.Deletions

/-!
# Destruction of a Tunnel

The destruction of a tunnel and a complete apply run after it, against the apply run alone. Which
rules were created for the tunnel is a matter of their history, and left open: a set of rows, and a
set of rules on OPNsense that have no row. The destruction knows neither; it goes by the pattern of
the descriptions and by the status of the rows.

## Main results

- `get?_destroyTunnel`: what the destruction leaves of each row.
- `removesExactly_iff`: the rules of the tunnel and no others are removed exactly when the pattern
  finds them, and those that are on OPNsense are synced.
-/

namespace ProxmoxIaas.Firewall

/-- The rules that were created for a tunnel. -/
structure TunnelOwned where
  /-- The rows. -/
  row : ℕ → Prop
  /-- The uuids of rules that were created for it on OPNsense and have no row. -/
  orphan : String → Prop

/-- A uuid of a rule of the tunnel: that of a row, the one that OPNsense gives to the row, or that
of a rule without a row. A placeholder is not a uuid of a rule. -/
def TunnelOwned.Remote (owned : TunnelOwned) (newUuid : ℕ → String) (s : State) (uuid : String) :
    Prop :=
  (∃ id rule, s.db.rules.get? id = some rule ∧ owned.row id ∧
    (isPlaceholder rule.uuid = false ∧ uuid = rule.uuid ∨ uuid = newUuid id)) ∨
  owned.orphan uuid ∧ ∀ id rule, s.db.rules.get? id = some rule →
    rule.uuid ≠ uuid ∧ newUuid id ≠ uuid

/-- The state after the commit of the destruction. -/
def State.destroyTunnel (s : State) (tenantId : ℕ) (name : String) : State :=
  s.tenantStep tenantId (.destroyTunnel name)

/-- The destruction and an apply run remove the rules of the tunnel, and leave the other ones as the
apply run alone does. -/
structure RemovesExactly (tenantId : ℕ) (name : String) (owned : TunnelOwned) (run : ℕ)
    (newUuid : ℕ → String) (s : State) : Prop where
  /-- The rows of the tunnel are gone. -/
  rows (id : ℕ) (h : owned.row id) :
    ((s.destroyTunnel tenantId name).applyAll tenantId run newUuid).db.rules.get? id = none
  /-- The other rows are as after the apply run. -/
  otherRows (id : ℕ) (h : ¬ owned.row id) :
    ((s.destroyTunnel tenantId name).applyAll tenantId run newUuid).db.rules.get? id =
      (s.applyAll tenantId run newUuid).db.rules.get? id
  /-- The rules of the tunnel are gone from OPNsense. -/
  remote (uuid : String) (h : owned.Remote newUuid s uuid) :
    Table.get? ((s.destroyTunnel tenantId name).applyAll tenantId run newUuid).opnsense uuid = none
  /-- The other rules on OPNsense are as after the apply run. -/
  otherRemote (uuid : String) (h : ¬ owned.Remote newUuid s uuid) :
    Table.get? ((s.destroyTunnel tenantId name).applyAll tenantId run newUuid).opnsense uuid =
      Table.get? (s.applyAll tenantId run newUuid).opnsense uuid

/-- What the destruction relies on. -/
structure FindsExactly (tenantId : ℕ) (name : String) (owned : TunnelOwned) (s : State) : Prop where
  /-- A rule that does not await its deletion anyway matches the pattern exactly if it is one of the
  tunnel. -/
  found : ∀ id rule, s.db.rules.get? id = some rule →
    rule.tenantId = tenantId ∧ rule.applyStatus = .pendingDelete ∨
      (owned.row id ↔ isTunnelRule tenantId name rule = true)
  /-- A rule that matches the pattern is synced if it is on OPNsense. -/
  removable : ∀ id rule, s.db.rules.get? id = some rule → isTunnelRule tenantId name rule = true →
    isPlaceholder rule.uuid = false → rule.applyStatus = .synced ∨
      Table.get? s.opnsense rule.uuid = none
  /-- No rule of the tunnel is on OPNsense without a row. -/
  noOrphan : ∀ uuid, owned.orphan uuid → (∀ id rule, s.db.rules.get? id = some rule →
    rule.uuid ≠ uuid) → Table.get? s.opnsense uuid = none

variable {tenantId run : ℕ} {name : String} {owned : TunnelOwned} {newUuid : ℕ → String} {s : State}

/-- The commit of the destruction violates no constraint. -/
theorem isSome_deleteTunnelRules (db : FirewallDb) (tenantId : ℕ) (name : String) :
    (deleteTunnelRules db tenantId name).isSome = true := by
  rw [deleteTunnelRules, FirewallDb.save?_of_valid]
  · rfl
  have hrow : ∀ {i rule'}, ((db.rules.deleteWhere fun _ rule =>
      isTunnelRule tenantId name rule && rule.applyStatus ≠ .synced).mapRows fun _ rule =>
        if isTunnelRule tenantId name rule then { rule with applyStatus := .pendingDelete }
        else rule).get? i = some rule' →
      ∃ rule, db.rules.get? i = some rule ∧ rule'.uuid = rule.uuid ∧
        rule'.fits db.tenants = rule.fits db.tenants := by
    intro i rule' hget
    rw [Serial.get?_mapRows, Serial.get?_deleteWhere] at hget
    obtain ⟨rule, hfilter, rfl⟩ := Option.map_eq_some_iff.mp hget
    refine ⟨rule, (Option.filter_eq_some_iff.mp hfilter).1, ?_⟩
    split
    · exact ⟨rfl, rfl⟩
    · exact ⟨rfl, rfl⟩
  refine validRules_iff.mpr ⟨fun i j rule rule' hi hj heq => ?_, fun i rule hi => ?_⟩
  · obtain ⟨old, hold, hsame, -⟩ := hrow hi
    obtain ⟨old', hold', hsame', -⟩ := hrow hj
    exact db.eq_of_uuid hold hold' (hsame.symm.trans (heq.trans hsame'))
  · obtain ⟨old, hold, -, hsame⟩ := hrow hi
    rw [hsame]
    exact db.fits_of_get? hold

/-- What the destruction leaves of each row. -/
theorem get?_destroyTunnel (id : ℕ) : (s.destroyTunnel tenantId name).db.rules.get? id =
    (s.db.rules.get? id).bind fun rule =>
      if isTunnelRule tenantId name rule = false then some rule
      else if rule.applyStatus = .synced then some { rule with applyStatus := .pendingDelete }
      else none := by
  obtain ⟨db', hcommit⟩ := Option.isSome_iff_exists.mp (isSome_deleteTunnelRules s.db tenantId name)
  rw [← (get?_deleteTunnelRules hcommit).2 id]
  show Serial.get? ((deleteTunnelRules s.db tenantId name).getD s.db).rules id = _
  rw [hcommit, Option.getD_some]

/-- A rule after the destruction was stored before, under the same uuid. -/
theorem exists_of_get?_destroyTunnel {id : ℕ} {rule : OPNsenseFirewallRule}
    (h : (s.destroyTunnel tenantId name).db.rules.get? id = some rule) :
    ∃ before, s.db.rules.get? id = some before ∧ rule.uuid = before.uuid ∧
      rule.tenantId = before.tenantId ∧
      (isTunnelRule tenantId name before = false ∧ rule = before ∨
        isTunnelRule tenantId name before = true ∧ before.applyStatus = .synced ∧
          rule.applyStatus = .pendingDelete) := by
  rw [get?_destroyTunnel] at h
  obtain ⟨before, hget, hrule⟩ := Option.bind_eq_some_iff.mp h
  refine ⟨before, hget, ?_⟩
  split at hrule
  case isTrue hother =>
    obtain rfl := Option.some.inj hrule
    exact ⟨rfl, rfl, Or.inl ⟨hother, rfl⟩⟩
  case isFalse hmatches =>
    split at hrule
    case isTrue hsynced =>
      obtain rfl := Option.some.inj hrule
      exact ⟨rfl, rfl, Or.inr ⟨Bool.eq_true_of_not_eq_false hmatches, hsynced, rfl⟩⟩
    case isFalse => cases hrule

/-- A rule that matches the pattern is one of the tenant. -/
theorem tenantId_of_isTunnelRule {rule : OPNsenseFirewallRule}
    (h : isTunnelRule tenantId name rule = true) : rule.tenantId = tenantId :=
  of_decide_eq_true (Bool.and_eq_true_iff.mp h).1

/-- OPNsense gives new uuids after the destruction as it does before. -/
theorem givesNew_destroyTunnel (hnew : GivesNew s newUuid) :
    GivesNew (s.destroyTunnel tenantId name) newUuid := by
  have hstored : ∀ {id}, ((s.destroyTunnel tenantId name).db.rules.get? id).isSome = true →
      (s.db.rules.get? id).isSome = true := by
    intro id hsome
    obtain ⟨rule, hget⟩ := Option.isSome_iff_exists.mp hsome
    obtain ⟨before, hbefore, -⟩ := exists_of_get?_destroyTunnel hget
    exact Option.isSome_of_eq_some hbefore
  refine ⟨fun i j hi hj => hnew.different i j (hstored hi) (hstored hj), fun id hid => ?_⟩
  obtain ⟨hopnsense, hrules, hcreated, hlength, hplace⟩ :=
    fresh_iff.mp (hnew.fresh id (hstored hid))
  refine fresh_iff.mpr ⟨hopnsense, fun i rule hget => ?_, hcreated, hlength, hplace⟩
  obtain ⟨before, hbefore, huuid, -⟩ := exists_of_get?_destroyTunnel hget
  rw [huuid]
  exact hrules i before hbefore

section Destroyed

variable (hrun : s.applies.get? run = none) (hnew : GivesNew s newUuid)

include hrun hnew

/-- A row after the destruction and an apply run: rules that match the pattern are gone. -/
theorem rules_destroyTunnel_applyAll (id : ℕ) :
    ((s.destroyTunnel tenantId name).applyAll tenantId run newUuid).db.rules.get? id =
      (s.db.rules.get? id).bind fun rule =>
        if isTunnelRule tenantId name rule = true then none
        else appliedRow tenantId (newUuid id) rule := by
  rw [rules_applyAll (s := s.destroyTunnel tenantId name) hrun (givesNew_destroyTunnel hnew),
    get?_destroyTunnel, Option.bind_assoc]
  refine Option.bind_congr fun rule _ => ?_
  cases hmatches : isTunnelRule tenantId name rule with
  | false => rfl
  | true =>
    rw [if_neg (by decide), if_pos rfl]
    split
    · -- A synced rule is marked, and the run deletes it.
      rw [Option.bind_some, appliedRow]
      exact if_neg (not_not.mpr (tenantId_of_isTunnelRule hmatches))
    · rfl

/-- The push of a rule that does not match the pattern writes as it does without the destruction. -/
theorem opnsense_of_other {id : ℕ} {rule : OPNsenseFirewallRule} {uuid : String}
    {value : Option Payload} (hget : s.db.rules.get? id = some rule)
    (htenant : rule.tenantId = tenantId) (hother : isTunnelRule tenantId name rule = false)
    (hwrites : pushWrites rule (newUuid id) uuid = some value) :
    Table.get? ((s.destroyTunnel tenantId name).applyAll tenantId run newUuid).opnsense uuid =
      value := by
  refine opnsense_applyAll_of_some (s := s.destroyTunnel tenantId name) hrun
    (givesNew_destroyTunnel hnew) ?_ htenant hwrites
  rw [get?_destroyTunnel, hget, Option.bind_some, if_pos hother]

/-- A synced rule that matches the pattern is deleted on OPNsense. -/
theorem opnsense_of_synced {id : ℕ} {rule : OPNsenseFirewallRule}
    (hget : s.db.rules.get? id = some rule) (hmatches : isTunnelRule tenantId name rule = true)
    (hsynced : rule.applyStatus = .synced) (hplace : isPlaceholder rule.uuid = false) :
    Table.get? ((s.destroyTunnel tenantId name).applyAll tenantId run newUuid).opnsense
      rule.uuid = none := by
  have hmarked : (s.destroyTunnel tenantId name).db.rules.get? id =
      some { rule with applyStatus := .pendingDelete } := by
    rw [get?_destroyTunnel, hget, Option.bind_some, if_neg (by rw [hmatches]; decide),
      if_pos hsynced]
  exact opnsense_applyAll_of_some (s := s.destroyTunnel tenantId name) hrun
    (givesNew_destroyTunnel hnew) hmarked (tenantId_of_isTunnelRule hmatches)
    (if_pos ⟨hplace, rfl⟩)

/-- Nothing else is written on OPNsense. -/
theorem opnsense_of_unwritten {uuid : String}
    (hother : ∀ id rule, s.db.rules.get? id = some rule → rule.tenantId = tenantId →
      isTunnelRule tenantId name rule = false → pushWrites rule (newUuid id) uuid = none)
    (hsynced : ∀ id rule, s.db.rules.get? id = some rule →
      isTunnelRule tenantId name rule = true → rule.applyStatus = .synced →
      isPlaceholder rule.uuid = false → rule.uuid ≠ uuid) :
    Table.get? ((s.destroyTunnel tenantId name).applyAll tenantId run newUuid).opnsense uuid =
      Table.get? s.opnsense uuid := by
  refine opnsense_applyAll_of_none (s := s.destroyTunnel tenantId name) hrun
    (givesNew_destroyTunnel hnew) fun id rule hget htenant => ?_
  obtain ⟨before, hbefore, huuid, htenant', hcases⟩ := exists_of_get?_destroyTunnel hget
  rcases hcases with ⟨hunmatched, rfl⟩ | ⟨hmatches, hwasSynced, hmarked⟩
  · exact hother id _ hbefore htenant hunmatched
  · have hwork : rule.work = some .delete := by rw [OPNsenseFirewallRule.work, hmarked]
    rw [pushWrites, hwork]
    refine if_neg ?_
    rintro ⟨hplace, heq⟩
    rw [huuid] at hplace heq
    exact hsynced id before hbefore hmatches hwasSynced hplace heq.symm

end Destroyed

/-- The run deletes the rows of the tenant that await their deletion. -/
theorem appliedRow_eq_none_iff {given : String} {rule : OPNsenseFirewallRule} :
    appliedRow tenantId given rule = none ↔
      rule.tenantId = tenantId ∧ rule.applyStatus = .pendingDelete := by
  unfold appliedRow OPNsenseFirewallRule.work
  by_cases htenant : rule.tenantId = tenantId
  · rw [if_neg (not_not.mpr htenant)]
    cases hstatus : rule.applyStatus with
    | pending => cases isPlaceholder rule.uuid <;> simp
    | _ => simp [htenant]
  · rw [if_pos htenant]
    exact iff_of_false nofun fun h => htenant h.1

/-- A push does not write under a placeholder. -/
theorem real_of_pushWrites {rule : OPNsenseFirewallRule} {given uuid : String}
    {value : Option Payload} (h : pushWrites rule given uuid = some value) :
    isPlaceholder rule.uuid = false ∧ uuid = rule.uuid ∨ uuid = given := by
  rw [pushWrites, OPNsenseFirewallRule.work] at h
  cases hstatus : rule.applyStatus with
  | pendingDelete =>
    rw [hstatus] at h
    exact Or.inl (Option.ite_none_right_eq_some.mp h).1
  | pending =>
    rw [hstatus] at h
    cases hplace : isPlaceholder rule.uuid with
    | true =>
      rw [hplace] at h
      exact Or.inr (Option.ite_none_right_eq_some.mp h).1
    | false =>
      rw [hplace] at h
      exact Or.inl ⟨rfl, (Option.ite_none_right_eq_some.mp h).1⟩
  | synced =>
    rw [hstatus] at h
    cases h
  | failed =>
    rw [hstatus] at h
    cases h

/-- What a push writes under the uuid of a stored rule it writes for that rule. -/
theorem eq_of_pushWrites_uuid (hnew : GivesNew s newUuid) {i j : ℕ}
    {rule rule' : OPNsenseFirewallRule} {value : Option Payload}
    (hi : s.db.rules.get? i = some rule) (hj : s.db.rules.get? j = some rule')
    (h : pushWrites rule' (newUuid j) rule.uuid = some value) : i = j := by
  rcases uuid_of_pushWrites h with heq | heq
  · exact s.db.eq_of_uuid hi hj heq
  · have hfresh := (fresh_iff.mp (hnew.fresh j (Option.isSome_of_eq_some hj))).2.1 i rule hi
    exact absurd heq hfresh

/-- What a push writes under the new uuid of a stored rule it writes for that rule, which is
created. -/
theorem create_of_pushWrites_newUuid (hnew : GivesNew s newUuid) {i j : ℕ}
    {rule rule' : OPNsenseFirewallRule} {value : Option Payload}
    (hi : s.db.rules.get? i = some rule) (hj : s.db.rules.get? j = some rule')
    (h : pushWrites rule' (newUuid j) (newUuid i) = some value) :
    i = j ∧ rule'.applyStatus = .pending := by
  have hne : newUuid i ≠ rule'.uuid := fun heq =>
    (fresh_iff.mp (hnew.fresh i (Option.isSome_of_eq_some hi))).2.1 j rule' hj heq.symm
  rcases uuid_of_pushWrites h with heq | heq
  · exact absurd heq hne
  · refine ⟨hnew.different i j (Option.isSome_of_eq_some hi) (Option.isSome_of_eq_some hj) heq, ?_⟩
    cases hstatus : rule'.applyStatus with
    | pending => rfl
    | pendingDelete =>
      rw [pushWrites, OPNsenseFirewallRule.work, hstatus] at h
      obtain ⟨⟨-, hold⟩, -⟩ := Option.ite_none_right_eq_some.mp h
      exact absurd hold hne
    | synced =>
      rw [pushWrites, OPNsenseFirewallRule.work, hstatus] at h
      cases h
    | failed =>
      rw [pushWrites, OPNsenseFirewallRule.work, hstatus] at h
      cases h

/-- Of the rules that a row or a uuid of the tunnel belongs to. -/
theorem row_of_remote (hnew : GivesNew s newUuid) {id : ℕ} {rule : OPNsenseFirewallRule}
    (hget : s.db.rules.get? id = some rule) (h : owned.Remote newUuid s rule.uuid) :
    owned.row id := by
  rcases h with ⟨i, rule', hi, hrow, ⟨-, heq⟩ | heq⟩ | ⟨-, hnone⟩
  · obtain rfl := s.db.eq_of_uuid hget hi heq
    exact hrow
  · have hfresh := (fresh_iff.mp (hnew.fresh i (Option.isSome_of_eq_some hi))).2.1 id rule hget
    exact absurd heq hfresh
  · exact absurd rfl (hnone id rule hget).1

section Removes

variable (hrun : s.applies.get? run = none) (hnew : GivesNew s newUuid)

include hrun hnew

/-- If the pattern finds the rules of the tunnel, they are removed and the other ones are left. -/
theorem removesExactly_of_findsExactly (h : FindsExactly tenantId name owned s) :
    RemovesExactly tenantId name owned run newUuid s := by
  -- What is not on OPNsense and not written by another rule is gone afterwards.
  have hgone : ∀ uuid, Table.get? s.opnsense uuid = none →
      (∀ id rule, s.db.rules.get? id = some rule → rule.tenantId = tenantId →
        isTunnelRule tenantId name rule = false → pushWrites rule (newUuid id) uuid = none) →
      Table.get? ((s.destroyTunnel tenantId name).applyAll tenantId run newUuid).opnsense uuid =
        none := by
    intro uuid hnone hother
    by_cases hsynced : ∃ id rule, s.db.rules.get? id = some rule ∧
        isTunnelRule tenantId name rule = true ∧ rule.applyStatus = .synced ∧
        isPlaceholder rule.uuid = false ∧ rule.uuid = uuid
    · obtain ⟨id, rule, hget, hmatches, hstatus, hplace, rfl⟩ := hsynced
      exact opnsense_of_synced hrun hnew hget hmatches hstatus hplace
    · rw [opnsense_of_unwritten hrun hnew hother fun id rule hget hm hs hp heq =>
        hsynced ⟨id, rule, hget, hm, hs, hp, heq⟩, hnone]
  -- A rule that matches the pattern and has a real uuid is gone afterwards.
  have hmatched : ∀ id rule, s.db.rules.get? id = some rule →
      isTunnelRule tenantId name rule = true → isPlaceholder rule.uuid = false →
      Table.get? ((s.destroyTunnel tenantId name).applyAll tenantId run newUuid).opnsense
        rule.uuid = none := by
    intro id rule hget hmatches hplace
    rcases h.removable id rule hget hmatches hplace with hsynced | hnone
    · exact opnsense_of_synced hrun hnew hget hmatches hsynced hplace
    · refine hgone rule.uuid hnone fun j rule' hj _ hunmatched => ?_
      by_contra hwritten
      obtain ⟨value, hwrites⟩ := Option.ne_none_iff_exists'.mp hwritten
      obtain rfl := eq_of_pushWrites_uuid hnew hget hj hwrites
      obtain rfl := Option.some.inj (hget.symm.trans hj)
      rw [hmatches] at hunmatched
      cases hunmatched
  refine ⟨fun id hrow => ?_, fun id hrow => ?_, fun uuid hremote => ?_, fun uuid hremote => ?_⟩
  · rw [rules_destroyTunnel_applyAll hrun hnew]
    cases hget : s.db.rules.get? id with
    | none => rfl
    | some rule =>
      rw [Option.bind_some]
      rcases h.found id rule hget with hawaits | hiff
      · split
        · rfl
        · exact appliedRow_eq_none_iff.mpr hawaits
      · exact if_pos (hiff.mp hrow)
  · rw [rules_destroyTunnel_applyAll hrun hnew, rules_applyAll hrun hnew]
    cases hget : s.db.rules.get? id with
    | none => rfl
    | some rule =>
      rw [Option.bind_some, Option.bind_some]
      rcases h.found id rule hget with hawaits | hiff
      · split
        · exact (appliedRow_eq_none_iff.mpr hawaits).symm
        · rfl
      · exact if_neg fun hmatches => hrow (hiff.mpr hmatches)
  · rcases hremote with ⟨id, rule, hget, hrow, ⟨hplace, rfl⟩ | rfl⟩ | ⟨horphan, hnone⟩
    · by_cases hmatches : isTunnelRule tenantId name rule = true
      · exact hmatched id rule hget hmatches hplace
      · -- The rule awaits its deletion, which the run does.
        obtain ⟨htenant, hstatus⟩ := (h.found id rule hget).resolve_right fun hiff =>
          hmatches (hiff.mp hrow)
        refine opnsense_of_other hrun hnew hget htenant (Bool.eq_false_of_not_eq_true hmatches) ?_
        rw [pushWrites, OPNsenseFirewallRule.work, hstatus]
        exact if_pos ⟨hplace, rfl⟩
    · -- The rule would be created, but its row is gone.
      refine hgone _ (fresh_iff.mp (hnew.fresh id (Option.isSome_of_eq_some hget))).1
        fun j rule' hj _ hunmatched => ?_
      by_contra hwritten
      obtain ⟨value, hwrites⟩ := Option.ne_none_iff_exists'.mp hwritten
      obtain ⟨rfl, hpending⟩ := create_of_pushWrites_newUuid hnew hget hj hwrites
      rcases h.found id rule' hj with ⟨-, hstatus⟩ | hiff
      · rw [hstatus] at hpending
        cases hpending
      · rw [hiff.mp hrow] at hunmatched
        cases hunmatched
    · refine hgone uuid (h.noOrphan uuid horphan fun id rule hget => (hnone id rule hget).1)
        fun id rule hget _ _ => ?_
      by_contra hwritten
      obtain ⟨value, hwrites⟩ := Option.ne_none_iff_exists'.mp hwritten
      rcases uuid_of_pushWrites hwrites with heq | heq
      · exact (hnone id rule hget).1 heq.symm
      · exact (hnone id rule hget).2 heq.symm
  · by_cases hwritten : ∃ id rule value, s.db.rules.get? id = some rule ∧
        rule.tenantId = tenantId ∧ pushWrites rule (newUuid id) uuid = some value
    · obtain ⟨id, rule, value, hget, htenant, hwrites⟩ := hwritten
      rw [opnsense_applyAll_of_some hrun hnew hget htenant hwrites]
      cases hmatches : isTunnelRule tenantId name rule with
      | false => exact opnsense_of_other hrun hnew hget htenant hmatches hwrites
      | true =>
        -- A rule that matches the pattern is one of the tunnel, or awaits its deletion anyway.
        have hstatus : rule.applyStatus = .pendingDelete := by
          rcases h.found id rule hget with ⟨-, hstatus⟩ | hiff
          · exact hstatus
          · refine absurd (Or.inl ⟨id, rule, hget, hiff.mpr hmatches, ?_⟩) hremote
            exact real_of_pushWrites hwrites
        rw [pushWrites, OPNsenseFirewallRule.work, hstatus] at hwrites
        obtain ⟨⟨hplace, rfl⟩, hvalue⟩ := Option.ite_none_right_eq_some.mp hwrites
        cases hvalue
        exact hmatched id rule hget hmatches hplace
    · have hnone : ∀ id rule, s.db.rules.get? id = some rule → rule.tenantId = tenantId →
          pushWrites rule (newUuid id) uuid = none := by
        intro id rule hget htenant
        by_contra hwrites
        obtain ⟨value, hvalue⟩ := Option.ne_none_iff_exists'.mp hwrites
        exact hwritten ⟨id, rule, value, hget, htenant, hvalue⟩
      rw [opnsense_applyAll_of_none hrun hnew hnone]
      refine opnsense_of_unwritten hrun hnew (fun id rule hget htenant _ =>
        hnone id rule hget htenant) fun id rule hget hmatches hsynced hplace heq => ?_
      rcases h.found id rule hget with ⟨-, hstatus⟩ | hiff
      · rw [hsynced] at hstatus
        cases hstatus
      · exact hremote (Or.inl ⟨id, rule, hget, hiff.mpr hmatches, Or.inl ⟨hplace, heq.symm⟩⟩)

/-- If the rules of the tunnel are removed and the other ones are left, the pattern finds them. -/
theorem findsExactly_of_removesExactly (h : RemovesExactly tenantId name owned run newUuid s) :
    FindsExactly tenantId name owned s := by
  have hfound : ∀ id rule, s.db.rules.get? id = some rule →
      rule.tenantId = tenantId ∧ rule.applyStatus = .pendingDelete ∨
        (owned.row id ↔ isTunnelRule tenantId name rule = true) := by
    intro id rule hget
    refine or_iff_not_imp_left.mpr fun hstays => ⟨fun hrow => ?_, fun hmatches => ?_⟩
    · -- A row that does not match would be left.
      by_contra hunmatched
      have hgone := h.rows id hrow
      rw [rules_destroyTunnel_applyAll hrun hnew, hget, Option.bind_some, if_neg hunmatched] at hgone
      exact hstays (appliedRow_eq_none_iff.mp hgone)
    · -- A row that matches would be gone.
      by_contra hrow
      have hsame := h.otherRows id hrow
      rw [rules_destroyTunnel_applyAll hrun hnew, rules_applyAll hrun hnew, hget, Option.bind_some,
        Option.bind_some, if_pos hmatches] at hsame
      exact hstays (appliedRow_eq_none_iff.mp hsame.symm)
  refine ⟨hfound, fun id rule hget hmatches hplace => ?_, fun uuid horphan hnone => ?_⟩
  · refine or_iff_not_imp_left.mpr fun hunsynced => ?_
    -- The row is forgotten, so that nothing is written under its uuid.
    have hleft : Table.get? ((s.destroyTunnel tenantId name).applyAll tenantId run
        newUuid).opnsense rule.uuid = Table.get? s.opnsense rule.uuid := by
      refine opnsense_of_unwritten hrun hnew (fun j rule' hj _ hunmatched => ?_)
        fun j rule' hj _ hsynced _ heq => ?_
      · by_contra hwritten
        obtain ⟨value, hwrites⟩ := Option.ne_none_iff_exists'.mp hwritten
        obtain rfl := eq_of_pushWrites_uuid hnew hget hj hwrites
        obtain rfl := Option.some.inj (hget.symm.trans hj)
        rw [hmatches] at hunmatched
        cases hunmatched
      · obtain rfl := s.db.eq_of_uuid hj hget heq
        obtain rfl := Option.some.inj (hget.symm.trans hj)
        exact hunsynced hsynced
    rw [← hleft]
    by_cases hrow : owned.row id
    · exact h.remote rule.uuid (Or.inl ⟨id, rule, hget, hrow, Or.inl ⟨hplace, rfl⟩⟩)
    · rw [h.otherRemote rule.uuid fun hremote => hrow (row_of_remote hnew hget hremote)]
      obtain ⟨htenant, hstatus⟩ := (hfound id rule hget).resolve_right fun hiff =>
        hrow (hiff.mpr hmatches)
      refine opnsense_applyAll_of_some hrun hnew hget htenant ?_
      rw [pushWrites, OPNsenseFirewallRule.work, hstatus]
      exact if_pos ⟨hplace, rfl⟩
  · by_cases hgiven : ∃ id rule, s.db.rules.get? id = some rule ∧ newUuid id = uuid
    · obtain ⟨id, rule, hget, rfl⟩ := hgiven
      exact (fresh_iff.mp (hnew.fresh id (Option.isSome_of_eq_some hget))).1
    · have hgone := h.remote uuid (Or.inr ⟨horphan, fun id rule hget =>
        ⟨hnone id rule hget, fun heq => hgiven ⟨id, rule, hget, heq⟩⟩⟩)
      rw [← hgone]
      symm
      refine opnsense_of_unwritten hrun hnew (fun id rule hget _ _ => ?_)
        fun id rule hget _ _ _ heq => hnone id rule hget heq
      by_contra hwritten
      obtain ⟨value, hwrites⟩ := Option.ne_none_iff_exists'.mp hwritten
      rcases uuid_of_pushWrites hwrites with heq | heq
      · exact hnone id rule hget heq.symm
      · exact hgiven ⟨id, rule, hget, heq.symm⟩

/-- The destruction of a tunnel and a complete apply run remove exactly the rules of the tunnel, and
leave the other ones as the apply run alone does, exactly when the pattern finds the rules of the
tunnel and no others, those that are on OPNsense are synced, and none is there without a row. -/
theorem removesExactly_iff (owned : TunnelOwned) :
    RemovesExactly tenantId name owned run newUuid s ↔ FindsExactly tenantId name owned s :=
  ⟨findsExactly_of_removesExactly hrun hnew, removesExactly_of_findsExactly hrun hnew⟩

end Removes

/-- A tunnel without networks. -/
def bareTunnel (tunnelId : ℕ) (name : String) (listenPort : ℕ) : TunnelRules where
  tunnelId
  name
  listenPort
  optInterface := "opt1"
  networks := []

/-- A tenant with a rule of its own and a tunnel. -/
def officeState : State :=
  newRuleState.tenantStep 1 (.provisionTunnel (bareTunnel 1 "office" 51820))

/-- The tenant has a second tunnel. -/
def officesState : State :=
  officeState.tenantStep 1 (.provisionTunnel (bareTunnel 2 "office-2" 51821))

/-- The rule of the first tunnel is the second row. -/
def officeOwned : TunnelOwned where
  row id := id = 2
  orphan _ := False

/-- Uuids that OPNsense gives. -/
def givenUuid : ℕ → String
  | 1 => "2c1e3a5e-8d2f-4c7b-9a65-1f0d3b7c9e42"
  | 2 => "6f0d2b94-37a1-4e58-8c1d-5a9e7b3f4d20"
  | _ => "b83c5e17-92d4-46fa-a07b-e4d61c8f2a35"

/-- The uuids are new for three rows. -/
theorem givesNew_givenUuid
    (hrows : ∀ i rule, s.db.rules.get? i = some rule → i ∈ [1, 2, 3])
    (hfresh : ∀ i ∈ [1, 2, 3], s.fresh (givenUuid i) = true) : GivesNew s givenUuid where
  different i j hi hj h := by
    have hinjective : ∀ i ∈ [1, 2, 3], ∀ j ∈ [1, 2, 3], givenUuid i = givenUuid j → i = j := by
      decide +kernel
    obtain ⟨rule, hrule⟩ := Option.isSome_iff_exists.mp hi
    obtain ⟨rule', hrule'⟩ := Option.isSome_iff_exists.mp hj
    exact hinjective i (hrows i rule hrule) j (hrows j rule' hrule') h
  fresh i hi := by
    obtain ⟨rule, hrule⟩ := Option.isSome_iff_exists.mp hi
    exact hfresh i (hrows i rule hrule)

/-- Without the second tunnel the destruction of the first one removes its rule. -/
theorem removesExactly_office :
    RemovesExactly 1 "office" officeOwned 0 givenUuid officeState ↔
      FindsExactly 1 "office" officeOwned officeState :=
  removesExactly_iff rfl (givesNew_givenUuid (Serial.forall_get?_iff.mpr (by decide +kernel) :
    ∀ i rule, officeState.db.rules.get? i = some rule → i ∈ [1, 2, 3]) (by decide +kernel)) _

/-- The rule of the second tunnel begins with the name of the first one, and is deleted with it. -/
theorem not_removesExactly :
    ¬ RemovesExactly 1 "office" officeOwned 0 givenUuid officesState := by
  intro h
  have hfinds := findsExactly_of_removesExactly rfl (givesNew_givenUuid
    (Serial.forall_get?_iff.mpr (by decide +kernel) :
      ∀ i rule, officesState.db.rules.get? i = some rule → i ∈ [1, 2, 3]) (by decide +kernel)) h
  have hthird : ∃ rule, officesState.db.rules.get? 3 = some rule ∧
      rule.applyStatus = .pending ∧ isTunnelRule 1 "office" rule = true :=
    ⟨(bareTunnel 2 "office-2" 51821).wanRule 1, by decide +kernel, rfl, by decide +kernel⟩
  obtain ⟨rule, hget, hpending, hmatches⟩ := hthird
  rcases hfinds.found 3 rule hget with ⟨-, hstatus⟩ | hiff
  · rw [hpending] at hstatus
    cases hstatus
  · exact absurd (hiff.mpr hmatches) (by decide : ¬ (3 = 2))

end ProxmoxIaas.Firewall
