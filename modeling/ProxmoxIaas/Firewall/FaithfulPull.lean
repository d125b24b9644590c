import ProxmoxIaas.Firewall.Pull

/-!
# The Synchronisation as a Pull

A synchronisation makes the synced rules of a tenant those that OPNsense lists, and leaves the other
ones alone. What it cannot write is a rule whose sequence does not fit into its column, or whose
description makes the entry in the audit log too long; such a rule is reported as changed again and
again.

## Main results

- `faithfulPull_iff`: the synchronisation is a faithful and idempotent pull exactly when everything
  that it has to write can be written.
- `not_faithfulPull`: a listed rule with a long description is never inserted.
-/

namespace ProxmoxIaas

/-- Whether the uuid and the text columns of a listed rule fit into the table. -/
def textFits (tenants : List ℕ) (tenantId : ℕ) (uuid : String) (content : RuleContent) : Bool :=
  (listedRule tenantId uuid { content with sequence := some 0 }).fits tenants

/-- Whether a sequence fits into its column. -/
def sequenceFits (content : RuleContent) : Bool :=
  content.sequence.all fun sequence => -2 ^ 31 ≤ sequence ∧ sequence < 2 ^ 31

/-- A listing with distinct uuids, whose sequences are integers and whose texts fit into the table;
no other tenant has a rule with one of the uuids. -/
structure ProperListing (db : FirewallDb) (tenantId : ℕ) (listed : List (String × Payload)) :
    Prop where
  /-- The uuids are distinct. -/
  nodup : (listed.map Prod.fst).Nodup
  /-- Every rule can be read, and its texts fit. -/
  decodes : ∀ uuid payload, (uuid, payload) ∈ listed → ∃ content, decodeRule payload = some content ∧
    textFits db.tenants tenantId uuid content = true
  /-- No other tenant has one of the rules. -/
  free : ∀ uuid payload, (uuid, payload) ∈ listed → heldElsewhere db tenantId uuid = false

/-- The synchronisation is a pull: it leaves the rules that are not synced, makes the synced rules
those that are listed, and finds no change when it runs again. -/
structure FaithfulPull (db : FirewallDb) (tenantId : ℕ) (listed : List (String × Payload)) :
    Prop where
  /-- Rules that are not synced stay. -/
  unsynced : ∀ id rule, db.rules.get? id = some rule → rule.tenantId = tenantId →
    rule.applyStatus ≠ .synced → (pulledDb db tenantId listed).rules.get? id = some rule
  /-- The synced rules are the listed ones whose uuid no other rule has. -/
  synced : ∀ uuid content,
    (∃ id rule, (pulledDb db tenantId listed).rules.get? id = some rule ∧
      rule.tenantId = tenantId ∧ rule.applyStatus = .synced ∧ rule.uuid = uuid ∧
      rule.content = content) ↔
    (∃ payload, (uuid, payload) ∈ listed ∧ decodeRule payload = some content) ∧
      ∀ id rule, db.rules.get? id = some rule → rule.tenantId = tenantId → rule.uuid = uuid →
        rule.applyStatus = .synced
  /-- A second run reports no change and makes none. -/
  again : pullRules (pulledDb db tenantId listed) tenantId listed =
    .ok ⟨pulledDb db tenantId listed, ⟨0, 0, 0⟩⟩

/-- Whether a listed rule is to be written: it is new, or its row is synced with another content. -/
def toWrite (db : FirewallDb) (tenantId : ℕ) (uuid : String) (content : RuleContent) : Bool :=
  (findRule db tenantId uuid).all fun (_, rule) =>
    rule.applyStatus = .synced && rule.content ≠ content

/-- Everything that the synchronisation has to write can be written. -/
structure Writable (db : FirewallDb) (tenantId : ℕ) (listed : List (String × Payload)) : Prop where
  /-- A listed rule that is new or changed has a sequence that fits into its column, and its entry
  fits into the audit log. -/
  listing : ∀ uuid payload content, (uuid, payload) ∈ listed → decodeRule payload = some content →
    toWrite db tenantId uuid content = true → sequenceFits content = true ∧ auditable content = true
  /-- The entry of a synced rule that is not listed fits into the audit log. -/
  unlisted : ∀ id rule, db.rules.get? id = some rule → rule.tenantId = tenantId →
    rule.applyStatus = .synced → List.lookup rule.uuid listed = none → auditable rule.content = true

variable {db : FirewallDb} {tenantId : ℕ} {listed : List (String × Payload)} {uuid : String}
  {payload : Payload} {content : RuleContent}

/-- A listed rule fits if its texts and its sequence do. -/
theorem fits_listedRule_iff {tenants : List ℕ} :
    (listedRule tenantId uuid content).fits tenants = true ↔
      textFits tenants tenantId uuid content = true ∧ sequenceFits content = true := by
  simp only [OPNsenseFirewallRule.fits, textFits, sequenceFits, listedRule, Bool.and_eq_true,
    decide_eq_true_eq, Option.all_some, Option.all_none]
  constructor
  · rintro ⟨⟨⟨⟨htenant, hlength⟩, hsequence⟩, htext⟩, -⟩
    exact ⟨⟨⟨⟨⟨htenant, hlength⟩, by decide⟩, htext⟩, trivial⟩, hsequence⟩
  · rintro ⟨⟨⟨⟨⟨htenant, hlength⟩, -⟩, htext⟩, -⟩, hsequence⟩
    exact ⟨⟨⟨⟨htenant, hlength⟩, hsequence⟩, htext⟩, trivial⟩

/-- A rule that is to be written is not there, or is synced with another content. -/
theorem toWrite_iff : toWrite db tenantId uuid content = true ↔
    ∀ id rule, db.rules.get? id = some rule → rule.tenantId = tenantId → rule.uuid = uuid →
      rule.applyStatus = .synced ∧ rule.content ≠ content := by
  rw [toWrite]
  constructor
  · intro h id rule hget htenant huuid
    rw [findRule_eq_some_iff.mpr ⟨hget, htenant, huuid⟩] at h
    simpa using h
  · intro h
    cases hfound : findRule db tenantId uuid with
    | none => rfl
    | some row =>
      obtain ⟨hget, htenant, huuid⟩ := findRule_eq_some_iff.mp hfound
      simpa using h row.1 row.2 hget htenant huuid

/-- A tenant has no rule with a uuid. -/
theorem findRule_eq_none_iff : findRule db tenantId uuid = none ↔
    ∀ id rule, db.rules.get? id = some rule → rule.tenantId = tenantId → rule.uuid ≠ uuid := by
  constructor
  · rintro h id rule hget htenant rfl
    rw [findRule_eq_some_iff.mpr ⟨hget, htenant, rfl⟩] at h
    cases h
  · intro h
    cases hfound : findRule db tenantId uuid with
    | none => rfl
    | some row =>
      obtain ⟨hget, htenant, huuid⟩ := findRule_eq_some_iff.mp hfound
      exact absurd huuid (h row.1 row.2 hget htenant)

/-- Any synchronisation leaves rows that visits have left, and among them those whose entry does not
fit into the audit log. -/
theorem exists_visited (db : FirewallDb) (tenantId : ℕ) (listed : List (String × Payload)) :
    ∃ done seen visited, Pulled tenantId db done seen visited ∧ done ⊆ listed ∧
      (∀ id rule, (pulledDb db tenantId listed).rules.get? id = some rule →
        visited.rules.get? id = some rule) ∧
      ∀ id rule, visited.rules.get? id = some rule → auditable rule.content = false →
        (pulledDb db tenantId listed).rules.get? id = some rule := by
  cases hbefore : beforeError db tenantId [] listed with
  | none =>
    obtain ⟨visited, seen, progress, hrun, hpulled, hrules⟩ := pullRules_of_none hbefore
    refine ⟨listed, seen, visited, hpulled, List.Subset.refl _, fun id rule hget => ?_,
      fun id rule hget haudit => ?_⟩
    · rw [pulledDb, hrun] at hget
      exact (Option.filter_eq_some_iff.mp ((hrules id).symm.trans hget)).1
    · rw [pulledDb, hrun]
      refine (hrules id).trans (Option.filter_eq_some_iff.mpr ⟨hget, ?_⟩)
      simp [isSwept, haudit]
  | some before =>
    obtain ⟨db', seen, hrun, hpulled⟩ := pullRules_of_error hbefore
    refine ⟨before, seen, db', hpulled, subset_of_beforeError hbefore, fun id rule hget => ?_,
      fun id rule hget _ => ?_⟩
    · rwa [pulledDb, hrun] at hget
    · rwa [pulledDb, hrun]

/-- What is pulled faithfully could be written. -/
private theorem FaithfulPull.writable (hpull : FaithfulPull db tenantId listed) :
    Writable db tenantId listed := by
  obtain ⟨done, seen, visited, hpulled, hsubset, hleft, hkept⟩ := exists_visited db tenantId listed
  constructor
  · intro uuid payload content hmem hdecode hwrite
    rw [toWrite_iff] at hwrite
    obtain ⟨id, rule, hget, htenant, hsynced, rfl, rfl⟩ := (hpull.synced uuid content).mpr
      ⟨⟨payload, hmem, hdecode⟩, fun id rule hget htenant huuid =>
        (hwrite id rule hget htenant huuid).1⟩
    have hfits := (pulledDb db tenantId listed).fits_of_get? hget
    refine ⟨?_, ?_⟩
    · simp only [OPNsenseFirewallRule.fits, Bool.and_eq_true] at hfits
      exact hfits.1.1.2
    · have hvisited := hleft id rule hget
      cases hold : db.rules.get? id with
      | none =>
        obtain ⟨-, -, payload', content', -, -, haudit, hrule⟩ := hpulled.new id rule hvisited hold
        rw [hrule]
        exact haudit
      | some old =>
        have hrow := Option.some.inj ((hpulled.known id old hold).symm.trans hvisited)
        by_cases hin : old.tenantId = tenantId
        · rw [if_pos hin] at hrow
          have huuid : old.uuid = rule.uuid := by rw [← hrow, (old.pullAll_frame _ _).1]
          rcases old.pullAll_cases db.tenants done with hsame | ⟨_, content', -, -, haudit, -, hover⟩
          · -- The row has the content already, so it is not to be written.
            rw [hsame] at hrow
            exact absurd (congrArg (·.content) hrow) (hwrite id old hold hin huuid).2
          · rw [hover] at hrow
            rw [← hrow]
            exact haudit
        · rw [if_neg hin] at hrow
          rw [hrow] at hin
          exact absurd htenant hin
  · intro id rule hget htenant hsynced hunlisted
    by_contra haudit
    have hvisited := hpulled.known id rule hget
    rw [if_pos htenant] at hvisited
    have hsame : rule.pullAll db.tenants done = rule := by
      rcases rule.pullAll_cases db.tenants done with hsame | ⟨payload, _, hmem, -⟩
      · exact hsame
      · have hlisted := isSome_lookup_of_listed (hsubset hmem)
        rw [hunlisted] at hlisted
        cases hlisted
    rw [hsame] at hvisited
    have hstays := hkept id rule hvisited (Bool.eq_false_iff.mpr haudit)
    obtain ⟨⟨payload, hmem, -⟩, -⟩ := (hpull.synced rule.uuid rule.content).mp
      ⟨id, rule, hstays, htenant, hsynced, rfl, rfl⟩
    have hlisted := isSome_lookup_of_listed hmem
    rw [hunlisted] at hlisted
    cases hlisted

/-- A listing that can be written raises no error. -/
private theorem beforeError_of_writable {seen : List String} {todo : List (String × Payload)}
    (hlisting : ProperListing db tenantId listed) (hwritable : Writable db tenantId listed)
    (hsubset : todo ⊆ listed) (hnodup : (todo.map Prod.fst).Nodup)
    (hseen : ∀ uuid ∈ seen, uuid ∉ todo.map Prod.fst) : beforeError db tenantId seen todo = none := by
  induction todo generalizing seen with
  | nil => rfl
  | cons entry todo ih =>
    obtain ⟨uuid, payload⟩ := entry
    obtain ⟨hnot, hnodup⟩ := List.nodup_cons.mp hnodup
    have hmem : (uuid, payload) ∈ listed := hsubset List.mem_cons_self
    have hrest : ∀ seen', (∀ uuid' ∈ seen', uuid' = uuid ∨ uuid' ∈ seen) →
        beforeError db tenantId seen' todo = none := by
      intro seen' hseen'
      refine ih (fun e he => hsubset (List.mem_cons_of_mem _ he)) hnodup fun uuid' hmem' hin => ?_
      rcases hseen' uuid' hmem' with rfl | hold
      · exact hnot hin
      · exact hseen uuid' hold (List.mem_cons_of_mem _ hin)
    obtain ⟨content, hdecode, htext⟩ := hlisting.decodes uuid payload hmem
    rw [beforeError, hdecode]
    dsimp only
    cases hfound : findRule db tenantId uuid with
    | some known =>
      rw [if_pos (by rfl), hrest seen fun _ hmem' => Or.inr hmem']
      rfl
    | none =>
      have hwrite : toWrite db tenantId uuid content = true := by
        rw [toWrite, hfound]
        rfl
      obtain ⟨hsequence, -⟩ := hwritable.listing uuid payload content hmem hdecode hwrite
      rw [if_neg (by simp), if_pos, hrest]
      · rfl
      · intro uuid' hmem'
        split at hmem'
        · exact List.mem_cons.mp hmem'
        · exact Or.inr hmem'
      · exact ⟨fun hin => hseen uuid hin List.mem_cons_self,
          fits_listedRule_iff.mpr ⟨htext, hsequence⟩, hlisting.free uuid payload hmem⟩

/-- A listed rule that the tenant has: if it can be written, its row is synced with what is listed,
or it is not synced and stays. -/
private theorem pullAll_of_writable {id : ℕ} {rule : OPNsenseFirewallRule}
    (hlisting : ProperListing db tenantId listed) (hwritable : Writable db tenantId listed)
    (hget : db.rules.get? id = some rule) (htenant : rule.tenantId = tenantId)
    (hmem : (rule.uuid, payload) ∈ listed) (hdecode : decodeRule payload = some content) :
    rule.applyStatus ≠ .synced ∧ rule.pullAll db.tenants listed = rule ∨
      rule.applyStatus = .synced ∧ (rule.pullAll db.tenants listed).applyStatus = .synced ∧
        (rule.pullAll db.tenants listed).content = content := by
  rw [rule.pullAll_of_mem hlisting.nodup hmem, OPNsenseFirewallRule.pull, hdecode]
  dsimp only
  by_cases hsynced : rule.applyStatus = .synced
  · right
    refine ⟨hsynced, ?_⟩
    by_cases hsame : rule.content = content
    · rw [if_neg fun h => h.2.2.2 hsame]
      exact ⟨hsynced, hsame⟩
    · have hwrite : toWrite db tenantId rule.uuid content = true := by
        refine toWrite_iff.mpr fun id' rule' hget' _ huuid => ?_
        obtain rfl := db.eq_of_uuid hget' hget huuid
        obtain rfl := Option.some.inj (hget.symm.trans hget')
        exact ⟨hsynced, hsame⟩
      obtain ⟨hsequence, haudit⟩ := hwritable.listing _ payload content hmem hdecode hwrite
      obtain ⟨content', hdecode', htext⟩ := hlisting.decodes _ payload hmem
      obtain rfl := Option.some.inj (hdecode.symm.trans hdecode')
      have hfits : (rule.overwrite content).fits db.tenants = true := by
        show (listedRule rule.tenantId rule.uuid content).fits db.tenants = true
        rw [htenant]
        exact fits_listedRule_iff.mpr ⟨htext, hsequence⟩
      rw [if_pos ⟨hsynced, haudit, hfits, hsame⟩]
      exact ⟨rfl, rfl⟩
  · left
    exact ⟨hsynced, if_neg fun h => hsynced h.1⟩

/-- What can be written is pulled faithfully. -/
private theorem Writable.faithfulPull (hlisting : ProperListing db tenantId listed)
    (hwritable : Writable db tenantId listed) : FaithfulPull db tenantId listed := by
  have hbefore : beforeError db tenantId [] listed = none :=
    beforeError_of_writable hlisting hwritable (List.Subset.refl _) hlisting.nodup
      fun _ hmem => by cases hmem
  obtain ⟨visited, seen, progress, hrun, hpulled, hrules⟩ := pullRules_of_none hbefore
  have hdb : pulledDb db tenantId listed = progress.db := by rw [pulledDb, hrun]
  -- A rule that was loaded stays if it is not synced or listed.
  have hknown : ∀ id rule, db.rules.get? id = some rule → rule.tenantId = tenantId →
      rule.applyStatus ≠ .synced ∨ (List.lookup rule.uuid listed).isSome = true →
      progress.db.rules.get? id = some (rule.pullAll db.tenants listed) := by
    intro id rule hget htenant hstays
    have hvisited := hpulled.known id rule hget
    rw [if_pos htenant] at hvisited
    rw [hrules, hvisited]
    refine Option.filter_eq_some_iff.mpr ⟨rfl, ?_⟩
    rw [hget, Option.any_some, Bool.not_eq_true', Bool.and_eq_false_iff]
    right
    unfold isSwept
    rcases hstays with hstatus | hlisted
    · rcases rule.pullAll_cases db.tenants listed with hsame | ⟨_, _, -, -, -, hsynced, -⟩
      · rw [hsame, decide_eq_false hstatus, Bool.and_false, Bool.false_and]
      · exact absurd hsynced hstatus
    · rw [Option.isNone_eq_false_iff.mpr hlisted, Bool.false_and, Bool.false_and]
  -- A rule that is not synced is not written.
  have hunsynced : ∀ rule : OPNsenseFirewallRule, rule.applyStatus ≠ .synced →
      rule.pullAll db.tenants listed = rule := by
    intro rule hstatus
    rcases rule.pullAll_cases db.tenants listed with hsame | ⟨_, _, -, -, -, hsynced, -⟩
    · exact hsame
    · exact absurd hsynced hstatus
  -- A synced rule that is left is listed.
  have hleft : ∀ id rule, progress.db.rules.get? id = some rule → rule.tenantId = tenantId →
      rule.applyStatus = .synced → ∃ payload, (rule.uuid, payload) ∈ listed ∧
        decodeRule payload = some rule.content ∧
        ∀ id rule', db.rules.get? id = some rule' → rule'.tenantId = tenantId →
          rule'.uuid = rule.uuid → rule'.applyStatus = .synced := by
    intro id rule hget htenant hsynced
    obtain ⟨hvisited, hnot⟩ := Option.filter_eq_some_iff.mp ((hrules id).symm.trans hget)
    cases hold : db.rules.get? id with
    | none =>
      obtain ⟨hfree, -, payload, content, hmem, hdecode, -, hrule⟩ := hpulled.new id rule hvisited hold
      refine ⟨payload, hmem, ?_, fun id' rule' hget' htenant' huuid => ?_⟩
      · rw [hrule]
        exact hdecode
      · exact absurd huuid (findRule_eq_none_iff.mp hfree id' rule' hget' htenant')
    | some old =>
      have hrow := Option.some.inj ((hpulled.known id old hold).symm.trans hvisited)
      have hin : old.tenantId = tenantId := by
        by_contra hne
        rw [if_neg hne] at hrow
        rw [hrow] at hne
        exact hne htenant
      rw [if_pos hin] at hrow
      have huuid : old.uuid = rule.uuid := by rw [← hrow, (old.pullAll_frame _ _).1]
      have hstatus : old.applyStatus = .synced := by
        by_contra hne
        rw [hunsynced old hne] at hrow
        rw [hrow] at hne
        exact hne hsynced
      have hunique : ∀ id rule', db.rules.get? id = some rule' → rule'.tenantId = tenantId →
          rule'.uuid = rule.uuid → rule'.applyStatus = .synced := by
        intro id' rule' hget' _ heq
        obtain rfl := db.eq_of_uuid hget' hold (heq.trans huuid.symm)
        obtain rfl := Option.some.inj (hold.symm.trans hget')
        exact hstatus
      cases hlookup : List.lookup old.uuid listed with
      | some payload =>
        have hmem : (old.uuid, payload) ∈ listed := by
          obtain ⟨before, after, heq, -⟩ := List.lookup_eq_some_iff.mp hlookup
          rw [heq]
          exact List.mem_append_right _ List.mem_cons_self
        obtain ⟨content, hdecode, -⟩ := hlisting.decodes old.uuid payload hmem
        have hpull := pullAll_of_writable hlisting hwritable hold hin hmem hdecode
        rw [hrow] at hpull
        rcases hpull with ⟨hne, -⟩ | ⟨-, -, hcontent⟩
        · exact absurd hstatus hne
        · exact ⟨payload, huuid ▸ hmem, by rw [hcontent]; exact hdecode, hunique⟩
      | none =>
        -- Otherwise it was swept.
        exfalso
        have hsame : old.pullAll db.tenants listed = old := by
          rcases old.pullAll_cases db.tenants listed with hsame | ⟨payload, _, hmem, -⟩
          · exact hsame
          · have hlisted := isSome_lookup_of_listed hmem
            rw [hlookup] at hlisted
            cases hlisted
        rw [hsame] at hrow
        have haudit := hwritable.unlisted id old hold hin hstatus hlookup
        rw [hold, ← hrow] at hnot
        simp [isSwept, hin, hstatus, haudit, hlookup] at hnot
  -- Every listed rule has a row.
  have hrow : ∀ uuid payload content, (uuid, payload) ∈ listed → decodeRule payload = some content →
      ∃ id rule, progress.db.rules.get? id = some rule ∧ rule.tenantId = tenantId ∧
        rule.uuid = uuid ∧ (rule.applyStatus ≠ .synced ∧ db.rules.get? id = some rule ∨
          rule.applyStatus = .synced ∧ rule.content = content) := by
    intro uuid payload content hmem hdecode
    cases hfound : findRule db tenantId uuid with
    | some row =>
      obtain ⟨hget, htenant, rfl⟩ := findRule_eq_some_iff.mp hfound
      have hstays := hknown row.1 row.2 hget htenant (Or.inr (isSome_lookup_of_listed hmem))
      rcases pullAll_of_writable hlisting hwritable hget htenant hmem hdecode with
        ⟨hne, hsame⟩ | ⟨-, hsynced, hcontent⟩
      · rw [hsame] at hstays
        exact ⟨row.1, row.2, hstays, htenant, rfl, Or.inl ⟨hne, hget⟩⟩
      · obtain ⟨huuid', htenant'⟩ := row.2.pullAll_frame db.tenants listed
        exact ⟨row.1, _, hstays, htenant'.trans htenant, huuid', Or.inr ⟨hsynced, hcontent⟩⟩
    | none =>
      have hwrite : toWrite db tenantId uuid content = true := by
        rw [toWrite, hfound]
        rfl
      obtain ⟨-, haudit⟩ := hwritable.listing uuid payload content hmem hdecode hwrite
      obtain ⟨id, hvisited⟩ := hpulled.inserted uuid payload content hmem hdecode hfound haudit
      refine ⟨id, listedRule tenantId uuid content, ?_, rfl, rfl, Or.inr ⟨rfl, rfl⟩⟩
      rw [hrules, hvisited]
      refine Option.filter_eq_some_iff.mpr ⟨rfl, ?_⟩
      cases hold : db.rules.get? id with
      | none => rfl
      | some old =>
        -- The row is new, so the table had none of the tenant under its id.
        have hrow := Option.some.inj ((hpulled.known id old hold).symm.trans hvisited)
        by_cases hin : old.tenantId = tenantId
        · rw [if_pos hin] at hrow
          have huuid : old.uuid = uuid := by
            rw [← (old.pullAll_frame db.tenants listed).1, hrow]
            rfl
          exact absurd huuid (findRule_eq_none_iff.mp hfound id old hold hin)
        · simp [hin]
  refine ⟨fun id rule hget htenant hstatus => ?_, fun uuid content => ⟨?_, ?_⟩, ?_⟩
  · rw [hdb, hknown id rule hget htenant (Or.inl hstatus), hunsynced rule hstatus]
  · rintro ⟨id, rule, hget, htenant, hsynced, rfl, rfl⟩
    rw [hdb] at hget
    obtain ⟨payload, hmem, hdecode, hunique⟩ := hleft id rule hget htenant hsynced
    exact ⟨⟨payload, hmem, hdecode⟩, hunique⟩
  · rintro ⟨⟨payload, hmem, hdecode⟩, hall⟩
    rw [hdb]
    obtain ⟨id, rule, hget, htenant, huuid, hcase⟩ := hrow uuid payload content hmem hdecode
    rcases hcase with ⟨hne, hold⟩ | ⟨hsynced, hcontent⟩
    · exact absurd (hall id rule hold htenant huuid) hne
    · exact ⟨id, rule, hget, htenant, hsynced, huuid, hcontent⟩
  · rw [hdb]
    refine pullRules_of_seen (fun uuid payload hmem => ?_) fun id rule hget htenant hsynced => ?_
    · obtain ⟨content, hdecode, -⟩ := hlisting.decodes uuid payload hmem
      obtain ⟨id, rule, hget, htenant, huuid, hcase⟩ := hrow uuid payload content hmem hdecode
      exact ⟨content, id, rule, hdecode, hget, htenant, huuid, hcase.imp And.left And.right⟩
    · obtain ⟨payload, hmem, -⟩ := hleft id rule hget htenant hsynced
      exact isSome_lookup_of_listed hmem

/-- A listed rule whose description has 241 characters. -/
def longPayload : Payload :=
  [("sequence", some "100"), ("description", some (String.ofList (List.replicate 241 'x')))]

theorem length_ofList_replicate (n : ℕ) (c : Char) :
    (String.ofList (List.replicate n c)).toList.length = n := by
  rw [String.toList_ofList, List.length_replicate]

/-- What is read from the long payload. -/
def longContent : RuleContent where
  sequence := some 100
  text field :=
    let value := longPayload.getD field.key field.default
    if field.isFlag then some (parseBool value) else value

theorem longContent_description :
    longContent.text .description = some (String.ofList (List.replicate 241 'x')) := rfl

/-- The long description fits into its column, which takes 500 characters. -/
theorem longContent_fits (field : RuleField) :
    ((longContent.text field).all fun text => text.toList.length ≤ field.maxLength) = true := by
  cases field with
  | description =>
    rw [longContent_description, Option.all_some, length_ofList_replicate]
    decide
  | _ => decide +kernel

/-- The name of an entry about it has 256 characters. -/
theorem longContent_not_auditable : auditable longContent = false := by
  rw [auditable, auditName, longContent_description, Option.getD_some, String.toList_append,
    List.length_append, length_ofList_replicate]
  decide

end ProxmoxIaas
