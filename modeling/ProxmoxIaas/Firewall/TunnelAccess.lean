import ProxmoxIaas.Firewall.Order
import ProxmoxIaas.Firewall.TunnelDestruction
import ProxmoxIaas.WireGuard.Tunnels

/-!
# The Access List of a Tunnel

`update_tunnel` replaces the networks that the clients of a tunnel may reach. It compares the new
list with the stored one, and finds the rules of the networks that are taken out or put in by their
descriptions, which are made of the names of the tunnel and of the network.

The queries of the request read what is committed: a row that the request has marked or inserted is
looked up as before. A row that is found a second time is the object that was marked.

## Main results

- `select_applyAll`: which rules a complete apply run leaves on OPNsense.
- `edits_eq`: what the request does to a row depends on how often its lookups find it.
- `grantsExactly_iff`: the access list converges exactly when the rules that stay on OPNsense, or
  wait to be pushed, are those of the wanted networks for which no rule is inserted.
-/

namespace ProxmoxIaas

/-- The body of a request to update a tunnel, after its validation. -/
structure WireGuardTunnelUpdate where
  /-- Display name. -/
  name : Option String
  /-- MTU. -/
  mtu : Option ℕ
  /-- Name servers of the clients. -/
  dns : Option String
  /-- Public address of the server. -/
  endpoint : Option String
  /-- Default keepalive of the peers. -/
  peerKeepalive : Option ℕ
  /-- The networks that the peers may reach. -/
  allowedNetworkIds : Option (List ℕ)
  deriving DecidableEq, Repr

/-- Assign the fields of a body that are given. -/
def Tunnel.assign (body : WireGuardTunnelUpdate) (tunnel : Tunnel) : Tunnel :=
  { tunnel with
    name := body.name.getD tunnel.name
    mtu := body.mtu <|> tunnel.mtu
    dns := body.dns <|> tunnel.dns
    endpoint := body.endpoint <|> tunnel.endpoint
    peerKeepalive := body.peerKeepalive <|> tunnel.peerKeepalive }

/-- Write a tunnel. Names are unique within a tenant, and texts have a limited length. -/
def saveTunnel? (tunnels : Serial Tunnel) (tunnelId : ℕ) (tunnel : Tunnel) :
    Option (Serial Tunnel) := do
  Option.require ((tunnels.first? fun id other => id ≠ tunnelId ∧
    other.tenantId = tunnel.tenantId ∧ other.name = tunnel.name) = none)
  Option.require (tunnel.name.toList.length ≤ 100 ∧
    tunnel.dns.all (·.toList.length ≤ 200) ∧ tunnel.endpoint.all (·.toList.length ≤ 200))
  return tunnels.modify tunnelId fun _ => tunnel

namespace Firewall

/-- The rules of a tenant, its tunnels and its networks. -/
structure AccessState where
  /-- The rules. -/
  firewall : State
  /-- Table `wireguard_tunnels`. -/
  tunnels : Serial Tunnel
  /-- Table `tenant_networks`. -/
  networks : Serial TenantNetwork
  /-- The subnet of a network comes from a pool. -/
  cidr_ne_empty : ∀ id network, networks.get? id = some network → network.cidr ≠ ""

/-! ## The request -/

/-- The description of the rule that lets the clients of a tunnel reach a network. -/
def accessDescription (tunnel network : String) : String :=
  "WireGuard " ++ tunnel ++ " -> " ++ network

/-- The rule of a tenant with a description. -/
def findDescription (db : FirewallDb) (tenantId : ℕ) (description : String) :
    Option (ℕ × OPNsenseFirewallRule) :=
  db.rules.first? fun _ rule =>
    rule.tenantId = tenantId ∧ rule.content.text .description = some description

/-- The active networks of a tenant among some ids. -/
def validNetworks (networks : Serial TenantNetwork) (tenantId : ℕ) (ids : List ℕ) :
    List (ℕ × TenantNetwork) :=
  networks.select fun id network =>
    network.tenantId = tenantId ∧ id ∈ ids ∧ network.status = .active

/-- The networks that are taken out of the access list, whatever their status is. -/
def removedNetworks (networks : Serial TenantNetwork) (tenantId : ℕ) (oldIds newIds : List ℕ) :
    List TenantNetwork :=
  (oldIds.dedup.filter (· ∉ newIds)).filterMap fun id =>
    (networks.get? id).filter (·.tenantId = tenantId)

/-- What a request does to a row. -/
inductive RuleEdit where
  /-- It is to be deleted on OPNsense. -/
  | mark
  /-- It is deleted. -/
  | delete
  deriving DecidableEq, Repr

/-- A network is taken out: its rule is marked if it is synced, and deleted otherwise. -/
def removeNetwork (db : FirewallDb) (tenantId : ℕ) (name : String) (edits : ℕ → Option RuleEdit)
    (network : TenantNetwork) : ℕ → Option RuleEdit :=
  match findDescription db tenantId (accessDescription name network.name) with
  | none => edits
  | some (id, rule) =>
    -- A row that was marked is not synced any more.
    Function.update edits id <| some <|
      if rule.applyStatus = .synced ∧ edits id = none then .mark else .delete

/-- What a request does to the rows of the networks that are taken out. -/
def edits (db : FirewallDb) (tenantId : ℕ) (name : String) (removed : List TenantNetwork) :
    ℕ → Option RuleEdit :=
  removed.foldl (removeNetwork db tenantId name) fun _ => none

/-- The sequence of a new rule: that after the largest one of the tenant. Zero counts as absent. -/
def accessSequence (db : FirewallDb) (tenantId : ℕ) : ℤ :=
  let sequences := (db.rules.select fun _ rule => rule.tenantId = tenantId).filterMap
    (·.2.content.sequence)
  (sequences.max?.filter (· ≠ 0)).getD 200 + 1

/-- The rule that is inserted for a network. -/
def accessRule (db : FirewallDb) (tenantId tunnelId : ℕ) (name interface : String)
    (network : ℕ × TenantNetwork) : OPNsenseFirewallRule where
  tenantId
  uuid := "pending-wg-" ++ toString tunnelId ++ "-net-" ++ toString network.1
  content := TunnelRules.content (accessSequence db tenantId)
    (accessDescription name network.2.name) interface "any" network.2.cidr ""
  applyStatus := .pending
  applyError := none

/-- Of the networks that are put into the access list, in the order of their ids, those without a
rule. -/
def insertedNetworks (db : FirewallDb) (tenantId : ℕ) (name : String) (oldIds : List ℕ)
    (valid : List (ℕ × TenantNetwork)) : List (ℕ × TenantNetwork) :=
  ((valid.filter fun network => network.1 ∉ oldIds).insertionSort fun a b => a.1 ≤ b.1).filter
    fun network => (findDescription db tenantId (accessDescription name network.2.name)).isNone

/-- Mark a row, if the request does. -/
def markRow (edits : ℕ → Option RuleEdit) (id : ℕ) (rule : OPNsenseFirewallRule) :
    OPNsenseFirewallRule :=
  if edits id = some .mark then { rule with applyStatus := .pendingDelete } else rule

/-- The commit of the changes to the rules: rows are inserted before others are deleted. -/
def saveAccess? (db : FirewallDb) (edits : ℕ → Option RuleEdit)
    (inserted : List OPNsenseFirewallRule) : Option FirewallDb :=
  (db.save? (inserted.foldl Serial.add (db.rules.mapRows (markRow edits)))).map fun db =>
    db.deleteWhere fun id _ => edits id = some .delete

/-- Replace the access list of a tunnel. -/
def replaceAccess (db : FirewallDb) (networks : Serial TenantNetwork) (tenantId tunnelId : ℕ)
    (name interface : String) (oldIds newIds : List ℕ) : Except ApiError FirewallDb := do
  let valid := validNetworks networks tenantId newIds
  let invalidIds := (newIds.filter (· ∉ valid.map (·.1))).dedup
  Except.require
    (.http 400 s!"Invalid or inactive network IDs: {invalidIds.insertionSort (· ≤ ·)}")
    (invalidIds = [])
  let removed := removedNetworks networks tenantId oldIds newIds
  let inserted := insertedNetworks db tenantId name oldIds valid
  Except.ofOption integrityError <| saveAccess? db (edits db tenantId name removed)
    (inserted.map (accessRule db tenantId tunnelId name interface))

/-- `update_tunnel`, for a user who may update tunnels. The access list of a tunnel without an
interface is left as it is. -/
def updateTunnel (s : AccessState) (tenantId tunnelId : ℕ) (body : WireGuardTunnelUpdate) :
    Except ApiError AccessState := do
  let stored ← Except.ofOption (.http 404 "Tunnel not found")
    ((s.tunnels.get? tunnelId).filter (·.tenantId = tenantId))
  let tunnel := stored.assign body
  match body.allowedNetworkIds, truthyText tunnel.optInterface with
  | some newIds, some interface =>
    let db ← replaceAccess s.firewall.db s.networks tenantId tunnelId tunnel.name interface
      tunnel.allowedNetworkIds newIds
    let tunnels ← Except.ofOption integrityError <| saveTunnel? s.tunnels tunnelId
      { tunnel with allowedNetworkIds := newIds.dedup.insertionSort (· ≤ ·) }
    return { s with firewall := { s.firewall with db }, tunnels }
  | _, _ =>
    let tunnels ← Except.ofOption integrityError (saveTunnel? s.tunnels tunnelId tunnel)
    return { s with tunnels }

/-! ## Histories -/

/-- What can happen to the access list of a tunnel. A rename is an update, and the steps of apply
runs are steps of the rules. -/
inductive AccessEvent where
  /-- `update_tunnel`. -/
  | updateTunnel (tunnelId : ℕ) (body : WireGuardTunnelUpdate)
  /-- A step of the endpoints and tasks for rules, or a task for tunnels. -/
  | rules (e : TenantEvent)

namespace AccessState

/-- The state after a step. A request that fails changes nothing. -/
def step (tenantId : ℕ) (s : AccessState) : AccessEvent → AccessState
  | .updateTunnel tunnelId body =>
    match Firewall.updateTunnel s tenantId tunnelId body with
    | .ok after => after
    | .error _ => s
  | .rules e => { s with firewall := s.firewall.tenantStep tenantId e }

/-- The state after a history. -/
def after (tenantId : ℕ) (s : AccessState) (history : List AccessEvent) : AccessState :=
  history.foldl (step tenantId) s

/-- The state after a complete apply run. -/
def applyAll (s : AccessState) (tenantId run : ℕ) (newUuid : ℕ → String) : AccessState :=
  { s with firewall := s.firewall.applyAll tenantId run newUuid }

end AccessState

/-- Whether a rule is an enabled pass rule on an interface. -/
def passesOn (interface : String) (payload : Payload) : Bool :=
  List.lookup "enabled" payload = some (some "1") ∧ List.lookup "action" payload = some (some "pass") ∧
    List.lookup "interface" payload = some (some interface)

/-- The destination of a rule. -/
def destinationOf (payload : Payload) : Option String := (List.lookup "destination_net" payload).join

/-- The destinations of the enabled pass rules on an interface. -/
def accessOn (interface : String) (opnsense : Opnsense) : List (Option String) :=
  (opnsense.select fun _ payload => passesOn interface payload).map fun rule => destinationOf rule.2

/-- The destinations of the enabled pass rules of a tunnel on OPNsense. -/
def accessOf (tunnel : Tunnel) (opnsense : Opnsense) : List (Option String) :=
  match truthyText tunnel.optInterface with
  | some interface => accessOn interface opnsense
  | none => []

/-- The enabled pass rules of a tunnel on OPNsense are exactly one for each active network of the
tenant in a list, with the subnet of the network as their destination. -/
def GrantsExactly (tenantId tunnelId : ℕ) (ids : List ℕ) (s : AccessState) : Prop :=
  ∃ tunnel, s.tunnels.get? tunnelId = some tunnel ∧
    (accessOf tunnel s.firewall.opnsense).Perm
      ((validNetworks s.networks tenantId ids).map fun network => some network.2.cidr)

/-! ### What the request relies on -/

/-- The rows that the request finds for the networks that are taken out, as often as it finds
them. -/
def foundIds (db : FirewallDb) (tenantId : ℕ) (name : String) (removed : List TenantNetwork) :
    List ℕ :=
  removed.filterMap fun network =>
    (findDescription db tenantId (accessDescription name network.name)).map Prod.fst

/-- Whether an apply run after the request writes a rule of OPNsense: that of a row which is pushed
anyway and not found, or of one that is synced and found once. -/
def overwritten (db : FirewallDb) (tenantId : ℕ) (found : List ℕ) (uuid : String) : Bool :=
  (db.rules.first? fun id rule => rule.tenantId = tenantId ∧ isPlaceholder rule.uuid = false ∧
    rule.uuid = uuid ∧ if id ∈ found then rule.applyStatus = .synced ∧ found.count id = 1
      else rule.work.isSome = true).isSome

/-- The destinations of the rules that stay on OPNsense. -/
def staying (s : State) (tenantId : ℕ) (interface : String) (found : List ℕ) :
    List (Option String) :=
  (s.opnsense.select fun uuid payload =>
    passesOn interface payload && !overwritten s.db tenantId found uuid).map
      fun rule => destinationOf rule.2

/-- The destinations of the rows that wait to be pushed, and are not found. -/
def waiting (db : FirewallDb) (tenantId : ℕ) (interface : String) (found : List ℕ) :
    List (Option String) :=
  (db.rules.select fun id rule => rule.tenantId = tenantId ∧ rule.applyStatus = .pending ∧
    id ∉ found ∧ passesOn interface rule.payload = true).map fun row => destinationOf row.2.payload

/-- The wanted networks for which no rule is inserted: they were in the access list, or there is
a row with their description. -/
def keptNetworks (db : FirewallDb) (networks : Serial TenantNetwork) (tenantId : ℕ) (name : String)
    (oldIds ids : List ℕ) : List (ℕ × TenantNetwork) :=
  (validNetworks networks tenantId ids).filter fun network => network.1 ∈ oldIds ∨
    (findDescription db tenantId (accessDescription name network.2.name)).isSome

/-- The rules that stay on OPNsense, or wait to be pushed, are exactly those of the wanted networks
for which no rule is inserted. A tunnel without an interface has no rules. -/
def RulesMatch (tenantId tunnelId : ℕ) (body : WireGuardTunnelUpdate) (ids : List ℕ)
    (s : AccessState) : Prop :=
  ∃ stored, s.tunnels.get? tunnelId = some stored ∧
    match truthyText stored.optInterface with
    | none => validNetworks s.networks tenantId ids = []
    | some interface =>
      let name := body.name.getD stored.name
      let found := foundIds s.firewall.db tenantId name
        (removedNetworks s.networks tenantId stored.allowedNetworkIds ids)
      (staying s.firewall tenantId interface found ++
          waiting s.firewall.db tenantId interface found).Perm
        ((keptNetworks s.firewall.db s.networks tenantId name stored.allowedNetworkIds ids).map
          fun network => some network.2.cidr)

variable {tenantId tunnelId run : ℕ} {newUuid : ℕ → String} {s : State} {db db' : FirewallDb}
  {name interface : String} {found : List ℕ}

/-! ## The rules after an apply run -/

/-- A push writes a payload exactly if the row is pending, under its uuid after the push. -/
theorem pushWrites_eq_payload_iff {id : ℕ} {rule : OPNsenseFirewallRule} {uuid : String}
    {payload : Payload} (htenant : rule.tenantId = tenantId) :
    pushWrites rule (newUuid id) uuid = some (some payload) ↔
      rule.applyStatus = .pending ∧ uuid = uuidPushed tenantId newUuid id rule ∧
        payload = rule.payload := by
  have hcreate : uuidPushed tenantId newUuid id rule =
      if rule.work = some .create then newUuid id else rule.uuid := by
    show (if rule.tenantId = tenantId ∧ rule.work = some .create ∧ CallResult.returns = .returns
      then newUuid id else rule.uuid) = _
    simp only [htenant, and_true, true_and]
  rw [hcreate, pushWrites, OPNsenseFirewallRule.work]
  cases hstatus : rule.applyStatus with
  | pending => cases isPlaceholder rule.uuid <;> simp [eq_comm]
  | pendingDelete => simp
  | synced => simp
  | failed => simp

/-- A rule of OPNsense is overwritten if a row that is found or pushed has its uuid. -/
theorem overwritten_iff {uuid : String} : overwritten db tenantId found uuid = true ↔
    ∃ id rule, db.rules.get? id = some rule ∧ rule.tenantId = tenantId ∧
      isPlaceholder rule.uuid = false ∧ rule.uuid = uuid ∧
        if id ∈ found then rule.applyStatus = .synced ∧ found.count id = 1
        else rule.work.isSome = true := by
  rw [overwritten, ← not_iff_not, Bool.not_eq_true, Option.isSome_eq_false_iff,
    Option.isNone_iff_eq_none, Serial.first?_eq_none_iff]
  simp only [decide_eq_false_iff_not, not_exists, not_and]

section Applied

variable (hrun : s.applies.get? run = none) (hnew : GivesNew s newUuid)

include hrun hnew

/-- What is on OPNsense after a complete run: what a row of the tenant writes, or what was there and
no row writes. -/
theorem get?_opnsense_applyAll {uuid : String} {payload : Payload} :
    Table.get? (s.applyAll tenantId run newUuid).opnsense uuid = some payload ↔
      (∃ id rule, s.db.rules.get? id = some rule ∧ rule.tenantId = tenantId ∧
        rule.applyStatus = .pending ∧ uuid = uuidPushed tenantId newUuid id rule ∧
          payload = rule.payload) ∨
      Table.get? s.opnsense uuid = some payload ∧ overwritten s.db tenantId [] uuid = false := by
  by_cases hwritten : ∃ id rule value, s.db.rules.get? id = some rule ∧
      rule.tenantId = tenantId ∧ pushWrites rule (newUuid id) uuid = some value
  · obtain ⟨id, rule, value, hget, htenant, hwrites⟩ := hwritten
    rw [opnsense_applyAll_of_some hrun hnew hget htenant hwrites]
    constructor
    · rintro rfl
      obtain ⟨hpending, huuid, hpayload⟩ := (pushWrites_eq_payload_iff htenant).mp hwrites
      exact Or.inl ⟨id, rule, hget, htenant, hpending, huuid, hpayload⟩
    · rintro (⟨id', rule', hget', htenant', hpending, huuid, hpayload⟩ | ⟨hstored, hkept⟩)
      · have hwrites' := (pushWrites_eq_payload_iff htenant').mpr ⟨hpending, huuid, hpayload⟩
        rw [← opnsense_applyAll_of_some hrun hnew hget htenant hwrites]
        exact opnsense_applyAll_of_some hrun hnew hget' htenant' hwrites'
      · -- The row has the uuid of a rule on OPNsense, so that it is no new one.
        have hfresh := (fresh_iff.mp (hnew.fresh id (Option.isSome_of_eq_some hget))).1
        rcases real_of_pushWrites hwrites with ⟨hplace, rfl⟩ | rfl
        · have hwork : rule.work.isSome = true := by
            rw [Option.isSome_iff_ne_none]
            intro hnone
            rw [pushWrites, hnone] at hwrites
            cases hwrites
          have hover : overwritten s.db tenantId [] rule.uuid = true :=
            overwritten_iff.mpr ⟨id, rule, hget, htenant, hplace, rfl, by simpa using hwork⟩
          rw [hkept] at hover
          cases hover
        · rw [hfresh] at hstored
          cases hstored
  · have hnone : ∀ id rule, s.db.rules.get? id = some rule → rule.tenantId = tenantId →
        pushWrites rule (newUuid id) uuid = none := by
      intro id rule hget htenant
      by_contra hwrites
      obtain ⟨value, hvalue⟩ := Option.ne_none_iff_exists'.mp hwrites
      exact hwritten ⟨id, rule, value, hget, htenant, hvalue⟩
    rw [opnsense_applyAll_of_none hrun hnew hnone]
    constructor
    · intro hstored
      refine Or.inr ⟨hstored, Bool.eq_false_iff.mpr fun hover => ?_⟩
      obtain ⟨id, rule, hget, htenant, hplace, rfl, hwork⟩ := overwritten_iff.mp hover
      have hunwritten := hnone id rule hget htenant
      rw [if_neg (List.not_mem_nil), OPNsenseFirewallRule.work] at hwork
      rw [pushWrites, OPNsenseFirewallRule.work] at hunwritten
      cases hstatus : rule.applyStatus <;> simp [hstatus, hplace] at hwork hunwritten
    · rintro (⟨id, rule, hget, htenant, hpending, huuid, hpayload⟩ | ⟨hstored, -⟩)
      · have hwrites := (pushWrites_eq_payload_iff htenant).mpr ⟨hpending, huuid, hpayload⟩
        rw [hnone id rule hget htenant] at hwrites
        cases hwrites
      · exact hstored

variable (tenantId) in
/-- The rules that a complete run leaves on OPNsense: those that no row overwrites, and the pending
rows. -/
theorem select_applyAll (p : Payload → Bool) :
    (((s.applyAll tenantId run newUuid).opnsense.select fun _ payload => p payload).map
      Prod.snd).Perm
      ((s.opnsense.select fun uuid payload =>
          p payload && !overwritten s.db tenantId [] uuid).map Prod.snd ++
        (s.db.rules.select fun _ rule => rule.tenantId = tenantId ∧ rule.applyStatus = .pending ∧
          p rule.payload = true).map fun row => row.2.payload) := by
  let pushed := (s.db.rules.select fun _ rule => rule.tenantId = tenantId ∧
    rule.applyStatus = .pending ∧ p rule.payload = true).map fun row =>
      (uuidPushed tenantId newUuid row.1 row.2, row.2.payload)
  have hpushed : ∀ r, r ∈ pushed ↔ ∃ id rule, s.db.rules.get? id = some rule ∧
      rule.tenantId = tenantId ∧ rule.applyStatus = .pending ∧ p rule.payload = true ∧
        (uuidPushed tenantId newUuid id rule, rule.payload) = r := by
    intro r
    simp only [pushed, List.mem_map, Prod.exists, Serial.select, Table.mem_select,
      decide_eq_true_eq, and_assoc]
    rfl
  have hnodup : pushed.Nodup := by
    refine List.Nodup.map_on (fun row hrow row' hrow' heq => ?_)
      (Table.nodup_keys_select s.db.rules.rows _).of_map
    obtain ⟨hget, -⟩ := Table.mem_select.mp hrow
    obtain ⟨hget', -⟩ := Table.mem_select.mp hrow'
    have hid := uuidPushed_inj hnew hget hget' (Prod.mk.inj heq).1
    exact Prod.ext hid (Option.some.inj (hget.symm.trans (hid ▸ hget')))
  -- A pushed uuid is new on OPNsense, or the rule there is overwritten.
  have hdisjoint : List.Disjoint (s.opnsense.select fun uuid payload =>
      p payload && !overwritten s.db tenantId [] uuid) pushed := by
    rintro ⟨uuid, payload⟩ hstays hmem
    obtain ⟨hstored, hkept⟩ := Table.mem_select.mp hstays
    obtain ⟨id, rule, hget, htenant, hpending, -, heq⟩ := (hpushed _).mp hmem
    obtain ⟨rfl, rfl⟩ := Prod.mk.inj heq
    have hwrites : pushWrites rule (newUuid id) (uuidPushed tenantId newUuid id rule) =
        some (some rule.payload) := (pushWrites_eq_payload_iff htenant).mpr ⟨hpending, rfl, rfl⟩
    rcases real_of_pushWrites hwrites with ⟨hplace, huuid⟩ | hgiven
    · have hover : overwritten s.db tenantId [] rule.uuid = true := by
        refine overwritten_iff.mpr ⟨id, rule, hget, htenant, hplace, rfl, ?_⟩
        simp [OPNsenseFirewallRule.work, hpending]
      simp [huuid, hover] at hkept
    · have hfresh := (fresh_iff.mp (hnew.fresh id (Option.isSome_of_eq_some hget))).1
      rw [← hgiven] at hfresh
      rw [hfresh] at hstored
      cases hstored
  have hperm : ((s.applyAll tenantId run newUuid).opnsense.select fun _ payload => p payload).Perm
      ((s.opnsense.select fun uuid payload =>
        p payload && !overwritten s.db tenantId [] uuid) ++ pushed) := by
    refine (List.perm_ext_iff_of_nodup (Table.nodup_keys_select _ _).of_map
      (List.nodup_append'.mpr ⟨(Table.nodup_keys_select _ _).of_map, hnodup, hdisjoint⟩)).mpr ?_
    rintro ⟨uuid, payload⟩
    rw [List.mem_append, hpushed, Table.mem_select, Table.mem_select,
      get?_opnsense_applyAll hrun hnew, Bool.and_eq_true, Bool.not_eq_true']
    constructor
    · rintro ⟨⟨id, rule, hget, htenant, hpending, huuid, rfl⟩ | ⟨hstored, hkept⟩, hp⟩
      · exact Or.inr ⟨id, rule, hget, htenant, hpending, hp, Prod.ext huuid.symm rfl⟩
      · exact Or.inl ⟨hstored, hp, hkept⟩
    · rintro (⟨hstored, hp, hkept⟩ | ⟨id, rule, hget, htenant, hpending, hp, heq⟩)
      · exact ⟨Or.inr ⟨hstored, hkept⟩, hp⟩
      · obtain ⟨rfl, rfl⟩ := Prod.mk.inj heq
        exact ⟨Or.inl ⟨id, rule, hget, htenant, hpending, rfl, rfl⟩, hp⟩
  have hmap := hperm.map Prod.snd
  rw [List.map_append] at hmap
  refine hmap.trans (List.Perm.of_eq ?_)
  rw [List.map_map]
  rfl

end Applied

/-! ## What the request leaves -/

/-- What the request does to a row that its lookups find some number of times: the first lookup marks
a synced row, every other one deletes it. -/
def editOf (rule : OPNsenseFirewallRule) (times : ℕ) : Option RuleEdit :=
  if times = 0 then none
  else some (if rule.applyStatus = .synced ∧ times = 1 then .mark else .delete)

/-- What the request does to a row depends on how often its lookups find it. -/
theorem edits_eq (removed : List TenantNetwork) (id : ℕ) :
    edits db tenantId name removed id = (db.rules.get? id).bind fun rule =>
      editOf rule ((foundIds db tenantId name removed).count id) := by
  induction removed using List.reverseRecOn with
  | nil => cases db.rules.get? id <;> rfl
  | append_singleton removed network ih =>
    have hfound : foundIds db tenantId name (removed ++ [network]) =
        foundIds db tenantId name removed ++
          ((findDescription db tenantId (accessDescription name network.name)).map
            Prod.fst).toList := by
      rw [foundIds, List.filterMap_append, List.filterMap_cons, List.filterMap_nil]
      cases (findDescription db tenantId (accessDescription name network.name)).map Prod.fst <;> rfl
    have hstep : edits db tenantId name (removed ++ [network]) =
        removeNetwork db tenantId name (edits db tenantId name removed) network := by
      rw [edits, List.foldl_append]
      rfl
    rw [hstep, hfound, removeNetwork]
    cases hlookup : findDescription db tenantId (accessDescription name network.name) with
    | none => simpa using ih
    | some row =>
      obtain ⟨found, rule⟩ := row
      dsimp only
      by_cases hid : id = found
      · subst hid
        have hget : db.rules.get? id = some rule := (Serial.first?_eq_some hlookup).1
        rw [hget, Option.bind_some] at ih ⊢
        rw [Function.update_self, ih]
        show some _ = editOf rule (List.count id (_ ++ [id]))
        rw [List.count_append, List.count_singleton_self]
        simp [editOf]
      · rw [Function.update_of_ne hid, ih]
        show _ = (db.rules.get? id).bind fun rule => editOf rule (List.count id (_ ++ [found]))
        rw [List.count_append, List.count_singleton, if_neg (by simpa using Ne.symm hid), Nat.add_zero]

/-- The request leaves the rows that its lookups do not find. -/
theorem edits_of_notMem {removed : List TenantNetwork} {id : ℕ}
    (h : id ∉ foundIds db tenantId name removed) : edits db tenantId name removed id = none := by
  rw [edits_eq, List.count_eq_zero.mpr h]
  cases db.rules.get? id <;> rfl

/-- The request marks the synced rows that are found once, and deletes the other ones that are
found. -/
theorem edits_of_mem {removed : List TenantNetwork} {id : ℕ} {rule : OPNsenseFirewallRule}
    (hget : db.rules.get? id = some rule) (h : id ∈ foundIds db tenantId name removed) :
    edits db tenantId name removed id = some (if rule.applyStatus = .synced ∧
      (foundIds db tenantId name removed).count id = 1 then .mark else .delete) := by
  rw [edits_eq, hget, Option.bind_some, editOf, if_neg (List.count_pos_iff.mpr h).ne']

/-- The rules that a request inserts have placeholders. -/
theorem isPlaceholder_accessRule (db : FirewallDb) (tenantId tunnelId : ℕ) (name interface : String)
    (network : ℕ × TenantNetwork) :
    isPlaceholder (accessRule db tenantId tunnelId name interface network).uuid = true := by
  show isPlaceholder ("pending-wg-" ++ toString tunnelId ++ "-net-" ++ toString network.1) = true
  rw [String.append_assoc, String.append_assoc]
  simp [isPlaceholder, Text.startsWith]

section Saved

variable {edits : ℕ → Option RuleEdit} {inserted : List OPNsenseFirewallRule}
  (h : saveAccess? db edits inserted = some db')

include h

/-- The rows after the commit. -/
theorem rules_of_saveAccess? :
    db'.rules = (inserted.foldl Serial.add (db.rules.mapRows (markRow edits))).deleteWhere
      fun id _ => edits id = some .delete := by
  obtain ⟨saved, hsaved, rfl⟩ := Option.map_eq_some_iff.mp h
  rw [← FirewallDb.rules_of_save? hsaved]
  rfl

/-- A stored row after the commit. -/
theorem get?_saveAccess?_of_get? {id : ℕ} {rule : OPNsenseFirewallRule}
    (hget : db.rules.get? id = some rule) (hkept : edits id ≠ some .delete) :
    db'.rules.get? id = some (markRow edits id rule) := by
  have hmarked : (db.rules.mapRows (markRow edits)).get? id = some (markRow edits id rule) := by
    rw [Serial.get?_mapRows, hget, Option.map_some]
  rw [rules_of_saveAccess? h, Serial.get?_deleteWhere,
    Serial.get?_foldl_add_of_get? hmarked inserted, Option.filter_some,
    if_pos (by simpa using hkept)]

/-- A row after the commit was stored before, or has been inserted. -/
theorem exists_of_get?_saveAccess? {id : ℕ} {rule : OPNsenseFirewallRule}
    (hget : db'.rules.get? id = some rule) : edits id ≠ some .delete ∧
      ((∃ before, db.rules.get? id = some before ∧ rule = markRow edits id before) ∨
        rule ∈ inserted) := by
  rw [rules_of_saveAccess? h, Serial.get?_deleteWhere] at hget
  obtain ⟨hrow, hkept⟩ := Option.filter_eq_some_iff.mp hget
  refine ⟨by simpa using hkept, (Serial.get?_foldl_add hrow).imp (fun hold => ?_) And.right⟩
  rw [Serial.get?_mapRows] at hold
  obtain ⟨before, hbefore, hrule⟩ := Option.map_eq_some_iff.mp hold
  exact ⟨before, hbefore, hrule.symm⟩

end Saved

section Replaced

variable {removed : List TenantNetwork} {inserted : List OPNsenseFirewallRule}
  (h : saveAccess? db (edits db tenantId name removed) inserted = some db')

include h

/-- What an apply run writes after the request. -/
theorem overwritten_saveAccess? (hplace : ∀ rule ∈ inserted, isPlaceholder rule.uuid = true)
    (uuid : String) : overwritten db' tenantId [] uuid =
      overwritten db tenantId (foundIds db tenantId name removed) uuid := by
  rw [Bool.eq_iff_iff, overwritten_iff, overwritten_iff]
  constructor
  · rintro ⟨id, rule, hget, htenant, hreal, huuid, hwork⟩
    rw [if_neg List.not_mem_nil] at hwork
    obtain ⟨hkept, ⟨before, hbefore, rfl⟩ | hnew⟩ := exists_of_get?_saveAccess? h hget
    · by_cases hfound : id ∈ foundIds db tenantId name removed
      · by_cases honce : before.applyStatus = .synced ∧
            (foundIds db tenantId name removed).count id = 1
        · have hedit := edits_of_mem hbefore hfound
          rw [if_pos honce] at hedit
          rw [markRow, if_pos hedit] at htenant hreal huuid
          exact ⟨id, before, hbefore, htenant, hreal, huuid, by rwa [if_pos hfound]⟩
        · rw [edits_of_mem hbefore hfound, if_neg honce] at hkept
          exact absurd rfl hkept
      · rw [markRow, edits_of_notMem hfound, if_neg nofun] at htenant hreal huuid hwork
        exact ⟨id, before, hbefore, htenant, hreal, huuid, by rwa [if_neg hfound]⟩
    · rw [hplace rule hnew] at hreal
      cases hreal
  · rintro ⟨id, before, hbefore, htenant, hreal, huuid, hcase⟩
    by_cases hfound : id ∈ foundIds db tenantId name removed
    · rw [if_pos hfound] at hcase
      have hedit := edits_of_mem hbefore hfound
      rw [if_pos hcase] at hedit
      have hget := get?_saveAccess?_of_get? h hbefore (by rw [hedit]; decide)
      rw [markRow, if_pos hedit] at hget
      exact ⟨id, _, hget, htenant, hreal, huuid, rfl⟩
    · rw [if_neg hfound] at hcase
      have hedit := edits_of_notMem hfound
      have hget := get?_saveAccess?_of_get? h hbefore (by rw [hedit]; nofun)
      rw [markRow, hedit, if_neg nofun] at hget
      exact ⟨id, before, hget, htenant, hreal, huuid, by rwa [if_neg List.not_mem_nil]⟩

/-- The rows that wait to be pushed after the request: those that waited and are not found, and the
inserted ones. -/
theorem select_saveAccess? (p : OPNsenseFirewallRule → Bool)
    (hp : ∀ rule, p rule = true → rule.applyStatus = .pending) :
    ((db'.rules.select fun _ rule => p rule).map Prod.snd).Perm
      ((db.rules.select fun id rule =>
        p rule && decide (id ∉ foundIds db tenantId name removed)).map Prod.snd ++
        inserted.filter p) := by
  have hnext : ∀ id, db.rules.next ≤ id → edits db tenantId name removed id = none := by
    intro id hid
    have hnone : db.rules.get? id = none := by
      by_contra hsome
      obtain ⟨rule, hget⟩ := Option.ne_none_iff_exists'.mp hsome
      exact absurd (Serial.bound_of_get? hget).2 (by omega)
    rw [edits_eq, hnone, Option.bind_none]
  have hunfound : ∀ id rule, db.rules.get? id = some rule →
      ((!decide (edits db tenantId name removed id = some .delete)) &&
        p (markRow (edits db tenantId name removed) id rule)) =
          (p rule && decide (id ∉ foundIds db tenantId name removed)) := by
    intro id rule hget
    by_cases hfound : id ∈ foundIds db tenantId name removed
    · rw [decide_eq_false (not_not.mpr hfound), Bool.and_false]
      by_cases honce : rule.applyStatus = .synced ∧
          (foundIds db tenantId name removed).count id = 1
      · -- A marked row does not wait to be pushed.
        have hedit := edits_of_mem hget hfound
        rw [if_pos honce] at hedit
        rw [markRow, if_pos hedit, Bool.and_eq_false_iff]
        exact Or.inr (Bool.eq_false_iff.mpr fun h => nomatch hp _ h)
      · rw [edits_of_mem hget hfound, if_neg honce]
        rfl
    · rw [markRow, edits_of_notMem hfound]
      simp [hfound]
  have hdelete : (db'.rules.select fun _ rule => p rule) =
      (inserted.foldl Serial.add (db.rules.mapRows
        (markRow (edits db tenantId name removed)))).select fun id rule =>
          !decide (edits db tenantId name removed id = some .delete) && p rule := by
    rw [rules_of_saveAccess? h, Serial.select_deleteWhere]
  have hmark : ((db.rules.mapRows (markRow (edits db tenantId name removed))).select fun id rule =>
      !decide (edits db tenantId name removed id = some .delete) && p rule) =
        (db.rules.select fun id rule =>
          p rule && decide (id ∉ foundIds db tenantId name removed)).map fun row =>
            (row.1, markRow (edits db tenantId name removed) row.1 row.2) := by
    rw [Serial.select_mapRows, Serial.select_congr hunfound]
  rw [hdelete]
  refine (Serial.select_foldl_add (q := p) fun id rule hid => ?_).trans ?_
  · rw [hnext id hid]
    rfl
  refine List.Perm.append_right _ (List.Perm.of_eq ?_)
  rw [hmark, List.map_map]
  refine List.map_congr_left fun row hrow => ?_
  have hkept := (Table.mem_select.mp hrow).2
  rw [Bool.and_eq_true, decide_eq_true_eq] at hkept
  show markRow _ row.1 row.2 = row.2
  rw [markRow, edits_of_notMem hkept.2, if_neg nofun]

end Replaced

/-! ## Convergence -/

/-- An inserted rule passes on the interface of the tunnel. -/
theorem passesOn_accessRule (db : FirewallDb) (tenantId tunnelId : ℕ) (name : String)
    (hinterface : interface ≠ "") (network : ℕ × TenantNetwork) :
    passesOn interface (accessRule db tenantId tunnelId name interface network).payload = true := by
  have htext : (accessRule db tenantId tunnelId name interface network).content.textOr
      .interface "lan" = interface := by
    show ((some interface).filter (· ≠ "")).getD "lan" = interface
    rw [Option.filter_some, if_pos (by simpa using hinterface), Option.getD_some]
  refine decide_eq_true ⟨rfl, rfl, ?_⟩
  show some (some _) = _
  rw [htext]

/-- An inserted rule has the subnet of the network as its destination. -/
theorem destinationOf_accessRule (db : FirewallDb) (tenantId tunnelId : ℕ)
    (name interface : String) {network : ℕ × TenantNetwork} (hcidr : network.2.cidr ≠ "") :
    destinationOf (accessRule db tenantId tunnelId name interface network).payload =
      some network.2.cidr := by
  show some (((some network.2.cidr).filter (· ≠ "")).getD "any") = _
  rw [Option.filter_some, if_pos (by simpa using hcidr), Option.getD_some]

/-- The networks for which a rule is inserted, and the kept ones, are the wanted ones. -/
theorem kept_append_inserted_perm (db : FirewallDb) (networks : Serial TenantNetwork)
    (tenantId : ℕ) (name : String) (oldIds ids : List ℕ) :
    (keptNetworks db networks tenantId name oldIds ids ++
      insertedNetworks db tenantId name oldIds (validNetworks networks tenantId ids)).Perm
      (validNetworks networks tenantId ids) := by
  refine List.Perm.trans (List.Perm.append_left _ ?_) (List.filter_append_perm _ _)
  refine ((List.perm_insertionSort _ _).filter _).trans (List.Perm.of_eq ?_)
  rw [List.filter_filter]
  refine List.filter_congr fun network _ => ?_
  cases findDescription db tenantId (accessDescription name network.2.name) <;>
    by_cases hold : network.1 ∈ oldIds <;> simp [hold]

/-- What `update_tunnel` changes, if a list of networks is given. -/
theorem updateTunnel_eq_ok {s after : AccessState} {body : WireGuardTunnelUpdate} {ids : List ℕ}
    (hids : body.allowedNetworkIds = some ids)
    (h : updateTunnel s tenantId tunnelId body = .ok after) :
    ∃ stored tunnel, s.tunnels.get? tunnelId = some stored ∧
      after.tunnels.get? tunnelId = some tunnel ∧ tunnel.optInterface = stored.optInterface ∧
      after.networks = s.networks ∧
      match truthyText stored.optInterface with
      | none => after.firewall = s.firewall
      | some interface => ∃ db, replaceAccess s.firewall.db s.networks tenantId tunnelId
          (body.name.getD stored.name) interface stored.allowedNetworkIds ids = .ok db ∧
            after.firewall = { s.firewall with db } := by
  have hsaved : ∀ {stored tunnel : Tunnel} {tunnels : Serial Tunnel},
      s.tunnels.get? tunnelId = some stored →
      saveTunnel? s.tunnels tunnelId tunnel = some tunnels →
        tunnels.get? tunnelId = some tunnel := by
    intro stored tunnel tunnels hget hsave
    simp only [saveTunnel?, Option.bind_eq_bind, Option.bind_eq_some_iff,
      Option.require_eq_some_iff, Option.pure_def, Option.some.injEq] at hsave
    obtain ⟨-, -, -, -, rfl⟩ := hsave
    rw [Serial.get?_modify, if_pos rfl, hget, Option.map_some]
  simp only [updateTunnel, Except.bind_eq_ok_iff, Except.ofOption_eq_ok_iff, hids] at h
  obtain ⟨stored, hstored, h⟩ := h
  have hget := (Option.filter_eq_some_iff.mp hstored).1
  have hinterface : (stored.assign body).optInterface = stored.optInterface := rfl
  rw [hinterface] at h
  cases hopt : truthyText stored.optInterface with
  | none =>
    simp only [hopt, Except.bind_eq_ok_iff, Except.ofOption_eq_ok_iff, Except.pure_eq_ok_iff] at h
    obtain ⟨tunnels, hsave, rfl⟩ := h
    exact ⟨stored, _, hget, hsaved hget hsave, hinterface, rfl, by rw [hopt]⟩
  | some interface =>
    simp only [hopt, Except.bind_eq_ok_iff, Except.ofOption_eq_ok_iff, Except.pure_eq_ok_iff] at h
    obtain ⟨db, hreplace, tunnels, hsave, rfl⟩ := h
    refine ⟨stored, _, hget, hsaved hget hsave, hinterface, rfl, ?_⟩
    rw [hopt]
    exact ⟨db, hreplace, rfl⟩

section Converges

variable (hrun : s.applies.get? run = none)

include hrun

/-- The access of a tunnel after the request and an apply run: by the rules that stay, by those that
wait to be pushed, and by the inserted ones. -/
theorem accessOn_replaceAccess {networks : Serial TenantNetwork} {oldIds ids : List ℕ}
    (hinterface : interface ≠ "")
    (hcidrs : ∀ id network, networks.get? id = some network → network.cidr ≠ "")
    (hreplace : replaceAccess s.db networks tenantId tunnelId name interface oldIds ids = .ok db)
    (hnew : GivesNew { s with db } newUuid) :
    let found := foundIds s.db tenantId name (removedNetworks networks tenantId oldIds ids)
    (accessOn interface (State.applyAll { s with db } tenantId run newUuid).opnsense).Perm
      (staying s tenantId interface found ++ waiting s.db tenantId interface found ++
        (insertedNetworks s.db tenantId name oldIds (validNetworks networks tenantId ids)).map
          fun network => some network.2.cidr) := by
  intro found
  unfold accessOn
  simp only [replaceAccess, Except.bind_eq_ok_iff, Except.require_eq_ok_iff,
    Except.ofOption_eq_ok_iff] at hreplace
  obtain ⟨-, -, hsave⟩ := hreplace
  let rules := (insertedNetworks s.db tenantId name oldIds
    (validNetworks networks tenantId ids)).map (accessRule s.db tenantId tunnelId name interface)
  -- the rules that wait for a push once the request has returned, as far as they grant access
  let waits : OPNsenseFirewallRule → Bool := fun rule => rule.tenantId = tenantId ∧
    rule.applyStatus = .pending ∧ passesOn interface rule.payload = true
  have hplace : ∀ rule ∈ rules, isPlaceholder rule.uuid = true := by
    intro rule hmem
    obtain ⟨network, -, rfl⟩ := List.mem_map.mp hmem
    exact isPlaceholder_accessRule ..
  have hall : rules.filter waits = rules := by
    refine List.filter_eq_self.mpr fun rule hmem => ?_
    obtain ⟨network, -, rfl⟩ := List.mem_map.mp hmem
    exact decide_eq_true ⟨rfl, rfl, passesOn_accessRule _ _ _ _ hinterface network⟩
  have hdestinations : rules.map (fun rule => destinationOf rule.payload) =
      (insertedNetworks s.db tenantId name oldIds (validNetworks networks tenantId ids)).map
        fun network => some network.2.cidr := by
    rw [List.map_map]
    refine List.map_congr_left fun network hmem => destinationOf_accessRule _ _ _ _ _ ?_
    have hvalid : network ∈ validNetworks networks tenantId ids := List.mem_of_mem_filter
      ((List.mem_insertionSort _).mp (List.mem_of_mem_filter hmem))
    unfold validNetworks Serial.select at hvalid
    exact hcidrs _ _ (Table.mem_select.mp hvalid).1
  -- what the tunnel grants after the run is what is not overwritten and what is pushed
  have happly := (select_applyAll tenantId (s := { s with db }) hrun hnew
    (passesOn interface)).map destinationOf
  rw [List.map_map, List.map_append, List.map_map, List.map_map] at happly
  refine happly.trans ?_
  rw [List.append_assoc]
  refine List.Perm.append (List.Perm.of_eq ?_) ?_
  · simp only [overwritten_saveAccess? hsave hplace]
    rfl
  · have hwaiting := (select_saveAccess? hsave waits fun rule h => (of_decide_eq_true h).2.1).map
      fun rule => destinationOf rule.payload
    rw [hall, List.map_append, hdestinations, List.map_map, List.map_map] at hwaiting
    refine hwaiting.trans (List.Perm.append_right _ (List.Perm.of_eq ?_))
    refine congrArg _ (Serial.select_congr fun id rule _ => ?_)
    simp only [waits, found]
    by_cases hfound : id ∈ foundIds s.db tenantId name
        (removedNetworks networks tenantId oldIds ids) <;> simp [hfound]

end Converges

/-- After `update_tunnel` and a complete apply run, in any state, the access list has converged
exactly if the rules matched before. -/
theorem grantsExactly_update {s after : AccessState} {body : WireGuardTunnelUpdate} {ids : List ℕ}
    (hids : body.allowedNetworkIds = some ids)
    (hupdate : updateTunnel s tenantId tunnelId body = .ok after)
    (hrun : s.firewall.applies.get? run = none) (hnew : GivesNew after.firewall newUuid) :
    GrantsExactly tenantId tunnelId ids (after.applyAll tenantId run newUuid) ↔
      RulesMatch tenantId tunnelId body ids s := by
  obtain ⟨stored, tunnel, hstored, htunnel, hopt, hnetworks, hcase⟩ :=
    updateTunnel_eq_ok hids hupdate
  have hgrants : GrantsExactly tenantId tunnelId ids (after.applyAll tenantId run newUuid) ↔
      (accessOf tunnel (after.firewall.applyAll tenantId run newUuid).opnsense).Perm
        ((validNetworks s.networks tenantId ids).map fun network => some network.2.cidr) := by
    rw [← hnetworks]
    refine ⟨fun ⟨tunnel', hget, hperm⟩ => ?_, fun hperm => ⟨tunnel, htunnel, hperm⟩⟩
    obtain rfl := Option.some.inj (htunnel.symm.trans hget)
    exact hperm
  have hmatch : RulesMatch tenantId tunnelId body ids s ↔
      match truthyText stored.optInterface with
      | none => validNetworks s.networks tenantId ids = []
      | some interface =>
        let name := body.name.getD stored.name
        let found := foundIds s.firewall.db tenantId name
          (removedNetworks s.networks tenantId stored.allowedNetworkIds ids)
        (staying s.firewall tenantId interface found ++
            waiting s.firewall.db tenantId interface found).Perm
          ((keptNetworks s.firewall.db s.networks tenantId name stored.allowedNetworkIds ids).map
            fun network => some network.2.cidr) := by
    refine ⟨fun ⟨stored', hget, hperm⟩ => ?_, fun hperm => ⟨stored, hstored, hperm⟩⟩
    obtain rfl := Option.some.inj (hstored.symm.trans hget)
    exact hperm
  rw [hgrants, hmatch, accessOf, hopt]
  cases htext : truthyText stored.optInterface with
  | none =>
    dsimp only
    rw [List.nil_perm, List.map_eq_nil_iff]
  | some interface =>
    rw [htext] at hcase
    obtain ⟨db, hreplace, hfirewall⟩ := hcase
    rw [hfirewall] at hnew ⊢
    have hinterface : interface ≠ "" := of_decide_eq_true (Option.filter_eq_some_iff.mp htext).2
    have haccess := accessOn_replaceAccess hrun hinterface s.cidr_ne_empty hreplace hnew
    have hwanted := (kept_append_inserted_perm s.firewall.db s.networks tenantId
      (body.name.getD stored.name) stored.allowedNetworkIds ids).map
        fun network => some network.2.cidr
    rw [List.map_append] at hwanted
    dsimp only at haccess ⊢
    -- The inserted rules are those of the remaining networks.
    rw [haccess.congr_left, ← hwanted.congr_right, List.perm_append_right_iff]

/-- After every history, `update_tunnel` and a complete apply run make the access list of a tunnel
converge exactly if the rules that stay on OPNsense or wait to be pushed are those of the wanted
networks for which no rule is inserted. -/
theorem grantsExactly_iff {start after : AccessState} (history : List AccessEvent)
    {body : WireGuardTunnelUpdate} {ids : List ℕ} (hids : body.allowedNetworkIds = some ids)
    (hupdate : updateTunnel (start.after tenantId history) tenantId tunnelId body = .ok after)
    (hrun : (start.after tenantId history).firewall.applies.get? run = none)
    (hnew : GivesNew after.firewall newUuid) :
    GrantsExactly tenantId tunnelId ids (after.applyAll tenantId run newUuid) ↔
      RulesMatch tenantId tunnelId body ids (start.after tenantId history) :=
  grantsExactly_update hids hupdate hrun hnew

/-- An active network of a tenant. -/
def officeNetwork (name cidr gatewayIp : String) : TenantNetwork where
  tenantId := 1
  podId := 1
  ipPoolId := none
  cidr
  gatewayIp
  vlanId := none
  name
  isDefault := false
  status := .active
  providerRef := none
  opnsenseInterface := none

/-- A tunnel whose clients may reach the first network. -/
def officeTunnel : Tunnel where
  tenantId := 1
  name := "office"
  opnsenseServerUuid := none
  listenPort := some 51820
  mtu := some 1420
  dns := none
  tunnelAddress := "10.200.0.1/24"
  cidr := "10.200.0.0/24"
  gatewayIp := "10.200.0.1"
  poolId := none
  publicKey := "pending"
  privateKey := "pending"
  endpoint := none
  optInterface := some "opt1"
  status := .active
  error := none
  peerKeepalive := some 25
  allowedNetworkIds := [1]

/-- The rule of the tunnel for the first network. -/
def officeRule : OPNsenseFirewallRule where
  tenantId := 1
  uuid := "d41f8e2b-60c9-4a37-b5e8-7c2d90f1a643"
  content := TunnelRules.content 200 (accessDescription "office" "web") "opt1" "any" "172.16.0.0/24" ""
  applyStatus := .synced
  applyError := none

/-- The rule is on OPNsense. -/
def officeAccess : AccessState where
  firewall :=
    { newRuleState with
      db := { tenants := [1], rules := Serial.empty.add officeRule, valid := by decide +kernel }
      opnsense := (∅ : Opnsense).addRule officeRule.uuid officeRule.payload }
  tunnels := Serial.empty.add officeTunnel
  networks := (Serial.empty.add (officeNetwork "web" "172.16.0.0/24" "172.16.0.1")).add
    (officeNetwork "db" "172.16.1.0/24" "172.16.1.1")
  cidr_ne_empty := Serial.forall_get?_iff.mpr (by decide +kernel)

/-- A request that replaces the access list. -/
def replaceList (ids : List ℕ) : WireGuardTunnelUpdate where
  name := none
  mtu := none
  dns := none
  endpoint := none
  peerKeepalive := none
  allowedNetworkIds := some ids

/-- A request that succeeds. -/
theorem updateTunnel_eq_step {s : AccessState} {body : WireGuardTunnelUpdate}
    (h : (updateTunnel s tenantId tunnelId body).isOk = true) :
    updateTunnel s tenantId tunnelId body = .ok (s.step tenantId (.updateTunnel tunnelId body)) := by
  show _ = Except.ok (match updateTunnel s tenantId tunnelId body with
    | .ok after => after
    | .error _ => s)
  cases hupdate : updateTunnel s tenantId tunnelId body with
  | ok after => rfl
  | error e =>
    rw [hupdate] at h
    cases h

/-- Without a history, the access list converges if the rules match. -/
theorem grantsExactly_office :
    GrantsExactly 1 1 [2]
        ((officeAccess.step 1 (.updateTunnel 1 (replaceList [2]))).applyAll 1 0 givenUuid) ↔
      RulesMatch 1 1 (replaceList [2]) [2] officeAccess :=
  grantsExactly_iff [] rfl (updateTunnel_eq_step (by decide +kernel)) (by decide +kernel)
    (givesNew_givenUuid (Serial.forall_get?_iff.mpr (by decide +kernel)) (by decide +kernel))

/-- The first network is replaced by the second one and put back before the next apply run, which
deletes its rule: no rule is inserted, as there is one with the same description. -/
theorem not_grantsExactly : ∃ after,
    updateTunnel (officeAccess.after 1 [.updateTunnel 1 (replaceList [2])]) 1 1 (replaceList [1]) =
      .ok after ∧
    ¬ GrantsExactly 1 1 [1] (after.applyAll 1 0 givenUuid) := by
  have hupdate : updateTunnel (officeAccess.after 1 [.updateTunnel 1 (replaceList [2])]) 1 1
      (replaceList [1]) = .ok _ := updateTunnel_eq_step (by decide +kernel)
  refine ⟨_, hupdate, ?_⟩
  rw [grantsExactly_update rfl hupdate (by decide +kernel) (givesNew_givenUuid
    (Serial.forall_get?_iff.mpr (by decide +kernel)) (by decide +kernel))]
  rintro ⟨stored, hstored, hmatch⟩
  have htunnel : (officeAccess.after 1 [.updateTunnel 1 (replaceList [2])]).tunnels.get? 1 =
      some { officeTunnel with allowedNetworkIds := [2] } := by decide +kernel
  obtain rfl := Option.some.inj (htunnel.symm.trans hstored)
  have htext : truthyText officeTunnel.optInterface = some "opt1" := by decide +kernel
  -- Nothing stays, but the network is kept.
  rw [htext] at hmatch
  exact absurd hmatch.length_eq (by decide +kernel)

end Firewall

end ProxmoxIaas
