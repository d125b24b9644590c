import ProxmoxIaas.Firewall.Model

/-!
# Firewall Rules of Tunnels

The rows that the provisioning of a tunnel inserts into `opnsense_firewall_rules`, and what its
destruction does about them. Both find the rows of a tunnel by their descriptions.

## Main results

- `get?_ensureFirewallRules`: the provisioning leaves the rows and adds new ones with placeholders.
- `get?_deleteTunnelRules`: the destruction keeps, of the rows of the tunnel, those that are synced.
-/

namespace ProxmoxIaas

/-- A network that the clients of a tunnel may reach. -/
structure TunnelNetwork where
  /-- The network. -/
  networkId : ℕ
  /-- Its name. -/
  name : String
  /-- Its addresses. -/
  cidr : String
  deriving DecidableEq, Repr

/-- A tunnel whose firewall rules are inserted. -/
structure TunnelRules where
  /-- The tunnel. -/
  tunnelId : ℕ
  /-- Its name. -/
  name : String
  /-- The port that it listens on. -/
  listenPort : ℕ
  /-- Its interface on OPNsense. -/
  optInterface : String
  /-- The networks of the tenant that are active and allowed. -/
  networks : List TunnelNetwork
  deriving DecidableEq, Repr

namespace TunnelRules

variable (tunnel : TunnelRules)

/-- The content of a rule of a tunnel. -/
def content (sequence : ℤ) (description interface protocol destinationNet destinationPort : String) :
    RuleContent where
  sequence := some sequence
  text
    | .enabled => some "1"
    | .description => some description
    | .interface => some interface
    | .interfacenot => some "0"
    | .quick => some "1"
    | .action => some "pass"
    | .direction => some "in"
    | .ipprotocol => some "inet"
    | .protocol => some protocol
    | .sourceNot => some "0"
    | .sourceNet => some "any"
    | .sourcePort => some ""
    | .destinationNot => some "0"
    | .destinationNet => some destinationNet
    | .destinationPort => some destinationPort
    | .gateway => some ""
    | .log => some "0"
    | .statetype => some "keep"

/-- The rule that lets clients reach the tunnel. -/
def wanRule (tenantId : ℕ) : OPNsenseFirewallRule where
  tenantId
  uuid := "pending-wg-" ++ toString tunnel.tunnelId ++ "-wan"
  content := content 100 ("WireGuard " ++ tunnel.name ++ " (WAN)") "wan" "UDP" "wanip"
    (toString tunnel.listenPort)
  applyStatus := .pending
  applyError := none

/-- The rule that lets clients reach a network. -/
def networkRule (tenantId idx : ℕ) (network : TunnelNetwork) : OPNsenseFirewallRule where
  tenantId
  uuid := "pending-wg-" ++ toString tunnel.tunnelId ++ "-net-" ++ toString network.networkId
  content := content (200 + idx) ("WireGuard " ++ tunnel.name ++ " -> " ++ network.name)
    tunnel.optInterface "any" network.cidr ""
  applyStatus := .pending
  applyError := none

/-- All rules of a tunnel. -/
def rules (tenantId : ℕ) : List OPNsenseFirewallRule :=
  tunnel.wanRule tenantId ::
    tunnel.networks.zipIdx.map fun (network, idx) => tunnel.networkRule tenantId idx network

end TunnelRules

/-- Whether a tenant has a rule with the description of another rule. -/
def hasDescription (db : FirewallDb) (rule : OPNsenseFirewallRule) : Bool :=
  (db.rules.first? fun _ stored => stored.tenantId = rule.tenantId ∧
    stored.content.text .description = rule.content.text .description).isSome

/-- `_ensure_firewall_rules` and its commit. It raises if a constraint is violated. -/
def ensureFirewallRules (db : FirewallDb) (tenantId : ℕ) (tunnel : TunnelRules) :
    Option FirewallDb :=
  db.save? <| ((tunnel.rules tenantId).filter fun rule => !hasDescription db rule).foldl
    Serial.add db.rules

/-- Whether the destruction of a tunnel finds a row: the name of the tunnel is part of a pattern. -/
def isTunnelRule (tenantId : ℕ) (name : String) (rule : OPNsenseFirewallRule) : Bool :=
  rule.tenantId = tenantId && (rule.content.text .description).any fun description =>
    Text.like ("WireGuard " ++ name ++ "%").toList description.toList

/-- What the destruction of a tunnel commits: rules that are synced are to be deleted on OPNsense,
the other ones are forgotten. -/
def deleteTunnelRules (db : FirewallDb) (tenantId : ℕ) (name : String) : Option FirewallDb :=
  db.save? <| (db.rules.deleteWhere fun _ rule =>
      isTunnelRule tenantId name rule && rule.applyStatus ≠ .synced).mapRows fun _ rule =>
    if isTunnelRule tenantId name rule then { rule with applyStatus := .pendingDelete } else rule

variable {db db' : FirewallDb} {tenantId : ℕ}

/-- The rules of a tunnel have placeholders. -/
theorem isPlaceholder_of_mem_rules {tunnel : TunnelRules} {rule : OPNsenseFirewallRule}
    (h : rule ∈ tunnel.rules tenantId) : isPlaceholder rule.uuid = true := by
  have hprefix : ∀ text, isPlaceholder ("pending-wg-" ++ text) = true := by
    intro text
    simp [isPlaceholder, Text.startsWith]
  rcases List.mem_cons.mp h with rfl | hmem
  · rw [TunnelRules.wanRule, String.append_assoc]
    exact hprefix _
  · obtain ⟨⟨network, idx⟩, -, rfl⟩ := List.mem_map.mp hmem
    show isPlaceholder ("pending-wg-" ++ toString tunnel.tunnelId ++ "-net-" ++
      toString network.networkId) = true
    rw [String.append_assoc, String.append_assoc]
    exact hprefix _

/-- The provisioning of a tunnel leaves every row, and adds rows with placeholders. -/
theorem get?_ensureFirewallRules {tunnel : TunnelRules}
    (h : ensureFirewallRules db tenantId tunnel = some db') :
    db.rules.next ≤ db'.rules.next ∧
      (∀ id rule, db.rules.get? id = some rule → db'.rules.get? id = some rule) ∧
      ∀ id rule, db'.rules.get? id = some rule → db.rules.get? id = some rule ∨
        (db.rules.next ≤ id ∧ isPlaceholder rule.uuid = true) := by
  have hrules := FirewallDb.rules_of_save? h
  refine ⟨?_, fun id rule hget => ?_, fun id rule hget => ?_⟩
  · rw [hrules]
    exact Serial.next_foldl_add _ _
  · rw [hrules]
    exact Serial.get?_foldl_add_of_get? hget _
  · rw [hrules] at hget
    refine (Serial.get?_foldl_add hget).imp_right fun ⟨hnext, hmem⟩ => ⟨hnext, ?_⟩
    exact isPlaceholder_of_mem_rules (List.mem_of_mem_filter hmem)

/-- The destruction of a tunnel deletes its rows that are not synced, and marks the other ones. -/
theorem get?_deleteTunnelRules {name : String} (h : deleteTunnelRules db tenantId name = some db') :
    db'.rules.next = db.rules.next ∧ ∀ id, db'.rules.get? id = (db.rules.get? id).bind fun rule =>
      if isTunnelRule tenantId name rule = false then some rule
      else if rule.applyStatus = .synced then some { rule with applyStatus := .pendingDelete }
      else none := by
  have hrules := FirewallDb.rules_of_save? h
  refine ⟨by rw [hrules]; rfl, fun id => ?_⟩
  rw [hrules, Serial.get?_mapRows, Serial.get?_deleteWhere]
  cases db.rules.get? id with
  | none => rfl
  | some rule =>
    rw [Option.bind_some, Option.filter_some]
    cases hrule : isTunnelRule tenantId name rule with
    | false => simp [hrule]
    | true => by_cases hsynced : rule.applyStatus = .synced <;> simp [hrule, hsynced]

end ProxmoxIaas
