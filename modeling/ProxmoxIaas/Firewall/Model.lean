import ProxmoxIaas.Foundation.Text
import ProxmoxIaas.Provisioning.Model
import Mathlib.Data.List.Sort

/-!
# Firewall Rules

The rows of `opnsense_firewall_rules`, their encoding for OPNsense and its inverse, and the
endpoints that edit them. An edit marks its rows; the tasks push marked rows to OPNsense.

The columns that encode a rule are its `RuleContent`. OPNsense keeps a rule as the fields of a
payload and lists them under the same names.

## Main results

- `validRules_iff`: the constraints of the table, row by row.
- `FirewallDb.eq_of_uuid`: rules have different uuids.
-/

namespace ProxmoxIaas

/-- The text columns of a firewall rule. -/
inductive RuleField where
  | enabled
  | description
  | interface
  | interfacenot
  | quick
  | action
  | direction
  | ipprotocol
  | protocol
  | sourceNot
  | sourceNet
  | sourcePort
  | destinationNot
  | destinationNet
  | destinationPort
  | gateway
  | log
  | statetype
  deriving DecidableEq, Repr

namespace RuleField

/-- Every text column. -/
def all : List RuleField :=
  [enabled, description, interface, interfacenot, quick, action, direction, ipprotocol, protocol,
    sourceNot, sourceNet, sourcePort, destinationNot, destinationNet, destinationPort, gateway, log,
    statetype]

/-- The name of a column, which is also its name in a payload. -/
def key : RuleField → String
  | enabled => "enabled"
  | description => "description"
  | interface => "interface"
  | interfacenot => "interfacenot"
  | quick => "quick"
  | action => "action"
  | direction => "direction"
  | ipprotocol => "ipprotocol"
  | protocol => "protocol"
  | sourceNot => "source_not"
  | sourceNet => "source_net"
  | sourcePort => "source_port"
  | destinationNot => "destination_not"
  | destinationNet => "destination_net"
  | destinationPort => "destination_port"
  | gateway => "gateway"
  | log => "log"
  | statetype => "statetype"

/-- The length of a column. -/
def maxLength : RuleField → ℕ
  | enabled | interfacenot | quick | sourceNot | destinationNot | log => 1
  | direction => 3
  | action | ipprotocol | protocol => 10
  | interface | statetype => 20
  | sourcePort | destinationPort | gateway => 50
  | sourceNet | destinationNet => 100
  | description => 500

/-- The value of a column that a request or a listed rule leaves out. -/
def default : RuleField → String
  | enabled | quick => "1"
  | interfacenot | sourceNot | destinationNot | log => "0"
  | interface => "lan"
  | action => "pass"
  | direction => "in"
  | ipprotocol => "inet"
  | protocol => "tcp"
  | sourceNet | sourcePort | destinationNet | destinationPort => "any"
  | statetype => "keep"
  | description | gateway => ""

/-- Whether a column is read from a listed rule as a flag. -/
def isFlag : RuleField → Bool
  | enabled | interfacenot | quick | sourceNot | destinationNot | log => true
  | _ => false

/-- There are no other text columns. -/
theorem mem_all (field : RuleField) : field ∈ all := by
  cases field <;> decide

end RuleField

instance {α : Type} [DecidableEq α] : DecidableEq (RuleField → α) := fun a b =>
  decidable_of_iff (∀ field ∈ RuleField.all, a field = b field)
    ⟨fun h => funext fun field => h field (RuleField.mem_all field), fun h field _ =>
      congrFun h field⟩

/-- The columns of a rule that are encoded for OPNsense. -/
structure RuleContent where
  /-- The position among the rules of the tenant. -/
  sequence : Option ℤ
  /-- The text columns. -/
  text : RuleField → Option String
  deriving DecidableEq

/-- The fields of a rule as OPNsense receives and lists them; a field may be `null`. -/
abbrev Payload := List (String × Option String)

/-- A field of a listed rule, or a default if the rule has no such field. -/
def Payload.getD (payload : Payload) (key default : String) : Option String :=
  (List.lookup key payload).getD (some default)

/-- Every field of a payload has its value in another one. -/
def Payload.agrees (payload stored : Payload) : Bool :=
  payload.all fun (key, value) => List.lookup key stored = some value

/-- The sequence as a text. -/
def sequenceText : Option ℤ → String
  | some sequence => toString sequence
  | none => "None"

/-- A text column, or a default if it is empty. -/
def RuleContent.textOr (content : RuleContent) (field : RuleField) (default : String) : String :=
  (truthyText (content.text field)).getD default

/-- A port of a rule: protocols other than TCP and UDP have none, and `any` stands for none. -/
def RuleContent.port (content : RuleContent) (field : RuleField) : String :=
  let port := content.textOr field ""
  if Text.lower (content.textOr .protocol "tcp") ∈ ["tcp", "udp", "tcp/udp"] ∧ port ≠ "any" then
    port
  else ""

/-- `to_opnsense_payload`. -/
def RuleContent.toOpnsensePayload (content : RuleContent) : Payload :=
  let text field default := some (content.textOr field default)
  [("enabled", content.text .enabled),
    ("sequence", some (sequenceText content.sequence)),
    ("nosync", some "0"),
    ("description", text .description ""),
    ("interface", text .interface "lan"),
    ("interfacenot", text .interfacenot "0"),
    ("quick", text .quick "1"),
    ("action", text .action "pass"),
    ("allowopts", some "0"),
    ("direction", text .direction "in"),
    ("ipprotocol", text .ipprotocol "inet"),
    ("protocol", some (Text.upper (content.textOr .protocol "tcp"))),
    ("icmptype", some ""),
    ("icmp6type", some ""),
    ("source_not", text .sourceNot "0"),
    ("source_net", text .sourceNet "any"),
    ("source_port", some (content.port .sourcePort)),
    ("destination_not", text .destinationNot "0"),
    ("destination_net", text .destinationNet "any"),
    ("destination_port", some (content.port .destinationPort)),
    ("log", text .log "0"),
    ("tcpflags1", some ""),
    ("tcpflags2", some ""),
    ("tcpflags_any", some "0"),
    ("sched", some ""),
    ("divert-to", some ""),
    ("statetype", text .statetype "keep"),
    ("state-policy", some ""),
    ("nopfsync", some "0"),
    ("statetimeout", some ""),
    ("udp-first", some ""),
    ("udp-single", some ""),
    ("udp-multiple", some ""),
    ("adaptivestart", some ""),
    ("adaptiveend", some ""),
    ("max", some ""),
    ("max-src-nodes", some ""),
    ("max-src-states", some ""),
    ("max-src-conn", some ""),
    ("max-src-conn-rate", some ""),
    ("max-src-conn-rates", some ""),
    ("overload", some ""),
    ("shaper1", some ""),
    ("shaper2", some ""),
    ("gateway", text .gateway ""),
    ("disablereplyto", some "0"),
    ("replyto", some ""),
    ("prio", some ""),
    ("set-prio", some ""),
    ("set-prio-low", some ""),
    ("tos", some ""),
    ("tag", some ""),
    ("tagged", some "")]

/-- `_parse_bool` on a field of a listed rule. -/
def parseBool : Option String → String
  | some text => if Text.lower text ∈ ["1", "true", "yes", "on"] then "1" else "0"
  | none => "0"

/-- The content that the synchronisation reads from a listed rule. It raises if the sequence is no
integer. -/
def decodeRule (listed : Payload) : Option RuleContent := do
  let sequence ← (listed.getD "sequence" "100").bind fun text => Text.int? text.toList
  return {
    sequence := some sequence
    text := fun field =>
      let value := listed.getD field.key field.default
      if field.isFlag then some (parseBool value) else value }

/-- The values of `apply_status`. -/
inductive ApplyStatus where
  | synced
  | pending
  | pendingDelete
  | failed
  deriving DecidableEq, Repr

/-- A row of `opnsense_firewall_rules`. -/
structure OPNsenseFirewallRule where
  /-- The tenant. -/
  tenantId : ℕ
  /-- The uuid on OPNsense, or a placeholder; unique among all tenants. -/
  uuid : String
  /-- The columns that are encoded for OPNsense. -/
  content : RuleContent
  /-- What is to be done about the rule. -/
  applyStatus : ApplyStatus
  /-- The last error of a push. -/
  applyError : Option String
  deriving DecidableEq

/-- Whether a uuid is a placeholder for that of a rule that is not on OPNsense yet. -/
def isPlaceholder (uuid : String) : Bool := Text.startsWith uuid "pending"

/-- Whether the values of a row fit into its columns, and its tenant exists. -/
def OPNsenseFirewallRule.fits (tenants : List ℕ) (rule : OPNsenseFirewallRule) : Bool :=
  rule.tenantId ∈ tenants && rule.uuid.toList.length ≤ 36 &&
    rule.content.sequence.all (fun sequence => -2 ^ 31 ≤ sequence ∧ sequence < 2 ^ 31) &&
    (RuleField.all.all fun field =>
      (rule.content.text field).all fun text => text.toList.length ≤ field.maxLength) &&
    rule.applyError.all fun text => text.toList.length ≤ 500

/-- The constraints of the table: uuids are unique, and every row fits. -/
def ValidRules (tenants : List ℕ) (rules : Serial OPNsenseFirewallRule) : Prop :=
  (rules.rows.entries.map fun r => r.2.uuid).Nodup ∧
    ∀ r ∈ rules.rows.entries, r.2.fits tenants = true

instance (tenants : List ℕ) (rules : Serial OPNsenseFirewallRule) :
    Decidable (ValidRules tenants rules) :=
  inferInstanceAs (Decidable (_ ∧ _))

/-- The constraints, row by row. -/
theorem validRules_iff {tenants : List ℕ} {rules : Serial OPNsenseFirewallRule} :
    ValidRules tenants rules ↔
      (∀ i j rule rule', rules.get? i = some rule → rules.get? j = some rule' →
        rule.uuid = rule'.uuid → i = j) ∧
      ∀ i rule, rules.get? i = some rule → rule.fits tenants = true := by
  constructor
  · rintro ⟨huuids, hfits⟩
    refine ⟨fun i j rule rule' hi hj huuid => ?_, fun i rule hi => ?_⟩
    · have hsame := List.inj_on_of_nodup_map huuids (Table.get?_eq_some_iff.mp hi)
        (Table.get?_eq_some_iff.mp hj) huuid
      exact congrArg Sigma.fst hsame
    · exact hfits _ (Table.get?_eq_some_iff.mp hi)
  · rintro ⟨huuids, hfits⟩
    have hget : ∀ r ∈ rules.rows.entries, rules.get? r.1 = some r.2 :=
      fun r hr => Table.get?_eq_some_iff.mpr hr
    refine ⟨List.Nodup.map_on (fun r hr r' hr' huuid => ?_) rules.rows.nodupKeys.nodup,
      fun r hr => hfits r.1 r.2 (hget r hr)⟩
    -- Rows with the same uuid have the same key.
    have hkey := huuids r.1 r'.1 r.2 r'.2 (hget r hr) (hget r' hr') huuid
    have hrow : some r.2 = some r'.2 := by rw [← hget r hr, ← hget r' hr', hkey]
    exact Sigma.ext hkey (heq_of_eq (Option.some.inj hrow))

/-- The committed content of the firewall tables. -/
structure FirewallDb where
  /-- The tenants that exist. -/
  tenants : List ℕ
  /-- Table `opnsense_firewall_rules`. -/
  rules : Serial OPNsenseFirewallRule
  /-- The constraints of the table. -/
  valid : ValidRules tenants rules

namespace FirewallDb

/-- Write the table, unless a constraint is violated. -/
def save? (db : FirewallDb) (rules : Serial OPNsenseFirewallRule) : Option FirewallDb :=
  if h : ValidRules db.tenants rules then some { tenants := db.tenants, rules, valid := h }
  else none

/-- Rules have different uuids. -/
theorem eq_of_uuid (db : FirewallDb) {i j : ℕ} {rule rule' : OPNsenseFirewallRule}
    (hi : db.rules.get? i = some rule) (hj : db.rules.get? j = some rule')
    (huuid : rule.uuid = rule'.uuid) : i = j :=
  (validRules_iff.mp db.valid).1 i j rule rule' hi hj huuid

/-- Every rule fits into the table. -/
theorem fits_of_get? (db : FirewallDb) {i : ℕ} {rule : OPNsenseFirewallRule}
    (h : db.rules.get? i = some rule) : rule.fits db.tenants = true :=
  (validRules_iff.mp db.valid).2 i rule h

/-- What was written. -/
theorem rules_of_save? {db db' : FirewallDb} {rules : Serial OPNsenseFirewallRule}
    (h : db.save? rules = some db') : db'.rules = rules := by
  unfold save? at h
  split at h
  case isTrue => exact Option.some.inj h ▸ rfl
  case isFalse => cases h

/-- A write of columns that no constraint is about is valid. -/
theorem valid_modify (db : FirewallDb) (k : ℕ) {f : OPNsenseFirewallRule → OPNsenseFirewallRule}
    (huuid : ∀ rule, (f rule).uuid = rule.uuid)
    (hfits : ∀ rule, (f rule).fits db.tenants = rule.fits db.tenants) :
    ValidRules db.tenants (db.rules.modify k f) := by
  have hrow : ∀ {i rule'}, (db.rules.modify k f).get? i = some rule' →
      ∃ rule, db.rules.get? i = some rule ∧ rule'.uuid = rule.uuid ∧
        rule'.fits db.tenants = rule.fits db.tenants := by
    intro i rule' hget
    rw [Serial.get?_modify] at hget
    split at hget
    case isTrue heq =>
      obtain ⟨rule, hrule, rfl⟩ := Option.map_eq_some_iff.mp hget
      exact ⟨rule, heq ▸ hrule, huuid rule, hfits rule⟩
    case isFalse => exact ⟨rule', hget, rfl, rfl⟩
  refine validRules_iff.mpr ⟨fun i j rule rule' hi hj heq => ?_, fun i rule hi => ?_⟩
  · obtain ⟨old, hold, hsame, -⟩ := hrow hi
    obtain ⟨old', hold', hsame', -⟩ := hrow hj
    exact db.eq_of_uuid hold hold' (hsame.symm.trans (heq.trans hsame'))
  · obtain ⟨old, hold, -, hsame⟩ := hrow hi
    rw [hsame]
    exact db.fits_of_get? hold

/-- Delete the rules that satisfy a condition. -/
def deleteWhere (db : FirewallDb) (p : ℕ → OPNsenseFirewallRule → Bool) : FirewallDb where
  tenants := db.tenants
  rules := db.rules.deleteWhere p
  valid :=
    ⟨db.valid.1.sublist (List.filter_sublist.map _), fun r hr =>
      db.valid.2 r (List.mem_of_mem_filter hr)⟩

/-- What a valid write leaves. -/
theorem save?_of_valid {db : FirewallDb} {rules : Serial OPNsenseFirewallRule}
    (h : ValidRules db.tenants rules) : db.save? rules = some ⟨db.tenants, rules, h⟩ := dif_pos h

/-- An invalid write raises. -/
theorem save?_of_not_valid {db : FirewallDb} {rules : Serial OPNsenseFirewallRule}
    (h : ¬ ValidRules db.tenants rules) : db.save? rules = none := dif_neg h

end FirewallDb

/-- The fields of a request body that concern the columns of a rule. A field that is present may
be `null`. -/
structure RuleBody where
  /-- The uuid. -/
  uuid : Option (Option String)
  /-- The tenant. -/
  tenantId : Option (Option ℕ)
  /-- The sequence. -/
  sequence : Option (Option ℤ)
  /-- The text columns. -/
  text : RuleField → Option (Option String)
  deriving DecidableEq

/-- The next sequence, by the number of the tenant's rules. -/
def nextSequence (db : FirewallDb) (tenantId : ℕ) : ℤ :=
  ((db.rules.select fun _ rule => rule.tenantId = tenantId).length + 1) * 100

/-- `create_rule`, for a user who may create rules. A sequence of zero counts as absent; `token` is
a random text of 24 hexadecimal digits. -/
def createRule (db : FirewallDb) (tenantId : ℕ) (data : RuleBody) (token : String) :
    Except ApiError FirewallDb :=
  let sequence := (data.sequence.join.filter (· ≠ 0)).getD (nextSequence db tenantId)
  Except.ofOption integrityError <| db.save? <| db.rules.add
    { tenantId
      uuid := "pending-" ++ token
      content :=
        { sequence := some sequence
          text := fun field =>
            let value := (data.text field).getD (some field.default)
            -- A flag that is `null` is inserted with the default of its column.
            if field.isFlag then some (value.getD field.default) else value }
      applyStatus := .pending
      applyError := none }

/-- The error of an endpoint that finds no rule. -/
def ruleNotFound : ApiError :=
  .http 404 "Rule not found — it may have been deleted in another session."

/-- The rule of a tenant with a uuid. -/
def findRule (db : FirewallDb) (tenantId : ℕ) (uuid : String) : Option (ℕ × OPNsenseFirewallRule) :=
  db.rules.first? fun _ rule => rule.tenantId = tenantId ∧ rule.uuid = uuid

/-- Assign the fields of a body to the attributes of the same names. The uuid and the tenant cannot
be `null`. -/
def OPNsenseFirewallRule.assign (data : RuleBody) (rule : OPNsenseFirewallRule) :
    Option OPNsenseFirewallRule := do
  let uuid ← data.uuid.getD (some rule.uuid)
  let tenantId ← data.tenantId.getD (some rule.tenantId)
  return { rule with
    uuid
    tenantId
    content :=
      { sequence := data.sequence.getD rule.content.sequence
        text := fun field => (data.text field).getD (rule.content.text field) } }

/-- `update_rule`, for a user who may create rules. -/
def updateRule (db : FirewallDb) (tenantId : ℕ) (uuid : String) (data : RuleBody) :
    Except ApiError FirewallDb := do
  let (id, rule) ← Except.ofOption ruleNotFound (findRule db tenantId uuid)
  let assigned ← Except.ofOption integrityError (rule.assign data)
  Except.ofOption integrityError <| db.save? <| db.rules.modify id fun _ =>
    { assigned with applyStatus := .pending, applyError := none }

/-- `delete_rule`, for a user who may delete rules. -/
def deleteRule (db : FirewallDb) (tenantId : ℕ) (uuid : String) : Except ApiError FirewallDb := do
  let (id, _) ← Except.ofOption ruleNotFound (findRule db tenantId uuid)
  Except.ofOption integrityError <| db.save? <| db.rules.modify id fun rule =>
    { rule with applyStatus := .pendingDelete }

/-- `toggle_rule`, for a user who may create rules. -/
def toggleRule (db : FirewallDb) (tenantId : ℕ) (uuid : String) : Except ApiError FirewallDb := do
  let (id, rule) ← Except.ofOption (.http 404 "Rule not found") (findRule db tenantId uuid)
  let enabled := if rule.content.text .enabled = some "1" then "0" else "1"
  Except.ofOption integrityError <| db.save? <| db.rules.modify id fun rule =>
    { rule with
      content :=
        { rule.content with text := Function.update rule.content.text .enabled (some enabled) }
      applyStatus := .pending }

/-- Whether a rule comes before another one in the order by sequence; rules without a sequence
come last. -/
def sequenceLe (a b : ℕ × OPNsenseFirewallRule) : Bool :=
  match a.2.content.sequence, b.2.content.sequence with
  | some m, some n => m ≤ n
  | none, some _ => false
  | _, none => true

/-- The rules of a tenant in the order by sequence. Rules with the same sequence are in storage
order. -/
def rulesBySequence (db : FirewallDb) (tenantId : ℕ) : List (ℕ × OPNsenseFirewallRule) :=
  (db.rules.select fun _ rule => rule.tenantId = tenantId).insertionSort fun a b =>
    sequenceLe a b = true

/-- Exchange the sequences of two rules and mark both. -/
def swapRules (db : FirewallDb) (a b : ℕ × OPNsenseFirewallRule) : Except ApiError FirewallDb :=
  let mark sequence (rule : OPNsenseFirewallRule) :=
    { rule with content := { rule.content with sequence }, applyStatus := .pending }
  Except.ofOption integrityError <| db.save? <|
    (db.rules.modify a.1 (mark b.2.content.sequence)).modify b.1 (mark a.2.content.sequence)

/-- `move_rule_up`, for a user who may create rules. -/
def moveRuleUp (db : FirewallDb) (tenantId : ℕ) (uuid : String) : Except ApiError FirewallDb := do
  let rules := rulesBySequence db tenantId
  Except.require (.http 404 "Rule not found") (rules.any (·.2.uuid = uuid) = true)
  let (above, rule) ← Except.ofOption (.http 400 "Rule is already at the top")
    ((rules.zip rules.tail).find? fun (_, rule) => rule.2.uuid = uuid)
  swapRules db rule above

/-- `move_rule_down`, for a user who may create rules. -/
def moveRuleDown (db : FirewallDb) (tenantId : ℕ) (uuid : String) :
    Except ApiError FirewallDb := do
  let rules := rulesBySequence db tenantId
  Except.require (.http 404 "Rule not found") (rules.any (·.2.uuid = uuid) = true)
  let (rule, below) ← Except.ofOption (.http 400 "Rule is already at the bottom")
    ((rules.zip rules.tail).find? fun (rule, _) => rule.2.uuid = uuid)
  swapRules db rule below

end ProxmoxIaas
