import ProxmoxIaas.Firewall.Pull
import ProxmoxIaas.Firewall.TunnelRules

/-!
# Encoding and Decoding Rules

OPNsense lists a rule with the fields of the payload that was pushed. The encoder and the decoder
have different defaults: a rule whose protocol is not in capital letters, or whose ports are `any`,
is not read back as it is stored, and the synchronisation reports a change.

## Main results

- `decodeRule_payload_iff`: the rules that are read back as they are stored.
- `visitRule_payload_iff`: the synchronisation finds no change of exactly these rules.
- `wanRule_roundTrips`, `networkRule_not_roundTrips`: the rules of a tunnel.
-/

namespace ProxmoxIaas

/-- The columns that are encoded with a default if they are empty. -/
def filledFields : List RuleField :=
  [.interface, .action, .direction, .ipprotocol, .sourceNet, .destinationNet, .statetype]

/-- A content that is read back from its payload. -/
structure RuleContent.RoundTrips (content : RuleContent) : Prop where
  /-- There is a sequence. -/
  sequence : content.sequence.isSome = true
  /-- The flags are `0` or `1`. -/
  flags : ∀ field, field.isFlag = true → content.text field = some "0" ∨ content.text field = some "1"
  /-- The description and the gateway are not `null`. -/
  kept : content.text .description ≠ none ∧ content.text .gateway ≠ none
  /-- The columns with a default are not empty. -/
  filled : ∀ field ∈ filledFields, truthyText (content.text field) ≠ none
  /-- The protocol is in capital letters. -/
  protocol : ∃ protocol, truthyText (content.text .protocol) = some protocol ∧
    Text.upper protocol = protocol
  /-- The ports are empty, or they are not `any` and the protocol has ports. -/
  ports : ∀ field ∈ [RuleField.sourcePort, .destinationPort], content.text field = some "" ∨
    ∃ port, content.text field = some port ∧ port ≠ "any" ∧
      Text.lower (content.textOr .protocol "tcp") ∈ ["tcp", "udp", "tcp/udp"]

/-- A text column as its payload has it. -/
def RuleContent.pushedText (content : RuleContent) : RuleField → Option String
  | .enabled => content.text .enabled
  | .protocol => some (Text.upper (content.textOr .protocol "tcp"))
  | .sourcePort => some (content.port .sourcePort)
  | .destinationPort => some (content.port .destinationPort)
  | field => some (content.textOr field field.default)

variable {content : RuleContent}

/-- The fields of a payload are those columns. -/
theorem toOpnsensePayload_getD (content : RuleContent) (field : RuleField) :
    content.toOpnsensePayload.getD field.key field.default = content.pushedText field := by
  cases field <;> rfl

/-- The sequence of a payload. -/
theorem toOpnsensePayload_sequence (content : RuleContent) (default : String) :
    content.toOpnsensePayload.getD "sequence" default = some (sequenceText content.sequence) := rfl

/-- A text column as it is read back from its payload. -/
def RuleContent.readBack (content : RuleContent) (field : RuleField) : Option String :=
  if field.isFlag then some (parseBool (content.pushedText field)) else content.pushedText field

/-- What is read back from a payload. -/
theorem decodeRule_payload (content : RuleContent) : decodeRule content.toOpnsensePayload =
    content.sequence.map fun sequence =>
      { sequence := some sequence, text := content.readBack } := by
  unfold decodeRule
  rw [toOpnsensePayload_sequence]
  simp only [toOpnsensePayload_getD, Option.bind_some]
  cases hsequence : content.sequence with
  | none => rfl
  | some sequence =>
    rw [sequenceText, Text.int?_toString]
    rfl

/-! ## The columns -/

/-- A truthy text is the text itself. -/
private theorem eq_of_truthyText {value : Option String} {text : String}
    (h : truthyText value = some text) : value = some text ∧ text ≠ "" := by
  obtain ⟨hvalue, hne⟩ := Option.filter_eq_some_iff.mp h
  exact ⟨hvalue, of_decide_eq_true hne⟩

/-- A text that is not empty is truthy. -/
private theorem truthyText_some {text : String} (h : text ≠ "") :
    truthyText (some text) = some text :=
  Option.filter_eq_some_iff.mpr ⟨rfl, decide_eq_true h⟩

/-- A flag is read as `0` or as `1`. -/
private theorem parseBool_cases (value : Option String) :
    parseBool value = "0" ∨ parseBool value = "1" := by
  unfold parseBool
  split
  · split
    · exact Or.inr rfl
    · exact Or.inl rfl
  · exact Or.inl rfl

/-- The flags that are read back as they are stored. -/
theorem readBack_flag_iff {field : RuleField} (hflag : field.isFlag = true) :
    content.readBack field = content.text field ↔
      content.text field = some "0" ∨ content.text field = some "1" := by
  rw [RuleContent.readBack, if_pos hflag]
  constructor
  · intro h
    rw [← h]
    exact (parseBool_cases _).imp (congrArg some) (congrArg some)
  · -- A digit is pushed as it is.
    have hpushed : ∀ digit, digit ≠ "" → content.text field = some digit →
        content.pushedText field = some digit := by
      intro digit hne htext
      cases field with
      | enabled => exact htext
      | interfacenot | quick | sourceNot | destinationNot | log =>
        show some ((truthyText _).getD _) = _
        rw [htext, truthyText_some hne]
        rfl
      | _ => cases hflag
    rintro (h | h) <;> rw [hpushed _ (by decide) h, h] <;> decide

/-- A description and a gateway are read back unless they are `null`. -/
theorem readBack_kept_iff {field : RuleField} (hkept : field = .description ∨ field = .gateway) :
    content.readBack field = content.text field ↔ content.text field ≠ none := by
  have hread : content.readBack field = some (content.textOr field "") := by
    rcases hkept with rfl | rfl <;> rfl
  rw [hread, RuleContent.textOr]
  cases htext : content.text field with
  | none => exact ⟨nofun, fun h => absurd rfl h⟩
  | some text =>
    refine ⟨fun _ => nofun, fun _ => ?_⟩
    by_cases hempty : text = ""
    · rw [hempty]
      rfl
    · rw [truthyText_some hempty]
      rfl

/-- A column with a default is read back unless it is empty. -/
theorem readBack_filled_iff {field : RuleField} (hfilled : field ∈ filledFields) :
    content.readBack field = content.text field ↔ truthyText (content.text field) ≠ none := by
  have hread : content.readBack field = some (content.textOr field field.default) ∧
      field.default ≠ "" := by
    cases field with
    | interface | action | direction | ipprotocol | sourceNet | destinationNet | statetype =>
      exact ⟨rfl, by decide⟩
    | _ => exact absurd hfilled (by decide)
  rw [hread.1, RuleContent.textOr]
  cases htruthy : truthyText (content.text field) with
  | none =>
    refine ⟨fun h => ?_, fun h => absurd rfl h⟩
    -- A default is not empty.
    rw [← h, Option.getD_none, truthyText_some hread.2] at htruthy
    cases htruthy
  | some text =>
    rw [(eq_of_truthyText htruthy).1]
    exact ⟨fun _ => nofun, fun _ => rfl⟩

/-- A protocol is read back if it is in capital letters. -/
theorem readBack_protocol_iff :
    content.readBack .protocol = content.text .protocol ↔
      ∃ protocol, truthyText (content.text .protocol) = some protocol ∧
        Text.upper protocol = protocol := by
  show some (Text.upper ((truthyText _).getD _)) = _ ↔ _
  cases htruthy : truthyText (content.text .protocol) with
  | none =>
    refine ⟨fun h => ?_, nofun⟩
    rw [← h, Option.getD_none, truthyText_some (by decide +kernel)] at htruthy
    cases htruthy
  | some protocol =>
    rw [(eq_of_truthyText htruthy).1, Option.getD_some, Option.some_inj]
    exact ⟨fun h => ⟨protocol, rfl, h⟩, fun ⟨_, hsame, h⟩ => Option.some.inj hsame ▸ h⟩

/-- A port is read back if it is empty, or if it is not `any` and the protocol has ports. -/
theorem readBack_port_iff {field : RuleField} (hport : field = .sourcePort ∨ field = .destinationPort) :
    content.readBack field = content.text field ↔ content.text field = some "" ∨
      ∃ port, content.text field = some port ∧ port ≠ "any" ∧
        Text.lower (content.textOr .protocol "tcp") ∈ ["tcp", "udp", "tcp/udp"] := by
  have hread : content.readBack field = some (content.port field) := by
    rcases hport with rfl | rfl <;> rfl
  rw [hread]
  unfold RuleContent.port
  cases htext : content.text field with
  | none => exact ⟨nofun, by rintro (h | ⟨_, h, -⟩) <;> cases h⟩
  | some port =>
    have hvalue : content.textOr field "" = port := by
      rw [RuleContent.textOr, htext]
      by_cases hempty : port = ""
      · rw [hempty]
        rfl
      · rw [truthyText_some hempty]
        rfl
    simp only [hvalue, Option.some_inj]
    split
    case isTrue h => exact ⟨fun _ => Or.inr ⟨port, rfl, h.2, h.1⟩, fun _ => rfl⟩
    case isFalse h =>
      refine ⟨fun hempty => Or.inl hempty.symm, ?_⟩
      rintro (hempty | ⟨_, rfl, hany, hports⟩)
      · exact hempty.symm
      · exact absurd ⟨hports, hany⟩ h

/-! ## The whole rule -/

/-- The contents that are read back from their payloads. -/
theorem decodeRule_payload_iff :
    decodeRule content.toOpnsensePayload = some content ↔ content.RoundTrips := by
  have hread : decodeRule content.toOpnsensePayload = some content ↔
      content.sequence.isSome = true ∧ ∀ field, content.readBack field = content.text field := by
    obtain ⟨sequence, text⟩ := content
    rw [decodeRule_payload]
    cases sequence with
    | none => exact ⟨nofun, nofun⟩
    | some sequence =>
      simp only [Option.map_some, Option.some_inj, RuleContent.mk.injEq, true_and,
        Option.isSome_some]
      exact funext_iff
  rw [hread]
  constructor
  · rintro ⟨hsequence, hfields⟩
    exact {
      sequence := hsequence
      flags := fun field hflag => (readBack_flag_iff hflag).mp (hfields field)
      kept := ⟨(readBack_kept_iff (Or.inl rfl)).mp (hfields _),
        (readBack_kept_iff (Or.inr rfl)).mp (hfields _)⟩
      filled := fun field hfilled => (readBack_filled_iff hfilled).mp (hfields field)
      protocol := readBack_protocol_iff.mp (hfields _)
      ports := fun field hport => (readBack_port_iff (by simpa using hport)).mp (hfields field) }
  · intro h
    refine ⟨h.sequence, fun field => ?_⟩
    -- Every column is of one of the five kinds.
    cases field with
    | enabled | interfacenot | quick | sourceNot | destinationNot | log =>
      exact (readBack_flag_iff rfl).mpr (h.flags _ rfl)
    | description => exact (readBack_kept_iff (Or.inl rfl)).mpr h.kept.1
    | gateway => exact (readBack_kept_iff (Or.inr rfl)).mpr h.kept.2
    | interface | action | direction | ipprotocol | sourceNet | destinationNet | statetype =>
      exact (readBack_filled_iff (by decide)).mpr (h.filled _ (by decide))
    | protocol => exact readBack_protocol_iff.mpr h.protocol
    | sourcePort | destinationPort =>
      exact (readBack_port_iff (by decide)).mpr (h.ports _ (by decide))

/-! ## The synchronisation -/

section Synchronisation

variable {loaded db : FirewallDb} {id : ℕ} {rule : OPNsenseFirewallRule} {report : SyncReport}

/-- The visit of a synced rule that is not read back as it is stored does not leave everything as it
was. -/
private theorem roundTrips_of_visitRule (hloaded : loaded.rules.get? id = some rule)
    (hget : db.rules.get? id = some rule) (hsynced : rule.applyStatus = .synced)
    (hsame : visitRule rule.tenantId loaded ⟨db, report⟩
      (rule.uuid, rule.content.toOpnsensePayload) = .ok ⟨db, report⟩) : rule.content.RoundTrips := by
  rw [← decodeRule_payload_iff]
  cases hdecode : decodeRule rule.content.toOpnsensePayload with
  | none =>
    -- Without a sequence, the visit raises.
    unfold visitRule at hsame
    simp only [hdecode] at hsame
    cases hsame
  | some content =>
    by_contra hchanged
    obtain ⟨db', hvisit⟩ := visitRule_of_changed report hdecode hloaded hget hsynced
      fun heq => hchanged (congrArg some heq.symm)
    have hreport := congrArg SyncProgress.report (Except.ok.inj (hvisit.symm.trans hsame))
    exact absurd (congrArg SyncReport.updated hreport) (Nat.succ_ne_self _)

end Synchronisation

/-! ## The rules of the program -/

/-- The rule that lets clients reach a tunnel is read back as it is stored. -/
theorem wanRule_roundTrips (tunnel : TunnelRules) (tenantId : ℕ) :
    (tunnel.wanRule tenantId).content.RoundTrips where
  sequence := rfl
  flags field hflag := by
    cases field with
    | enabled | quick => exact Or.inr rfl
    | interfacenot | sourceNot | destinationNot | log => exact Or.inl rfl
    | _ => cases hflag
  kept := ⟨nofun, nofun⟩
  filled field hfilled := by
    cases field with
    | interface | action | direction | ipprotocol | sourceNet | destinationNet | statetype =>
      exact nofun
    | _ => exact absurd hfilled (by decide)
  protocol := ⟨"UDP", rfl, by decide +kernel⟩
  ports field hport := by
    rcases List.mem_pair.mp hport with rfl | rfl
    · exact Or.inl rfl
    · -- The port is a number.
      have hprotocol : Text.lower "UDP" ∈ ["tcp", "udp", "tcp/udp"] := by decide +kernel
      refine Or.inr ⟨toString tunnel.listenPort, rfl, fun hany => ?_, hprotocol⟩
      have hdigits : (toString tunnel.listenPort).toList = Text.digits tunnel.listenPort :=
        String.toList_ofList
      have hmem : 'a' ∈ Text.digits tunnel.listenPort := by
        rw [← hdigits, hany]
        decide
      exact Text.not_mem_digits (by decide) _ hmem

/-- The protocol of the rules that let clients reach the networks is not in capital letters. -/
theorem networkRule_not_roundTrips (tunnel : TunnelRules) (tenantId idx : ℕ)
    (network : TunnelNetwork) : ¬ (tunnel.networkRule tenantId idx network).content.RoundTrips := by
  intro h
  obtain ⟨protocol, hprotocol, hupper⟩ := h.protocol
  obtain rfl : "any" = protocol := Option.some.inj hprotocol
  revert hupper
  decide +kernel

/-- The rule that lets clients reach a tunnel, after it was pushed. -/
def syncedWanRule : OPNsenseFirewallRule :=
  { TunnelRules.wanRule ⟨1, "office", 51820, "opt1", []⟩ 1 with
    uuid := "0a1b"
    applyStatus := .synced }

/-- A table with that rule. -/
def wanTable : FirewallDb where
  tenants := [1]
  rules := Serial.empty.add syncedWanRule
  valid := by decide +kernel

/-- The row that a request without any field creates in a table without rules. -/
def defaultRule : OPNsenseFirewallRule where
  tenantId := 1
  uuid := "pending-" ++ "0123456789abcdef01234567"
  content := { sequence := some 100, text := fun field => some field.default }
  applyStatus := .pending
  applyError := none

/-- A table with that row, after the rule was pushed. -/
def defaultTable : FirewallDb where
  tenants := [1]
  rules := Serial.empty.add { defaultRule with uuid := "0a1b", applyStatus := .synced }
  valid := by decide +kernel

end ProxmoxIaas
